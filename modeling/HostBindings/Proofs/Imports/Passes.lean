import HostBindings.Proofs.Runs.Sections
import HostBindings.Proofs.Imports.Names

/-!
# The imports of a pass

A pass imports the host package for the type expressions that it writes, and for nothing else. Each
action that makes a part of a declaration may import it for the types in that part; writing a
declaration imports nothing. So after each declaration the imports are those that the declarations
so far need.

## Main definitions

* `Code.Declaration.typeTexts`, `Code.typeTextsOf` — the type expressions of declarations
* `Generator.IsConfigured` — a generator that settings with a host package make
* `Generator.Uses` — what making a part of a declaration does to the imports
* `Generator.ImportsFor` — the imports that declarations need

## Main results

* `Generator.uses_structureOf`, `Generator.uses_pendingDeclaration` — one declaration
* `Generator.importsFor_emission` — a whole pass
-/

namespace HostBindings

open Api (Block)

/-! ### Type expressions -/

namespace Code

/-- The types of the parameters and of the result. -/
def Signature.typeTexts (signature : Signature) : List String :=
  signature.slots.map (·.type.text)

/-- The type of a field, or those of its parameters and its result. -/
def FieldType.typeTexts : FieldType → List String
  | value type => [type.text]
  | function signature => signature.typeTexts

/-- The type expressions that a declaration is written with: those of the handle, of fields, of
parameters and of results, and the base type of an enumeration. -/
def Declaration.typeTexts : Declaration → List String
  | events .. => []
  | composite _ _ handle fields => handle.type.text :: fields.flatMap (·.type.typeTexts)
  | enumeration _ _ base _ => [base.text]
  | function _ _ signature => signature.typeTexts

/-- The type expressions that declarations are written with. -/
def typeTextsOf (declarations : List Declaration) : List String :=
  declarations.flatMap (·.typeTexts)

theorem typeTextsOf_append (declarations more : List Declaration) :
    typeTextsOf (declarations ++ more) = typeTextsOf declarations ++ typeTextsOf more :=
  List.flatMap_append

end Code

namespace Generator

variable {generator : Generator} {p q r : Pass} {α β : Type}

/-- A generator that settings make with an import of the host package. -/
structure IsConfigured (generator : Generator) : Prop where
  /-- There is a path to import. -/
  host : generator.types.hostImport.truthy = true
  /-- The types are accepted. -/
  accepted : generator.types.Accepted
  /-- The names have no points in them. -/
  undotted : generator.IsUndotted
  /-- The templates are those of the language. -/
  templates : generator.templates = .builtin

theorem isConfigured_ofSettings {settings : Settings}
    (configured : Generator.ofSettings settings = .ok generator)
    (host : generator.types.hostImport.truthy = true) : generator.IsConfigured := by
  refine ⟨host, ?_, isUndotted_ofSettings configured, templates_ofSettings configured⟩
  obtain ⟨_, _, -, accepted, rfl⟩ := ofSettings_eq_ok.mp configured
  exact TypeSettings.accepted_ofSettings accepted

/-! ### Parts of a declaration -/

/-- A pass whose nested names have no points in them, and that imports nothing but the host
package. -/
structure IsPlain (generator : Generator) (pass : Pass) : Prop where
  /-- The imports. -/
  only : generator.HostOnly pass.sink.imports
  /-- The stem of the block. -/
  stem : Undotted pass.scope.stem
  /-- The names that shapes share. -/
  shapes : ∀ entry ∈ pass.scope.shapes, Undotted entry.2
  /-- The names that were given to nodes. -/
  given : ∀ entry ∈ pass.scope.given, Undotted entry.2

/-- Making a part of a declaration imports the host package for the type expressions in it. -/
structure Uses (generator : Generator) (p q : Pass) (texts : List String) : Prop where
  /-- The pass stays plain. -/
  plain : generator.IsPlain q
  /-- The declarations stay. -/
  declarations : q.sink.declarations = p.sink.declarations
  /-- An import stays. -/
  kept : generator.types.hostImport ∈ p.sink.imports → generator.types.hostImport ∈ q.sink.imports
  /-- No import goes unused. -/
  used : generator.types.hostImport ∈ q.sink.imports →
    generator.types.hostImport ∈ p.sink.imports ∨ ∃ text ∈ texts, MentionsHost text
  /-- No import is missing for a mention that is found. -/
  needed : ∀ text ∈ texts, generator.types.Detects text →
    generator.types.hostImport ∈ q.sink.imports

namespace Uses

variable {texts more : List String}

/-- A step that changes neither nested names nor text. -/
theorem of_same (plain : generator.IsPlain p) (stem : q.scope.stem = p.scope.stem)
    (shapes : q.scope.shapes = p.scope.shapes) (given : q.scope.given = p.scope.given)
    (sink : q.sink = p.sink) : generator.Uses p q [] where
  plain := ⟨sink ▸ plain.only, stem ▸ plain.stem, shapes ▸ plain.shapes, given ▸ plain.given⟩
  declarations := by rw [sink]
  kept imported := sink ▸ imported
  used imported := .inl (sink ▸ imported)
  needed := by simp

theorem refl (plain : generator.IsPlain p) : generator.Uses p p [] :=
  of_same plain rfl rfl rfl rfl

/-- One part after another. -/
theorem trans (first : generator.Uses p q texts) (second : generator.Uses q r more) :
    generator.Uses p r (texts ++ more) where
  plain := second.plain
  declarations := second.declarations.trans first.declarations
  kept := second.kept ∘ first.kept
  used imported := by
    rcases second.used imported with earlier | ⟨text, member, mentions⟩
    · exact (first.used earlier).imp_right fun ⟨text, member, mentions⟩ =>
        ⟨text, List.mem_append_left _ member, mentions⟩
    · exact .inr ⟨text, List.mem_append_right _ member, mentions⟩
  needed text member detects := by
    rcases List.mem_append.mp member with early | late
    · exact second.kept (first.needed text early detects)
    · exact second.needed text late detects

/-- A type expression in which no mention is found needs nothing. -/
theorem silent {text : String} (uses : generator.Uses p q [])
    (silent : ¬ generator.types.Detects text) : generator.Uses p q [text] where
  plain := uses.plain
  declarations := uses.declarations
  kept := uses.kept
  used imported := (uses.used imported).imp_right (by simp)
  needed _ member detects := absurd (List.mem_singleton.mp member ▸ detects) silent

end Uses

/-! ### Actions -/

section Actions

variable (plain : generator.IsPlain p)

include plain

theorem uses_claim {candidate name : String}
    (run : Emit.Runs (Emit.claim candidate) p name q) :
    name = freshName p.scope.names candidate ∧ generator.Uses p q [] := by
  obtain ⟨rfl, rfl⟩ := Emit.runs_claim.mp run
  exact ⟨rfl, .of_same plain rfl rfl rfl rfl⟩

/-- What the names below an owner begin with has no points in it. -/
theorem undotted_scopeFor (undotted : generator.IsUndotted) {parent : Option Entity}
    {lead : String} (found : p.scope.scopeFor generator.symbol parent = .ok lead) :
    Undotted lead := by
  rcases Scope.scopeFor_cases found with rfl | ⟨entry, member, rfl⟩ | ⟨owner, symbol, spelt, rfl⟩
  · exact plain.stem
  · exact plain.given entry member
  · exact plain.stem.append (undotted.symbol _ _ spelt)

/-- A nested entity has a name without points, whether or not it is a new one. -/
theorem uses_register (undotted : generator.IsUndotted) {kind : PendingKind} {node : PropertyNode}
    {parent : Option Entity} {name : String}
    (run : Emit.Runs (Emit.register generator kind node parent) p name q) :
    Undotted name ∧ generator.Uses p q [] := by
  cases run ▸ Emit.registers generator kind node parent p with
  | shares log spelt found =>
    exact ⟨plain.shapes _ (mem_of_lookup_eq_some found), .of_same plain rfl rfl rfl rfl⟩
  | gives log spelt new led claimed =>
    have fresh : Undotted name := claimed ▸ ((undotted_scopeFor plain undotted led).append
      (undotted.symbol _ _ spelt)).freshName _
    -- the imports stay, and the new name is the only one to be looked at
    refine ⟨fresh, ⟨plain.only, plain.stem, ?_, ?_⟩, rfl, fun old => old, .inl, by simp⟩
    · intro entry member
      rcases List.mem_append.mp member with old | new
      · exact plain.shapes entry old
      · rwa [List.mem_singleton.mp new]
    · intro entry member
      rcases List.mem_cons.mp member with rfl | old
      · exact fresh
      · exact plain.given entry old

end Actions

theorem HostOnly.mem_iff {imports : List Json} (only : generator.HostOnly imports) :
    generator.types.hostImport ∈ imports ↔ imports = [generator.types.hostImport] := by
  rcases only with rfl | rfl <;> simp

/-- What imports the host package does so after it has. -/
theorem HostOnly.mem_add {imports : List Json} (only : generator.HostOnly imports) :
    generator.types.hostImport ∈ Json.addOnce imports generator.types.hostImport := by
  rcases only with rfl | rfl <;> simp [Json.addOnce, Json.isAmong]

/-! ### Types -/

section Parts

variable (configured : generator.IsConfigured) (plain : generator.IsPlain p)

include configured plain

theorem eq_of_requireImport {u : PUnit}
    (run : Emit.Runs (Emit.requireImport generator.types.hostImport) p u q) :
    q = { p with sink := p.sink.addImport generator.types.hostImport } := by
  rw [Emit.requireImport, if_pos configured.host] at run
  simp only [Emit.runs_bind, Emit.runs_setting, Emit.runs_modify] at run
  obtain ⟨path, _, ⟨hashed, rfl⟩, rfl⟩ := run
  rw [hashed_eq_ok hashed]

/-- A type is imported for what its expression mentions. -/
theorem uses_useType {type : BindingType} {u : PUnit} (brings : generator.types.Brings type)
    (run : Emit.Runs (useType type) p u q) : generator.Uses p q [type.name.text] := by
  rcases brings.only with none | host
  · rw [useType, none] at run
    obtain ⟨-, rfl⟩ := Emit.runs_pure.mp run
    refine (Uses.refl plain).silent fun detects => ?_
    simpa [none] using brings.needed detects
  · rw [useType, host] at run
    obtain ⟨m, first, rest⟩ := Emit.runs_forM_cons.mp run
    obtain ⟨-, rfl⟩ := Emit.runs_pure.mp rest
    rw [eq_of_requireImport configured plain first]
    have imported := plain.only.mem_add
    exact {
      plain := ⟨plain.only.add, plain.stem, plain.shapes, plain.given⟩
      declarations := rfl
      kept := fun _ => imported
      used := fun _ => .inr ⟨_, List.mem_singleton_self _, brings.used (by simp [host])⟩
      needed := fun _ _ _ => imported }

/-- The name of a nested declaration mentions nothing. -/
theorem uses_nested {kind : PendingKind} {node : PropertyNode} {parent : Option Entity}
    {name : String} (run : Emit.Runs (Emit.register generator kind node parent) p name q) :
    generator.Uses p q [name] := by
  obtain ⟨undotted, uses⟩ := uses_register plain configured.undotted run
  exact uses.silent fun detects => undotted.not_mentionsHost (.of_upfront detects.upfront)

theorem uses_typeNameOf {node : PropertyNode} {parent : Option Entity} {type : Code.TypeName}
    (run : Emit.Runs (generator.typeNameOf node parent) p type q) :
    generator.Uses p q [type.text] := by
  rcases typeNameOf_cases run with ⟨_, name, register, rfl⟩ | ⟨basic, -, -, found, used, rfl⟩
  · exact uses_nested configured plain register
  · have brings := TypeSettings.brings_basicType configured.host configured.accepted found
    exact uses_useType configured plain brings used

/-! ### Fields -/

theorem uses_slotOf {node : PropertyNode} {parent : Option Entity} {slot : Code.Slot}
    (run : Emit.Runs (generator.slotOf node parent) p slot q) :
    generator.Uses p q [slot.type.text] := by
  simp only [slotOf, Emit.runs_bind, Emit.runs_setting, Emit.runs_pure] at run
  obtain ⟨_, _, ⟨-, rfl⟩, type, _, typed, rfl, rfl⟩ := run
  exact uses_typeNameOf configured plain typed

omit configured in
/-- A list gone through item by item uses what its items use. -/
theorem uses_mapM {action : α → Emit β} (textsOf : β → List String)
    (each : ∀ {a p b q}, generator.IsPlain p → Emit.Runs (action a) p b q →
      generator.Uses p q (textsOf b))
    {items : List α} {results : List β} (run : Emit.Runs (items.mapM action) p results q) :
    generator.Uses p q (results.flatMap textsOf) := by
  induction items generalizing p results with
  | nil =>
    obtain ⟨rfl, rfl⟩ := Emit.runs_pure.mp (by simpa using run)
    exact .refl plain
  | cons item rest ih =>
    obtain ⟨result, m, others, first, last, rfl⟩ := Emit.runs_mapM_cons.mp run
    have uses := each plain first
    exact uses.trans (ih uses.plain last)

omit configured in
theorem uses_mapM_nil {action : α → Emit β}
    (each : ∀ {a p b q}, generator.IsPlain p → Emit.Runs (action a) p b q →
      generator.Uses p q [])
    {items : List α} {results : List β} (run : Emit.Runs (items.mapM action) p results q) :
    generator.Uses p q [] := by
  have uses := uses_mapM plain (fun _ => []) each run
  rwa [List.flatMap_eq_nil_iff.mpr fun _ _ => rfl] at uses

theorem uses_signatureOf {owner : Entity} {parameters : List PropertyNode}
    {result? : Option PropertyNode} {signature : Code.Signature}
    (run : Emit.Runs (generator.signatureOf owner parameters result?) p signature q) :
    generator.Uses p q signature.typeTexts := by
  simp only [signatureOf, Emit.runs_bind] at run
  obtain ⟨slots, m, slotted, run⟩ := run
  have uses := uses_mapM plain (fun slot : Code.Slot => [slot.type.text])
    (fun plain => uses_slotOf configured plain) slotted
  rw [← List.map_eq_flatMap] at uses
  cases result? with
  | none =>
    obtain ⟨rfl, rfl⟩ := Emit.runs_pure.mp run
    simpa [Code.Signature.typeTexts, Code.Signature.slots] using uses
  | some node =>
    simp only [Emit.runs_bind, Emit.runs_pure] at run
    obtain ⟨result, _, last, rfl, rfl⟩ := run
    have all := uses.trans (uses_slotOf configured uses.plain last)
    simpa [Code.Signature.typeTexts, Code.Signature.slots] using all

theorem uses_fieldOf {parent : Entity} {node : PropertyNode} {field : Code.Field}
    (run : Emit.Runs (generator.fieldOf parent node) p field q) :
    generator.Uses p q field.type.typeTexts := by
  simp only [fieldOf, Emit.runs_bind, Emit.runs_pure] at run
  obtain ⟨slot, _, slotted, rfl, rfl⟩ := run
  exact uses_slotOf configured plain slotted

theorem uses_methodFieldOf {parent : Entity} {node : MethodNode} {field : Code.Field}
    (run : Emit.Runs (generator.methodFieldOf parent node) p field q) :
    generator.Uses p q field.type.typeTexts := by
  simp only [methodFieldOf, methodTypeOf, Emit.runs_bind, Emit.runs_setting,
    Emit.runs_pure] at run
  obtain ⟨_, _, ⟨signature, _, signed, _, _, ⟨-, rfl⟩, rfl, rfl⟩, rfl, rfl⟩ := run
  exact uses_signatureOf configured plain signed

theorem uses_hostHandle {handle : Code.Handle} (run : Emit.Runs generator.hostHandle p handle q) :
    generator.Uses p q [handle.type.text] := by
  simp only [hostHandle, Emit.runs_bind, Emit.runs_setting, Emit.runs_pure] at run
  obtain ⟨type, _, ⟨found, rfl⟩, _, _, used, rfl, rfl⟩ := run
  exact uses_useType configured plain (TypeSettings.brings_hostHandle configured.host found) used

/-- A structure uses its handle and its fields. -/
theorem uses_structureOf {block : Block} {properties : List PropertyNode}
    {methods : List MethodNode} {declaration : Code.Declaration}
    (run : Emit.Runs (generator.structureOf block properties methods) p declaration q) :
    generator.Uses p q declaration.typeTexts := by
  simp only [structureOf, Emit.runs_bind, Emit.runs_get, Emit.runs_pure] at run
  obtain ⟨handle, _, handled, values, _, valued, calls, _, called, _, _, ⟨rfl, rfl⟩, rfl, rfl⟩ :=
    run
  have first := uses_hostHandle configured plain handled
  have second := uses_mapM first.plain (fun field : Code.Field => field.type.typeTexts)
    (fun plain => uses_fieldOf configured plain) valued
  have third := uses_mapM second.plain (fun field : Code.Field => field.type.typeTexts)
    (fun plain => uses_methodFieldOf configured plain) called
  simpa [Code.Declaration.typeTexts] using first.trans (second.trans third)

/-! ### Constants -/

omit configured in
theorem uses_warn {message : String} {u : PUnit} (run : Emit.Runs (Emit.warn message) p u q) :
    generator.Uses p q [] := by
  simp only [Emit.warn, Emit.note, Emit.runs_bind, Emit.runs_get, Emit.runs_modify] at run
  obtain ⟨_, _, ⟨rfl, rfl⟩, _, _, rfl, rfl⟩ := run
  exact .of_same plain rfl rfl rfl rfl

omit configured in
theorem uses_checkEventName {name : String} {u : PUnit}
    (run : Emit.Runs (generator.checkEventName name) p u q) : generator.Uses p q [] := by
  unfold checkEventName at run
  split at run
  · obtain ⟨-, rfl⟩ := Emit.runs_pure.mp run
    exact .refl plain
  · split at run
    · exact absurd run Emit.runs_throw
    · exact uses_warn plain run

omit configured in
theorem uses_checkedConstant {event : Api.Event} {constant : Code.Constant}
    (run : Emit.Runs (generator.checkedConstant event) p constant q) :
    generator.Uses p q [] := by
  obtain ⟨_, m, checked, run⟩ := Emit.runs_bind.mp run
  have uses := uses_checkEventName plain checked
  simp only [eventConstant, Emit.runs_bind, Emit.runs_setting, Emit.runs_get,
    Emit.runs_pure] at run
  obtain ⟨_, _, ⟨-, rfl⟩, _, _, ⟨-, rfl⟩, _, _, ⟨rfl, rfl⟩, _, _, claim, rfl, rfl⟩ := run
  exact uses.trans (uses_claim uses.plain claim).2

omit configured in
/-- The constants of events use no types. -/
theorem uses_eventsDeclaration {events : List Api.Event} {declaration : Code.Declaration}
    (run : Emit.Runs (generator.eventsDeclaration events) p declaration q) :
    generator.Uses p q declaration.typeTexts := by
  simp only [eventsDeclaration, Emit.runs_bind, Emit.runs_get, Emit.runs_pure] at run
  obtain ⟨constants, _, mapped, _, _, ⟨rfl, rfl⟩, rfl, rfl⟩ := run
  exact uses_mapM_nil plain (fun plain => uses_checkedConstant plain) mapped

omit configured in
theorem uses_memberOf {name : String} {quoted : Bool} {value : Api.PossibleValue}
    {constant : Code.Constant}
    (run : Emit.Runs (generator.memberOf name quoted value) p constant q) :
    generator.Uses p q [] := by
  simp only [memberOf, Emit.runs_bind, Emit.runs_setting, Emit.runs_pure] at run
  obtain ⟨_, _, ⟨-, rfl⟩, _, _, claim, rfl, rfl⟩ := run
  exact (uses_claim plain claim).2

/-! ### Nested declarations -/

omit configured plain in
theorem eq_of_agrees_string {text : String} {other : Json}
    (same : (Json.string text).agrees other = true) : other = .string text := by
  cases other <;> simp_all [Json.agrees, Json.sameNumber, Json.extent?]

omit plain in
/-- Nothing is found in a type whose expression agrees with a primitive type. -/
theorem not_detects_of_agrees {type : BindingType} (brings : generator.types.Brings type)
    (primitive : Primitive)
    (same : type.name.agrees (generator.types.primitive primitive) = true) :
    ¬ generator.types.Detects type.name.text := by
  rcases brings.origin with ⟨text, isText⟩ | ⟨other, isPrimitive⟩
  · rw [isText] at same ⊢
    rw [← eq_of_agrees_string same]
    exact configured.accepted.not_detects primitive
  · rw [isPrimitive]
    exact configured.accepted.not_detects other

/-- Nothing is found in the base type of an enumeration. -/
theorem uses_enumBaseType {pending : Pending} {base : Json}
    (run : Emit.Runs (generator.enumBaseType pending) p base q) :
    generator.Uses p q [base.text] := by
  simp only [enumBaseType, Emit.runs_bind, Emit.runs_setting] at run
  obtain ⟨type, _, ⟨found, rfl⟩, run⟩ := run
  have brings := TypeSettings.brings_basicType configured.host configured.accepted found
  have quiet := configured.accepted.not_detects .text
  split at run
  next =>
    obtain ⟨rfl, rfl⟩ := Emit.runs_pure.mp run
    exact (Uses.refl plain).silent quiet
  next fits =>
    obtain ⟨rfl, rfl⟩ := Emit.runs_pure.mp run
    -- the base is the name of the type, which is one of the primitive ones
    refine (Uses.refl plain).silent ?_
    have agreed := not_detects_of_agrees configured brings
    unfold literalType? at fits
    split at fits
    next same => exact agreed .integer same
    next =>
      split at fits
      next same => exact agreed .float same
      next =>
        split at fits
        next same => exact agreed .boolean same
        next => cases fits
  next =>
    simp only [Emit.runs_bind, Emit.runs_pure] at run
    obtain ⟨_, _, warned, rfl, rfl⟩ := run
    exact (uses_warn plain warned).silent quiet

/-- A nested declaration uses the types that it is written with. -/
theorem uses_pendingDeclaration {pending : Pending} {declaration : Code.Declaration}
    (run : Emit.Runs (generator.pendingDeclaration pending) p declaration q) :
    generator.Uses p q declaration.typeTexts := by
  unfold pendingDeclaration at run
  split at run
  · simp only [enumerationOf, Emit.runs_bind, Emit.runs_pure] at run
    obtain ⟨base, _, based, members, _, mapped, rfl, rfl⟩ := run
    have first := uses_enumBaseType configured plain based
    exact first.trans (uses_mapM_nil first.plain (fun plain => uses_memberOf plain) mapped)
  · simp only [functionOf, Emit.runs_bind, Emit.runs_pure] at run
    obtain ⟨signature, _, signed, rfl, rfl⟩ := run
    exact uses_signatureOf configured plain signed
  · exact absurd run Emit.runs_throw
  · simp only [compositeOf, Emit.runs_bind, Emit.runs_pure] at run
    obtain ⟨handle, _, handled, fields, _, mapped, rfl, rfl⟩ := run
    have first := uses_hostHandle configured plain handled
    have second := uses_mapM first.plain (fun field : Code.Field => field.type.typeTexts)
      (fun plain => uses_fieldOf configured plain) mapped
    exact first.trans second

end Parts

/-! ### Whole passes -/

/-- The imports that declarations need: the host package or nothing. It is not imported without a
mention, and not missing where a mention is found. -/
structure ImportsFor (generator : Generator) (declarations : List Code.Declaration)
    (imports : List Json) : Prop where
  /-- Nothing but the host package is imported. -/
  only : generator.HostOnly imports
  /-- No import goes unused. -/
  used : generator.types.hostImport ∈ imports →
    ∃ text ∈ Code.typeTextsOf declarations, MentionsHost text
  /-- No import is missing for a mention that is found. -/
  needed : ∀ text ∈ Code.typeTextsOf declarations, generator.types.Detects text →
    generator.types.hostImport ∈ imports

namespace ImportsFor

variable {declarations more : List Code.Declaration} {imports others : List Json}

theorem nil : generator.ImportsFor [] [] :=
  ⟨.inl rfl, by simp, by simp [Code.typeTextsOf]⟩

/-- Declarations whose types a step uses come after those before the step. -/
theorem extend (before : generator.ImportsFor declarations p.sink.imports)
    (uses : generator.Uses p q (Code.typeTextsOf more)) :
    generator.ImportsFor (declarations ++ more) q.sink.imports := by
  refine ⟨uses.plain.only, fun imported => ?_, fun text member detects => ?_⟩
  · rw [Code.typeTextsOf_append]
    rcases uses.used imported with earlier | ⟨text, member, mentions⟩
    · obtain ⟨text, member, mentions⟩ := before.used earlier
      exact ⟨text, List.mem_append_left _ member, mentions⟩
    · exact ⟨text, List.mem_append_right _ member, mentions⟩
  · rw [Code.typeTextsOf_append, List.mem_append] at member
    rcases member with early | late
    · exact uses.kept (before.needed text early detects)
    · exact uses.needed text late detects

/-- Where every mention is found, the host package is imported exactly if it is mentioned. -/
theorem eq_iff (right : generator.ImportsFor declarations imports)
    (found : ∀ text ∈ Code.typeTextsOf declarations, MentionsHost text →
      generator.types.Detects text) :
    imports = [generator.types.hostImport] ↔
      ∃ text ∈ Code.typeTextsOf declarations, MentionsHost text := by
  rw [← right.only.mem_iff]
  exact ⟨right.used, fun ⟨text, member, mentions⟩ =>
    right.needed text member (found text member mentions)⟩

/-- The imports of all declarations are those of some united with those of the others. -/
theorem append (first : generator.ImportsFor declarations imports)
    (second : generator.ImportsFor more others) :
    generator.ImportsFor (declarations ++ more) (Json.unite imports others) := by
  have either : generator.types.hostImport ∈ Json.unite imports others ↔
      generator.types.hostImport ∈ imports ∨ generator.types.hostImport ∈ others := by
    rcases second.only with rfl | rfl
    · simp [Json.unite]
    · simpa [Json.unite] using first.only.mem_add
  refine ⟨first.only.unite second.only, fun imported => ?_, fun text member detects => ?_⟩
  · rw [Code.typeTextsOf_append]
    rcases either.mp imported with early | late
    · obtain ⟨text, member, mentions⟩ := first.used early
      exact ⟨text, List.mem_append_left _ member, mentions⟩
    · obtain ⟨text, member, mentions⟩ := second.used late
      exact ⟨text, List.mem_append_right _ member, mentions⟩
  · rw [Code.typeTextsOf_append, List.mem_append] at member
    exact either.mpr (member.imp (first.needed text · detects) (second.needed text · detects))

end ImportsFor

/-- A plain pass that imports what its declarations need. -/
structure IsExact (generator : Generator) (pass : Pass) : Prop where
  /-- The pass is plain. -/
  plain : generator.IsPlain pass
  /-- The imports are exact. -/
  imports : generator.ImportsFor pass.sink.declarations pass.sink.imports

namespace IsExact

/-- A step that uses no type. -/
theorem silent (before : generator.IsExact p) (uses : generator.Uses p q []) :
    generator.IsExact q where
  plain := uses.plain
  imports := by
    have all : generator.ImportsFor (p.sink.declarations ++ []) q.sink.imports :=
      before.imports.extend uses
    rwa [List.append_nil, ← uses.declarations] at all

/-- A declaration is made and written. -/
theorem write (before : generator.IsExact p) (builtin : generator.templates = .builtin)
    {declaration : Code.Declaration} {m : Pass} {u : PUnit}
    (uses : generator.Uses p m declaration.typeTexts)
    (run : Emit.Runs (Emit.declare generator declaration) m u q) : generator.IsExact q := by
  have made : generator.Uses p m (Code.typeTextsOf [declaration]) := by
    simpa [Code.typeTextsOf] using uses
  have all := before.imports.extend made
  rw [← uses.declarations] at all
  rw [eq_of_declare builtin run]
  exact ⟨⟨uses.plain.only, uses.plain.stem, uses.plain.shapes, uses.plain.given⟩, all⟩

end IsExact

section Passes

variable (configured : generator.IsConfigured)

include configured

theorem exact_declareBlock {block : Block} {u : PUnit} (before : generator.IsExact p)
    (run : Emit.Runs (generator.declareBlock block) p u q) : generator.IsExact q := by
  simp only [declareBlock, declareMembers, Emit.runs_bind] at run
  obtain ⟨_, m, noted, _, n, events, declaration, k, making, writing⟩ := run
  have quiet : generator.IsExact m := by
    unfold noteOmitted at noted
    split at noted
    · simp only [Emit.note, Emit.runs_modify] at noted
      subst noted
      exact before.silent (.of_same before.plain rfl rfl rfl rfl)
    · obtain ⟨-, rfl⟩ := Emit.runs_pure.mp noted
      exact before
  have behind : generator.IsExact n := by
    unfold declareEvents at events
    split at events
    · obtain ⟨constants, m', made, written⟩ := Emit.runs_bind.mp events
      exact quiet.write configured.templates (uses_eventsDeclaration quiet.plain made) written
    · obtain ⟨-, rfl⟩ := Emit.runs_pure.mp events
      exact quiet
  exact behind.write configured.templates (uses_structureOf configured behind.plain making) writing

theorem exact_drainUpTo {limit count : Nat} (before : generator.IsExact p)
    (run : Emit.Runs (generator.drainUpTo limit) p count q) : generator.IsExact q := by
  induction limit generalizing p count with
  | zero =>
    obtain ⟨-, rfl⟩ := Emit.runs_pure.mp run
    exact before
  | succ limit ih =>
    rcases Emit.drainUpTo_cases run with
      ⟨-, -, rfl⟩ | ⟨pending, rest, m, count, -, declaring, drained, -⟩
    · exact before
    · obtain ⟨declaration, _, making, writing⟩ := Emit.runs_bind.mp declaring
      have taken : generator.IsExact { p with scope := { p.scope with pending := rest } } :=
        before.silent (.of_same before.plain rfl rfl rfl rfl)
      have written := taken.write configured.templates
        (uses_pendingDeclaration configured taken.plain making) writing
      have declared : generator.IsExact { m with declared := m.declared ++ [pending] } :=
        written.silent (.of_same written.plain rfl rfl rfl rfl)
      exact ih declared drained

/-- A pass that succeeds imports what its declarations need. -/
theorem importsFor_emission {block : Block} {reserved : List String} {start : Pass} {count : Nat}
    (started : Pass.start generator block reserved = .ok start)
    (run : Emit.Runs (generator.emission block) start count q) :
    generator.ImportsFor q.sink.declarations q.sink.imports := by
  obtain ⟨symbol, stem, -, spelt, rfl⟩ := start_eq_ok.mp started
  simp only [emission, drain, Emit.runs_bind, Emit.runs_get] at run
  obtain ⟨_, m, declaring, _, _, ⟨rfl, rfl⟩, drained⟩ := run
  have plain : generator.IsPlain
      { block, scope := .start symbol stem reserved, sink := { blockName := block.name } } :=
    ⟨.inl rfl, configured.undotted.stem _ _ spelt, by simp [Scope.start], by simp [Scope.start]⟩
  have declared := exact_declareBlock configured ⟨plain, .nil⟩ declaring
  exact (exact_drainUpTo configured declared drained).imports

end Passes

end Generator

end HostBindings
