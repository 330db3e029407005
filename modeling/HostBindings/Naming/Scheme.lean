import HostBindings.Naming.Loose

/-!
# Naming schemes

How names are made: by a normalizer, or by tables that are given as values and are no normalizer
because something in them is neither a text nor a pair of texts. Such tables have a fault for the
names that need what is wrong in them, and serve all others.

## Main definitions

* `Naming.Tables` — tables as they are given; `Tables.ofMembers`, `Tables.ofCorrections`
* `Tables.normalizer?` — the normalizer that proper tables make
* `Naming.Scheme`, `Scheme.ofTables`
* `Scheme.symbol`, `Scheme.baseSymbol`, `Scheme.stem` — names

## Main results

* `Scheme.symbol_plain` — a normalizer has a symbol for every name
-/

namespace HostBindings.Naming

open Api (Info)
open Json (Members)

/-- The tables of a normalizer as they are given. -/
structure Tables where
  /-- What stands between the words of a name. -/
  separators : List Json := defaultSeparators.map .string
  /-- The rules for pieces of a name that are spelt otherwise. -/
  corrections : List LooseRule := defaultCorrections.map LooseRule.ofPair
  /-- The suffix of the names of modules. -/
  moduleSuffix : Json := .string defaultModuleSuffix
  /-- What stands for a name of which nothing is left. -/
  emptyName : Json := .string "Obj"
  /-- What is put before a leading digit. -/
  digitLead : Json := .string "X"

namespace Tables

/-- The normalizer that the tables make, if all they hold is of the right kind. -/
def normalizer? (tables : Tables) : Option Normalizer := do
  let separators ← tables.separators.mapM Json.string?
  let corrections ← tables.corrections.mapM LooseRule.toPair?
  let moduleSuffix ← tables.moduleSuffix.string?
  let emptyName ← tables.emptyName.string?
  let digitLead ← tables.digitLead.string?
  return { separators, corrections, moduleSuffix, emptyName, digitLead }

/-- The rules of the replacement pass: separators first, then corrections. -/
def rules (tables : Tables) : List LooseRule :=
  tables.separators.map (fun separator => [separator, .string " "]) ++ tables.corrections

/-- The identifier made of joined words: an empty one and a leading digit are mended. -/
def finish (tables : Tables) : List Char → Json
  | [] => tables.emptyName
  | c :: rest =>
    let text := String.ofList (c :: rest)
    .string (if Text.isDigit c then tables.digitLead.text ++ text else text)

/-- The identifier of a name. -/
def symbol (tables : Tables) (name : String) : Except UseFault Json := do
  return tables.finish (joinWords (← replaceLoosely tables.rules name.toList))

/-- The identifier of a name of any kind. -/
def symbolOf (tables : Tables) (name : Json) : Except UseFault Json := do
  return tables.finish (joinWords (← replaceValue tables.rules name))

/-- The tables of a normalizer. -/
def ofNormalizer (normalizer : Normalizer) : Tables where
  separators := normalizer.separators.map .string
  corrections := normalizer.corrections.map LooseRule.ofPair
  moduleSuffix := .string normalizer.moduleSuffix
  emptyName := .string normalizer.emptyName
  digitLead := .string normalizer.digitLead

/-- The keys of tables that are given by name. -/
def keys : List String :=
  ["separators", "corrections", "module_suffix", "empty_name", "digit_prefix"]

/-- Tables that are given by name, the others being the default ones. -/
def ofMembers (members : Members) : Except UseFault Tables := do
  let defaults : Tables := {}
  let separators ←
    match members.get? "separators" with
    | some value => value.items
    | none => pure defaults.separators
  let corrections ←
    match members.get? "corrections" with
    | some value => (← value.items).mapM Json.items
    | none => pure defaults.corrections
  -- a key that is unknown is noticed after the values of the known ones
  if let some (key, _) := members.find? fun member => !keys.contains member.1 then
    throw (.unknownSetting key)
  return {
    separators, corrections
    moduleSuffix := (members.get? "module_suffix").getD defaults.moduleSuffix
    emptyName := (members.get? "empty_name").getD defaults.emptyName
    digitLead := (members.get? "digit_prefix").getD defaults.digitLead }

/-- The tables with corrections behind the default ones. -/
def ofCorrections (extra : List LooseRule) (moduleSuffix : Json) : Tables :=
  { corrections := defaultCorrections.map LooseRule.ofPair ++ extra, moduleSuffix }

end Tables

/-- How names are made. -/
inductive Scheme where
  /-- By a normalizer. -/
  | plain (normalizer : Normalizer)
  /-- By tables that make no normalizer. -/
  | loose (tables : Tables)

instance : Inhabited Scheme := ⟨.plain {}⟩

namespace Scheme

/-- The scheme that tables make. -/
def ofTables (tables : Tables) : Scheme :=
  match tables.normalizer? with
  | some normalizer => .plain normalizer
  | none => .loose tables

/-- The identifier of a name. -/
def symbol (scheme : Scheme) (name : String) : Except UseFault Json :=
  match scheme with
  | .plain normalizer => .ok (.string (normalizer.symbol name))
  | .loose tables => tables.symbol name

/-- The identifier of an entity. The names of modules get the suffix. -/
def baseSymbol (scheme : Scheme) (info : Info) : Except UseFault Json :=
  match scheme with
  | .plain normalizer => .ok (.string (normalizer.baseSymbol info))
  | .loose tables => do
    let symbol ← tables.symbol info.name
    if info.kind = .hostModule then joinValues symbol tables.moduleSuffix else return symbol

/-- The identifier of an entity without the suffix of modules. -/
def stem (scheme : Scheme) (info : Info) : Except UseFault Json :=
  match scheme with
  | .plain normalizer => .ok (.string (normalizer.stem info))
  | .loose tables => do stripValue (← scheme.baseSymbol info) tables.moduleSuffix

/-- The tables of a scheme. -/
def tables : Scheme → Tables
  | .plain normalizer => .ofNormalizer normalizer
  | .loose tables => tables

/-- The identifier of a name of any kind. -/
def symbolOf (scheme : Scheme) (name : Json) : Except UseFault Json :=
  match name with
  | .string name => scheme.symbol name
  | other => scheme.tables.symbolOf other

@[simp] theorem symbol_plain (normalizer : Normalizer) (name : String) :
    (plain normalizer).symbol name = .ok (.string (normalizer.symbol name)) := rfl

@[simp] theorem baseSymbol_plain (normalizer : Normalizer) (info : Info) :
    (plain normalizer).baseSymbol info = .ok (.string (normalizer.baseSymbol info)) := rfl

@[simp] theorem stem_plain (normalizer : Normalizer) (info : Info) :
    (plain normalizer).stem info = .ok (.string (normalizer.stem info)) := rfl

end Scheme

end HostBindings.Naming
