import HostBindings.Declaration
import HostBindings.Proofs.Results

/-!
# Successful actions of a pass

An action of a pass either fails or leads to a result and a later state. This file opens the
actions that succeed: what the parts of a composed action did, in order. The two actions that give
names are opened here for good: what holds of them elsewhere is read off what they come to.

## Main definitions

* `Emit.outcome` — the result or the fault of an action, and the state it leads to
* `Emit.Runs` — an action leads from one state to a result and another state
* `Scope.entered` — the names of a block with one more given to a nested entity
* `Emit.Registers` — what the registration of a nested entity comes to

## Main results

* `Emit.runs_bind` — one action after another
* `Emit.runs_mapM_cons`, `Emit.runs_forM_cons` — lists gone through
* `Scope.scopeFor_cases` — what the names below an owner begin with
* `Emit.drainUpTo_cases` — what waits is written one by one
* `Emit.outcome_claim`, `Emit.registers` — the two ways to get a name
-/

namespace HostBindings

/-! ### The names of a block -/

namespace Scope

/-- The names of a block once a name is given to a nested entity, which waits under it. -/
def entered (scope : Scope) (key : ShapeKey) (node : PropertyNode) (name : String) : Scope :=
  { scope with
    names := scope.names ++ [name]
    shapes := scope.shapes ++ [(key, name)]
    given := (node.id, name) :: scope.given
    pending := scope.pending ++ [⟨key.kind, name, node⟩] }

/-- The names below an owner begin with the stem, with a name that was given, or with the stem and
a symbol. -/
theorem scopeFor_cases {ε : Type} {scope : Scope} {symbolOf : String → Except ε String}
    {parent : Option Entity} {lead : String} (led : scope.scopeFor symbolOf parent = .ok lead) :
    lead = scope.stem ∨ (∃ entry ∈ scope.given, entry.2 = lead) ∨
      ∃ owner symbol, symbolOf owner = .ok symbol ∧ lead = scope.stem ++ symbol := by
  unfold scopeFor at led
  split at led
  · cases led
    exact .inl rfl
  next owner =>
    split at led
    · cases led
      exact .inl rfl
    · split at led
      next given =>
        cases led
        exact .inr (.inl ⟨_, mem_of_lookup_eq_some given, rfl⟩)
      next =>
        obtain ⟨symbol, spelt, same⟩ := bind_eq_ok_iff.mp led
        cases same
        exact .inr (.inr ⟨owner.info.name, symbol, spelt, rfl⟩)

end Scope

/-! ### Actions -/

namespace Emit

variable {α β : Type} {p q : Pass}

/-- The result of an action, or its fault, and the state it leads to. -/
def outcome (action : Emit α) (before : Pass) : Except PassFault α × Pass :=
  action.run.run before

/-- An action succeeds: it leads from one state to a result and another state. -/
def Runs (action : Emit α) (before : Pass) (result : α) (after : Pass) : Prop :=
  action.outcome before = (.ok result, after)

/-! ### Composed actions -/

theorem outcome_bind (action : Emit α) (next : α → Emit β) :
    outcome (action >>= next) p =
      match action.outcome p with
      | (.ok a, m) => (next a).outcome m
      | (.error fault, m) => (.error fault, m) := by
  unfold outcome
  rw [ExceptT.run_bind, StateT.run_bind]
  rcases (action.run.run p : Except PassFault α × Pass) with ⟨_ | a, m⟩ <;> rfl

@[simp] theorem outcome_pure (a : α) : (pure a : Emit α).outcome p = (.ok a, p) := rfl

@[simp] theorem outcome_throw (fault : PassFault) :
    (throw fault : Emit α).outcome p = (.error fault, p) := rfl

@[simp] theorem outcome_get : (get : Emit Pass).outcome p = (.ok p, p) := rfl

@[simp] theorem outcome_set (after : Pass) :
    (set after : Emit PUnit).outcome p = (.ok (), after) := rfl

@[simp] theorem outcome_modify (change : Pass → Pass) :
    (modify change : Emit PUnit).outcome p = (.ok (), change p) := rfl

@[simp] theorem outcome_note (level : Level) (message : String) :
    (note level message).outcome p = (.ok (), { p with log := p.log ++ [⟨level, message⟩] }) := rfl

theorem outcome_setting (result : Except UseFault α) :
    (setting result).outcome p = (result.mapError .setting, p) := by
  cases result <;> rfl

@[simp] theorem runs_pure {a b : α} : Runs (pure a) p b q ↔ b = a ∧ q = p := by
  change ((.ok a, p) : Except PassFault α × Pass) = (.ok b, q) ↔ _
  simp [eq_comm]

@[simp] theorem runs_throw {fault : PassFault} {b : α} : ¬ Runs (throw fault) p b q := by
  change ¬ ((.error fault, p) : Except PassFault α × Pass) = (.ok b, q)
  simp

theorem runs_bind {action : Emit α} {next : α → Emit β} {b : β} :
    Runs (action >>= next) p b q ↔ ∃ a m, Runs action p a m ∧ Runs (next a) m b q := by
  unfold Runs
  rw [outcome_bind]
  rcases action.outcome p with ⟨_ | a, m⟩
  · simp
  · simp [and_assoc]

@[simp] theorem runs_get {s : Pass} : Runs get p s q ↔ s = p ∧ q = p := by
  change ((.ok p, p) : Except PassFault Pass × Pass) = (.ok s, q) ↔ _
  simp [eq_comm]

@[simp] theorem runs_set {s : Pass} {u : PUnit} : Runs (set s) p u q ↔ q = s := by
  change ((.ok (), s) : Except PassFault PUnit × Pass) = (.ok u, q) ↔ _
  simp [eq_comm]

@[simp] theorem runs_modify {change : Pass → Pass} {u : PUnit} :
    Runs (modify change) p u q ↔ q = change p := by
  change ((.ok (), change p) : Except PassFault PUnit × Pass) = (.ok u, q) ↔ _
  simp [eq_comm]

@[simp] theorem runs_setting {result : Except UseFault α} {a : α} :
    Runs (setting result) p a q ↔ result = .ok a ∧ q = p := by
  cases result <;> simp [setting, eq_comm]

/-- A list gone through: the first item, then the others. -/
theorem runs_mapM_cons {f : α → Emit β} {x : α} {xs : List α} {ys : List β} :
    Runs ((x :: xs).mapM f) p ys q ↔
      ∃ y m rest, Runs (f x) p y m ∧ Runs (xs.mapM f) m rest q ∧ ys = y :: rest := by
  simp only [List.mapM_cons, runs_bind, runs_pure]
  constructor
  · rintro ⟨y, m, first, rest, m', others, rfl, rfl⟩
    exact ⟨y, m, rest, first, others, rfl⟩
  · rintro ⟨y, m, rest, first, others, rfl⟩
    exact ⟨y, m, first, rest, q, others, rfl, rfl⟩

/-- A list gone through for its effects. -/
theorem runs_forM_cons {f : α → Emit PUnit} {x : α} {xs : List α} {u : PUnit} :
    Runs ((x :: xs).forM f) p u q ↔ ∃ m, Runs (f x) p () m ∧ Runs (xs.forM f) m u q := by
  change Runs (f x >>= fun _ => xs.forM f) p u q ↔ _
  rw [runs_bind]
  exact ⟨fun ⟨_, m, first, others⟩ => ⟨m, first, others⟩,
    fun ⟨m, first, others⟩ => ⟨(), m, first, others⟩⟩

/-! ### Names -/

/-- What is reported of a claim: that the candidate was taken. -/
def claimRecords (candidate name : String) : Log :=
  if name ≠ candidate then [⟨.debug, s!"Name {candidate} taken, using {name}"⟩] else []

/-- A claimed name is taken; nothing but the log changes besides. -/
theorem outcome_claim (candidate : String) (p : Pass) :
    (claim candidate).outcome p =
      (.ok (freshName p.scope.names candidate),
        { p with
          scope := (p.scope.claim candidate).2
          log := p.log ++ claimRecords candidate (freshName p.scope.names candidate) }) := by
  change _ = ((.ok (p.scope.claim candidate).1, { p with
    scope := (p.scope.claim candidate).2
    log := p.log ++ claimRecords candidate (p.scope.claim candidate).1 }) : Except _ _ × Pass)
  simp only [claim, claimRecords, outcome_bind, outcome_get, outcome_set]
  split
  · rfl
  · rw [List.append_nil]
    rfl

/-- A claim that succeeds gives the fresh name. -/
theorem runs_claim {candidate name : String} :
    Runs (claim candidate) p name q ↔
      name = freshName p.scope.names candidate ∧
        q = { p with
          scope := (p.scope.claim candidate).2
          log := p.log ++ claimRecords candidate (freshName p.scope.names candidate) } := by
  rw [Runs, outcome_claim, Prod.mk.injEq, Except.ok.injEq, eq_comm, @eq_comm _ q]

/-- What the registration of a nested entity comes to. -/
inductive Registers (generator : Generator) (kind : PendingKind) (node : PropertyNode)
    (parent : Option Entity) (p : Pass) : Except PassFault String × Pass → Prop where
  /-- A symbol is missing. -/
  | fails (fault : UseFault) : Registers generator kind node parent p (.error (.setting fault), p)
  /-- The name that its symbol and its shape have already is shared. -/
  | shares {symbol name : String} (log : Log)
      (spelt : generator.symbol node.property.info.name = .ok symbol)
      (found : p.scope.shapes.lookup ⟨kind, symbol, node.property.shape⟩ = some name) :
      Registers generator kind node parent p (.ok name, { p with log })
  /-- A free name is given to the entity. -/
  | gives {symbol lead name : String} (log : Log)
      (spelt : generator.symbol node.property.info.name = .ok symbol)
      (new : p.scope.shapes.lookup ⟨kind, symbol, node.property.shape⟩ = none)
      (led : p.scope.scopeFor generator.symbol parent = .ok lead)
      (claimed : name = freshName p.scope.names (lead ++ symbol)) :
      Registers generator kind node parent p
        (.ok name,
          { p with scope := p.scope.entered ⟨kind, symbol, node.property.shape⟩ node name, log })

/-- A registration fails, shares a name, or gives one. -/
theorem registers (generator : Generator) (kind : PendingKind) (node : PropertyNode)
    (parent : Option Entity) (p : Pass) :
    Registers generator kind node parent p ((register generator kind node parent).outcome p) := by
  simp only [register, outcome_bind, outcome_setting]
  cases spelt : generator.symbol node.property.info.name with
  | error fault => exact .fails fault
  | ok symbol =>
    simp only [Except.mapError, outcome_get]
    split
    next name found => exact .shares _ spelt found
    next new =>
      simp only [scopeFor, outcome_bind, outcome_get, outcome_setting]
      cases led : p.scope.scopeFor generator.symbol parent with
      | error fault => exact .fails fault
      | ok lead =>
        simp only [Except.mapError, outcome_claim, outcome_modify, outcome_pure]
        exact .gives _ spelt new led rfl

/-! ### What waits -/

/-- One more declaration of those that wait: there is none, or the first one is written and the
others follow, with what it has queued behind them. -/
theorem drainUpTo_cases {generator : Generator} {limit count : Nat}
    (run : Runs (generator.drainUpTo (limit + 1)) p count q) :
    (p.scope.pending = [] ∧ count = 0 ∧ q = p) ∨
    ∃ pending rest m others, p.scope.pending = pending :: rest ∧
      Runs (generator.declarePending pending)
        { p with scope := { p.scope with pending := rest } } () m ∧
      Runs (generator.drainUpTo limit) { m with declared := m.declared ++ [pending] } others q ∧
      count = others + 1 := by
  simp only [Generator.drainUpTo, runs_bind, runs_get] at run
  obtain ⟨_, _, ⟨rfl, rfl⟩, run⟩ := run
  split at run
  next waiting =>
    obtain ⟨rfl, rfl⟩ := runs_pure.mp run
    exact .inl ⟨waiting, rfl, rfl⟩
  next pending rest waiting =>
    simp only [runs_bind, runs_set, runs_modify, runs_pure] at run
    obtain ⟨_, _, rfl, _, m, declaring, _, _, rfl, others, _, drained, rfl, rfl⟩ := run
    exact .inr ⟨pending, rest, m, others, waiting, declaring, drained, rfl⟩

end Emit

end HostBindings
