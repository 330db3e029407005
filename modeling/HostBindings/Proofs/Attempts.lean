import HostBindings.Log
import HostBindings.Proofs.Results

/-!
# Attempts that succeed

What the parts of an attempt are when the whole succeeds, and what checks in a row come to. An
attempt that only reports never looks at what was reported before, so its result is a value.

## Main definitions

* `Attempt.Ends` — the result of an attempt, whatever was reported before
* `Attempt.Meets` — what is known of its value, and of its fault

## Main results

* `Attempt.run_ofExcept`, `Attempt.run_bind_eq_ok_iff` — the parts of an attempt
* `Attempt.ends_bind`, `Attempt.ends_mapM` — the result of a whole, from those of its parts
* `Attempt.Meets.bind` — what is known of a whole, from what is known of its parts
* `Attempt.run_forM_ofExcept`, `forM_eq_ok_iff`, `exists_of_forM_eq_error` — checks in a row
-/

namespace HostBindings

namespace Attempt

variable {ε α β : Type}

theorem run_ofExcept (result : Except ε α) (log : Log) :
    (ofExcept result).run.run log = (result, log) := by
  cases result <;> rfl

/-- Checks in a row report nothing. -/
theorem run_forM_ofExcept (check : α → Except ε Unit) (items : List α) (log : Log) :
    (items.forM fun item => ofExcept (check item)).run.run log = (items.forM check, log) := by
  induction items with
  | nil => rfl
  | cons item rest ih =>
    change (ofExcept (check item) >>= fun _ => rest.forM _).run.run log =
      (check item >>= fun _ => rest.forM check, log)
    rw [ExceptT.run_bind, StateT.run_bind, run_ofExcept]
    cases check item with
    | error fault => rfl
    | ok value => exact ih

/-- An attempt goes on where its first part succeeds. -/
theorem run_bind_eq_ok_iff {first : Attempt ε α} {next : α → Attempt ε β} {result : β}
    {log last : Log} : (first >>= next).run.run log = (.ok result, last) ↔
      ∃ value middle, first.run.run log = (.ok value, middle) ∧
        (next value).run.run middle = (.ok result, last) := by
  rw [ExceptT.run_bind, StateT.run_bind]
  rcases first.run.run log with ⟨fault | value, middle⟩
  · refine iff_of_false (fun same => by cases same) ?_
    rintro ⟨_, _, same, -⟩
    cases same
  · constructor
    · exact fun ran => ⟨value, middle, rfl, ran⟩
    · rintro ⟨_, _, same, ran⟩
      cases same
      exact ran

/-! ### Results that do not depend on the log -/

/-- The attempt ends with a result, whatever was reported before. -/
def Ends (attempt : Attempt ε α) (result : Except ε α) : Prop :=
  ∀ log, ∃ after, attempt.run.run log = (result, after)

theorem ends_pure (value : α) : (pure value : Attempt ε α).Ends (.ok value) := fun log => ⟨log, rfl⟩

theorem ends_throw (fault : ε) : (throw fault : Attempt ε α).Ends (.error fault) :=
  fun log => ⟨log, rfl⟩

theorem ends_ofExcept (result : Except ε α) : (ofExcept result).Ends result :=
  fun log => ⟨log, run_ofExcept result log⟩

theorem ends_report (level : Level) (message : String) :
    (report level message : Attempt ε Unit).Ends (.ok ()) :=
  fun log => ⟨log ++ [⟨level, message⟩], rfl⟩

theorem ends_bind {first : Attempt ε α} {next : α → Attempt ε β} {result : Except ε α}
    {results : α → Except ε β} (ends : first.Ends result)
    (others : ∀ value, (next value).Ends (results value)) :
    (first >>= next).Ends (result >>= results) := by
  intro log
  obtain ⟨middle, ran⟩ := ends log
  rw [ExceptT.run_bind, StateT.run_bind, ran]
  cases result with
  | error fault => exact ⟨middle, rfl⟩
  | ok value => exact others value middle

theorem ends_mapM {attempt : α → Attempt ε β} {result : α → Except ε β}
    (ends : ∀ item, (attempt item).Ends (result item)) (items : List α) :
    (items.mapM attempt).Ends (items.mapM result) := by
  induction items with
  | nil => exact ends_pure []
  | cons item rest ih =>
    rw [List.mapM_cons, List.mapM_cons]
    exact ends_bind (ends item) fun value => ends_bind ih fun values => ends_pure (value :: values)

/-! ### What is known of a result -/

/-- Whatever was reported before, a value that the attempt ends with is a good one, and a fault is
of a certain kind. -/
def Meets (attempt : Attempt ε α) (good : α → Prop) (kind : ε → Prop) : Prop :=
  ∀ log, (∀ value after, attempt.run.run log = (.ok value, after) → good value) ∧
    ∀ fault after, attempt.run.run log = (.error fault, after) → kind fault

variable {good : α → Prop} {fine : β → Prop} {kind : ε → Prop}

theorem Ends.meets {attempt : Attempt ε α} {result : Except ε α} (ends : attempt.Ends result)
    (ofOk : ∀ value, result = .ok value → good value)
    (ofError : ∀ fault, result = .error fault → kind fault) : attempt.Meets good kind := by
  intro log
  obtain ⟨last, ran⟩ := ends log
  rw [ran]
  exact ⟨fun value _ same => ofOk value (congrArg Prod.fst same),
    fun fault _ same => ofError fault (congrArg Prod.fst same)⟩

theorem meets_pure {value : α} (met : good value) : (pure value : Attempt ε α).Meets good kind :=
  (ends_pure value).meets (fun _ same => Except.ok.inj same ▸ met) nofun

theorem meets_throw {fault : ε} (met : kind fault) : (throw fault : Attempt ε α).Meets good kind :=
  (ends_throw fault).meets nofun fun _ same => Except.error.inj same ▸ met

theorem Meets.bind {first : Attempt ε α} {next : α → Attempt ε β} (begins : first.Meets good kind)
    (goesOn : ∀ value, good value → (next value).Meets fine kind) :
    (first >>= next).Meets fine kind := by
  intro log
  rw [ExceptT.run_bind, StateT.run_bind]
  rcases ran : first.run.run log with ⟨fault | value, middle⟩
  · constructor
    · intro _ _ same
      cases same
    · intro _ _ same
      cases same
      exact (begins log).2 fault _ ran
  · exact goesOn value ((begins log).1 value _ ran) middle

/-- A report always succeeds. -/
theorem meets_report_bind {level : Level} {message : String} {next : Unit → Attempt ε β}
    (goesOn : (next ()).Meets fine kind) : (report level message >>= next).Meets fine kind :=
  ((ends_report level message).meets (fun _ _ => trivial) nofun : Meets _ (fun _ => True) _).bind
    fun _ _ => goesOn

/-- What goes on after a remark that may be made is the same in both cases. -/
theorem meets_remark {remarked : Prop} [Decidable remarked] {level : Level} {message : String}
    {next : Attempt ε α} (goesOn : next.Meets good kind) :
    (if remarked then report level message >>= fun _ => next else next).Meets good kind := by
  split
  · exact meets_report_bind goesOn
  · exact goesOn

end Attempt

/-- Checks in a row succeed if each of them does. -/
theorem forM_eq_ok_iff {ε α : Type} {check : α → Except ε Unit} {items : List α} :
    items.forM check = .ok () ↔ ∀ item ∈ items, check item = .ok () := by
  induction items with
  | nil => exact iff_of_true rfl (by simp)
  | cons item rest ih =>
    change (check item >>= fun _ => rest.forM check) = .ok () ↔ _
    rw [bind_eq_ok_iff, List.forall_mem_cons, ih]
    exact ⟨fun ⟨_, first, others⟩ => ⟨first, others⟩, fun ⟨first, others⟩ => ⟨(), first, others⟩⟩

/-- Where checks in a row fail, one of them does. -/
theorem exists_of_forM_eq_error {ε α : Type} {check : α → Except ε Unit} {items : List α}
    {fault : ε} (refused : items.forM check = .error fault) :
    ∃ item ∈ items, check item = .error fault := by
  induction items with
  | nil => cases refused
  | cons item rest ih =>
    change (check item >>= fun _ => rest.forM check) = .error fault at refused
    rcases bind_eq_error_iff.mp refused with first | ⟨_, -, others⟩
    · exact ⟨item, List.mem_cons_self, first⟩
    · obtain ⟨other, member, same⟩ := ih others
      exact ⟨other, List.mem_cons_of_mem _ member, same⟩

end HostBindings
