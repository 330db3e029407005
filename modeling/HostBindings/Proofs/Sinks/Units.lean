import HostBindings.Proofs.Sinks.Histories

/-!
# Sinks over one unit

However the sinks over a unit are used side by side, the unit takes the text of each one once: when
it is closed for the first time, and only if it was not dropped before. What is done with a sink
after that does not reach the unit.

## Main definitions

* `SinkEvent.handover?` — the sink that a close hands over to the unit

## Main results

* `SinkTable.Follows.unit_step`, `SinkTable.Follows.unit_runAll` — what reaches the unit
* `SinkTable.unit_takes_each_once`
-/

namespace HostBindings

/-- The sink that an event hands over to the unit: one over the unit that is closed, and was neither
closed nor dropped before. -/
def SinkEvent.handover? (earlier : List SinkEvent) (event : SinkEvent) : Option Sink :=
  match event.action, life event.name earlier with
  | .close, ⟨_, .openUnit blockName, .ok ()⟩ :: uses =>
    if uses.any ends then none else some (sinkOf blockName uses)
  | _, _ => none

/-- A sink that is handed over holds no declarations: it was only written to. -/
theorem SinkEvent.declarations_of_handover? {earlier : List SinkEvent} {event : SinkEvent}
    {sink : Sink} (handed : event.handover? earlier = some sink) : sink.declarations = [] := by
  unfold handover? at handed
  split at handed
  · split at handed
    · cases handed
    · cases handed
      rfl
  · cases handed

namespace SinkTable

open SinkEvent (life sinkOf handover? along)

variable {table : SinkTable} {events : List SinkEvent} {name : String}

/-! ### One action -/

/-- Only a sink over the unit is handed over to it. -/
theorem handover?_of_ne_toUnit (follows : table.Follows events)
    (other : ∀ sink, table.sinks.lookup name ≠ some (.toUnit sink)) (action : SinkAction)
    (answer : Except SinkFault Unit) : handover? events ⟨name, action, answer⟩ = none := by
  have lived := follows name
  unfold handover?
  dsimp only
  split
  next opened =>
    rw [opened] at lived
    generalize table.sinks.lookup name = found at lived other
    cases lived with
    | unopened unopened => exact absurd (unopened _ List.mem_cons_self) (by simp [SinkEvent.opens])
    | toUnit => exact absurd rfl (other _)
  next => rfl

variable [WorkingDirectory]

/-- What is done with a sink reaches the unit where the sink is handed over, and nowhere else. -/
theorem Follows.unit_step (follows : table.Follows events) (name : String) (action : SinkAction) :
    (table.step name action).2.unit =
      (handover? events ⟨name, action, (table.step name action).1⟩).toList.foldl
        DeclarationUnit.commit table.unit := by
  have does := table.does_step name action
  generalize (table.step name action).1 = answer at does ⊢
  generalize (table.step name action).2 = next at does ⊢
  cases does with
  | closedUnit found =>
    -- whether the unit takes the text depends on whether the life of the sink had an end before
    have lived := follows name
    rw [found] at lived
    unfold handover?
    generalize life name events = lives at lived
    cases lived with
    | @toUnit _ blockName uses =>
      have isOpen : (sinkOf blockName uses).isOpen = !uses.any SinkEvent.ends := rfl
      dsimp only [unit_put]
      rw [DeclarationUnit.take, isOpen]
      cases uses.any SinkEvent.ends <;> rfl
  | closedFile found =>
    rw [handover?_of_ne_toUnit follows (by simp [found])]
    rfl
  | unnamed found =>
    rw [handover?_of_ne_toUnit follows (by simp [found])]
    rfl
  | openedUnit | openedFile | unopened | misplaced | wrote | unwritten | recorded | unrecorded
  | droppedUnit | droppedFile => rfl

/-- Nothing that is done with a sink that was closed or dropped reaches the unit. -/
theorem Follows.unit_step_of_ended (follows : table.Follows events)
    (ended : (life name events).any SinkEvent.ends = true) (action : SinkAction) :
    (table.step name action).2.unit = table.unit := by
  rw [follows.unit_step]
  unfold handover?
  dsimp only
  split
  next opened =>
    rw [opened, List.any_cons] at ended
    rw [if_pos (by simpa [SinkEvent.ends] using ended)]
    rfl
  next => rfl

/-! ### All actions -/

/-- The unit has taken the sinks that were handed over, in order. -/
theorem Follows.unit_runAll (follows : table.Follows events) (uses : List (String × SinkAction)) :
    (table.runAll uses).2.unit =
      (along handover? events (table.runAll uses).1).foldl DeclarationUnit.commit table.unit := by
  induction uses generalizing table events with
  | nil => rfl
  | cons use rest ih =>
    rw [SinkTable.runAll, along, List.foldl_append, ← follows.unit_step]
    exact ih (follows.step use.1 use.2)

end SinkTable

/-! ### Committed sinks -/

namespace DeclarationUnit

/-- Committed sinks have their sections behind those that are there, in order. -/
theorem sections_foldl_commit (sinks : List Sink) (unit : DeclarationUnit) :
    (sinks.foldl commit unit).sections =
      unit.sections ++ sinks.map fun sink => ⟨sink.blockName, sink.text, sink.declarations⟩ := by
  induction sinks generalizing unit with
  | nil => exact (List.append_nil _).symm
  | cons sink rest ih => simp [ih, commit]

/-- The imports that are there, and those that are added, are among lists united. -/
theorem mem_unite {imports more : List Json} {value : Json} :
    value ∈ Json.unite imports more → value ∈ imports ∨ value ∈ more := by
  induction more generalizing imports with
  | nil => exact .inl
  | cons first rest ih =>
    intro member
    rcases ih member with old | new
    · unfold Json.addOnce at old
      split at old
      · exact .inl old
      · rcases List.mem_append.mp old with old | new
        · exact .inl old
        · exact .inr (List.mem_singleton.mp new ▸ List.mem_cons_self)
    · exact .inr (List.mem_cons_of_mem _ new)

theorem subset_unite (imports more : List Json) : imports ⊆ Json.unite imports more := by
  induction more generalizing imports with
  | nil => exact List.Subset.refl _
  | cons first rest ih =>
    refine List.Subset.trans ?_ (ih _)
    unfold Json.addOnce
    split
    · exact List.Subset.refl _
    · exact List.subset_append_left _ _

theorem isAmong_of_subset {imports more : List Json} (subset : imports ⊆ more) {value : Json}
    (among : value.isAmong imports = true) : value.isAmong more = true := by
  obtain ⟨other, member, same⟩ := List.any_eq_true.mp among
  exact List.any_eq_true.mpr ⟨other, subset member, same⟩

theorem isAmong_unite (imports : List Json) {more : List Json} {value : Json}
    (member : value ∈ more) : value.isAmong (Json.unite imports more) = true := by
  induction more generalizing imports with
  | nil => cases member
  | cons first rest ih =>
    rcases List.mem_cons.mp member with rfl | later
    · refine isAmong_of_subset (subset_unite _ rest) ?_
      unfold Json.addOnce
      split
      next there => exact there
      next => exact List.any_eq_true.mpr ⟨value, by simp, by simp⟩
    · exact ih _ later

variable {sinks : List Sink} {unit : DeclarationUnit} {value : Json}

/-- An import of a unit was there, or is one of a committed sink. -/
theorem mem_imports_foldl_commit (member : value ∈ (sinks.foldl commit unit).imports) :
    value ∈ unit.imports ∨ ∃ sink ∈ sinks, value ∈ sink.imports := by
  induction sinks generalizing unit with
  | nil => exact .inl member
  | cons sink rest ih =>
    rcases ih member with old | ⟨other, later, inside⟩
    · exact (mem_unite old).imp_right fun inside => ⟨sink, List.mem_cons_self, inside⟩
    · exact .inr ⟨other, List.mem_cons_of_mem _ later, inside⟩

theorem subset_imports_foldl_commit (sinks : List Sink) (unit : DeclarationUnit) :
    unit.imports ⊆ (sinks.foldl commit unit).imports := by
  induction sinks generalizing unit with
  | nil => exact List.Subset.refl unit.imports
  | cons sink rest ih => exact List.Subset.trans (subset_unite _ _) (ih (unit.commit sink))

/-- Every import of a committed sink is one of the unit. -/
theorem isAmong_imports_foldl_commit {sink : Sink} (committed : sink ∈ sinks)
    (inside : value ∈ sink.imports) :
    value.isAmong (sinks.foldl commit unit).imports = true := by
  induction sinks generalizing unit with
  | nil => cases committed
  | cons first rest ih =>
    rcases List.mem_cons.mp committed with rfl | later
    · exact isAmong_of_subset (subset_imports_foldl_commit rest _) (isAmong_unite _ inside)
    · exact ih later

end DeclarationUnit

namespace SinkTable

open SinkEvent (life handover? along)

variable [WorkingDirectory]

/-- The unit takes each sink over it once, whatever is done with any number of sinks in any order.
Its new sections are those of the sinks that were handed over, in the order in which they were
closed, each with the name of its block and all its text. Its imports are those it had, and those
that these sinks had when they were closed. Nothing that is done with a sink that was closed or
dropped changes it. -/
theorem unit_takes_each_once (tree : FileTree) (unit : DeclarationUnit)
    (uses : List (String × SinkAction)) :
    let ran := ({ tree, unit } : SinkTable).runAll uses
    let taken := along handover? [] ran.1
    ran.2.unit.sections = unit.sections ++ taken.map (fun sink => ⟨sink.blockName, sink.text, []⟩) ∧
      (∀ value ∈ ran.2.unit.imports,
        value ∈ unit.imports ∨ ∃ sink ∈ taken, value ∈ sink.imports) ∧
      unit.imports ⊆ ran.2.unit.imports ∧
      (∀ sink ∈ taken, ∀ value ∈ sink.imports, value.isAmong ran.2.unit.imports = true) ∧
      ∀ name, (life name ran.1).any SinkEvent.ends = true → ∀ action,
        (ran.2.step name action).2.unit = ran.2.unit := by
  intro ran taken
  have before : SinkTable.Follows { tree, unit } [] := follows_nil rfl
  have whole : ran.2.unit = taken.foldl DeclarationUnit.commit unit := before.unit_runAll uses
  have noted : ∀ sink ∈ taken, sink.declarations = [] := fun sink member =>
    (SinkEvent.of_mem_along member).elim fun earlier ⟨event, handed⟩ =>
      SinkEvent.declarations_of_handover? handed
  refine ⟨?_, ?_, ?_, ?_, fun name ended action => ?_⟩
  · rw [whole, DeclarationUnit.sections_foldl_commit]
    refine congrArg _ (List.map_congr_left fun sink member => ?_)
    rw [noted sink member]
  · rw [whole]
    exact fun value => DeclarationUnit.mem_imports_foldl_commit
  · rw [whole]
    exact DeclarationUnit.subset_imports_foldl_commit taken unit
  · rw [whole]
    exact fun sink member value => DeclarationUnit.isAmong_imports_foldl_commit member
  · exact (before.runAll uses).unit_step_of_ended ended action

end SinkTable

end HostBindings
