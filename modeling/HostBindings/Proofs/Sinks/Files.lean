import HostBindings.Proofs.Files.Effects
import HostBindings.Proofs.Sinks.Histories

/-!
# Sinks over files

However the sinks over files are used side by side, what is at a destination is what was there at
first, or the whole text of the sink whose close put it there last. A close that fails, and a
discard, change no destination and drop the temporary file of the sink; what is done with the sink
after that changes nothing.

The directories above a destination are made when it is opened. So this is not true of a destination
that one of these directories is, which a path that leads upwards can bring about by itself.

## Main definitions

* `SinkEvent.commit?` — the text that a close puts in the place of a destination
* `SinkTable.heldAt` — what a destination is to hold
* `SinkTable.Same` — a table in which nothing has changed

## Main results

* `SinkTable.Follows.at?_step`, `SinkTable.Follows.at?_runAll` — what reaches a destination
* `SinkTable.Follows.ends_aside`, `SinkTable.Follows.isClosed_of_end` — the ends of a sink
* `SinkTable.destinations_change_as_wholes`
-/

namespace HostBindings

/-- The destination of a sink that is to be opened over a file. -/
def SinkAction.destination? : SinkAction → Option Path
  | .openFile _ (.string text) _ => some (Path.ofString text)
  | _ => none

/-- The text that a close puts in the place of a destination: that of an open sink over a file whose
close succeeds, behind its header. -/
def SinkEvent.commit? [WorkingDirectory] (earlier : List SinkEvent) (event : SinkEvent) :
    Option (Place × String) :=
  match event.action, event.answer, life event.name earlier with
  | .close, .ok (), ⟨_, .openFile blockName (.string text) header, .ok ()⟩ :: uses =>
    if uses.any ends then none
    else
      match FileSink.headerFor (sinkOf blockName uses) header with
      | .ok head => some ((Path.ofString text).place, OutputFile.content head (bodyOf uses))
      | .error _ => none
  | _, _, _ => none

/-! ### Ends of a sink over a file -/

namespace FileSink

variable {tree last : FileTree} {file after : FileSink} {place : Place}
  {header : List Json → Except CommitFault String}

theorem discard_of_closed (already : file.sink.isOpen = false) :
    file.discard tree = (file, tree) := by
  rw [discard, already, if_neg Bool.false_ne_true]

variable [WorkingDirectory]

/-- A sink that does not take its text only drops its temporary file. -/
theorem at?_close_of_error {error : SinkError} (beside : file.output.IsBeside)
    (closed : file.close header tree = (.error error, after, last)) :
    last.at? place = if place = file.output.temporary then none else tree.at? place := by
  unfold close at closed
  split at closed
  · simp only [Prod.mk.injEq] at closed
    exact OutputFile.at?_commit_of_error beside (Prod.ext closed.1 closed.2.2)
  · cases closed

/-- An open sink that takes its text has put it in the place of its destination. -/
theorem at?_close_of_ok (beside : file.output.IsBeside) (isOpen : file.sink.isOpen = true)
    (closed : file.close header tree = (.ok (), after, last)) :
    ∃ head, headerFor file.sink header = .ok head ∧ ∀ place ≠ file.output.temporary,
      last.at? place =
        if place = file.output.path.place then
          some (.file (OutputFile.content head file.sink.text))
        else tree.at? place := by
  unfold close at closed
  rw [if_pos isOpen] at closed
  simp only [Prod.mk.injEq] at closed
  obtain ⟨_, whole, -, -, there⟩ :=
    OutputFile.at?_commit_of_ok beside (Prod.ext closed.1 closed.2.2)
  obtain ⟨head, made, rfl, -⟩ := OutputFile.wholeText_eq_ok_iff.mp whole
  exact ⟨head, made, there⟩

/-- A sink that is closed takes and drops nothing. -/
theorem close_of_closed (already : file.sink.isOpen = false) :
    file.close header tree = (.ok (), file, tree) := by
  rw [close, already, if_neg Bool.false_ne_true]

/-- An open sink that is dropped only drops its temporary file. -/
theorem at?_discard (beside : file.output.IsBeside) (isOpen : file.sink.isOpen = true)
    (dropped : file.discard tree = (after, last)) :
    last.at? place = if place = file.output.temporary then none else tree.at? place := by
  unfold discard at dropped
  rw [if_pos isOpen] at dropped
  cases dropped
  exact OutputFile.at?_release beside tree

/-- Opened or not: at places that are no directories above the destination nothing changes. -/
theorem at?_create {path : Path} {blockName : String} {created : Except OpenFault FileSink}
    (opening : create tree path blockName = (created, last)) (plain : place.IsPlain)
    (apart : ¬ path.parent.Crosses place) : last.at? place = tree.at? place := by
  unfold create at opening
  rcases opened : OutputFile.create tree path with ⟨fault | output, below⟩
  all_goals
    rw [opened] at opening
    cases opening
  · exact (OutputFile.makes_create opened place).resolve_right fun made => apart made.2.2
  · obtain ⟨below, opens⟩ := OutputFile.opens_create opened
    rw [opens.at?, if_neg (opens.beside.ne_of_isPlain plain)]
    exact (opens.makes place).resolve_right fun made => apart made.2.2

end FileSink

namespace SinkTable

open SinkEvent (life sinkOf commit? along)

variable {table next : SinkTable} {events : List SinkEvent} {name : String} {place : Place}

/-! ### One action -/

/-- The sink over a file that is under a name is that of its life. -/
theorem Follows.of_toFile {file : FileSink} {header : List Json → Except CommitFault String}
    (follows : table.Follows events)
    (found : table.sinks.lookup name = some (.toFile file header)) :
    file.output.IsBeside ∧ ∃ opened blockName text uses,
      life name events = ⟨opened, .openFile blockName (.string text) header, .ok ()⟩ :: uses ∧
        file.sink = sinkOf blockName uses ∧ file.output.path = Path.ofString text := by
  have lived := follows name
  rw [found] at lived
  generalize life name events = lives at lived
  cases lived with
  | toFile path beside => exact ⟨beside, _, _, _, _, rfl, rfl, path⟩

variable [WorkingDirectory]

/-- What the close of a sink over the unit, or of none, puts in the place of a destination:
nothing. -/
theorem Follows.commit?_of_ne_toFile (follows : table.Follows events)
    (other : ∀ file header, table.sinks.lookup name ≠ some (.toFile file header))
    (answer : Except SinkFault Unit) : commit? events ⟨name, .close, answer⟩ = none := by
  have lived := follows name
  unfold commit?
  dsimp only
  split
  next _ _ opened =>
    rw [opened] at lived
    generalize table.sinks.lookup name = found at lived other
    cases lived with
    | unopened unopened => exact absurd (unopened _ List.mem_cons_self) (by simp [SinkEvent.opens])
    | toFile => exact absurd rfl (other _ _)
  next => rfl

/-- The close of a sink over a file puts its text in the place of its destination if the sink takes
it, and changes nothing else. -/
theorem Follows.at?_closed {file after : FileSink} {header : List Json → Except CommitFault String}
    {taken : Except SinkError Unit} {last : FileTree} (follows : table.Follows events)
    (plain : place.IsPlain) (found : table.sinks.lookup name = some (.toFile file header))
    (closed : file.close header table.tree = (taken, after, last)) :
    last.at? place =
      (((commit? events ⟨name, .close, taken.mapError .uncommitted⟩).toList.lookup place).map
        FileNode.file).or (table.tree.at? place) := by
  obtain ⟨beside, opened, blockName, text, uses, life, sink, path⟩ := follows.of_toFile found
  have elsewhere := beside.ne_of_isPlain plain
  have isOpen : file.sink.isOpen = !uses.any SinkEvent.ends := by rw [sink]; rfl
  simp only [commit?, life]
  cases taken with
  | error error =>
    exact (FileSink.at?_close_of_error beside closed).trans (if_neg elsewhere)
  | ok =>
    -- a sink that was ended before is closed, and closing it again writes nothing
    cases ended : uses.any SinkEvent.ends with
    | true =>
      rw [ended] at isOpen
      rw [FileSink.close_of_closed isOpen] at closed
      cases closed
      simp [Except.mapError, ended]
    | false =>
      rw [ended] at isOpen
      obtain ⟨head, made, there⟩ := FileSink.at?_close_of_ok beside isOpen closed
      rw [sink] at made
      simp only [there place elsewhere, Except.mapError, ended, Bool.false_eq_true,
        if_false, made, path, sink, Option.toList_some]
      by_cases here : place = (Path.ofString text).place
      · simp [here, sinkOf]
      · simp [here, List.lookup_cons, beq_false_of_ne here]

/-- What is done with a sink changes a destination where the sink is closed and takes its text, and
nowhere else, unless a directory is made there. -/
theorem Follows.at?_step (follows : table.Follows events) (name : String) (action : SinkAction)
    (plain : place.IsPlain)
    (apart : ∀ path, action.destination? = some path → ¬ path.parent.Crosses place) :
    (table.step name action).2.tree.at? place =
      (((commit? events ⟨name, action, (table.step name action).1⟩).toList.lookup place).map
        FileNode.file).or (table.tree.at? place) := by
  have does := table.does_step name action
  generalize (table.step name action).1 = answer at does ⊢
  generalize (table.step name action).2 = next at does ⊢
  -- only a creation and the end of a sink over a file touch the tree
  cases does with
  | openedFile created | unopened created =>
    exact FileSink.at?_create created plain (apart _ rfl)
  | closedUnit found =>
    rw [follows.commit?_of_ne_toFile (by simp [found])]
    rfl
  | unnamed found =>
    have none : commit? events ⟨name, action, .error .unnamed⟩ = none := by
      cases action <;> rfl
    rw [none]
    rfl
  | closedFile found closed => exact follows.at?_closed plain found closed
  | @droppedFile file after header tree found dropped =>
    obtain ⟨beside, -⟩ := follows.of_toFile found
    cases isOpen : file.sink.isOpen with
    | true =>
      exact (FileSink.at?_discard beside isOpen dropped).trans
        (if_neg (beside.ne_of_isPlain plain))
    | false =>
      rw [FileSink.discard_of_closed isOpen] at dropped
      cases dropped
      rfl
  | openedUnit | misplaced | wrote | unwritten | recorded | unrecorded | droppedUnit => rfl

/-- A sink over a file whose close fails, or that is dropped, changes nothing but its temporary
file, which is gone. -/
theorem Follows.at?_of_refused {file : FileSink} {header : List Json → Except CommitFault String}
    (follows : table.Follows events) (found : table.sinks.lookup name = some (.toFile file header))
    (isOpen : file.sink.isOpen = true) {action : SinkAction}
    (refused : action = .discard ∨
      action = .close ∧ ∃ fault, (table.step name action).1 = .error fault) :
    (table.step name action).2.tree.at? place =
      if place = file.output.temporary then none else table.tree.at? place := by
  obtain ⟨beside, -⟩ := follows.of_toFile found
  have does := table.does_step name action
  generalize (table.step name action).1 = answer at does refused
  generalize (table.step name action).2 = next at does
  rcases refused with rfl | ⟨rfl, fault, rfl⟩
  · cases does with
    | unnamed missing | droppedUnit missing => simp [found] at missing
    | droppedFile again dropped =>
      cases found.symm.trans again
      exact FileSink.at?_discard beside isOpen dropped
  · generalize failed : (Except.error fault : Except SinkFault Unit) = answer at does
    cases does with
    | unnamed missing | closedUnit missing => simp [found] at missing
    | @closedFile _ _ _ taken _ again closed =>
      cases found.symm.trans again
      cases taken with
      | ok => cases failed
      | error error => exact FileSink.at?_close_of_error beside closed

/-! ### Ends -/

/-- A table in which nothing has changed: the tree, the unit, and what is under each name. -/
structure Same (table next : SinkTable) : Prop where
  /-- The tree. -/
  tree : next.tree = table.tree
  /-- The unit. -/
  unit : next.unit = table.unit
  /-- What is under a name. -/
  lookup (name : String) : next.sinks.lookup name = table.sinks.lookup name

variable {named : NamedSink} {action : SinkAction}

omit [WorkingDirectory] in
/-- What is under a name already may be put there again. -/
theorem same_put (found : table.sinks.lookup name = some named) :
    table.Same (table.put name named) := by
  refine ⟨rfl, rfl, fun other => ?_⟩
  rw [lookup_put]
  split
  next same => rw [same, found]
  next => rfl

/-- Whether or not that succeeds, a sink that is ended is closed. -/
theorem isClosed_of_end (found : table.sinks.lookup name = some named)
    (ends : action = .close ∨ action = .discard) :
    ∃ closed, (table.step name action).2.sinks.lookup name = some closed ∧
      closed.sink.isOpen = false := by
  have does := table.does_step name action
  generalize (table.step name action).1 = answer at does
  generalize (table.step name action).2 = next at does ⊢
  -- the name is known, so the action is the end of a sink of one of the two kinds
  rcases ends with rfl | rfl
  · cases does with
    | unnamed missing => simp [found] at missing
    | closedUnit =>
      refine ⟨_, by rw [lookup_put, if_pos rfl], ?_⟩
      rw [DeclarationUnit.take_fst]
      rfl
    | closedFile _ closed =>
      refine ⟨_, by rw [lookup_put, if_pos rfl], ?_⟩
      rw [FileSink.close_eq closed]
      rfl
  · cases does with
    | unnamed missing => simp [found] at missing
    | droppedUnit => exact ⟨_, by rw [lookup_put, if_pos rfl], rfl⟩
    | droppedFile _ dropped =>
      refine ⟨_, by rw [lookup_put, if_pos rfl], ?_⟩
      rw [FileSink.discard_eq dropped]
      rfl

/-- Nothing happens where a closed sink is ended again. -/
theorem same_of_closed (found : table.sinks.lookup name = some named)
    (closed : named.sink.isOpen = false) (ends : action = .close ∨ action = .discard) :
    (table.step name action).1 = .ok () ∧ table.Same (table.step name action).2 := by
  have does := table.does_step name action
  generalize (table.step name action).1 = answer at does ⊢
  generalize (table.step name action).2 = next at does ⊢
  rcases ends with rfl | rfl
  · cases does with
    | unnamed missing => simp [found] at missing
    | @closedUnit sink again =>
      cases found.symm.trans again
      replace closed : sink.isOpen = false := closed
      -- a unit takes nothing from a sink that is closed
      have kept : table.unit.take sink = (sink, table.unit) := if_neg (by simp [closed])
      rw [kept]
      exact ⟨rfl, same_put again⟩
    | closedFile again shut =>
      cases found.symm.trans again
      rw [FileSink.close_of_closed closed] at shut
      cases shut
      exact ⟨rfl, same_put again⟩
  · cases does with
    | unnamed missing => simp [found] at missing
    | @droppedUnit sink again =>
      cases found.symm.trans again
      replace closed : sink.isOpen = false := closed
      rw [Sink.close_of_closed closed]
      exact ⟨rfl, same_put again⟩
    | droppedFile again dropped =>
      cases found.symm.trans again
      rw [FileSink.discard_of_closed closed] at dropped
      cases dropped
      exact ⟨rfl, same_put again⟩

/-- A closed sink is not written to. -/
theorem write_of_closed (found : table.sinks.lookup name = some named)
    (closed : named.sink.isOpen = false) (text : Json) :
    table.step name (.write text) = (.error (.closed named.sink.blockName), table) := by
  simp [step, found, useSink, Sink.write?, closed]

/-! ### All actions -/

/-- The destinations of sinks that are to be opened. -/
def destinations (uses : List (String × SinkAction)) : List Path :=
  uses.filterMap (·.2.destination?)

/-- What a destination is to hold: the text that was put there last, or what was there at first. -/
def heldAt (place : Place) (tree : FileTree) (commits : List (Place × String)) : Option FileNode :=
  ((commits.reverse.lookup place).map .file).or (tree.at? place)

/-- A destination that is no directory above one holds the text that was put there last. -/
theorem Follows.at?_runAll (follows : table.Follows events) {uses : List (String × SinkAction)}
    (plain : place.IsPlain) (apart : ∀ path ∈ destinations uses, ¬ path.parent.Crosses place) :
    (table.runAll uses).2.tree.at? place =
      heldAt place table.tree (along commit? events (table.runAll uses).1) := by
  induction uses generalizing table events with
  | nil => rfl
  | cons use rest ih =>
    have now := follows.at?_step use.1 use.2 plain fun path destination =>
      apart path (List.mem_filterMap.mpr ⟨use, List.mem_cons_self, destination⟩)
    have later := ih (follows.step use.1 use.2) fun path member =>
      apart path (by
        obtain ⟨other, inside, destination⟩ := List.mem_filterMap.mp member
        exact List.mem_filterMap.mpr ⟨other, List.mem_cons_of_mem _ inside, destination⟩)
    rw [SinkTable.runAll, along]
    refine later.trans ?_
    rw [heldAt, now, heldAt, List.reverse_append, List.lookup_append, Option.map_or,
      Option.or_assoc]
    congr 3
    cases commit? events _ <;> rfl

/-- A destination changes only as a whole, whatever is done with any number of sinks in any order:
it holds the text that the last close which succeeded on it put there, or what was there at first.
This holds of every destination that is none of the directories above a destination. A close of an
open sink that fails and a discard change nothing but the temporary file of the sink, which is gone
and is no destination. After either the sink is closed: to end it again changes nothing, and it is
not written to. -/
theorem destinations_change_as_wholes (tree : FileTree) (unit : DeclarationUnit)
    (uses : List (String × SinkAction)) :
    let ran := ({ tree, unit } : SinkTable).runAll uses
    (∀ text, (∀ path ∈ destinations uses, ¬ path.parent.Crosses (Path.ofString text).place) →
        ran.2.tree.at? (Path.ofString text).place =
          heldAt (Path.ofString text).place tree (along commit? [] ran.1)) ∧
      (∀ name file header, ran.2.sinks.lookup name = some (.toFile file header) →
        (∀ text, (Path.ofString text).place ≠ file.output.temporary) ∧
          (file.sink.isOpen = true → ∀ action, action = .discard ∨
              action = .close ∧ (∃ fault, (ran.2.step name action).1 = .error fault) →
            ∀ place, (ran.2.step name action).2.tree.at? place =
              if place = file.output.temporary then none else ran.2.tree.at? place)) ∧
      ∀ name named, ran.2.sinks.lookup name = some named →
        (∀ action, action = .close ∨ action = .discard →
          (∃ closed, (ran.2.step name action).2.sinks.lookup name = some closed ∧
            closed.sink.isOpen = false) ∧
          (named.sink.isOpen = false →
            (ran.2.step name action).1 = .ok () ∧ ran.2.Same (ran.2.step name action).2)) ∧
        (named.sink.isOpen = false → ∀ text,
          ran.2.step name (.write text) = (.error (.closed named.sink.blockName), ran.2)) := by
  intro ran
  -- what the sinks of a table follow holds at first and is kept by every use
  have before : Follows { tree, unit } [] := follows_nil rfl
  have after := before.runAll uses
  refine ⟨fun text apart => ?_, fun name file header found => ⟨fun text => ?_, ?_⟩,
    fun name named found => ⟨fun action ends => ⟨?_, fun closed => ?_⟩, fun closed text => ?_⟩⟩
  · exact before.at?_runAll (Path.isPlain_place (Path.isProper_ofString text)) apart
  · exact (after.of_toFile found).1.ne_of_isPlain
      (Path.isPlain_place (Path.isProper_ofString text))
  · exact fun isOpen action refused place => after.at?_of_refused found isOpen refused
  · exact isClosed_of_end found ends
  · exact same_of_closed found closed ends
  · exact write_of_closed found closed text

end SinkTable

/-! ### Sinks in the root -/

namespace SinkTable

open SinkEvent (commit? along)

attribute [local instance] WorkingDirectory.root

/-- Two sinks over one file, which is in none of the directories that are made. The one that was
opened last is closed first, and the other one takes its place. -/
theorem destinations_change_as_wholes_sample :
    let header : List Json → Except CommitFault String := fun _ => .ok "h"
    let uses := [("s", SinkAction.openFile "B" (.string "d/x") header),
      ("r", .openFile "C" (.string "d/x") header), ("s", .write (.string "old")),
      ("r", .write (.string "new")), ("r", .close), ("s", .close)]
    let ran := ({ tree := {} } : SinkTable).runAll uses
    (∀ path ∈ destinations uses, ¬ path.parent.Crosses (Path.ofString "d/x").place) ∧
      ran.2.tree.at? (Path.ofString "d/x").place = some (.file "h\n\nold\n") := by
  intro header uses
  have apart : ∀ path ∈ destinations uses, ¬ path.parent.Crosses (Path.ofString "d/x").place := by
    decide +kernel
  refine ⟨apart, ((destinations_change_as_wholes {} {} uses).1 "d/x" apart).trans ?_⟩
  decide +kernel

/-- That no destination is a directory above another one is not enough: a directory above a
destination can be that destination itself. It is made when the destination is opened, although
nothing was ever put there. -/
theorem exists_destination_made_directory :
    ¬ ∀ (tree : FileTree) (unit : DeclarationUnit) (uses : List (String × SinkAction)),
      (∀ first ∈ destinations uses, ∀ second ∈ destinations uses, first ≠ second →
        ¬ second.parent.Crosses first.place) →
      let ran := ({ tree, unit } : SinkTable).runAll uses
      ∀ path ∈ destinations uses,
        ran.2.tree.at? path.place = heldAt path.place tree (along commit? [] ran.1) := by
  intro holds
  have one := holds {} {} [("s", .openFile "B" (.string "a/../a") fun _ => .ok "h")]
    (by decide +kernel) (Path.ofString "a/../a") (by decide +kernel)
  exact absurd one (by decide +kernel)

end SinkTable

end HostBindings
