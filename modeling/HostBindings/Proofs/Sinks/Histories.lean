import HostBindings.Proofs.Files.Outputs
import HostBindings.SinkTable

/-!
# Histories of sinks

What is done with sinks, in any order and with any number of them, is a list of events: something
was done with the sink of a name, and there was an answer. The events of one name from its last
opening on are the life of its sink, and what the sink holds is settled by them alone, whatever is
done with other sinks in between.

## Main definitions

* `SinkEvent`, `SinkTable.runAll` — what was done with sinks, and the answers
* `SinkTable.Does` — the ways an action can end
* `SinkEvent.life` — what was done with the sink of a name
* `SinkEvent.sinkOf` — the sink of a life
* `SinkEvent.along` — what comes of each event, behind the events before it
* `SinkTable.Follows` — a table that events lead to

## Main results

* `SinkTable.does_step` — every action ends in one of the ways
* `SinkTable.Follows.step`, `SinkTable.Follows.runAll` — the sinks are those of their lives
-/

namespace HostBindings

/-- Something that was done with the sink of a name, and the answer. -/
structure SinkEvent where
  /-- The name. -/
  name : String
  /-- What was done. -/
  action : SinkAction
  /-- The answer. -/
  answer : Except SinkFault Unit

namespace SinkEvent

/-- Whether a sink was opened. -/
def opens (event : SinkEvent) : Bool :=
  match event.action, event.answer with
  | .openUnit _, .ok () | .openFile _ _ _, .ok () => true
  | _, _ => false

/-- Whether the text of the sink was handed over or dropped, or would have been. -/
def ends (event : SinkEvent) : Bool :=
  match event.action with
  | .close | .discard => true
  | _ => false

/-- The text that was written. -/
def text? (event : SinkEvent) : Option String :=
  match event.action, event.answer with
  | .write text, .ok () => text.string?
  | _, _ => none

/-- The import that was recorded. -/
def import? (event : SinkEvent) : Option Json :=
  match event.action, event.answer with
  | .addImport path, .ok () => some path
  | _, _ => none

/-- What was done with the sink of a name: the events of the name from its last opening on. -/
def life (name : String) (events : List SinkEvent) : List SinkEvent :=
  events.foldl (fun life event =>
    if event.name ≠ name then life else if event.opens then [event] else life ++ [event]) []

/-- All texts that were written, one behind the other. -/
def bodyOf (uses : List SinkEvent) : String := String.join (uses.filterMap text?)

/-- All imports that were recorded, each once. -/
def importsOf (uses : List SinkEvent) : List Json := Json.unite [] (uses.filterMap import?)

/-- The sink of a block after what was done with it. -/
def sinkOf (blockName : String) (uses : List SinkEvent) : Sink :=
  { blockName, text := bodyOf uses, imports := importsOf uses, isOpen := !uses.any ends }

/-- What comes of each event behind the events before it, in order. -/
def along (result? : List SinkEvent → SinkEvent → Option α) (earlier : List SinkEvent) :
    List SinkEvent → List α
  | [] => []
  | event :: rest =>
    (result? earlier event).toList ++ along result? (earlier ++ [event]) rest

/-! ### Lives -/

variable {name : String} {events uses : List SinkEvent} {event : SinkEvent} {action : SinkAction}
  {answer : Except SinkFault Unit}

theorem life_concat_of_ne (other : event.name ≠ name) :
    life name (events ++ [event]) = life name events := by
  simp [life, List.foldl_append, other]

theorem life_concat_of_opens (opened : opens ⟨name, action, answer⟩ = true) :
    life name (events ++ [⟨name, action, answer⟩]) = [⟨name, action, answer⟩] := by
  simp [life, List.foldl_append, opened]

theorem life_concat_of_use (used : opens ⟨name, action, answer⟩ = false) :
    life name (events ++ [⟨name, action, answer⟩]) =
      life name events ++ [⟨name, action, answer⟩] := by
  simp [life, List.foldl_append, used]

theorem bodyOf_concat (uses : List SinkEvent) (event : SinkEvent) :
    bodyOf (uses ++ [event]) = bodyOf uses ++ event.text?.getD "" := by
  cases written : event.text? <;>
    simp [bodyOf, List.filterMap_append, String.join_append, written]

theorem importsOf_concat (uses : List SinkEvent) (event : SinkEvent) :
    importsOf (uses ++ [event]) =
      (event.import?.map (Json.addOnce (importsOf uses))).getD (importsOf uses) := by
  cases recorded : event.import? <;>
    simp [importsOf, Json.unite, List.filterMap_append, List.foldl_append, recorded]

/-- A sink that was used once more. -/
theorem sinkOf_concat (blockName : String) (uses : List SinkEvent) (event : SinkEvent) :
    sinkOf blockName (uses ++ [event]) =
      { sinkOf blockName uses with
        text := bodyOf uses ++ event.text?.getD ""
        imports := (event.import?.map (Json.addOnce (importsOf uses))).getD (importsOf uses)
        isOpen := !uses.any ends && !event.ends } := by
  simp [sinkOf, bodyOf_concat, importsOf_concat, List.any_append]

/-- What does not write, record an import or end a sink leaves it as it is. -/
theorem sinkOf_concat_of_idle (blockName : String) (uses : List SinkEvent)
    (written : event.text? = none) (recorded : event.import? = none)
    (goesOn : event.ends = false) : sinkOf blockName (uses ++ [event]) = sinkOf blockName uses := by
  rw [sinkOf_concat]
  simp [written, recorded, goesOn, sinkOf]

/-- What came of events came of one of them. -/
theorem of_mem_along {result? : List SinkEvent → SinkEvent → Option α}
    {earlier events : List SinkEvent} {result : α}
    (member : result ∈ along result? earlier events) :
    ∃ earlier event, result? earlier event = some result := by
  induction events generalizing earlier with
  | nil => cases member
  | cons event rest ih =>
    rcases List.mem_append.mp member with now | later
    · exact ⟨earlier, event, Option.mem_toList.mp now⟩
    · exact ih later

end SinkEvent

/-! ### One action -/

namespace NamedSink

@[simp] theorem sink_withSink (named : NamedSink) (sink : Sink) :
    (named.withSink sink).sink = sink := by
  cases named <;> rfl

end NamedSink

namespace SinkTable

variable {table next : SinkTable} {name other : String} {action : SinkAction}
  {answer : Except SinkFault Unit}

/-- A sink that is put under a name is found there, and those of other names stay. -/
theorem lookup_put (table : SinkTable) (name other : String) (sink : NamedSink) :
    (table.put name sink).sinks.lookup other =
      if other = name then some sink else table.sinks.lookup other := by
  unfold put
  by_cases same : other = name
  · simp [same]
  · have elsewhere : (other == name) = false := beq_false_of_ne same
    rw [if_neg same, List.lookup_cons, elsewhere]
    dsimp only
    induction table.sinks with
    | nil => rfl
    | cons entry rest ih =>
      obtain ⟨key, value⟩ := entry
      by_cases gone : key = name
      · rw [List.filter_cons_of_neg (by simp [gone]), ih, List.lookup_cons, gone, elsewhere]
      · rw [List.filter_cons_of_pos (by simp [gone]), List.lookup_cons, List.lookup_cons, ih]

@[simp] theorem unit_put (table : SinkTable) (name : String) (sink : NamedSink) :
    (table.put name sink).unit = table.unit := rfl

@[simp] theorem tree_put (table : SinkTable) (name : String) (sink : NamedSink) :
    (table.put name sink).tree = table.tree := rfl

variable [WorkingDirectory]

/-- The ways an action can end. -/
inductive Does (table : SinkTable) (name : String) :
    SinkAction → Except SinkFault Unit → SinkTable → Prop where
  /-- A sink over the unit is opened. -/
  | openedUnit (blockName : String) :
      Does table name (.openUnit blockName) (.ok ()) (table.put name (.toUnit { blockName }))
  /-- A sink over a file is opened. -/
  | openedFile {blockName text : String} {header : List Json → Except CommitFault String}
      {file : FileSink} {tree : FileTree} {log : Log} :
      FileSink.create table.tree (Path.ofString text) blockName = (.ok file, tree) →
      Does table name (.openFile blockName (.string text) header) (.ok ())
        (put { table with tree, log } name (.toFile file header))
  /-- A sink over a file is not opened. -/
  | unopened {blockName text : String} {header : List Json → Except CommitFault String}
      {fault : OpenFault} {tree : FileTree} :
      FileSink.create table.tree (Path.ofString text) blockName = (.error fault, tree) →
      Does table name (.openFile blockName (.string text) header) (.error (.unopened fault))
        { table with tree }
  /-- A path is no text. -/
  | misplaced {blockName : String} {path : Json} {header : List Json → Except CommitFault String}
      {fault : UseFault} :
      Does table name (.openFile blockName path header) (.error (.value fault)) table
  /-- There is no sink of the name. -/
  | unnamed {action : SinkAction} : table.sinks.lookup name = none →
      Does table name action (.error .unnamed) table
  /-- Text is written. -/
  | wrote {named : NamedSink} {text : String} : table.sinks.lookup name = some named →
      named.sink.isOpen = true →
      Does table name (.write (.string text)) (.ok ())
        (table.put name (named.withSink { named.sink with text := named.sink.text ++ text }))
  /-- Text is not written: the sink is closed, or it is no text. -/
  | unwritten {named : NamedSink} {text : Json} {fault : SinkFault} :
      table.sinks.lookup name = some named →
      (named.sink.isOpen = false → fault = .closed named.sink.blockName) →
      Does table name (.write text) (.error fault) table
  /-- An import is recorded. -/
  | recorded {named : NamedSink} {path : Json} : table.sinks.lookup name = some named →
      Does table name (.addImport path) (.ok ())
        (table.put name (named.withSink (named.sink.addImport path)))
  /-- An import is not recorded: it cannot be told apart from others. -/
  | unrecorded {named : NamedSink} {path : Json} {fault : UseFault} :
      table.sinks.lookup name = some named →
      Does table name (.addImport path) (.error (.value fault)) table
  /-- The text of a sink is handed over to the unit. -/
  | closedUnit {sink : Sink} : table.sinks.lookup name = some (.toUnit sink) →
      Does table name .close (.ok ())
        (put { table with unit := (table.unit.take sink).2 } name
          (.toUnit (table.unit.take sink).1))
  /-- The text of a sink goes to its file. -/
  | closedFile {file after : FileSink} {header : List Json → Except CommitFault String}
      {taken : Except SinkError Unit} {tree : FileTree} :
      table.sinks.lookup name = some (.toFile file header) →
      file.close header table.tree = (taken, after, tree) →
      Does table name .close (taken.mapError .uncommitted)
        (put { table with tree } name (.toFile after header))
  /-- The text of a sink over the unit is dropped. -/
  | droppedUnit {sink : Sink} : table.sinks.lookup name = some (.toUnit sink) →
      Does table name .discard (.ok ()) (table.put name (.toUnit sink.close))
  /-- The text of a sink over a file is dropped. -/
  | droppedFile {file after : FileSink} {header : List Json → Except CommitFault String}
      {tree : FileTree} : table.sinks.lookup name = some (.toFile file header) →
      file.discard table.tree = (after, tree) →
      Does table name .discard (.ok ()) (put { table with tree } name (.toFile after header))

end SinkTable

/-! ### Ends of a sink -/

/-- A sink that is closed stays as it is when it is closed again. -/
theorem Sink.close_of_closed {sink : Sink} (closed : sink.isOpen = false) : sink.close = sink := by
  rw [Sink.close, ← closed]

theorem DeclarationUnit.take_fst (unit : DeclarationUnit) (sink : Sink) :
    (unit.take sink).1 = sink.close := by
  unfold DeclarationUnit.take
  split
  · rfl
  next closed => exact (Sink.close_of_closed (by simpa using closed)).symm

namespace FileSink

variable {tree last : FileTree} {path : Path} {blockName : String} {file after : FileSink}

theorem discard_eq (dropped : file.discard tree = (after, last)) :
    after = { file with sink := file.sink.close } := by
  unfold discard at dropped
  split at dropped
  · cases dropped
    rfl
  next already =>
    cases dropped
    rw [Sink.close_of_closed (by simpa using already)]

variable [WorkingDirectory]

/-- A sink over a file is opened with its file, and holds nothing. -/
theorem create_eq_ok (created : create tree path blockName = (.ok file, last)) :
    ∃ output, output.Opened path tree last ∧ file = ⟨{ blockName }, output⟩ := by
  unfold create at created
  rcases opened : OutputFile.create tree path with ⟨fault | output, below⟩
  all_goals
    rw [opened] at created
    cases created
  exact ⟨output, OutputFile.opened_create opened, rfl⟩

/-- Whether or not its file is written, a sink is closed in the end. -/
theorem close_eq {header : List Json → Except CommitFault String} {taken : Except SinkError Unit}
    (closed : file.close header tree = (taken, after, last)) :
    after = { file with sink := file.sink.close } := by
  unfold close at closed
  split at closed
  · cases closed
    rfl
  next already =>
    cases closed
    rw [Sink.close_of_closed (by simpa using already)]

end FileSink

namespace SinkTable

variable {table next : SinkTable} {name other : String} {action : SinkAction}
  {answer : Except SinkFault Unit}

/-! ### Lives of sinks -/

open SinkEvent (life sinkOf)

/-- What is under a name by the life of its sink. -/
inductive Lived : List SinkEvent → Option NamedSink → Prop where
  /-- No sink was opened. -/
  | unopened {uses : List SinkEvent} : (∀ event ∈ uses, event.opens = false) → Lived uses none
  /-- A sink over the unit was opened. -/
  | toUnit {name blockName : String} {uses : List SinkEvent} :
      Lived (⟨name, .openUnit blockName, .ok ()⟩ :: uses) (some (.toUnit (sinkOf blockName uses)))
  /-- A sink over a file was opened. -/
  | toFile {name blockName text : String} {header : List Json → Except CommitFault String}
      {uses : List SinkEvent} {output : OutputFile} : output.path = Path.ofString text →
      output.IsBeside →
      Lived (⟨name, .openFile blockName (.string text) header, .ok ()⟩ :: uses)
        (some (.toFile ⟨sinkOf blockName uses, output⟩ header))

/-- A table that events lead to: what is under each name is the sink of its life. -/
def Follows (table : SinkTable) (events : List SinkEvent) : Prop :=
  ∀ name, Lived (life name events) (table.sinks.lookup name)

/-- Before anything is done there are no sinks. -/
theorem follows_nil (none : table.sinks = []) : table.Follows [] := by
  intro name
  rw [none]
  exact .unopened (by simp [life])

variable {events uses : List SinkEvent} {named : NamedSink}

theorem Lived.of_none (lived : Lived uses none) : ∀ event ∈ uses, event.opens = false := by
  cases lived with
  | unopened unopened => exact unopened

/-- A use that does not write, record an import or end the sink leaves what is under the name. -/
theorem Lived.idle {event : SinkEvent} {found : Option NamedSink} (lived : Lived uses found)
    (used : event.opens = false) (written : event.text? = none) (recorded : event.import? = none)
    (goesOn : event.ends = false) : Lived (uses ++ [event]) found := by
  cases lived with
  | unopened unopened =>
    exact .unopened (List.forall_mem_append.mpr ⟨unopened, by simpa using used⟩)
  | @toUnit _ blockName uses =>
    rw [← SinkEvent.sinkOf_concat_of_idle blockName uses written recorded goesOn]
    exact .toUnit
  | @toFile _ blockName _ _ uses _ path beside =>
    rw [← SinkEvent.sinkOf_concat_of_idle blockName uses written recorded goesOn]
    exact .toFile path beside

/-- A use that changes the sink as its event says. -/
theorem Lived.change {event : SinkEvent} {sink : Sink} (lived : Lived uses (some named))
    (changes : ∀ blockName uses, named.sink = sinkOf blockName uses →
      sink = sinkOf blockName (uses ++ [event])) :
    Lived (uses ++ [event]) (some (named.withSink sink)) := by
  cases lived with
  | toUnit =>
    rw [changes _ _ rfl]
    exact .toUnit
  | toFile path beside =>
    rw [changes _ _ rfl]
    exact .toFile path beside

/-- A sink that is ended stays what it was, but is closed. -/
theorem Lived.ended {event : SinkEvent} (lived : Lived uses (some named))
    (written : event.text? = none) (recorded : event.import? = none) (ends : event.ends = true) :
    Lived (uses ++ [event]) (some (named.withSink named.sink.close)) := by
  refine lived.change fun blockName uses same => ?_
  rw [same, SinkEvent.sinkOf_concat]
  simp [written, recorded, ends, Sink.close, sinkOf]

/-! ### All actions -/

variable [WorkingDirectory]

/-- Every action ends in one of the ways. -/
theorem does_step (table : SinkTable) (name : String) (action : SinkAction) :
    table.Does name action (table.step name action).1 (table.step name action).2 := by
  cases action with
  | openUnit blockName => exact .openedUnit blockName
  | openFile blockName path header =>
    cases path with
    | string text =>
      simp only [step, Json.pathText, openFile]
      rcases created : FileSink.create table.tree (Path.ofString text) blockName with
        ⟨fault | file, tree⟩
      · exact .unopened created
      · exact .openedFile created
    | null | bool | int | float | array | object => exact .misplaced
  | write text =>
    cases found : table.sinks.lookup name with
    | none => simpa only [step, found] using .unnamed found
    | some named =>
      -- a closed sink refuses whatever it is given, an open one what is no text
      by_cases isOpen : named.sink.isOpen = true
      · simp only [step, found, useSink, Sink.write?, if_pos isOpen]
        cases text with
        | string text => exact .wrote found isOpen
        | null | bool | int | float | array | object =>
          exact .unwritten found fun closed => by rw [isOpen] at closed; cases closed
      · simp only [step, found, useSink, Sink.write?, if_neg isOpen]
        exact .unwritten found fun _ => rfl
  | addImport path =>
    cases found : table.sinks.lookup name with
    | none => simpa only [step, found] using .unnamed found
    | some named =>
      simp only [step, found, useSink, Json.hashed]
      cases path.isHashable with
      | false =>
        simp only [Bool.false_eq_true, if_false]
        exact .unrecorded found
      | true =>
        simp only [if_true]
        exact .recorded found
  | close =>
    cases found : table.sinks.lookup name with
    | none => simpa only [step, found] using .unnamed found
    | some named =>
      simp only [step, found, useSink, close]
      cases named with
      | toUnit sink => exact .closedUnit found
      | toFile file header => exact .closedFile found rfl
  | discard =>
    cases found : table.sinks.lookup name with
    | none => simpa only [step, found] using .unnamed found
    | some named =>
      simp only [step, found, useSink, discard]
      cases named with
      | toUnit sink => exact .droppedUnit found
      | toFile file header => exact .droppedFile found rfl

/-- What is done with a sink leaves those of other names as they are. -/
theorem Does.lookup_of_ne (does : table.Does name action answer next) (elsewhere : other ≠ name) :
    next.sinks.lookup other = table.sinks.lookup other := by
  cases does <;> first | rfl | rw [lookup_put, if_neg elsewhere]

/-- Does something with sinks, one after the other. The answer has all that was done. -/
def runAll (table : SinkTable) : List (String × SinkAction) → List SinkEvent × SinkTable
  | [] => ([], table)
  | (name, action) :: rest =>
    let (answer, next) := table.step name action
    let (events, last) := runAll next rest
    (⟨name, action, answer⟩ :: events, last)

/-- What is done under a name becomes part of the life of its sink. -/
theorem Does.lived (does : table.Does name action answer next)
    (lived : Lived (life name events) (table.sinks.lookup name)) :
    Lived (life name (events ++ [⟨name, action, answer⟩])) (next.sinks.lookup name) := by
  cases does with
  | openedUnit blockName =>
    rw [lookup_put, if_pos rfl, SinkEvent.life_concat_of_opens rfl]
    exact .toUnit
  | openedFile created =>
    rw [lookup_put, if_pos rfl, SinkEvent.life_concat_of_opens rfl]
    obtain ⟨output, opened, rfl⟩ := FileSink.create_eq_ok created
    exact .toFile opened.destination opened.isBeside
  | unopened | misplaced =>
    rw [SinkEvent.life_concat_of_use rfl]
    -- the sink is as before, and the event in its life has no effect on it
    exact lived.idle rfl rfl rfl rfl
  | unnamed found =>
    have used : SinkEvent.opens ⟨name, action, .error .unnamed⟩ = false := by
      cases action <;> rfl
    rw [found] at lived ⊢
    rw [SinkEvent.life_concat_of_use used]
    exact .unopened (List.forall_mem_append.mpr ⟨lived.of_none, by simpa using used⟩)
  | wrote found =>
    rw [found] at lived
    rw [lookup_put, if_pos rfl, SinkEvent.life_concat_of_use rfl]
    refine lived.change fun blockName uses same => ?_
    rw [same, SinkEvent.sinkOf_concat]
    simp [SinkEvent.text?, SinkEvent.import?, SinkEvent.ends, Json.string?, sinkOf]
  | unwritten | unrecorded =>
    rw [SinkEvent.life_concat_of_use rfl]
    exact lived.idle rfl rfl rfl rfl
  | recorded found =>
    rw [found] at lived
    rw [lookup_put, if_pos rfl, SinkEvent.life_concat_of_use rfl]
    refine lived.change fun blockName uses same => ?_
    rw [same, SinkEvent.sinkOf_concat]
    simp [SinkEvent.text?, SinkEvent.import?, SinkEvent.ends, Sink.addImport, sinkOf]
  | closedUnit found =>
    rw [found] at lived
    rw [lookup_put, if_pos rfl, SinkEvent.life_concat_of_use rfl,
      DeclarationUnit.take_fst]
    exact lived.ended rfl rfl rfl
  | closedFile found closed =>
    rw [found] at lived
    rw [lookup_put, if_pos rfl, SinkEvent.life_concat_of_use rfl, FileSink.close_eq closed]
    exact lived.ended rfl rfl rfl
  | droppedUnit found =>
    rw [found] at lived
    rw [lookup_put, if_pos rfl, SinkEvent.life_concat_of_use rfl]
    exact lived.ended rfl rfl rfl
  | droppedFile found dropped =>
    rw [found] at lived
    rw [lookup_put, if_pos rfl, SinkEvent.life_concat_of_use rfl, FileSink.discard_eq dropped]
    exact lived.ended rfl rfl rfl

/-- What is done with a sink becomes part of its life, and of no other. -/
theorem Follows.step (follows : table.Follows events) (name : String) (action : SinkAction) :
    (table.step name action).2.Follows
      (events ++ [⟨name, action, (table.step name action).1⟩]) := by
  have does := table.does_step name action
  intro other
  by_cases named : other = name
  · subst named
    exact does.lived (follows other)
  · rw [does.lookup_of_ne named, SinkEvent.life_concat_of_ne (Ne.symm named)]
    exact follows other

/-- Whatever is done with sinks, each one is what its life makes it. -/
theorem Follows.runAll (follows : table.Follows events) (uses : List (String × SinkAction)) :
    (table.runAll uses).2.Follows (events ++ (table.runAll uses).1) := by
  induction uses generalizing table events with
  | nil => rwa [SinkTable.runAll, List.append_nil]
  | cons use rest ih =>
    rw [SinkTable.runAll, List.append_cons]
    exact ih (follows.step use.1 use.2)

end SinkTable

end HostBindings
