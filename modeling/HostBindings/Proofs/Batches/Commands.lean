import HostBindings.CommandLine.Command
import HostBindings.Proofs.Batches.Jobs

/-!
# The command and its batch

A command that comes to its batch runs all documents, one after the other, and then reports all of
them. The exit code is zero if there are documents and all went well. A document that fails stops
nothing; only one that is not orderly may end the command, and then the documents before it have
been processed.

## Main definitions

* `Commanding.KeepsConsole` — actions after which the console is the same
* `upToBatch`, `fromBatch` — what the command does before its batch, and from there on
* `Start`, `Start.of` — a batch that the command comes to

## Main results

* `perform_eq` — the command in two parts
* `Start.command_of_runs`, `Start.command_of_fault` — how the command ends after its batch
* `Start.command_processes` — a command that comes to a batch
-/

namespace HostBindings.CommandLine

variable {α β : Type}

/-! ### Actions of the command -/

namespace Commanding

/-- The result of an action, or how it ends the command, and the state it leads to. -/
def outcome (action : Commanding α) (before : Session) : Except Abort α × Session :=
  action.run.run before

variable {session : Session}

theorem outcome_bind (action : Commanding α) (next : α → Commanding β) :
    outcome (action >>= next) session =
      match action.outcome session with
      | (.ok a, after) => (next a).outcome after
      | (.error abort, after) => (.error abort, after) := by
  unfold outcome
  rw [ExceptT.run_bind, StateT.run_bind]
  rcases (action.run.run session : Except Abort α × Session) with ⟨_ | a, after⟩ <;> rfl

@[simp] theorem outcome_get : outcome (get : Commanding _) session = (.ok session, session) := rfl

@[simp] theorem outcome_pure (a : α) :
    outcome (pure a : Commanding α) session = (.ok a, session) := rfl

@[simp] theorem outcome_note (level : Level) (message : String) :
    outcome (note level message) session =
      (.ok (), { session with log := session.log ++ [⟨level, message⟩] }) := rfl

theorem outcome_displayItem (item : ScreenItem) :
    outcome (displayItem item) session =
      match session.console.refusal? item with
      | some reason => (.error (.crash (.screen reason)), session)
      | none => (.ok (), { session with screen := session.screen ++ [item] }) := by
  unfold displayItem
  rw [outcome_bind, outcome_get]
  dsimp only
  cases session.console.refusal? item <;> rfl

/-- What a console shows is added to what was shown. -/
theorem outcome_display {items : List ScreenItem}
    (shown : ∀ item ∈ items, session.console.refusal? item = none) :
    outcome (display items) session =
      (.ok (), { session with screen := session.screen ++ items }) := by
  induction items generalizing session with
  | nil =>
    rw [List.append_nil]
    rfl
  | cons item rest ih =>
    obtain ⟨first, others⟩ := List.forall_mem_cons.mp shown
    change outcome (displayItem item >>= fun _ => display rest) session = _
    rw [outcome_bind, outcome_displayItem, first]
    refine (ih ?_).trans ?_
    · exact others
    · rw [List.append_assoc, List.singleton_append]

/-- The first thing that a console refuses ends the command. -/
theorem outcome_display_of_refused {items : List ScreenItem} {reason : String}
    (refused : items.findSome? session.console.refusal? = some reason) :
    ∃ after, outcome (display items) session = (.error (.crash (.screen reason)), after) := by
  induction items generalizing session with
  | nil => cases refused
  | cons item rest ih =>
    change ∃ after, outcome (displayItem item >>= fun _ => display rest) session = _
    rw [outcome_bind, outcome_displayItem]
    rw [List.findSome?_cons] at refused
    cases first : session.console.refusal? item with
    | some cause =>
      rw [first] at refused
      cases refused
      exact ⟨_, rfl⟩
    | none =>
      rw [first] at refused
      exact ih refused

/-! ### The console stays -/

/-- The console is the same after an action. -/
def KeepsConsole (action : Commanding α) : Prop :=
  ∀ session, (action.outcome session).2.console = session.console

theorem keepsConsole_pure (a : α) : KeepsConsole (pure a) := fun _ => rfl

theorem keepsConsole_throw (abort : Abort) : KeepsConsole (throw abort : Commanding α) :=
  fun _ => rfl

theorem keepsConsole_get : KeepsConsole get := fun _ => rfl

theorem keepsConsole_modify {change : Session → Session}
    (kept : ∀ session, (change session).console = session.console) :
    KeepsConsole (modify change) := kept

theorem KeepsConsole.bind {action : Commanding α} {next : α → Commanding β}
    (first : KeepsConsole action) (others : ∀ a, KeepsConsole (next a)) :
    KeepsConsole (action >>= next) := by
  intro session
  have kept := first session
  rw [outcome_bind]
  rcases ran : action.outcome session with ⟨abort | a, after⟩ <;> rw [ran] at kept
  · exact kept
  · exact (others a after).trans kept

theorem keepsConsole_forM {action : α → Commanding Unit} (each : ∀ a, KeepsConsole (action a))
    (items : List α) : KeepsConsole (items.forM action) := by
  induction items with
  | nil => exact keepsConsole_pure ()
  | cons item rest ih => exact (each item).bind fun _ => ih

theorem keepsConsole_display (items : List ScreenItem) : KeepsConsole (display items) := by
  refine keepsConsole_forM (fun item session => ?_) items
  rw [outcome_displayItem]
  cases session.console.refusal? item <;> rfl

theorem keepsConsole_note (level : Level) (message : String) :
    KeepsConsole (note level message) := fun _ => rfl

theorem keepsConsole_setting (result : Except UseFault α) : KeepsConsole (setting result) := by
  cases result
  · exact keepsConsole_throw _
  · exact keepsConsole_pure _

theorem keepsConsole_attempt {ε : Type} (abort : ε → Abort) (action : Attempt ε α) :
    KeepsConsole (attempt abort action) := by
  intro session
  unfold attempt
  rw [outcome_bind, outcome_get]
  dsimp only
  rcases action.run.run session.log with ⟨_ | _, log⟩ <;> rfl

end Commanding

variable [WorkingDirectory]

section Parts

open Commanding

omit [WorkingDirectory] in
theorem keepsConsole_listLanguages (registry : Registry) :
    KeepsConsole (listLanguages registry) := by
  unfold listLanguages
  dsimp only
  split <;> exact (keepsConsole_display _).bind fun _ => keepsConsole_pure _

theorem keepsConsole_describeLanguage (registry : Registry) (language : String) :
    KeepsConsole (describeLanguage registry language) := by
  unfold describeLanguage
  split
  · exact (keepsConsole_display _).bind fun _ => keepsConsole_pure _
  · refine (keepsConsole_display _).bind fun _ => keepsConsole_get.bind fun _ => ?_
    exact (keepsConsole_attempt _ _).bind fun _ =>
      (keepsConsole_display _).bind fun _ => keepsConsole_pure _

theorem keepsConsole_effectiveSettings (registry : Registry) (arguments : Arguments)
    (named : String) : KeepsConsole (effectiveSettings registry arguments named) := by
  unfold effectiveSettings
  refine keepsConsole_get.bind fun _ => (keepsConsole_attempt _ _).bind fun _ => ?_
  refine (keepsConsole_setting _).bind fun problems => ?_
  refine (keepsConsole_forM (fun _ => ?_) problems).bind fun _ => keepsConsole_pure _
  exact (keepsConsole_note _ _).bind fun _ => keepsConsole_display _

theorem keepsConsole_writeSettings (settings : Settings) (file : String) :
    KeepsConsole (writeSettings settings file) := by
  unfold writeSettings
  refine keepsConsole_get.bind fun _ => ?_
  split
  · exact keepsConsole_throw _
  · refine KeepsConsole.bind ?_ fun _ => keepsConsole_display _
    exact keepsConsole_modify fun _ => rfl

theorem keepsConsole_jobsOf (arguments : Arguments) : KeepsConsole (jobsOf arguments) := by
  unfold jobsOf
  exact keepsConsole_get.bind fun _ => (keepsConsole_attempt _ _).bind fun _ => keepsConsole_pure _

end Parts

/-! ### The two parts of the command -/

/-- What the command does up to its batch: the exit code if it comes to none, else the generator and
the documents. -/
def upToBatch (arguments : Arguments) : Commanding (Nat ⊕ Generator × List Job) := do
  let registry := Registry.builtin
  let described := arguments.languageInfo.content
  if arguments.listLanguages then return .inl (← listLanguages registry)
  else if described ≠ "" then return .inl (← describeLanguage registry described)
  else
    let language ← Commanding.setting (arguments.language.setting.textFor "lower")
    if !registry.isSupported language then
      throw (.error (.unsupported language registry.languages))
    let settings ← effectiveSettings registry arguments language
    let hasInput := !arguments.inputs.isEmpty || arguments.url.content ≠ ""
    let target := arguments.writeConfig.content
    if target ≠ "" then writeSettings settings target
    if target ≠ "" && !hasInput then return .inl 0
    if !hasInput then throw (.error .noInput)
    let tree := (← get).tree
    let generator ← Commanding.attempt (fun error => .error (.registry error))
      (registry.create tree language (.given settings))
    let jobs ← jobsOf arguments
    return .inr (generator, jobs)

/-- What the command does from its batch on. -/
def fromBatch (web : Web.Lookup) (arguments : Arguments) (generator : Generator)
    (jobs : List Job) : Commanding Nat := do
  if jobs.isEmpty then
    Commanding.display [.line "[red]✗[/red] No schema files to process"]
    return 1
  let output := arguments.output.content
  let directory := if output = "" then none else some (Path.ofString output)
  if directory.isNone && (jobs.length > 1 || generator.settings.perBlock) then
    throw (.error .noDirectory)
  let runs ← runBatch { generator, directory, web, console := (← get).console } jobs
  Commanding.display (batchItems directory.isNone arguments.verbose runs)
  let processed := (runs.filter FileRun.ok).length
  Commanding.note .info s!"{processed} of {runs.length} schema files processed"
  return exitCode runs

open Commanding in
/-- Up to its batch the command keeps the console. -/
theorem keepsConsole_upToBatch (arguments : Arguments) : KeepsConsole (upToBatch arguments) := by
  unfold upToBatch
  dsimp only
  split
  · exact (keepsConsole_listLanguages _).bind fun _ => keepsConsole_pure _
  split
  · exact (keepsConsole_describeLanguage _ _).bind fun _ => keepsConsole_pure _
  refine (keepsConsole_setting _).bind fun language => ?_
  split
  · exact keepsConsole_throw _
  refine (keepsConsole_effectiveSettings _ _ _).bind fun settings => ?_
  have goesOn : KeepsConsole (do
      let tree := (← get).tree
      let generator ← attempt (fun error => .error (.registry error))
        (Registry.builtin.create tree language (.given settings))
      let jobs ← jobsOf arguments
      return .inr (generator, jobs) : Commanding (Nat ⊕ Generator × List Job)) :=
    keepsConsole_get.bind fun _ => (keepsConsole_attempt _ _).bind fun _ =>
      (keepsConsole_jobsOf _).bind fun _ => keepsConsole_pure _
  -- settings may be written first; from there on both cases are the same
  split
  · refine (keepsConsole_writeSettings _ _).bind fun _ => ?_
    split
    · exact keepsConsole_pure _
    split
    · exact keepsConsole_throw _
    · exact goesOn
  · split
    · exact keepsConsole_pure _
    split
    · exact keepsConsole_throw _
    · exact goesOn

theorem generateInputs_eq (web : Web.Lookup) (arguments : Arguments) (generator : Generator) :
    generateInputs web arguments generator =
      jobsOf arguments >>= fromBatch web arguments generator := rfl

/-- The command in two parts. -/
theorem perform_eq (web : Web.Lookup) (arguments : Arguments) :
    perform web arguments = upToBatch arguments >>=
      Sum.elim pure fun start => fromBatch web arguments start.1 start.2 := by
  unfold perform upToBatch
  dsimp only
  split
  · simp
  split
  · simp
  · simp only [generateInputs_eq, bind_assoc]
    refine bind_congr fun language => ?_
    split
    · simp
    simp only [bind_assoc]
    refine bind_congr fun settings => ?_
    -- settings may be written first; from there on both sides ask for inputs in the same way
    split
    · rw [bind_assoc]
      refine bind_congr fun _ => ?_
      split
      · simp
      · split <;> simp
    · split
      · simp
      · split <;> simp

/-! ### The batch of a command -/

/-- A batch that the command comes to. -/
structure Start where
  /-- The arguments. -/
  arguments : Arguments
  /-- The generator. -/
  generator : Generator
  /-- The documents. -/
  jobs : List Job
  /-- What was done up to the batch. -/
  session : Session

/-- The batch that the command comes to on a console and a tree with certain arguments, if it comes
to one: all documents are found then. -/
def Start.of (console : Console) (tree : FileTree) (given : List String) : Option Start :=
  match Arguments.parse given with
  | .error _ => none
  | .ok arguments =>
    match LogSetup.start tree (.ofJson arguments.logLevel.setting) arguments.logFile.setting with
    | .error _ => none
    | .ok (_, tree) =>
      let log : Log := [⟨.debug, s!"Arguments: {arguments.shown}"⟩]
      match (upToBatch arguments).outcome { console, tree, log } with
      | (.ok (.inr (generator, jobs)), session) => some { arguments, generator, jobs, session }
      | _ => none

namespace Start

variable {start : Start} {console : Console} {web : Web.Lookup} {tree : FileTree}
  {given : List String}

/-- The directory for the output. -/
def directory (start : Start) : Path := Path.ofString start.arguments.output.content

/-- The batch, with a directory for the output. -/
def batch (start : Start) (web : Web.Lookup) : Batch where
  generator := start.generator
  directory := some start.directory
  web
  console := start.session.console

/-- The files and the log when the batch starts. -/
def state (start : Start) : BatchState := (start.session.tree, start.session.log)

/-- A batch as an action of the command. -/
theorem outcome_runBatch (batch : Batch) (jobs : List Job) (session : Session) :
    (runBatch batch jobs).outcome session =
      match (batch.runAll jobs).outcome (session.tree, session.log) with
      | (.ok runs, after) => (.ok runs, { session with tree := after.1, log := after.2 })
      | (.error fault, after) =>
        (.error (Abort.ofBatchFault fault), { session with tree := after.1, log := after.2 }) := by
  unfold runBatch Batching.outcome
  simp only [Commanding.outcome_bind, Commanding.outcome_get]
  rcases ((batch.runAll jobs).run.run session.tree).run session.log with ⟨⟨_ | runs, last⟩, log⟩
  all_goals rfl

/-- What is shown in the end of a batch with certain runs. -/
def lastItems (start : Start) (runs : List FileRun) : List ScreenItem :=
  if start.jobs = [] then [.line "[red]✗[/red] No schema files to process"]
  else batchItems false start.arguments.verbose runs

/-- From its batch on, a command with a directory for the output runs all documents. -/
theorem outcome_fromBatch (web : Web.Lookup) (output : start.arguments.output.content ≠ "")
    (some : start.jobs ≠ []) :
    (fromBatch web start.arguments start.generator start.jobs).outcome start.session =
      match ((start.batch web).runAll start.jobs).outcome start.state with
      | (.error fault, after) =>
        (.error (Abort.ofBatchFault fault),
          { start.session with tree := after.1, log := after.2 })
      | (.ok runs, after) =>
        (do
          Commanding.display (start.lastItems runs)
          Commanding.note .info
            s!"{(runs.filter FileRun.ok).length} of {runs.length} schema files processed"
          return exitCode runs : Commanding Nat).outcome
            { start.session with tree := after.1, log := after.2 } := by
  have documents : start.jobs.isEmpty = false := by simpa using some
  unfold fromBatch
  simp only [documents, output, Bool.false_eq_true, if_false, Option.isNone_some, Bool.false_and,
    Commanding.outcome_bind, Commanding.outcome_get, outcome_runBatch]
  have same : (Batch.mk start.generator (.some start.directory) web start.session.console) =
      start.batch web := rfl
  rw [← directory, same, ← state]
  simp only [lastItems, if_neg some]
  rcases ((start.batch web).runAll start.jobs).outcome start.state with ⟨fault | runs, after⟩
  all_goals rfl

/-- What a batch ends with is what the command ends with. -/
theorem command_eq (web : Web.Lookup) (reached : Start.of console tree given = some start) :
    start.session.console = console ∧
    (∀ exit session, (fromBatch web start.arguments start.generator start.jobs).outcome
        start.session = (.ok exit, session) →
      ∃ ending, command console web tree given = .ok (.ok ending) ∧ ending.exit = exit ∧
        ending.session.tree = session.tree ∧ ending.session.screen = session.screen) ∧
    ∀ crash session, (fromBatch web start.arguments start.generator start.jobs).outcome
        start.session = (.error (.crash crash), session) →
      command console web tree given = .ok (.error crash) := by
  unfold Start.of at reached
  split at reached
  · cases reached
  next arguments parsed =>
    split at reached
    · cases reached
    next setup opened started =>
      dsimp only at reached
      split at reached
      next generator jobs session prepared =>
        cases reached
        dsimp only
        have kept := keepsConsole_upToBatch arguments
          { console, tree := opened, log := [⟨.debug, s!"Arguments: {arguments.shown}"⟩] }
        rw [prepared] at kept
        -- the first part leads to the batch, so the second part has the last word
        have performed : ((perform web arguments).run.run
            { console, tree := opened, log := [⟨.debug, s!"Arguments: {arguments.shown}"⟩] } :
              Except Abort Nat × Session) =
            (fromBatch web arguments generator jobs).outcome session := by
          change (perform web arguments).outcome _ = _
          rw [perform_eq, Commanding.outcome_bind, prepared]
          rfl
        refine ⟨kept, ?_, ?_⟩
        · intro exit after ended
          rw [ended] at performed
          refine ⟨⟨exit, { after with log := after.log.atLeast setup.rank.toNat }⟩, ?_, rfl, rfl,
            rfl⟩
          simp only [command, parsed, Except.map, Arguments.run, started, bind, Except.bind,
            mapError_ok, performed]
          rfl
        · intro crash after ended
          rw [ended] at performed
          simp only [command, parsed, Except.map, Arguments.run, started, bind, Except.bind,
            mapError_ok, performed]
          rfl
      next => cases reached

/-- A batch that comes to its end: the command shows all runs, and its exit code is theirs, unless
the console refuses to show them. -/
theorem command_of_runs (reached : Start.of console tree given = some start)
    (output : start.arguments.output.content ≠ "") {runs : List FileRun} {last : BatchState}
    (ran : ((start.batch web).runAll start.jobs).outcome start.state = (.ok runs, last)) :
    ((∀ item ∈ start.lastItems runs, console.refusal? item = none) →
      ∃ ending, command console web tree given = .ok (.ok ending) ∧
        ending.exit = exitCode runs ∧ ending.session.tree = last.1 ∧
        ending.session.screen = start.session.screen ++ start.lastItems runs) ∧
    ∀ reason, (start.lastItems runs).findSome? console.refusal? = some reason →
      command console web tree given = .ok (.error (.screen reason)) := by
  obtain ⟨rfl, ends, crashes⟩ := command_eq web reached
  -- with or without documents, the last things are shown, and then nothing else can go wrong
  obtain ⟨next, session, shows, console, files, screen, goesOn⟩ :
      ∃ (next : Unit → Commanding Nat) (session : Session),
        (fromBatch web start.arguments start.generator start.jobs).outcome start.session =
          (Commanding.display (start.lastItems runs) >>= next).outcome session ∧
        session.console = start.session.console ∧ session.tree = last.1 ∧
        session.screen = start.session.screen ∧
        ∀ session : Session, ∃ log,
          (next ()).outcome session = (.ok (exitCode runs), { session with log }) := by
    by_cases none : start.jobs = []
    · obtain ⟨rfl, rfl⟩ : runs = [] ∧ last = start.state := by
        rw [none] at ran
        cases ran
        exact ⟨rfl, rfl⟩
      refine ⟨fun _ => return 1, start.session, ?_, rfl, rfl, rfl,
        fun session => ⟨session.log, rfl⟩⟩
      rw [lastItems, if_pos none, none]
      rfl
    · have ends := outcome_fromBatch web output none
      rw [ran] at ends
      exact ⟨_, _, ends, rfl, rfl, rfl, fun session => ⟨_, rfl⟩⟩
  rw [Commanding.outcome_bind] at shows
  rw [← console, ← files, ← screen]
  constructor
  · intro shown
    rw [Commanding.outcome_display shown] at shows
    obtain ⟨log, fine⟩ := goesOn
      { session with screen := session.screen ++ start.lastItems runs }
    rw [console]
    exact ends _ _ (shows.trans fine)
  · intro reason refused
    obtain ⟨after, ended⟩ := Commanding.outcome_display_of_refused refused
    rw [ended] at shows
    rw [console]
    exact crashes _ _ shows

/-- A batch that is ended by a fault: so is the command. -/
theorem command_of_fault (reached : Start.of console tree given = some start)
    (output : start.arguments.output.content ≠ "") {fault : BatchFault} {last : BatchState}
    (ran : ((start.batch web).runAll start.jobs).outcome start.state = (.error fault, last)) :
    ∃ crash, Abort.ofBatchFault fault = .crash crash ∧
      command console web tree given = .ok (.error crash) := by
  have some : start.jobs ≠ [] := by
    intro none
    rw [none] at ran
    cases ran
  have ended := outcome_fromBatch web output some
  rw [ran] at ended
  dsimp only at ended
  obtain ⟨crash, crashed⟩ : ∃ crash, Abort.ofBatchFault fault = .crash crash := by
    cases fault <;> exact ⟨_, rfl⟩
  rw [crashed] at ended
  exact ⟨crash, crashed, (command_eq web reached).2.2 _ _ ended⟩

omit [WorkingDirectory] in
theorem exitCode_eq_zero_iff {runs : List FileRun} :
    exitCode runs = 0 ↔ runs ≠ [] ∧ ∀ run ∈ runs, run.ok = true := by
  unfold exitCode
  cases runs with
  | nil => simp
  | cons run rest => simp [← Bool.not_eq_true]

/-- A command that comes to its batch processes the documents in order, whatever becomes of each.
Either all of them are processed: if the console shows what is shown in the end, the command ends,
with these runs in this order, and its exit code is zero exactly if there are documents and all went
well; else it ends with the refusal of the console. Or the command is ended by a document that is
not orderly, and the documents before it have been processed. -/
theorem command_processes (reached : Start.of console tree given = some start)
    (output : start.arguments.output.content ≠ "") (web : Web.Lookup) :
    ∃ steps last, (start.batch web).Processes start.state steps last ∧
      steps.map (·.run.source) = steps.map (·.job.label) ∧
      (steps.map (·.job) = start.jobs ∧
          ((∀ item ∈ start.lastItems (steps.map (·.run)), console.refusal? item = none) →
            ∃ ending, command console web tree given = .ok (.ok ending) ∧
              (ending.exit = 0 ↔ steps ≠ [] ∧ ∀ step ∈ steps, step.run.ok = true) ∧
              ending.session.tree = last.1 ∧
              ending.session.screen =
                start.session.screen ++ start.lastItems (steps.map (·.run))) ∧
          (∀ reason, (start.lastItems (steps.map (·.run))).findSome? console.refusal? =
              some reason →
            command console web tree given = .ok (.error (.screen reason))) ∨
        ∃ job rest crash, start.jobs = steps.map (·.job) ++ job :: rest ∧
          ¬ (start.batch web).Orderly job last ∧
          command console web tree given = .ok (.error crash)) := by
  obtain ⟨steps, last, processes, ended⟩ :=
    (start.batch web).runAll_cases start.jobs start.state
  refine ⟨steps, last, processes, processes.sources, ?_⟩
  rcases ended with ⟨all, ran⟩ | ⟨job, rest, fault, after, split, ends, ran⟩
  · obtain ⟨shows, refuses⟩ := command_of_runs reached output ran
    refine .inl ⟨all, fun shown => ?_, refuses⟩
    obtain ⟨ending, ended, exit, files, screen⟩ := shows shown
    refine ⟨ending, ended, ?_, files, screen⟩
    rw [exit, exitCode_eq_zero_iff]
    simp
  · obtain ⟨crash, -, ended⟩ := command_of_fault reached output ran
    exact .inr ⟨job, rest, crash, split, fun orderly => orderly.not_fault ends, ended⟩

end Start

end HostBindings.CommandLine

namespace HostBindings.CommandLine.Start

attribute [local instance] WorkingDirectory.root

-- an address that is none ends the command, where a document that cannot be had would not
example : (command .plain Web.offline {} ["--url", "http://[::1", "-o", "out"]).toOption.any
    (·.toOption.isNone) = true := by
  decide +kernel

/-- A document that is no JSON, and one without blocks. -/
def failingSample : FileTree := .ofFiles
  [(.ofString "a.json", "\x7b"), (.ofString "b.json", "[]")] []

/-- Whether the command ends in an orderly way, with a certain exit code. -/
def exitsWith (result : Except Stop (Except Crash Ending)) (exit : Nat) : Bool :=
  match result with
  | .ok (.ok ending) => ending.exit == exit
  | _ => false

theorem command_processes_sample :
    ∃ start steps last ending,
      Start.of .plain failingSample ["a.json", "b.json", "-o", "out"] = some start ∧
      start.arguments.output.content ≠ "" ∧
      (start.batch Web.offline).Processes start.state steps last ∧
      steps.map (·.run.source) = ["a.json", "b.json"] ∧
      command .plain Web.offline failingSample ["a.json", "b.json", "-o", "out"] =
        .ok (.ok ending) ∧
      ending.exit = 1 ∧ ∃ step ∈ steps, step.run.ok = false := by
  let given := ["a.json", "b.json", "-o", "out"]
  have evaluated : (Start.of .plain failingSample given).any (fun start =>
      start.arguments.output.content ≠ "" && start.jobs.map (·.label) = ["a.json", "b.json"]) =
        true := by
    decide +kernel
  have exits : exitsWith (command .plain Web.offline failingSample given) 1 = true := by
    decide +kernel
  obtain ⟨start, reached, settled⟩ := Option.any_eq_true _ _ |>.mp evaluated
  obtain ⟨output, labels⟩ : start.arguments.output.content ≠ "" ∧
      start.jobs.map (·.label) = ["a.json", "b.json"] := by simpa using settled
  obtain ⟨steps, last, processes, sources, ended⟩ :=
    command_processes reached output Web.offline
  rcases ended with ⟨all, shows, -⟩ | ⟨_, _, _, -, -, crashed⟩
  · obtain ⟨ending, ended, exit, -⟩ := shows fun _ _ => rfl
    rw [ended] at exits
    have one : ending.exit = 1 := by simpa [exitsWith] using exits
    have some : steps ≠ [] := by
      rintro rfl
      rw [← all] at labels
      cases labels
    refine ⟨start, steps, last, ending, reached, output, processes, ?_, ended, one, ?_⟩
    · rw [sources, ← labels, ← all, List.map_map]
      rfl
    · by_contra none
      have zero : ending.exit = 0 := by
        refine exit.mpr ⟨some, fun step member => ?_⟩
        by_contra failed
        exact none ⟨step, member, by simpa using failed⟩
      rw [one] at zero
      cases zero
  · rw [crashed] at exits
    cases exits

end HostBindings.CommandLine.Start
