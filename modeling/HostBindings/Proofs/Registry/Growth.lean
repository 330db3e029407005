import HostBindings.Proofs.Registry.Registrations

/-!
# Calls that register languages

Calls on one registry, each of which starts from the tables that the last one left, those of calls
that failed included. A call makes its changes behind all its checks, so that a call that fails
leaves the tables as they were; and no call takes anything away: what a supported name stands for,
and what makes the generators of that language, stay.

## Main definitions

* `Registry.Call.runs` — what a call answers, leaves and reports
* `Registry.call`, `Registry.ofCalls` — calls that register languages
* `Registry.Retains` — a supported name that stays what it is

## Main results

* `Registry.runs_enroll` — a call changes the tables as the request that it makes
* `Registry.call_only_adds` — what any call after any others leaves
-/

namespace HostBindings

namespace Registry

variable {registry next : Registry} {request : Registration} {name language : String}

/-! ### A call, from its first check to its last change -/

namespace Call

variable {α β : Type}

/-- What a call answers, the tables that it leaves, and the log. -/
def runs (call : Call α) (registry : Registry) (log : Log) :
    (Except RegistryError α × Registry) × Log :=
  (call.run.run registry).run log

/-- A call goes on from the tables that its first part leaves, unless that fails. -/
theorem runs_bind (first : Call α) (second : α → Call β) (log : Log) :
    (first >>= second).runs registry log =
      match first.runs registry log with
      | ((.ok value, middle), log) => (second value).runs middle log
      | ((.error fault, middle), log) => ((.error fault, middle), log) := by
  simp only [runs, ExceptT.run_bind, StateT.run_bind]
  rcases (first.run.run registry).run log with ⟨⟨fault | value, middle⟩, log⟩ <;> rfl

theorem runs_ofExcept (result : Except RegistryError α) (log : Log) :
    (MonadExcept.ofExcept result : Call α).runs registry log = ((result, registry), log) := by
  cases result <;> rfl

/-- Checks change nothing. -/
theorem runs_checkAliases (names : List String) (log : Log) :
    (checkAliases language names).runs registry log =
      ((names.forM (registry.checkAlias language), registry), log) := by
  unfold checkAliases
  induction names with
  | nil => rfl
  | cons name rest ih =>
    rw [List.forM_eq_forM] at ih ⊢
    rw [List.forM_cons, runs_bind]
    have head : (do MonadExcept.ofExcept ((← get).checkAlias language name) : Call Unit).runs
        registry log = ((registry.checkAlias language name, registry), log) :=
      runs_ofExcept _ log
    rw [head, List.forM_eq_forM, List.forM_cons]
    cases registry.checkAlias language name with
    | error fault => rfl
    | ok value => exact ih

/-- Changes do not fail. -/
theorem runs_enter (backend : Backend) (names : List String) (log : Log) :
    (enter language backend names).runs registry log =
      ((.ok (), registry.add language backend names), log) := by
  have aliases : ∀ known : Registry, (names.forM fun name => modify fun registry =>
        { registry with aliases := putAlias registry.aliases name language } :
          Call Unit).runs known log =
      ((.ok (), { known with
        aliases := names.foldl (fun known name => putAlias known name language)
          known.aliases }), log) := by
    induction names with
    | nil => exact fun known => rfl
    | cons name rest ih =>
      intro known
      rw [List.forM_eq_forM] at ih ⊢
      rw [List.forM_cons, runs_bind]
      exact ih _
  rw [enter, runs_bind]
  exact aliases _

end Call

/-- A call answers and reports what the request that it makes does, and leaves what that leads to:
when a check fails, all changes are still to come. -/
theorem runs_enroll (log : Log) :
    (enroll request.language request.backend request.aliases).runs registry log =
      (((registry.grant request).map fun _ => (), registry.after request),
        ((registry.register request.language request.backend request.aliases).run.run log).2) := by
  cases offered : request.backend with
  | none =>
    have refused : registry.grant request = .error .noBackend := by
      simp only [grant, register, offered]
      rfl
    rw [after, refused]
    rfl
  | some backend =>
    have granted : registry.grant request = _ := grant_eq offered
    have tables : (get : Call Registry).runs registry log = ((.ok registry, registry), log) := rfl
    -- a language that is known is left alone; otherwise the aliases are checked before any change
    by_cases listed : request.key ∈ registry.keys
    all_goals
      have found := listed
      simp only [keys, ← isSome_lookup_iff, Registration.key] at found
    · rw [if_pos listed] at granted
      rw [enroll, Call.runs_bind, tables]
      simp only [after, granted, register, if_pos found]
      rfl
    · rw [if_neg listed] at granted
      have calls : (enroll request.language (some backend) request.aliases).runs registry log =
          (do Call.checkAliases request.key request.names
              Call.enter request.key backend request.names : Call Unit).runs registry log := by
        rw [enroll, Call.runs_bind, tables]
        simp only [if_neg found]
        rfl
      have asks : registry.register request.language (some backend) request.aliases =
          (do request.names.forM fun name => Attempt.ofExcept (registry.checkAlias request.key name)
              pure (registry.add request.key backend request.names)) := by
        rw [register]
        exact if_neg found
      rw [calls, asks, after, granted, Call.runs_bind, Call.runs_checkAliases, ExceptT.run_bind,
        StateT.run_bind, Attempt.run_forM_ofExcept]
      cases request.names.forM (registry.checkAlias request.key) with
      | error fault => rfl
      | ok value => exact Call.runs_enter backend request.names log

/-! ### Calls in a row -/

/-- What a call for a request answers, and the tables that it leaves. -/
def call (registry : Registry) (request : Registration) : Except RegistryError Unit × Registry :=
  ((enroll request.language request.backend request.aliases).runs registry []).1

/-- The tables after calls, from empty ones: each call starts from what the one before it leaves,
whether that failed or not. -/
def ofCalls (requests : List Registration) : Registry :=
  requests.foldl (fun registry request => (registry.call request).2) {}

theorem call_eq (registry : Registry) (request : Registration) :
    registry.call request = ((registry.grant request).map fun _ => (), registry.after request) := by
  rw [call, runs_enroll]

/-- Calls lead where the requests that they make lead. -/
theorem ofCalls_eq (requests : List Registration) : ofCalls requests = ofRequests requests := by
  simp only [ofCalls, ofRequests, call_eq]

/-- A call that fails leaves the tables as they were. -/
theorem call_of_error {fault : RegistryError} (failed : (registry.call request).1 = .error fault) :
    (registry.call request).2 = registry := by
  rw [call_eq] at failed ⊢
  cases granted : registry.grant request with
  | error fault => simp only [after, granted]; rfl
  | ok next =>
    rw [granted] at failed
    cases failed

/-- The languages that are always there are those of one call. -/
example : ofCalls [⟨"Go", some .go, ["golang"]⟩] = builtin := by decide +kernel

/-! ### What stays -/

/-- A name that is supported stays what it is. -/
structure Retains (next registry : Registry) (name : String) : Prop where
  /-- It is still supported. -/
  supported : next.isSupported name
  /-- It stands for the same primary name. -/
  resolve : next.resolve name = registry.resolve name
  /-- What makes the generators of that language is the same. -/
  backend : next.backend name = registry.backend name

/-- A supported name is an alias, or it is listed under its own name. -/
theorem isSupported_cases (supported : registry.isSupported name) :
    (∃ language, registry.aliases.lookup (Text.lowerCase name) = some language) ∨
      registry.aliases.lookup (Text.lowerCase name) = none ∧
        Text.lowerCase name ∈ registry.keys := by
  cases found : registry.aliases.lookup (Text.lowerCase name) with
  | some language => exact .inl ⟨language, rfl⟩
  | none =>
    rw [isSupported, isSome_lookup_iff, resolve, found] at supported
    exact .inr ⟨rfl, supported⟩

/-- A request gives no supported name another meaning: its aliases are new, and none of them is the
name of a language. -/
theorem Step.resolve_eq (step : registry.Step request next)
    (supported : registry.isSupported name) : next.resolve name = registry.resolve name := by
  cases step with
  | kept => rfl
  | @added backend more _ _ _ _ entries _ =>
    rw [resolve, resolve, List.lookup_append]
    obtain ⟨language, found⟩ | ⟨missing, listed⟩ := isSupported_cases supported
    · rw [found, Option.some_or]
    · have others : Text.lowerCase name ∉ more.map (·.1) := by
        intro member
        obtain ⟨entry, there, same⟩ := List.mem_map.mp member
        exact (entries entry there).2.1 (same ▸ listed)
      rw [missing, Option.none_or, lookup_eq_none_of_not_mem others]

theorem Step.retains (step : registry.Step request next) (supported : registry.isSupported name) :
    Retains next registry name := by
  have same := step.resolve_eq supported
  have keeps := step.keeps (isSome_lookup_iff.mp supported)
  obtain ⟨backend, found⟩ := Option.isSome_iff_exists.mp supported
  have found' : next.backends.lookup (registry.resolve name) = some backend :=
    keeps.backend.trans found
  constructor
  · rw [isSupported, same, found', Option.isSome_some]
  · exact same
  · rw [Registry.backend, Registry.backend, same, found, found']

/-- After any calls, one call more changes nothing if it fails; and whether it fails, repeats a
language or adds one, all names that were supported are, for the same languages and generators. -/
theorem call_only_adds (requests : List Registration) (request : Registration) :
    let registry := ofCalls requests
    (∀ fault, (registry.call request).1 = .error fault → (registry.call request).2 = registry) ∧
      ∀ name, registry.isSupported name → Retains (registry.call request).2 registry name := by
  intro registry
  have sound : registry.Sound := by
    rw [show registry = ofRequests requests from ofCalls_eq requests]
    exact sound_ofRequests requests
  refine ⟨fun fault failed => call_of_error failed, fun name supported => ?_⟩
  rw [call_eq]
  exact (step_after request sound.single).retains supported

/-- The second alias is refused, and the first one is not there either. -/
example :
    let registry := ofCalls [⟨"go", some .go, ["golang"]⟩]
    registry.call ⟨"rust", some .go, ["rs", "Golang"]⟩ =
      (.error (.aliasTaken "golang" "go"), registry) := by
  decide +kernel

end Registry

end HostBindings
