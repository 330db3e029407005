import HostBindings.Proofs.Attempts
import HostBindings.Proofs.Text.LowerCase
import HostBindings.Registry
import Mathlib.Data.List.Induction

/-!
# Registering languages

Languages are registered one request after the other; a request that is refused leaves the registry
as it was. What is registered once stays: languages and aliases are only added, and an alias always
stands for a listed language.

A new alias may not be the name of a listed language, but a new language may have the name of an
alias. Such a language is listed and yet not reached, since its name goes on standing for the other
one; every other listed language is reached under its own name.

## Main definitions

* `Registration` — a request to register a language
* `Registry.grant`, `Registry.after`, `Registry.ofRequests` — what requests lead to
* `Registry.Step` — the ways a request can end
* `Registry.Sound` — what holds of the tables between two requests
* `Registry.Keeps` — a listed language that stays as it is
* `Registry.FirstFor` — the first request that registers a language

## Main results

* `Registry.step_after` — every request ends in one of the ways
* `Registry.sound_ofRequests` — the tables after any requests
* `Registry.languages_reached` — the languages that are reached
-/

namespace HostBindings

/-- A request to register a language. -/
structure Registration where
  /-- The language. -/
  language : String
  /-- What makes its generators; none if what is offered makes no generators. -/
  backend : Option Backend
  /-- Its aliases. -/
  aliases : List String := []

namespace Registration

/-- The primary name that is asked for. -/
def key (request : Registration) : String := Text.lowerCase request.language

/-- The aliases that are asked for. -/
def names (request : Registration) : List String :=
  (request.aliases.map Text.lowerCase).filter (· ≠ request.key)

end Registration

namespace Registry

variable {registry next : Registry} {request : Registration} {name language : String}

/-- The primary names. -/
def keys (registry : Registry) : List String := registry.backends.map (·.1)

/-- The names of the aliases. -/
def aliasNames (registry : Registry) : List String := registry.aliases.map (·.1)

@[simp] theorem mem_languages : language ∈ registry.languages ↔ language ∈ registry.keys := by
  simp [languages, keys]

/-- The answer to a request: the registry that it leads to, or why it is refused. -/
def grant (registry : Registry) (request : Registration) : Except RegistryError Registry :=
  ((registry.register request.language request.backend request.aliases).run.run []).1

/-- The registry after a request; one that is refused changes nothing. -/
def after (registry : Registry) (request : Registration) : Registry :=
  (registry.grant request).toOption.getD registry

/-- The registry that requests lead to, from an empty one. -/
def ofRequests (requests : List Registration) : Registry := requests.foldl after {}

@[simp] theorem ofRequests_concat (requests : List Registration) (request : Registration) :
    ofRequests (requests ++ [request]) = (ofRequests requests).after request := by
  simp [ofRequests]

/-! ### Tables -/

/-- A language may have an alias that is no listed language and stands for no other one. -/
theorem checkAlias_eq_ok : registry.checkAlias language name = .ok () ↔
    name ∉ registry.keys ∧
      ∀ other, registry.aliases.lookup name = some other → other = language := by
  unfold checkAlias
  split
  next listed => simp [keys, ← isSome_lookup_iff, listed]
  next unlisted =>
    rw [keys, ← isSome_lookup_iff]
    cases found : registry.aliases.lookup name with
    | none => simp [unlisted]
    | some other =>
      by_cases same : other = language <;> simp [same, unlisted]

/-- A name that stands for no other language is listed once. -/
theorem putAlias_cases {known : List (String × String)} (single : (known.map (·.1)).Nodup)
    (own : ∀ other, known.lookup name = some other → other = language) :
    putAlias known name language = known ∨
      name ∉ known.map (·.1) ∧ putAlias known name language = known ++ [(name, language)] := by
  unfold putAlias
  split
  next listed =>
    left
    obtain ⟨other, found⟩ := Option.isSome_iff_exists.mp listed
    rw [own other found] at found
    -- the only entry of the name is set to what it is
    rw [List.map_congr_left (g := id), List.map_id]
    intro entry member
    split
    next here =>
      exact (List.inj_on_of_nodup_map single member (mem_of_lookup_eq_some found) here).symm
    next => rfl
  next unlisted => exact .inr ⟨isSome_lookup_iff.not.mp unlisted, rfl⟩

/-- Aliases of a language are added behind the others. -/
theorem foldl_putAlias (names : List String) {known : List (String × String)}
    (single : (known.map (·.1)).Nodup)
    (own : ∀ name ∈ names, ∀ other, known.lookup name = some other → other = language) :
    ∃ more, names.foldl (fun known name => putAlias known name language) known = known ++ more ∧
      ((known ++ more).map (·.1)).Nodup ∧ ∀ entry ∈ more, entry.1 ∈ names ∧ entry.2 = language := by
  induction names generalizing known with
  | nil => exact ⟨[], by simpa using single⟩
  | cons name rest ih =>
    have others : ∀ name ∈ rest, ∀ other, known.lookup name = some other → other = language :=
      fun name member => own name (List.mem_cons_of_mem _ member)
    rw [List.foldl_cons]
    -- a name is an alias of this language already, or is new and put last
    rcases putAlias_cases single (own name List.mem_cons_self) with same | ⟨new, added⟩
    · rw [same]
      obtain ⟨more, all, nodup, entries⟩ := ih single others
      exact ⟨more, all, nodup, fun entry member =>
        (entries entry member).imp_left (List.mem_cons_of_mem _)⟩
    · rw [added]
      have more : ((known ++ [(name, language)]).map (·.1)).Nodup := by
        rw [List.map_append, List.map_singleton]
        refine List.nodup_append.mpr ⟨single, List.nodup_singleton _, ?_⟩
        rintro one member _ last rfl
        rw [List.mem_singleton.mp last] at member
        exact new member
      obtain ⟨later, all, nodup, entries⟩ := ih more fun other member target found => by
        rw [List.lookup_append, Option.or_eq_some_iff] at found
        rcases found with before | ⟨-, now⟩
        · exact others other member target before
        · exact (Prod.mk.inj (List.mem_singleton.mp (mem_of_lookup_eq_some now))).2
      refine ⟨(name, language) :: later, ?_, ?_, ?_⟩
      · rw [all, List.append_assoc, List.singleton_append]
      · rwa [List.append_assoc, List.singleton_append] at nodup
      · rintro entry (_ | ⟨_, member⟩)
        · exact ⟨List.mem_cons_self, rfl⟩
        · exact (entries entry member).imp_left (List.mem_cons_of_mem _)

/-! ### One request -/

/-- The registry with a language and aliases added. -/
def add (registry : Registry) (key : String) (backend : Backend) (names : List String) :
    Registry where
  backends := registry.backends ++ [(key, backend)]
  aliases := names.foldl (fun known name => putAlias known name key) registry.aliases

/-- What makes generators is registered, unless the language is listed already or an alias is
refused. -/
theorem grant_eq {backend : Backend} (offered : request.backend = some backend) :
    registry.grant request =
      if request.key ∈ registry.keys then .ok registry
      else (request.names.forM (registry.checkAlias request.key)).map
        fun _ => registry.add request.key backend request.names := by
  by_cases listed : request.key ∈ registry.keys
  all_goals
    have found := listed
    simp only [keys, ← isSome_lookup_iff, Registration.key] at found
  · rw [if_pos listed]
    simp only [grant, register, offered, if_pos found]
    rfl
  · rw [if_neg listed]
    simp only [grant, register, offered, if_neg found]
    change Prod.fst ((do
      request.names.forM fun name => Attempt.ofExcept (registry.checkAlias request.key name)
      pure (registry.add request.key backend request.names) :
        Attempt RegistryError Registry).run.run []) = _
    rw [ExceptT.run_bind, StateT.run_bind, Attempt.run_forM_ofExcept]
    cases List.forM request.names (registry.checkAlias request.key) <;> rfl

/-- A request is granted if the language is listed already, or all its aliases may be added. -/
theorem grant_eq_ok : registry.grant request = .ok next ↔
    ∃ backend, request.backend = some backend ∧
      (request.key ∈ registry.keys ∧ next = registry ∨
        request.key ∉ registry.keys ∧
          (∀ name ∈ request.names, registry.checkAlias request.key name = .ok ()) ∧
          next = registry.add request.key backend request.names) := by
  cases offered : request.backend with
  | none =>
    refine iff_of_false (fun granted => ?_) (by simp)
    simp only [grant, register, offered] at granted
    cases granted
  | some backend =>
    rw [grant_eq offered]
    split
    next listed => simp [listed, eq_comm]
    next new =>
      rw [map_eq_ok_iff]
      constructor
      · rintro ⟨_, checked, rfl⟩
        exact ⟨backend, rfl, .inr ⟨new, forM_eq_ok_iff.mp checked, rfl⟩⟩
      · rintro ⟨_, same, ⟨listed, -⟩ | ⟨-, checked, rfl⟩⟩
        · exact absurd listed new
        · cases same
          exact ⟨(), forM_eq_ok_iff.mpr checked, rfl⟩

/-- The ways a request can end: it changes nothing, or it adds a language that was not listed. -/
inductive Step (registry : Registry) (request : Registration) : Registry → Prop where
  /-- It is refused, or the language is listed already. -/
  | kept : (∀ next, registry.grant request = .ok next → request.key ∈ registry.keys) →
      Step registry request registry
  /-- The language is listed, and has aliases that were neither listed nor aliases. -/
  | added {backend : Backend} {more : List (String × String)} {next : Registry} :
      registry.grant request = .ok next → request.backend = some backend →
      request.key ∉ registry.keys →
      (∀ entry ∈ more, entry.1 ∈ request.names ∧ entry.1 ∉ registry.keys ∧
        entry.2 = request.key) →
      ((registry.aliases ++ more).map (·.1)).Nodup →
      Step registry request
        ⟨registry.backends ++ [(request.key, backend)], registry.aliases ++ more⟩

theorem step_after (request : Registration) (single : registry.aliasNames.Nodup) :
    registry.Step request (registry.after request) := by
  cases granted : registry.grant request with
  | error fault =>
    rw [after, granted]
    exact .kept fun next same => by simp [granted] at same
  | ok next =>
    have same : registry.after request = next := by simp [after, granted, Except.toOption]
    rw [same]
    obtain ⟨backend, offered, ⟨listed, rfl⟩ | ⟨new, checked, rfl⟩⟩ := grant_eq_ok.mp granted
    · exact .kept fun _ _ => listed
    · obtain ⟨more, all, nodup, entries⟩ := foldl_putAlias request.names single
        fun name member => (checkAlias_eq_ok.mp (checked name member)).2
      rw [add, all]
      refine .added granted offered new (fun entry member => ?_) nodup
      obtain ⟨asked, own⟩ := entries entry member
      exact ⟨asked, (checkAlias_eq_ok.mp (checked _ asked)).1, own⟩

/-! ### Any requests -/

/-- What holds of the tables between two requests. -/
structure Sound (registry : Registry) : Prop where
  /-- The primary names are in lower case. -/
  keysLower : ∀ language ∈ registry.keys, Text.lowerCase language = language
  /-- So are the aliases. -/
  aliasesLower : ∀ entry ∈ registry.aliases, Text.lowerCase entry.1 = entry.1
  /-- An alias stands for one language. -/
  single : registry.aliasNames.Nodup
  /-- That is listed. -/
  listed : ∀ entry ∈ registry.aliases, entry.2 ∈ registry.keys
  /-- It is not the alias itself. -/
  other : ∀ entry ∈ registry.aliases, entry.2 ≠ entry.1

theorem sound_empty : Sound {} := by
  constructor <;> simp [keys, aliasNames]

/-- A request keeps the tables sound. -/
theorem Sound.step (sound : registry.Sound) (step : registry.Step request next) : next.Sound := by
  cases step with
  | kept => exact sound
  | @added backend more _ _ _ new entries nodup =>
    have keys' : keys ⟨registry.backends ++ [(request.key, backend)], registry.aliases ++ more⟩ =
        registry.keys ++ [request.key] := by simp [keys]
    -- what is added is in lower case, under the new key, and stands for nothing else
    constructor
    · rw [keys']
      simp only [List.forall_mem_append, List.forall_mem_singleton]
      exact ⟨sound.keysLower, Text.lowerCase_lowerCase _⟩
    · simp only [List.forall_mem_append]
      refine ⟨sound.aliasesLower, fun entry member => ?_⟩
      obtain ⟨asked, -⟩ := entries entry member
      obtain ⟨name, -, same⟩ := List.mem_map.mp (List.mem_of_mem_filter asked)
      rw [← same, Text.lowerCase_lowerCase]
    · exact nodup
    · rw [keys']
      simp only [List.forall_mem_append]
      exact ⟨fun entry member => List.mem_append_left _ (sound.listed entry member),
        fun entry member => by simp [(entries entry member).2.2]⟩
    · simp only [List.forall_mem_append]
      refine ⟨sound.other, fun entry member => ?_⟩
      obtain ⟨asked, -, own⟩ := entries entry member
      have different := (List.mem_filter.mp asked).2
      rw [own]
      exact fun same => by simp [same] at different

theorem sound_ofRequests (requests : List Registration) : (ofRequests requests).Sound := by
  induction requests using List.reverseRecOn with
  | nil => exact sound_empty
  | append_singleton requests request ih =>
    rw [ofRequests_concat]
    exact ih.step (step_after _ ih.single)

/-! ### The first registration of a language -/

/-- A request is granted behind the requests `before` it. -/
structure GrantedIn (requests before : List Registration) (request : Registration) : Prop where
  /-- It is one of the requests. -/
  split : ∃ later, requests = before ++ request :: later
  /-- It is granted. -/
  granted : ∃ next, (ofRequests before).grant request = .ok next

/-- The first request that registers a language: it is granted, and none before it for the same
language is. -/
structure FirstFor (requests : List Registration) (language : String)
    (before : List Registration) (request : Registration) : Prop where
  /-- It is granted. -/
  granted : GrantedIn requests before request
  /-- It is one for the language. -/
  key : request.key = language
  /-- Others are granted before it for other languages only. -/
  first : ∀ earlier other, GrantedIn before earlier other → other.key ≠ language

theorem GrantedIn.concat {requests before : List Registration} {other : Registration}
    (granted : GrantedIn requests before request) :
    GrantedIn (requests ++ [other]) before request := by
  obtain ⟨⟨later, rfl⟩, next⟩ := granted
  exact ⟨⟨later ++ [other], by simp⟩, next⟩

/-- A request lists its language if it is granted, and no other one. -/
theorem Step.mem_keys (step : registry.Step request next) :
    language ∈ next.keys ↔ language ∈ registry.keys ∨
      request.key = language ∧ ∃ other, registry.grant request = .ok other := by
  cases step with
  | kept listed =>
    refine ⟨.inl, fun either => either.elim id ?_⟩
    rintro ⟨rfl, other, granted⟩
    exact listed other granted
  | added granted => simp [keys, granted, eq_comm]

/-- A listed language goes on being listed as it is. -/
structure Keeps (language : String) (registry last : Registry) : Prop where
  /-- It is listed. -/
  listed : language ∈ last.keys
  /-- What makes its generators stays. -/
  backend : last.backends.lookup language = registry.backends.lookup language
  /-- It does not become an alias, and does not cease to be one. -/
  isAlias : language ∈ last.aliasNames ↔ language ∈ registry.aliasNames

theorem Step.keeps (step : registry.Step request next) (listed : language ∈ registry.keys) :
    Keeps language registry next := by
  cases step with
  | kept => exact ⟨listed, rfl, .rfl⟩
  | @added backend more _ _ _ new entries _ =>
    obtain ⟨found, here⟩ := Option.isSome_iff_exists.mp (isSome_lookup_iff.mpr listed)
    have others : language ∉ more.map (·.1) := by
      intro member
      obtain ⟨entry, there, rfl⟩ := List.mem_map.mp member
      exact (entries entry there).2.1 listed
    constructor
    · rw [keys, List.map_append]
      exact List.mem_append_left _ listed
    · rw [List.lookup_append, here, Option.some_or]
    · rw [aliasNames, aliasNames, List.map_append, List.mem_append, or_iff_left others]

theorem keeps_foldl (requests : List Registration) (sound : registry.Sound)
    (listed : language ∈ registry.keys) :
    Keeps language registry (requests.foldl after registry) := by
  induction requests generalizing registry with
  | nil => exact ⟨listed, rfl, .rfl⟩
  | cons request rest ih =>
    have step := step_after request sound.single
    have now := step.keeps listed
    have later := ih (sound.step step) now.listed
    exact ⟨later.listed, later.backend.trans now.backend, later.isAlias.trans now.isAlias⟩

/-- A language for which a request is granted is listed from then on. -/
theorem GrantedIn.keeps {requests before : List Registration}
    (granted : GrantedIn requests before request) :
    Keeps request.key ((ofRequests before).after request) (ofRequests requests) := by
  obtain ⟨⟨later, rfl⟩, next⟩ := granted
  have sound := sound_ofRequests before
  have step := step_after request sound.single
  have whole : ofRequests (before ++ request :: later) =
      later.foldl after ((ofRequests before).after request) := by
    simp [ofRequests]
  rw [whole]
  exact keeps_foldl later (sound.step step) (step.mem_keys.mpr (.inr ⟨rfl, next⟩))

/-- Every listed language was registered by a first request. -/
theorem exists_firstFor {requests : List Registration}
    (listed : language ∈ (ofRequests requests).keys) :
    ∃ before request, FirstFor requests language before request := by
  -- the last request is the first one for the language if that was not listed before
  induction requests using List.reverseRecOn with
  | nil => cases listed
  | append_singleton requests request ih =>
    have step := step_after request (sound_ofRequests requests).single
    rw [ofRequests_concat, step.mem_keys] at listed
    by_cases before : language ∈ (ofRequests requests).keys
    · obtain ⟨earlier, other, first⟩ := ih before
      exact ⟨earlier, other, first.granted.concat, first.key, first.first⟩
    · obtain ⟨same, granted⟩ := listed.resolve_left before
      refine ⟨requests, request, ⟨⟨[], rfl⟩, granted⟩, same, ?_⟩
      rintro earlier other known rfl
      exact before known.keeps.listed

/-- What the first request for a language asks for is what is registered, and the language is an
alias at the end exactly if it was one before that request. -/
theorem FirstFor.registered {requests before : List Registration}
    (first : FirstFor requests language before request) :
    (∃ backend, request.backend = some backend ∧
      (ofRequests requests).backends.lookup language = some backend) ∧
    (language ∈ (ofRequests requests).aliasNames ↔
      language ∈ (ofRequests before).aliasNames) := by
  obtain ⟨known, rfl, others⟩ := first
  have keeps := known.keeps
  obtain ⟨-, next, granted⟩ := known
  -- later requests keep what is there, so the tables before and after this one decide
  have new : request.key ∉ (ofRequests before).keys := by
    intro listed
    obtain ⟨earlier, other, first⟩ := exists_firstFor listed
    exact others earlier other first.granted first.key
  rw [keeps.backend, keeps.isAlias]
  have step := step_after request (sound_ofRequests before).single
  clear keeps
  generalize (ofRequests before).after request = last at step ⊢
  cases step with
  | kept listed => exact absurd (listed next granted) new
  | @added backend more _ _ offered _ entries _ =>
    refine ⟨⟨backend, offered, ?_⟩, ?_⟩
    · have none : (ofRequests before).backends.lookup request.key = none :=
        lookup_eq_none_of_not_mem new
      simp [List.lookup_append, none]
    · have others : request.key ∉ more.map (·.1) := by
        intro member
        obtain ⟨entry, there, same⟩ := List.mem_map.mp member
        have different := (List.mem_filter.mp (entries entry there).1).2
        simp [same] at different
      rw [aliasNames, aliasNames, List.map_append, List.mem_append, or_iff_left others]

/-- After any requests, an alias stands for the listed language that it was registered for. A listed
language is reached under its own name, with what its first request offered, unless it was an alias
of another language before that request. -/
theorem languages_reached (requests : List Registration) :
    let registry := ofRequests requests
    (∀ language ∈ registry.languages, ∃ before request backend,
      FirstFor requests language before request ∧ request.backend = some backend ∧
      (registry.resolve language = language ↔ language ∉ (ofRequests before).aliasNames) ∧
      (language ∈ registry.aliasNames ↔ language ∈ (ofRequests before).aliasNames) ∧
      (language ∉ (ofRequests before).aliasNames → registry.backend language = .ok backend)) ∧
    ∀ entry ∈ registry.aliases,
      registry.resolve entry.1 = entry.2 ∧ entry.2 ∈ registry.languages := by
  intro registry
  have sound : registry.Sound := sound_ofRequests requests
  have stands {entry : String × String} (member : entry ∈ registry.aliases) :
      registry.resolve entry.1 = entry.2 := by
    rw [resolve, sound.aliasesLower entry member, lookup_eq_some_of_mem sound.single member,
      Option.getD_some]
  refine ⟨fun language listed => ?_, fun entry member =>
    ⟨stands member, mem_languages.mpr (sound.listed entry member)⟩⟩
  rw [mem_languages] at listed
  obtain ⟨before, request, first⟩ := exists_firstFor listed
  obtain ⟨⟨backend, offered, found⟩, isAlias⟩ := first.registered
  -- a name that is an alias stands for another language, and every other name for itself
  have resolves : registry.resolve language = language ↔ language ∉ registry.aliasNames := by
    constructor
    · intro same member
      obtain ⟨entry, there, rfl⟩ := List.mem_map.mp member
      exact sound.other entry there ((stands there).symm.trans same)
    · intro unknown
      rw [resolve, sound.keysLower language listed, lookup_eq_none_of_not_mem unknown,
        Option.getD_none]
  refine ⟨before, request, backend, first, offered, resolves.trans isAlias.not, isAlias, ?_⟩
  intro unknown
  have own := resolves.mpr (isAlias.not.mpr unknown)
  rw [Registry.backend, own, found]

/-- A language with the name of an alias is listed, and not reached. -/
example :
    let registry := ofRequests [⟨"go", some .go, ["golang"]⟩, ⟨"golang", some .go, []⟩]
    "golang" ∈ registry.keys ∧ registry.resolve "golang" = "go" := by
  decide +kernel

end Registry

end HostBindings
