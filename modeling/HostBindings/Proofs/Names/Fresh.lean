import HostBindings.Scope

/-!
# Claimed names

A name that is claimed is not taken. Of the first numbers, as many as there are taken names and one
more, one always gives a free name. So a search in rounds, to which no bound is set, ends as well:
first comes the candidate, then the candidate with two, with three, and so on behind it. Both ways
lead to the same name.

## Main definitions

* `Numbering` — the names that may be claimed for a candidate
* `Finds` — the search for a free name, round by round

## Main results

* `numbered_injective` — different numbers give different names
* `exists_index_not_mem` — there are more numbers than taken items
* `freshName_not_mem` — the claimed name was free
* `freshName_cases` — the claimed name is the candidate, or has the least free number
* `numbering_freshName` — it is the candidate, with nothing or with a number behind it
* `freshName_eq_of_mem_iff` — a taken name that is not wanted changes no claim
* `Finds.unique`, `finds_iff` — the search ends, with the name that is claimed
-/

namespace HostBindings

/-- Different numbers behind one candidate give different names. -/
theorem numbered_injective (candidate : String) {m n : Nat}
    (same : numbered candidate m = numbered candidate n) : m = n := by
  have texts : m.repr = n.repr := by simpa [numbered] using same
  have digits : Nat.toDigits 10 m = Nat.toDigits 10 n := by
    simpa only [Nat.toList_repr] using congrArg String.toList texts
  simpa using congrArg (fun digits => Nat.ofDigitChars 10 digits 0) digits

/-- Among one number more than there are taken items, one gives an item that is not taken. -/
theorem exists_index_not_mem {α : Type} {item : Nat → α}
    (injective : ∀ {m n}, item m = item n → m = n) (taken : List α) :
    ∃ n < taken.length + 1, item n ∉ taken := by
  apply Classical.byContradiction
  intro none
  have all : ∀ n < taken.length + 1, item n ∈ taken := by
    intro n bound
    exact Classical.byContradiction fun free => none ⟨n, bound, free⟩
  let items := (List.range (taken.length + 1)).map item
  have nodup : items.Nodup := by
    refine List.pairwise_map.mpr (List.nodup_range.imp ?_)
    exact fun different same => different (injective same)
  have subset : items ⊆ taken := by
    intro name member
    obtain ⟨n, bound, rfl⟩ := List.mem_map.mp member
    exact all n (List.mem_range.mp bound)
  -- different items of one list are no more than the items of the other
  have short := nodup.length_le_of_subset subset
  simp only [items, List.length_map, List.length_range] at short
  omega

/-- The name that is claimed for a candidate was not taken. -/
theorem freshName_not_mem (taken : List String) (candidate : String) :
    freshName taken candidate ∉ taken := by
  simp only [freshName]
  split
  · assumption
  · split
    next number found => simpa using List.find?_some found
    next missing =>
      have injective {m n : Nat} (same : numbered candidate (m + 2) = numbered candidate (n + 2)) :
          m = n := by
        have := numbered_injective candidate same
        omega
      obtain ⟨n, bound, free⟩ := exists_index_not_mem injective taken
      have used := List.find?_eq_none.mp missing (n + 2)
        (List.mem_map.mpr ⟨n, List.mem_range.mpr bound, rfl⟩)
      simp [free] at used

/-- The claimed name is the candidate if that is free, and else has the least number from two on
that gives a free name. -/
theorem freshName_cases (taken : List String) (candidate : String) :
    candidate ∉ taken ∧ freshName taken candidate = candidate ∨
      candidate ∈ taken ∧ ∃ number ≥ 2, freshName taken candidate = numbered candidate number ∧
        ∀ less ≥ 2, less < number → numbered candidate less ∈ taken := by
  have fresh := freshName_not_mem taken candidate
  simp only [freshName] at fresh ⊢
  split at fresh
  next free => exact .inl ⟨free, if_pos free⟩
  next used =>
    rw [Decidable.not_not] at used
    simp only [used, not_true_eq_false, if_false, false_and, true_and, false_or]
    split at fresh
    next number found =>
      rw [List.find?_map, Option.map_eq_some_iff] at found
      obtain ⟨index, found, rfl⟩ := found
      obtain ⟨-, -, least⟩ := List.find?_range_eq_some.mp found
      refine ⟨index + 2, Nat.le_add_left 2 index, rfl, fun less two below => ?_⟩
      obtain ⟨before, rfl⟩ := Nat.exists_eq_add_of_le' two
      simpa using least before (by omega)
    next => exact absurd used fresh

example : freshName ["Item", "Item2", "Item4"] "Item" = "Item3" := by decide

/-- The names that may be claimed for a candidate: the candidate itself, and the candidate with a
number from two on behind it. -/
inductive Numbering (candidate : String) : String → Prop where
  /-- Nothing follows. -/
  | plain : Numbering candidate candidate
  /-- A number follows. -/
  | numbered {number : Nat} : 2 ≤ number → Numbering candidate (numbered candidate number)

theorem numbering_freshName (taken : List String) (candidate : String) :
    Numbering candidate (freshName taken candidate) := by
  rcases freshName_cases taken candidate with ⟨-, same⟩ | ⟨-, number, two, same, -⟩
  · rw [same]
    exact .plain
  · rw [same]
    exact .numbered two

/-- A claimed name begins with its candidate. -/
theorem Numbering.prefix_toList {candidate name : String} (numbering : Numbering candidate name) :
    candidate.toList <+: name.toList := by
  cases numbering with
  | plain => exact List.prefix_refl _
  | numbered _ => simp [HostBindings.numbered]

/-- Where one more name is taken, a candidate gets the name that it got before, unless that is the
one more name. -/
theorem freshName_eq_of_mem_iff {taken more : List String} {extra candidate : String}
    (grown : ∀ name, name ∈ more ↔ name ∈ taken ∨ name = extra)
    (other : freshName taken candidate ≠ extra) :
    freshName more candidate = freshName taken candidate := by
  have fresh := freshName_not_mem more candidate
  have free : freshName taken candidate ∉ more := by
    rw [grown]
    exact fun either => either.elim (freshName_not_mem taken candidate) other
  rcases freshName_cases taken candidate with ⟨-, same⟩ | ⟨used, n, two, same, least⟩
  · rw [same] at free ⊢
    rcases freshName_cases more candidate with ⟨-, same'⟩ | ⟨used', -⟩
    · exact same'
    · exact absurd used' free
  · have used' : candidate ∈ more := (grown candidate).mpr (.inl used)
    rcases freshName_cases more candidate with ⟨free', -⟩ | ⟨-, n', two', same', least'⟩
    · exact absurd used' free'
    rw [same] at free ⊢
    rw [same'] at fresh ⊢
    rcases Nat.lt_trichotomy n n' with less | rfl | less
    · exact absurd (least' n two less) free
    · rfl
    · exact absurd ((grown _).mpr (.inl (least n' two' less))) fresh

/-! ### The search for a free name -/

variable {taken : List String} {candidate name found : String} {next : Nat}

/-- The search for a free name that has come to a name; the candidate with the number `next` is to
be tried behind it. -/
inductive Finds (taken : List String) (candidate : String) : String → Nat → String → Prop where
  /-- A free name is what is found. -/
  | free {name : String} {next : Nat} : name ∉ taken → Finds taken candidate name next name
  /-- Behind a taken name the search goes on. -/
  | again {name : String} {next : Nat} {found : String} : name ∈ taken →
    Finds taken candidate (numbered candidate next) (next + 1) found →
    Finds taken candidate name next found

theorem Finds.unique {other : String} (finds : Finds taken candidate name next found)
    (others : Finds taken candidate name next other) : other = found := by
  induction finds with
  | free unused =>
    cases others with
    | free => rfl
    | again used => exact absurd used unused
  | again used _ ih =>
    cases others with
    | free unused => exact absurd used unused
    | again _ later => exact ih later

/-- The search passes over the numbers whose names are taken. -/
theorem finds_numbered {number : Nat} (free : numbered candidate number ∉ taken)
    (before : next ≤ number)
    (used : ∀ less ≥ next, less < number → numbered candidate less ∈ taken) :
    Finds taken candidate (numbered candidate next) (next + 1) (numbered candidate number) := by
  -- the induction is on the rounds that are left, so the number that comes next has to vary
  obtain ⟨rounds, rfl⟩ := Nat.exists_eq_add_of_le before
  induction rounds generalizing next with
  | zero => exact .free free
  | succ rounds ih =>
    have sum : next + (rounds + 1) = next + 1 + rounds := by omega
    have here : numbered candidate next ∈ taken := used next (Nat.le_refl next) (by omega)
    rw [sum] at free ⊢
    refine .again here (ih free (Nat.le_add_right _ _) fun less late early => ?_)
    exact used less (by omega) (by omega)

/-- The search for a candidate ends, and what it finds is the name that is claimed. -/
theorem finds_iff :
    Finds taken candidate candidate 2 found ↔ found = freshName taken candidate := by
  have fresh := freshName_not_mem taken candidate
  have finds : Finds taken candidate candidate 2 (freshName taken candidate) := by
    rcases freshName_cases taken candidate with ⟨-, same⟩ | ⟨used, number, two, same, least⟩
    · -- the candidate itself is free, so there is no second round
      rw [same] at fresh ⊢
      exact .free fresh
    · rw [same] at fresh ⊢
      exact .again used (finds_numbered fresh two least)
  constructor
  · intro other
    exact finds.unique other
  · rintro rfl
    exact finds

end HostBindings
