import Mathlib.Data.List.Forall2
import Mathlib.Data.List.Nodup

/-!
# Results that succeed

What the parts of a composed result are when the whole succeeds.

## Main results

* `bind_eq_ok_iff`, `bind_eq_error_iff`, `map_eq_ok_iff`, `mapError_eq_ok_iff`,
  `toOption_eq_some_iff`, `isOk_iff` — one result
* `mem_of_lookup_eq_some`, `isSome_lookup_iff`, `lookup_eq_some_of_mem` — a look-up
* `mapM_eq_ok_iff`, `exists_mapM_eq_ok`, `exists_of_mapM_eq_error` — a list of results
* `exists_forall₂_iff`, `forall₂_map_eq`, `filterMap_eq_of_forall₂`, `isEmpty_eq_of_forall₂`,
  `exists_item_of_mem` — two lists gone through together
-/

namespace HostBindings

variable {ε δ α β γ : Type}

@[simp] theorem mapError_ok (f : ε → δ) (a : α) : (Except.ok a).mapError f = .ok a := rfl

@[simp] theorem mapError_error (f : ε → δ) (fault : ε) :
    (Except.error fault : Except ε α).mapError f = .error (f fault) := rfl

theorem mapError_eq_ok_iff {result : Except ε α} {f : ε → δ} {a : α} :
    result.mapError f = .ok a ↔ result = .ok a := by
  cases result <;> simp

theorem bind_eq_ok_iff {result : Except ε α} {next : α → Except ε β} {b : β} :
    result >>= next = .ok b ↔ ∃ a, result = .ok a ∧ next a = .ok b := by
  cases result <;> simp [bind, Except.bind]

theorem bind_eq_error_iff {result : Except ε α} {next : α → Except ε β} {fault : ε} :
    result >>= next = .error fault ↔
      result = .error fault ∨ ∃ a, result = .ok a ∧ next a = .error fault := by
  cases result <;> simp [bind, Except.bind]

theorem toOption_eq_some_iff {result : Except ε α} {a : α} :
    result.toOption = some a ↔ result = .ok a := by
  cases result <;> simp [Except.toOption]

theorem isOk_iff {result : Except ε α} : result.isOk = true ↔ ∃ a, result = .ok a := by
  cases result <;> simp [Except.isOk, Except.toBool]

theorem map_eq_ok_iff {result : Except ε α} {f : α → β} {b : β} :
    result.map f = .ok b ↔ ∃ a, result = .ok a ∧ f a = b := by
  cases result <;> simp [Except.map]

/-- What a look-up finds is listed. -/
theorem mem_of_lookup_eq_some [BEq α] [LawfulBEq α] {entries : List (α × β)} {key : α} {value : β}
    (found : entries.lookup key = some value) : (key, value) ∈ entries := by
  obtain ⟨before, after, rfl, -⟩ := List.lookup_eq_some_iff.mp found
  simp

/-- What is looked up is found exactly if it is listed. -/
theorem isSome_lookup_iff [BEq α] [LawfulBEq α] {entries : List (α × β)} {key : α} :
    (entries.lookup key).isSome ↔ key ∈ entries.map (·.1) := by
  simp only [List.lookup_isSome_iff, List.mem_map, beq_iff_eq]
  exact exists_congr fun _ => and_congr_right' eq_comm

theorem lookup_eq_none_of_not_mem [BEq α] [LawfulBEq α] {entries : List (α × β)} {key : α}
    (unlisted : key ∉ entries.map (·.1)) : entries.lookup key = none := by
  rw [← Option.not_isSome_iff_eq_none, isSome_lookup_iff]
  exact unlisted

/-- What is listed under a key is found, where no key is listed twice. -/
theorem lookup_eq_some_of_mem [BEq α] [LawfulBEq α] {entries : List (α × β)} {entry : α × β}
    (single : (entries.map (·.1)).Nodup) (member : entry ∈ entries) :
    entries.lookup entry.1 = some entry.2 := by
  obtain ⟨value, found⟩ := Option.isSome_iff_exists.mp
    (isSome_lookup_iff.mpr (List.mem_map_of_mem member))
  have same := List.inj_on_of_nodup_map single member (mem_of_lookup_eq_some found) rfl
  rw [found, same]

/-- A list of results, each of its item. -/
theorem forall₂_of_mapM_eq_ok {f : α → Except ε β} {items : List α} {results : List β}
    (mapped : items.mapM f = .ok results) :
    List.Forall₂ (fun item result => f item = .ok result) items results := by
  induction items generalizing results with
  | nil =>
    cases mapped
    exact .nil
  | cons item rest ih =>
    rw [List.mapM_cons, bind_eq_ok_iff] at mapped
    obtain ⟨result, first, mapped⟩ := mapped
    obtain ⟨others, later, same⟩ := bind_eq_ok_iff.mp mapped
    cases same
    exact .cons first (ih later)

theorem mapM_eq_ok_iff {f : α → Except ε β} {items : List α} {results : List β} :
    items.mapM f = .ok results ↔
      List.Forall₂ (fun item result => f item = .ok result) items results := by
  refine ⟨forall₂_of_mapM_eq_ok, fun fits => ?_⟩
  induction fits with
  | nil => rfl
  | cons first _ ih =>
    rw [List.mapM_cons, first, ih]
    rfl

/-- Lists can be gone through together if every item fits something. -/
theorem exists_forall₂_iff {Fits : α → β → Prop} {items : List α} :
    (∃ results, List.Forall₂ Fits items results) ↔ ∀ item ∈ items, ∃ result, Fits item result := by
  induction items with
  | nil => exact iff_of_true ⟨[], .nil⟩ (by simp)
  | cons item rest ih =>
    rw [List.forall_mem_cons, ← ih]
    constructor
    · rintro ⟨_, fits⟩
      cases fits with
      | cons first others => exact ⟨⟨_, first⟩, _, others⟩
    · rintro ⟨⟨result, first⟩, results, others⟩
      exact ⟨result :: results, .cons first others⟩

/-- Where every item has a result, the list has results. -/
theorem exists_mapM_eq_ok {f : α → Except ε β} {items : List α}
    (each : ∀ item ∈ items, ∃ result, f item = .ok result) :
    ∃ results, items.mapM f = .ok results := by
  obtain ⟨results, fits⟩ := exists_forall₂_iff.mpr each
  exact ⟨results, mapM_eq_ok_iff.mpr fits⟩

/-- Where a list has no results, an item has none. -/
theorem exists_of_mapM_eq_error {f : α → Except ε β} {items : List α} {fault : ε}
    (refused : items.mapM f = .error fault) : ∃ item ∈ items, f item = .error fault := by
  induction items with
  | nil => cases refused
  | cons item rest ih =>
    rw [List.mapM_cons] at refused
    rcases bind_eq_error_iff.mp refused with first | ⟨value, -, refused⟩
    · exact ⟨item, List.mem_cons_self, first⟩
    · rcases bind_eq_error_iff.mp refused with others | ⟨_, -, none⟩
      · obtain ⟨other, member, same⟩ := ih others
        exact ⟨other, List.mem_cons_of_mem _ member, same⟩
      · cases none

/-- Every result of a list gone through is the result of some item. -/
theorem exists_item_of_mem {Fits : α → β → Prop} {items : List α} {results : List β}
    (fits : List.Forall₂ Fits items results) {result : β} (member : result ∈ results) :
    ∃ item ∈ items, Fits item result := by
  induction fits with
  | nil => cases member
  | cons fit _ ih =>
    rcases List.mem_cons.mp member with rfl | member
    · exact ⟨_, List.mem_cons_self, fit⟩
    · obtain ⟨item, itemMember, fit⟩ := ih member
      exact ⟨item, List.mem_cons_of_mem _ itemMember, fit⟩

/-- Every item of a list gone through has a result. -/
theorem exists_result_of_mem {Fits : α → β → Prop} {items : List α} {results : List β}
    (fits : List.Forall₂ Fits items results) {item : α} (member : item ∈ items) :
    ∃ result ∈ results, Fits item result := by
  obtain ⟨result, resultMember, fit⟩ := exists_item_of_mem fits.flip member
  exact ⟨result, resultMember, fit⟩

/-- Two lists gone through together are both empty, or none is. -/
theorem isEmpty_eq_of_forall₂ {Fits : α → β → Prop} {items : List α} {results : List β}
    (fits : List.Forall₂ Fits items results) : items.isEmpty = results.isEmpty := by
  cases fits <;> rfl

/-- Two lists gone through together have the same results where their items have. -/
theorem filterMap_eq_of_forall₂ {Fits : α → α → Prop} {f : α → Option γ} {items others : List α}
    (fits : List.Forall₂ Fits items others) (same : ∀ a b, Fits a b → f a = f b) :
    items.filterMap f = others.filterMap f := by
  induction fits with
  | nil => rfl
  | cons fit _ ih => rw [List.filterMap_cons, List.filterMap_cons, same _ _ fit, ih]

/-- Two lists gone through together have the same image where their items have. -/
theorem forall₂_map_eq {Fits : α → β → Prop} {f : α → γ} {g : β → γ} {items : List α}
    {results : List β} (fits : List.Forall₂ Fits items results)
    (same : ∀ {a b}, Fits a b → f a = g b) : items.map f = results.map g := by
  induction fits with
  | nil => rfl
  | cons fit _ ih => rw [List.map_cons, List.map_cons, same fit, ih]

end HostBindings
