import HostBindings.Json.Basic
import HostBindings.Proofs.Results

/-!
# The members of objects

What is found in members that are set one by one, and which keys they have.

## Main definitions

* `Json.Members.last?` — the last value that members give a key

## Main results

* `Json.Members.get?_merge` — what is found in members merged with others
* `Json.Members.keys_put`, `Json.Members.nodup_put` — the keys of members after one is set
* `Json.Members.nodup_merge` — no key is listed twice after others are set
-/

namespace HostBindings

namespace Json.Members

variable {members extra : Members} {key other : String} {value : Json}

/-- The last value that members give a key. -/
def last? (members : Members) (key : String) : Option Json := members.reverse.lookup key

theorem last?_append (members more : Members) (key : String) :
    (members ++ more).last? key = (more.last? key).or (members.last? key) := by
  rw [last?, List.reverse_append, List.lookup_append]
  rfl

theorem last?_cons (member : String × Json) (rest : Members) (key : String) :
    last? (member :: rest) key =
      (rest.last? key).or (if key = member.1 then some member.2 else none) := by
  rw [← List.singleton_append, last?_append]
  congr 1
  obtain ⟨name, value⟩ := member
  by_cases same : key = name
  · subst same
    simp [last?]
  · simp [last?, same]

theorem mem_of_last?_eq_some (found : members.last? key = some value) : (key, value) ∈ members :=
  List.mem_reverse.mp (mem_of_lookup_eq_some found)

theorem last?_eq_none_iff : members.last? key = none ↔ ∀ value, (key, value) ∉ members := by
  rw [last?, ← Option.not_isSome_iff_eq_none, isSome_lookup_iff]
  simp

/-- Where no key is listed twice, the last value of a key is its value. -/
theorem last?_eq_get? (single : (members.map (·.1)).Nodup) :
    members.last? key = members.get? key := by
  cases found : members.last? key with
  | none =>
    refine (lookup_eq_none_of_not_mem fun listed => ?_).symm
    obtain ⟨⟨_, value⟩, member, rfl⟩ := List.mem_map.mp listed
    exact last?_eq_none_iff.mp found value member
  | some value => exact (lookup_eq_some_of_mem single (mem_of_last?_eq_some found)).symm

/-- Members that are left out for other keys do not matter. -/
theorem last?_filter (keeps : String → Bool) (kept : keeps key = true) (members : Members) :
    (last? (members.filter fun member => keeps member.1) key) = members.last? key := by
  induction members with
  | nil => rfl
  | cons member rest ih =>
    rw [last?_cons, List.filter_cons]
    split
    · rw [last?_cons, ih]
    next left =>
      have other : key ≠ member.1 := fun same => left (same ▸ kept)
      rw [ih, if_neg other, Option.or_none]

theorem get?_merge (members extra : Members) (key : String) :
    (members.merge extra).get? key = (extra.last? key).or (members.get? key) := by
  induction extra generalizing members with
  | nil => rfl
  | cons member rest ih =>
    rw [merge, List.foldl_cons]
    change ((members.put member.1 member.2).merge rest).get? key = _
    rw [ih, get?_put, last?_cons, Option.or_assoc]
    congr 1
    split <;> rfl

theorem keys_put (members : Members) (key : String) (value : Json) :
    (members.put key value).map (·.1) =
      if key ∈ members.map (·.1) then members.map (·.1) else members.map (·.1) ++ [key] := by
  induction members with
  | nil => rfl
  | cons member rest ih =>
    rw [put]
    by_cases same : member.1 = key
    · simp [same]
    · have others : key ≠ member.1 := Ne.symm same
      rw [if_neg same, List.map_cons, ih]
      split <;> simp_all

/-- A member with a new key comes last. -/
theorem put_of_not_mem (new : key ∉ members.map (·.1)) :
    members.put key value = members ++ [(key, value)] := by
  induction members with
  | nil => rfl
  | cons member rest ih =>
    rw [List.map_cons, List.mem_cons, not_or] at new
    rw [put, if_neg (Ne.symm new.1), ih new.2, List.cons_append]

theorem mem_put {entry : String × Json} (member : entry ∈ members.put key value) :
    entry ∈ members ∨ entry = (key, value) := by
  induction members with
  | nil => exact .inr (List.mem_singleton.mp member)
  | cons first rest ih =>
    rw [put] at member
    split at member
    next same =>
      rcases List.mem_cons.mp member with new | old
      · exact .inr (same ▸ new)
      · exact .inl (List.mem_cons_of_mem _ old)
    next =>
      rcases List.mem_cons.mp member with rfl | later
      · exact .inl List.mem_cons_self
      · exact (ih later).imp_left (List.mem_cons_of_mem _)

theorem nodup_put (single : (members.map (·.1)).Nodup) :
    ((members.put key value).map (·.1)).Nodup := by
  rw [keys_put]
  split
  · exact single
  next new =>
    refine List.nodup_append.mpr ⟨single, List.nodup_singleton _, ?_⟩
    rintro one member _ last rfl
    exact new (List.mem_singleton.mp last ▸ member)

theorem nodup_merge (extra : Members) (single : (members.map (·.1)).Nodup) :
    ((members.merge extra).map (·.1)).Nodup := by
  induction extra generalizing members with
  | nil => exact single
  | cons member rest ih => exact ih (nodup_put single)

end Json.Members

end HostBindings
