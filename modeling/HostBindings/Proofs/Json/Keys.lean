import HostBindings.Json.Reader
import HostBindings.Proofs.Json.Members

/-!
# Keys that are listed once

The reader sets the members of an object one by one, so no object that it gives lists a key twice,
at whatever place within the document. Whatever else holds of all that is read is shown in the same
way, from the parts of a document to the whole.

## Main definitions

* `Json.Keyed` — no object within a value lists a key twice
* `Json.ReadInvariant` — a property that what is read gets from its parts

## Main results

* `Json.ReadInvariant.read` — what is read from a document has such a property
* `Json.Keyed.put`, `Json.Keyed.merge` — members that are set keep the keys apart
-/

namespace HostBindings.Json

mutual
/-- No object within a value lists a key twice. -/
def Keyed : Json → Prop
  | .array items => KeyedItems items
  | .object members => (members.map (·.1)).Nodup ∧ KeyedMembers members
  | _ => True

/-- No object within the items lists a key twice. -/
def KeyedItems : List Json → Prop
  | [] => True
  | item :: rest => Keyed item ∧ KeyedItems rest

/-- No object within the values of the members lists a key twice. -/
def KeyedMembers : Members → Prop
  | [] => True
  | (_, value) :: rest => Keyed value ∧ KeyedMembers rest
end

variable {room : Nat} {text : List Char} {value : Json} {items : List Json} {members : Members}
  {key : String}

@[simp] theorem keyed_array : (Json.array items).Keyed ↔ ∀ item ∈ items, item.Keyed := by
  rw [Keyed]
  induction items with
  | nil => simp [KeyedItems]
  | cons item rest ih => rw [KeyedItems, ih, List.forall_mem_cons]

@[simp] theorem keyed_object : (Json.object members).Keyed ↔
    (members.map (·.1)).Nodup ∧ ∀ member ∈ members, member.2.Keyed := by
  rw [Keyed]
  refine and_congr_right' ?_
  induction members with
  | nil => simp [KeyedMembers]
  | cons member rest ih => rw [KeyedMembers, ih, List.forall_mem_cons]

/-- A member that is set. -/
theorem Keyed.put (below : (Json.object members).Keyed) (keyed : value.Keyed) :
    (Json.object (members.put key value)).Keyed := by
  obtain ⟨single, inside⟩ := keyed_object.mp below
  refine keyed_object.mpr ⟨Members.nodup_put single, fun member listed => ?_⟩
  rcases Members.mem_put listed with old | rfl
  · exact inside member old
  · exact keyed

/-- Members that are set one after the other. -/
theorem Keyed.merge {extra : Members} (below : (Json.object members).Keyed)
    (above : ∀ member ∈ extra, member.2.Keyed) : (Json.object (members.merge extra)).Keyed := by
  induction extra generalizing members with
  | nil => exact below
  | cons member rest ih =>
    obtain ⟨first, others⟩ := List.forall_mem_cons.mp above
    exact ih (below.put first) others

/-! ### What the reader gives -/

/-- What is left behind a gap is no longer. -/
theorem length_lt_of_skipGap {c d : Char} {after : List Char} (same : skipGap text = d :: after) :
    (d :: after).length < (c :: text).length :=
  Nat.lt_succ_of_le (same ▸ length_skipGap_le text)

/-- An array is empty or is read from its items. -/
theorem readValue_bracket_eq_ok {left : Rest ('[' :: text)}
    (read : readValue room ('[' :: text) = .ok (value, left)) :
    room ≠ 0 ∧ (value = .array [] ∨
      ∃ inner items, ∃ last : Rest inner, inner.length < ('[' :: text).length ∧
        readItems (room - 1) inner = .ok (items, last) ∧ value = .array items) := by
  rw [readValue.eq_def] at read
  simp only [if_true] at read
  rw [if_neg (by decide)] at read
  split at read
  next => cases read
  next opens =>
    refine ⟨opens, ?_⟩
    split at read
    next => cases read
    next same =>
      split at read
      next =>
        cases read
        exact .inl rfl
      next =>
        obtain ⟨⟨items, last⟩, inside, made⟩ := bind_eq_ok_iff.mp read
        cases made
        exact .inr ⟨_, items, last, length_lt_of_skipGap same, inside, rfl⟩

/-- An object is empty or is read from its members. -/
theorem readValue_brace_eq_ok {left : Rest ('\x7b' :: text)}
    (read : readValue room ('\x7b' :: text) = .ok (value, left)) :
    room ≠ 0 ∧ (value = .object [] ∨
      ∃ inner members, ∃ last : Rest inner, inner.length < ('\x7b' :: text).length ∧
        readMembers (room - 1) [] inner = .ok (members, last) ∧ value = .object members) := by
  rw [readValue.eq_def] at read
  simp only [if_true] at read
  rw [if_neg (by decide), if_neg (by decide)] at read
  split at read
  next => cases read
  next opens =>
    refine ⟨opens, ?_⟩
    split at read
    next => cases read
    next same =>
      split at read
      next =>
        cases read
        exact .inl rfl
      next =>
        obtain ⟨⟨members, last⟩, inside, made⟩ := bind_eq_ok_iff.mp read
        cases made
        exact .inr ⟨_, members, last, length_lt_of_skipGap same, inside, rfl⟩

/-- An array or an object is read from its parts, and all else has none. -/
theorem readValue_eq_ok {left : Rest text} (read : readValue room text = .ok (value, left)) :
    (∃ chars, value = .string chars) ∨ (∃ after : Rest text, readScalar text = .ok (value, after)) ∨
      room ≠ 0 ∧ (value = .array [] ∨ value = .object [] ∨
        (∃ inner items, ∃ last : Rest inner, inner.length < text.length ∧
          readItems (room - 1) inner = .ok (items, last) ∧ value = .array items) ∨
        ∃ inner members, ∃ last : Rest inner, inner.length < text.length ∧
          readMembers (room - 1) [] inner = .ok (members, last) ∧ value = .object members) := by
  -- by the first character, as the reader does
  cases text with
  | nil =>
    rw [readValue.eq_def] at read
    cases read
  | cons c rest =>
    by_cases bracket : c = '['
    · subst bracket
      obtain ⟨opens, empty | parts⟩ := readValue_bracket_eq_ok read
      · exact .inr (.inr ⟨opens, .inl empty⟩)
      · exact .inr (.inr ⟨opens, .inr (.inr (.inl parts))⟩)
    by_cases brace : c = '\x7b'
    · subst brace
      obtain ⟨opens, empty | parts⟩ := readValue_brace_eq_ok read
      · exact .inr (.inr ⟨opens, .inr (.inl empty)⟩)
      · exact .inr (.inr ⟨opens, .inr (.inr (.inr parts))⟩)
    rw [readValue.eq_def] at read
    simp only [if_neg bracket, if_neg brace] at read
    split at read
    next =>
      obtain ⟨⟨chars, after⟩, -, same⟩ := bind_eq_ok_iff.mp read
      cases same
      exact .inl ⟨_, rfl⟩
    next => exact .inr (.inl ⟨left, read⟩)

/-- Items are read one by one. -/
theorem readItems_eq_ok {left : Rest text} (read : readItems room text = .ok (items, left)) :
    ∃ item, ∃ after : Rest text, readValue room text = .ok (item, after) ∧
      (items = [item] ∨ ∃ inner others, ∃ last : Rest inner, inner.length < text.length ∧
        readItems room inner = .ok (others, last) ∧ items = item :: others) := by
  rw [readItems.eq_def] at read
  obtain ⟨⟨item, after⟩, first, read⟩ := bind_eq_ok_iff.mp read
  refine ⟨item, after, first, ?_⟩
  dsimp only at read
  split at read
  next => cases read
  next c rest same =>
    split at read
    next =>
      cases read
      exact .inl rfl
    next =>
      split at read
      next =>
        obtain ⟨⟨others, last⟩, inside, made⟩ := bind_eq_ok_iff.mp read
        cases made
        refine .inr ⟨_, others, last, ?_, inside, rfl⟩
        -- the comma is gone, and so are the gaps, so what is left is shorter
        have gap := length_skipGap_le after.1
        have onward := length_skipGap_le rest
        have := after.2
        rw [same, List.length_cons] at gap
        omega
      next => cases read

/-- Members are read one by one, and set over those before. -/
theorem readMembers_eq_ok {all : Members} {left : Rest text}
    (read : readMembers room members text = .ok (all, left)) :
    ∃ key value, ∃ inner : List Char, ∃ after : Rest inner, inner.length < text.length ∧
      readValue room inner = .ok (value, after) ∧
      (all = members.put key value ∨ ∃ rest, ∃ last : Rest rest, rest.length < text.length ∧
        readMembers room (members.put key value) rest = .ok (all, last)) := by
  rw [readMembers.eq_def] at read
  split at read
  next => cases read
  next c rest =>
    split at read
    next =>
      obtain ⟨⟨key, afterKey⟩, -, read⟩ := bind_eq_ok_iff.mp read
      have := afterKey.2
      dsimp only at read
      split at read
      next => cases read
      next d afterColon colon =>
        -- colon, comma and gaps only make what is left shorter
        have gap := length_skipGap_le afterKey.1
        rw [colon, List.length_cons] at gap
        split at read
        next =>
          obtain ⟨⟨value, after⟩, first, read⟩ := bind_eq_ok_iff.mp read
          have before := length_skipGap_le afterColon
          have := after.2
          refine ⟨String.ofList key, value, _, after, ?_, first, ?_⟩
          · rw [List.length_cons]
            omega
          dsimp only at read
          split at read
          next => cases read
          next e rest same =>
            split at read
            next =>
              cases read
              exact .inl rfl
            next =>
              split at read
              next =>
                obtain ⟨⟨others, last⟩, inside, made⟩ := bind_eq_ok_iff.mp read
                cases made
                refine .inr ⟨_, last, ?_, inside⟩
                have behind := length_skipGap_le after.1
                have onward := length_skipGap_le rest
                rw [same, List.length_cons] at behind
                rw [List.length_cons]
                omega
              next => cases read
        next => cases read
    next => cases read

/-- What the reader gives has a property, if words, numbers and strings have it, and arrays and
objects have it whose parts have it. The property may depend on how many arrays and objects may be
opened. -/
structure ReadInvariant (good : Nat → Json → Prop) : Prop where
  /-- Strings have it. -/
  string {room : Nat} (text : String) : good room (.string text)
  /-- Words and numbers have it. -/
  scalar {room : Nat} {text : List Char} {value : Json} {left : Rest text} :
    readScalar text = .ok (value, left) → good room value
  /-- Arrays of items have it. -/
  array {room : Nat} {items : List Json} : room ≠ 0 → (∀ item ∈ items, good (room - 1) item) →
    good room (.array items)
  /-- Objects with members have it. -/
  object {room : Nat} {members : Members} : room ≠ 0 → (members.map (·.1)).Nodup →
    (∀ member ∈ members, good (room - 1) member.2) → good room (.object members)

variable {good : Nat → Json → Prop}

/-- The parts are read with the property; the members before those that are read have to have it. -/
theorem ReadInvariant.of_read (closed : ReadInvariant good) (length : Nat) :
    (∀ {room text value} {left : Rest text}, text.length = length →
      readValue room text = .ok (value, left) → good room value) ∧
    (∀ {room text items} {left : Rest text}, text.length = length →
      readItems room text = .ok (items, left) → ∀ item ∈ items, good room item) ∧
    ∀ {room text members all} {left : Rest text}, text.length = length →
      (members.map (·.1)).Nodup → (∀ member ∈ members, good room member.2) →
      readMembers room members text = .ok (all, left) →
      (all.map (·.1)).Nodup ∧ ∀ member ∈ all, good room member.2 := by
  -- the readers call each other on shorter texts
  induction length using Nat.strongRecOn with
  | _ length ih =>
    have values {room text value} {left : Rest text} (now : text.length = length)
        (read : readValue room text = .ok (value, left)) : good room value := by
      rcases readValue_eq_ok read with ⟨chars, rfl⟩ | ⟨after, scalar⟩ |
        ⟨opens, rfl | rfl | ⟨_, items, last, shorter, inside, rfl⟩ |
          ⟨_, members, last, shorter, inside, rfl⟩⟩
      · exact closed.string chars
      · exact closed.scalar scalar
      · exact closed.array opens (by simp)
      · exact closed.object opens (by simp) (by simp)
      · exact closed.array opens ((ih _ (now ▸ shorter)).2.1 rfl inside)
      · obtain ⟨single, parts⟩ := (ih _ (now ▸ shorter)).2.2 rfl (by simp) (by simp) inside
        exact closed.object opens single parts
    refine ⟨values, fun now read => ?_, fun now single below read => ?_⟩
    · obtain ⟨item, after, first, rfl | ⟨inner, others, last, shorter, inside, rfl⟩⟩ :=
        readItems_eq_ok read
      · simpa using values now first
      · exact List.forall_mem_cons.mpr
          ⟨values now first, (ih _ (now ▸ shorter)).2.1 rfl inside⟩
    · obtain ⟨key, value, inner, after, shorter, first, others⟩ := readMembers_eq_ok read
      have here := (ih _ (now ▸ shorter)).1 rfl first
      have kept : ((Members.put _ key value).map (·.1)).Nodup := Members.nodup_put single
      have extended : ∀ member ∈ Members.put _ key value, good _ member.2 := fun member listed =>
        (Members.mem_put listed).elim (below member) fun same => same ▸ here
      rcases others with rfl | ⟨rest, last, shorter, inside⟩
      · exact ⟨kept, extended⟩
      · exact (ih _ (now ▸ shorter)).2.2 rfl kept extended inside

/-- What is read from a document has the property. -/
theorem ReadInvariant.read (closed : ReadInvariant good) {document : String}
    (result : Json.read document = .ok value) : good nestingLimit value := by
  unfold Json.read at result
  dsimp only at result
  split at result
  next => cases result
  next =>
    split at result
    next => cases result
    next value' rest inside =>
      split at result
      next =>
        cases result
        exact (closed.of_read _).1 rfl inside
      next => cases result

/-- A word or a number is one of the known words, or else a number. -/
theorem readScalar_eq_ok {left : Rest text} (read : readScalar text = .ok (value, left)) :
    (∃ word, (word, value) ∈ constants) ∨ ∃ rest, number? text = some (.ok value, rest) := by
  unfold readScalar at read
  dsimp only at read
  split at read
  next => cases read
  next result rest found =>
    split at read
    next =>
      split at read
      next =>
        cases read
        split at found
        next word =>
          cases found
          obtain ⟨⟨known, value⟩, listed, same⟩ := List.exists_of_findSome?_eq_some word
          obtain ⟨_, -, made⟩ := Option.map_eq_some_iff.mp same
          cases made
          exact .inl ⟨known, listed⟩
        next => exact .inr ⟨rest, found⟩
      next => cases read
    next => cases read

/-- An integer that is read is within the limit. -/
theorem number?_eq_ok {rest : List Char} (number : number? text = some (.ok value, rest)) :
    (∃ unsigned whole after, integerPart? unsigned = some (whole, after) ∧
      whole.length ≤ digitLimit ∧
      ∃ integer : Int, integer.natAbs = digitsValue whole ∧ value = .int integer) ∨
      ∃ double, value = .float double := by
  unfold number? at number
  dsimp only at number
  split at number
  next => cases number
  next whole _ part =>
    have made := (Prod.mk.inj (Option.some.inj number)).1
    split at made
    next =>
      split at made
      next => cases made
      next short =>
        cases made
        refine .inl ⟨_, whole, _, part, Nat.not_lt.mp short, _, ?_, rfl⟩
        split
        · exact Int.natAbs_neg _
        · rfl
    next =>
      cases made
      exact .inr ⟨_, rfl⟩

end HostBindings.Json
