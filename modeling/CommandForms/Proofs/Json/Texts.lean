import CommandForms.Proofs.Entries
import CommandForms.Proofs.Json.Values
import CommandForms.Proofs.Text.Blank

/-!
# Whole texts of values

A value all of whose numbers are integers is read from its text as it stands, and in normal form when its
members already ascend.  Its text does not end in a blank, and no other such value has the same text.
-/

namespace CommandForms.Json

theorem endsNumber_nil : EndsNumber [] :=
  fun _ h => nomatch h

theorem readAll_eq_ok {α : Type} {read : (cs : List Char) → Reading α cs} {chars : List Char} {a : α}
    (h : ∀ rest, EndsNumber rest → Yields (read (chars ++ rest)) a rest) :
    readAll read (String.ofList chars) = .ok a := by
  have hread : Yields (read (String.ofList chars).toList) a [] := by
    rw [String.toList_ofList, ← List.append_nil chars]
    exact h [] endsNumber_nil
  obtain ⟨hlt, hread⟩ := hread
  rw [readAll, hread]
  rfl

namespace Value

/-- The members of every object of a value ascend by key. -/
def Ordered (value : Value) : Prop :=
  ∀ members, Within (.object members) value → Entries.Ascending members

@[simp]
theorem ordered_null : Ordered .null :=
  fun _ h => nomatch h

@[simp]
theorem ordered_bool (b : Bool) : (Value.bool b).Ordered :=
  fun _ h => nomatch h

@[simp]
theorem ordered_number (n : Number) : (Value.number n).Ordered :=
  fun _ h => nomatch h

@[simp]
theorem ordered_string (s : String) : (Value.string s).Ordered :=
  fun _ h => nomatch h

@[simp]
theorem ordered_array {items : List Value} :
    (Value.array items).Ordered ↔ ∀ item ∈ items, item.Ordered := by
  constructor
  · exact fun h item hitem members hwithin => h members (.item hitem hwithin)
  · intro h members hwithin
    cases hwithin with
    | item hitem inner => exact h _ hitem members inner

@[simp]
theorem ordered_object {members : List (String × Value)} :
    (Value.object members).Ordered ↔
      Entries.Ascending members ∧ ∀ member ∈ members, member.2.Ordered := by
  constructor
  · intro h
    exact ⟨h members (.root _),
      fun member hmember others hwithin => h others (.member hmember hwithin)⟩
  · rintro ⟨hascending, h⟩ others hwithin
    cases hwithin with
    | root => exact hascending
    | member hmember inner => exact h _ hmember others inner

theorem normalizeItems_eq_map (items : List Value) : normalizeItems items = items.map normalize := by
  induction items with
  | nil => rfl
  | cons item items ih => rw [normalizeItems, ih, List.map_cons]

theorem normalizeMembers_eq_map (members : List (String × Value)) :
    normalizeMembers members = members.map fun member => (member.1, member.2.normalize) := by
  induction members with
  | nil => rfl
  | cons member members ih => rw [normalizeMembers, ih, List.map_cons]

theorem normalize_eq_self {value : Value} (h : value.Ordered) : value.normalize = value := by
  induction value using Value.induction with
  | null | bool _ | number _ | string _ => rfl
  | array items ih =>
      have hitems : items.map normalize = items.map id :=
        List.map_congr_left fun item hmem => ih item hmem (ordered_array.mp h item hmem)
      rw [normalize, normalizeItems_eq_map, hitems, List.map_id]
  | object members ih =>
      obtain ⟨hascending, hordered⟩ := ordered_object.mp h
      have hmembers : (members.map fun member => (member.1, member.2.normalize)) = members.map id :=
        List.map_congr_left fun member hmem =>
          congrArg (Prod.mk member.1) (ih member hmem (hordered member hmem))
      rw [normalize, normalizeMembers_eq_map, hmembers, List.map_id, hascending.ofList_eq]

/-! ## Reading a text -/

theorem readRaw_text {value : Value} (hwhole : value.Whole) (hdepth : value.depth < depthLimit) :
    readRaw value.text = .ok value :=
  readAll_eq_ok fun _ hrest => yields_readValue hwhole hdepth hrest

/-- A value whose numbers are integers and whose members ascend is read back from its text. -/
theorem parse_text {value : Value} (hwhole : value.Whole) (hordered : value.Ordered)
    (hdepth : value.depth < depthLimit) : parse value.text = .ok value := by
  rw [parse, readRaw_text hwhole hdepth]
  exact congrArg Except.ok (normalize_eq_self hordered)

/-- Values whose numbers are integers are told apart by their texts, however deep they are. -/
theorem eq_of_chars_eq {value other : Value} (hvalue : value.Whole) (hother : other.Whole)
    (h : value.chars = other.chars) : value = other := by
  -- Any limit above both depths will do, so the two values may be deeper than `depthLimit`.
  obtain ⟨depth, hdepth, hdepth'⟩ : ∃ depth, value.depth < depth ∧ other.depth < depth :=
    ⟨max value.depth other.depth + 1, by omega, by omega⟩
  have hreadValue : Yields (readValue depth (value.chars ++ [])) value [] :=
    yields_readValue hvalue hdepth endsNumber_nil
  have hreadOther : Yields (readValue depth (other.chars ++ [])) other [] :=
    yields_readValue hother hdepth' endsNumber_nil
  rw [h] at hreadValue
  obtain ⟨_, hreadValue⟩ := hreadValue
  obtain ⟨_, hreadOther⟩ := hreadOther
  rw [hreadValue] at hreadOther
  cases hreadOther
  rfl

/-! ## The ends of a text -/

theorem not_blank_last {value : Value} (h : value.Whole) :
    ∀ c ∈ value.chars.getLast?, Text.isBlank c = false := by
  have hconcat : ∀ front d, Text.isBlank d = false →
      ∀ c ∈ (front ++ [d]).getLast?, Text.isBlank c = false := by
    intro front d hd c hc
    rw [List.getLast?_concat] at hc
    cases hc
    exact hd
  cases value with
  | null => exact hconcat ['n', 'u', 'l'] 'l' (by decide)
  | bool b =>
      cases b with
      | true => exact hconcat ['t', 'r', 'u'] 'e' (by decide)
      | false => exact hconcat ['f', 'a', 'l', 's'] 'e' (by decide)
  | number n =>
      cases n with
      | double d => exact absurd (.root _) (h d)
      | integer n fits =>
          intro c hc
          exact Numeral.isBlank_of_mem_integerChars (List.mem_of_getLast? hc)
  | string s => exact hconcat ('"' :: s.toList.flatMap escapedChar) '"' (by decide)
  | array items => exact hconcat ('[' :: itemsChars items) ']' (by decide)
  | object members => exact hconcat ('\x7b' :: membersChars members) '\x7d' (by decide)

end Value

end CommandForms.Json
