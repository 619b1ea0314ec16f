import CommandForms.Proofs.Json.Sequences
import CommandForms.Proofs.Schema.Parts

/-!
# Written values are read back

A value all of whose numbers are integers is read from its text, whatever follows that does not go on with a
number, as long as it is not nested too deeply.
-/

namespace CommandForms.Json

namespace Value

@[elab_as_elim]
theorem induction {motive : Value → Prop} (null : motive .null) (bool : ∀ b, motive (.bool b))
    (number : ∀ n, motive (.number n)) (string : ∀ s, motive (.string s))
    (array : ∀ items, (∀ item ∈ items, motive item) → motive (.array items))
    (object : ∀ members, (∀ member ∈ members, motive member.2) → motive (.object members))
    (value : Value) : motive value :=
  @Value.rec motive (fun items => ∀ item ∈ items, motive item)
    (fun members => ∀ member ∈ members, motive member.2) (fun member => motive member.2)
    null bool number string array object
    (fun _ hmem => nomatch hmem)
    (fun _ _ hhead htail => List.forall_mem_cons.mpr ⟨hhead, htail⟩)
    (fun _ hmem => nomatch hmem)
    (fun _ _ hhead htail => List.forall_mem_cons.mpr ⟨hhead, htail⟩)
    (fun _ _ hvalue => hvalue) value

/-! ## Depth -/

mutual

/-- How deep arrays and objects are nested in a value. -/
def depth : Value → Nat
  | .array items => depthOfItems items + 1
  | .object members => depthOfMembers members + 1
  | _ => 0

/-- How deep arrays and objects are nested in the items of an array. -/
def depthOfItems : List Value → Nat
  | [] => 0
  | item :: items => max item.depth (depthOfItems items)

/-- How deep arrays and objects are nested in the members of an object. -/
def depthOfMembers : List (String × Value) → Nat
  | [] => 0
  | (_, value) :: members => max value.depth (depthOfMembers members)

end

theorem depth_le_depthOfItems {item : Value} {items : List Value} (h : item ∈ items) :
    item.depth ≤ depthOfItems items := by
  induction items with
  | nil => cases h
  | cons head items ih =>
      rw [depthOfItems]
      rcases List.mem_cons.mp h with rfl | h
      · exact Nat.le_max_left _ _
      · exact Nat.le_trans (ih h) (Nat.le_max_right _ _)

theorem depth_le_depthOfMembers {member : String × Value} {members : List (String × Value)}
    (h : member ∈ members) : member.2.depth ≤ depthOfMembers members := by
  induction members with
  | nil => cases h
  | cons head members ih =>
      rw [depthOfMembers]
      rcases List.mem_cons.mp h with rfl | h
      · exact Nat.le_max_left _ _
      · exact Nat.le_trans (ih h) (Nat.le_max_right _ _)

theorem exists_inside_array {items : List Value} {depth : Nat} (h : (Value.array items).depth < depth) :
    ∃ inner, depth = inner + 2 ∧ ∀ item ∈ items, item.depth < inner + 1 := by
  rw [Value.depth] at h
  refine ⟨depth - 2, by omega, fun item hmem => ?_⟩
  have hle := depth_le_depthOfItems hmem
  omega

theorem exists_inside_object {members : List (String × Value)} {depth : Nat}
    (h : (Value.object members).depth < depth) :
    ∃ inner, depth = inner + 2 ∧ ∀ member ∈ members, member.2.depth < inner + 1 := by
  rw [Value.depth] at h
  refine ⟨depth - 2, by omega, fun member hmem => ?_⟩
  have hle := depth_le_depthOfMembers hmem
  omega

/-! ## Whole numbers -/

/-- Every number of a value is an integer. -/
def Whole (value : Value) : Prop :=
  ∀ d, ¬ Within (.number (.double d)) value

@[simp]
theorem whole_null : Whole .null :=
  fun _ h => nomatch h

@[simp]
theorem whole_bool (b : Bool) : (Value.bool b).Whole :=
  fun _ h => nomatch h

@[simp]
theorem whole_integer {n : Int} (fits : -9223372036854775808 ≤ n ∧ n < 18446744073709551616) :
    (Value.number (.integer n fits)).Whole :=
  fun _ h => nomatch h

@[simp]
theorem whole_string (s : String) : (Value.string s).Whole :=
  fun _ h => nomatch h

@[simp]
theorem whole_array {items : List Value} : (Value.array items).Whole ↔ ∀ item ∈ items, item.Whole := by
  constructor
  · exact fun h item hitem d hwithin => h d (.item hitem hwithin)
  · intro h d hwithin
    cases hwithin with
    | item hitem inner => exact h _ hitem d inner

@[simp]
theorem whole_object {members : List (String × Value)} :
    (Value.object members).Whole ↔ ∀ member ∈ members, member.2.Whole := by
  constructor
  · exact fun h member hmember d hwithin => h d (.member hmember hwithin)
  · intro h d hwithin
    cases hwithin with
    | member hmember inner => exact h _ hmember d inner

/-! ## Texts -/

theorem itemsChars_eq (items : List Value) : itemsChars items = (commaEach chars items).tail := by
  induction items with
  | nil => rfl
  | cons item items ih =>
      cases items with
      | nil => simp [itemsChars, commaEach]
      | cons next items => simp [itemsChars, ih, commaEach]

theorem membersChars_eq (members : List (String × Value)) :
    membersChars members = (commaEach memberChars members).tail := by
  induction members with
  | nil => rfl
  | cons member members ih =>
      obtain ⟨key, value⟩ := member
      cases members with
      | nil => simp [membersChars, commaEach, memberChars]
      | cons next members => simp [membersChars, ih, commaEach, memberChars]

/-- The text of a value without doubles starts with a character that is not blank and ends no list. -/
theorem chars_start {value : Value} (h : value.Whole) :
    ∃ c body, value.chars = c :: body ∧ Text.isBlank c = false ∧ c ≠ ']' := by
  cases value with
  | null => exact ⟨'n', _, rfl, by decide, by decide⟩
  | bool b =>
      cases b with
      | true => exact ⟨'t', _, rfl, by decide, by decide⟩
      | false => exact ⟨'f', _, rfl, by decide, by decide⟩
  | number n =>
      cases n with
      | double d => exact absurd (.root _) (h d)
      | integer n fits =>
          cases hchars : Numeral.integerChars n with
          | nil => exact absurd hchars (Numeral.integerChars_ne_nil n)
          | cons c body =>
              have hmem : c ∈ Numeral.integerChars n := hchars ▸ .head _
              refine ⟨c, body, hchars, Numeral.isBlank_of_mem_integerChars hmem, ?_⟩
              rintro rfl
              unfold Numeral.integerChars at hmem
              split at hmem
              · rcases List.mem_cons.mp hmem with heq | hmem
                · cases heq
                · cases isDigit_of_mem_toDigits hmem
              · cases isDigit_of_mem_toDigits hmem
  | string s => exact ⟨'"', _, rfl, by decide, by decide⟩
  | array items => exact ⟨'[', _, rfl, by decide, by decide⟩
  | object members => exact ⟨'\x7b', _, rfl, by decide, by decide⟩

theorem isBlank_of_isSpace {c : Char} (h : isSpace c = true) : Text.isBlank c = true := by
  simp only [isSpace, Bool.or_eq_true, beq_iff_eq] at h
  rcases h with ((rfl | rfl) | rfl) | rfl <;> decide

theorem startsElement_chars {value : Value} (h : value.Whole) : StartsElement value.chars := by
  obtain ⟨c, body, hchars, hblank, hclose⟩ := chars_start h
  refine ⟨c, body, hchars, ?_, hclose⟩
  cases hspace : isSpace c with
  | false => rfl
  | true => exact absurd (isBlank_of_isSpace hspace) (by simp [hblank])

end Value

/-! ## Reading values -/

variable {rest : List Char} {depth : Nat}

theorem yields_readValue_string (s : String) :
    Yields (readValue depth (stringChars s ++ rest)) (.string s) rest := by
  obtain ⟨hlt, hread⟩ := @yields_readStringTail rest s
  rw [stringChars_append, readValue]
  refine ⟨Nat.lt_succ_of_lt hlt, ?_⟩
  change (readStringTail [] _ >>= fun read => _) = _
  rw [hread]
  rfl

theorem readValue_digit {c : Char} (h : isDigit c = true) (body : List Char) {number : Number}
    (hread : Yields (readNumber false (c :: body)) number rest) :
    Yields (readValue depth (c :: body)) (.number number) rest := by
  have hne : ∀ d, isDigit d = false → c ≠ d := by
    rintro d hd rfl
    cases hd.symm.trans h
  have hspace : isSpace c = false := by
    simp only [isSpace, beq_false_of_ne (hne ' ' (by decide)), beq_false_of_ne (hne '\n' (by decide)),
      beq_false_of_ne (hne '\t' (by decide)), beq_false_of_ne (hne '\r' (by decide)), Bool.or_false]
  have hskip : skipSpace (c :: body) = c :: body := skipSpace_cons hspace
  obtain ⟨hlt, hread⟩ := hread
  rw [readValue]
  refine ⟨hlt, ?_⟩
  split
  · rename_i heq
    cases hskip.symm.trans heq
  · rename_i heq
    cases hskip.symm.trans heq
    rw [if_neg (hne 'n' (by decide)), if_neg (hne 't' (by decide)), if_neg (hne 'f' (by decide)),
      if_neg (hne '"' (by decide)), if_neg (hne '-' (by decide)), if_pos h, hread]
    rfl

theorem yields_readValue_integer {n : Int}
    (fits : -9223372036854775808 ≤ n ∧ n < 18446744073709551616) (hrest : EndsNumber rest) :
    Yields (readValue depth (Numeral.integerChars n ++ rest)) (.number (.integer n fits)) rest := by
  have hwhole := wholeNumber?_eq fits
  by_cases hnegative : n < 0
  · rw [decide_eq_true hnegative] at hwhole
    obtain ⟨hlt, hread⟩ := yields_readNumber (by omega) hwhole hrest rfl
    rw [Numeral.integerChars, if_pos hnegative, List.cons_append, readValue]
    refine ⟨Nat.lt_succ_of_lt hlt, ?_⟩
    change (readNumber true _ >>= fun read => _) = _
    rw [hread]
    rfl
  · rw [decide_eq_false hnegative] at hwhole
    have hread := yields_readNumber (by omega) hwhole hrest rfl
    rw [Numeral.integerChars, if_neg hnegative]
    cases hdigits : Nat.toDigits 10 n.natAbs with
    | nil => exact absurd hdigits Nat.toDigits_ne_nil
    | cons c digits =>
        rw [hdigits] at hread
        have hmem : c ∈ Nat.toDigits 10 n.natAbs := hdigits ▸ .head _
        exact readValue_digit (isDigit_of_mem_toDigits hmem) _ hread

theorem yields_readValue_word {value : Value} (h : value = .null ∨ ∃ b, value = .bool b) :
    Yields (readValue depth (value.chars ++ rest)) value rest := by
  rcases h with rfl | ⟨b, rfl⟩
  · change Yields (readValue depth ('n' :: 'u' :: 'l' :: 'l' :: rest)) .null rest
    rw [readValue]
    exact .intro (by simp only [List.length_cons]; omega) _
  · cases b with
    | true =>
        change Yields (readValue depth ('t' :: 'r' :: 'u' :: 'e' :: rest)) (.bool true) rest
        rw [readValue]
        exact .intro (by simp only [List.length_cons]; omega) _
    | false =>
        change Yields (readValue depth ('f' :: 'a' :: 'l' :: 's' :: 'e' :: rest)) (.bool false) rest
        rw [readValue]
        exact .intro (by simp only [List.length_cons]; omega) _

theorem yields_readValue_array {items : List Value} {inner : Nat}
    (hwhole : ∀ item ∈ items, item.Whole)
    (hread : ∀ item ∈ items, ∀ after, EndsNumber after →
      Yields (readValue (inner + 1) (item.chars ++ after)) item after) :
    Yields (readValue (inner + 2) ((Value.array items).chars ++ rest)) (.array items) rest := by
  have hitems : Yields (foldElements true [] (Value.itemsChars items ++ ']' :: rest)
      fun items ds _ => do return (← readValue (inner + 1) ds).map (· :: items))
      (items.reverse ++ []) rest := by
    refine yields_foldElements (by rw [Value.itemsChars_eq]) ?_ ?_
    · intro item hmem
      exact Value.startsElement_chars (hwhole item hmem)
    · intro item hmem front after _ hends
      exact (hread item hmem after hends).map _
  obtain ⟨hlt, hread⟩ := hitems
  rw [Value.chars, List.append_assoc, List.cons_append, List.singleton_append, readValue]
  refine ⟨Nat.lt_succ_of_lt hlt, ?_⟩
  change (foldElements true [] _ _ >>= fun read => _) = _
  rw [hread, List.append_nil]
  change Except.ok (Parsed.mk (Value.array items.reverse.reverse) rest _) = _
  simp only [List.reverse_reverse]

theorem yields_readValue_object {members : List (String × Value)} {inner : Nat}
    (hread : ∀ member ∈ members, ∀ after, EndsNumber after →
      Yields (readValue (inner + 1) (member.2.chars ++ after)) member.2 after) :
    Yields (readValue (inner + 2) ((Value.object members).chars ++ rest)) (.object members) rest := by
  have hmembers : Yields (foldMembers true [] (Value.membersChars members ++ '\x7d' :: rest)
      fun members key ds _ => do
        let colon ← readColon ds
        let value ← readValue (inner + 1) colon.1
        return (value.map fun value => (key, value) :: members).extend colon.2) members.reverse rest := by
    refine yields_foldMembers List.reverse (by rw [Value.membersChars_eq]) ?_
    intro before member later hmembers after _ hends
    have hmem : member ∈ members := hmembers ▸ List.mem_append_cons_self
    obtain ⟨hle, hcolon⟩ := readColon_eq (member.2.chars ++ after)
    rw [hcolon, List.reverse_append, List.reverse_singleton, List.singleton_append]
    refine (hread member hmem after hends).bind fun hrest => ?_
    exact .intro (Nat.lt_of_lt_of_le hrest hle) _
  obtain ⟨hlt, hread⟩ := hmembers
  rw [Value.chars, List.append_assoc, List.cons_append, List.singleton_append, readValue]
  refine ⟨Nat.lt_succ_of_lt hlt, ?_⟩
  change (foldMembers true [] _ _ >>= fun read => _) = _
  rw [hread]
  change Except.ok (Parsed.mk (Value.object members.reverse.reverse) rest _) = _
  simp only [List.reverse_reverse]

theorem yields_readValue {value : Value} (hwhole : value.Whole) (hdepth : value.depth < depth)
    (hrest : EndsNumber rest) : Yields (readValue depth (value.chars ++ rest)) value rest := by
  induction value using Value.induction generalizing depth rest with
  | null => exact yields_readValue_word (.inl rfl)
  | bool b => exact yields_readValue_word (.inr ⟨b, rfl⟩)
  | number n =>
      cases n with
      | double d => exact absurd (.root _) (hwhole d)
      | integer n fits => exact yields_readValue_integer fits hrest
  | string s => exact yields_readValue_string s
  | array items ih =>
      have hitems := Value.whole_array.mp hwhole
      obtain ⟨inner, rfl, hinside⟩ := Value.exists_inside_array hdepth
      refine yields_readValue_array hitems fun item hmem after hends => ?_
      exact ih item hmem (hitems item hmem) (hinside item hmem) hends
  | object members ih =>
      have hmembers := Value.whole_object.mp hwhole
      obtain ⟨inner, rfl, hinside⟩ := Value.exists_inside_object hdepth
      refine yields_readValue_object fun member hmem after hends => ?_
      exact ih member hmem (hmembers member hmem) (hinside member hmem) hends

end CommandForms.Json
