import CommandForms.Dialogue.Construct
import CommandForms.Proofs.Validation.Valid

/-!
# Buildable values

The values that the conversation for a schema can end with, said without the conversation: what a single
entry may be, what a collection looks like while it grows, and when it may be finished.  Each answer to a
question keeps a growing collection of that form.
-/

namespace CommandForms.Dialogue

open CommandForms.Json (Value Number)
open CommandForms.Validation (admits)

/-! ## Entries -/

/-- A text that a string field takes: its default, or an entry that the field admits. -/
def TextFits (options : StringOptions) (text : String) : Prop :=
  options.default = some text ∨ admits options.strict options.autocomplete text = true

/-- A number that an integer field takes: its default, or a safe integer within the bounds. -/
def NumberFits (options : IntegerOptions) (n : Int64) : Prop :=
  options.default = some n ∨
    n.toInt.natAbs ≤ Value.maxSafeInteger ∧ options.contains n.toInt = true

/-! ## Growing collections -/

/-- The members of a set while it grows. -/
structure MembersGrow (options : StringSetOptions) (members : List String) : Prop where
  admitted : ∀ text ∈ members,
    text ∈ options.default.getD [] ∨ admits options.strict options.autocomplete text = true
  room : ∀ most ∈ options.count.max,
    members.length ≤ max most.toNat (options.default.getD []).length

/-- The counts of aspects while they grow. -/
structure CountsGrow (aspects : AspectSet) (keys : CountBounds) (counts : List (String × Value)) :
    Prop where
  ascending : Entries.Ascending counts
  known : ∀ entry ∈ counts, aspects.contains entry.1 = true
  positive : ∀ entry ∈ counts, ∃ n : Int64, entry.2 = integerValue n ∧ 0 < n.toInt ∧
    n.toInt.natAbs ≤ Value.maxSafeInteger
  room : ∀ most ∈ keys.max, counts.length ≤ most.toNat

/-- The items of a list while it grows, where each of them satisfies `p`. -/
structure ItemsGrow (p : Value → Prop) (length : CountBounds) (items : List Value) : Prop where
  each : ∀ item ∈ items, item.isNull = false ∧ p item
  room : ∀ most ∈ length.max, items.length ≤ most.toNat

/-- The record after the value of a field; null leaves no member. -/
def addMember (key : String) (value : Value) (record : List (String × Value)) :
    List (String × Value) :=
  if value.isNull then record else Entries.insert key value record

theorem ascending_addMember {key : String} {value : Value} {record : List (String × Value)}
    (h : Entries.Ascending record) : Entries.Ascending (addMember key value record) := by
  unfold addMember
  split
  · exact h
  · exact h.insert

/-! ## Buildable values -/

mutual

/-- The values that the conversation for a schema can end with. -/
def Buildable (aspects : AspectSet) : Schema → Value → Prop
  | .string label options, value =>
      (Schema.string label options).Absent value ∨
        ∃ text, value = .string text ∧ TextFits options text
  | .stringSet label options, value =>
      (Schema.stringSet label options).Absent value ∨
        ∃ members, value = textsValue members ∧ MembersGrow options members ∧
          options.count.least ≤ members.length
  | .integer label options, value =>
      (Schema.integer label options).Absent value ∨
        ∃ n, value = integerValue n ∧ NumberFits options n
  | .boolean label default, value =>
      (Schema.boolean label default).Absent value ∨ ∃ yes, value = .bool yes
  | .aspectMap label keys, value =>
      (Schema.aspectMap label keys).Absent value ∨
        ∃ counts, value = .object counts ∧ CountsGrow aspects keys counts ∧
          keys.least ≤ counts.length
  | .object label fields, value =>
      (Schema.object label fields).Absent value ∨
        ∃ record, value = .object record ∧ RecordBuilds aspects fields [] record
  | .array label element length, value =>
      (Schema.array label element length).Absent value ∨
        ∃ items, value = .array items ∧ ItemsGrow (Buildable aspects element) length items ∧
          length.least ≤ items.length

/-- A record grows to another one by the values of fields. -/
def RecordBuilds (aspects : AspectSet) :
    List (String × Schema) → List (String × Value) → List (String × Value) → Prop
  | [], record, built => built = record
  | (key, schema) :: fields, record, built =>
      ∃ value, Buildable aspects schema value ∧
        RecordBuilds aspects fields (addMember key value record) built

end

theorem buildable_of_absent {aspects : AspectSet} {s : Schema} {value : Value}
    (h : s.Absent value) : Buildable aspects s value := by
  cases s <;> exact .inl h

theorem textsValue_inj {texts others : List String} :
    textsValue texts = textsValue others ↔ texts = others := by
  unfold textsValue
  rw [Value.array.injEq, List.map_inj_right fun _ _ heq => Value.string.inj heq]

theorem eq_of_within_textsValue {texts : List String} {part : Value}
    (h : Value.Within part (textsValue texts)) : part = textsValue texts ∨ ∃ text, part = .string text := by
  cases h with
  | root => exact .inl rfl
  | item hitem inner =>
      obtain ⟨text, _, rfl⟩ := List.mem_map.mp hitem
      cases inner
      exact .inr ⟨text, rfl⟩

/-! ## Sources -/

theorem withSource_eq {options : List String} {pattern : Option String}
    (hpattern : Schema.checkPattern pattern = .ok ()) :
    ∃ source : CompletionSource, source.options = options ∧
      ∀ next, withSource options pattern next = next source := by
  unfold withSource CompletionSource.ofOptions
  cases pattern with
  | none => exact ⟨⟨options, none⟩, rfl, fun _ => rfl⟩
  | some pattern =>
      simp only [Schema.checkPattern] at hpattern
      cases hdelimiter : Delimiter.ofPattern pattern with
      | error e =>
          rw [hdelimiter] at hpattern
          cases hpattern
      | ok delimiter =>
          refine ⟨⟨options, some delimiter⟩, rfl, fun next => ?_⟩
          simp only [hdelimiter, Except.map]

/-! ## Answers keep collections growing -/

theorem mem_of_member? {source : CompletionSource} {line text : String}
    (h : source.member? line = some text) : text ∈ source.options :=
  List.mem_of_find?_eq_some h

theorem admits_of_mem {strict : Bool} {options : List String} {text : String}
    (h : text ∈ options) : admits strict options text = true := by
  simp [admits, h]

theorem admits_of_choose {source : CompletionSource} {strict : Bool} {line text : String}
    (h : choose source strict line = .taken text) : admits strict source.options text = true := by
  unfold choose at h
  split at h
  · rename_i option hmember
    cases h
    exact admits_of_mem (mem_of_member? hmember)
  · split at h
    · rename_i hstrict
      simp [admits, hstrict]
    · split at h
      · cases h
      · split at h
        · cases h
        · split at h
          · rename_i hmember
            cases h
            exact admits_of_mem (mem_of_member? hmember)
          · cases h

theorem numberFits_of_readNumber? {options : IntegerOptions} {line : String} {n : Int64}
    (h : readNumber? options line = some n) : NumberFits options n := by
  unfold readNumber? at h
  split at h
  · exact .inl h
  · rw [Option.filter_eq_some_iff] at h
    simpa [NumberFits] using Or.inr h.2

theorem MembersGrow.start (options : StringSetOptions) :
    MembersGrow options (options.default.getD []) where
  admitted _ hmem := .inl hmem
  room _ _ := Nat.le_max_right _ _

/-- A set takes another entry only where there is room for it, so that it stays within its bound or within
the length that it has. -/
theorem length_toggle_le {options : StringSetOptions} {members : List String} {length : Nat}
    (name entry : String)
    (hroom : ∀ most ∈ options.count.max, members.length ≤ max most.toNat length) :
    ∀ most ∈ options.count.max,
      (toggle name options members entry).1.length ≤ max most.toNat length := by
  intro most hmost
  unfold Dialogue.toggle
  split
  · exact Nat.le_trans List.length_erase_le (hroom most hmost)
  · split
    · rename_i hspace
      have hlt := CountBounds.leavesRoom_iff.mp hspace most hmost
      rw [List.length_append, List.length_singleton]
      exact Nat.le_trans hlt (Nat.le_max_left _ _)
    · exact hroom most hmost

/-- Taking an entry keeps a set growing, whether the entry joins, leaves or finds the set full. -/
theorem MembersGrow.toggle {options : StringSetOptions} {members : List String} {entry : String}
    (h : MembersGrow options members) (name : String)
    (hentry : admits options.strict options.autocomplete entry = true) :
    MembersGrow options (toggle name options members entry).1 := by
  refine ⟨?_, length_toggle_le name entry h.room⟩
  unfold Dialogue.toggle
  split
  · exact fun text hmem => h.admitted text (List.mem_of_mem_erase hmem)
  · split
    · intro text hmem
      rcases List.mem_append.mp hmem with hmem | hmem
      · exact h.admitted text hmem
      · exact .inr (List.mem_singleton.mp hmem ▸ hentry)
    · exact h.admitted

theorem contains_of_chooseAspect {aspects : AspectSet} {line name : String}
    (h : chooseAspect aspects.source aspects line = .taken name) :
    aspects.contains name = true := by
  unfold chooseAspect at h
  split at h
  · rename_i hmember
    cases h
    exact (Keyed.contains_iff _ _).mpr (mem_of_member? hmember)
  · split at h
    · cases h
    · split at h
      · rename_i hknown
        cases h
        exact hknown
      · cases h

theorem safeInteger?_integerValue {n : Int64} (h : n.toInt.natAbs ≤ Value.maxSafeInteger) :
    (integerValue n).safeInteger? = some n.toInt := by
  simp [integerValue, Number.ofInt64, Value.safeInteger?, h]

theorem safeInteger?_integerValue_eq_some {n : Int64} {m : Int} :
    (integerValue n).safeInteger? = some m ↔
      n.toInt.natAbs ≤ Value.maxSafeInteger ∧ n.toInt = m := by
  simp [integerValue, Number.ofInt64, Value.safeInteger?]

theorem CountsGrow.start (aspects : AspectSet) (keys : CountBounds) : CountsGrow aspects keys [] where
  ascending := List.Pairwise.nil
  known := nofun
  positive := nofun
  room _ _ := Nat.zero_le _

theorem CountsGrow.natAbs_le {aspects : AspectSet} {keys : CountBounds}
    {counts : List (String × Value)} {name : String} {n : Int64}
    (h : CountsGrow aspects keys counts) (hn : NumberFits (countOptions counts name) n) :
    n.toInt.natAbs ≤ Value.maxSafeInteger := by
  rcases hn with hdefault | hn
  · unfold countOptions at hdefault
    obtain ⟨k, hk, hint⟩ := Option.bind_eq_some_iff.mp hdefault
    obtain ⟨count, hcount, hsafe⟩ := Option.bind_eq_some_iff.mp hk
    obtain ⟨m, hm, _, hle⟩ := h.positive _ (Entries.mem_of_find? hcount)
    dsimp only at hm
    rw [hm, safeInteger?_integerValue hle] at hsafe
    cases hsafe
    unfold Numeral.int64? at hint
    split at hint
    · cases hint
      simpa using hle
    · cases hint
  · exact hn.1

/-- Giving a known aspect a count keeps the counts growing, as long as a new aspect has room. -/
theorem CountsGrow.setCount {aspects : AspectSet} {keys : CountBounds}
    {counts : List (String × Value)} {name : String} {n : Int64}
    (h : CountsGrow aspects keys counts) (hknown : aspects.contains name = true)
    (hroom : (Entries.find? name counts).isSome ∨ keys.leavesRoom counts.length = true)
    (hn : NumberFits (countOptions counts name) n) :
    CountsGrow aspects keys (setCount counts name (integerValue n)) := by
  have hsafe := h.natAbs_le hn
  unfold Dialogue.setCount
  rw [safeInteger?_integerValue hsafe]
  dsimp only
  split
  · refine ⟨h.ascending.erase, ?_, ?_, ?_⟩
    · exact fun entry hmem => h.known entry (Entries.mem_erase hmem)
    · exact fun entry hmem => h.positive entry (Entries.mem_erase hmem)
    · exact fun most hmost => Nat.le_trans Entries.length_erase_le (h.room most hmost)
  · rename_i hpos
    refine ⟨h.ascending.insert, ?_, ?_, ?_⟩
    · intro entry hmem
      rcases Entries.mem_insert hmem with rfl | hmem
      · exact hknown
      · exact h.known entry hmem
    · intro entry hmem
      rcases Entries.mem_insert hmem with rfl | hmem
      · exact ⟨n, rfl, Int.not_le.mp hpos, hsafe⟩
      · exact h.positive entry hmem
    · intro most hmost
      rcases hroom with hold | hnew
      · rw [h.ascending.length_insert (Entries.isSome_find?_iff.mp hold)]
        exact h.room most hmost
      · have hlt := CountBounds.leavesRoom_iff.mp hnew most hmost
        exact Nat.le_trans Entries.length_insert_le hlt

theorem ItemsGrow.start (p : Value → Prop) (length : CountBounds) : ItemsGrow p length [] where
  each := nofun
  room _ _ := Nat.zero_le _

theorem ItemsGrow.add {p : Value → Prop} {length : CountBounds} {items : List Value} {item : Value}
    (h : ItemsGrow p length items) (hroom : length.leavesRoom items.length = true)
    (hitem : p item) : ItemsGrow p length (if item.isNull then items else items ++ [item]) := by
  split
  · exact h
  · rename_i hnull
    refine ⟨fun other hmem => ?_, fun most hmost => ?_⟩
    · rcases List.mem_append.mp hmem with hmem | hmem
      · exact h.each other hmem
      · cases List.mem_singleton.mp hmem
        exact ⟨by simpa using hnull, hitem⟩
    · have hlt := CountBounds.leavesRoom_iff.mp hroom most hmost
      rw [List.length_append, List.length_singleton]
      exact hlt

theorem ItemsGrow.removeAt {p : Value → Prop} {length : CountBounds} {items : List Value}
    (h : ItemsGrow p length items) (index : Value) :
    ItemsGrow p length (removeAt items index) := by
  unfold Dialogue.removeAt
  split
  · rename_i i _
    have hsub := List.eraseIdx_sublist items i.toNat
    refine ⟨fun item hmem => h.each item (hsub.subset hmem), fun most hmost => ?_⟩
    exact Nat.le_trans hsub.length_le (h.room most hmost)
  · exact h

theorem Action.mem_of_ofLine? {actions : List Action} {line : String} {action : Action}
    (h : Action.ofLine? actions line = some action) : action ∈ actions := by
  unfold Action.ofLine? at h
  have := (Option.filter_eq_some_iff.mp h).2
  exact List.contains_iff_mem.mp this

theorem Action.add_mem_available {length : CountBounds} {count : Nat} :
    Action.add ∈ Action.available length count ↔ length.leavesRoom count = true := by
  unfold Action.available
  grind

theorem Action.done_mem_available {length : CountBounds} {count : Nat} :
    Action.done ∈ Action.available length count ↔ length.least ≤ count := by
  unfold Action.available
  grind

end CommandForms.Dialogue
