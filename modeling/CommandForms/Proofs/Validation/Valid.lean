import CommandForms.Proofs.Entries
import CommandForms.Proofs.Schema.Parts

/-!
# Valid values

For each kind of schema, which values the validation accepts: null where no value is needed, and
otherwise a value of the kind's own form.
-/

namespace CommandForms

open CommandForms.Json (Value)

/-! ## Bounds on counts -/

namespace CountBounds

def Holds (bounds : CountBounds) (count : Nat) : Prop :=
  bounds.least ≤ count ∧ ∀ most ∈ bounds.max, count ≤ most.toNat

theorem leavesRoom_iff {bounds : CountBounds} {count : Nat} :
    bounds.leavesRoom count = true ↔ ∀ most ∈ bounds.max, count < most.toNat := by
  unfold leavesRoom
  cases bounds.max with
  | none => simp
  | some most => simp

theorem Holds.leavesRoom {bounds : CountBounds} {count total : Nat} (h : bounds.Holds total)
    (hlt : count < total) : bounds.leavesRoom count = true := by
  rw [leavesRoom_iff]
  intro most hmost
  exact Nat.lt_of_lt_of_le hlt (h.2 most hmost)

end CountBounds

/-- A value is absent from a field that may go without one. -/
def Schema.Absent (s : Schema) (value : Value) : Prop :=
  value = .null ∧ s.required = false

namespace Validation

variable {aspects : AspectSet} {label : Label} {value : Value}

theorem checkCount_eq_ok {bounds : CountBounds} {count : Nat} :
    checkCount bounds count = .ok () ↔ bounds.Holds count := by
  have hleast : bounds.min.any (count < ·.toNat) = false ↔ bounds.least ≤ count := by
    unfold CountBounds.least
    cases bounds.min with
    | none => simp
    | some least => simp
  have hmost : bounds.max.any (·.toNat < count) = false ↔ ∀ most ∈ bounds.max, count ≤ most.toNat := by
    cases bounds.max with
    | none => simp
    | some most => simp
  unfold checkCount CountBounds.Holds
  rw [← hleast, ← hmost]
  cases bounds.min.any (count < ·.toNat) with
  | true => simp [refuse]
  | false =>
      cases bounds.max.any (·.toNat < count) with
      | true => simp [refuse]
      | false => simp

theorem bind_eq_ok {first : Outcome} {second : Unit → Outcome} :
    (first >>= second) = .ok () ↔ first = .ok () ∧ second () = .ok () := by
  cases first with
  | error e => simp [bind, Except.bind]
  | ok => simp [bind, Except.bind]

@[simp]
theorem within_eq_ok {step : Step} {outcome : Outcome} :
    within step outcome = .ok () ↔ outcome = .ok () := by
  cases outcome <;> simp [within]

@[simp]
theorem refuse_ne_ok {violation : Violation} : refuse violation ≠ .ok () :=
  nofun

/-! ## Parts of a check -/

theorem checkMembers_eq_ok {options : StringSetOptions} {items : List Value} {index : Nat} :
    checkMembers options index items = .ok () ↔
      ∃ texts : List String, items = texts.map .string ∧
        ∀ text ∈ texts, admits options.strict options.autocomplete text = true := by
  induction items generalizing index with
  | nil => exact ⟨fun _ => ⟨[], rfl, nofun⟩, fun _ => rfl⟩
  | cons item items ih =>
      constructor
      · intro h
        cases item with
        | string text =>
            simp only [checkMembers] at h
            split at h
            · rename_i hadmits
              obtain ⟨texts, rfl, htexts⟩ := ih.mp h
              exact ⟨text :: texts, rfl, List.forall_mem_cons.mpr ⟨hadmits, htexts⟩⟩
            · cases h
        | _ => cases h
      · rintro ⟨texts, htexts, hadmits⟩
        cases texts with
        | nil => cases htexts
        | cons text texts =>
            cases htexts
            obtain ⟨hhead, htail⟩ := List.forall_mem_cons.mp hadmits
            simp only [checkMembers, hhead, if_true]
            exact ih.mpr ⟨texts, rfl, htail⟩

theorem checkAspects_eq_ok {counts : List (String × Value)} :
    checkAspects aspects counts = .ok () ↔
      ∀ entry ∈ counts, aspects.contains entry.1 = true ∧
        ∃ n, entry.2.safeInteger? = some n ∧ 0 ≤ n := by
  induction counts with
  | nil => simp [checkAspects]
  | cons entry counts ih =>
      obtain ⟨name, count⟩ := entry
      rw [List.forall_mem_cons, ← ih, checkAspects]
      split
      · rename_i hknown
        split
        · rename_i hcount
          simp [hcount]
        · rename_i n hcount
          by_cases hn : n < 0
          · simp [hn, hcount, Int.not_le.mpr hn]
          · simp [hn, hcount, hknown, Int.not_lt.mp hn]
      · rename_i hknown
        simp [hknown]

theorem checkElements_eq_ok {check : Value → Outcome} {items : List Value} {index : Nat} :
    checkElements check index items = .ok () ↔ ∀ item ∈ items, check item = .ok () := by
  induction items generalizing index with
  | nil => simp [checkElements]
  | cons item items ih =>
      rw [List.forall_mem_cons, checkElements, bind_eq_ok, within_eq_ok, ih]

/-- What the validation asks of the member of an object under a field's key. -/
def FieldHolds (aspects : AspectSet) (members : List (String × Value)) (field : String × Schema) :
    Prop :=
  match Entries.find? field.1 members with
  | none => field.2.required = false
  | some value => check aspects field.2 value = .ok ()

theorem checkFields_eq_ok {members : List (String × Value)} {fields : List (String × Schema)} :
    checkFields aspects members fields = .ok () ↔
      ∀ field ∈ fields, FieldHolds aspects members field := by
  induction fields with
  | nil => simp [checkFields]
  | cons field fields ih =>
      obtain ⟨key, schema⟩ := field
      rw [List.forall_mem_cons, ← ih, checkFields, FieldHolds]
      cases Entries.find? key members with
      | none => cases hrequired : schema.required <;> simp [bind_eq_ok]
      | some value => simp [bind_eq_ok]

/-! ## The check of each kind -/

theorem check_null {s : Schema} : check aspects s .null = .ok () ↔ s.required = false := by
  unfold check
  cases s.required <;> simp [Value.isNull]

theorem check_string {options : StringOptions} :
    check aspects (.string label options) value = .ok () ↔
      (Schema.string label options).Absent value ∨
        ∃ text, value = .string text ∧
          admits options.strict options.autocomplete text = true := by
  cases value with
  | null => simp [check_null, Schema.Absent]
  | string text => simp [check, Value.isNull, checkString, Schema.Absent]
  | _ => simp [check, Value.isNull, checkString, Schema.Absent]

theorem check_stringSet {options : StringSetOptions} :
    check aspects (.stringSet label options) value = .ok () ↔
      (Schema.stringSet label options).Absent value ∨
        ∃ texts : List String, value = .array (texts.map .string) ∧
          options.count.Holds texts.length ∧
          ∀ text ∈ texts, admits options.strict options.autocomplete text = true := by
  cases value with
  | null => simp [check_null, Schema.Absent]
  | array items =>
      simp only [check, Value.isNull, Bool.false_eq_true, if_false, checkStringSet, Schema.Absent,
        bind_eq_ok, checkCount_eq_ok, checkMembers_eq_ok]
      constructor
      · rintro ⟨hcount, texts, rfl, hadmits⟩
        exact .inr ⟨texts, rfl, by simpa using hcount, hadmits⟩
      · rintro (habsent | ⟨texts, htexts, hcount, hadmits⟩)
        · cases habsent.1
        · cases htexts
          exact ⟨by simpa using hcount, texts, rfl, hadmits⟩
  | _ => simp [check, Value.isNull, checkStringSet, Schema.Absent]

theorem checkInteger_eq_ok {options : IntegerOptions} :
    checkInteger options value = .ok () ↔
      ∃ n, value.safeInteger? = some n ∧ options.contains n = true := by
  unfold checkInteger
  cases value.safeInteger? with
  | none => simp
  | some n =>
      have hmin : options.min.all (·.toInt ≤ n) = !options.min.any (n < ·.toInt) := by
        cases options.min with
        | none => rfl
        | some min =>
            simp only [Option.all_some, Option.any_some]
            rw [← decide_not, decide_eq_decide]
            exact Int.not_lt.symm
      have hmax : options.max.all (n ≤ ·.toInt) = !options.max.any (·.toInt < n) := by
        cases options.max with
        | none => rfl
        | some max =>
            simp only [Option.all_some, Option.any_some]
            rw [← decide_not, decide_eq_decide]
            exact Int.not_lt.symm
      have hcontains : options.contains n =
          (!options.min.any (n < ·.toInt) && !options.max.any (·.toInt < n)) := by
        rw [← hmin, ← hmax]
        rfl
      dsimp only
      cases hlow : options.min.any (n < ·.toInt) with
      | true => simp [hcontains, hlow]
      | false =>
          cases hhigh : options.max.any (·.toInt < n) with
          | true => simp [hcontains, hlow, hhigh]
          | false => simp [hcontains, hlow, hhigh]

theorem check_integer {options : IntegerOptions} :
    check aspects (.integer label options) value = .ok () ↔
      (Schema.integer label options).Absent value ∨
        ∃ n, value.safeInteger? = some n ∧ options.contains n = true := by
  cases value with
  | null => simp [check_null, Schema.Absent, Value.safeInteger?]
  | _ => simp [check, Value.isNull, checkInteger_eq_ok, Schema.Absent]

theorem check_boolean {default : Option Bool} :
    check aspects (.boolean label default) value = .ok () ↔
      (Schema.boolean label default).Absent value ∨ ∃ yes, value = .bool yes := by
  cases value with
  | null => simp [check_null, Schema.Absent]
  | _ => simp [check, Value.isNull, checkBoolean, Schema.Absent]

theorem check_aspectMap {keys : CountBounds} :
    check aspects (.aspectMap label keys) value = .ok () ↔
      (Schema.aspectMap label keys).Absent value ∨
        ∃ counts, value = .object counts ∧ keys.Holds counts.length ∧
          ∀ entry ∈ counts, aspects.contains entry.1 = true ∧
            ∃ n, entry.2.safeInteger? = some n ∧ 0 ≤ n := by
  cases value with
  | null => simp [check_null, Schema.Absent]
  | object counts =>
      simp [check, Value.isNull, checkAspectMap, Schema.Absent, bind_eq_ok, checkAspects_eq_ok,
        checkCount_eq_ok, and_comm]
  | _ => simp [check, Value.isNull, checkAspectMap, Schema.Absent]

theorem check_object {fields : List (String × Schema)} :
    check aspects (.object label fields) value = .ok () ↔
      (Schema.object label fields).Absent value ∨
        ∃ members, value = .object members ∧
          ∀ field ∈ fields, FieldHolds aspects members field := by
  cases value with
  | null => simp [check_null, Schema.Absent]
  | object members => simp [check, Value.isNull, Schema.Absent, checkFields_eq_ok]
  | _ => simp [check, Value.isNull, Schema.Absent]

theorem check_array {element : Schema} {length : CountBounds} :
    check aspects (.array label element length) value = .ok () ↔
      (Schema.array label element length).Absent value ∨
        ∃ items, value = .array items ∧ length.Holds items.length ∧
          ∀ item ∈ items, check aspects element item = .ok () := by
  cases value with
  | null => simp [check_null, Schema.Absent]
  | array items =>
      simp [check, Value.isNull, Schema.Absent, bind_eq_ok, checkElements_eq_ok, checkCount_eq_ok]
  | _ => simp [check, Value.isNull, Schema.Absent]

end Validation

end CommandForms
