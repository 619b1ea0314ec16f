import CommandForms.Proofs.Dialogue.Answers

/-!
# Canonical values

The values that an operator can type as they stand, and the script that types one.  A value is canonical
for a schema by conditions on its parts, so that its members and its items are canonical in turn.
-/

namespace CommandForms.Dialogue

open CommandForms.Json (Value Number)
open CommandForms.Json.Value (Within)
open CommandForms.Numeral (integerText)

variable {aspects : AspectSet} {s schema element : Schema} {label : Label} {length : CountBounds}
  {fields : List (String × Schema)} {members : List (String × Value)} {items : List Value}
  {key : String} {value part : Value}

/-- A value is canonical for a schema.  There is no null below its root and no number in it that is kept
as a double.  At every position, a text can be entered among the options of its field, the members of a
set can be entered and are pairwise different, and aspects can be entered and have positive counts.  An
object has declared keys only, in ascending order, as every object has that was read. -/
structure Canonical (aspects : AspectSet) (s : Schema) (value : Value) : Prop where
  present : value = .null ∨ ¬ Within .null value
  integral : ∀ d, ¬ Within (.number (.double d)) value
  ordered : ∀ members, Within (.object members) value → Entries.Ascending members
  texts : ∀ label options text, s.Governs value (.string label options) (.string text) →
    Enterable options.autocomplete text
  sets : ∀ label options items, s.Governs value (.stringSet label options) (.array items) →
    items.Nodup ∧ ∀ text, .string text ∈ items → Enterable options.autocomplete text
  counts : ∀ label keys counts, s.Governs value (.aspectMap label keys) (.object counts) →
    ∀ entry ∈ counts, Enterable aspects.names entry.1 ∧
      ∀ n, entry.2.safeInteger? = some n → 1 ≤ n
  declared : ∀ label fields members, s.Governs value (.object label fields) (.object members) →
    ∀ key ∈ members.map (·.1), key ∈ fields.map (·.1)

/-! ## Parts of canonical values -/

namespace Canonical

theorem not_within_null (h : Canonical aspects s value) (hvalue : value.isNull = false) :
    ¬ Within .null value := by
  rcases h.present with rfl | hnone
  · cases hvalue
  · exact hnone

theorem isNull_of_member (h : Canonical aspects s (.object members)) (hmember : (key, value) ∈ members) :
    value.isNull = false := by
  cases value with
  | null => exact absurd (.member hmember (.root _)) (h.not_within_null rfl)
  | _ => rfl

theorem isNull_of_item (h : Canonical aspects s (.array items)) (hitem : part ∈ items) :
    part.isNull = false := by
  cases part with
  | null => exact absurd (.item hitem (.root _)) (h.not_within_null rfl)
  | _ => rfl

theorem member (h : Canonical aspects (.object label fields) (.object members))
    (hfield : (key, schema) ∈ fields) (hmember : (key, value) ∈ members) :
    Canonical aspects schema value where
  present := .inr fun hnull => h.not_within_null rfl (.member hmember hnull)
  integral d hdouble := h.integral d (.member hmember hdouble)
  ordered members hinner := h.ordered members (.member hmember hinner)
  texts label options text hinner := h.texts label options text (.member hfield hmember hinner)
  sets label options items hinner := h.sets label options items (.member hfield hmember hinner)
  counts label keys counts hinner := h.counts label keys counts (.member hfield hmember hinner)
  declared label fields members hinner :=
    h.declared label fields members (.member hfield hmember hinner)

theorem item (h : Canonical aspects (.array label element length) (.array items))
    (hitem : part ∈ items) : Canonical aspects element part where
  present := .inr fun hnull => h.not_within_null rfl (.item hitem hnull)
  integral d hdouble := h.integral d (.item hitem hdouble)
  ordered members hinner := h.ordered members (.item hitem hinner)
  texts label options text hinner := h.texts label options text (.item hitem hinner)
  sets label options items hinner := h.sets label options items (.item hitem hinner)
  counts label keys counts hinner := h.counts label keys counts (.item hitem hinner)
  declared label fields members hinner := h.declared label fields members (.item hitem hinner)

end Canonical

theorem canonical_textsValue {options : StringSetOptions} {texts : List String}
    (hdistinct : texts.Nodup) (hentries : ∀ text ∈ texts, Enterable options.autocomplete text) :
    Canonical aspects (.stringSet label options) (textsValue texts) where
  present := .inr fun hnull => by
    rcases eq_of_within_textsValue hnull with heq | ⟨text, heq⟩ <;> cases heq
  integral d hdouble := by
    rcases eq_of_within_textsValue hdouble with heq | ⟨text, heq⟩ <;> cases heq
  ordered members hobject := by
    rcases eq_of_within_textsValue hobject with heq | ⟨text, heq⟩ <;> cases heq
  texts label options text hgoverns := nomatch hgoverns
  sets label options items hgoverns := by
    cases hgoverns
    refine ⟨List.Pairwise.map Value.string (fun _ _ hne heq => hne (Value.string.inj heq)) hdistinct, ?_⟩
    intro text hmem
    obtain ⟨other, hother, heq⟩ := List.mem_map.mp hmem
    cases heq
    exact hentries text hother
  counts label keys counts hgoverns := nomatch hgoverns
  declared label fields members hgoverns := nomatch hgoverns

theorem exists_integerValue {n : Int} (hsafe : value.safeInteger? = some n)
    (hintegral : ∀ d, value ≠ .number (.double d)) :
    ∃ m : Int64, value = integerValue m ∧ m.toInt = n ∧ m.toInt.natAbs ≤ Value.maxSafeInteger := by
  cases value with
  | number number =>
      cases number with
      | double d => exact absurd rfl (hintegral d)
      | integer k hfits =>
          unfold Value.safeInteger? at hsafe
          dsimp only at hsafe
          split at hsafe
          · rename_i hle
            cases hsafe
            have hsmall : n.natAbs ≤ 9007199254740991 := hle
            have hint : (Int64.ofInt n).toInt = n :=
              Int64.toInt_ofInt_of_le (by omega) (by omega)
            refine ⟨Int64.ofInt n, ?_, hint, hint.symm ▸ hle⟩
            simp only [integerValue, Number.ofInt64, hint]
          · cases hsafe
  | _ => cases hsafe

/-! ## Scripts of values -/

/-- The line to type for a value that is an integer. -/
def numberLine (value : Value) : String :=
  textLine (integerText (value.safeInteger?.getD 0))

/-- The line to type for the member of a set. -/
def memberLine : Value → String
  | .string text => textLine text
  | _ => ""

/-- The lines to type for an aspect and its count. -/
def aspectLines (entry : String × Value) : List String :=
  [textLine entry.1, numberLine entry.2]

/-- The value under a key, or null. -/
def valueUnder (key : String) (members : List (String × Value)) : Value :=
  (Entries.find? key members).getD .null

mutual

/-- The lines to type for a value of a schema. -/
def fieldScript (s : Schema) (value : Value) : List String :=
  if value.isNull then [yesNoLine true]
  else
    (if s.required then [] else [yesNoLine false]) ++
      match s, value with
      | .string .., .string text => [textLine text]
      | .stringSet .., .array items => items.map memberLine ++ [""]
      | .integer .., value => [numberLine value]
      | .boolean .., .bool yes => [yesNoLine yes]
      | .aspectMap .., .object counts => counts.flatMap aspectLines ++ [""]
      | .object _ fields, .object members => fieldsScript fields members
      | .array _ element _, .array items =>
          items.flatMap (fun item => Action.add.label :: fieldScript element item) ++
            [Action.done.label]
      | _, _ => []

/-- The lines to type for the members of an object, in the order of its fields. -/
def fieldsScript (fields : List (String × Schema)) (members : List (String × Value)) :
    List String :=
  match fields with
  | [] => []
  | (key, schema) :: fields =>
      fieldScript schema (valueUnder key members) ++ fieldsScript fields members

end

end CommandForms.Dialogue
