import CommandForms.Proofs.Dialogue.Orderly
import CommandForms.Proofs.Json.Padding
import Mathlib.Data.List.Nodup

/-!
# Built values are valid

A buildable value passes the validation of its schema, holds no null inside, and has only declared keys
at the positions of objects.  Hence so does every value that a conversation ends with, and every value
that argument text is resolved to is valid.
-/

namespace CommandForms.Dialogue

open CommandForms.Json (Value)
open CommandForms.Validation (admits check FieldHolds)

variable {aspects : AspectSet} {s : Schema} {value : Value}

/-! ## Records -/

namespace RecordBuilds

variable {fields : List (String × Schema)} {record built : List (String × Value)} {key : String}
  {schema : Schema}

theorem find?_of_not_mem (h : RecordBuilds aspects fields record built)
    (hkey : key ∉ fields.map (·.1)) : Entries.find? key built = Entries.find? key record := by
  induction fields generalizing record with
  | nil => exact congrArg (Entries.find? key) h
  | cons field fields ih =>
      obtain ⟨k, schema⟩ := field
      obtain ⟨value, _, hrest⟩ := h
      simp only [List.map_cons, List.mem_cons, not_or] at hkey
      rw [ih hrest hkey.2]
      unfold addMember
      split
      · rfl
      · rw [Entries.find?_insert, if_neg hkey.1]

theorem find?_of_mem (h : RecordBuilds aspects fields record built)
    (hkeys : (fields.map (·.1)).Nodup) (hfield : (key, schema) ∈ fields)
    (hnew : Entries.find? key record = none) :
    ∃ value, Buildable aspects schema value ∧
      Entries.find? key built = if value.isNull then none else some value := by
  induction fields generalizing record with
  | nil => cases hfield
  | cons field fields ih =>
      obtain ⟨k, schema'⟩ := field
      obtain ⟨value, hvalue, hrest⟩ := h
      simp only [List.map_cons, List.nodup_cons] at hkeys
      rcases List.mem_cons.mp hfield with heq | hfield
      · cases heq
        refine ⟨value, hvalue, ?_⟩
        rw [hrest.find?_of_not_mem hkeys.1]
        unfold addMember
        split
        · exact hnew
        · rw [Entries.find?_insert, if_pos rfl]
      · apply ih hrest hkeys.2 hfield
        have hne : key ≠ k := fun heq => hkeys.1 (heq ▸ List.mem_map_of_mem hfield)
        unfold addMember
        split
        · exact hnew
        · rw [Entries.find?_insert, if_neg hne, hnew]

theorem mem_built (h : RecordBuilds aspects fields record built) (hmem : (key, value) ∈ built) :
    (key, value) ∈ record ∨
      value.isNull = false ∧ ∃ schema, (key, schema) ∈ fields ∧ Buildable aspects schema value := by
  induction fields generalizing record with
  | nil => exact .inl (h ▸ hmem)
  | cons field fields ih =>
      obtain ⟨k, schema⟩ := field
      obtain ⟨other, hother, hrest⟩ := h
      rcases ih hrest with hmem | ⟨hnull, schema', hfield, hvalue⟩
      · unfold addMember at hmem
        split at hmem
        · exact .inl hmem
        · rename_i hnull
          rcases Entries.mem_insert hmem with heq | hmem
          · cases heq
            exact .inr ⟨by simpa using hnull, schema, .head _, hother⟩
          · exact .inl hmem
      · exact .inr ⟨hnull, schema', .tail _ hfield, hvalue⟩

end RecordBuilds

/-! ## Null -/

theorem required_of_buildable_null (h : Buildable aspects s .null) : s.required = false := by
  cases s with
  | _ =>
      rcases h with habsent | hbuilt
      · exact habsent.2
      · simp [textsValue, integerValue] at hbuilt

theorem not_within_null (h : Buildable aspects s value) :
    s.Absent value ∨ ¬ Value.Within .null value := by
  induction s using Schema.induction generalizing value with
  | string label options =>
      refine h.imp_right ?_
      rintro ⟨text, rfl, _⟩ hnull
      cases hnull
  | stringSet label options =>
      refine h.imp_right ?_
      rintro ⟨members, rfl, _⟩ hnull
      rcases eq_of_within_textsValue hnull with heq | ⟨text, heq⟩ <;> cases heq
  | integer label options =>
      refine h.imp_right ?_
      rintro ⟨n, rfl, _⟩ hnull
      cases hnull
  | boolean label default =>
      refine h.imp_right ?_
      rintro ⟨yes, rfl⟩ hnull
      cases hnull
  | aspectMap label keys =>
      refine h.imp_right ?_
      rintro ⟨counts, rfl, hcounts, _⟩ hnull
      cases hnull with
      | member hmember inner =>
          obtain ⟨n, hn, _⟩ := hcounts.positive _ hmember
          dsimp only at hn
          subst hn
          cases inner
  | object label fields ih =>
      refine h.imp_right ?_
      rintro ⟨record, rfl, hrecord⟩ hnull
      cases hnull with
      | member hmember inner =>
          -- A null is never put into the record, so a member is only null within.
          rcases hrecord.mem_built hmember with hold | ⟨hpresent, schema, hfield, hbuilt⟩
          · cases hold
          · rcases ih _ hfield hbuilt with habsent | hnone
            · cases habsent.1
              cases hpresent
            · exact hnone inner
  | array label element length ih =>
      refine h.imp_right ?_
      rintro ⟨items, rfl, hitems, _⟩ hnull
      cases hnull with
      | item hitem inner =>
          obtain ⟨hpresent, hbuilt⟩ := hitems.each _ hitem
          rcases ih hbuilt with habsent | hnone
          · cases habsent.1
            cases hpresent
          · exact hnone inner

/-! ## Positions -/

/-- At every position of a built value stands a value that the schema there is built to. -/
theorem buildable_of_governs {part : Schema} {inside : Value}
    (hgoverns : s.Governs value part inside) (hkeys : s.Everywhere Schema.DistinctKeys)
    (h : Buildable aspects s value) : Buildable aspects part inside := by
  induction hgoverns with
  | root => exact h
  | @member label fields members key schema _ part _ hfield hmember _ ih =>
      obtain ⟨hdistinct, hinner⟩ := Schema.everywhere_object.mp hkeys
      rcases h with habsent | ⟨record, hrecord, hbuilds⟩
      · cases habsent.1
      · cases hrecord
        rcases hbuilds.mem_built hmember with hold | ⟨_, schema', hfield', hbuilt⟩
        · cases hold
        · have hsame : schema' = schema := by
            have := List.inj_on_of_nodup_map hdistinct hfield' hfield rfl
            exact congrArg Prod.snd this
          exact ih (hinner _ hfield) (hsame ▸ hbuilt)
  | item hitem _ ih =>
      rcases h with habsent | ⟨items, hitems, hgrow, _⟩
      · cases habsent.1
      · cases hitems
        exact ih hkeys.2 (hgrow.each _ hitem).2

theorem declared_of_buildable {label : Label} {fields : List (String × Schema)}
    {members : List (String × Value)}
    (h : Buildable aspects (.object label fields) (.object members)) :
    ∀ key ∈ members.map (·.1), key ∈ fields.map (·.1) := by
  intro key hkey
  obtain ⟨⟨key, value⟩, hmember, rfl⟩ := List.mem_map.mp hkey
  rcases h with habsent | ⟨record, hrecord, hbuilds⟩
  · cases habsent.1
  · cases hrecord
    rcases hbuilds.mem_built hmember with hold | ⟨_, schema, hfield, _⟩
    · cases hold
    · exact List.mem_map_of_mem hfield

/-! ## Validity -/

theorem admits_of_textFits {label : Label} {options : StringOptions} {text : String}
    (hdefault : (Schema.string label options).DefaultFits) (h : TextFits options text) :
    admits options.strict options.autocomplete text = true := by
  rcases h with h | h
  · exact hdefault text h
  · exact h

theorem safe_of_numberFits {label : Label} {options : IntegerOptions} {n : Int64}
    (hdefault : (Schema.integer label options).DefaultFits) (h : NumberFits options n) :
    n.toInt.natAbs ≤ Value.maxSafeInteger ∧ options.contains n.toInt = true := by
  rcases h with h | h
  · exact hdefault n h
  · exact h

theorem MembersGrow.fits {label : Label} {options : StringSetOptions} {members : List String}
    (hdefault : (Schema.stringSet label options).DefaultFits) (h : MembersGrow options members) :
    (∀ most ∈ options.count.max, members.length ≤ most.toNat) ∧
      ∀ text ∈ members, admits options.strict options.autocomplete text = true := by
  cases hd : options.default with
  | none =>
      have hroom := h.room
      have hadmitted := h.admitted
      simp only [hd, Option.getD_none, List.length_nil, Nat.max_zero, List.not_mem_nil,
        false_or] at hroom hadmitted
      exact ⟨hroom, hadmitted⟩
  | some start =>
      obtain ⟨hstart, hadmits⟩ := hdefault start hd
      have hroom := h.room
      have hadmitted := h.admitted
      simp only [hd, Option.getD_some] at hroom hadmitted
      refine ⟨fun most hmost => ?_, fun text hmem => ?_⟩
      · exact Nat.le_trans (hroom most hmost) (Nat.max_le.mpr ⟨Nat.le_refl _, hstart most hmost⟩)
      · exact (hadmitted text hmem).elim (hadmits text) id

/-- A buildable value is valid when the keys of every object schema are distinct and every declared
default fits its own field. -/
theorem check_of_buildable (hkeys : s.Everywhere Schema.DistinctKeys)
    (hdefaults : s.Everywhere Schema.DefaultFits) (h : Buildable aspects s value) :
    check aspects s value = .ok () := by
  induction s using Schema.induction generalizing value with
  | string label options =>
      rw [Validation.check_string]
      refine h.imp_right ?_
      rintro ⟨text, rfl, htext⟩
      exact ⟨text, rfl, admits_of_textFits hdefaults.root htext⟩
  | stringSet label options =>
      rw [Validation.check_stringSet]
      refine h.imp_right ?_
      rintro ⟨members, rfl, hmembers, hleast⟩
      obtain ⟨hmost, hadmits⟩ := hmembers.fits hdefaults.root
      exact ⟨members, rfl, ⟨hleast, hmost⟩, hadmits⟩
  | integer label options =>
      rw [Validation.check_integer]
      refine h.imp_right ?_
      rintro ⟨n, rfl, hn⟩
      obtain ⟨hsafe, hbounds⟩ := safe_of_numberFits hdefaults.root hn
      exact ⟨n.toInt, safeInteger?_integerValue hsafe, hbounds⟩
  | boolean label default =>
      rw [Validation.check_boolean]
      exact h
  | aspectMap label keys =>
      rw [Validation.check_aspectMap]
      refine h.imp_right ?_
      rintro ⟨counts, rfl, hcounts, hleast⟩
      refine ⟨counts, rfl, ⟨hleast, hcounts.room⟩, fun entry hmem => ?_⟩
      obtain ⟨n, hn, hpos, hsafe⟩ := hcounts.positive entry hmem
      exact ⟨hcounts.known entry hmem, n.toInt, hn ▸ safeInteger?_integerValue hsafe, Int.le_of_lt hpos⟩
  | object label fields ih =>
      rw [Validation.check_object]
      obtain ⟨hdistinct, hkeys⟩ := Schema.everywhere_object.mp hkeys
      obtain ⟨_, hdefaults⟩ := Schema.everywhere_object.mp hdefaults
      refine h.imp_right ?_
      rintro ⟨record, rfl, hrecord⟩
      refine ⟨record, rfl, fun field hfield => ?_⟩
      obtain ⟨value, hvalue, hfind⟩ := hrecord.find?_of_mem hdistinct hfield rfl
      unfold FieldHolds
      rw [hfind]
      -- The key of a field that was built as null is missing, and the field need not have a value.
      cases value with
      | null => exact required_of_buildable_null hvalue
      | _ => exact ih field hfield (hkeys field hfield) (hdefaults field hfield) hvalue
  | array label element length ih =>
      rw [Validation.check_array]
      refine h.imp_right ?_
      rintro ⟨items, rfl, hitems, hleast⟩
      refine ⟨items, rfl, ⟨hleast, hitems.room⟩, fun item hmem => ?_⟩
      exact ih hkeys.2 hdefaults.2 (hitems.each item hmem).2

/-! ## Conversations -/

/-- A resolved value is one that the argument text gives, or one that a conversation built. -/
theorem resolve_eq_ok {raw : String} {t t' : Terminal}
    (h : resolve raw s aspects t = (.ok value, t')) :
    readArguments raw s aspects = .ok value ∧ t' = t ∨
      ∃ t₁, construct s aspects t₁ = (.ok value, t') := by
  unfold resolve resolveTurn at h
  cases hread : readArguments raw s aspects with
  | ok literal =>
      rw [hread] at h
      cases (Turn.run_of_ending? rfl).symm.trans h
      exact .inl ⟨rfl, rfl⟩
  | error reason =>
      rw [hread] at h
      cases reason with
      | none => exact .inr ⟨t, h⟩
      | some reason =>
          have hrun := (Turn.run_of_call? rfl).symm.trans h
          cases hwrite : t.writeLine reason with
          | mk r t₁ =>
              rw [hwrite] at hrun
              cases r with
              | ok => exact .inr ⟨t₁, hrun⟩
              | error i => cases hrun

/-- A text gives a value when it is a literal behind trimming; nothing is read from blanks. -/
theorem readArguments_eq_ok_iff {raw : String} : readArguments raw s aspects = .ok value ↔
    Value.parse (Text.trim raw) = .ok value ∧ validate value s aspects = .ok () := by
  unfold readArguments
  dsimp only
  split
  · rename_i hempty
    have hblank : Text.trim raw = "" := by simpa using hempty
    exact ⟨nofun, fun h => absurd hblank (Value.ne_empty_of_parse h.1)⟩
  · cases Value.parse (Text.trim raw) with
    | error e => exact ⟨nofun, nofun⟩
    | ok read =>
        dsimp only
        cases hvalid : validate read s aspects with
        | error e =>
            refine ⟨nofun, fun h => ?_⟩
            cases h.1
            cases hvalid.symm.trans h.2
        | ok =>
            refine ⟨fun h => ?_, fun h => ?_⟩
            · cases h
              exact ⟨rfl, hvalid⟩
            · cases h.1
              rfl

theorem validate_of_readArguments {raw : String} (h : readArguments raw s aspects = .ok value) :
    validate value s aspects = .ok () :=
  (readArguments_eq_ok_iff.mp h).2

/-- Construct, then validate.  A constructed value is valid; it is null as a whole where no value is
needed, and else without any null; and at each of its positions that an object schema governs, it has no
key that this schema does not declare.  A resolved value is valid as well. -/
theorem validate_of_construct (hdelimiters : s.checkDelimiters = .ok ())
    (hkeys : s.Everywhere Schema.DistinctKeys) (hdefaults : s.Everywhere Schema.DefaultFits) :
    (∀ t value t', construct s aspects t = (.ok value, t') →
      validate value s aspects = .ok () ∧
      (value = .null ∧ s.required = false ∨ ¬ Value.Within .null value) ∧
      ∀ label fields members, s.Governs value (.object label fields) (.object members) →
        ∀ key ∈ members.map (·.1), key ∈ fields.map (·.1)) ∧
    ∀ raw t value t', resolve raw s aspects t = (.ok value, t') →
      validate value s aspects = .ok () := by
  have hbuilt : ∀ t value t', construct s aspects t = (.ok value, t') →
      Buildable aspects s value :=
    fun t value t' h => ((orderly_constructTurn hdelimiters aspects t).finished value t' h).1
  constructor
  · intro t value t' h
    have hvalue := hbuilt t value t' h
    refine ⟨check_of_buildable hkeys hdefaults hvalue, not_within_null hvalue, ?_⟩
    intro label fields members hgoverns
    exact declared_of_buildable (buildable_of_governs hgoverns hkeys hvalue)
  · intro raw t value t' h
    rcases resolve_eq_ok h with ⟨hread, _⟩ | ⟨t₁, h⟩
    · exact validate_of_readArguments hread
    · exact check_of_buildable hkeys hdefaults (hbuilt t₁ value t' h)

/-- A name out of two, with a default, and a level within bounds. -/
def heroSchema : Schema :=
  .object ⟨"hero", true⟩
    [("name", .string ⟨"name", true⟩
        { autocomplete := ["Ana", "Bo"], strict := true, default := some "Bo" }),
      ("level", .integer ⟨"level", true⟩ { min := some 1, max := some 99 })]

/-- The hero with the default name and level 7. -/
def heroValue : Value :=
  .object [("level", integerValue 7), ("name", .string "Bo")]

theorem validate_of_construct_hero :
    heroSchema.checkDelimiters = .ok () ∧ heroSchema.Everywhere Schema.DistinctKeys ∧
      heroSchema.Everywhere Schema.DefaultFits ∧
      (construct heroSchema .empty { unread := ["", "7"] }).1 = .ok heroValue ∧
      validate heroValue heroSchema .empty = .ok () ∧ ¬ Value.Within .null heroValue := by
  have hdelimiters : heroSchema.checkDelimiters = .ok () := rfl
  have hkeys : heroSchema.Everywhere Schema.DistinctKeys := by
    simp [heroSchema, Schema.Everywhere, Schema.EverywhereIn, Schema.DistinctKeys]
  have hdefaults : heroSchema.Everywhere Schema.DefaultFits := by
    simp [heroSchema, Schema.Everywhere, Schema.EverywhereIn, Schema.DefaultFits, admits]
  have hrun : (construct heroSchema .empty { unread := ["", "7"] }).1 = .ok heroValue :=
    congrArg Prod.fst (Turn.run_eq_of_makeCalls 8 rfl)
  obtain ⟨hvalid, hnull, _⟩ :=
    (validate_of_construct hdelimiters hkeys hdefaults).1 _ _ _ (Prod.ext hrun rfl)
  refine ⟨hdelimiters, hkeys, hdefaults, hrun, hvalid, ?_⟩
  rcases hnull with ⟨hnull, _⟩ | hnone
  · cases hnull
  · exact hnone

end CommandForms.Dialogue
