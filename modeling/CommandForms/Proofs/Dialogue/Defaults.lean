import CommandForms.Proofs.Dialogue.Completeness
import CommandForms.Proofs.Dialogue.Validity

/-!
# Defaults and bounds

What a field owes to its default.  An entry is checked before it is taken, and a set is checked for enough
members before it is finished, but a default is taken as it is: a blank line ends a text or an integer with
it, and a set starts with its members.  A value that a field ends with violates the field's constraints
exactly when it owes that to the default.
-/

namespace CommandForms.Dialogue

open CommandForms.Json (Value)
open CommandForms.Validation (admits)

/-- Fields that are answered by entries and may declare one as their default. -/
def TakesEntries : Schema → Prop
  | .string .. | .stringSet .. | .integer .. => True
  | _ => False

/-- The members of a set that the field does not admit. -/
def unlisted (options : StringSetOptions) (members : List String) : List String :=
  members.filter fun text => !admits options.strict options.autocomplete text

/-- A value violates the constraints of a field because of the default of the field: it is the default, or it
is a set that holds all members of the default that are not admitted, or one with more members than the field
allows, but no more than the default has. -/
def OwedToDefault : Schema → Value → Prop
  | .string _ options, value =>
      ∃ text ∈ options.default, value = .string text ∧
        admits options.strict options.autocomplete text = false
  | .stringSet _ options, value =>
      ∃ members, value = textsValue members ∧
        (unlisted options members = unlisted options (options.default.getD []) ∧
            unlisted options members ≠ [] ∨
          ∃ most ∈ options.count.max, most.toNat < members.length ∧
            members.length ≤ (options.default.getD []).length)
  | .integer _ options, value =>
      ∃ n ∈ options.default, value = integerValue n ∧
        ¬ (n.toInt.natAbs ≤ Value.maxSafeInteger ∧ options.contains n.toInt = true)
  | _, _ => False

/-- Sets start with as many members as they need. -/
def StartsEnough : Schema → Prop
  | .stringSet _ options => options.count.least ≤ (options.default.getD []).length
  | _ => True

/-- Every value that a field ends with is valid. -/
def AlwaysValid (aspects : AspectSet) (s : Schema) : Prop :=
  ∀ t value t', construct s aspects t = (.ok value, t') → validate value s aspects = .ok ()

variable {aspects : AspectSet} {s : Schema} {label : Label} {value : Value} {t t' : Terminal}

/-! ## Sets that start with a default -/

/-- What the members of a set keep of the default while they change. -/
structure MembersKeep (options : StringSetOptions) (members : List String) : Prop where
  unlisted : unlisted options members = unlisted options (options.default.getD [])
  room : ∀ most ∈ options.count.max,
    members.length ≤ max most.toNat (options.default.getD []).length

section Sets

variable {options : StringSetOptions} {members : List String} {entry : String}

theorem unlisted_eq_nil_iff : unlisted options members = [] ↔
    ∀ text ∈ members, admits options.strict options.autocomplete text = true := by
  unfold unlisted
  rw [List.filter_eq_nil_iff]
  simp only [Bool.not_eq_true', Bool.not_eq_false]

/-- An entry that is taken is admitted, so that it neither joins nor leaves the others. -/
theorem unlisted_toggle (name : String)
    (hentry : admits options.strict options.autocomplete entry = true) :
    unlisted options (toggle name options members entry).1 = unlisted options members := by
  have hlisted : entry ∉ unlisted options members := by
    unfold unlisted
    rw [List.mem_filter]
    rintro ⟨_, hnot⟩
    rw [hentry] at hnot
    cases hnot
  unfold toggle
  split
  · rw [unlisted, ← List.erase_filter]
    exact List.erase_of_not_mem hlisted
  · split
    · rw [unlisted, List.filter_append, List.filter_cons, hentry]
      exact List.append_nil _
    · rfl

theorem MembersKeep.start (options : StringSetOptions) :
    MembersKeep options (options.default.getD []) :=
  ⟨rfl, fun _ _ => Nat.le_max_right _ _⟩

theorem MembersKeep.toggle (h : MembersKeep options members) (name : String)
    (hentry : admits options.strict options.autocomplete entry = true) :
    MembersKeep options (toggle name options members entry).1 :=
  ⟨(unlisted_toggle name hentry).trans h.unlisted, length_toggle_le name entry h.room⟩

/-- The values that a set field ends with: enough members that keep the unlisted ones of the default, or
null where the field is skipped. -/
def SetEnds (label : Label) (options : StringSetOptions) (value : Value) : Prop :=
  (Schema.stringSet label options).Absent value ∨
    ∃ members, value = textsValue members ∧ MembersKeep options members ∧
      options.count.least ≤ members.length

theorem setEnds_of_construct (hs : (Schema.stringSet label options).checkDelimiters = .ok ())
    (h : construct (.stringSet label options) aspects t = (.ok value, t')) :
    SetEnds label options value := by
  have hinvariant := callInvariant_orderlyFrom aspects t.screen fun value _ => SetEnds label options value
  have hturn : OrderlyFrom aspects t.screen (fun value _ => SetEnds label options value)
      t.unread.length [] (constructTurn aspects (.stringSet label options)) := by
    rw [constructTurn, constructField]
    refine hinvariant.framed_of (fun hrequired => .inl ⟨rfl, hrequired⟩)
      (fun hfinish => keeps_withSource hs fun source hsource => ?_) rfl
      fun _ _ _ hvalue _ _ _ => .of_done hvalue
    exact hinvariant.askMember_of hsource (fun hmembers => hmembers.toggle label.name)
      (.start options) rfl (hfinish.weaken fun _ => .inr)
  exact (hturn t (Nat.le_refl _) (by simp)).finished value t' h

end Sets

/-! ## What is owed to the default -/

theorem not_valid_of_owedToDefault (h : OwedToDefault s value) : validate value s aspects ≠ .ok () := by
  intro hvalid
  cases s with
  | string label options =>
      obtain ⟨text, _, rfl, hnot⟩ := h
      rcases Validation.check_string.mp hvalid with ⟨hnull, _⟩ | ⟨_, heq, hadmits⟩
      · cases hnull
      · cases heq
        rw [hnot] at hadmits
        cases hadmits
  | stringSet label options =>
      obtain ⟨members, rfl, h⟩ := h
      rcases Validation.check_stringSet.mp hvalid with ⟨hnull, _⟩ | ⟨texts, heq, hcount, hadmits⟩
      · cases hnull
      · obtain rfl := textsValue_inj.mp heq
        rcases h with ⟨_, hne⟩ | ⟨most, hmost, hlt, _⟩
        · exact hne (unlisted_eq_nil_iff.mpr hadmits)
        · exact Nat.not_le.mpr hlt (hcount.2 most hmost)
  | integer label options =>
      obtain ⟨n, _, rfl, hnot⟩ := h
      rcases Validation.check_integer.mp hvalid with ⟨hnull, _⟩ | ⟨m, hsafe, hbounds⟩
      · cases hnull
      · obtain ⟨hsmall, rfl⟩ := safeInteger?_integerValue_eq_some.mp hsafe
        exact hnot ⟨hsmall, hbounds⟩
  | boolean | aspectMap | object | array => exact h

theorem not_owedToDefault_of_fits (hfits : s.DefaultFits) : ¬ OwedToDefault s value := by
  intro h
  cases s with
  | string label options =>
      obtain ⟨text, htext, _, hnot⟩ := h
      rw [hfits text htext] at hnot
      cases hnot
  | stringSet label options =>
      obtain ⟨hmost, hadmits⟩ := (MembersGrow.start options).fits hfits
      obtain ⟨members, _, ⟨hkept, hne⟩ | ⟨most, hbound, hlt, hle⟩⟩ := h
      · exact hne (hkept.trans (unlisted_eq_nil_iff.mpr hadmits))
      · exact absurd (Nat.le_trans hle (hmost most hbound)) (Nat.not_le.mpr hlt)
  | integer label options =>
      obtain ⟨n, hn, _, hnot⟩ := h
      exact hnot (hfits n hn)
  | boolean | aspectMap | object | array => exact h

theorem valid_of_not_owedToDefault (hkind : TakesEntries s) (hs : s.checkDelimiters = .ok ())
    (h : construct s aspects t = (.ok value, t')) (howed : ¬ OwedToDefault s value) :
    validate value s aspects = .ok () := by
  have hbuilt := buildable_of_construct hs h
  cases s with
  | string label options =>
      refine Validation.check_string.mpr (hbuilt.imp_right ?_)
      rintro ⟨text, rfl, hdefault | hadmits⟩
      · refine ⟨text, rfl, ?_⟩
        by_contra hnot
        exact howed ⟨text, hdefault, rfl, by simpa using hnot⟩
      · exact ⟨text, rfl, hadmits⟩
  | stringSet label options =>
      refine Validation.check_stringSet.mpr ((setEnds_of_construct hs h).imp_right ?_)
      rintro ⟨members, rfl, hkeep, hleast⟩
      refine ⟨members, rfl, ⟨hleast, fun most hmost => ?_⟩, unlisted_eq_nil_iff.mp ?_⟩
      -- A set grows only below its bound, so that one beyond it has shrunk from the default.
      · by_contra hlt
        have hroom := hkeep.room most hmost
        exact howed ⟨members, rfl, .inr ⟨most, hmost, Nat.not_le.mp hlt, by omega⟩⟩
      · by_contra hne
        exact howed ⟨members, rfl, .inl ⟨hkeep.unlisted, hne⟩⟩
  | integer label options =>
      refine Validation.check_integer.mpr (hbuilt.imp_right ?_)
      rintro ⟨n, rfl, hn⟩
      have hfits : n.toInt.natAbs ≤ Value.maxSafeInteger ∧ options.contains n.toInt = true := by
        rcases hn with hdefault | hfits
        · by_contra hnot
          exact howed ⟨n, hdefault, rfl, hnot⟩
        · exact hfits
      exact ⟨n.toInt, safeInteger?_integerValue hfits.1, hfits.2⟩
  | boolean | aspectMap | object | array => cases hkind

/-! ## Blank lines -/

/-- The value that a blank line ends a field with, when its default is enough. -/
def defaultValue? : Schema → Option Value
  | .string _ options => options.default.map .string
  | .stringSet _ options => some (textsValue (options.default.getD []))
  | .integer _ options => options.default.map integerValue
  | _ => none

/-- The lines that skip no field and leave it at its default. -/
def blankScript (s : Schema) : List String :=
  (if s.required then [] else [yesNoLine false]) ++ [""]

theorem drives_blank {lines : Nat} {resume : Value → Nat → Turn} (hs : s.checkDelimiters = .ok ())
    (hstart : StartsEnough s) (hdefault : defaultValue? s = some value) :
    Drives aspects (constructField aspects s lines resume) (blankScript s) (resume value (lines + 1)) := by
  have hline : "" ≠ cancelLine := by decide
  rw [constructField]
  refine drives_framed fun lines finish => ?_
  cases s with
  | string label options =>
      obtain ⟨text, htext, rfl⟩ := Option.map_eq_some_iff.mp hdefault
      obtain ⟨source, _, hwith⟩ := withSource_eq hs
      have hask : Drives aspects (.ask (.text label.name options source) lines finish) [""] _ := .ask hline
      simp only [Question.respond, isEmpty_trim_empty, if_true, htext] at hask
      dsimp only
      rw [hwith]
      exact ⟨lines + 1, hask⟩
  | stringSet label options =>
      cases hdefault
      have henough : options.count.least ≤ (options.default.getD []).length := hstart
      obtain ⟨source, _, hwith⟩ := withSource_eq hs
      have hround : Drives aspects
          (askMember label.name options source (options.default.getD []) lines finish) [""] _ := .round hline
      simp only [Question.respond, isEmpty_trim_empty, if_true] at hround
      rw [if_pos henough] at hround
      dsimp only
      rw [hwith]
      exact ⟨lines + 2, hround⟩
  | integer label options =>
      obtain ⟨n, hn, rfl⟩ := Option.map_eq_some_iff.mp hdefault
      have hask : Drives aspects (.ask (.number label.name options) lines finish) [""] _ := .ask hline
      simp only [Question.respond, readNumber?, isEmpty_trim_empty, if_true, hn] at hask
      exact ⟨lines + 1, hask⟩
  | boolean | aspectMap | object | array => cases hdefault

theorem exists_construct_default (aspects : AspectSet) (hs : s.checkDelimiters = .ok ())
    (hstart : StartsEnough s) (hdefault : defaultValue? s = some value) :
    ∃ t t', construct s aspects t = (.ok value, t') := by
  have hdrives : Drives aspects (constructTurn aspects s) (blankScript s) (.done value) :=
    drives_blank hs hstart hdefault
  obtain ⟨t', hrun, _⟩ := hdrives.run_eq (.fresh (blankScript s ++ []))
  exact ⟨_, t', hrun⟩

theorem exists_owed_of_not_fits (h : ¬ s.DefaultFits) :
    ∃ value, defaultValue? s = some value ∧ OwedToDefault s value := by
  cases s with
  | string label options =>
      obtain ⟨text, htext, hnot⟩ : ∃ text ∈ options.default,
          admits options.strict options.autocomplete text = false := by
        by_contra hall
        exact h fun text htext => by_contra fun hnot => hall ⟨text, htext, by simpa using hnot⟩
      exact ⟨.string text, Option.map_eq_some_iff.mpr ⟨text, htext, rfl⟩, text, htext, rfl, hnot⟩
  | stringSet label options =>
      refine ⟨textsValue (options.default.getD []), rfl, _, rfl, ?_⟩
      by_contra hnone
      rw [not_or] at hnone
      refine h fun members hmembers => ?_
      obtain rfl : options.default.getD [] = members := by rw [hmembers]; rfl
      refine ⟨fun most hmost => ?_, unlisted_eq_nil_iff.mp ?_⟩
      · by_contra hlt
        exact hnone.2 ⟨most, hmost, Nat.not_le.mp hlt, Nat.le_refl _⟩
      · by_contra hne
        exact hnone.1 ⟨rfl, hne⟩
  | integer label options =>
      obtain ⟨n, hn, hnot⟩ : ∃ n ∈ options.default,
          ¬ (n.toInt.natAbs ≤ Value.maxSafeInteger ∧ options.contains n.toInt = true) := by
        by_contra hall
        exact h fun n hn => by_contra fun hnot => hall ⟨n, hn, hnot⟩
      exact ⟨integerValue n, Option.map_eq_some_iff.mpr ⟨n, hn, rfl⟩, n, hn, rfl, hnot⟩
  | boolean | aspectMap | object | array => exact absurd trivial h

/-- Only the default is not checked.  A value that a field for a text, for a set of texts or for an integer
ends with is valid exactly when it does not owe a violation to the default.  A default that fits the field
makes all of its values valid, and where a blank line takes the default, nothing less does. -/
theorem valid_unless_owed_to_default (aspects : AspectSet) (hkind : TakesEntries s)
    (hs : s.checkDelimiters = .ok ()) :
    (∀ t value t', construct s aspects t = (.ok value, t') →
      (validate value s aspects = .ok () ↔ ¬ OwedToDefault s value)) ∧
    (s.DefaultFits → AlwaysValid aspects s) ∧
    (StartsEnough s → AlwaysValid aspects s → s.DefaultFits) := by
  refine ⟨fun t value t' h => ⟨fun hvalid howed => ?_, valid_of_not_owedToDefault hkind hs h⟩,
    fun hfits t value t' h => ?_, fun hstart halways => ?_⟩
  · exact not_valid_of_owedToDefault howed hvalid
  · exact valid_of_not_owedToDefault hkind hs h (not_owedToDefault_of_fits hfits)
  · by_contra hnot
    obtain ⟨value, hdefault, howed⟩ := exists_owed_of_not_fits hnot
    obtain ⟨t, t', h⟩ := exists_construct_default aspects hs hstart hdefault
    exact not_valid_of_owedToDefault howed (halways t value t' h)

/-- Up to two tags, three of which are there from the start. -/
def tagsSchema : Schema :=
  .stringSet ⟨"tags", true⟩ { default := some ["a", "b", "c"], count := { max := some 2 } }

/-- A set that starts with too many members is valid once one of them is taken out. -/
theorem valid_unless_owed_to_default_tags :
    TakesEntries tagsSchema ∧ tagsSchema.checkDelimiters = .ok () ∧ StartsEnough tagsSchema ∧
      (construct tagsSchema .empty { unread := ["c", ""] }).1 = .ok (textsValue ["a", "b"]) ∧
      ¬ OwedToDefault tagsSchema (textsValue ["a", "b"]) ∧ ¬ AlwaysValid .empty tagsSchema := by
  have hdelimiters : tagsSchema.checkDelimiters = .ok () := rfl
  have hrun : (construct tagsSchema .empty { unread := ["c", ""] }).1 = .ok (textsValue ["a", "b"]) :=
    congrArg Prod.fst (Turn.run_eq_of_makeCalls 8 rfl)
  have hkind : TakesEntries tagsSchema := trivial
  obtain ⟨hiff, _, hfits⟩ := valid_unless_owed_to_default .empty hkind hdelimiters
  refine ⟨hkind, hdelimiters, Nat.zero_le _, hrun, (hiff _ _ _ (Prod.ext hrun rfl)).mp rfl,
    fun halways => ?_⟩
  obtain ⟨hmost, _⟩ := hfits (Nat.zero_le _) halways ["a", "b", "c"] rfl
  exact absurd (hmost 2 rfl) (by decide)

/-- A blank line takes a text that is not listed, a number that is out of bounds and a set that is too
large. -/
theorem default_is_taken_unchecked :
    let craft : Schema := .string ⟨"class", true⟩
      { autocomplete := ["bard"], strict := true, default := some "monk" }
    let level : Schema := .integer ⟨"level", true⟩ { min := some 1, max := some 99, default := some 200 }
    ((construct craft .empty { unread := [""] }).1 = .ok (.string "monk") ∧
        validate (.string "monk") craft .empty ≠ .ok ()) ∧
      ((construct level .empty { unread := [""] }).1 = .ok (integerValue 200) ∧
        validate (integerValue 200) level .empty ≠ .ok ()) ∧
      (construct tagsSchema .empty { unread := [""] }).1 = .ok (textsValue ["a", "b", "c"]) ∧
        validate (textsValue ["a", "b", "c"]) tagsSchema .empty ≠ .ok () := by
  intro craft level
  refine ⟨⟨?_, ?_⟩, ⟨?_, ?_⟩, ?_, ?_⟩
  · exact congrArg Prod.fst (Turn.run_eq_of_makeCalls 3 rfl)
  · exact not_valid_of_owedToDefault ⟨"monk", rfl, rfl, by decide⟩
  · exact congrArg Prod.fst (Turn.run_eq_of_makeCalls 3 rfl)
  · exact not_valid_of_owedToDefault ⟨200, rfl, rfl, by decide⟩
  · exact congrArg Prod.fst (Turn.run_eq_of_makeCalls 4 rfl)
  · exact not_valid_of_owedToDefault ⟨_, rfl, .inr ⟨2, rfl, by decide, by decide⟩⟩

end CommandForms.Dialogue
