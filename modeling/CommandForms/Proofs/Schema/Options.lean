import CommandForms.Proofs.Computation
import CommandForms.Proofs.Numeral.Integer
import CommandForms.Schema.Decode
import CommandForms.Schema.Encode
import Mathlib.Control.Monad.Basic

/-!
# Encoded options are read back

The options of a kind are read from the members that encode them, in whatever order these come.  What has
been read so far depends only on which keys have been seen, so that the order makes no difference.
-/

namespace CommandForms.Schema

open CommandForms.Json (Value Number)

variable {α σ : Type} {field key : String} {a : α} {seen : List String}

/-! ## Entries of members -/

/-- The entry of a record that a member of an object stands for. -/
def entryOf (member : String × Value) : Entry :=
  ⟨.text member.1, .ofJson member.2, ofData (.ofJson member.2), fieldsOfData (.ofJson member.2)⟩

theorem readEntries_ofJsonMembers (members : List (String × Value)) :
    readEntries (Data.ofJsonMembers members) = members.map entryOf := by
  induction members with
  | nil => rfl
  | cons member members ih => rw [Data.ofJsonMembers, readEntries, ih, List.map_cons, entryOf]

/-! ## Slots -/

/-- What a field holds while a record is read: nothing until its key has been seen. -/
def slot (field : String) (a : α) (seen : List String) : Option α :=
  if field ∈ seen then some a else none

@[simp]
theorem slot_nil : slot field a [] = none := rfl

@[simp]
theorem slot_cons_self : slot field a (field :: seen) = some a :=
  if_pos (.head _)

@[simp]
theorem slot_cons_of_ne (h : field ≠ key) : slot field a (key :: seen) = slot field a seen := by
  simp [slot, h]

@[simp]
theorem once_slot (h : field ∉ seen) : once field (slot field a seen) (.ok a) = .ok (some a) := by
  rw [slot, if_neg h]
  rfl

theorem getD_slot {default : α} {keys : List String} {members : List (String × Value)}
    (hkeys : ∀ key, key ∈ keys ↔ key ∈ members.map (·.1))
    (h : field ∉ members.map (·.1) → a = default) : (slot field a keys).getD default = a := by
  unfold slot
  split
  · rfl
  · rename_i hfield
    exact (h fun hmem => hfield ((hkeys field).mpr hmem)).symm

/-! ## Reading entries in any order -/

/-- Entries under different keys, each of which is read into its slot, are all read. -/
theorem readOptions_eq {fields : List String} {set : σ → String → Entry → Except Mismatch σ}
    {state : List String → σ} {members : List (String × Value)}
    (hnodup : (members.map (·.1)).Nodup) (hfields : ∀ member ∈ members, member.1 ∈ fields)
    (hset : ∀ member ∈ members, ∀ seen, member.1 ∉ seen →
      set (state seen) member.1 (entryOf member) = .ok (state (member.1 :: seen)))
    (hseen : ∀ member ∈ members, member.1 ∉ seen) :
    readOptions fields set (state seen) (members.map entryOf) =
      .ok (state ((members.map (·.1)).reverse ++ seen)) := by
  induction members generalizing seen with
  | nil => rfl
  | cons member members ih =>
      obtain ⟨hnew, hnodup⟩ := List.nodup_cons.mp hnodup
      obtain ⟨hfield, hfields⟩ := List.forall_mem_cons.mp hfields
      obtain ⟨hread, hset⟩ := List.forall_mem_cons.mp hset
      obtain ⟨hunseen, hseen⟩ := List.forall_mem_cons.mp hseen
      have hmeans : (Data.Key.name member.1).field? fields = some member.1 := by
        rw [Data.Key.field?, if_pos (List.contains_iff_mem.mpr hfield)]
      have hrest : ∀ other ∈ members, other.1 ∉ member.1 :: seen := by
        intro other hmem
        rw [List.mem_cons, not_or]
        exact ⟨fun heq => hnew (List.mem_map.mpr ⟨other, hmem, heq⟩), hseen other hmem⟩
      rw [List.map_cons, List.map_cons, List.reverse_cons, List.append_assoc, List.singleton_append,
        readOptions]
      have hkey : (entryOf member).key.asKey = .ok (.name member.1) := rfl
      rw [hkey, Except.ok_bind, hmeans]
      change (set (state seen) member.1 (entryOf member) >>= _) = _
      rw [hread seen hunseen]
      exact ih hnodup hfields hset hrest

theorem readOptions_perm {fields : List String} (set : σ → String → Entry → Except Mismatch σ)
    (state : List String → σ) {members moved : List (String × Value)} (hperm : moved.Perm members)
    (hkeys : (members.map (·.1)).Sublist fields) (hfields : fields.Nodup)
    (hset : ∀ member ∈ members, ∀ seen, member.1 ∉ seen →
      set (state seen) member.1 (entryOf member) = .ok (state (member.1 :: seen))) :
    ∃ keys, (∀ key, key ∈ keys ↔ key ∈ members.map (·.1)) ∧
      readOptions fields set (state []) (moved.map entryOf) = .ok (state keys) := by
  have hmoved : (moved.map (·.1)).Perm (members.map (·.1)) := hperm.map _
  have hnodup : (moved.map (·.1)).Nodup := hmoved.nodup_iff.mpr (hfields.sublist hkeys)
  have hdeclared : ∀ member ∈ moved, member.1 ∈ fields := fun member hmem =>
    hkeys.subset (List.mem_map_of_mem (hperm.mem_iff.mp hmem))
  refine ⟨(moved.map (·.1)).reverse ++ [], fun key => ?_, ?_⟩
  · rw [List.append_nil, List.mem_reverse, hmoved.mem_iff]
  · exact readOptions_eq hnodup hdeclared (fun member hmem => hset member (hperm.mem_iff.mp hmem))
      fun _ _ => List.not_mem_nil

/-! ## Encoded scalars -/

theorem asOption_eq {read : Data → Except Mismatch α} {d : Data} (hd : d ≠ .null)
    (hread : read d = .ok a) : d.asOption read = .ok (some a) := by
  cases d with
  | null => exact absurd rfl hd
  | _ => exact congrArg (Except.map some) hread

@[simp]
theorem asTexts_textsJson (texts : List String) : (Data.ofJson (textsJson texts)).asTexts = .ok texts := by
  have hitems : ∀ texts : List String,
      (Data.ofJsonItems (texts.map Value.string)).mapM Data.asText = .ok texts := by
    intro texts
    induction texts with
    | nil => rfl
    | cons text texts ih =>
        rw [List.map_cons, Data.ofJsonItems, List.mapM_cons, ih]
        rfl
  exact hitems texts

@[simp]
theorem asText_string (s : String) : (Data.ofJson (.string s)).asText = .ok s := rfl

@[simp]
theorem asBool_bool (b : Bool) : (Data.ofJson (.bool b)).asBool = .ok b := rfl

theorem asUInt64_integer {n : Int} {u : UInt64} (h : Numeral.uint64? n = some u) :
    (Data.integer n).asUInt64 = .ok u := by
  rw [Data.asUInt64, h]

theorem asInt64_integer {n : Int} {i : Int64} (h : Numeral.int64? n = some i) :
    (Data.integer n).asInt64 = .ok i := by
  rw [Data.asInt64, h]

theorem asUInt64_countJson (n : UInt64) : (Data.ofJson (countJson n)).asUInt64 = .ok n := by
  have hlt := n.toNat_lt
  have hrange : Numeral.uint64? (n.toNat : Int) = some n := by
    rw [Numeral.uint64?, if_pos ⟨by omega, by omega⟩, Int.toNat_natCast, UInt64.ofNat_toNat]
  exact asUInt64_integer hrange

theorem asInt64_integerJson (n : Int64) : (Data.ofJson (integerJson n)).asInt64 = .ok n :=
  asInt64_integer (Numeral.int64?_toInt n)

@[simp]
theorem asOption_string (s : String) :
    (Data.ofJson (.string s)).asOption Data.asText = .ok (some s) := rfl

@[simp]
theorem asOption_bool (b : Bool) : (Data.ofJson (.bool b)).asOption Data.asBool = .ok (some b) := rfl

@[simp]
theorem asOption_textsJson (texts : List String) :
    (Data.ofJson (textsJson texts)).asOption Data.asTexts = .ok (some texts) :=
  asOption_eq nofun (asTexts_textsJson texts)

@[simp]
theorem asOption_countJson (n : UInt64) :
    (Data.ofJson (countJson n)).asOption Data.asUInt64 = .ok (some n) :=
  asOption_eq nofun (asUInt64_countJson n)

@[simp]
theorem asOption_integerJson (n : Int64) :
    (Data.ofJson (integerJson n)).asOption Data.asInt64 = .ok (some n) :=
  asOption_eq nofun (asInt64_integerJson n)

/-! ## Encoded options -/

@[simp]
theorem mem_optionalMember {json : α → Value} {a? : Option α} {member : String × Value} :
    member ∈ optionalMember key json a? ↔ ∃ a, a? = some a ∧ member = (key, json a) := by
  cases a? <;> simp [optionalMember]

@[simp]
theorem mem_autocompleteMember {texts : List String} {member : String × Value} :
    member ∈ autocompleteMember texts ↔
      texts ≠ [] ∧ member = ("autocomplete", textsJson texts) := by
  cases texts <;> simp [autocompleteMember]

@[simp]
theorem mem_keys_optionalMember {json : α → Value} {a? : Option α} :
    field ∈ (optionalMember key json a?).map (·.1) ↔ field = key ∧ a? ≠ none := by
  cases a? <;> simp [optionalMember]

@[simp]
theorem mem_keys_autocompleteMember {texts : List String} :
    field ∈ (autocompleteMember texts).map (·.1) ↔ field = "autocomplete" ∧ texts ≠ [] := by
  cases texts <;> simp [autocompleteMember]

theorem keys_optionalMember (key : String) (json : α → Value) (a? : Option α) :
    ((optionalMember key json a?).map (·.1)).Sublist [key] := by
  cases a? <;> simp [optionalMember]

theorem keys_autocompleteMember (texts : List String) :
    ((autocompleteMember texts).map (·.1)).Sublist ["autocomplete"] := by
  cases texts <;> simp [autocompleteMember]

theorem keys_boundsMembers (minKey maxKey : String) (bounds : CountBounds) :
    ((boundsMembers minKey maxKey bounds).map (·.1)).Sublist [minKey, maxKey] := by
  rw [boundsMembers, List.map_append]
  exact (keys_optionalMember minKey countJson bounds.min).append
    (keys_optionalMember maxKey countJson bounds.max)

variable {moved : List (String × Value)}

theorem keys_stringMembers (options : StringOptions) : ((stringMembers options).map (·.1)).Sublist
    ["autocomplete", "delimiter", "strict", "default"] := by
  simp only [stringMembers, List.map_append]
  exact (((keys_autocompleteMember _).append (keys_optionalMember _ _ _)).append (.refl _)).append
    (keys_optionalMember _ _ _)

/-- The options of a string field while the entries of a record are read. -/
def stringRead (options : StringOptions) (seen : List String) : StringDraft where
  autocomplete := slot "autocomplete" options.autocomplete seen
  delimiter := slot "delimiter" options.delimiter seen
  strict := slot "strict" options.strict seen
  default := slot "default" options.default seen

theorem set_stringRead {options : StringOptions} :
    ∀ member ∈ stringMembers options, ∀ seen, member.1 ∉ seen →
      readString.set (stringRead options seen) member.1 (entryOf member) =
        .ok (stringRead options (member.1 :: seen)) := by
  intro member hmember seen hseen
  simp only [stringMembers, List.mem_append, mem_autocompleteMember, mem_optionalMember,
    List.mem_singleton] at hmember
  rcases hmember with ((⟨_, rfl⟩ | ⟨pattern, hpattern, rfl⟩) | rfl) | ⟨text, htext, rfl⟩
  · simp [stringRead, readString.set, entryOf, hseen]
  · simp [stringRead, readString.set, entryOf, hpattern, hseen]
  · simp [stringRead, readString.set, entryOf, hseen]
  · simp [stringRead, readString.set, entryOf, htext, hseen]

theorem readString_eq {options : StringOptions} (hperm : moved.Perm (stringMembers options)) :
    readString (moved.map entryOf) = .ok options := by
  obtain ⟨keys, hkeys, hread⟩ := readOptions_perm _ (stringRead options) hperm
    (keys_stringMembers options) (by decide) set_stringRead
  have hautocomplete : (stringRead options keys).autocomplete.getD [] = options.autocomplete :=
    getD_slot hkeys (by simp [stringMembers])
  have hdelimiter : (stringRead options keys).delimiter.getD none = options.delimiter :=
    getD_slot hkeys (by simp [stringMembers])
  have hstrict : (stringRead options keys).strict.getD false = options.strict :=
    getD_slot hkeys (by simp [stringMembers])
  have hdefault : (stringRead options keys).default.getD none = options.default :=
    getD_slot hkeys (by simp [stringMembers])
  unfold readString
  change readOptions _ _ (stringRead options []) _ >>= _ = _
  rw [hread, Except.ok_bind, hautocomplete, hdelimiter, hstrict, hdefault]
  rfl

/-! ## Bounds -/

/-- The bounds while the entries of a record are read. -/
def boundsRead (minKey maxKey : String) (bounds : CountBounds) (seen : List String) : BoundsDraft :=
  ⟨slot minKey bounds.min seen, slot maxKey bounds.max seen⟩

section Bounds

variable {minKey maxKey : String} {bounds : CountBounds} {n : UInt64}

@[simp]
theorem boundsRead_cons_of_ne (hmin : minKey ≠ key) (hmax : maxKey ≠ key) :
    boundsRead minKey maxKey bounds (key :: seen) = boundsRead minKey maxKey bounds seen := by
  simp [boundsRead, hmin, hmax]

@[simp]
theorem setMin_boundsRead (hkeys : minKey ≠ maxKey) (hbound : bounds.min = some n)
    (hseen : minKey ∉ seen) :
    (boundsRead minKey maxKey bounds seen).setMin minKey (entryOf (minKey, countJson n)) =
      .ok (boundsRead minKey maxKey bounds (minKey :: seen)) := by
  simp [BoundsDraft.setMin, boundsRead, entryOf, hbound, hseen, hkeys.symm]

@[simp]
theorem setMax_boundsRead (hkeys : minKey ≠ maxKey) (hbound : bounds.max = some n)
    (hseen : maxKey ∉ seen) :
    (boundsRead minKey maxKey bounds seen).setMax maxKey (entryOf (maxKey, countJson n)) =
      .ok (boundsRead minKey maxKey bounds (maxKey :: seen)) := by
  simp [BoundsDraft.setMax, boundsRead, entryOf, hbound, hseen, hkeys]

theorem bounds_boundsRead {keys : List String} {members : List (String × Value)}
    (hkeys : ∀ key, key ∈ keys ↔ key ∈ members.map (·.1))
    (hsub : ∀ member ∈ boundsMembers minKey maxKey bounds, member ∈ members) :
    (boundsRead minKey maxKey bounds keys).bounds = bounds := by
  have hsub' : ∀ k ∈ (boundsMembers minKey maxKey bounds).map (·.1), k ∈ members.map (·.1) := by
    intro k hk
    obtain ⟨member, hmem, rfl⟩ := List.mem_map.mp hk
    exact List.mem_map_of_mem (hsub member hmem)
  have hmin : (slot minKey bounds.min keys).getD none = bounds.min := by
    refine getD_slot hkeys fun hmissing => ?_
    have hnone := mt (hsub' minKey) hmissing
    rw [boundsMembers, List.map_append, List.mem_append, mem_keys_optionalMember] at hnone
    exact Decidable.byContradiction fun h => hnone (.inl ⟨rfl, h⟩)
  have hmax : (slot maxKey bounds.max keys).getD none = bounds.max := by
    refine getD_slot hkeys fun hmissing => ?_
    have hnone := mt (hsub' maxKey) hmissing
    rw [boundsMembers, List.map_append, List.mem_append, mem_keys_optionalMember,
      mem_keys_optionalMember] at hnone
    exact Decidable.byContradiction fun h => hnone (.inr ⟨rfl, h⟩)
  rw [BoundsDraft.bounds, boundsRead, hmin, hmax]

end Bounds

theorem keys_stringSetMembers (options : StringSetOptions) :
    ((stringSetMembers options).map (·.1)).Sublist
      ["autocomplete", "delimiter", "strict", "default", "minCount", "maxCount"] := by
  simp only [stringSetMembers, List.map_append]
  exact ((((keys_autocompleteMember _).append (keys_optionalMember _ _ _)).append (.refl _)).append
    (keys_optionalMember _ _ _)).append (keys_boundsMembers _ _ _)

/-- The options of a string-set field while the entries of a record are read. -/
def stringSetRead (options : StringSetOptions) (seen : List String) : StringSetDraft where
  autocomplete := slot "autocomplete" options.autocomplete seen
  delimiter := slot "delimiter" options.delimiter seen
  strict := slot "strict" options.strict seen
  default := slot "default" options.default seen
  count := boundsRead "minCount" "maxCount" options.count seen

theorem set_stringSetRead {options : StringSetOptions} :
    ∀ member ∈ stringSetMembers options, ∀ seen, member.1 ∉ seen →
      readStringSet.set (stringSetRead options seen) member.1 (entryOf member) =
        .ok (stringSetRead options (member.1 :: seen)) := by
  intro member hmember seen hseen
  simp only [stringSetMembers, boundsMembers, List.mem_append, mem_autocompleteMember,
    mem_optionalMember, List.mem_singleton] at hmember
  rcases hmember with (((⟨_, rfl⟩ | ⟨pattern, hpattern, rfl⟩) | rfl) | ⟨texts, htexts, rfl⟩) |
    (⟨n, hmin, rfl⟩ | ⟨n, hmax, rfl⟩)
  · simp [stringSetRead, readStringSet.set, entryOf, hseen]
  · simp [stringSetRead, readStringSet.set, entryOf, hpattern, hseen]
  · simp [stringSetRead, readStringSet.set, entryOf, hseen]
  · simp [stringSetRead, readStringSet.set, entryOf, htexts, hseen]
  · simp [stringSetRead, readStringSet.set, hmin, hseen]
  · simp [stringSetRead, readStringSet.set, hmax, hseen]

theorem readStringSet_eq {options : StringSetOptions}
    (hperm : moved.Perm (stringSetMembers options)) :
    readStringSet (moved.map entryOf) = .ok options := by
  obtain ⟨keys, hkeys, hread⟩ := readOptions_perm _ (stringSetRead options) hperm
    (keys_stringSetMembers options) (by decide) set_stringSetRead
  have hautocomplete : (stringSetRead options keys).autocomplete.getD [] = options.autocomplete :=
    getD_slot hkeys (by simp +contextual [stringSetMembers])
  have hdelimiter : (stringSetRead options keys).delimiter.getD none = options.delimiter :=
    getD_slot hkeys (by simp +contextual [stringSetMembers])
  have hstrict : (stringSetRead options keys).strict.getD false = options.strict :=
    getD_slot hkeys (by simp +contextual [stringSetMembers])
  have hdefault : (stringSetRead options keys).default.getD none = options.default :=
    getD_slot hkeys (by simp +contextual [stringSetMembers])
  have hcount : (stringSetRead options keys).count.bounds = options.count :=
    bounds_boundsRead hkeys fun member hmem => List.mem_append_right _ hmem
  unfold readStringSet
  change readOptions _ _ (stringSetRead options []) _ >>= _ = _
  rw [hread, Except.ok_bind, hautocomplete, hdelimiter, hstrict, hdefault, hcount]
  rfl

theorem keys_integerMembers (options : IntegerOptions) :
    ((integerMembers options).map (·.1)).Sublist ["min", "max", "default"] := by
  simp only [integerMembers, List.map_append]
  exact ((keys_optionalMember _ _ _).append (keys_optionalMember _ _ _)).append
    (keys_optionalMember _ _ _)

/-- The options of an integer field while the entries of a record are read. -/
def integerRead (options : IntegerOptions) (seen : List String) : IntegerDraft where
  min := slot "min" options.min seen
  max := slot "max" options.max seen
  default := slot "default" options.default seen

theorem set_integerRead {options : IntegerOptions} :
    ∀ member ∈ integerMembers options, ∀ seen, member.1 ∉ seen →
      readInteger.set (integerRead options seen) member.1 (entryOf member) =
        .ok (integerRead options (member.1 :: seen)) := by
  intro member hmember seen hseen
  simp only [integerMembers, List.mem_append, mem_optionalMember] at hmember
  rcases hmember with (⟨n, hmin, rfl⟩ | ⟨n, hmax, rfl⟩) | ⟨n, hdefault, rfl⟩
  · simp [integerRead, readInteger.set, entryOf, hmin, hseen]
  · simp [integerRead, readInteger.set, entryOf, hmax, hseen]
  · simp [integerRead, readInteger.set, entryOf, hdefault, hseen]

theorem readInteger_eq {options : IntegerOptions} (hperm : moved.Perm (integerMembers options)) :
    readInteger (moved.map entryOf) = .ok options := by
  obtain ⟨keys, hkeys, hread⟩ := readOptions_perm _ (integerRead options) hperm
    (keys_integerMembers options) (by decide) set_integerRead
  have hmin : (integerRead options keys).min.getD none = options.min :=
    getD_slot hkeys (by simp [integerMembers])
  have hmax : (integerRead options keys).max.getD none = options.max :=
    getD_slot hkeys (by simp [integerMembers])
  have hdefault : (integerRead options keys).default.getD none = options.default :=
    getD_slot hkeys (by simp [integerMembers])
  unfold readInteger
  change readOptions _ _ (integerRead options []) _ >>= _ = _
  rw [hread, Except.ok_bind, hmin, hmax, hdefault]
  rfl

theorem readBoolean_eq {default : Option Bool}
    (hperm : moved.Perm (optionalMember "default" Value.bool default)) :
    readBoolean (moved.map entryOf) = .ok default := by
  have hset : ∀ member ∈ optionalMember "default" Value.bool default, ∀ seen, member.1 ∉ seen →
      once member.1 (slot "default" default seen) ((entryOf member).value.asOption Data.asBool) =
        .ok (slot "default" default (member.1 :: seen)) := by
    intro member hmember seen hseen
    obtain ⟨yes, rfl, rfl⟩ := mem_optionalMember.mp hmember
    simp [entryOf, hseen]
  obtain ⟨keys, hkeys, hread⟩ := readOptions_perm
    (fun seen field entry => once field seen (entry.value.asOption Data.asBool))
    (slot "default" default) hperm (keys_optionalMember _ _ _) (by decide) hset
  have hdefault : (slot "default" default keys).getD none = default := getD_slot hkeys (by simp)
  unfold readBoolean
  change readOptions _ _ (slot "default" default []) _ >>= _ = _
  rw [hread, Except.ok_bind, hdefault]
  rfl

/-- Takes one bound under the keys of a kind. -/
def setBound (minKey : String) (draft : BoundsDraft) (field : String) (entry : Entry) :
    Except Mismatch BoundsDraft :=
  if field = minKey then draft.setMin field entry else draft.setMax field entry

theorem readBounds_eq {minKey maxKey : String} {bounds : CountBounds} (hne : minKey ≠ maxKey)
    (hperm : moved.Perm (boundsMembers minKey maxKey bounds)) :
    readBounds minKey maxKey (moved.map entryOf) = .ok bounds := by
  have hset : ∀ member ∈ boundsMembers minKey maxKey bounds, ∀ seen, member.1 ∉ seen →
      setBound minKey (boundsRead minKey maxKey bounds seen) member.1 (entryOf member) =
        .ok (boundsRead minKey maxKey bounds (member.1 :: seen)) := by
    intro member hmember seen hseen
    simp only [boundsMembers, List.mem_append, mem_optionalMember] at hmember
    rcases hmember with ⟨n, hmin, rfl⟩ | ⟨n, hmax, rfl⟩
    · simp [setBound, hmin, hseen, hne]
    · simp [setBound, hmax, hseen, hne, hne.symm]
  have hfields : [minKey, maxKey].Nodup := by simp [hne]
  obtain ⟨keys, hkeys, hread⟩ :=
    readOptions_perm (setBound minKey) _ hperm (keys_boundsMembers _ _ _) hfields hset
  unfold readBounds
  change readOptions _ (setBound minKey) (boundsRead minKey maxKey bounds []) _ >>= _ = _
  rw [hread, Except.ok_bind, bounds_boundsRead hkeys fun _ hmem => hmem]
  rfl

theorem readObject_eq {value : Value} {fields : List (String × Schema)}
    (hfields : fieldsOfData (.ofJson value) = .ok fields) (hperm : moved.Perm [("fields", value)]) :
    readObject (moved.map entryOf) = .ok fields := by
  have hset : ∀ member ∈ [("fields", value)], ∀ seen, member.1 ∉ seen →
      once member.1 (slot "fields" fields seen) (entryOf member).fields =
        .ok (slot "fields" fields (member.1 :: seen)) := by
    intro member hmember seen hseen
    cases List.mem_singleton.mp hmember
    simp [entryOf, hfields, hseen]
  have hsub : ([("fields", value)].map (·.1)).Sublist ["fields"] := .refl _
  obtain ⟨keys, hkeys, hread⟩ := readOptions_perm
    (fun seen field entry => once field seen entry.fields) (slot "fields" fields) hperm hsub
    (by decide) hset
  have hslot : (slot "fields" fields keys).getD [] = fields := getD_slot hkeys (by simp)
  unfold readObject
  change readOptions _ _ (slot "fields" fields []) _ >>= _ = _
  rw [hread, Except.ok_bind, hslot]
  rfl

/-- The options of an array field while the entries of a record are read. -/
def arrayRead (element : Schema) (length : CountBounds) (seen : List String) : ArrayDraft where
  element := slot "element" element seen
  length := boundsRead "minLength" "maxLength" length seen

/-- The element and the bounds of an array field are read back when the encoding of the element gives it. -/
theorem readArray_eq {value : Value} {element : Schema} {length : CountBounds}
    (helement : ofData (.ofJson value) = .ok element)
    (hperm : moved.Perm (("element", value) :: boundsMembers "minLength" "maxLength" length)) :
    readArray (moved.map entryOf) = .ok (element, length) := by
  have hset : ∀ member ∈ ("element", value) :: boundsMembers "minLength" "maxLength" length,
      ∀ seen, member.1 ∉ seen →
        readArray.set (arrayRead element length seen) member.1 (entryOf member) =
          .ok (arrayRead element length (member.1 :: seen)) := by
    intro member hmember seen hseen
    simp only [boundsMembers, List.mem_cons, List.mem_append, mem_optionalMember] at hmember
    rcases hmember with rfl | ⟨n, hmin, rfl⟩ | ⟨n, hmax, rfl⟩
    · simp [arrayRead, readArray.set, entryOf, helement, hseen]
    · simp [arrayRead, readArray.set, hmin, hseen]
    · simp [arrayRead, readArray.set, hmax, hseen]
  have hsub : ((("element", value) :: boundsMembers "minLength" "maxLength" length).map (·.1)).Sublist
      ["element", "minLength", "maxLength"] :=
    (keys_boundsMembers "minLength" "maxLength" length).cons_cons "element"
  obtain ⟨keys, hkeys, hread⟩ :=
    readOptions_perm _ (arrayRead element length) hperm hsub (by decide) hset
  have helement : (arrayRead element length keys).element = some element :=
    if_pos ((hkeys "element").mpr (.head _))
  have hlength : (arrayRead element length keys).length.bounds = length :=
    bounds_boundsRead hkeys fun member hmem => .tail _ hmem
  unfold readArray
  change readOptions _ _ (arrayRead element length []) _ >>= _ = _
  rw [hread, Except.ok_bind, helement, hlength]
  rfl

/-- A field of an object while the entries of a record are read. -/
def fieldRead (name : String) (schema : Schema) (seen : List String) : FieldDraft where
  key := slot "key" name seen
  schema := slot "schema" schema seen

/-- The key and the schema of a field are read back when the encoding of the schema gives it. -/
theorem fieldOfEntries_eq {value : Value} {name : String} {schema : Schema}
    (hschema : ofData (.ofJson value) = .ok schema)
    (hperm : moved.Perm [("key", .string name), ("schema", value)]) :
    fieldOfEntries (moved.map entryOf) = .ok (name, schema) := by
  have hset : ∀ member ∈ [("key", Value.string name), ("schema", value)], ∀ seen, member.1 ∉ seen →
      fieldOfEntries.set (fieldRead name schema seen) member.1 (entryOf member) =
        .ok (fieldRead name schema (member.1 :: seen)) := by
    intro member hmember seen hseen
    simp only [List.mem_cons, List.not_mem_nil, or_false] at hmember
    rcases hmember with rfl | rfl
    · simp [fieldRead, fieldOfEntries.set, entryOf, hseen]
    · simp [fieldRead, fieldOfEntries.set, entryOf, hschema, hseen]
  have hsub : ([("key", Value.string name), ("schema", value)].map (·.1)).Sublist ["key", "schema"] :=
    .refl _
  obtain ⟨keys, hkeys, hread⟩ :=
    readOptions_perm _ (fieldRead name schema) hperm hsub (by decide) hset
  have hname : (fieldRead name schema keys).key = some name := if_pos ((hkeys "key").mpr (by simp))
  have hvalue : (fieldRead name schema keys).schema = some schema :=
    if_pos ((hkeys "schema").mpr (by simp))
  unfold fieldOfEntries
  change readOptions _ _ (fieldRead name schema []) _ >>= _ = _
  rw [hread, Except.ok_bind, hname, hvalue]
  rfl

end CommandForms.Schema
