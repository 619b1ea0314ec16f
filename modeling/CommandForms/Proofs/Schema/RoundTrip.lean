import CommandForms.Proofs.Json.Texts
import CommandForms.Proofs.Schema.Options

/-!
# Encoded schemas are read back

A schema is read back from its JSON form, in whatever order the members of the objects in it come, and from
its JSON text.
-/

namespace CommandForms.Schema

open CommandForms.Json (Value)

/-! ## Moving members -/

/-- A function on values that does nothing but move the members of objects with pairwise different keys. -/
structure Rearranges (g : Value → Value) : Prop where
  bool : ∀ b, g (.bool b) = .bool b
  number : ∀ n, g (.number n) = .number n
  string : ∀ s, g (.string s) = .string s
  array : ∀ items, g (.array items) = .array (items.map g)
  object : ∀ members, (members.map (·.1)).Nodup → ∃ moved, g (.object members) = .object moved ∧
    moved.Perm (members.map fun member => (member.1, g member.2))

theorem rearranges_id : Rearranges id where
  bool _ := rfl
  number _ := rfl
  string _ := rfl
  array items := by rw [List.map_id, id]
  object members _ := ⟨members, rfl, by simp⟩

theorem rearranges_normalize : Rearranges Value.normalize where
  bool _ := rfl
  number _ := rfl
  string _ := rfl
  array items := by rw [Value.normalize, Value.normalizeItems_eq_map]
  object members hnodup := by
    refine ⟨_, rfl, ?_⟩
    rw [Value.normalizeMembers_eq_map]
    refine Entries.perm_ofList ?_
    rwa [List.map_map]

section Rearranged

variable {g : Value → Value} {moved : List (String × Value)} {label : Label}

/-- The members after the values under the same keys have been rearranged. -/
def rearranged (g : Value → Value) (members : List (String × Value)) : List (String × Value) :=
  members.map fun member => (member.1, g member.2)

theorem rearranged_id (members : List (String × Value)) : rearranged id members = members :=
  List.map_id _

theorem keys_rearranged (members : List (String × Value)) :
    (rearranged g members).map (·.1) = members.map (·.1) := by
  rw [rearranged, List.map_map]
  rfl

/-! ## The tag -/

theorem splitTag_cons_of_ne {tag tag' : Option String} {member : String × Value}
    {entries rest : List Entry} (h : member.1 ≠ "type")
    (hrest : splitTag tag entries = .ok (tag', rest)) :
    splitTag tag (entryOf member :: entries) = .ok (tag', entryOf member :: rest) := by
  rw [splitTag]
  split
  · rename_i hkey
    exact absurd (Data.text.inj hkey) h
  · rw [hrest]
    rfl

theorem splitTag_of_not_mem {tag : Option String} {members : List (String × Value)}
    (h : "type" ∉ members.map (·.1)) :
    splitTag tag (members.map entryOf) = .ok (tag, members.map entryOf) := by
  induction members with
  | nil => rfl
  | cons member members ih =>
      rw [List.map_cons, List.mem_cons, not_or] at h
      exact splitTag_cons_of_ne (Ne.symm h.1) (ih h.2)

theorem tagOf_typeName (s : Schema) : tagOf (.ofJson (.string s.typeName)) = .ok s.typeName := by
  cases s <;> rfl

/-- The tag is found wherever it stands, and the other entries are left in their order. -/
theorem splitTag_eq {members : List (String × Value)} (s : Schema)
    (hnew : "type" ∉ members.map (·.1))
    (hperm : moved.Perm (("type", .string s.typeName) :: members)) :
    ∃ rest : List (String × Value), rest.Perm members ∧
      splitTag none (moved.map entryOf) = .ok (some s.typeName, rest.map entryOf) := by
  have hmem : ("type", Value.string s.typeName) ∈ moved := hperm.mem_iff.mpr (.head _)
  obtain ⟨before, after, rfl⟩ := List.append_of_mem hmem
  have hrest : (before ++ after).Perm members := (List.perm_middle.symm.trans hperm).cons_inv
  have hnew' : "type" ∉ (before ++ after).map (·.1) := fun h =>
    hnew ((hrest.map _).mem_iff.mp h)
  refine ⟨before ++ after, hrest, ?_⟩
  clear hmem hperm hrest
  -- The entries in front of the tag are passed over, and behind it there is no other tag.
  induction before with
  | nil =>
      have hread : splitTag none (entryOf ("type", .string s.typeName) :: after.map entryOf) =
          splitTag (some s.typeName) (after.map entryOf) := by
        rw [splitTag]
        change (once "type" none (tagOf (.ofJson (.string s.typeName))) >>= _) = _
        rw [tagOf_typeName]
        rfl
      exact hread.trans (splitTag_of_not_mem hnew')
  | cons member before ih =>
      rw [List.cons_append, List.map_cons, List.mem_cons, not_or] at hnew'
      exact splitTag_cons_of_ne (Ne.symm hnew'.1) (ih hnew'.2)

/-! ## The options of the kinds -/

/-- The members that encode the options of a schema's kind. -/
def optionMembers : Schema → List (String × Value)
  | .string _ options => stringMembers options
  | .stringSet _ options => stringSetMembers options
  | .integer _ options => integerMembers options
  | .boolean _ default => optionalMember "default" Value.bool default
  | .aspectMap _ keys => boundsMembers "minDistinctKeys" "maxDistinctKeys" keys
  | .object _ fields => [("fields", .array (fieldsJson fields))]
  | .array _ element length =>
      ("element", element.toJson) :: boundsMembers "minLength" "maxLength" length

theorem toJson_eq (s : Schema) : s.toJson = labelled s.label s.typeName (optionMembers s) := by
  cases s <;> rfl

theorem nodup_keys (s : Schema) :
    ("name" :: "required" :: "type" :: (optionMembers s).map (·.1)).Nodup := by
  have hsublist : ∀ {keys fields : List String}, keys.Sublist fields →
      ("name" :: "required" :: "type" :: fields).Nodup →
      ("name" :: "required" :: "type" :: keys).Nodup := fun h hfields =>
    hfields.sublist (((h.cons_cons _).cons_cons _).cons_cons _)
  cases s with
  | string label options => exact hsublist (keys_stringMembers options) (by decide)
  | stringSet label options => exact hsublist (keys_stringSetMembers options) (by decide)
  | integer label options => exact hsublist (keys_integerMembers options) (by decide)
  | boolean label default => exact hsublist (keys_optionalMember _ _ _) (by decide)
  | aspectMap label keys => exact hsublist (keys_boundsMembers _ _ keys) (by decide)
  | object label fields => exact hsublist (.refl ["fields"]) (by decide)
  | array label element length =>
      exact hsublist ((keys_boundsMembers _ _ length).cons_cons "element") (by decide)

theorem not_mem_keys (s : Schema) : "name" ∉ (rearranged g (optionMembers s)).map (·.1) ∧
    "required" ∉ (rearranged g (optionMembers s)).map (·.1) ∧
    "type" ∉ (rearranged g (optionMembers s)).map (·.1) := by
  have hnodup := nodup_keys s
  simp only [List.nodup_cons, List.mem_cons, not_or] at hnodup
  rw [keys_rearranged]
  exact ⟨hnodup.1.2.2, hnodup.2.1.2, hnodup.2.2.1⟩

/-- The values of options that hold no schemas: scalars and lists of texts. -/
inductive Flat : Value → Prop
  | bool (b : Bool) : Flat (.bool b)
  | integer {n : Int} (fits : -9223372036854775808 ≤ n ∧ n < 18446744073709551616) :
      Flat (.number (.integer n fits))
  | string (s : String) : Flat (.string s)
  | texts (texts : List String) : Flat (textsJson texts)

theorem Flat.rearranged_eq {value : Value} (h : Flat value) (hg : Rearranges g) : g value = value := by
  cases h with
  | bool b => exact hg.bool b
  | integer fits => exact hg.number _
  | string s => exact hg.string s
  | texts texts =>
      rw [textsJson, hg.array, List.map_map]
      exact congrArg Value.array (List.map_congr_left fun text _ => hg.string text)

theorem Flat.whole {value : Value} (h : Flat value) : value.Whole := by
  cases h with
  | bool b => exact Value.whole_bool b
  | integer fits => exact Value.whole_integer fits
  | string s => exact Value.whole_string s
  | texts texts => simp [textsJson]

theorem flat_boundsMembers {minKey maxKey : String} {bounds : CountBounds} :
    ∀ member ∈ boundsMembers minKey maxKey bounds, Flat member.2 := by
  intro member hmem
  simp only [boundsMembers, List.mem_append, mem_optionalMember] at hmem
  rcases hmem with ⟨n, _, rfl⟩ | ⟨n, _, rfl⟩ <;> exact .integer _

/-- The schemas directly inside a schema. -/
def parts : Schema → List Schema
  | .object _ fields => fields.map (·.2)
  | .array _ element _ => [element]
  | _ => []

/-- What passes from the schemas directly inside a schema to the schema holds of every schema. -/
theorem induction_parts {motive : Schema → Prop}
    (step : ∀ s : Schema, (∀ part ∈ s.parts, motive part) → motive s) (s : Schema) : motive s := by
  induction s using Schema.induction with
  | string | stringSet | integer | boolean | aspectMap => exact step _ nofun
  | object label fields ih =>
      refine step _ fun part hpart => ?_
      obtain ⟨field, hfield, rfl⟩ := List.mem_map.mp hpart
      exact ih field hfield
  | array label element length ih =>
      refine step _ fun part hpart => ?_
      cases List.mem_singleton.mp hpart
      exact ih

theorem flat_optionMembers {s : Schema} (h : s.parts = []) :
    ∀ member ∈ optionMembers s, Flat member.2 := by
  intro member hmem
  cases s with
  | string label options =>
      simp only [optionMembers, stringMembers, List.mem_append, mem_autocompleteMember,
        mem_optionalMember, List.mem_singleton] at hmem
      rcases hmem with ((⟨_, rfl⟩ | ⟨pattern, _, rfl⟩) | rfl) | ⟨text, _, rfl⟩
      · exact .texts _
      · exact .string _
      · exact .bool _
      · exact .string _
  | stringSet label options =>
      simp only [optionMembers, stringSetMembers, List.mem_append, mem_autocompleteMember,
        mem_optionalMember, List.mem_singleton] at hmem
      rcases hmem with (((⟨_, rfl⟩ | ⟨pattern, _, rfl⟩) | rfl) | ⟨texts, _, rfl⟩) | hmem
      · exact .texts _
      · exact .string _
      · exact .bool _
      · exact .texts _
      · exact flat_boundsMembers member hmem
  | integer label options =>
      simp only [optionMembers, integerMembers, List.mem_append, mem_optionalMember] at hmem
      rcases hmem with (⟨n, _, rfl⟩ | ⟨n, _, rfl⟩) | ⟨n, _, rfl⟩ <;> exact .integer _
  | boolean label default =>
      obtain ⟨b, _, rfl⟩ := mem_optionalMember.mp hmem
      exact .bool b
  | aspectMap label keys => exact flat_boundsMembers member hmem
  | object label fields =>
      cases List.map_eq_nil_iff.mp h
      cases List.mem_singleton.mp hmem
      exact .texts []
  | array label element length => cases h

theorem rearranged_flat (hg : Rearranges g) {members : List (String × Value)}
    (h : ∀ member ∈ members, Flat member.2) : rearranged g members = members := by
  have hid : rearranged g members = members.map id :=
    List.map_congr_left fun member hmem =>
      congrArg (Prod.mk member.1) ((h member hmem).rearranged_eq hg)
  rw [hid, List.map_id]

theorem rearranged_optionMembers (hg : Rearranges g) (s : Schema) (h : s.parts = []) :
    rearranged g (optionMembers s) = optionMembers s :=
  rearranged_flat hg (flat_optionMembers h)

/-! ## Schemas from entries -/

theorem fieldsOfData_eq (hg : Rearranges g) {fields : List (String × Schema)}
    (h : ∀ field ∈ fields, ofData (.ofJson (g field.2.toJson)) = .ok field.2) :
    fieldsOfData (.ofJson (g (.array (fieldsJson fields)))) = .ok fields := by
  rw [hg.array, Data.ofJson, fieldsOfData]
  induction fields with
  | nil => rfl
  | cons field fields ih =>
      obtain ⟨key, schema⟩ := field
      obtain ⟨hschema, hfields⟩ := List.forall_mem_cons.mp h
      obtain ⟨moved, hmoved, hperm⟩ :=
        hg.object [("key", .string key), ("schema", schema.toJson)] (by simp)
      simp only [List.map_cons, List.map_nil, hg.string] at hperm
      rw [fieldsJson, List.map_cons, Data.ofJsonItems, fieldsOfItems, hmoved, Data.ofJson, fieldOfData,
        readEntries_ofJsonMembers, fieldOfEntries_eq hschema hperm, Except.ok_bind, ih hfields]
      rfl

/-- A schema is read from its tag and its options, in any order, when the schemas inside it are read
back. -/
theorem ofKindEntries_eq (hg : Rearranges g) (s : Schema)
    (hparts : ∀ part ∈ s.parts, ofData (.ofJson (g part.toJson)) = .ok part)
    (hperm : moved.Perm (("type", .string s.typeName) :: rearranged g (optionMembers s))) :
    ofKindEntries s.label (moved.map entryOf) = .ok s := by
  obtain ⟨rest, hrest, hsplit⟩ := splitTag_eq s (not_mem_keys s).2.2 hperm
  rw [ofKindEntries, hsplit, Except.ok_bind]
  -- The tag picks the reader of the options, which finds them in any order.
  cases s with
  | string label options =>
      rw [rearranged_optionMembers hg (.string label options) rfl] at hrest
      change (readString _ >>= _) = _
      rw [readString_eq hrest]
      rfl
  | stringSet label options =>
      rw [rearranged_optionMembers hg (.stringSet label options) rfl] at hrest
      change (readStringSet _ >>= _) = _
      rw [readStringSet_eq hrest]
      rfl
  | integer label options =>
      rw [rearranged_optionMembers hg (.integer label options) rfl] at hrest
      change (readInteger _ >>= _) = _
      rw [readInteger_eq hrest]
      rfl
  | boolean label default =>
      rw [rearranged_optionMembers hg (.boolean label default) rfl] at hrest
      change (readBoolean _ >>= _) = _
      rw [readBoolean_eq hrest]
      rfl
  | aspectMap label keys =>
      rw [rearranged_optionMembers hg (.aspectMap label keys) rfl] at hrest
      change (readBounds _ _ _ >>= _) = _
      rw [readBounds_eq (by decide) hrest]
      rfl
  | object label fields =>
      have hfields := fieldsOfData_eq hg fun field hmem => hparts field.2 (List.mem_map_of_mem hmem)
      change (readObject _ >>= _) = _
      rw [readObject_eq hfields hrest]
      rfl
  | array label element length =>
      rw [optionMembers, rearranged, List.map_cons, ← rearranged,
        rearranged_flat hg flat_boundsMembers] at hrest
      change (readArray _ >>= _) = _
      rw [readArray_eq (hparts element (.head _)) hrest]
      rfl

/-! ## The label -/

/-- The members that belong to the kind of a schema. -/
def kindMembers (members : List (String × Value)) : List (String × Value) :=
  members.filter fun member => member.1 ≠ "name" ∧ member.1 ≠ "required"

/-- A member of an encoded schema has the label's name and requirement under their keys. -/
def Labels (label : Label) (member : String × Value) : Prop :=
  (member.1 = "name" → member.2 = .string label.name) ∧
    (member.1 = "required" → member.2 = .bool label.required)

/-- The draft of a schema after some of its members, the last one in front. -/
def draftOf (label : Label) (seen : List (String × Value)) : Draft where
  name := slot "name" label.name (seen.map (·.1))
  required := slot "required" label.required (seen.map (·.1))
  rest := (kindMembers seen).map entryOf

theorem draftOf_name (seen : List (String × Value)) (value : Value) :
    draftOf label (("name", value) :: seen) =
      { draftOf label seen with name := some label.name } := by
  simp [draftOf, kindMembers]

theorem draftOf_required (seen : List (String × Value)) (value : Value) :
    draftOf label (("required", value) :: seen) =
      { draftOf label seen with required := some label.required } := by
  simp [draftOf, kindMembers]

theorem draftOf_kind (seen : List (String × Value)) {member : String × Value}
    (hname : member.1 ≠ "name") (hrequired : member.1 ≠ "required") :
    draftOf label (member :: seen) =
      { draftOf label seen with rest := entryOf member :: (draftOf label seen).rest } := by
  have hkind : kindMembers (member :: seen) = member :: kindMembers seen :=
    List.filter_cons_of_pos (by simp [hname, hrequired])
  simp [draftOf, hkind, Ne.symm hname, Ne.symm hrequired]

theorem add_draftOf {seen : List (String × Value)} {member : String × Value}
    (hnew : member.1 ∉ seen.map (·.1)) (hlabel : Labels label member) :
    (draftOf label seen).add (entryOf member) = .ok (draftOf label (member :: seen)) := by
  obtain ⟨key, value⟩ := member
  obtain ⟨hname, hrequired⟩ := hlabel
  have hkey : (entryOf (key, value)).key.asKey = .ok (.name key) := rfl
  unfold Draft.add
  rw [hkey, Except.ok_bind]
  split
  · rename_i hkey
    cases hkey
    cases hname rfl
    rw [draftOf_name]
    simp [draftOf, entryOf, hnew]
  · rename_i hkey
    cases hkey
    cases hrequired rfl
    rw [draftOf_required]
    simp [draftOf, entryOf, hnew]
  · rename_i hname hrequired
    rw [draftOf_kind seen (fun h => hname (congrArg Data.Key.name h))
      fun h => hrequired (congrArg Data.Key.name h)]
    rfl

theorem schema_draftOf {members : List (String × Value)} (hname : "name" ∈ members.map (·.1))
    (hrequired : "required" ∈ members.map (·.1)) :
    (draftOf label members).schema =
      ofKindEntries label ((kindMembers members).reverse.map entryOf) := by
  have hname' : slot "name" label.name (members.map (·.1)) = some label.name := if_pos hname
  have hrequired' : slot "required" label.required (members.map (·.1)) = some label.required :=
    if_pos hrequired
  rw [Draft.schema, Draft.label, draftOf, hname', hrequired', List.map_reverse]
  rfl

theorem foldlM_add {members seen : List (String × Value)}
    (hnodup : (members.map (·.1)).Nodup) (hnew : ∀ member ∈ members, member.1 ∉ seen.map (·.1))
    (hlabels : ∀ member ∈ members, Labels label member) :
    (members.map entryOf).foldlM Draft.add (draftOf label seen) =
      .ok (draftOf label (members.reverse ++ seen)) := by
  induction members generalizing seen with
  | nil => rfl
  | cons member members ih =>
      obtain ⟨hother, hnodup⟩ := List.nodup_cons.mp hnodup
      obtain ⟨hunseen, hnew⟩ := List.forall_mem_cons.mp hnew
      obtain ⟨hlabel, hlabels⟩ := List.forall_mem_cons.mp hlabels
      have hnew' : ∀ other ∈ members, other.1 ∉ (member :: seen).map (·.1) := by
        intro other hmem
        rw [List.map_cons, List.mem_cons, not_or]
        exact ⟨fun heq => hother (List.mem_map.mpr ⟨other, hmem, heq⟩), hnew other hmem⟩
      rw [List.map_cons, List.foldlM_cons, add_draftOf hunseen hlabel, Except.ok_bind,
        ih hnodup hnew' hlabels, List.reverse_cons, List.append_assoc, List.singleton_append]

/-- The label and the tag of a schema in front of its options. -/
def allMembers (s : Schema) : List (String × Value) :=
  ("name", .string s.label.name) :: ("required", .bool s.label.required) ::
    ("type", .string s.typeName) :: optionMembers s

theorem toJson_eq_object (s : Schema) : s.toJson = .object (allMembers s) :=
  toJson_eq s

theorem rearranged_allMembers (hg : Rearranges g) (s : Schema) :
    rearranged g (allMembers s) = ("name", .string s.label.name) ::
      ("required", .bool s.label.required) :: ("type", .string s.typeName) ::
        rearranged g (optionMembers s) := by
  simp only [rearranged, allMembers, List.map_cons, hg.string, hg.bool]

theorem labels_of_mem (hg : Rearranges g) (s : Schema) :
    ∀ member ∈ rearranged g (allMembers s), Labels s.label member := by
  intro member hmem
  rw [rearranged_allMembers hg] at hmem
  obtain ⟨hname, hrequired, -⟩ := not_mem_keys (g := g) s
  rcases List.mem_cons.mp hmem with rfl | hmem
  · exact ⟨fun _ => rfl, by simp⟩
  · rcases List.mem_cons.mp hmem with rfl | hmem
    · exact ⟨by simp, fun _ => rfl⟩
    · rcases List.mem_cons.mp hmem with rfl | hmem
      · exact ⟨by simp, by simp⟩
      · have hkey : member.1 ∈ (rearranged g (optionMembers s)).map (·.1) := List.mem_map_of_mem hmem
        exact ⟨fun h => absurd (h ▸ hkey) hname, fun h => absurd (h ▸ hkey) hrequired⟩

theorem kindMembers_allMembers (hg : Rearranges g) (s : Schema) :
    kindMembers (rearranged g (allMembers s)) =
      ("type", .string s.typeName) :: rearranged g (optionMembers s) := by
  obtain ⟨hname, hrequired, -⟩ := not_mem_keys (g := g) s
  have hoptions : kindMembers (rearranged g (optionMembers s)) = rearranged g (optionMembers s) := by
    refine List.filter_eq_self.mpr fun member hmem => ?_
    have hkey : member.1 ∈ (rearranged g (optionMembers s)).map (·.1) := List.mem_map_of_mem hmem
    exact decide_eq_true ⟨fun h => hname (h ▸ hkey), fun h => hrequired (h ▸ hkey)⟩
  rw [rearranged_allMembers hg]
  exact congrArg (List.cons _) hoptions

/-- A schema is read from its members in any order, when the schemas inside it are read back. -/
theorem ofEntries_eq (hg : Rearranges g) (s : Schema)
    (hparts : ∀ part ∈ s.parts, ofData (.ofJson (g part.toJson)) = .ok part)
    (hperm : moved.Perm (rearranged g (allMembers s))) :
    ofEntries (moved.map entryOf) = .ok s := by
  have hkeys : (moved.map (·.1)).Perm ((allMembers s).map (·.1)) :=
    (hperm.map _).trans (.of_eq (keys_rearranged _))
  have hnodup : (moved.map (·.1)).Nodup := hkeys.nodup_iff.mpr (nodup_keys s)
  have hlabels : ∀ member ∈ moved, Labels s.label member := fun member hmem =>
    labels_of_mem hg s member (hperm.mem_iff.mp hmem)
  have hread : (moved.map entryOf).foldlM Draft.add (draftOf s.label []) =
      .ok (draftOf s.label (moved.reverse ++ [])) :=
    foldlM_add hnodup (fun _ _ => List.not_mem_nil) hlabels
  rw [List.append_nil] at hread
  have hmem : ∀ key, key ∈ (allMembers s).map (·.1) → key ∈ moved.reverse.map (·.1) := fun key h => by
    rw [List.map_reverse, List.mem_reverse]
    exact hkeys.mem_iff.mpr h
  have hkind : (kindMembers moved.reverse).reverse.Perm
      (("type", .string s.typeName) :: rearranged g (optionMembers s)) := by
    rw [kindMembers, ← List.filter_reverse, List.reverse_reverse, ← kindMembers_allMembers hg]
    exact hperm.filter _
  rw [ofEntries]
  change ((moved.map entryOf).foldlM Draft.add (draftOf s.label []) >>= _) = _
  rw [hread, Except.ok_bind, schema_draftOf (hmem "name" (.head _)) (hmem "required" (.tail _ (.head _))),
    ofKindEntries_eq hg s hparts hkind]

theorem ofData_rearranged (hg : Rearranges g) (s : Schema) :
    ofData (.ofJson (g s.toJson)) = .ok s := by
  induction s using induction_parts with
  | step s ih =>
      have hnodup : ((allMembers s).map (·.1)).Nodup := nodup_keys s
      obtain ⟨moved, hmoved, hperm⟩ := hg.object _ hnodup
      rw [toJson_eq_object, hmoved, Data.ofJson, ofData, readEntries_ofJsonMembers,
        ofEntries_eq hg s ih hperm]

end Rearranged

theorem ofJson_toJson (s : Schema) : ofJson s.toJson = .ok s :=
  ofData_rearranged rearranges_normalize s

/-! ## Encoded numbers -/

theorem fieldsJson_eq_map (fields : List (String × Schema)) :
    fieldsJson fields = fields.map fun field =>
      .object [("key", .string field.1), ("schema", field.2.toJson)] := by
  induction fields with
  | nil => rfl
  | cons field fields ih => rw [fieldsJson, ih, List.map_cons]

theorem whole_toJson (s : Schema) : s.toJson.Whole := by
  induction s using induction_parts with
  | step s ih =>
      have hoptions : ∀ member ∈ optionMembers s, member.2.Whole := by
        intro member hmem
        cases s with
        | string | stringSet | integer | boolean | aspectMap =>
            exact (flat_optionMembers rfl member hmem).whole
        | object label fields =>
            cases List.mem_singleton.mp hmem
            rw [fieldsJson_eq_map, Value.whole_array]
            intro item hitem
            obtain ⟨field, hfield, rfl⟩ := List.mem_map.mp hitem
            have hschema := ih field.2 (List.mem_map_of_mem hfield)
            simp [hschema]
        | array label element length =>
            rcases List.mem_cons.mp hmem with rfl | hmem
            · exact ih element (.head _)
            · exact (flat_boundsMembers member hmem).whole
      rw [toJson_eq_object, Value.whole_object, allMembers]
      simpa using hoptions

end CommandForms.Schema
