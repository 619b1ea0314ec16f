import CommandForms.Proofs.Json.Shaped
import CommandForms.Proofs.Schema.RoundTrip
import CommandForms.Schema.Read

/-!
# Texts of schemas are read back

The outermost object of a schema is read as it comes, and what belongs to its kind as untyped data.  A text
that is not nested too deeply gives the schema that wrote it.
-/

namespace CommandForms.Schema

open CommandForms.Json

variable {α : Type} {rest : List Char}

theorem yields_readOnce {field : String} {cs : List Char} {a : α}
    {read : (ds : List Char) → Reading α ds} (hread : Yields (read cs) a rest) :
    Yields (readOnce field none (':' :: cs) read) a rest := by
  obtain ⟨hle, hcolon⟩ := readColon_eq cs
  unfold readOnce
  rw [if_neg (by simp), hcolon]
  exact hread.extend hle

/-- Reads a member of the outermost object of a schema into the draft. -/
def readMember (depth : Nat) (draft : Draft) (key : String) (ds : List Char) : Reading Draft ds := do
  match key with
  | "name" =>
      return (← readOnce key draft.name ds readText).map fun name => { draft with name := some name }
  | "required" =>
      return (← readOnce key draft.required ds readBool).map fun required =>
        { draft with required := some required }
  | key =>
      let ⟨rest, h⟩ ← readColon ds
      let value ← readValue depth rest
      let data := Data.ofJson value.value
      let entry : Entry := ⟨.text key, data, ofData data, fieldsOfData data⟩
      return (value.map fun _ => { draft with rest := entry :: draft.rest }).extend h

theorem yields_readMember {label : Label} {depth : Nat} {seen : List (String × Value)}
    {member : String × Value} (hnew : member.1 ∉ seen.map (·.1)) (hlabel : Labels label member)
    (hwhole : member.2.Whole) (hdepth : member.2.depth < depth) (hends : EndsNumber rest) :
    Yields (readMember depth (draftOf label seen) member.1 (':' :: (member.2.chars ++ rest)))
      (draftOf label (member :: seen)) rest := by
  obtain ⟨key, value⟩ := member
  obtain ⟨hname, hrequired⟩ := hlabel
  unfold readMember
  split
  · rename_i heq
    cases heq
    cases hname rfl
    have hnone : (draftOf label seen).name = none := if_neg hnew
    rw [hnone, draftOf_name]
    exact (yields_readOnce (yields_readText _)).map _
  · rename_i heq
    cases heq
    cases hrequired rfl
    have hnone : (draftOf label seen).required = none := if_neg hnew
    rw [hnone, draftOf_required]
    exact (yields_readOnce (yields_readBool _)).map _
  · rename_i hname hrequired
    obtain ⟨hle, hcolon⟩ := readColon_eq (value.chars ++ rest)
    rw [draftOf_kind _ hname hrequired, hcolon, Except.ok_bind]
    refine (yields_readValue hwhole hdepth hends).bind fun hread => ?_
    exact .intro _ _

theorem yields_draft (s : Schema) {inner : Nat}
    (hdepth : ∀ member ∈ allMembers s, member.2.depth < inner) :
    Yields (foldMembers true ({} : Draft) (Value.membersChars (allMembers s) ++ '\x7d' :: rest)
      fun draft key ds _ => readMember inner draft key ds)
      (draftOf s.label (allMembers s).reverse) rest := by
  have hwhole : ∀ member ∈ allMembers s, member.2.Whole := by
    rw [← Value.whole_object, ← toJson_eq_object]
    exact whole_toJson s
  have hlabels : ∀ member ∈ allMembers s, Labels s.label member := by
    have hrearranged := labels_of_mem rearranges_id s
    rwa [rearranged_id] at hrearranged
  refine yields_foldMembers (fun before => draftOf s.label before.reverse)
    (by rw [Value.membersChars_eq]) ?_
  intro before member later hmembers after _ hends
  have hmem : member ∈ allMembers s := hmembers ▸ List.mem_append_cons_self
  have hnew : member.1 ∉ before.reverse.map (·.1) := by
    rw [List.map_reverse, List.mem_reverse]
    exact key_not_mem_before hmembers (nodup_keys s)
  rw [List.reverse_concat]
  exact yields_readMember hnew (hlabels member hmem) (hwhole member hmem) (hdepth member hmem) hends

theorem yields_read {s : Schema} {depth : Nat} (hdepth : s.toJson.depth < depth) :
    Yields (read depth (s.toJson.chars ++ rest)) s rest := by
  rw [toJson_eq_object] at hdepth
  obtain ⟨inner, rfl, hinside⟩ := Value.exists_inside_object hdepth
  have hschema : (draftOf s.label (allMembers s).reverse).schema = .ok s := by
    have hkind : (kindMembers (allMembers s).reverse).reverse =
        ("type", .string s.typeName) :: optionMembers s := by
      rw [kindMembers, ← List.filter_reverse, List.reverse_reverse, ← kindMembers]
      have hrearranged := kindMembers_allMembers rearranges_id s
      rwa [rearranged_id, rearranged_id] at hrearranged
    have hparts : ∀ part ∈ s.parts, ofData (.ofJson (id part.toJson)) = .ok part :=
      fun part _ => ofData_rearranged rearranges_id part
    rw [schema_draftOf (by simp [allMembers]) (by simp [allMembers]), hkind]
    exact ofKindEntries_eq rearranges_id s hparts (.of_eq (by rw [rearranged_id]))
  rw [toJson_eq_object, Value.chars, List.append_assoc, List.cons_append, List.singleton_append]
  unfold read
  refine (yields_readStart (by decide) (by decide)).bind fun hstart => ?_
  refine (yields_draft s hinside).bind fun hdraft => ?_
  simp only [hschema]
  exact .intro _ s

theorem parse_text {s : Schema} (h : s.toJson.depth < depthLimit) : parse s.text = .ok s :=
  readAll_eq_ok fun _ _ => yields_read h

theorem eq_of_text_eq {s s' : Schema} (h : s.text = s'.text) : s = s' := by
  have hjson : s.toJson = s'.toJson :=
    Value.eq_of_chars_eq (whole_toJson s) (whole_toJson s') (String.ofList_injective h)
  have hread := ofJson_toJson s
  rw [hjson, ofJson_toJson s'] at hread
  cases hread
  rfl

end CommandForms.Schema
