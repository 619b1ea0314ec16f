import CommandForms.Proofs.Dialogue.Validity
import CommandForms.Proofs.Json.Texts

/-!
# Printed values are taken back

The numbers of a built value are integers and its members ascend, so that it is read back from its text.
Being valid as well, it is what its text is resolved to, and nothing is asked.
-/

namespace CommandForms.Dialogue

open CommandForms.Json (Value)

variable {aspects : AspectSet} {s : Schema} {value : Value}

theorem RecordBuilds.ascending {fields : List (String × Schema)} {record built : List (String × Value)}
    (h : RecordBuilds aspects fields record built) (hrecord : Entries.Ascending record) :
    Entries.Ascending built := by
  induction fields generalizing record with
  | nil => exact h ▸ hrecord
  | cons field fields ih =>
      obtain ⟨key, schema⟩ := field
      obtain ⟨value, _, hrest⟩ := h
      exact ih hrest (ascending_addMember hrecord)

/-- What holds of the scalars that are entered, and passes from parts to arrays and to objects whose members
ascend, holds of every built value. -/
theorem of_buildable {p : Value → Prop} (hnull : p .null) (hbool : ∀ b, p (.bool b))
    (hinteger : ∀ n, p (integerValue n)) (hstring : ∀ text, p (.string text))
    (harray : ∀ items, (∀ item ∈ items, p item) → p (.array items))
    (hobject : ∀ members, Entries.Ascending members → (∀ member ∈ members, p member.2) →
      p (.object members))
    (h : Buildable aspects s value) : p value := by
  induction s using Schema.induction generalizing value with
  | string label options =>
      rcases h with ⟨rfl, _⟩ | ⟨text, rfl, _⟩
      · exact hnull
      · exact hstring text
  | stringSet label options =>
      rcases h with ⟨rfl, _⟩ | ⟨members, rfl, _⟩
      · exact hnull
      · refine harray _ fun item hmem => ?_
        obtain ⟨text, _, rfl⟩ := List.mem_map.mp hmem
        exact hstring text
  | integer label options =>
      rcases h with ⟨rfl, _⟩ | ⟨n, rfl, _⟩
      · exact hnull
      · exact hinteger n
  | boolean label default =>
      rcases h with ⟨rfl, _⟩ | ⟨yes, rfl⟩
      · exact hnull
      · exact hbool yes
  | aspectMap label keys =>
      rcases h with ⟨rfl, _⟩ | ⟨counts, rfl, hcounts, _⟩
      · exact hnull
      · refine hobject _ hcounts.ascending fun count hmem => ?_
        obtain ⟨n, hn, _⟩ := hcounts.positive count hmem
        exact hn ▸ hinteger n
  | object label fields ih =>
      rcases h with ⟨rfl, _⟩ | ⟨record, rfl, hrecord⟩
      · exact hnull
      · refine hobject _ (hrecord.ascending List.Pairwise.nil) fun member hmem => ?_
        rcases hrecord.mem_built hmem with hold | ⟨_, schema, hfield, hbuilt⟩
        · cases hold
        · exact ih _ hfield hbuilt
  | array label element length ih =>
      rcases h with ⟨rfl, _⟩ | ⟨items, rfl, hitems, _⟩
      · exact hnull
      · exact harray _ fun item hmem => ih (hitems.each item hmem).2

theorem whole_of_buildable (h : Buildable aspects s value) : value.Whole := by
  apply of_buildable _ _ _ _ _ _ h
  · exact Value.whole_null
  · exact Value.whole_bool
  · exact fun n => Value.whole_integer _
  · exact Value.whole_string
  · exact fun items hitems => Value.whole_array.mpr hitems
  · exact fun members _ hmembers => Value.whole_object.mpr hmembers

theorem ordered_of_buildable (h : Buildable aspects s value) : value.Ordered := by
  apply of_buildable _ _ _ _ _ _ h
  · exact Value.ordered_null
  · exact Value.ordered_bool
  · exact fun n => Value.ordered_number _
  · exact Value.ordered_string
  · exact fun items hitems => Value.ordered_array.mpr hitems
  · exact fun members hascending hmembers => Value.ordered_object.mpr ⟨hascending, hmembers⟩

/-- The text of a built value gives the value, and nothing is asked. -/
theorem resolveTurn_text (hkeys : s.Everywhere Schema.DistinctKeys)
    (hdefaults : s.Everywhere Schema.DefaultFits) (h : Buildable aspects s value)
    (hdepth : value.depth < Json.depthLimit) : resolveTurn value.text s aspects = .done value := by
  have hwhole := whole_of_buildable h
  have hparse := Value.parse_text hwhole (ordered_of_buildable h) hdepth
  have hvalid : validate value s aspects = .ok () := check_of_buildable hkeys hdefaults h
  have hread : readArguments value.text s aspects = .ok value :=
    readArguments_eq_ok_iff.mpr ⟨Value.parse_trim hparse, hvalid⟩
  rw [resolveTurn, hread]

end CommandForms.Dialogue
