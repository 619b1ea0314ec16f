import CommandForms.Catalog.Encode
import CommandForms.Catalog.Read
import CommandForms.Proofs.Schema.Text

/-!
# Texts of commands and of catalog documents are read back

Commands and catalog documents are records of texts, of schemas and of lists.  A text that is not nested too
deeply gives the command, or the document, that wrote it.
-/

namespace CommandForms

open CommandForms.Json
open CommandForms.Schema (textsJson optionalMember slot getD_slot mem_optionalMember keys_optionalMember)

variable {rest : List Char} {depth : Nat}

/-! ## Commands -/

namespace Command

def members (command : Command) : List (String × Value) :=
  [("name", .string command.name)] ++ optionalMember "description" Value.string command.description ++
    [("schema", command.schema.toJson)]

theorem toJson_eq (command : Command) : command.toJson = .object command.members := rfl

theorem keys_members (command : Command) : (command.members.map (·.1)).Sublist fields := by
  rw [members, List.map_append, List.map_append]
  exact ((List.Sublist.refl _).append (keys_optionalMember _ _ _)).append (.refl _)

theorem mem_members {command : Command} {member : String × Value} :
    member ∈ command.members ↔ member = ("name", .string command.name) ∨
      (∃ text, command.description = some text ∧ member = ("description", .string text)) ∨
      member = ("schema", command.schema.toJson) := by
  simp [members, mem_optionalMember]

theorem whole_toJson (command : Command) : command.toJson.Whole := by
  rw [toJson_eq, Value.whole_object]
  intro member hmem
  rcases mem_members.mp hmem with rfl | ⟨text, -, rfl⟩ | rfl
  · exact Value.whole_string _
  · exact Value.whole_string text
  · exact Schema.whole_toJson _

/-- The draft of a command after some of its fields. -/
def draftOf (command : Command) (seen : List String) : Draft where
  name := slot "name" command.name seen
  description := (slot "description" command.description seen).getD none
  schema := slot "schema" command.schema seen

theorem yields_set {command : Command} {member : String × Value} (hmem : member ∈ command.members)
    (hdepth : member.2.depth < depth) (seen : List String) :
    Yields (read.set depth (command.draftOf seen) member.1 (member.2.chars ++ rest))
      (command.draftOf (member.1 :: seen)) rest := by
  rcases mem_members.mp hmem with rfl | ⟨text, htext, rfl⟩ | rfl
  · have hdraft : command.draftOf ("name" :: seen) =
        { command.draftOf seen with name := some command.name } := by simp [draftOf]
    rw [hdraft]
    exact (yields_readText _).map _
  · have hdraft : command.draftOf ("description" :: seen) =
        { command.draftOf seen with description := some text } := by simp [draftOf, htext]
    rw [hdraft]
    exact (yields_readOption_text _).map _
  · have hdraft : command.draftOf ("schema" :: seen) =
        { command.draftOf seen with schema := some command.schema } := by simp [draftOf]
    rw [hdraft]
    exact (Schema.yields_read hdepth).map _

theorem command_draftOf {command : Command} {seen : List String}
    (hseen : ∀ key, key ∈ seen ↔ key ∈ command.members.map (·.1)) :
    (command.draftOf seen).command = .ok command := by
  have hname : slot "name" command.name seen = some command.name :=
    if_pos ((hseen "name").mpr (by simp [members]))
  have hschema : slot "schema" command.schema seen = some command.schema :=
    if_pos ((hseen "schema").mpr (by simp [members]))
  have hdescription : (slot "description" command.description seen).getD none = command.description :=
    getD_slot hseen (by simp [members])
  rw [draftOf, hname, hschema, hdescription]
  rfl

theorem yields_read {command : Command} (hdepth : command.toJson.depth < depth) :
    Yields (read depth (command.toJson.chars ++ rest)) command rest := by
  have hnodup : (command.members.map (·.1)).Nodup :=
    List.Nodup.sublist command.keys_members (by decide)
  refine yields_readRecord command.draftOf hdepth hnodup ?_ ?_ ?_
  · intro member hmem
    exact command.keys_members.subset (List.mem_map_of_mem hmem)
  · intro member hmem seen inner after hmember _
    exact yields_set hmem hmember seen
  · exact command_draftOf fun key => List.mem_reverse

theorem parse_text {command : Command} (h : command.toJson.depth < depthLimit) :
    parse command.text = .ok command :=
  readAll_eq_ok fun _ _ => yields_read h

end Command

/-! ## Documents -/

namespace Catalog.Document

/-- The members of an encoded document. -/
def members (document : Document) : List (String × Value) :=
  [("version", .string document.version), ("aspects", textsJson document.aspects),
    ("commands", .array (document.commands.map Command.toJson))]

theorem toJson_eq (document : Document) : document.toJson = .object document.members := rfl

/-- The document after some of its fields, the others at their defaults. -/
def draftOf (document : Document) (seen : List String) : Document where
  version := (slot "version" document.version seen).getD "1.0"
  aspects := (slot "aspects" document.aspects seen).getD []
  commands := (slot "commands" document.commands seen).getD []

theorem yields_set {document : Document} {member : String × Value} (hmem : member ∈ document.members)
    (hdepth : member.2.depth < depth) (seen : List String) :
    Yields (read.set depth (document.draftOf seen) member.1 (member.2.chars ++ rest))
      (document.draftOf (member.1 :: seen)) rest := by
  simp only [members, List.mem_cons, List.not_mem_nil, or_false] at hmem
  rcases hmem with rfl | rfl | rfl
  · have hdraft : document.draftOf ("version" :: seen) =
        { document.draftOf seen with version := document.version } := by simp [draftOf]
    rw [hdraft]
    exact (yields_readText _).map _
  · have hdraft : document.draftOf ("aspects" :: seen) =
        { document.draftOf seen with aspects := document.aspects } := by simp [draftOf]
    rw [hdraft]
    exact (yields_readTexts hdepth).map _
  · have hdraft : document.draftOf ("commands" :: seen) =
        { document.draftOf seen with commands := document.commands } := by simp [draftOf]
    have hcommands : Yields (readList depth Command.read
        ((Value.array (document.commands.map Command.toJson)).chars ++ rest)) document.commands rest :=
      yields_readList hdepth (fun command _ => command.whole_toJson)
        fun command _ inner after hcommand _ => Command.yields_read hcommand
    rw [hdraft]
    exact hcommands.map _

theorem yields_read {document : Document} (hdepth : document.toJson.depth < depth) :
    Yields (read depth (document.toJson.chars ++ rest)) document rest := by
  have hdraft : document.draftOf (document.members.map (·.1)).reverse = document := by
    simp [draftOf, members, slot]
  refine yields_readRecord document.draftOf hdepth (by simp) ?_ ?_ (congrArg Except.ok hdraft)
  · intro member hmem
    exact List.mem_map_of_mem hmem
  · intro member hmem seen inner after hmember _
    exact yields_set hmem hmember seen

theorem parse_text {document : Document} (h : document.toJson.depth < depthLimit) :
    parse document.text = .ok document :=
  readAll_eq_ok fun _ _ => yields_read h

end Catalog.Document

/-! ## All encodings -/

namespace Catalog

/-- A schema, a command or a catalog document is read back from its text when at most 127 arrays and objects
are nested in that, a schema also from its JSON form, however deep that is, and different schemas have
different texts. -/
theorem encodings_are_read_back :
    (∀ s : Schema, s.toJson.depth ≤ 127 → Schema.parse s.text = .ok s) ∧
    (∀ s : Schema, Schema.ofJson s.toJson = .ok s) ∧
    (∀ command : Command, command.toJson.depth ≤ 127 → Command.parse command.text = .ok command) ∧
    (∀ document : Document, document.toJson.depth ≤ 127 →
      Document.parse document.text = .ok document) ∧
    ∀ s s' : Schema, s.text = s'.text → s = s' := by
  refine ⟨?_, Schema.ofJson_toJson, ?_, ?_, fun _ _ => Schema.eq_of_text_eq⟩
  · intro s hdepth
    exact Schema.parse_text (Nat.lt_succ_of_le hdepth)
  · intro command hdepth
    exact Command.parse_text (Nat.lt_succ_of_le hdepth)
  · intro document hdepth
    exact Document.parse_text (Nat.lt_succ_of_le hdepth)

/-- A schema of every kind, with the least and the greatest options and with defaults that are empty. -/
def extremes : Schema :=
  .object ⟨"", false⟩ [
    ("", .string ⟨"text", true⟩ { default := some "" }),
    ("texts", .stringSet ⟨"texts", true⟩ {
      default := some [], count := ⟨some 0, some 18446744073709551615⟩ }),
    ("number", .integer ⟨"number", true⟩ ⟨some Int64.minValue, some Int64.maxValue, some 0⟩),
    ("flag", .boolean ⟨"flag", false⟩ (some false)),
    ("none", .array ⟨"none", true⟩ (.boolean ⟨"flag", true⟩ none) {}),
    ("aspects", .aspectMap ⟨"aspects", true⟩ ⟨none, some 0⟩)]

/-- A catalog document with a single command of extreme arguments. -/
def extremesDocument : Document :=
  ⟨"", ["winter"], [⟨"extremes", some "", extremes⟩]⟩

theorem encodings_are_read_back_extremes :
    (extremes.toJson.depth ≤ 127 ∧ Schema.parse extremes.text = .ok extremes) ∧
    Schema.ofJson extremes.toJson = .ok extremes ∧
    (extremesDocument.toJson.depth ≤ 127 ∧
      Document.parse extremesDocument.text = .ok extremesDocument) := by
  obtain ⟨hparse, hofJson, -, hdocument, -⟩ := encodings_are_read_back
  have hdepth : extremes.toJson.depth ≤ 127 := by decide
  have hdepth' : extremesDocument.toJson.depth ≤ 127 := by decide
  exact ⟨⟨hdepth, hparse _ hdepth⟩, hofJson _, hdepth', hdocument _ hdepth'⟩

end Catalog

end CommandForms
