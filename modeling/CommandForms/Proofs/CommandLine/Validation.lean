import CommandForms.CommandLine.Run
import CommandForms.Proofs.Catalog.Merge
import CommandForms.Proofs.Dialogue.Literals

/-!
# Validated texts

Validating a text as it stands and resolving it, which trims it first, agree on which texts are literals and
on their values, as long as the blanks at the ends of the text are space.
-/

namespace CommandForms.CommandLine

open CommandForms.Dialogue
open CommandForms.Json (Value SpacedEnds)

theorem ofResult_error_ne (complaint : Complaint) (lines : List String) :
    Outcome.ofResult (.error complaint) ≠ .ofLines lines := fun h => by
  cases congrArg Outcome.complaint h

/-- Validating a text against the schema of a command says that it is valid exactly when it is read as a
valid value. -/
theorem run_validate_iff {files : Files} {path name input : String} {lines : List String}
    {catalog : Catalog} {command : Command} (hcatalog : loadCatalog files path = .ok catalog)
    (hcommand : requireCommand catalog name = .ok command) :
    (Invocation.validate path name input).run files lines = .ofLines ["valid"] ↔
      ∃ value, Value.parse input = .ok value ∧
        validate value command.schema catalog.aspects = .ok () := by
  change Outcome.ofResult (validateInput files path name input) = _ ↔ _
  rw [validateInput, hcatalog, Except.ok_bind, hcommand, Except.ok_bind]
  cases hparse : Value.parse input with
  | error e =>
      refine ⟨fun h => absurd h (ofResult_error_ne (.unreadableInput e) _), ?_⟩
      rintro ⟨_, heq, _⟩
      cases heq
  | ok value =>
      change Outcome.ofResult (_ >>= fun _ => Except.ok ["valid"]) = _ ↔ _
      cases hvalid : validate value command.schema catalog.aspects with
      | error e =>
          refine ⟨fun h => absurd h (ofResult_error_ne (.invalidInput command.schema.name e) _), ?_⟩
          rintro ⟨_, heq, hvalid'⟩
          cases heq
          cases hvalid.symm.trans hvalid'
      | ok => exact ⟨fun _ => ⟨value, rfl, hvalid⟩, fun _ => rfl⟩

/-- A text that is read as a valid value, so that validating it says so, is resolved to that value without a
call.  When the blanks at the ends of a text are space, it is resolved without a call only to a value that
it is read as, and that is valid.  A text that is not blank and no literal is resolved by a construction
behind the one line that says why. -/
theorem literals_are_resolved (aspects : AspectSet) (s : Schema) (raw : String) :
    (∀ value, Value.parse raw = .ok value → validate value s aspects = .ok () →
      ∀ t, resolve raw s aspects t = (.ok value, t)) ∧
    (SpacedEnds raw → ∀ t value t', resolve raw s aspects t = (.ok value, t') → t'.calls = t.calls →
      Value.parse raw = .ok value ∧ validate value s aspects = .ok ()) ∧
    (Text.trim raw ≠ "" →
      (∀ value, Value.parse (Text.trim raw) = .ok value → validate value s aspects ≠ .ok ()) →
      ∃ reason, Refusal aspects s raw reason ∧ ∀ t, resolve raw s aspects t =
        match t.writeLine reason with
        | (.ok (), t₁) => construct s aspects t₁
        | (.error i, t₁) => (.error (.interrupted i), t₁)) ∧
    ∀ files path name lines catalog command, loadCatalog files path = .ok catalog →
      requireCommand catalog name = .ok command → command.schema = s → catalog.aspects = aspects →
      ((Invocation.validate path name raw).run files lines = .ofLines ["valid"] ↔
        ∃ value, Value.parse raw = .ok value ∧ validate value s aspects = .ok ()) := by
  refine ⟨?_, ?_, ?_, ?_⟩
  · intro value hparse hvalid t
    exact resolve_of_accepted (readArguments_eq_ok_iff.mpr ⟨Value.parse_trim hparse, hvalid⟩)
  · intro hspaced t value t' h hcalls
    obtain ⟨hparse, hvalid⟩ := literal_of_silent h hcalls
    exact ⟨Value.parse_of_trim hspaced hparse, hvalid⟩
  · intro hraw hrefused
    obtain ⟨reason, hreason, hread⟩ := exists_refusal hraw hrefused
    refine ⟨reason, hreason, fun t => ?_⟩
    split
    · rename_i hwrite
      exact resolve_of_reason hread hwrite
    · rename_i hwrite
      exact resolve_of_no_reason hread hwrite
  · rintro files path name lines catalog command hcatalog hcommand rfl rfl
    exact run_validate_iff hcatalog hcommand

def levelSchema : Schema :=
  .integer ⟨"level", true⟩ { min := some 1, max := some 99 }

/-- A catalog with a command for a level. -/
def levelDocument : Catalog.Document :=
  { commands := [⟨"raise", none, levelSchema⟩] }

def levelFiles : Files :=
  .ofFindings [("levels.json", .ok (.file levelDocument.text.toByteArray))]

/-- A level with space around it is valid and resolved as it stands, and one that is too high is asked for
again. -/
theorem literals_are_resolved_level :
    (SpacedEnds " 7\n" ∧ Value.parse " 7\n" = .ok (integerValue 7) ∧
      validate (integerValue 7) levelSchema .empty = .ok () ∧
      (∀ t, resolve " 7\n" levelSchema .empty t = (.ok (integerValue 7), t)) ∧
      (Invocation.validate "levels.json" "raise" " 7\n").run levelFiles [] = .ofLines ["valid"]) ∧
    ∃ reason, Refusal .empty levelSchema "100" reason ∧
      resolve "100" levelSchema .empty { unread := ["42"] } =
        construct levelSchema .empty (Terminal.writeLine reason { unread := ["42"] }).2 := by
  have hparse : ∀ n : Int64, Value.parse (integerValue n).text = .ok (integerValue n) := fun n =>
    Value.parse_text (Value.whole_integer _) (Value.ordered_number _) (Nat.zero_lt_succ _)
  have hspaced : SpacedEnds " 7\n" :=
    ⟨[' '], ['\n'], rfl, List.forall_mem_singleton.mpr rfl, List.forall_mem_singleton.mpr rfl⟩
  have hseven : Value.parse " 7\n" = .ok (integerValue 7) := Value.parse_of_trim hspaced (hparse 7)
  have hload : Catalog.load levelFiles "levels.json" = .ok _ :=
    Catalog.load_of_document levelDocument rfl (by decide) (by decide) rfl
  have hcatalog : loadCatalog levelFiles "levels.json" = .ok _ := congrArg (Except.mapError _) hload
  obtain ⟨haccepted, hsilent, -, hvalidates⟩ := literals_are_resolved .empty levelSchema " 7\n"
  have hresolve := haccepted _ hseven rfl
  obtain ⟨hread, hvalid⟩ := hsilent hspaced { unread := [] } _ _ (hresolve _) rfl
  have hsays := (hvalidates _ _ "raise" [] _ ⟨"raise", none, levelSchema⟩ hcatalog rfl rfl rfl).mpr
    ⟨_, hread, hvalid⟩
  obtain ⟨-, -, hrefused, -⟩ := literals_are_resolved .empty levelSchema "100"
  obtain ⟨reason, hreason, hasked⟩ := hrefused (by decide) fun value hvalue => by
    cases (hparse 100).symm.trans hvalue
    exact nofun
  exact ⟨⟨hspaced, hread, hvalid, hresolve, hsays⟩, reason, hreason, hasked _⟩

end CommandForms.CommandLine
