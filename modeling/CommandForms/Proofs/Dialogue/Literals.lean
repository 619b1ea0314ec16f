import CommandForms.Proofs.Dialogue.Replies
import CommandForms.Proofs.Dialogue.Screen
import CommandForms.Proofs.Json.Padding
import CommandForms.Proofs.Json.Texts

/-!
# Literals

A text is a literal for a schema when it is read as a valid value.  The texts that are resolved to a value
without a call are the literals behind trimming, since building a value takes a call.
-/

namespace CommandForms.Dialogue

open CommandForms.Json (Value)

variable {aspects : AspectSet} {s : Schema} {value : Value} {turn : Turn} {t t' : Terminal}
  {raw reason : String}

/-! ## Conversations without a call -/

theorem Turn.calls_of_call? {outcome : Terminal.Outcome Turn} (h : turn.call? aspects t = some outcome) :
    outcome.2.calls = t.calls + 1 := by
  have hgoOn : ∀ {α : Type} (next : α → Turn) (r : Terminal.Outcome α), (goOn next r).2 = r.2 := by
    rintro α next ⟨r, t₁⟩
    cases r <;> rfl
  cases turn with
  | done | abort => cases h
  | write text =>
      cases h
      exact (congrArg _ (hgoOn _ _)).trans ((Call.write text).calls_perform t)
  | erase lines mark =>
      cases h
      exact (congrArg _ (hgoOn _ _)).trans ((Call.erase (lines - mark)).calls_perform t)
  | confirm prompt default =>
      cases h
      exact (congrArg _ (hgoOn _ _)).trans ((Call.confirm prompt default).calls_perform t)
  | ask question =>
      cases h
      exact (congrArg _ (hgoOn _ _)).trans ((Call.read question.prompt question.source?).calls_perform t)

theorem Turn.Reaches.calls_le {before after : Turn × Terminal} (h : Turn.Reaches aspects before after) :
    before.2.calls ≤ after.2.calls := by
  induction h with
  | refl => exact Nat.le_refl _
  | tail _ hcall ih =>
      rw [show _ = _ from Turn.calls_of_call? hcall]
      exact Nat.le_succ_of_le ih

/-- A conversation that ends with a value and makes no call has ended from the start. -/
theorem Turn.eq_done_of_calls_eq (h : turn.run aspects t = (.ok value, t')) (hcalls : t'.calls = t.calls) :
    turn = .done value := by
  rcases Relation.ReflTransGen.cases_head (Turn.reaches_of_run h) with heq | ⟨after, hcall, hrest⟩
  · cases heq
    rfl
  · have hcount : after.2.calls = t.calls + 1 := Turn.calls_of_call? hcall
    have hle : after.2.calls ≤ t'.calls := Turn.Reaches.calls_le hrest
    omega

theorem framed_ne_done {label : Label} {lines : Nat} {resume : Value → Nat → Turn}
    {kind : Nat → (Value → Nat → Turn) → Turn}
    (h : ∀ n, kind n (commit label.name lines resume) ≠ .done value) :
    framed label lines resume kind ≠ .done value := by
  unfold framed
  dsimp only
  split
  · exact h _
  · exact nofun

theorem withSource_ne_done {options : List String} {pattern : Option String}
    {next : CompletionSource → Turn} (h : ∀ source, next source ≠ .done value) :
    withSource options pattern next ≠ .done value := by
  unfold withSource
  split
  · exact h _
  · exact nofun

theorem constructField_ne_done (lines : Nat) (resume : Value → Nat → Turn) :
    constructField aspects s lines resume ≠ .done value := by
  induction s using Schema.induction generalizing lines resume with
  | string | stringSet =>
      rw [constructField]
      refine framed_ne_done fun _ => withSource_ne_done fun _ h => ?_
      cases h
  | integer | boolean | aspectMap | array =>
      rw [constructField]
      refine framed_ne_done fun _ h => ?_
      cases h
  | object label fields ih =>
      rw [constructField]
      refine framed_ne_done fun n => ?_
      change constructFields aspects fields [] n _ ≠ _
      cases fields with
      | nil =>
          rw [constructFields]
          intro h
          cases h
      | cons field fields =>
          rw [constructFields]
          exact ih field (.head _) _ _

/-! ## What is said of a text -/

/-- Why a text that is not blank is refused: it is not read, or its value is not valid. -/
inductive Refusal (aspects : AspectSet) (s : Schema) (raw : String) : String → Prop
  | unreadable {e : Json.ReadError} (hparse : Value.parse (Text.trim raw) = .error e) :
      Refusal aspects s raw ("could not parse input: " ++ e.message)
  | invalid {value : Value} {e : Validation.Error} (hparse : Value.parse (Text.trim raw) = .ok value)
      (hvalid : validate value s aspects = .error e) :
      Refusal aspects s raw ("invalid " ++ s.name ++ ": " ++ e.message)

theorem exists_refusal (hraw : Text.trim raw ≠ "")
    (hrefused : ∀ value, Value.parse (Text.trim raw) = .ok value → validate value s aspects ≠ .ok ()) :
    ∃ reason, Refusal aspects s raw reason ∧ readArguments raw s aspects = .error (some reason) := by
  have hfilled : ¬ (Text.trim raw).isEmpty = true := by simpa using hraw
  unfold readArguments
  dsimp only
  rw [if_neg hfilled]
  cases hparse : Value.parse (Text.trim raw) with
  | error e => exact ⟨_, .unreadable hparse, rfl⟩
  | ok value =>
      dsimp only
      cases hvalid : validate value s aspects with
      | error e => exact ⟨_, .invalid hparse hvalid, rfl⟩
      | ok => exact absurd hvalid (hrefused value hparse)

/-- A value that a text is resolved to without a call is read from the text behind trimming, and valid. -/
theorem literal_of_silent (h : resolve raw s aspects t = (.ok value, t')) (hcalls : t'.calls = t.calls) :
    Value.parse (Text.trim raw) = .ok value ∧ validate value s aspects = .ok () := by
  have hturn : resolveTurn raw s aspects = .done value := Turn.eq_done_of_calls_eq h hcalls
  unfold resolveTurn at hturn
  split at hturn
  · rename_i hread
    cases hturn
    exact readArguments_eq_ok_iff.mp hread
  · exact absurd hturn (constructField_ne_done 0 _)
  · cases hturn

end CommandForms.Dialogue
