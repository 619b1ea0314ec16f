import CommandForms.Proofs.Dialogue.Validity

/-!
# The screen of a conversation

A conversation for a schema keeps to its own lines: what the screen held before stays below them, every
erasure asks for lines that the conversation wrote, and one line is left in the end.  The conversation
that resolves argument text writes at most one line more, the reason why the text was refused.
-/

namespace CommandForms.Dialogue

open CommandForms.Json (Value)

variable {aspects : AspectSet} {s : Schema} {raw reason : String} {value : Value} {t t₁ : Terminal}

/-- The construction of a value is orderly on a terminal, and it leaves the line that shows the value. -/
def ConstructsInOrder (aspects : AspectSet) (s : Schema) (t : Terminal) : Prop :=
  Orderly aspects t.screen (fun value screen => screen = t.screen ++ [valueLine s.name value])
    (constructTurn aspects s) t

theorem Orderly.weaken {base : List String} {Q Q' : Value → List String → Prop} {turn : Turn}
    (h : Orderly aspects base Q turn t) (hQ : ∀ value screen, Q value screen → Q' value screen) :
    Orderly aspects base Q' turn t :=
  ⟨h.calls, fun value t' hrun => hQ value _ (h.finished value t' hrun), h.interrupted⟩

theorem constructsInOrder (hs : s.checkDelimiters = .ok ()) (aspects : AspectSet) (t : Terminal) :
    ConstructsInOrder aspects s t :=
  (orderly_constructTurn hs aspects t).weaken fun _ _ h => h.2

/-! ## Resolving -/

theorem resolve_of_accepted (h : readArguments raw s aspects = .ok value) :
    resolve raw s aspects t = (.ok value, t) := by
  unfold resolve resolveTurn
  rw [h]
  exact Turn.run_of_ending? rfl

theorem resolve_of_blank (h : readArguments raw s aspects = .error none) :
    resolve raw s aspects t = construct s aspects t := by
  unfold resolve resolveTurn
  rw [h]
  rfl

/-- Argument text that is refused is resolved by a construction behind the line with the reason. -/
theorem resolve_of_refused (h : readArguments raw s aspects = .error (some reason)) :
    resolve raw s aspects t =
      Turn.runAfter aspects (Turn.goOn (fun _ => constructTurn aspects s) (t.writeLine reason)) := by
  unfold resolve resolveTurn
  rw [h]
  exact Turn.run_of_call? rfl

theorem resolve_of_reason (h : readArguments raw s aspects = .error (some reason))
    (hwrite : t.writeLine reason = (.ok (), t₁)) :
    resolve raw s aspects t = construct s aspects t₁ := by
  rw [resolve_of_refused h, hwrite]
  rfl

theorem resolve_of_no_reason {i : Interruption}
    (h : readArguments raw s aspects = .error (some reason))
    (hwrite : t.writeLine reason = (.error i, t₁)) :
    resolve raw s aspects t = (.error (.interrupted i), t₁) := by
  rw [resolve_of_refused h, hwrite]
  rfl

/-- On every terminal a construction finds, before each of its calls, the earlier screen and then exactly
the lines that it counts, never erases more of them, and leaves the one line that shows the value; when it
is interrupted, the earlier screen is still there.  Resolving argument text makes no call when the text
gives a valid value, and constructs in the same order otherwise, behind the one line with the reason when
the text was refused. -/
theorem screen_discipline (hdelimiters : s.checkDelimiters = .ok ()) (aspects : AspectSet)
    (t : Terminal) :
    ConstructsInOrder aspects s t ∧
    ∀ raw,
      match readArguments raw s aspects with
      | .ok value => resolve raw s aspects t = (.ok value, t)
      | .error none => resolve raw s aspects t = construct s aspects t
      | .error (some reason) =>
          (∀ i t₁, t.writeLine reason = (.error i, t₁) →
            resolve raw s aspects t = (.error (.interrupted i), t₁) ∧ t₁.screen = t.screen) ∧
          ∀ t₁, t.writeLine reason = (.ok (), t₁) →
            resolve raw s aspects t = construct s aspects t₁ ∧
            t₁.screen = t.screen ++ [reason] ∧ ConstructsInOrder aspects s t₁ := by
  refine ⟨constructsInOrder hdelimiters aspects t, fun raw => ?_⟩
  split
  · rename_i value hread
    exact resolve_of_accepted hread
  · rename_i hread
    exact resolve_of_blank hread
  · rename_i reason hread
    constructor
    · intro i t₁ hwrite
      exact ⟨resolve_of_no_reason hread hwrite, Terminal.screen_writeLine_error hwrite⟩
    · intro t₁ hwrite
      exact ⟨resolve_of_reason hread hwrite, Terminal.screen_writeLine hwrite,
        constructsInOrder hdelimiters aspects t₁⟩

theorem screen_discipline_hero :
    heroSchema.checkDelimiters = .ok () ∧
      (construct heroSchema .empty { unread := ["", "7"], log := [.wrote "welcome"] }).2.screen =
        ["welcome", "hero: " ++ heroValue.render] := by
  have hdelimiters : heroSchema.checkDelimiters = .ok () := rfl
  have hrun : (construct heroSchema .empty { unread := ["", "7"], log := [.wrote "welcome"] }).1 =
      .ok heroValue := congrArg Prod.fst (Turn.run_eq_of_makeCalls 8 rfl)
  refine ⟨hdelimiters, ?_⟩
  exact (screen_discipline hdelimiters .empty _).1.finished heroValue _ (Prod.ext hrun rfl)

end CommandForms.Dialogue
