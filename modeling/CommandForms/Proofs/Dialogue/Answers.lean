import CommandForms.Proofs.Dialogue.Buildable
import CommandForms.Proofs.Dialogue.Script
import CommandForms.Proofs.Numeral.Integer
import CommandForms.Proofs.Text.Blank

/-!
# Lines that answer a question

For each kind of answer a line to type for it, and the proof that the line means that answer: a text, an
integer, a word for an action, a yes or a no.
-/

namespace CommandForms.Dialogue

open CommandForms.Json (Value Number)
open CommandForms.Validation (admits)
open CommandForms.Numeral (integerText integerChars)

variable {aspects : AspectSet} {source : CompletionSource} {text : String}

/-! ## Texts -/

/-- A text that can be entered among options: it is not empty, trimming leaves it as it is, and no other
option equals it when case is set aside. -/
structure Enterable (options : List String) (text : String) : Prop where
  nonempty : text ≠ ""
  trimmed : Text.trim text = text
  alone : ∀ option ∈ options, Text.lowercase option = Text.lowercase text → option = text

/-- The line to type for a text.  The blank in front keeps it apart from the line that cancels. -/
def textLine (text : String) : String := " " ++ text

theorem textLine_ne_cancelLine (text : String) : textLine text ≠ cancelLine := by
  intro h
  have hhead := congrArg (fun line => line.toList.head?) h
  simp [textLine, cancelLine, String.toList_append] at hhead

theorem trim_textLine (h : Text.trim text = text) : Text.trim (textLine text) = text :=
  (Text.trim_space_append text).trans h

theorem lowercase_eq_of_lowerChars {a b : String}
    (h : Text.lowerChars a.toList = Text.lowerChars b.toList) : Text.lowercase a = Text.lowercase b :=
  congrArg String.ofList h

theorem Enterable.eq_of_member? {options : List String} {option : String}
    (h : Enterable options text) (hmember : Completion.member? options text = some option) :
    option = text := by
  have hsame := List.find?_some hmember
  have hmem := List.mem_of_find?_eq_some hmember
  exact h.alone option hmem (lowercase_eq_of_lowerChars (beq_iff_eq.mp hsame))

theorem member?_ne_none_of_mem {options : List String} (h : text ∈ options) :
    Completion.member? options text ≠ none := by
  intro hnone
  have hdiffers := List.find?_eq_none.mp hnone text h
  exact hdiffers (beq_self_eq_true _)

theorem choose_of_enterable {strict : Bool} (h : Enterable source.options text)
    (hadmits : admits strict source.options text = true) :
    choose source strict text = .taken text := by
  unfold choose
  cases hmember : source.member? text with
  | some option =>
      have heq := h.eq_of_member? hmember
      subst heq
      rfl
  | none =>
      have hunlisted : text ∉ source.options :=
        fun hmem => member?_ne_none_of_mem hmem hmember
      have hfree : strict = false := by
        cases strict with
        | false => rfl
        | true => simp [admits, hunlisted] at hadmits
      subst hfree
      rfl

theorem chooseAspect_of_enterable (h : Enterable aspects.names text)
    (hknown : aspects.contains text = true) :
    chooseAspect aspects.source aspects text = .taken text := by
  unfold chooseAspect
  cases hmember : aspects.source.member? text with
  | some option =>
      have heq := h.eq_of_member? hmember
      subst heq
      rfl
  | none =>
      have hmem : text ∈ aspects.names := (Keyed.contains_iff _ _).mp hknown
      exact absurd hmember (member?_ne_none_of_mem hmem)

theorem isEmpty_of_enterable {options : List String} (h : Enterable options text) :
    text.isEmpty = false := by
  simpa using h.nonempty

/-! ## Integers -/

theorem trim_integerText (n : Int) : Text.trim (integerText n) = integerText n :=
  Text.trim_of_not_blank fun _ hc => Numeral.isBlank_of_mem_integerChars hc

theorem readNumber?_integerText {options : IntegerOptions} {n : Int64}
    (hsafe : n.toInt.natAbs ≤ Value.maxSafeInteger) (hbounds : options.contains n.toInt = true) :
    readNumber? options (integerText n.toInt) = some n := by
  have hempty : (integerText n.toInt).isEmpty = false := by
    simpa [integerText] using Numeral.integerChars_ne_nil n.toInt
  unfold readNumber?
  rw [hempty, integerText, String.toList_ofList, Numeral.readInt64?_integerChars]
  simp [hsafe, hbounds]

/-! ## Words -/

def yesNoLine (yes : Bool) : String := if yes then "y" else "n"

theorem yesNoLine_ne_cancelLine (yes : Bool) : yesNoLine yes ≠ cancelLine := by
  cases yes <;> decide

theorem yesNo?_yesNoLine (default : Option Bool) (yes : Bool) :
    yesNo? default (yesNoLine yes) = some yes := by
  have htyped : String.ofList (Text.lowerChars (Text.trimChars (yesNoLine yes).toList)) =
      yesNoLine yes := by
    cases yes <;> decide +kernel
  unfold yesNo?
  rw [htyped]
  cases yes <;> rfl

namespace Action

theorem label_ne_cancelLine (action : Action) : action.label ≠ cancelLine := by
  cases action <;> decide

theorem trim_label (action : Action) : Text.trim action.label = action.label := by
  cases action <;> decide

theorem eq_of_lowerChars {a b : Action}
    (h : Text.lowerChars a.label.toList = Text.lowerChars b.label.toList) : a = b := by
  revert h
  cases a <;> cases b <;> decide +kernel

theorem ofLine?_label {actions : List Action} {action : Action} (h : action ∈ actions) :
    ofLine? actions action.label = some action := by
  have hempty : action.label.isEmpty = false := by cases action <;> decide
  have hlabel : ofLabel? action.label = some action := by cases action <;> decide
  have hmember : Completion.member? (actions.map label) action.label = some action.label := by
    cases hfound : Completion.member? (actions.map label) action.label with
    | none => exact absurd hfound (member?_ne_none_of_mem (List.mem_map_of_mem h))
    | some word =>
        have hsame := List.find?_some hfound
        obtain ⟨other, _, rfl⟩ := List.mem_map.mp (List.mem_of_find?_eq_some hfound)
        rw [eq_of_lowerChars (beq_iff_eq.mp hsame)]
  have hcomplete : (source actions).complete action.label = .complete action.label := by
    unfold source CompletionSource.complete Completion.plain
    dsimp only
    rw [hmember]
  unfold ofLine?
  rw [hempty]
  dsimp only
  rw [if_neg nofun, hcomplete]
  dsimp only
  rw [hlabel]
  simp [h]

end Action

end CommandForms.Dialogue
