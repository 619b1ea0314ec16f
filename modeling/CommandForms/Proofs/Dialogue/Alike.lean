import CommandForms.Proofs.Dialogue.Calls
import CommandForms.Proofs.Schema.Parts
import CommandForms.Dialogue.Construct

/-!
# Conversations that differ in counts of lines only

What a conversation asks and what it ends with do not depend on how many lines it has on the screen.  Two
conversations that differ in such counts only are alike, and on working terminals with the same unread lines
they end alike.
-/

namespace CommandForms.Dialogue

open CommandForms.Json (Value)

/-- Two conversations make the same calls and go on alike after every answer; only the lines that they
count may differ. -/
inductive Alike : Turn → Turn → Prop
  | done (value : Value) : Alike (.done value) (.done value)
  | abort (e : BadDelimiter) : Alike (.abort e) (.abort e)
  | write {text : String} {lines lines' : Nat} {next next' : Turn} (hnext : Alike next next') :
      Alike (.write text lines next) (.write text lines' next')
  | erase {lines mark lines' mark' : Nat} {next next' : Turn} (hnext : Alike next next') :
      Alike (.erase lines mark next) (.erase lines' mark' next')
  | confirm {prompt : String} {default : Option Bool} {lines lines' : Nat} {next next' : Bool → Turn}
      (hnext : ∀ yes, Alike (next yes) (next' yes)) :
      Alike (.confirm prompt default lines next) (.confirm prompt default lines' next')
  | ask {question : Question} {lines lines' : Nat} {resume resume' : Value → Nat → Turn}
      (hresume : ∀ value n n', Alike (resume value n) (resume' value n')) :
      Alike (.ask question lines resume) (.ask question lines' resume')

/-- Two conversations go on alike after the same value, whatever lines they count by then. -/
def AlikeAfter (resume resume' : Value → Nat → Turn) : Prop :=
  ∀ value n n', Alike (resume value n) (resume' value n')

namespace Alike

variable {aspects : AspectSet} {resume resume' : Value → Nat → Turn} {lines lines' : Nat}

/-! ## Parts of conversations -/

theorem writeAll {said : List String} {next next' : Nat → Turn}
    (hnext : ∀ n n', Alike (next n) (next' n')) :
    Alike (writeAll said lines next) (writeAll said lines' next') := by
  induction said generalizing lines lines' with
  | nil => exact hnext lines lines'
  | cons text said ih => exact .write ih

theorem commit {name : String} {mark mark' : Nat} (h : AlikeAfter resume resume') :
    AlikeAfter (commit name mark resume) (commit name mark' resume') := by
  intro value n n'
  exact .erase (.write (h value _ _))

theorem withSource {options : List String} {pattern : Option String}
    {next next' : CompletionSource → Turn} (hnext : ∀ source, Alike (next source) (next' source)) :
    Alike (withSource options pattern next) (withSource options pattern next') := by
  unfold Dialogue.withSource
  split
  · exact hnext _
  · exact .abort _

theorem askMember {name : String} {options : StringSetOptions} {source : CompletionSource}
    {members : List String} (h : AlikeAfter resume resume') :
    Alike (askMember name options source members lines resume)
      (askMember name options source members lines' resume') :=
  .write (.ask h)

theorem askAspect {name : String} {keys : CountBounds} {source : CompletionSource}
    {counts : List (String × Value)} (h : AlikeAfter resume resume') :
    Alike (askAspect name keys source counts lines resume)
      (askAspect name keys source counts lines' resume') :=
  .write (.ask h)

theorem askAction {name : String} {element : Schema} {length : CountBounds} {items : List Value}
    (h : AlikeAfter resume resume') :
    Alike (askAction name element length items lines resume)
      (askAction name element length items lines' resume') :=
  .write (.ask h)

theorem framed {label : Label} {kind : Nat → (Value → Nat → Turn) → Turn}
    (hkind : ∀ n n' finish finish', AlikeAfter finish finish' →
      Alike (kind n finish) (kind n' finish'))
    (h : AlikeAfter resume resume') :
    Alike (framed label lines resume kind) (framed label lines' resume' kind) := by
  unfold Dialogue.framed
  dsimp only
  split
  · exact hkind _ _ _ _ (commit h)
  · apply Alike.confirm
    intro skip
    cases skip with
    | true => exact commit h .null _ _
    | false => exact hkind _ _ _ _ (commit h)

theorem constructFields {fields : List (String × Schema)} {record : List (String × Value)}
    (hfields : ∀ field ∈ fields, ∀ n n' resume resume', AlikeAfter resume resume' →
      Alike (constructField aspects field.2 n resume) (constructField aspects field.2 n' resume'))
    (h : AlikeAfter resume resume') :
    Alike (constructFields aspects fields record lines resume)
      (constructFields aspects fields record lines' resume') := by
  induction fields generalizing record lines lines' with
  | nil =>
      rw [Dialogue.constructFields, Dialogue.constructFields]
      exact h _ _ _
  | cons field fields ih =>
      obtain ⟨key, schema⟩ := field
      obtain ⟨hhead, htail⟩ := List.forall_mem_cons.mp hfields
      rw [Dialogue.constructFields, Dialogue.constructFields]
      apply hhead
      intro value n n'
      exact ih htail

theorem constructField {s : Schema} (h : AlikeAfter resume resume') :
    Alike (constructField aspects s lines resume) (constructField aspects s lines' resume') := by
  induction s using Schema.induction generalizing lines lines' resume resume' with
  | string label options =>
      rw [Dialogue.constructField, Dialogue.constructField]
      exact framed (fun _ _ _ _ hfinish => withSource fun _ => .ask hfinish) h
  | stringSet label options =>
      rw [Dialogue.constructField, Dialogue.constructField]
      exact framed (fun _ _ _ _ hfinish => withSource fun _ => askMember hfinish) h
  | integer label options =>
      rw [Dialogue.constructField, Dialogue.constructField]
      exact framed (fun _ _ _ _ hfinish => .ask hfinish) h
  | boolean label default =>
      rw [Dialogue.constructField, Dialogue.constructField]
      exact framed (fun _ _ _ _ hfinish => .confirm fun yes => hfinish (.bool yes) _ _) h
  | aspectMap label keys =>
      rw [Dialogue.constructField, Dialogue.constructField]
      exact framed (fun _ _ _ _ hfinish => askAspect hfinish) h
  | object label fields ih =>
      rw [Dialogue.constructField, Dialogue.constructField]
      apply framed (fun _ _ _ _ hfinish => constructFields (fun field hmem => ?_) hfinish) h
      exact fun _ _ _ _ hresume => ih field hmem hresume
  | array label element length _ =>
      rw [Dialogue.constructField, Dialogue.constructField]
      exact framed (fun _ _ _ _ hfinish => askAction hfinish) h

theorem respond {question : Question} {typed : String} (h : AlikeAfter resume resume') :
    Alike (question.respond aspects typed lines resume)
      (question.respond aspects typed lines' resume') := by
  cases question with
  | text name options source =>
      simp only [Question.respond]
      split
      · split
        · exact h _ _ _
        · exact .ask h
      · split
        · exact h _ _ _
        · exact writeAll fun _ _ => .ask h
  | number name options =>
      simp only [Question.respond]
      split
      · exact h _ _ _
      · exact .ask h
  | member name options source members =>
      simp only [Question.respond]
      split
      · split
        · exact h _ _ _
        · exact askMember h
      · split
        · exact writeAll fun _ _ => askMember h
        · exact writeAll fun _ _ => askMember h
  | aspect name keys source counts =>
      simp only [Question.respond]
      split
      · split
        · exact h _ _ _
        · exact askAspect h
      · split
        · exact writeAll fun _ _ => askAspect h
        · split
          · exact writeAll fun _ _ => askAspect h
          · exact .ask fun _ _ _ => askAspect h
  | action name element length items =>
      simp only [Question.respond]
      split
      · exact askAction h
      · exact h _ _ _
      · exact constructField fun _ _ _ => askAction h
      · exact .ask fun _ _ _ => askAction h

theorem constructTurn (aspects : AspectSet) (s : Schema) :
    Alike (constructTurn aspects s) (constructTurn aspects s) :=
  constructField fun value _ _ => .done value

end Alike

end CommandForms.Dialogue
