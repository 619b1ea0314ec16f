import CommandForms.Proofs.Completion.Menus
import CommandForms.Proofs.Dialogue.Rejection

/-!
# Selections at strict questions

What a line selects at a question that takes declared entries only.  Every entry that is selected starts with
the line, case aside, or, when the entries have namespaces, is itself the start of the line.  Every other line
is explained, unless nothing can be entered at all, and the question is asked again.
-/

namespace CommandForms.Dialogue

open CommandForms.Completion
open CommandForms.Json (Value)
open CommandForms.Numeral (integerText)
open CommandForms.Text (lowerChars)

/-! ## What a line was typed for -/

/-- An option that a line may select: it starts with the line, or the options have namespaces and the line
goes on behind the option. -/
def Towards (source : CompletionSource) (line option : String) : Prop :=
  lowerChars line.toList <+: lowerChars option.toList ∨
    source.delimiter ≠ none ∧ lowerChars option.toList <+: lowerChars line.toList

/-- The options are in lower case segment by segment as they are as a whole: those with namespaces have no
capital sigma. -/
def FoldsAlike (source : CompletionSource) : Prop :=
  source.delimiter ≠ none → ∀ option ∈ source.options, 'Σ' ∉ option.toList

/-- What is said about a line that selects nothing: the candidates for it, or the mismatch when it is
completed to a text that is no option. -/
inductive Explains (source : CompletionSource) (line mismatch : String) : List String → Prop
  | menu {candidates : List String} (hmenu : source.complete line = .ambiguous candidates) :
      Explains source line mismatch ["  ".intercalate candidates]
  | mismatch {text : String} (hcomplete : source.complete line = .complete text)
      (hunknown : text ∉ source.options) : Explains source line mismatch [mismatch]

/-- A line selects an option that it was typed for, or equals no option, case aside, and is refused with an
explanation; what follows is told by `taken` and `refused`. -/
inductive Selects (source : CompletionSource) (line mismatch : String) {α : Type}
    (taken : String → α) (refused : List String → α) : α → Prop
  | taken {option : String} (hoption : option ∈ source.options) (htowards : Towards source line option) :
      Selects source line mismatch taken refused (taken option)
  | refused {said : List String} (hsaid : Explains source line mismatch said)
      (hother : ∀ option ∈ source.options, lowerChars option.toList ≠ lowerChars line.toList) :
      Selects source line mismatch taken refused (refused said)

variable {aspects : AspectSet} {source : CompletionSource} {line mismatch text option : String}

theorem prefix_of_plain {options : List String} (h : plain options line = .complete text) :
    lowerChars line.toList <+: lowerChars text.toList := by
  unfold plain at h
  split at h
  · rename_i option hmember
    cases h
    rw [lowerChars_of_member? hmember]
  · split at h
    · cases h
      exact List.prefix_rfl
    · rename_i hfilter
      cases h
      have hmem : text ∈ options.filter fun option =>
          (lowerChars line.toList).isPrefixOf (lowerChars option.toList) := by
        rw [hfilter]
        exact List.mem_singleton_self text
      exact List.isPrefixOf_iff_prefix.mp (List.mem_filter.mp hmem).2
    · cases h

/-- With namespaces, a completion starts with what is completed, or is a start of it. -/
theorem prefix_of_resolve {d : Delimiter} {options : List String}
    (hsigma : ∀ option ∈ options, 'Σ' ∉ option.toList)
    (h : (Trie.ofOptions d options).resolve line = .complete text) :
    lowerChars line.toList <+: lowerChars text.toList ∨
      lowerChars text.toList <+: lowerChars line.toList := by
  by_cases hleads : ∃ option ∈ options, lowerChars line.toList <+: folded (segments d option.toList)
  · obtain ⟨option, hoption, hleads⟩ := hleads
    obtain rfl := eq_of_resolve h hoption hleads
    rw [folded_segments (hsigma option hoption)] at hleads
    exact .inl hleads
  · have hnone : ∀ option ∈ options, ¬ lowerChars line.toList <+: folded (segments d option.toList) :=
      fun option hoption hleads' => hleads ⟨option, hoption, hleads'⟩
    rcases eq_or_passed_of_resolve h hnone with rfl | ⟨option, hoption, path, hpath, rfl, hpassed, _⟩
    · exact .inl List.prefix_rfl
    · rw [folded_of_start (hsigma option hoption) hpath] at hpassed
      rw [String.toList_ofList]
      exact .inr hpassed

/-- Whatever a line is completed to, an option that equals it, case aside, is one that the line may select. -/
theorem towards_of_complete (hfolds : FoldsAlike source) (hcomplete : source.complete line = .complete text)
    (hsame : lowerChars option.toList = lowerChars text.toList) : Towards source line option := by
  obtain ⟨options, delimiter⟩ := source
  rw [Towards, hsame]
  cases delimiter with
  | none => exact .inl (prefix_of_plain hcomplete)
  | some d => exact (prefix_of_resolve (hfolds nofun) hcomplete).imp_right fun h => ⟨nofun, h⟩

theorem towards_of_member? (h : source.member? line = some option) : Towards source line option :=
  .inl (lowerChars_of_member? h ▸ List.prefix_rfl)

/-! ## Choices -/

theorem choose_selects (hfolds : FoldsAlike source) (hoptions : source.options ≠ []) :
    Selects source line (line ++ " is not one of the available options") Choice.taken Choice.refused
      (choose source true line) := by
  unfold choose
  cases hmember : source.member? line with
  | some option => exact .taken (mem_of_member? hmember) (towards_of_member? hmember)
  | none =>
      have hempty : source.options.isEmpty = false := by simpa using hoptions
      dsimp only
      rw [if_neg nofun, hempty, if_neg nofun]
      have hother := member?_eq_none_iff.mp hmember
      cases hcomplete : source.complete line with
      | ambiguous candidates => exact .refused (.menu hcomplete) hother
      | complete text =>
          dsimp only
          cases hmember : source.member? text with
          | some option =>
              exact .taken (mem_of_member? hmember)
                (towards_of_complete hfolds hcomplete (lowerChars_of_member? hmember))
          | none =>
              have hunknown : text ∉ source.options :=
                fun hmem => member?_eq_none_iff.mp hmember text hmem rfl
              exact .refused (.mismatch hcomplete hunknown) hother

theorem choose_of_no_options (hoptions : source.options = []) : choose source true line = .refused [] := by
  unfold choose CompletionSource.member? Completion.member?
  rw [hoptions]
  rfl

theorem chooseAspect_selects (hfolds : FoldsAlike aspects.source) :
    Selects aspects.source line (line ++ " is not a valid aspect") Choice.taken Choice.refused
      (chooseAspect aspects.source aspects line) := by
  unfold chooseAspect
  cases hmember : aspects.source.member? line with
  | some name => exact .taken (mem_of_member? hmember) (towards_of_member? hmember)
  | none =>
      dsimp only
      have hother := member?_eq_none_iff.mp hmember
      cases hcomplete : aspects.source.complete line with
      | ambiguous candidates => exact .refused (.menu hcomplete) hother
      | complete text =>
          dsimp only
          split
          · rename_i hknown
            exact .taken ((Keyed.contains_iff _ _).mp hknown) (towards_of_complete hfolds hcomplete rfl)
          · rename_i hunknown
            exact .refused (.mismatch hcomplete (mt (Keyed.contains_iff _ _).mpr hunknown)) hother

/-! ## Questions -/

/-- A property of a choice that selects, from what it may select and what it may say. -/
@[elab_as_elim]
theorem Selects.elim {motive : Choice → Prop} {choice : Choice}
    (h : Selects source line mismatch Choice.taken Choice.refused choice)
    (taken : ∀ option, option ∈ source.options → Towards source line option → motive (.taken option))
    (refused : ∀ said, Explains source line mismatch said →
      (∀ option ∈ source.options, lowerChars option.toList ≠ lowerChars line.toList) →
      motive (.refused said)) : motive choice := by
  cases h with
  | taken hoption htowards => exact taken _ hoption htowards
  | refused hsaid hother => exact refused _ hsaid hother

theorem options_of_ofOptions {options : List String} {pattern : Option String}
    (h : CompletionSource.ofOptions options pattern = .ok source) : source.options = options := by
  unfold CompletionSource.ofOptions at h
  cases pattern with
  | none =>
      cases h
      rfl
  | some pattern =>
      dsimp only at h
      cases hdelimiter : Delimiter.ofPattern pattern with
      | error e =>
          rw [hdelimiter] at h
          cases h
      | ok d =>
          rw [hdelimiter] at h
          cases h
          rfl

/-- What a line that is not blank selects at a strict question.  An option of a text field or an entry of a set
is selected only when it starts with the line, or, when the field has a delimiter, the line goes on behind it;
so is an aspect.  Else the question is asked again with the same members or counts, after the candidates or
the mismatch; it is asked again silently only when the field has no options. -/
theorem strict_question_selects (aspects : AspectSet) {typed : String} (hline : Text.trim typed ≠ "")
    (lines : Nat) (resume : Value → Nat → Turn) :
    (∀ (name : String) (options : StringOptions) (source : CompletionSource),
      CompletionSource.ofOptions options.autocomplete options.delimiter = .ok source →
      FoldsAlike source → options.strict = true →
        let question := Question.text name options source
        let again := fun lines => Turn.ask question lines resume
        if options.autocomplete = [] then question.respond aspects typed lines resume = again lines
        else Selects source (Text.trim typed)
          (Text.trim typed ++ " is not one of the available options")
          (fun option => resume (.string option) lines) (fun said => writeAll said lines again)
          (question.respond aspects typed lines resume)) ∧
    (∀ (name : String) (options : StringSetOptions) (source : CompletionSource) (members : List String),
      CompletionSource.ofOptions options.autocomplete options.delimiter = .ok source →
      FoldsAlike source → options.strict = true →
        let question := Question.member name options source members
        let again := fun members lines => askMember name options source members lines resume
        if options.autocomplete = [] then question.respond aspects typed lines resume = again members lines
        else Selects source (Text.trim typed)
          (Text.trim typed ++ " is not one of the available options")
          (fun option =>
            let (members, said) := toggle name options members option
            writeAll said lines (again members))
          (fun said => writeAll said lines (again members))
          (question.respond aspects typed lines resume)) ∧
    ∀ (name : String) (keys : CountBounds) (counts : List (String × Value)),
      FoldsAlike aspects.source →
        let question := Question.aspect name keys aspects.source counts
        let again := fun counts lines => askAspect name keys aspects.source counts lines resume
        Selects aspects.source (Text.trim typed) (Text.trim typed ++ " is not a valid aspect")
          (fun chosen =>
            if (Entries.find? chosen counts).isNone && !keys.leavesRoom counts.length then
              writeAll [name ++ " holds at most " ++ integerText keys.most ++ " aspects"] lines
                (again counts)
            else
              .ask (.number chosen (countOptions counts chosen)) lines fun count lines =>
                again (setCount counts chosen count) lines)
          (fun said => writeAll said lines (again counts))
          (question.respond aspects typed lines resume) := by
  refine ⟨fun name options source hsource hfolds hstrict => ?_,
    fun name options source members hsource hfolds hstrict => ?_, fun name keys counts hfolds => ?_⟩
  · have hoptions := options_of_ofOptions hsource
    intro question again
    simp only [question, Question.respond, isEmpty_of_ne hline, hstrict, Bool.false_eq_true, if_false]
    split
    · rename_i hnone
      rw [choose_of_no_options (hoptions.trans hnone)]
      rfl
    · rename_i hsome
      exact (choose_selects hfolds (hoptions ▸ hsome)).elim (fun _ => .taken) fun _ => .refused
  · have hoptions := options_of_ofOptions hsource
    intro question again
    simp only [question, Question.respond, isEmpty_of_ne hline, hstrict, Bool.false_eq_true, if_false]
    split
    · rename_i hnone
      rw [choose_of_no_options (hoptions.trans hnone)]
      rfl
    · rename_i hsome
      exact (choose_selects hfolds (hoptions ▸ hsome)).elim (fun _ => .taken) fun _ => .refused
  · intro question again
    simp only [question, Question.respond, isEmpty_of_ne hline, Bool.false_eq_true, if_false]
    exact (chooseAspect_selects hfolds).elim (fun _ => .taken) fun _ => .refused

/-- The start of a name selects a perk in a text field, in a set and among aspects. -/
theorem strict_question_selects_perk :
    let perks := ["skill.forge", "skill.heart"]
    let text : StringOptions := { autocomplete := perks, delimiter := some "\\.", strict := true }
    let set : StringSetOptions := { autocomplete := perks, delimiter := some "\\.", strict := true }
    let known := AspectSet.ofList perks
    let answer : Value → Nat → Turn := fun value _ => .done value
    Text.trim " Skill.F" ≠ "" ∧ perks ≠ [] ∧ ∃ source,
      CompletionSource.ofOptions perks (some "\\.") = .ok source ∧ FoldsAlike source ∧
      FoldsAlike known.source ∧
      Selects source "Skill.F" "Skill.F is not one of the available options"
        (fun option => Turn.done (.string option))
        (fun said => writeAll said 1 fun lines => .ask (.text "perk" text source) lines answer)
        (Question.respond known (.text "perk" text source) " Skill.F" 1 answer) ∧
      Selects source "Skill.F" "Skill.F is not one of the available options"
        (fun option =>
          let (members, said) := toggle "perks" set [] option
          writeAll said 1 fun lines => askMember "perks" set source members lines answer)
        (fun said => writeAll said 1 fun lines => askMember "perks" set source [] lines answer)
        (Question.respond known (.member "perks" set source []) " Skill.F" 1 answer) ∧
      Selects known.source "Skill.F" "Skill.F is not a valid aspect"
        (fun chosen =>
          .ask (.number chosen (countOptions [] chosen)) 1 fun count lines =>
            askAspect "levels" {} known.source (setCount [] chosen count) lines answer)
        (fun said => writeAll said 1 fun lines => askAspect "levels" {} known.source [] lines answer)
        (Question.respond known (.aspect "levels" {} known.source []) " Skill.F" 1 answer) := by
  intro perks text set known answer
  have htrim : Text.trim " Skill.F" = "Skill.F" := by decide +kernel
  have hline : Text.trim " Skill.F" ≠ "" := by decide +kernel
  obtain ⟨d, hdelimiter⟩ : ∃ d, Delimiter.ofPattern "\\." = .ok d := ⟨_, rfl⟩
  have hsource : CompletionSource.ofOptions perks (some "\\.") = .ok ⟨perks, some d⟩ := by
    simp only [CompletionSource.ofOptions, hdelimiter, Except.map]
  have hperks : ∀ perk ∈ perks, 'Σ' ∉ perk.toList := by decide
  have hknown : ∀ perk ∈ known.names, 'Σ' ∉ perk.toList := by decide +kernel
  obtain ⟨htext, hmember, haspect⟩ := strict_question_selects known hline 1 answer
  rw [htrim] at htext hmember haspect
  have hroom : CountBounds.leavesRoom {} 0 = true := rfl
  have hselects := haspect "levels" {} [] fun _ => hknown
  simp only [List.length_nil, hroom, Bool.not_true, Bool.and_false, Bool.false_eq_true, if_false] at hselects
  exact ⟨hline, nofun, _, hsource, fun _ => hperks, fun _ => hknown,
    htext "perk" text _ hsource (fun _ => hperks) rfl,
    hmember "perks" set _ [] hsource (fun _ => hperks) rfl, hselects⟩

/-- A line that goes on behind an option selects it when the field has a delimiter, and is a mismatch when it
has none. -/
theorem strict_question_selects_behind :
    let typed := "forgex"
    let strict (delimiter : Option String) : StringOptions :=
      { autocomplete := ["forge"], delimiter := delimiter, strict := true }
    let answer : Value → Nat → Turn := fun value _ => .done value
    ¬ lowerChars typed.toList <+: lowerChars "forge".toList ∧
      (∃ source, CompletionSource.ofOptions ["forge"] (some "\\.") = .ok source ∧
        (Question.text "skill" (strict (some "\\.")) source).respond .empty typed 1 answer =
          .done (.string "forge")) ∧
      ∃ source, CompletionSource.ofOptions ["forge"] none = .ok source ∧
        (Question.text "skill" (strict none) source).respond .empty typed 1 answer =
          .write "forgex is not one of the available options" 1
            (.ask (.text "skill" (strict none) source) 2 answer) := by
  exact ⟨by decide +kernel, ⟨_, rfl, rfl⟩, ⟨_, rfl, rfl⟩⟩

end CommandForms.Dialogue
