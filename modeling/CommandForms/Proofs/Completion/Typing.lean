import CommandForms.Proofs.Completion.Menus
import CommandForms.Proofs.Text.Capitals

/-!
# Typing an option

What is offered while an option is typed.  An option is kept for every start of it whose lower case is a
start of the option's own lower case; only a capital sigma in what is typed can prevent that.  A completion
that goes on from the input is final: completed again, it is itself, because a longer input leads to no
segment that the shorter one does not lead to.
-/

namespace CommandForms.Completion

open CommandForms.Text (lowerChars)

variable {raw : String} {input longer output : List Char} {path : List Segment}
  {paths : List (List Segment)} {completion : Completion}

/-! ## Longer inputs -/

theorem agree_of_longer {a : List Char} (hlonger : input <+: longer)
    (h : Trie.agree a longer = true) : Trie.agree a input = true := by
  rw [agree_iff] at h ⊢
  rcases h with hread | hends
  · exact List.prefix_or_prefix_of_prefix hread hlonger
  · exact .inr (hlonger.trans hends)

/-- A longer input leads to no first segment that the shorter one does not lead to. -/
theorem mem_agreeing_of_longer {segment : Segment} (hlonger : input <+: longer)
    (h : segment ∈ Trie.agreeing longer paths) : segment ∈ Trie.agreeing input paths := by
  obtain ⟨hpath, hagree⟩ := Trie.mem_agreeing.mp h
  exact Trie.mem_agreeing.mpr ⟨hpath, agree_of_longer hlonger hagree⟩

theorem Walks.complete_of_longer {raw' : String} {output' : List Char} {completion' : Completion}
    {text : String} (h : Walks raw input output paths completion) (htext : completion = .complete text)
    (hlonger : input <+: longer) (h' : Walks raw' longer output' paths completion') :
    ∃ text', completion' = .complete text' := by
  induction h generalizing longer output' with
  | @stop input output paths hnone =>
      have hnone' : ∀ segment, segment ∉ Trie.agreeing longer paths := by
        intro segment hsegment
        have hmem := mem_agreeing_of_longer hlonger hsegment
        rw [hnone] at hmem
        cases hmem
      cases h' with
      | stop => exact ⟨_, arrive_eq _⟩
      | pass hone => exact absurd (hone ▸ List.mem_singleton_self _) (hnone' _)
      | offer hseveral =>
          obtain ⟨a, ha, _⟩ := exists_ne_of_two_le hseveral
          exact absurd ha (hnone' a)
  | @pass input output paths segment completion hone _ ih =>
      have honly : ∀ first ∈ Trie.agreeing longer paths, first = segment := by
        intro first hfirst
        have hmem := mem_agreeing_of_longer hlonger hfirst
        rwa [hone, List.mem_singleton] at hmem
      cases h' with
      | stop => exact ⟨_, arrive_eq _⟩
      | @pass _ _ _ first _ hone' inner =>
          obtain rfl := honly first (hone' ▸ List.mem_singleton_self first)
          exact ih htext (hlonger.drop _) inner
      | offer hseveral =>
          obtain ⟨a, ha, b, hb, hne⟩ := exists_ne_of_two_le hseveral
          exact absurd ((honly a ha).trans (honly b hb).symm) hne
  | offer => cases htext

/-! ## Completions completed again -/

section Again

variable {d : Delimiter} {options : List String} {text : String}

theorem member?_congr {other : String} (h : lowerChars text.toList = lowerChars other.toList) :
    member? options text = member? options other := by
  unfold member?
  rw [h]

theorem plain_again (h : plain options raw = .complete text) : plain options text = .complete text := by
  cases hmember : member? options raw with
  | some option =>
      rw [plain, hmember] at h
      cases h
      rw [plain, member?_congr (lowerChars_of_member? hmember), hmember]
  | none =>
      have hplain := h
      rw [plain, hmember] at hplain
      dsimp only at hplain
      split at hplain
      · cases hplain
        exact h
      · rename_i hfilter
        cases hplain
        have hcandidates : ∀ other,
            other ∈ options ∧ lowerChars raw.toList <+: lowerChars other.toList ↔ other = text := by
          intro other
          rw [← List.mem_singleton, ← hfilter, List.mem_filter, List.isPrefixOf_iff_prefix]
        obtain ⟨hoption, hleads⟩ := (hcandidates text).mpr rfl
        obtain ⟨other, hother, hcomplete, hsame⟩ := plain_of_mem hoption
        rw [hcomplete, (hcandidates other).mp ⟨hother, hsame ▸ hleads⟩]
      · cases hplain

theorem resolve_again (hsigma : ∀ option ∈ options, 'Σ' ∉ option.toList)
    (h : (Trie.ofOptions d options).resolve raw = .complete text)
    (hgrows : lowerChars raw.toList <+: lowerChars text.toList) :
    (Trie.ofOptions d options).resolve text = .complete text := by
  by_cases hleads : ∃ option ∈ options, lowerChars raw.toList <+: folded (segments d option.toList)
  · obtain ⟨option, hoption, hleads⟩ := hleads
    obtain rfl := eq_of_resolve h hoption hleads
    obtain ⟨text, h'⟩ :=
      (walks_resolve d options raw).complete_of_longer h hgrows (walks_resolve d options option)
    have hself : lowerChars option.toList <+: folded (segments d option.toList) := by
      rw [folded_segments (hsigma option hoption)]
    rw [h', eq_of_resolve h' hoption hself]
  · have hnone : ∀ option ∈ options, ¬ lowerChars raw.toList <+: folded (segments d option.toList) :=
      fun option hoption hleads' => hleads ⟨option, hoption, hleads'⟩
    rcases eq_or_passed_of_resolve h hnone with rfl | ⟨option, hoption, path, hpath, rfl, hpassed, hne⟩
    · exact h
    -- An input that goes on behind the completion is not the start of it.
    · rw [folded_of_start (hsigma option hoption) hpath] at hpassed hne
      rw [String.toList_ofList] at hgrows
      exact absurd (hpassed.eq_of_length_le hgrows.length_le) hne

end Again

/-- Accepted completions are stable.  Among options without a capital sigma, a completion that is the input
itself, or that goes on from it, case aside, is completed to itself; so nothing more is offered behind it. -/
theorem accepted_completion_is_stable {source : CompletionSource} {text : String}
    (hsigma : ∀ option ∈ source.options, 'Σ' ∉ option.toList)
    (hcomplete : source.complete raw = .complete text)
    (hgrows : text = raw ∨ lowerChars raw.toList <+: lowerChars text.toList) :
    source.complete text = .complete text ∧ (text ≠ "" → source.offers text = []) := by
  have hagain : source.complete text = .complete text := by
    rcases hgrows with rfl | hgrows
    · exact hcomplete
    · obtain ⟨options, delimiter⟩ := source
      cases delimiter with
      | none => exact plain_again hcomplete
      | some d => exact resolve_again hsigma hcomplete hgrows
  refine ⟨hagain, fun hne => ?_⟩
  have hempty : text.isEmpty = false := by simpa using hne
  unfold CompletionSource.offers
  rw [hempty, if_neg nofun, hagain]
  exact if_pos rfl

theorem accepted_completion_is_stable_forge :
    let source : CompletionSource :=
      ⟨["s.forge", "s.heart", "skill", "skill.forge", "s.forge"], some AspectSet.delimiter⟩
    (∀ option ∈ source.options, 'Σ' ∉ option.toList) ∧
      source.complete "S.F" = .complete "s.forge" ∧
      lowerChars "S.F".toList <+: lowerChars "s.forge".toList ∧
      source.complete "s.forge" = .complete "s.forge" ∧ source.offers "s.forge" = [] := by
  intro source
  have hsigma : ∀ option ∈ source.options, 'Σ' ∉ option.toList := by decide
  have hcomplete : source.complete "S.F" = .complete "s.forge" := by decide +kernel
  have hgrows : lowerChars "S.F".toList <+: lowerChars "s.forge".toList := by decide +kernel
  obtain ⟨hagain, hoffers⟩ := accepted_completion_is_stable hsigma hcomplete (.inr hgrows)
  exact ⟨hsigma, hcomplete, hgrows, hagain, hoffers (by decide)⟩

/-! ## The start of an option -/

/-- Characters without a capital sigma that start the text of a path start it in lower case too, segment by
segment. -/
theorem lowerChars_prefix_folded {start : List Char} (hsigma : 'Σ' ∉ start)
    (hstart : start <+: path.flatten) : lowerChars start <+: folded path := by
  induction path generalizing start with
  | nil =>
      rw [List.prefix_nil.mp hstart]
      exact List.nil_prefix
  | cons segment path ih =>
      rw [List.flatten_cons] at hstart
      rw [folded_cons]
      rcases List.prefix_or_prefix_of_prefix hstart (List.prefix_append segment path.flatten) with
        hwithin | ⟨rest, rfl⟩
      · exact (Text.lowerChars_prefix hsigma hwithin).trans (List.prefix_append _ _)
      · rw [List.mem_append, not_or] at hsigma
        rw [Text.lowerChars_append hsigma.1 hsigma.2, List.prefix_append_right_inj]
        exact ih hsigma.2 ((List.prefix_append_right_inj segment).mp hstart)

/-- An option in lower case, as its source compares it with an input: as a whole, or segment by segment when
the options have namespaces. -/
def foldedOption (source : CompletionSource) (option : String) : List Char :=
  match source.delimiter with
  | none => lowerChars option.toList
  | some d => folded (segments d option.toList)

/-- An input retains an option: it is completed to the option, or to one that equals the input, case aside, or
it is answered by a menu with an entry that the option starts with. -/
inductive Retains (source : CompletionSource) (input option : String) : Prop
  | completed (hcomplete : source.complete input = .complete option)
  | equalled {other : String} (hother : other ∈ source.options)
      (hcomplete : source.complete input = .complete other)
      (hsame : lowerChars other.toList = lowerChars input.toList)
  | offered {menu : List String} {entry : String} (hmenu : source.complete input = .ambiguous menu)
      (hentry : entry ∈ menu) (hstart : entry.toList <+: option.toList)

theorem not_retains_of_complete {source : CompletionSource} {input option text : String}
    (hcomplete : source.complete input = .complete text) (htext : text ∉ source.options)
    (hoption : option ∈ source.options) : ¬ Retains source input option := by
  intro hretains
  cases hretains with
  | completed h =>
      cases hcomplete.symm.trans h
      exact htext hoption
  | equalled hother h _ =>
      cases hcomplete.symm.trans h
      exact htext hother
  | offered h _ _ => cases hcomplete.symm.trans h

section Retained

variable {d : Delimiter} {options : List String} {option : String}

theorem retains_plain (hoption : option ∈ options)
    (hleads : lowerChars raw.toList <+: lowerChars option.toList) : Retains ⟨options, none⟩ raw option := by
  have hcandidate : option ∈ options.filter fun option =>
      (lowerChars raw.toList).isPrefixOf (lowerChars option.toList) :=
    List.mem_filter.mpr ⟨hoption, List.isPrefixOf_iff_prefix.mpr hleads⟩
  cases hmember : member? options raw with
  | some other =>
      refine .equalled (List.mem_of_find?_eq_some hmember) ?_ (lowerChars_of_member? hmember)
      rw [CompletionSource.complete, plain, hmember]
  | none =>
      have hplain : (CompletionSource.mk options none).complete raw = plain options raw := rfl
      rw [plain, hmember] at hplain
      dsimp only at hplain
      split at hplain
      · rename_i hfilter
        rw [hfilter] at hcandidate
        cases hcandidate
      · rename_i other hfilter
        rw [hfilter, List.mem_singleton] at hcandidate
        exact .completed (hcandidate ▸ hplain)
      · exact .offered hplain hcandidate List.prefix_rfl

theorem retains_resolve (hoption : option ∈ options)
    (hleads : lowerChars raw.toList <+: folded (segments d option.toList)) :
    Retains ⟨options, some d⟩ raw option := by
  have hresolve : (CompletionSource.mk options (some d)).complete raw =
      (Trie.ofOptions d options).resolve raw := rfl
  cases h : (Trie.ofOptions d options).resolve raw with
  | complete text =>
      obtain rfl := eq_of_resolve h hoption hleads
      exact .completed (hresolve.trans h)
  | ambiguous menu =>
      obtain ⟨common, next, hoffers, rfl⟩ := exists_offers_of_resolve h
      obtain ⟨s, hs, rest, hrest⟩ := hoffers.keeps _ (mem_matching_of_leads hoption hleads)
      refine .offered (hresolve.trans h) (List.mem_map_of_mem hs) ⟨rest.flatten, ?_⟩
      rw [String.toList_ofList, ← List.flatten_append, hrest, flatten_segments]

end Retained

/-- Typing the start of an option does not drop it, unless a capital sigma is in lower case at the end of what
is typed as it is not within the option. -/
theorem start_of_option_is_retained {source : CompletionSource} {option start : String}
    (hoption : option ∈ source.options) (hstart : start.toList <+: option.toList)
    (hfolds : 'Σ' ∈ start.toList → lowerChars start.toList <+: foldedOption source option) :
    Retains source start option := by
  obtain ⟨options, delimiter⟩ := source
  cases delimiter with
  | none =>
      refine retains_plain hoption ?_
      by_cases hsigma : 'Σ' ∈ start.toList
      · exact hfolds hsigma
      · exact Text.lowerChars_prefix hsigma hstart
  | some d =>
      refine retains_resolve hoption ?_
      by_cases hsigma : 'Σ' ∈ start.toList
      · exact hfolds hsigma
      · exact lowerChars_prefix_folded hsigma ((flatten_segments d option.toList).symm ▸ hstart)

theorem start_of_option_is_retained_lore :
    let source : CompletionSource := ⟨["lore.edge", "Lore.moth", "lore"], some AspectSet.delimiter⟩
    "Lore.moth" ∈ source.options ∧ "Lore.m".toList <+: "Lore.moth".toList ∧
      Retains source "Lore.m" "Lore.moth" := by
  intro source
  have hoption : "Lore.moth" ∈ source.options := by decide
  have hstart : "Lore.m".toList <+: "Lore.moth".toList := by decide +kernel
  have hsigma : 'Σ' ∉ "Lore.m".toList := by decide +kernel
  exact ⟨hoption, hstart, start_of_option_is_retained hoption hstart fun h => absurd h hsigma⟩

/-- Where what is typed ends in a capital sigma within a word, nothing is left of the option. -/
theorem start_of_option_is_dropped :
    let source : CompletionSource := ⟨["AΣA"], none⟩
    "AΣA" ∈ source.options ∧ "AΣ".toList <+: "AΣA".toList ∧
      source.complete "AΣ" = .complete "AΣ" ∧ ¬ Retains source "AΣ" "AΣA" := by
  intro source
  have hchars : "AΣ".toList = ['A', 'Σ'] ∧ "AΣA".toList = ['A', 'Σ', 'A'] := by decide +kernel
  have hcomplete : source.complete "AΣ" = .complete "AΣ" := by
    refine plain_eq_raw fun option hoption => ?_
    rw [List.mem_singleton.mp hoption, hchars.1, hchars.2]
    exact Text.not_lowerChars_sigma_prefix (by decide) (by decide) []
  refine ⟨by decide, ?_, hcomplete, not_retains_of_complete hcomplete (by decide) (by decide)⟩
  rw [hchars.1, hchars.2]
  decide

end CommandForms.Completion
