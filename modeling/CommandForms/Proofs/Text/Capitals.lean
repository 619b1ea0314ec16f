import CommandForms.Text.Lowercase

/-!
# Capital letters and the final sigma

A capital sigma behind a capital letter ends a word where the text ends, but not where another capital letter
follows.  What the capital letters are is read off the first runs of the categories; of the later runs it is
enough to know where they start.
-/

namespace CommandForms.Text

/-! ## The first runs of the categories -/

theorem NamedRun.le_first_of_mem {width start count : Nat} {name cs : List Char} {run : NamedRun}
    (h : run ∈ readFrom width start count name cs) : start ≤ run.first := by
  induction cs generalizing start count name with
  | nil =>
      rw [readFrom, List.mem_singleton] at h
      exact h ▸ Nat.le_refl _
  | cons c cs ih =>
      rw [readFrom] at h
      split at h
      · exact ih h
      · split at h
        · exact ih h
        · rcases List.mem_cons.mp h with rfl | h
          · exact Nat.le_refl _
          · exact Nat.le_trans (Nat.le_add_right _ _) (ih h)

/-- The runs in front of the capital letters. -/
def earlierRuns : List NamedRun :=
  [⟨"Cc", 0, 31⟩, ⟨"Zs", 32, 32⟩, ⟨"Po", 33, 35⟩, ⟨"Sc", 36, 36⟩, ⟨"Po", 37, 39⟩, ⟨"Ps", 40, 40⟩,
    ⟨"Pe", 41, 41⟩, ⟨"Po", 42, 42⟩, ⟨"Sm", 43, 43⟩, ⟨"Po", 44, 44⟩, ⟨"Pd", 45, 45⟩, ⟨"Po", 46, 47⟩,
    ⟨"Nd", 48, 57⟩, ⟨"Po", 58, 59⟩, ⟨"Sm", 60, 62⟩, ⟨"Po", 63, 64⟩]

def capitalRun : NamedRun := ⟨"Lu", 65, 90⟩

theorem exists_later_runs : ∃ later,
    NamedRun.ofText 2 categoryRunText = earlierRuns ++ capitalRun :: later ∧
      ∀ run ∈ later, 91 ≤ run.first := by
  have htext : "Cc32ZsPo3ScPo3PsPePoSmPoPdPo2Nd10Po2Sm3Po2Lu26P".toList <+: categoryRunText.toList := by
    unfold categoryRunText
    rw [String.toList_join, List.flatMap_cons]
    refine List.IsPrefix.trans ?_ (List.prefix_append _ _)
    decide +kernel
  have hchars : "Cc32ZsPo3ScPo3PsPePoSmPoPdPo2Nd10Po2Sm3Po2Lu26P".toList =
      ['C', 'c', '3', '2', 'Z', 's', 'P', 'o', '3', 'S', 'c', 'P', 'o', '3', 'P', 's', 'P', 'e', 'P', 'o',
        'S', 'm', 'P', 'o', 'P', 'd', 'P', 'o', '2', 'N', 'd', '1', '0', 'P', 'o', '2', 'S', 'm', '3', 'P',
        'o', '2', 'L', 'u', '2', '6', 'P'] := by decide +kernel
  obtain ⟨rest, hrest⟩ := htext
  refine ⟨NamedRun.readFrom 2 91 0 ['P'] rest, ?_, fun run => NamedRun.le_first_of_mem⟩
  rw [NamedRun.ofText, ← hrest, hchars]
  rfl

theorem capitalRun_mem : capitalRun ∈ NamedRun.ofText 2 categoryRunText := by
  obtain ⟨later, hruns, _⟩ := exists_later_runs
  rw [hruns]
  exact List.mem_append_right _ (.head _)

theorem eq_capitalRun_of_holds {run : NamedRun} {n : Nat} (hn : 65 ≤ n ∧ n < 91)
    (hrun : run ∈ NamedRun.ofText 2 categoryRunText) (hholds : run.holds n = true) : run = capitalRun := by
  obtain ⟨later, hruns, hlater⟩ := exists_later_runs
  have hearlier : ∀ run ∈ earlierRuns, run.last < 65 := by decide
  rw [NamedRun.holds, Bool.and_eq_true, decide_eq_true_eq, decide_eq_true_eq] at hholds
  rw [hruns, List.mem_append, List.mem_cons] at hrun
  rcases hrun with hrun | hrun | hrun
  · have := hearlier run hrun
    omega
  · exact hrun
  · have := hlater run hrun
    omega

/-! ## Capital letters -/

variable {c : Char}

theorem bounds_of_isUpper (h : c.isUpper = true) : 65 ≤ c.toNat ∧ c.toNat < 91 := by
  have hval : c.val ≥ 65 ∧ c.val ≤ 90 := of_decide_eq_true h
  exact ⟨UInt32.le_iff_toNat_le.mp hval.1, Nat.lt_succ_of_le (UInt32.le_iff_toNat_le.mp hval.2)⟩

theorem contains_categorySet_of_isUpper (h : c.isUpper = true) (picks : GeneralCategory → Bool) :
    (categorySet picks).contains c = picks .uppercaseLetter := by
  have hn := bounds_of_isUpper h
  have hname : GeneralCategory.ofName? capitalRun.name = some .uppercaseLetter := by decide
  have hholds : (categorySet picks).contains c = categoryRuns.any fun run =>
      picks run.1 && run.2.holds c.toNat := by
    rw [CodePoints.contains, categorySet, CodePoints.holds_ofSpans, List.any_filterMap]
    congr 1
    funext run
    cases hpick : picks run.1 <;> simp [hpick, CodePoints.inSpan, NamedRun.holds]
  rw [hholds, Bool.eq_iff_iff, List.any_eq_true]
  simp only [Bool.and_eq_true]
  constructor
  · rintro ⟨⟨category, run⟩, hmem, hpick, hrun⟩
    obtain ⟨named, hnamed, hcategory⟩ := List.mem_filterMap.mp hmem
    obtain ⟨_, hread, heq⟩ := Option.map_eq_some_iff.mp hcategory
    cases heq
    rw [eq_capitalRun_of_holds hn hnamed hrun, hname] at hread
    cases hread
    exact hpick
  · intro hpick
    have hmem : (.uppercaseLetter, capitalRun) ∈ categoryRuns :=
      List.mem_filterMap.mpr ⟨capitalRun, capitalRun_mem, by rw [hname]; rfl⟩
    refine ⟨(.uppercaseLetter, capitalRun), hmem, hpick, ?_⟩
    rw [NamedRun.holds, Bool.and_eq_true, decide_eq_true_eq, decide_eq_true_eq]
    exact ⟨hn.1, Nat.le_of_lt_succ hn.2⟩

theorem isCaseIgnorable_of_isUpper (h : c.isUpper = true) : isCaseIgnorable c = false := by
  have hwords : insideWords.contains c = false := by
    have hnone : ∀ n < 91, 65 ≤ n → insideWords.holds n = false := by
      rw [insideWords, CodePoints.ofList]
      simp only [CodePoints.holds_ofSpans]
      decide +kernel
    exact hnone c.toNat (bounds_of_isUpper h).2 (bounds_of_isUpper h).1
  rw [isCaseIgnorable, caseIgnorableSet, CodePoints.contains_union, hwords,
    contains_categorySet_of_isUpper h]
  rfl

theorem isCased_of_isUpper (h : c.isUpper = true) : isCased c = true := by
  have hcapital : uppercaseSet.contains c = true := by
    rw [uppercaseSet, CodePoints.contains_union, GeneralCategory.set, contains_categorySet_of_isUpper h]
    rfl
  rw [isCased, casedSet, CodePoints.unionOf, CodePoints.contains, CodePoints.holds_ofSpans,
    List.any_flatMap, List.any_eq_true]
  exact ⟨uppercaseSet, .tail _ (.head _), hcapital⟩

/-! ## The final sigma -/

theorem meetsCased_of_isUpper (h : c.isUpper = true) (cs : List Char) : meetsCased (c :: cs) = true := by
  rw [meetsCased, List.dropWhile_cons_of_neg (by simp [isCaseIgnorable_of_isUpper h])]
  exact isCased_of_isUpper h

/-- The lower case of a capital letter and a capital sigma, in front of other characters. -/
theorem lowerChars_sigma (h : c.isUpper = true) (cs : List Char) :
    lowerChars (c :: 'Σ' :: cs) =
      lowerChar c ++ (if meetsCased cs then 'σ' else 'ς') :: lowerAfter ['Σ', c] cs := by
  have hne : c ≠ 'Σ' := by
    rintro rfl
    exact absurd h (by decide)
  rw [lowerChars, lowerAfter, if_neg hne, lowerAfter, if_pos rfl, endsWord,
    meetsCased_of_isUpper h]
  cases meetsCased cs <;> rfl

/-- In front of another capital letter, the lower case of a sigma is not what it is where the text ends. -/
theorem not_lowerChars_sigma_prefix {c' : Char} (h : c.isUpper = true) (h' : c'.isUpper = true)
    (cs : List Char) : ¬ lowerChars [c, 'Σ'] <+: lowerChars (c :: 'Σ' :: c' :: cs) := by
  rw [lowerChars_sigma h, lowerChars_sigma h, meetsCased_of_isUpper h', List.prefix_append_right_inj,
    List.cons_prefix_cons]
  rintro ⟨hsame, _⟩
  exact absurd hsame (by decide)

end CommandForms.Text
