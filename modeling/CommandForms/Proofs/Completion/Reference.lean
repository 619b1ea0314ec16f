import CommandForms.Proofs.Completion.Paths
import CommandForms.Aspects
import Mathlib.Data.List.Infix

/-!
# What a segment completion means

The completion that a walk finds, said of the list of options alone: which options start with the input,
how far they go together, and how far the input goes along an option when none of them starts with it.
This holds for options of which no segment starts another one at the place where two options part.
-/

namespace CommandForms.Completion

open CommandForms.Text (lowerChars)

variable {raw : String} {input output : List Char} {segment : Segment}
  {path other : List Segment} {paths : List (List Segment)}

/-! ## Paths that part -/

/-- Where two paths first have different segments, neither of these segments is a prefix of the other, case
aside. -/
def PartClearly (path other : List Segment) : Prop :=
  ∀ common a b rest rest', path = common ++ a :: rest → other = common ++ b :: rest' → a ≠ b →
    ¬ lowerChars a <+: lowerChars b ∧ ¬ lowerChars b <+: lowerChars a

/-- Two paths part: they have different segments at some place, and neither of these is a prefix of the
other, case aside. -/
def Apart : List Segment → List Segment → Prop
  | a :: path, b :: other =>
      if a = b then Apart path other
      else ¬ lowerChars a <+: lowerChars b ∧ ¬ lowerChars b <+: lowerChars a
  | _, _ => False

/-- Different ended paths that part clearly do part, because none goes on behind the end of another. -/
theorem apart_of_partClearly (hpath : Ended path) (hother : Ended other) (hne : path ≠ other)
    (h : PartClearly path other) : Apart path other := by
  induction path generalizing other with
  | nil => exact absurd rfl hpath.ne_nil
  | cons a path ih =>
      cases other with
      | nil => exact absurd rfl hother.ne_nil
      | cons b other =>
          unfold Apart
          split
          · rename_i heq
            subst heq
            have hrest : path ≠ other := fun heq => hne (heq ▸ rfl)
            have hclear : PartClearly path other := by
              intro common c d rest rest' hc hd hcd
              exact h (a :: common) c d rest rest' (by rw [hc]; rfl) (by rw [hd]; rfl) hcd
            rcases hpath.tail with ⟨rfl, rfl⟩ | ⟨hsegment, hpath'⟩
            · rcases hother.tail with ⟨_, rfl⟩ | ⟨hsegment, _⟩
              · exact absurd rfl hrest
              · exact absurd rfl hsegment
            · rcases hother.tail with ⟨rfl, _⟩ | ⟨_, hother'⟩
              · exact absurd rfl hsegment
              · exact ih hpath' hother' hrest hclear
          · rename_i hab
            exact h [] a b path other rfl rfl hab

theorem partClearly_of_apart (h : Apart path other) : PartClearly path other := by
  intro common a b rest rest' hpath hother hne
  induction common generalizing path other with
  | nil =>
      subst hpath hother
      rwa [List.nil_append, List.nil_append, Apart, if_neg hne] at h
  | cons c common ih =>
      subst hpath hother
      rw [List.cons_append, List.cons_append, Apart, if_pos rfl] at h
      exact ih h rfl rfl

/-- Whether two paths part is found by comparing them segment by segment. -/
instance decidableApart : (path other : List Segment) → Decidable (Apart path other)
  | a :: path, b :: other =>
      have := decidableApart path other
      inferInstanceAs (Decidable (if a = b then Apart path other
        else ¬ lowerChars a <+: lowerChars b ∧ ¬ lowerChars b <+: lowerChars a))
  | [], _ => inferInstanceAs (Decidable False)
  | _ :: _, [] => inferInstanceAs (Decidable False)

/-! ## Prefixes of texts in parts -/

theorem agree_iff {a b : List Char} : Trie.agree a b = true ↔ a <+: b ∨ b <+: a := by
  unfold Trie.agree
  rw [Bool.or_eq_true, List.isPrefixOf_iff_prefix, List.isPrefixOf_iff_prefix]

/-- An input is a prefix of a text in two parts when it agrees with the first part, and what is left of it
is a prefix of the second part. -/
theorem prefix_append_iff {a b : List Char} :
    input <+: a ++ b ↔ Trie.agree a input = true ∧ input.drop a.length <+: b := by
  rw [agree_iff]
  constructor
  · intro h
    refine ⟨List.prefix_or_prefix_of_prefix (List.prefix_append a b) h, ?_⟩
    have hdrop : input.drop a.length <+: (a ++ b).drop a.length := List.IsPrefix.drop h a.length
    rwa [List.drop_left] at hdrop
  · rintro ⟨hfront | hfront, hrest⟩
    · obtain ⟨rest, rfl⟩ := hfront
      rw [List.drop_left] at hrest
      exact (List.prefix_append_right_inj a).mpr hrest
    · exact hfront.trans (List.prefix_append a b)

theorem append_prefix_iff {a b : List Char} :
    a ++ b <+: input ↔ a <+: input ∧ b <+: input.drop a.length := by
  constructor
  · intro h
    obtain ⟨rest, rfl⟩ := h
    rw [List.append_assoc, List.drop_left]
    exact ⟨List.prefix_append _ _, List.prefix_append _ _⟩
  · rintro ⟨⟨rest, rfl⟩, hrest⟩
    rw [List.drop_left] at hrest
    exact (List.prefix_append_right_inj a).mpr hrest

/-! ## The reference meaning -/

/-- The paths whose text starts with an input, case aside. -/
def matching (input : List Char) (paths : List (List Segment)) : List (List Segment) :=
  paths.filter fun path => input.isPrefixOf (folded path)

theorem mem_matching : path ∈ matching input paths ↔ path ∈ paths ∧ input <+: folded path := by
  unfold matching
  rw [List.mem_filter, List.isPrefixOf_iff_prefix]

/-- The longest path that all paths start with. -/
structure LongestCommon (paths : List (List Segment)) (common : List Segment) : Prop where
  shared : ∀ path ∈ paths, common <+: path
  longest : ∀ longer, (∀ path ∈ paths, longer <+: path) → longer.length ≤ common.length

/-- The segments that paths go on with behind a common start, each of them once. -/
def nextSegments (common : List Segment) (paths : List (List Segment)) : List Segment :=
  (paths.filterMap fun path => path[common.length]?).eraseDups

/-- A path is empty or the start of one of several paths. -/
def Leading (paths : List (List Segment)) (path : List Segment) : Prop :=
  path = [] ∨ ∃ whole ∈ paths, path <+: whole

/-- The longest leading path whose text the input starts with, case aside. -/
structure LongestLeading (input : List Char) (paths : List (List Segment)) (path : List Segment) :
    Prop where
  leading : Leading paths path
  read : folded path <+: input
  longest : ∀ longer, Leading paths longer → folded longer <+: input → longer.length ≤ path.length

/-- What the completion of an input has to be, said of the paths of the options alone. -/
structure Meets (raw : String) (input output : List Char) (paths : List (List Segment))
    (completion : Completion) : Prop where
  one : ∀ path ∈ matching input paths, (∀ other ∈ matching input paths, other = path) →
    completion = Trie.arrive raw (output ++ path.flatten)
  several : ∀ path ∈ matching input paths, ∀ other ∈ matching input paths, path ≠ other →
    ∃ common, LongestCommon (matching input paths) common ∧
      completion = .ambiguous ((nextSegments common (matching input paths)).map fun segment =>
        String.ofList (output ++ common.flatten ++ segment))
  none : matching input paths = [] →
    ∃ path, LongestLeading input paths path ∧
      completion = Trie.arrive raw (output ++ path.flatten)

/-! ## The steps of a walk -/

theorem mem_agreeing_of_matching (h : segment :: path ∈ matching input paths) :
    segment ∈ Trie.agreeing input paths := by
  obtain ⟨hpath, hmatch⟩ := mem_matching.mp h
  exact Trie.mem_agreeing.mpr ⟨⟨path, hpath⟩, (prefix_append_iff.mp hmatch).1⟩

/-- The first segment of a leading path that the input starts with agrees with the input. -/
theorem mem_agreeing_of_leading (h : Leading paths (segment :: path))
    (hread : folded (segment :: path) <+: input) : segment ∈ Trie.agreeing input paths := by
  rcases h with hnil | ⟨whole, hwhole, rest, rfl⟩
  · cases hnil
  · have hfront := (append_prefix_iff.mp hread).1
    exact Trie.mem_agreeing.mpr ⟨⟨path ++ rest, hwhole⟩, agree_iff.mpr (.inl hfront)⟩

/-- Where no first segment agrees, the walk is at the end of the only option, or no option matches. -/
theorem meets_of_none (hnone : Trie.agreeing input paths = []) :
    Meets raw input output paths (Trie.arrive raw output) := by
  have hempty : ∀ path ∈ matching input paths, path = [] := by
    intro path hpath
    cases path with
    | nil => rfl
    | cons segment path =>
        have hmem := mem_agreeing_of_matching hpath
        rw [hnone] at hmem
        cases hmem
  constructor
  · intro path hpath _
    rw [hempty path hpath, List.flatten_nil, List.append_nil]
  · intro path hpath other hother hne
    exact absurd ((hempty path hpath).trans (hempty other hother).symm) hne
  · intro _
    refine ⟨[], ⟨.inl rfl, List.nil_prefix, fun longer hleading hread => ?_⟩, ?_⟩
    · cases longer with
      | nil => exact Nat.le_refl _
      | cons segment longer =>
          have hmem := mem_agreeing_of_leading hleading hread
          rw [hnone] at hmem
          cases hmem
    · rw [List.flatten_nil, List.append_nil]

def AllApart (paths : List (List Segment)) : Prop :=
  ∀ path ∈ paths, ∀ other ∈ paths, path ≠ other → Apart path other

theorem AllApart.behind (h : AllApart paths) (segment : Segment) : AllApart (behind segment paths) := by
  intro path hpath other hother hne
  have hapart := h _ (mem_behind.mp hpath) _ (mem_behind.mp hother) (by simpa using hne)
  rwa [Apart, if_pos rfl] at hapart

theorem AllApart.not_prefix (h : AllApart paths) {a b : Segment} (ha : a :: path ∈ paths)
    (hb : b :: other ∈ paths) (hne : a ≠ b) :
    ¬ lowerChars a <+: lowerChars b ∧ ¬ lowerChars b <+: lowerChars a := by
  have hapart := h _ ha _ hb fun heq => hne (List.cons.inj heq).1
  rwa [Apart, if_neg hne] at hapart

theorem AllApart.ne_nil (h : AllApart paths) (hpath : segment :: path ∈ paths)
    (hother : other ∈ paths) : other ≠ [] := by
  rintro rfl
  exact h _ hother _ hpath (List.cons_ne_nil _ _).symm

/-- Where every path that matches starts with one segment, the paths behind it match what is left of the
input. -/
theorem matching_eq_map (hagree : Trie.agree (lowerChars segment) input = true)
    (hfirst : ∀ path ∈ matching input paths, ∃ rest, path = segment :: rest) :
    matching input paths =
      (matching (input.drop (lowerChars segment).length) (behind segment paths)).map
        (segment :: ·) := by
  induction paths with
  | nil => rfl
  | cons path paths ih =>
      have hlater : ∀ path ∈ matching input paths, ∃ rest, path = segment :: rest := by
        intro other hother
        obtain ⟨hmem, hmatch⟩ := mem_matching.mp hother
        exact hfirst other (mem_matching.mpr ⟨.tail _ hmem, hmatch⟩)
      by_cases hpath : ∃ rest, path = segment :: rest
      · obtain ⟨rest, rfl⟩ := hpath
        have hbehind : behind segment ((segment :: rest) :: paths) = rest :: behind segment paths := by
          simp [behind, behind?]
        have hsame : input.isPrefixOf (folded (segment :: rest)) =
            (input.drop (lowerChars segment).length).isPrefixOf (folded rest) := by
          rw [Bool.eq_iff_iff, List.isPrefixOf_iff_prefix, List.isPrefixOf_iff_prefix, folded_cons,
            prefix_append_iff]
          simp only [hagree, true_and]
        rw [hbehind, matching, matching, List.filter_cons, List.filter_cons, hsame]
        split
        · exact congrArg (_ :: ·) (ih hlater)
        · exact ih hlater
      · have hbehind : behind segment (path :: paths) = behind segment paths := by
          cases path with
          | nil => rfl
          | cons first rest =>
              have hne : first ≠ segment := fun heq => hpath ⟨rest, heq ▸ rfl⟩
              simp [behind, behind?, hne]
        have hnone : input.isPrefixOf (folded path) = false := by
          cases hmatch : input.isPrefixOf (folded path) with
          | false => rfl
          | true =>
              rw [List.isPrefixOf_iff_prefix] at hmatch
              exact absurd (hfirst path (mem_matching.mpr ⟨.head _, hmatch⟩)) hpath
        rw [hbehind, matching, List.filter_cons, hnone]
        exact ih hlater

/-- A longest common start of paths is one of the paths with a segment in front as well. -/
theorem LongestCommon.cons {common : List Segment} (h : LongestCommon paths common) :
    LongestCommon (paths.map (segment :: ·)) (segment :: common) := by
  constructor
  · intro path hpath
    obtain ⟨rest, hrest, rfl⟩ := List.mem_map.mp hpath
    exact (List.prefix_cons_inj segment).mpr (h.shared rest hrest)
  · intro longer hlonger
    cases longer with
    | nil => exact Nat.zero_le _
    | cons first longer =>
        rw [List.length_cons, List.length_cons]
        refine Nat.succ_le_succ (h.longest longer fun rest hrest => ?_)
        exact (List.cons_prefix_cons.mp (hlonger _ (List.mem_map_of_mem hrest))).2

theorem nextSegments_cons (common : List Segment) :
    nextSegments (segment :: common) (paths.map (segment :: ·)) = nextSegments common paths := by
  unfold nextSegments
  rw [List.filterMap_map]
  rfl

/-- The longest leading path goes through the one first segment that agrees, when the input starts with
it. -/
theorem LongestLeading.cons (hone : Trie.agreeing input paths = [segment])
    (hpath : segment :: path ∈ paths) (hread : lowerChars segment <+: input)
    (h : LongestLeading (input.drop (lowerChars segment).length) (behind segment paths) other) :
    LongestLeading input paths (segment :: other) := by
  refine ⟨?_, append_prefix_iff.mpr ⟨hread, h.read⟩, fun longer hleading hlonger => ?_⟩
  · rcases h.leading with rfl | ⟨whole, hwhole, hprefix⟩
    · exact .inr ⟨segment :: path, hpath, path, rfl⟩
    · exact .inr ⟨segment :: whole, mem_behind.mp hwhole, (List.prefix_cons_inj segment).mpr hprefix⟩
  · cases longer with
    | nil => exact Nat.zero_le _
    | cons first longer =>
        have hagreeing := mem_agreeing_of_leading hleading hlonger
        rw [hone, List.mem_singleton] at hagreeing
        subst hagreeing
        rw [List.length_cons, List.length_cons]
        refine Nat.succ_le_succ (h.longest longer ?_ (append_prefix_iff.mp hlonger).2)
        rcases hleading with hnil | ⟨whole, hwhole, hprefix⟩
        · cases hnil
        · cases whole with
          | nil => cases List.prefix_nil.mp hprefix
          | cons first' whole =>
              obtain ⟨rfl, hrest⟩ := List.cons_prefix_cons.mp hprefix
              exact .inr ⟨whole, mem_behind.mpr hwhole, hrest⟩

theorem meets_of_one (hapart : AllApart paths) (hone : Trie.agreeing input paths = [segment])
    {completion : Completion}
    (h : Meets raw (input.drop (lowerChars segment).length) (output ++ segment)
      (behind segment paths) completion) :
    Meets raw input output paths completion := by
  have hmem : segment ∈ Trie.agreeing input paths := by
    rw [hone]
    exact List.mem_singleton_self segment
  obtain ⟨⟨rest, hrest⟩, hagree⟩ := Trie.mem_agreeing.mp hmem
  have hfirst : ∀ path ∈ matching input paths, ∃ rest, path = segment :: rest := by
    intro path hpath
    cases path with
    | nil => exact absurd rfl (hapart.ne_nil hrest (mem_matching.mp hpath).1)
    | cons first path =>
        have hagreeing := mem_agreeing_of_matching hpath
        rw [hone, List.mem_singleton] at hagreeing
        exact ⟨path, hagreeing ▸ rfl⟩
  have hmatching := matching_eq_map hagree hfirst
  constructor
  · intro path hpath honly
    rw [hmatching] at hpath honly
    obtain ⟨path', hpath', rfl⟩ := List.mem_map.mp hpath
    have honly' : ∀ other ∈ matching (input.drop (lowerChars segment).length)
        (behind segment paths), other = path' := by
      intro other hother
      exact (List.cons.inj (honly _ (List.mem_map_of_mem hother))).2
    rw [h.one path' hpath' honly', List.flatten_cons, List.append_assoc]
  · intro path hpath other hother hne
    rw [hmatching] at hpath hother ⊢
    obtain ⟨path', hpath', rfl⟩ := List.mem_map.mp hpath
    obtain ⟨other', hother', rfl⟩ := List.mem_map.mp hother
    have hne' : path' ≠ other' := fun heq => hne (heq ▸ rfl)
    obtain ⟨common, hcommon, hcompletion⟩ := h.several path' hpath' other' hother' hne'
    refine ⟨segment :: common, hcommon.cons, ?_⟩
    rw [nextSegments_cons, hcompletion, List.flatten_cons, List.append_assoc]
  · intro hnone
    have hnone' : matching (input.drop (lowerChars segment).length) (behind segment paths) = [] := by
      rw [hmatching] at hnone
      exact List.map_eq_nil_iff.mp hnone
    -- An input that ended within the segment would lead to the path behind it.
    have hread : lowerChars segment <+: input := by
      rcases agree_iff.mp hagree with hread | hmatch
      · exact hread
      · have hmem : segment :: rest ∈ matching input paths :=
          mem_matching.mpr ⟨hrest, hmatch.trans (List.prefix_append _ _)⟩
        rw [hnone] at hmem
        cases hmem
    obtain ⟨path, hpath, hcompletion⟩ := h.none hnone'
    refine ⟨segment :: path, hpath.cons hone hrest hread, ?_⟩
    rw [hcompletion, List.flatten_cons, List.append_assoc]

/-- Where the input ends within every first segment that agrees with it, the first segments of the paths
that match are those that agree. -/
theorem filterMap_head?_matching
    (hends : ∀ s ∈ heads paths, Trie.agree (lowerChars s) input = true → input <+: lowerChars s) :
    (matching input paths).filterMap List.head? =
      (heads paths).filter fun s => Trie.agree (lowerChars s) input := by
  induction paths with
  | nil => rfl
  | cons path paths ih =>
      cases path with
      | nil =>
          rw [matching, List.filter_cons]
          split <;> exact ih hends
      | cons segment path =>
          obtain ⟨hhead, htail⟩ := List.forall_mem_cons.mp
            (show ∀ s ∈ segment :: heads paths, _ from hends)
          have hsame : input.isPrefixOf (folded (segment :: path)) =
              Trie.agree (lowerChars segment) input := by
            rw [Bool.eq_iff_iff, List.isPrefixOf_iff_prefix, folded_cons]
            constructor
            · intro h
              exact (prefix_append_iff.mp h).1
            · intro h
              exact (hhead h).trans (List.prefix_append _ _)
          have hheads : heads ((segment :: path) :: paths) = segment :: heads paths := rfl
          rw [matching, List.filter_cons, hsame, hheads, List.filter_cons]
          split
          · exact congrArg (segment :: ·) (ih htail)
          · exact ih htail

/-- Where two different first segments agree with the input, the input ends within each of them. -/
theorem AllApart.input_prefix (h : AllApart paths) {s t : Segment}
    (hs : s ∈ Trie.agreeing input paths) (ht : t ∈ Trie.agreeing input paths) (hne : s ≠ t) :
    input <+: lowerChars s := by
  obtain ⟨⟨path, hpath⟩, hagree⟩ := Trie.mem_agreeing.mp hs
  obtain ⟨⟨other, hother⟩, hagree'⟩ := Trie.mem_agreeing.mp ht
  obtain ⟨hst, hts⟩ := h.not_prefix hpath hother hne
  rcases agree_iff.mp hagree with hread | hends
  · rcases agree_iff.mp hagree' with hread' | hends'
    · rcases List.prefix_or_prefix_of_prefix hread hread' with hprefix | hprefix
      · exact absurd hprefix hst
      · exact absurd hprefix hts
    · exact absurd (hread.trans hends') hst
  · exact hends

theorem meets_of_several (hapart : AllApart paths)
    (hseveral : 2 ≤ (Trie.agreeing input paths).length) :
    Meets raw input output paths
      (.ambiguous ((Trie.agreeing input paths).map fun s => String.ofList (output ++ s))) := by
  obtain ⟨first, hfirst, second, hsecond, hdistinct⟩ := exists_ne_of_two_le hseveral
  change first ∈ Trie.agreeing input paths at hfirst
  change second ∈ Trie.agreeing input paths at hsecond
  -- An input that went on behind one of them could not agree with another, since they part.
  have hends : ∀ s ∈ heads paths, Trie.agree (lowerChars s) input = true →
      input <+: lowerChars s := by
    intro s hs hagree
    have hmem : s ∈ Trie.agreeing input paths := Trie.mem_agreeing.mpr ⟨mem_heads.mp hs, hagree⟩
    by_cases heq : s = first
    · exact hapart.input_prefix hmem hsecond (heq ▸ hdistinct)
    · exact hapart.input_prefix hmem hfirst heq
  have hmatch : ∀ s ∈ Trie.agreeing input paths, ∃ path, s :: path ∈ matching input paths := by
    intro s hs
    obtain ⟨⟨path, hpath⟩, hagree⟩ := Trie.mem_agreeing.mp hs
    have hprefix := hends s (mem_heads.mpr ⟨path, hpath⟩) hagree
    exact ⟨path, mem_matching.mpr ⟨hpath, hprefix.trans (List.prefix_append _ _)⟩⟩
  obtain ⟨path, hpath⟩ := hmatch first hfirst
  obtain ⟨path', hpath'⟩ := hmatch second hsecond
  constructor
  · intro only _ honly
    have heq := (honly _ hpath).trans (honly _ hpath').symm
    exact absurd (List.cons.inj heq).1 hdistinct
  · intro _ _ _ _ _
    refine ⟨[], ⟨fun _ _ => List.nil_prefix, fun longer hlonger => ?_⟩, ?_⟩
    · cases longer with
      | nil => exact Nat.le_refl _
      | cons segment longer =>
          have hone := (List.cons_prefix_cons.mp (hlonger _ hpath)).1
          have htwo := (List.cons_prefix_cons.mp (hlonger _ hpath')).1
          exact absurd (hone.symm.trans htwo) hdistinct
    · have hnext : nextSegments [] (matching input paths) = Trie.agreeing input paths := by
        have hheads := filterMap_head?_matching hends
        unfold nextSegments Trie.agreeing
        rw [← hheads]
        refine congrArg List.eraseDups (List.filterMap_congr fun path _ => ?_)
        exact List.head?_eq_getElem?.symm
      rw [hnext, List.flatten_nil, List.append_nil]
  · intro hnone
    rw [hnone] at hpath
    cases hpath

/-- One step of a walk, where the walk behind the step has the meaning already. -/
theorem meets_step (hapart : AllApart paths)
    (h : ∀ segment, Trie.agreeing input paths = [segment] →
      Meets raw (input.drop (lowerChars segment).length) (output ++ segment) (behind segment paths)
        ((Trie.ofPaths (behind segment paths)).walk raw (input.drop (lowerChars segment).length)
          (output ++ segment))) :
    Meets raw input output paths ((Trie.ofPaths paths).walk raw input output) := by
  rw [Trie.walk_ofPaths]
  cases hagreeing : Trie.agreeing input paths with
  | nil => exact meets_of_none hagreeing
  | cons first rest =>
      cases rest with
      | nil => exact meets_of_one hapart hagreeing (h first hagreeing)
      | cons second rest =>
          have hseveral : Meets raw input output paths
              (.ambiguous ((Trie.agreeing input paths).map fun s => String.ofList (output ++ s))) :=
            meets_of_several hapart (by simp [hagreeing])
          rw [hagreeing] at hseveral
          exact hseveral

/-- A walk through the trie of paths that part has the reference meaning. -/
theorem meets_walk (hapart : AllApart paths) :
    Meets raw input output paths ((Trie.ofPaths paths).walk raw input output) := by
  obtain ⟨bound, hbound⟩ : ∃ bound, ∀ path ∈ paths, path.length ≤ bound :=
    ⟨(paths.map List.length).max?.getD 0, fun path hpath =>
      List.le_max?_getD_of_mem (List.mem_map_of_mem hpath)⟩
  induction bound generalizing input output paths with
  | zero =>
      apply meets_step hapart
      intro segment hone
      have hmem : segment ∈ Trie.agreeing input paths := hone ▸ List.mem_singleton_self segment
      obtain ⟨⟨path, hpath⟩, _⟩ := Trie.mem_agreeing.mp hmem
      exact absurd (hbound _ hpath) (Nat.not_succ_le_zero _)
  | succ bound ih =>
      apply meets_step hapart
      intro segment _
      apply ih (hapart.behind segment)
      intro path hpath
      exact Nat.le_of_succ_le_succ (hbound _ (mem_behind.mp hpath))

/-! ## Options -/

def pathsOf (d : Delimiter) (options : List String) : List (List Segment) :=
  options.map fun option => segments d option.toList

/-- The options whose segments in lower case start with an input in lower case, each of them once. -/
def candidates (d : Delimiter) (options : List String) (raw : String) : List String :=
  (options.filter fun option =>
    (lowerChars raw.toList).isPrefixOf (folded (segments d option.toList))).eraseDups

def AllPartClearly (d : Delimiter) (options : List String) : Prop :=
  ∀ option ∈ options, ∀ other ∈ options, option ≠ other →
    PartClearly (segments d option.toList) (segments d other.toList)

variable {d : Delimiter} {options : List String} {option : String}

theorem allApart_pathsOf (h : AllPartClearly d options) : AllApart (pathsOf d options) := by
  intro path hpath other hother hne
  obtain ⟨option, hoption, rfl⟩ := List.mem_map.mp hpath
  obtain ⟨option', hoption', rfl⟩ := List.mem_map.mp hother
  have hdiffer : option ≠ option' := fun heq => hne (heq ▸ rfl)
  exact apart_of_partClearly (ended_segments d _) (ended_segments d _) hne
    (h option hoption option' hoption' hdiffer)

theorem mem_candidates : option ∈ candidates d options raw ↔
    option ∈ options ∧ lowerChars raw.toList <+: folded (segments d option.toList) := by
  unfold candidates
  rw [List.mem_eraseDups, List.mem_filter, List.isPrefixOf_iff_prefix]

theorem matching_pathsOf : matching (lowerChars raw.toList) (pathsOf d options) =
    (options.filter fun option =>
      (lowerChars raw.toList).isPrefixOf (folded (segments d option.toList))).map fun option =>
        segments d option.toList := by
  unfold matching pathsOf
  rw [List.filter_map]
  rfl

theorem mem_matching_iff_mem_candidates :
    path ∈ matching (lowerChars raw.toList) (pathsOf d options) ↔
      path ∈ pathsOf d (candidates d options raw) := by
  rw [matching_pathsOf]
  unfold pathsOf candidates
  simp only [List.mem_map, List.mem_eraseDups]

theorem nextSegments_matching (common : List Segment) :
    nextSegments common (matching (lowerChars raw.toList) (pathsOf d options)) =
      nextSegments common (pathsOf d (candidates d options raw)) := by
  rw [matching_pathsOf]
  unfold nextSegments pathsOf candidates
  rw [List.filterMap_map, List.filterMap_map, eraseDups_filterMap_eraseDups]

theorem LongestCommon.congr {paths' : List (List Segment)} {common : List Segment}
    (h : LongestCommon paths common) (hsame : ∀ path, path ∈ paths ↔ path ∈ paths') :
    LongestCommon paths' common := by
  constructor
  · intro path hpath
    exact h.shared path ((hsame path).mpr hpath)
  · intro longer hlonger
    exact h.longest longer fun path hpath => hlonger path ((hsame path).mp hpath)

theorem arrive_eq (output : List Char) :
    Trie.arrive raw output =
      .complete (if output = [] then raw else String.ofList output) := by
  unfold Trie.arrive
  cases output with
  | nil => rfl
  | cons c cs => rfl

/-- The completion of an input among options that part clearly is determined by the candidates.  A single
candidate is the completion.  Several candidates are offered by their longest common segments with each of
their next segments, in the order in which these were declared.  Without a candidate, the completion is
the longest leading path of an option that the input starts with, and the input itself when that is
empty. -/
theorem resolve_reference (hclear : AllPartClearly d options) (raw : String) :
    (∀ option, candidates d options raw = [option] →
      (Trie.ofOptions d options).resolve raw = .complete option) ∧
    (2 ≤ (candidates d options raw).length →
      ∃ common, LongestCommon (pathsOf d (candidates d options raw)) common ∧
        (Trie.ofOptions d options).resolve raw =
          .ambiguous ((nextSegments common (pathsOf d (candidates d options raw))).map fun segment =>
            String.ofList (common.flatten ++ segment))) ∧
    (candidates d options raw = [] →
      ∃ path, LongestLeading (lowerChars raw.toList) (pathsOf d options) path ∧
        (Trie.ofOptions d options).resolve raw =
          .complete (if path.flatten = [] then raw else String.ofList path.flatten)) := by
  have hmeets : Meets raw (lowerChars raw.toList) [] (pathsOf d options)
      ((Trie.ofOptions d options).resolve raw) := by
    unfold Trie.resolve
    rw [Trie.ofOptions_eq_ofPaths]
    exact meets_walk (allApart_pathsOf hclear)
  refine ⟨fun option hone => ?_, fun hseveral => ?_, fun hnone => ?_⟩
  · have hpaths : ∀ path, path ∈ matching (lowerChars raw.toList) (pathsOf d options) ↔
        path = segments d option.toList := by
      intro path
      rw [mem_matching_iff_mem_candidates, hone]
      exact List.mem_singleton
    have hcompletion := hmeets.one _ ((hpaths _).mpr rfl) fun other hother => (hpaths other).mp hother
    have hinput := (mem_candidates.mp (hone ▸ List.mem_singleton_self option)).2
    rw [hcompletion, arrive_eq, List.nil_append, flatten_segments]
    -- For the empty option the walk gives the input back, which is empty as well.
    split
    · rename_i hempty
      rw [folded_eq_nil ((flatten_segments d option.toList).trans hempty)] at hinput
      have hraw : raw.toList = [] := lowerChars_eq_nil (List.prefix_nil.mp hinput)
      rw [String.toList_inj.mp (hraw.trans hempty.symm)]
    · rw [String.ofList_toList]
  · obtain ⟨first, hfirst, second, hsecond, hdistinct⟩ := exists_ne_of_two_le hseveral
    have hpath : ∀ option ∈ candidates d options raw, segments d option.toList ∈
        matching (lowerChars raw.toList) (pathsOf d options) := by
      intro option hoption
      exact mem_matching_iff_mem_candidates.mpr (List.mem_map_of_mem hoption)
    have hne : segments d first.toList ≠ segments d second.toList := by
      intro heq
      exact hdistinct (String.toList_inj.mp (segments_injective heq))
    obtain ⟨common, hcommon, hcompletion⟩ :=
      hmeets.several _ (hpath first hfirst) _ (hpath second hsecond) hne
    refine ⟨common, hcommon.congr fun path => mem_matching_iff_mem_candidates, ?_⟩
    rw [hcompletion, nextSegments_matching]
    rfl
  · have hmatching : matching (lowerChars raw.toList) (pathsOf d options) = [] := by
      rw [List.eq_nil_iff_forall_not_mem]
      intro path hpath
      rw [mem_matching_iff_mem_candidates, hnone] at hpath
      cases hpath
    obtain ⟨path, hpath, hcompletion⟩ := hmeets.none hmatching
    refine ⟨path, hpath, ?_⟩
    rw [hcompletion, arrive_eq]
    rfl

/-- Two options of one namespace and an option without one. -/
def pointedOptions : List String := ["app.one", "app.two", "base"]

theorem resolve_reference_pointedOptions :
    AllPartClearly AspectSet.delimiter pointedOptions ∧
      (candidates AspectSet.delimiter pointedOptions "B" = ["base"] ∧
        (Trie.ofOptions AspectSet.delimiter pointedOptions).resolve "B" = .complete "base") ∧
      (candidates AspectSet.delimiter pointedOptions "a" = ["app.one", "app.two"] ∧
        ∃ common, LongestCommon (pathsOf AspectSet.delimiter ["app.one", "app.two"]) common ∧
          (Trie.ofOptions AspectSet.delimiter pointedOptions).resolve "a" = .ambiguous
            ((nextSegments common (pathsOf AspectSet.delimiter ["app.one", "app.two"])).map fun segment =>
              String.ofList (common.flatten ++ segment))) ∧
      candidates AspectSet.delimiter pointedOptions "app.x" = [] ∧
        ∃ path, LongestLeading (lowerChars "app.x".toList) (pathsOf AspectSet.delimiter pointedOptions) path ∧
          (Trie.ofOptions AspectSet.delimiter pointedOptions).resolve "app.x" =
            .complete (if path.flatten = [] then "app.x" else String.ofList path.flatten) := by
  have hapart : ∀ option ∈ pointedOptions, ∀ other ∈ pointedOptions, option ≠ other →
      Apart (segments AspectSet.delimiter option.toList)
        (segments AspectSet.delimiter other.toList) := by
    decide +kernel
  have hclear : AllPartClearly AspectSet.delimiter pointedOptions :=
    fun option hoption other hother hne => partClearly_of_apart (hapart option hoption other hother hne)
  have hone : candidates AspectSet.delimiter pointedOptions "B" = ["base"] := by decide +kernel
  have hseveral : candidates AspectSet.delimiter pointedOptions "a" = ["app.one", "app.two"] := by
    decide +kernel
  have hnone : candidates AspectSet.delimiter pointedOptions "app.x" = [] := by decide +kernel
  have hmenu := (resolve_reference hclear "a").2.1
  rw [hseveral] at hmenu
  exact ⟨hclear, ⟨hone, (resolve_reference hclear "B").1 "base" hone⟩, ⟨hseveral, hmenu (by decide)⟩,
    hnone, (resolve_reference hclear "app.x").2.2 hnone⟩

end CommandForms.Completion
