import CommandForms.Proofs.Completion.Menus
import Mathlib.Data.List.Pairwise

/-!
# Options without namespaces

Options that a delimiter cuts nowhere are completed alike with the delimiter and without it, as long as none
of them starts another one and the input does not go on behind one of them: the first segments that a walk
looks at are the options themselves, and those that agree with the input are the ones that start with it.
-/

namespace CommandForms.Completion

open CommandForms.Text (lowerChars)

/-- A delimiter cuts an option nowhere: its segments are the option and the empty one at the end.  An empty
option has nothing that could be cut. -/
def Uncut (d : Delimiter) (option : String) : Prop :=
  segments d option.toList = [option.toList, []] ∨ option = ""

/-- No option is the start of one at another place, case aside. -/
def PrefixFree (options : List String) : Prop :=
  options.Pairwise fun a b =>
    ¬ lowerChars a.toList <+: lowerChars b.toList ∧ ¬ lowerChars b.toList <+: lowerChars a.toList

instance (d : Delimiter) (option : String) : Decidable (Uncut d option) :=
  inferInstanceAs (Decidable (segments d option.toList = [option.toList, []] ∨ option = ""))

instance (options : List String) : Decidable (PrefixFree options) :=
  inferInstanceAs (Decidable (options.Pairwise fun a b =>
    ¬ lowerChars a.toList <+: lowerChars b.toList ∧ ¬ lowerChars b.toList <+: lowerChars a.toList))

variable {d : Delimiter} {options : List String} {option other raw : String}

/-! ## Options as first segments -/

theorem Uncut.exists_segments (h : Uncut d option) :
    ∃ rest, segments d option.toList = option.toList :: rest ∧ rest.flatten = [] := by
  rcases h with hsegments | rfl
  · exact ⟨[[]], hsegments, rfl⟩
  · have hflatten := flatten_segments d "".toList
    cases hsegments : segments d "".toList with
    | nil => exact absurd hsegments (ended_segments d _).ne_nil
    | cons segment rest =>
        rw [hsegments, List.flatten_cons, String.toList_empty, List.append_eq_nil_iff] at hflatten
        exact ⟨rest, by rw [hflatten.1, String.toList_empty], hflatten.2⟩

theorem Uncut.eq_nil_of_behind (h : Uncut d option) {first segment : Segment} {common : List Segment}
    (hstart : first :: common ++ [segment] <+: segments d option.toList) : segment = [] := by
  obtain ⟨rest, hsegments, hrest⟩ := h.exists_segments
  rw [hsegments, List.cons_append, List.cons_prefix_cons] at hstart
  exact List.flatten_eq_nil_iff.mp hrest segment
    (hstart.2.subset (List.mem_append_right common (List.mem_singleton_self segment)))

theorem Uncut.folded_eq (h : Uncut d option) :
    folded (segments d option.toList) = lowerChars option.toList := by
  obtain ⟨rest, hsegments, hrest⟩ := h.exists_segments
  rw [hsegments, folded_cons, folded_eq_nil hrest, List.append_nil]

theorem heads_pathsOf (huncut : ∀ option ∈ options, Uncut d option) :
    heads (pathsOf d options) = options.map String.toList := by
  unfold heads pathsOf
  rw [List.filterMap_map, ← List.filterMap_eq_map]
  refine List.filterMap_congr fun option hoption => ?_
  obtain ⟨rest, hsegments, _⟩ := (huncut option hoption).exists_segments
  simp only [Function.comp_apply, hsegments, List.head?_cons]

/-! ## Options of which none starts another one -/

theorem PrefixFree.nodup (h : PrefixFree options) : options.Nodup := by
  refine List.Pairwise.imp (fun {a b} hfree heq => hfree.1 ?_) h
  rw [heq]

theorem PrefixFree.eq_of_prefix (h : PrefixFree options) (hoption : option ∈ options)
    (hother : other ∈ options) (hstart : lowerChars option.toList <+: lowerChars other.toList) :
    option = other := by
  by_contra hne
  have hsymm : Std.Symm fun a b : String =>
      ¬ lowerChars a.toList <+: lowerChars b.toList ∧ ¬ lowerChars b.toList <+: lowerChars a.toList :=
    ⟨fun _ _ hfree => hfree.symm⟩
  exact (List.Pairwise.forall h hoption hother hne).1 hstart

/-! ## The two ways to complete -/

/-- The options that start with an input, case aside. -/
def starting (options : List String) (raw : String) : List String :=
  options.filter fun option => (lowerChars raw.toList).isPrefixOf (lowerChars option.toList)

theorem mem_starting : option ∈ starting options raw ↔
    option ∈ options ∧ lowerChars raw.toList <+: lowerChars option.toList := by
  unfold starting
  rw [List.mem_filter, List.isPrefixOf_iff_prefix]

theorem PrefixFree.starting_nodup (h : PrefixFree options) (raw : String) :
    (starting options raw).Nodup :=
  h.nodup.filter _

/-- An input does not go on behind an option, case aside. -/
def StaysWithin (options : List String) (raw : String) : Prop :=
  ∀ option ∈ options, lowerChars option.toList <+: lowerChars raw.toList →
    lowerChars option.toList = lowerChars raw.toList

instance (options : List String) (raw : String) : Decidable (StaysWithin options raw) :=
  inferInstanceAs (Decidable (∀ option ∈ options, lowerChars option.toList <+: lowerChars raw.toList →
    lowerChars option.toList = lowerChars raw.toList))

theorem agreeing_pathsOf (huncut : ∀ option ∈ options, Uncut d option) (hfree : PrefixFree options)
    (hraw : StaysWithin options raw) :
    Trie.agreeing (lowerChars raw.toList) (pathsOf d options) =
      (starting options raw).map String.toList := by
  have hagree : ∀ option ∈ options, Trie.agree (lowerChars option.toList) (lowerChars raw.toList) =
      (lowerChars raw.toList).isPrefixOf (lowerChars option.toList) := by
    intro option hoption
    rw [Bool.eq_iff_iff, agree_iff, List.isPrefixOf_iff_prefix]
    refine or_iff_right_of_imp fun hread => ?_
    rw [hraw option hoption hread]
  have hnodup : ((starting options raw).map String.toList).Nodup :=
    List.Pairwise.map _ (fun _ _ hne heq => hne (String.toList_inj.mp heq)) (hfree.starting_nodup raw)
  unfold Trie.agreeing
  rw [heads_pathsOf huncut, List.filter_map, ← eraseDups_of_nodup hnodup]
  exact congrArg (fun options : List String => (options.map String.toList).eraseDups)
    (List.filter_congr hagree)

/-- An option that equals the input, case aside, is the only one that starts with it. -/
theorem PrefixFree.starting_of_same (h : PrefixFree options) (hoption : option ∈ options)
    (hsame : lowerChars option.toList = lowerChars raw.toList) : starting options raw = [option] := by
  have hmem : option ∈ starting options raw :=
    mem_starting.mpr ⟨hoption, by rw [hsame]⟩
  have honly : ∀ other ∈ starting options raw, other = option := by
    intro other hother
    obtain ⟨hother, hprefix⟩ := mem_starting.mp hother
    exact (h.eq_of_prefix hoption hother (hsame ▸ hprefix)).symm
  have hlength := h.starting_nodup raw
  rw [List.eq_replicate_of_mem honly, List.nodup_replicate] at hlength
  rw [List.eq_replicate_of_mem honly,
    Nat.le_antisymm hlength (List.length_pos_of_mem hmem), List.replicate_one]

theorem resolve_eq_of_starting (huncut : ∀ option ∈ options, Uncut d option) (hfree : PrefixFree options)
    (hraw : StaysWithin options raw) (hone : starting options raw = [option]) :
    (Trie.ofOptions d options).resolve raw = .complete option := by
  obtain ⟨hoption, hstarts⟩ := mem_starting.mp (hone ▸ List.mem_singleton_self option)
  have hleads : lowerChars raw.toList <+: folded (segments d option.toList) := by
    rwa [(huncut option hoption).folded_eq]
  cases h : (Trie.ofOptions d options).resolve raw with
  | complete text => rw [eq_of_resolve h hoption hleads]
  | ambiguous menu =>
      obtain ⟨common, next, hoffers, rfl⟩ := exists_offers_of_resolve h
      -- A menu would offer one segment twice: the option in front, or else the empty one behind an option.
      have hsame : ∃ segment, ∀ s ∈ next, s = segment := by
        cases common with
        | nil =>
            refine ⟨option.toList, fun s hs => ?_⟩
            obtain ⟨whole, hwhole, path, rfl⟩ := hoffers.leading s hs
            have hagree := hoffers.agrees s hs
            rw [List.nil_append, folded_singleton] at hagree
            have hmem : s ∈ Trie.agreeing (lowerChars raw.toList) (pathsOf d options) :=
              Trie.mem_agreeing.mpr ⟨⟨path, hwhole⟩, hagree⟩
            rw [agreeing_pathsOf huncut hfree hraw, hone] at hmem
            exact List.mem_singleton.mp hmem
        | cons first common =>
            refine ⟨[], fun s hs => ?_⟩
            obtain ⟨whole, hwhole, hprefix⟩ := hoffers.leading s hs
            obtain ⟨other, hother, rfl⟩ := List.mem_map.mp hwhole
            exact (huncut other hother).eq_nil_of_behind hprefix
      obtain ⟨segment, hsame⟩ := hsame
      obtain ⟨t, ht, hne⟩ := hoffers.exists_ne segment
      exact absurd (hsame t ht) hne

/-- Namespaces make no difference where there are none.  If the delimiter cuts no option and no option starts
another one, case aside, an input that does not go on behind an option is completed by the walk through the
segments to what it is completed to without a delimiter, the order of the candidates included. -/
theorem resolve_eq_plain (huncut : ∀ option ∈ options, Uncut d option) (hfree : PrefixFree options)
    (hraw : StaysWithin options raw) : (Trie.ofOptions d options).resolve raw = plain options raw := by
  cases hmember : member? options raw with
  | some option =>
      rw [plain, hmember]
      exact resolve_eq_of_starting huncut hfree hraw
        (hfree.starting_of_same (List.mem_of_find?_eq_some hmember) (lowerChars_of_member? hmember))
  | none =>
      -- The first step of the walk looks at the options that start with the input, in the same order.
      have hagreeing := agreeing_pathsOf huncut hfree hraw
      have hwalk : (Trie.ofOptions d options).resolve raw = _ :=
        (congrArg (·.resolve raw) (Trie.ofOptions_eq_ofPaths d options)).trans
          (Trie.walk_ofPaths raw (lowerChars raw.toList) [] (pathsOf d options))
      rw [plain, hmember]
      dsimp only
      rw [← starting]
      cases hstarting : starting options raw with
      | nil =>
          rw [hwalk, hagreeing, hstarting]
          exact arrive_eq []
      | cons first rest =>
          cases rest with
          | nil => exact resolve_eq_of_starting huncut hfree hraw hstarting
          | cons second rest =>
              rw [hwalk, hagreeing, hstarting]
              simp

theorem resolve_eq_plain_market :
    let options := ["bread", "Corn", "apple", "candy"]
    (∀ option ∈ options, Uncut AspectSet.delimiter option) ∧ PrefixFree options ∧
      StaysWithin options "C" ∧
      (Trie.ofOptions AspectSet.delimiter options).resolve "C" = plain options "C" ∧
      plain options "C" = .ambiguous ["Corn", "candy"] := by
  intro options
  have huncut : ∀ option ∈ options, Uncut AspectSet.delimiter option := by decide +kernel
  have hfree : PrefixFree options := by decide +kernel
  have hraw : StaysWithin options "C" := by decide +kernel
  exact ⟨huncut, hfree, hraw, resolve_eq_plain huncut hfree hraw, by decide +kernel⟩

end CommandForms.Completion
