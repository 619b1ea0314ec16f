import CommandForms.Proofs.Completion.Segments
import Mathlib.Data.List.Induction

/-!
# Tries as lists of paths

The trie of a list of paths, described by the list: its children are the first segments of the paths, each
with the trie of what is left of the paths behind it.  A walk is followed from node to node by that
description alone.
-/

namespace CommandForms.Completion

open CommandForms.Text (lowerChars)

/-! ## Distinct entries in order of first occurrence -/

section Distinct

variable {α : Type} [BEq α] [LawfulBEq α]

theorem eraseDups_concat (as : List α) (a : α) :
    (as ++ [a]).eraseDups = if a ∈ as then as.eraseDups else as.eraseDups ++ [a] := by
  rw [List.eraseDups_append]
  split
  · rename_i hmem
    simp [List.removeAll, hmem]
  · rename_i hmem
    simp [List.removeAll, hmem, List.eraseDups_cons]

theorem nodup_eraseDups (as : List α) : as.eraseDups.Nodup := by
  induction as using List.reverseRecOn with
  | nil => exact List.nodup_nil
  | append_singleton as a ih =>
      rw [eraseDups_concat]
      split
      · exact ih
      · rename_i hmem
        rw [List.nodup_append]
        refine ⟨ih, List.pairwise_singleton _ a, ?_⟩
        intro b hb c hc heq
        rw [List.mem_singleton] at hc
        subst heq hc
        exact hmem (List.mem_eraseDups.mp hb)

theorem eraseDups_of_nodup {as : List α} (h : as.Nodup) :
    as.eraseDups = as := by
  induction as using List.reverseRecOn with
  | nil => rfl
  | append_singleton as a ih =>
      obtain ⟨has, _, hnew⟩ := List.nodup_append.mp h
      have ha : a ∉ as := fun hmem => hnew a hmem a (List.mem_singleton_self a) rfl
      rw [eraseDups_concat, if_neg ha, ih has]

theorem filter_eraseDups (p : α → Bool) (as : List α) :
    as.eraseDups.filter p = (as.filter p).eraseDups := by
  induction as using List.reverseRecOn with
  | nil => rfl
  | append_singleton as a ih =>
      rw [eraseDups_concat, List.filter_append]
      cases hp : p a with
      | false =>
          have hnone : [a].filter p = [] := by simp [hp]
          rw [hnone, List.append_nil, ← ih]
          split
          · rfl
          · rw [List.filter_append, hnone, List.append_nil]
      | true =>
          have hone : [a].filter p = [a] := by simp [hp]
          rw [hone, eraseDups_concat]
          by_cases hmem : a ∈ as
          · rw [if_pos hmem, if_pos (List.mem_filter.mpr ⟨hmem, hp⟩), ih]
          · rw [if_neg hmem, if_neg (fun h => hmem (List.mem_filter.mp h).1), List.filter_append,
              hone, ih]

theorem exists_ne_of_two_le {as : List α} (h : 2 ≤ as.eraseDups.length) :
    ∃ a ∈ as.eraseDups, ∃ b ∈ as.eraseDups, a ≠ b := by
  have hnodup := nodup_eraseDups as
  cases has : as.eraseDups with
  | nil => simp [has] at h
  | cons a rest =>
      cases rest with
      | nil => simp [has] at h
      | cons b rest =>
          rw [has, List.nodup_cons] at hnodup
          refine ⟨a, .head _, b, .tail _ (.head _), fun heq => ?_⟩
          exact hnodup.1 (heq ▸ .head _)

/-- Erasing duplicates before entries are mapped makes no difference when they are erased behind as well. -/
theorem eraseDups_filterMap_eraseDups {β : Type} [BEq β] [LawfulBEq β] (f : α → Option β)
    (as : List α) : (as.eraseDups.filterMap f).eraseDups = (as.filterMap f).eraseDups := by
  induction as using List.reverseRecOn with
  | nil => rfl
  | append_singleton as a ih =>
      rw [eraseDups_concat, List.filterMap_append]
      cases ha : f a with
      | none =>
          have hnone : [a].filterMap f = [] := by simp [ha]
          rw [hnone, List.append_nil, ← ih]
          split
          · rfl
          · rw [List.filterMap_append, hnone, List.append_nil]
      | some b =>
          have hone : [a].filterMap f = [b] := by simp [ha]
          rw [hone, eraseDups_concat, ← ih]
          by_cases hmem : a ∈ as
          · rw [if_pos hmem, if_pos (List.mem_filterMap.mpr ⟨a, hmem, ha⟩)]
          · have hsame : b ∈ as.eraseDups.filterMap f ↔ b ∈ as.filterMap f := by
              simp only [List.mem_filterMap, List.mem_eraseDups]
            rw [if_neg hmem, List.filterMap_append, hone, eraseDups_concat]
            by_cases hb : b ∈ as.filterMap f
            · rw [if_pos hb, if_pos (hsame.mpr hb)]
            · rw [if_neg hb, if_neg (mt hsame.mp hb)]

end Distinct

/-! ## The children of a trie -/

def heads (paths : List (List Segment)) : List Segment :=
  paths.filterMap List.head?

/-- What is left of a path behind a segment. -/
def behind? (segment : Segment) : List Segment → Option (List Segment)
  | [] => none
  | first :: path => if first = segment then some path else none

/-- What is left of the paths that start with a segment. -/
def behind (segment : Segment) (paths : List (List Segment)) : List (List Segment) :=
  paths.filterMap (behind? segment)

theorem mem_behind {segment : Segment} {path : List Segment} {paths : List (List Segment)} :
    path ∈ behind segment paths ↔ segment :: path ∈ paths := by
  unfold behind
  rw [List.mem_filterMap]
  constructor
  · rintro ⟨whole, hwhole, hbehind⟩
    cases whole with
    | nil => cases hbehind
    | cons first rest =>
        rw [behind?] at hbehind
        by_cases heq : first = segment
        · rw [if_pos heq] at hbehind
          cases hbehind
          exact heq ▸ hwhole
        · rw [if_neg heq] at hbehind
          cases hbehind
  · intro hmem
    exact ⟨segment :: path, hmem, if_pos rfl⟩

theorem mem_heads {segment : Segment} {paths : List (List Segment)} :
    segment ∈ heads paths ↔ ∃ path, segment :: path ∈ paths := by
  unfold heads
  rw [List.mem_filterMap]
  constructor
  · rintro ⟨whole, hwhole, hhead⟩
    cases whole with
    | nil => cases hhead
    | cons first rest =>
        cases hhead
        exact ⟨rest, hwhole⟩
  · rintro ⟨path, hmem⟩
    exact ⟨segment :: path, hmem, rfl⟩

namespace Trie

def ofPaths (paths : List (List Segment)) : Trie :=
  paths.foldl (fun t path => t.insert path) empty

theorem ofOptions_eq_ofPaths (d : Delimiter) (options : List String) :
    ofOptions d options = ofPaths (options.map fun option => segments d option.toList) := by
  unfold ofOptions ofPaths
  rw [List.foldl_map]

theorem ofPaths_concat (paths : List (List Segment)) (path : List Segment) :
    ofPaths (paths ++ [path]) = (ofPaths paths).insert path := by
  unfold ofPaths
  rw [List.foldl_append]
  rfl

/-- Changing the child under a segment changes that child alone, or adds one at the end. -/
theorem updateChild_map {segments : List Segment} (hdistinct : segments.Nodup) (f : Segment → Trie)
    (segment : Segment) (change : Trie → Trie) :
    updateChild segment change (segments.map fun s => (s, f s)) =
      if segment ∈ segments then
        segments.map fun s => (s, if s = segment then change (f s) else f s)
      else segments.map (fun s => (s, f s)) ++ [(segment, change empty)] := by
  induction segments with
  | nil => rfl
  | cons first segments ih =>
      obtain ⟨hfirst, hrest⟩ := List.nodup_cons.mp hdistinct
      rw [List.map_cons, updateChild]
      by_cases heq : first = segment
      · subst heq
        rw [if_pos rfl, if_pos (.head _), List.map_cons, if_pos rfl]
        refine congrArg _ (List.map_congr_left fun s hs => ?_)
        have hne : s ≠ first := fun h => hfirst (h ▸ hs)
        rw [if_neg hne]
      · rw [if_neg heq, ih hrest]
        by_cases hmem : segment ∈ segments
        · rw [if_pos hmem, if_pos (.tail _ hmem), List.map_cons, if_neg heq]
        · have hnone : segment ∉ first :: segments := by
            rw [List.mem_cons, not_or]
            exact ⟨fun h => heq h.symm, hmem⟩
          rw [if_neg hmem, if_neg hnone]
          rfl

/-- The children of a trie of paths are the first segments of the paths, in the order in which they were
first met, each with the trie of the paths behind it. -/
theorem children_ofPaths (paths : List (List Segment)) :
    (ofPaths paths).children =
      (heads paths).eraseDups.map fun segment => (segment, ofPaths (behind segment paths)) := by
  induction paths using List.reverseRecOn with
  | nil => rfl
  | append_singleton paths path ih =>
      rw [ofPaths_concat]
      cases path with
      | nil =>
          have hheads : heads (paths ++ [[]]) = heads paths := by simp [heads]
          have hbehind : ∀ segment, behind segment (paths ++ [[]]) = behind segment paths := by
            intro segment
            simp [behind, behind?]
          rw [insert, ih, hheads]
          simp only [hbehind]
      | cons segment path =>
          have hheads : heads (paths ++ [segment :: path]) = heads paths ++ [segment] := by
            simp [heads]
          have hsame : ofPaths (behind segment (paths ++ [segment :: path])) =
              (ofPaths (behind segment paths)).insert path := by
            rw [← ofPaths_concat]
            simp [behind, behind?]
          have hother : ∀ other, other ≠ segment →
              behind other (paths ++ [segment :: path]) = behind other paths := by
            intro other hne
            simp [behind, behind?, Ne.symm hne]
          rw [insert, ih, children, updateChild_map (nodup_eraseDups _), hheads, eraseDups_concat]
          simp only [List.mem_eraseDups]
          -- A first segment that was met before keeps its place; a new one joins at the end.
          split
          · refine List.map_congr_left fun other _ => ?_
            by_cases heq : other = segment
            · subst heq
              rw [if_pos rfl, hsame]
            · rw [if_neg heq, hother other heq]
          · rename_i hnew
            have hnone : behind segment paths = [] := by
              rw [List.eq_nil_iff_forall_not_mem]
              intro rest hrest
              exact hnew (mem_heads.mpr ⟨rest, mem_behind.mp hrest⟩)
            rw [List.map_append, List.map_singleton, hsame, hnone]
            refine congrArg (· ++ _) (List.map_congr_left fun other hmem => ?_)
            have hne : other ≠ segment := fun heq => hnew (heq ▸ List.mem_eraseDups.mp hmem)
            rw [hother other hne]

/-! ## One step of a walk -/

theorem walkChildren_map (raw : String) (input output : List Char) (f : Segment → Trie)
    (segments : List Segment) :
    walkChildren raw input output (segments.map fun s => (s, f s)) =
      (segments.filter fun s => agree (lowerChars s) input).map fun s =>
        (s, (f s).walk raw (input.drop (lowerChars s).length) (output ++ s)) := by
  induction segments with
  | nil => rfl
  | cons segment segments ih =>
      rw [List.map_cons, walkChildren, List.filter_cons]
      split
      · rw [List.map_cons, ih]
      · exact ih

/-- The first segments that agree with an input, each of them once. -/
def agreeing (input : List Char) (paths : List (List Segment)) : List Segment :=
  ((heads paths).filter fun s => agree (lowerChars s) input).eraseDups

theorem mem_agreeing {segment : Segment} {input : List Char} {paths : List (List Segment)} :
    segment ∈ agreeing input paths ↔
      (∃ path, segment :: path ∈ paths) ∧ agree (lowerChars segment) input = true := by
  unfold agreeing
  rw [List.mem_eraseDups, List.mem_filter, mem_heads]

/-- A walk from the root of a trie of paths looks at the first segments that agree with the input. -/
theorem walk_ofPaths (raw : String) (input output : List Char) (paths : List (List Segment)) :
    (ofPaths paths).walk raw input output =
      match agreeing input paths with
      | [] => arrive raw output
      | [segment] =>
          (ofPaths (behind segment paths)).walk raw (input.drop (lowerChars segment).length)
            (output ++ segment)
      | candidates => .ambiguous (candidates.map fun s => String.ofList (output ++ s)) := by
  have hchildren := children_ofPaths paths
  cases htrie : ofPaths paths with
  | node children =>
      rw [htrie] at hchildren
      rw [walk, show children = _ from hchildren, walkChildren_map, filter_eraseDups]
      unfold agreeing
      cases ((heads paths).filter fun s => agree (lowerChars s) input).eraseDups with
      | nil => rfl
      | cons first rest =>
          cases rest with
          | nil => rfl
          | cons second rest => simp

end Trie

end CommandForms.Completion
