import CommandForms.Proofs.Completion.Menus
import Mathlib.Data.List.Nodup

/-!
# The shape of a trie

An option is cut where the matches inside it end, and the trie of a list of options holds the segments of each
of them on a path of its own from the root to a leaf.  Every node is described by the list of options alone:
what is below it, in which order, and whether it is a leaf.
-/

namespace CommandForms.Completion

/-! ## Cuts -/

/-- A place where pieces meet, other than their start, is at the end of the first piece or behind it. -/
theorem exists_prefix_cons_iff {first : Segment} {pieces : List Segment} {start place : Nat}
    (hstart : start < place) :
    (∃ front, front <+: first :: pieces ∧ start + front.flatten.length = place) ↔
      ∃ rest, rest <+: pieces ∧ start + first.length + rest.flatten.length = place := by
  constructor
  · rintro ⟨front, hfront, hlength⟩
    rcases List.prefix_cons_iff.mp hfront with rfl | ⟨rest, rfl, hrest⟩
    · exact absurd hlength (Nat.ne_of_lt hstart)
    · rw [List.flatten_cons, List.length_append, ← Nat.add_assoc] at hlength
      exact ⟨rest, hrest, hlength⟩
  · rintro ⟨rest, hrest, hlength⟩
    refine ⟨first :: rest, List.prefix_cons_iff.mpr (.inr ⟨rest, rfl, hrest⟩), ?_⟩
    rwa [List.flatten_cons, List.length_append, ← Nat.add_assoc]

/-- The places where a text is cut, apart from its ends, are the stops inside it. -/
theorem exists_prefix_cut_iff {start place : Nat} {stops : List Nat} {cs : List Char}
    (hstops : ∀ stop ∈ stops, stop ≤ start + cs.length) (hpairwise : stops.Pairwise (· ≤ ·))
    (hstart : start < place) (hplace : place < start + cs.length) :
    (∃ front, front <+: cut start stops cs ∧ start + front.flatten.length = place) ↔ place ∈ stops := by
  induction stops generalizing start cs with
  | nil =>
      refine iff_of_false ?_ List.not_mem_nil
      unfold cut
      split
      · rintro ⟨front, hfront, hlength⟩
        obtain rfl := List.prefix_nil.mp hfront
        exact absurd hlength (Nat.ne_of_lt hstart)
      · rw [exists_prefix_cons_iff hstart]
        rintro ⟨rest, -, hlength⟩
        omega
  | cons stop stops ih =>
      obtain ⟨hstop, hlater⟩ := List.forall_mem_cons.mp hstops
      obtain ⟨hleast, hpairwise⟩ := List.pairwise_cons.mp hpairwise
      unfold cut
      split
      · rename_i hlt
        have hwidth : start + (cs.take (stop - start)).length = stop := by
          rw [List.length_take]
          omega
        have hrest : stop + (cs.drop (stop - start)).length = start + cs.length := by
          rw [List.length_drop]
          omega
        rw [exists_prefix_cons_iff hstart, hwidth]
        -- The first piece ends at the first stop, and the rest of the text is cut from there on.
        rcases Nat.lt_trichotomy place stop with hbefore | rfl | hbehind
        · refine iff_of_false ?_ fun hmem => ?_
          · rintro ⟨rest, -, hlength⟩
            omega
          · rcases List.mem_cons.mp hmem with rfl | hmem
            · exact Nat.lt_irrefl _ hbefore
            · exact Nat.not_le.mpr hbefore (hleast place hmem)
        · exact iff_of_true ⟨[], List.nil_prefix, rfl⟩ (.head _)
        · rw [ih (by rwa [hrest]) hpairwise hbehind (by rwa [hrest]), List.mem_cons,
            or_iff_right (Nat.ne_of_gt hbehind)]
      · rename_i hnot
        have hne : place ≠ stop := by omega
        rw [ih hlater hpairwise hstart hplace, List.mem_cons, or_iff_right hne]

/-- The places inside an option where its segments meet are the ends of matches inside it. -/
theorem exists_prefix_segments_iff {d : Delimiter} {option : List Char} {place : Nat} (hstart : 0 < place)
    (hplace : place < option.length) :
    (∃ front, front <+: segments d option ∧ front.flatten.length = place) ↔
      place ∈ d.matchEnds option := by
  have hends : ∀ stop ∈ d.matchEnds option, stop ≤ 0 + option.length := by
    intro stop hstop
    rw [Nat.zero_add]
    exact Delimiter.le_of_mem_matchEnds hstop
  have hcut := exists_prefix_cut_iff hends (d.pairwise_matchEnds option) hstart (by rwa [Nat.zero_add])
  simp only [Nat.zero_add] at hcut
  rw [← hcut]
  refine exists_congr fun front => and_congr_left fun hlength => ?_
  rw [segments, List.prefix_concat_iff]
  refine or_iff_right fun hwhole => ?_
  rw [hwhole, ← segments, flatten_segments] at hlength
  omega

/-! ## Nodes and paths -/

namespace Trie

/-- A node is reached from another one along the segments of a path. -/
inductive Reaches : Trie → List Segment → Trie → Prop
  | here (t : Trie) : Reaches t [] t
  | child {t child node : Trie} {segment : Segment} {path : List Segment}
      (hchild : (segment, child) ∈ t.children) (inner : Reaches child path node) :
      Reaches t (segment :: path) node

@[elab_as_elim]
theorem induction {motive : Trie → Prop}
    (node : ∀ children, (∀ entry ∈ children, motive entry.2) → motive (.node children)) (t : Trie) :
    motive t :=
  @Trie.rec motive (fun children => ∀ entry ∈ children, motive entry.2) (fun entry => motive entry.2)
    node (fun _ hmem => nomatch hmem)
    (fun _ _ hhead htail entry hmem => by
      rcases List.mem_cons.mp hmem with rfl | hmem
      · exact hhead
      · exact htail entry hmem)
    (fun _ _ hchild => hchild) t

theorem childPaths_eq (children : List (Segment × Trie)) :
    childPaths children = children.flatMap fun entry => entry.2.paths.map (entry.1 :: ·) := by
  induction children with
  | nil => rw [childPaths, List.flatMap_nil]
  | cons entry children ih => rw [childPaths, ih, List.flatMap_cons]

theorem paths_node {children : List (Segment × Trie)} (h : children ≠ []) :
    (node children).paths = children.flatMap fun entry => entry.2.paths.map (entry.1 :: ·) := by
  cases children with
  | nil => exact absurd rfl h
  | cons entry children => rw [paths, childPaths_eq]

theorem mem_paths_iff {t : Trie} {path : List Segment} :
    path ∈ t.paths ↔ ∃ leaf, t.Reaches path leaf ∧ leaf.children = [] := by
  induction t using Trie.induction generalizing path with
  | node children ih =>
      by_cases hleaf : children = []
      · subst hleaf
        rw [paths, List.mem_singleton]
        constructor
        · rintro rfl
          exact ⟨_, .here _, rfl⟩
        · rintro ⟨leaf, hreaches, -⟩
          cases hreaches with
          | here => rfl
          | child hchild => cases hchild
      · rw [paths_node hleaf, List.mem_flatMap]
        constructor
        · rintro ⟨⟨segment, child⟩, hchild, hpath⟩
          obtain ⟨rest, hrest, rfl⟩ := List.mem_map.mp hpath
          obtain ⟨leaf, hreaches, hnone⟩ := (ih _ hchild).mp hrest
          exact ⟨leaf, .child hchild hreaches, hnone⟩
        · rintro ⟨leaf, hreaches, hnone⟩
          cases hreaches with
          | here => exact absurd hnone hleaf
          | child hchild inner =>
              exact ⟨_, hchild, List.mem_map_of_mem ((ih _ hchild).mpr ⟨leaf, inner, hnone⟩)⟩

/-- A trie has no path twice when at each of its nodes the segments are different. -/
theorem nodup_paths {t : Trie}
    (h : ∀ path node, t.Reaches path node → (node.children.map (·.1)).Nodup) : t.paths.Nodup := by
  induction t using Trie.induction with
  | node children ih =>
      by_cases hleaf : children = []
      · rw [hleaf, paths]
        exact List.nodup_singleton []
      · rw [paths_node hleaf, List.nodup_flatMap]
        constructor
        · intro entry hentry
          refine (ih entry hentry fun path node hreaches => ?_).map (List.cons_injective)
          exact h _ node (.child hentry hreaches)
        · refine (List.pairwise_map.mp (h [] _ (.here _))).imp ?_
          intro entry other hne path hpath hpath'
          obtain ⟨rest, _, rfl⟩ := List.mem_map.mp hpath
          obtain ⟨rest', _, heq⟩ := List.mem_map.mp hpath'
          exact hne (List.cons.inj heq).1.symm

end Trie

/-! ## The nodes of a trie of paths -/

variable {segment : Segment} {path common rest : List Segment} {paths : List (List Segment)}

/-- A leading path goes on from one of the first segments along a leading path of the rest. -/
theorem leading_cons :
    Leading paths (segment :: path) ↔ segment ∈ heads paths ∧ Leading (behind segment paths) path := by
  constructor
  · rintro (hnil | ⟨whole, hwhole, rest, rfl⟩)
    · cases hnil
    · exact ⟨mem_heads.mpr ⟨_, hwhole⟩, .inr ⟨_, mem_behind.mpr hwhole, List.prefix_append path rest⟩⟩
  · rintro ⟨hsegment, rfl | ⟨whole, hwhole, hprefix⟩⟩
    · obtain ⟨rest, hrest⟩ := mem_heads.mp hsegment
      exact .inr ⟨_, hrest, rest, rfl⟩
    · exact .inr ⟨_, mem_behind.mp hwhole, (List.prefix_cons_inj segment).mpr hprefix⟩

theorem heads_behindPath (common : List Segment) (paths : List (List Segment)) :
    heads (behindPath common paths) =
      (paths.filter (common.isPrefixOf ·)).filterMap fun path => path[common.length]? := by
  induction common generalizing paths with
  | nil => simp [heads, behindPath, List.head?_eq_getElem?]
  | cons segment common ih =>
      rw [behindPath, ih, behind, List.filter_filterMap, List.filterMap_filterMap, List.filterMap_filter]
      refine List.filterMap_congr fun path _ => ?_
      cases path with
      | nil => rfl
      | cons first path =>
          rw [behind?, List.isPrefixOf]
          by_cases heq : first = segment
          · subst heq
            rw [if_pos rfl, beq_self_eq_true, Bool.true_and, Option.filter_some]
            cases common.isPrefixOf path <;> rfl
          · rw [if_neg heq, beq_false_of_ne (Ne.symm heq)]
            rfl

namespace Trie

theorem map_children_ofPaths (paths : List (List Segment)) :
    (ofPaths paths).children.map (·.1) = (heads paths).eraseDups := by
  rw [children_ofPaths, List.map_map]
  exact List.map_id _

theorem children_ofPaths_eq_nil_iff : (ofPaths paths).children = [] ↔ ∀ path ∈ paths, path = [] := by
  have hmap : (ofPaths paths).children = [] ↔ (ofPaths paths).children.map (·.1) = [] :=
    List.map_eq_nil_iff.symm
  rw [hmap, map_children_ofPaths, List.eq_nil_iff_forall_not_mem]
  simp only [List.mem_eraseDups, mem_heads]
  constructor
  · intro h path hpath
    cases path with
    | nil => rfl
    | cons segment path => exact absurd ⟨path, hpath⟩ (h segment)
  · rintro h segment ⟨path, hpath⟩
    cases h _ hpath

/-- The nodes of a trie of paths: at the end of each leading path the trie of what is left of the paths
behind it. -/
theorem reaches_ofPaths {node : Trie} :
    (ofPaths paths).Reaches path node ↔ Leading paths path ∧ node = ofPaths (behindPath path paths) := by
  induction path generalizing paths with
  | nil =>
      constructor
      · intro h
        cases h
        exact ⟨.inl rfl, rfl⟩
      · rintro ⟨-, rfl⟩
        exact .here _
  | cons segment path ih =>
      rw [leading_cons, behindPath]
      constructor
      · intro h
        cases h with
        | child hchild inner =>
            rw [children_ofPaths] at hchild
            obtain ⟨first, hfirst, heq⟩ := List.mem_map.mp hchild
            cases heq
            obtain ⟨hleading, hnode⟩ := ih.mp inner
            exact ⟨⟨List.mem_eraseDups.mp hfirst, hleading⟩, hnode⟩
      · rintro ⟨⟨hsegment, hleading⟩, hnode⟩
        refine .child ?_ (ih.mpr ⟨hleading, hnode⟩)
        rw [children_ofPaths]
        exact List.mem_map.mpr ⟨segment, List.mem_eraseDups.mpr hsegment, rfl⟩

theorem insert_of_mem (h : path ∈ paths) : (ofPaths paths).insert path = ofPaths paths := by
  induction path generalizing paths with
  | nil => rfl
  | cons segment path ih =>
      have hsegment : segment ∈ (heads paths).eraseDups :=
        List.mem_eraseDups.mpr (mem_heads.mpr ⟨path, h⟩)
      have hchildren : updateChild segment (insert path) (ofPaths paths).children =
          (ofPaths paths).children := by
        rw [children_ofPaths, updateChild_map (nodup_eraseDups _), if_pos hsegment]
        refine List.map_congr_left fun other _ => ?_
        by_cases heq : other = segment
        · subst heq
          rw [if_pos rfl, ih (mem_behind.mpr h)]
        · rw [if_neg heq]
      rw [insert, hchildren]
      cases ofPaths paths
      rfl

end Trie

/-! ## Paths that end -/

/-- On a path that ends, the empty segment is the one behind which nothing follows. -/
theorem Ended.eq_nil_iff (h : Ended (common ++ segment :: rest)) : segment = [] ↔ rest = [] := by
  induction common with
  | nil =>
      rcases h.tail with ⟨hsegment, hrest⟩ | ⟨hsegment, hrest⟩
      · exact iff_of_true hsegment hrest
      · exact iff_of_false hsegment hrest.ne_nil
  | cons first common ih =>
      rcases h.tail with ⟨_, hnil⟩ | ⟨_, hrest⟩
      · exact absurd hnil (List.append_ne_nil_of_right_ne_nil _ (List.cons_ne_nil _ _))
      · exact ih hrest

namespace Trie

/-- An edge leads to a leaf exactly if its segment is empty, where all paths end. -/
theorem children_eq_nil_iff {node : Trie} (hended : ∀ path ∈ paths, Ended path)
    (h : (ofPaths paths).Reaches (common ++ [segment]) node) : node.children = [] ↔ segment = [] := by
  obtain ⟨hleading, rfl⟩ := reaches_ofPaths.mp h
  have hpaths : ∀ rest, rest ∈ behindPath (common ++ [segment]) paths →
      (segment = [] ↔ rest = []) := by
    intro rest hrest
    rw [mem_behindPath, List.append_assoc] at hrest
    exact (hended _ hrest).eq_nil_iff
  obtain ⟨rest, hrest⟩ : ∃ rest, rest ∈ behindPath (common ++ [segment]) paths := by
    rcases hleading with hnil | ⟨whole, hwhole, rest, rfl⟩
    · exact absurd hnil (List.append_ne_nil_of_right_ne_nil _ (List.cons_ne_nil _ _))
    · exact ⟨rest, mem_behindPath.mpr hwhole⟩
  rw [children_ofPaths_eq_nil_iff]
  exact ⟨fun hover => (hpaths rest hrest).mpr (hover rest hrest),
    fun hsegment other hother => (hpaths other hother).mp hsegment⟩

theorem mem_paths_ofPaths (hended : ∀ path ∈ paths, Ended path) (hpaths : paths ≠ []) :
    path ∈ (ofPaths paths).paths ↔ path ∈ paths := by
  -- A leaf is a node behind which no path goes on.
  have hleaf : path ∈ (ofPaths paths).paths ↔
      Leading paths path ∧ ∀ rest, path ++ rest ∈ paths → rest = [] := by
    rw [mem_paths_iff]
    simp only [reaches_ofPaths, and_assoc, exists_and_left, exists_eq_left,
      children_ofPaths_eq_nil_iff, mem_behindPath]
  rw [hleaf]
  constructor
  · rintro ⟨rfl | ⟨whole, hwhole, rest, rfl⟩, hover⟩
    · obtain ⟨whole, hwhole⟩ := List.exists_mem_of_ne_nil paths hpaths
      exact absurd (hover whole hwhole) (hended whole hwhole).ne_nil
    · rwa [hover rest hwhole, List.append_nil] at hwhole
  · intro hpath
    refine ⟨.inr ⟨path, hpath, List.prefix_rfl⟩, fun rest hrest => ?_⟩
    obtain ⟨front, rfl, -⟩ := hended path hpath
    rw [List.append_assoc] at hrest
    exact (hended _ hrest).eq_nil_iff.mp rfl

/-! ## The trie of options -/

variable {d : Delimiter} {options : List String}

theorem nodup_children {node : Trie} (h : (ofPaths paths).Reaches path node) :
    (node.children.map (·.1)).Nodup := by
  obtain ⟨-, rfl⟩ := reaches_ofPaths.mp h
  rw [map_children_ofPaths]
  exact nodup_eraseDups _

theorem perm_paths_ofOptions (hoptions : options ≠ []) :
    (ofOptions d options).paths.Perm (options.eraseDups.map fun option => segments d option.toList) := by
  rw [ofOptions_eq_ofPaths, ← pathsOf]
  refine (List.perm_ext_iff_of_nodup (nodup_paths fun _ _ => nodup_children) ?_).mpr fun path => ?_
  · refine (nodup_eraseDups options).map fun option other heq => ?_
    exact String.toList_inj.mp (segments_injective heq)
  · have hpaths : pathsOf d options ≠ [] := mt List.map_eq_nil_iff.mp hoptions
    rw [mem_paths_ofPaths (fun _ => ended_of_mem_pathsOf) hpaths, pathsOf, List.mem_map, List.mem_map]
    simp only [List.mem_eraseDups]

theorem ofOptions_concat (d : Delimiter) (options : List String) (option : String) :
    ofOptions d (options ++ [option]) = (ofOptions d options).insert (segments d option.toList) := by
  unfold ofOptions
  rw [List.foldl_append]
  rfl

theorem ofOptions_eraseDups (d : Delimiter) (options : List String) :
    ofOptions d options.eraseDups = ofOptions d options := by
  induction options using List.reverseRecOn with
  | nil => rfl
  | append_singleton options option ih =>
      rw [eraseDups_concat, ofOptions_concat]
      split
      · rename_i hoption
        have hpath : segments d option.toList ∈ pathsOf d options := List.mem_map_of_mem hoption
        rw [ih, ofOptions_eq_ofPaths, ← pathsOf, insert_of_mem hpath]
      · rw [ofOptions_concat, ih]

end Trie

/-- The trie of options represents them.  The segments of an option put together are the option, only the last
one is empty, and the places inside it where they meet are the ends of matches.  The paths from the root to
the leaves are the segments of the options, each option taken once.  The segments at a node are pairwise
different, and they are those that come next in the options through the node, in the order in which they are
first met.  An edge leads to a leaf exactly if its segment is empty.  And options that are repeated change
nothing. -/
theorem trie_represents_options (d : Delimiter) (options : List String) :
    (∀ option : List Char, (segments d option).flatten = option ∧ Ended (segments d option) ∧
      ∀ place, 0 < place → place < option.length →
        ((∃ front, front <+: segments d option ∧ front.flatten.length = place) ↔
          place ∈ d.matchEnds option)) ∧
    (options ≠ [] → (Trie.ofOptions d options).paths.Perm
      (options.eraseDups.map fun option => segments d option.toList)) ∧
    (∀ common node, (Trie.ofOptions d options).Reaches common node →
      (node.children.map (·.1)).Nodup ∧ node.children.map (·.1) =
        nextSegments common ((pathsOf d options).filter (common.isPrefixOf ·))) ∧
    (∀ common segment node, (Trie.ofOptions d options).Reaches (common ++ [segment]) node →
      (node.children = [] ↔ segment = [])) ∧
    Trie.ofOptions d options.eraseDups = Trie.ofOptions d options := by
  refine ⟨fun option => ⟨flatten_segments d option, ended_segments d option, fun place =>
    exists_prefix_segments_iff⟩, Trie.perm_paths_ofOptions, fun common node h => ?_,
    fun common segment node h => ?_, Trie.ofOptions_eraseDups d options⟩
  · rw [Trie.ofOptions_eq_ofPaths, ← pathsOf] at h
    obtain ⟨-, hnode⟩ := Trie.reaches_ofPaths.mp h
    refine ⟨Trie.nodup_children h, ?_⟩
    rw [hnode, Trie.map_children_ofPaths, heads_behindPath, nextSegments]
  · rw [Trie.ofOptions_eq_ofPaths, ← pathsOf] at h
    exact Trie.children_eq_nil_iff (fun _ => ended_of_mem_pathsOf) h

/-- Two skills of one namespace, the first one of them given twice, and one of another namespace. -/
theorem trie_represents_options_skills :
    let options := ["s.forge", "skill.forge", "s.forge", "s.heart"]
    let d := AspectSet.delimiter
    (∃ front, front <+: segments d "s.forge".toList ∧ front.flatten.length = 2) ∧ options ≠ [] ∧
      (Trie.ofOptions d options).paths.Perm
        [["s.".toList, "forge".toList, []], ["skill.".toList, "forge".toList, []],
          ["s.".toList, "heart".toList, []]] ∧
      ∃ node, (Trie.ofOptions d options).Reaches ["s.".toList] node ∧
        node.children.map (·.1) = ["forge".toList, "heart".toList] ∧ node.children ≠ [] := by
  intro options d
  obtain ⟨hsegments, hpaths, hnodes, hedges, -⟩ := trie_represents_options d options
  have hplace : 2 ∈ d.matchEnds "s.forge".toList := by decide +kernel
  have hoptions : options ≠ [] := List.cons_ne_nil _ _
  have hdistinct : (options.eraseDups.map fun option => segments d option.toList) =
      [["s.".toList, "forge".toList, []], ["skill.".toList, "forge".toList, []],
        ["s.".toList, "heart".toList, []]] := by decide +kernel
  have hreaches : (Trie.ofOptions d options).Reaches ["s.".toList]
      (.ofPaths (behindPath ["s.".toList] (pathsOf d options))) := by
    rw [Trie.ofOptions_eq_ofPaths, ← pathsOf]
    refine Trie.reaches_ofPaths.mpr ⟨.inr ⟨segments d "s.forge".toList, ?_, ?_⟩, rfl⟩
    · exact List.mem_map_of_mem (.head _)
    · decide +kernel
  have hnext : nextSegments ["s.".toList] ((pathsOf d options).filter (["s.".toList].isPrefixOf ·)) =
      ["forge".toList, "heart".toList] := by decide +kernel
  refine ⟨((hsegments _).2.2 2 (by decide) (by decide)).mpr hplace, hoptions, hdistinct ▸ hpaths hoptions,
    _, hreaches, (hnodes _ _ hreaches).2.trans hnext, ?_⟩
  exact mt (hedges [] "s.".toList _ hreaches).mp (by decide)

end CommandForms.Completion
