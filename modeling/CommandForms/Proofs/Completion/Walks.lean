import CommandForms.Proofs.Completion.Reference

/-!
# Walks among any options

What a walk does when nothing is known of the options: they may repeat each other, go on where another one
ends, and shadow each other segment by segment.  Whatever they are, a menu offers leading paths of options and
leaves out no option that the input still leads to, and a completion is the only such option or as far as the
input could be followed.
-/

namespace CommandForms.Completion

open CommandForms.Text (lowerChars)

/-! ## A walk and its steps -/

/-- A walk with what is left of the input, what is taken so far and the paths that go on from here: it ends
where no first segment agrees with the input, passes the only one that does, and offers several. -/
inductive Walks (raw : String) :
    List Char → List Char → List (List Segment) → Completion → Prop
  | stop {input output : List Char} {paths : List (List Segment)}
      (hnone : Trie.agreeing input paths = []) :
      Walks raw input output paths (Trie.arrive raw output)
  | pass {input output : List Char} {paths : List (List Segment)} {segment : Segment}
      {completion : Completion} (hone : Trie.agreeing input paths = [segment])
      (inner : Walks raw (input.drop (lowerChars segment).length) (output ++ segment)
        (behind segment paths) completion) :
      Walks raw input output paths completion
  | offer {input output : List Char} {paths : List (List Segment)}
      (hseveral : 2 ≤ (Trie.agreeing input paths).length) :
      Walks raw input output paths
        (.ambiguous ((Trie.agreeing input paths).map fun s => String.ofList (output ++ s)))

variable {raw : String} {input output : List Char} {segment : Segment} {path common : List Segment}
  {paths : List (List Segment)} {completion : Completion}

theorem walks_walk (raw : String) (input output : List Char) (paths : List (List Segment)) :
    Walks raw input output paths ((Trie.ofPaths paths).walk raw input output) := by
  obtain ⟨bound, hbound⟩ : ∃ bound, ∀ path ∈ paths, path.length ≤ bound :=
    ⟨(paths.map List.length).max?.getD 0, fun path hpath =>
      List.le_max?_getD_of_mem (List.mem_map_of_mem hpath)⟩
  induction bound generalizing input output paths with
  | zero =>
      have hnone : Trie.agreeing input paths = [] := by
        rw [List.eq_nil_iff_forall_not_mem]
        intro segment hmem
        obtain ⟨⟨path, hpath⟩, _⟩ := Trie.mem_agreeing.mp hmem
        exact Nat.not_succ_le_zero _ (hbound _ hpath)
      rw [Trie.walk_ofPaths, hnone]
      exact .stop hnone
  | succ bound ih =>
      rw [Trie.walk_ofPaths]
      cases hagreeing : Trie.agreeing input paths with
      | nil => exact .stop hagreeing
      | cons first rest =>
          cases rest with
          | nil =>
              refine .pass hagreeing (ih _ _ _ fun path hpath => ?_)
              exact Nat.le_of_succ_le_succ (hbound _ (mem_behind.mp hpath))
          | cons second rest =>
              have hoffer : Walks raw input output paths (.ambiguous
                  ((Trie.agreeing input paths).map fun s => String.ofList (output ++ s))) :=
                .offer (by simp [hagreeing])
              rw [hagreeing] at hoffer
              exact hoffer

/-! ## Paths that go on and paths that are over -/

/-- The paths behind a node: the paths of options as long as none of them is over, and then only paths that
are. -/
def Level (paths : List (List Segment)) : Prop :=
  (∀ path ∈ paths, Ended path) ∨ ∀ path ∈ paths, path = []

theorem Level.behind (h : Level paths) (segment : Segment) : Level (behind segment paths) := by
  rcases h with hended | hover
  · by_cases hsegment : segment = []
    · refine .inr fun path hpath => ?_
      rcases (hended _ (mem_behind.mp hpath)).tail with ⟨_, hnil⟩ | ⟨hne, _⟩
      · exact hnil
      · exact absurd hsegment hne
    · refine .inl fun path hpath => ?_
      rcases (hended _ (mem_behind.mp hpath)).tail with ⟨hnil, _⟩ | ⟨_, hpath'⟩
      · exact absurd hnil hsegment
      · exact hpath'
  · refine .inr fun path hpath => ?_
    exact absurd (hover _ (mem_behind.mp hpath)) (List.cons_ne_nil _ _)

theorem Level.ne_nil (h : Level paths) (hsegment : segment :: path ∈ paths) {other : List Segment}
    (hother : other ∈ paths) : other ≠ [] := by
  rcases h with hended | hover
  · exact (hended other hother).ne_nil
  · exact absurd (hover _ hsegment) (List.cons_ne_nil _ _)

/-- A path that the input leads to starts with a segment that agrees with the input, where any segment
does. -/
theorem Level.exists_agreeing (h : Level paths) (hsegment : segment ∈ Trie.agreeing input paths)
    (hpath : path ∈ matching input paths) :
    ∃ first rest, path = first :: rest ∧ first ∈ Trie.agreeing input paths := by
  obtain ⟨⟨rest, hrest⟩, _⟩ := Trie.mem_agreeing.mp hsegment
  cases path with
  | nil => exact absurd rfl (h.ne_nil hrest (mem_matching.mp hpath).1)
  | cons first rest => exact ⟨first, rest, rfl, mem_agreeing_of_matching hpath⟩

/-- Behind the only segment that agrees with the input, what is left of the input leads to what is left of
the paths that it leads to. -/
theorem mem_matching_cons (hagree : Trie.agree (lowerChars segment) input = true) :
    segment :: path ∈ matching input paths ↔
      path ∈ matching (input.drop (lowerChars segment).length) (behind segment paths) := by
  rw [mem_matching, mem_matching, mem_behind, folded_cons, prefix_append_iff]
  simp only [hagree, true_and]

/-! ## What agrees with an input -/

theorem agree_append {a b : List Char} :
    Trie.agree (a ++ b) input = true ↔
      Trie.agree a input = true ∧ Trie.agree b (input.drop a.length) = true := by
  constructor
  · intro h
    rcases agree_iff.mp h with hread | hends
    · obtain ⟨hfront, hrest⟩ := append_prefix_iff.mp hread
      exact ⟨agree_iff.mpr (.inl hfront), agree_iff.mpr (.inl hrest)⟩
    · obtain ⟨hfront, hrest⟩ := prefix_append_iff.mp hends
      exact ⟨hfront, agree_iff.mpr (.inr hrest)⟩
  · rintro ⟨hfront, hrest⟩
    rw [agree_iff]
    rcases agree_iff.mp hfront with hread | hends
    · rcases agree_iff.mp hrest with hread' | hends'
      · exact .inl (append_prefix_iff.mpr ⟨hread, hread'⟩)
      · exact .inr (prefix_append_iff.mpr ⟨hfront, hends'⟩)
    · exact .inr (hends.trans (List.prefix_append a b))

@[simp]
theorem folded_singleton (segment : Segment) : folded [segment] = lowerChars segment := by
  simp [folded]

/-! ## Menus -/

/-- The segments offered behind a common start: several different ones, each on the path of an option and in
agreement with the input, and one on each path that the input leads to. -/
structure Offers (input : List Char) (paths : List (List Segment)) (common : List Segment)
    (next : List Segment) : Prop where
  several : 2 ≤ next.length
  distinct : next.Nodup
  leading : ∀ s ∈ next, ∃ whole ∈ paths, common ++ [s] <+: whole
  agrees : ∀ s ∈ next, Trie.agree (folded (common ++ [s])) input = true
  keeps : ∀ path ∈ matching input paths, ∃ s ∈ next, common ++ [s] <+: path

theorem offers_agreeing (hlevel : Level paths) (hseveral : 2 ≤ (Trie.agreeing input paths).length) :
    Offers input paths [] (Trie.agreeing input paths) := by
  refine ⟨hseveral, nodup_eraseDups _, fun s hs => ?_, fun s hs => ?_, fun path hpath => ?_⟩
  · obtain ⟨⟨path, hpath⟩, _⟩ := Trie.mem_agreeing.mp hs
    exact ⟨s :: path, hpath, path, rfl⟩
  · rw [List.nil_append, folded_singleton]
    exact (Trie.mem_agreeing.mp hs).2
  · obtain ⟨first, hfirst, _⟩ := exists_ne_of_two_le hseveral
    obtain ⟨s, rest, rfl, hs⟩ := hlevel.exists_agreeing hfirst hpath
    exact ⟨s, hs, rest, rfl⟩

theorem Offers.cons (hlevel : Level paths) (hone : Trie.agreeing input paths = [segment])
    {next : List Segment}
    (h : Offers (input.drop (lowerChars segment).length) (behind segment paths) common next) :
    Offers input paths (segment :: common) next := by
  have hmem : segment ∈ Trie.agreeing input paths := hone ▸ List.mem_singleton_self segment
  have hagree := (Trie.mem_agreeing.mp hmem).2
  refine ⟨h.several, h.distinct, fun s hs => ?_, fun s hs => ?_, fun path hpath => ?_⟩
  · obtain ⟨whole, hwhole, hprefix⟩ := h.leading s hs
    exact ⟨segment :: whole, mem_behind.mp hwhole, (List.prefix_cons_inj segment).mpr hprefix⟩
  · exact agree_append.mpr ⟨hagree, h.agrees s hs⟩
  · obtain ⟨first, rest, rfl, hfirst⟩ := hlevel.exists_agreeing hmem hpath
    rw [hone, List.mem_singleton] at hfirst
    subst hfirst
    obtain ⟨s, hs, hprefix⟩ := h.keeps rest ((mem_matching_cons hagree).mp hpath)
    exact ⟨s, hs, (List.prefix_cons_inj first).mpr hprefix⟩

/-! ## Places of menus -/

/-- What is left of the paths that start with a path. -/
def behindPath : List Segment → List (List Segment) → List (List Segment)
  | [], paths => paths
  | segment :: path, paths => behindPath path (behind segment paths)

theorem mem_behindPath {rest : List Segment} : rest ∈ behindPath path paths ↔ path ++ rest ∈ paths := by
  induction path generalizing paths with
  | nil => rfl
  | cons segment path ih => rw [behindPath, ih, mem_behind, List.cons_append]

/-- The segments that an input offers behind a path that it goes along. -/
def offered (input : List Char) (paths : List (List Segment)) (path : List Segment) : List Segment :=
  Trie.agreeing (input.drop (folded path).length) (behindPath path paths)

@[simp]
theorem offered_nil : offered input paths [] = Trie.agreeing input paths :=
  rfl

theorem offered_cons : offered input paths (segment :: path) =
    offered (input.drop (lowerChars segment).length) (behind segment paths) path := by
  rw [offered, offered, folded_cons, List.length_append, ← List.drop_drop, behindPath]

theorem mem_offered : segment ∈ offered input paths path ↔
    (∃ rest, path ++ segment :: rest ∈ paths) ∧
      Trie.agree (lowerChars segment) (input.drop (folded path).length) = true := by
  rw [offered, Trie.mem_agreeing]
  simp only [mem_behindPath]

/-- The place where a walk comes to a menu: on the way to it one segment is offered at each step, and several
are behind it. -/
structure MenuAt (input : List Char) (paths : List (List Segment)) (place : List Segment) : Prop where
  passed : ∀ front segment, front ++ [segment] <+: place → offered input paths front = [segment]
  several : 2 ≤ (offered input paths place).length

theorem menuAt_nil : MenuAt input paths [] ↔ 2 ≤ (Trie.agreeing input paths).length := by
  refine ⟨fun h => h.several, fun hseveral => ⟨fun front segment hfront => ?_, hseveral⟩⟩
  simp at hfront

/-- No menu is where a single segment agrees with the input. -/
theorem not_menuAt_nil (hone : Trie.agreeing input paths = [segment]) : ¬ MenuAt input paths [] := by
  intro h
  have hseveral := menuAt_nil.mp h
  rw [hone] at hseveral
  exact Nat.not_succ_le_self 1 hseveral

theorem menuAt_cons : MenuAt input paths (segment :: path) ↔ Trie.agreeing input paths = [segment] ∧
    MenuAt (input.drop (lowerChars segment).length) (behind segment paths) path := by
  constructor
  · intro h
    refine ⟨h.passed [] segment ⟨path, rfl⟩, fun front next hfront => ?_, ?_⟩
    · rw [← offered_cons]
      exact h.passed (segment :: front) next ((List.prefix_cons_inj segment).mpr hfront)
    · rw [← offered_cons]
      exact h.several
  · rintro ⟨hone, h⟩
    refine ⟨fun front next hfront => ?_, ?_⟩
    · cases front with
      | nil =>
          obtain ⟨rfl, -⟩ := List.cons_prefix_cons.mp hfront
          exact hone
      | cons first front =>
          obtain ⟨rfl, hrest⟩ := List.cons_prefix_cons.mp hfront
          rw [offered_cons]
          exact h.passed front next hrest
    · rw [offered_cons]
      exact h.several

/-- A walk comes to at most one menu. -/
theorem MenuAt.unique {place other : List Segment} (h : MenuAt input paths place)
    (h' : MenuAt input paths other) : place = other := by
  induction place generalizing input paths other with
  | nil =>
      cases other with
      | nil => rfl
      | cons first other => exact absurd h (not_menuAt_nil (menuAt_cons.mp h').1)
  | cons segment place ih =>
      obtain ⟨hone, h⟩ := menuAt_cons.mp h
      cases other with
      | nil => exact absurd h' (not_menuAt_nil hone)
      | cons first other =>
          obtain ⟨hfirst, h'⟩ := menuAt_cons.mp h'
          cases hone.symm.trans hfirst
          rw [ih h h']

/-- At the place of a menu, the segments offered are on the paths that the input leads to. -/
theorem MenuAt.offers (h : MenuAt input paths common) (hlevel : Level paths) :
    Offers input paths common (offered input paths common) := by
  induction common generalizing input paths with
  | nil => exact offers_agreeing hlevel (menuAt_nil.mp h)
  | cons segment common ih =>
      obtain ⟨hone, h⟩ := menuAt_cons.mp h
      rw [offered_cons]
      exact (ih h (hlevel.behind segment)).cons hlevel hone

/-- A walk that ends at a menu has come to the place of one. -/
theorem Walks.exists_menuAt {menu : List String} (h : Walks raw input output paths completion)
    (hmenu : completion = .ambiguous menu) :
    ∃ place, MenuAt input paths place ∧ menu = (offered input paths place).map fun s =>
      String.ofList (output ++ (place ++ [s]).flatten) := by
  induction h with
  | @stop input output paths hnone =>
      rw [arrive_eq] at hmenu
      cases hmenu
  | @pass input output paths segment completion hone _ ih =>
      obtain ⟨place, hplace, rfl⟩ := ih hmenu
      refine ⟨segment :: place, menuAt_cons.mpr ⟨hone, hplace⟩, ?_⟩
      simp only [offered_cons, List.cons_append, List.flatten_cons, List.append_assoc]
  | @offer input output paths hseveral =>
      cases hmenu
      refine ⟨[], menuAt_nil.mpr hseveral, ?_⟩
      simp only [offered_nil, List.nil_append, List.flatten_singleton]

/-- A walk ends at the menu whose place is on its way. -/
theorem Walks.eq_of_menuAt {place : List Segment} (h : Walks raw input output paths completion)
    (hplace : MenuAt input paths place) :
    completion = .ambiguous ((offered input paths place).map fun s =>
      String.ofList (output ++ (place ++ [s]).flatten)) := by
  induction h generalizing place with
  | @stop input output paths hnone =>
      cases place with
      | nil =>
          have hseveral := menuAt_nil.mp hplace
          rw [hnone] at hseveral
          cases hseveral
      | cons first place => cases hnone.symm.trans (menuAt_cons.mp hplace).1
  | @pass input output paths segment completion hone _ ih =>
      cases place with
      | nil => exact absurd hplace (not_menuAt_nil hone)
      | cons first place =>
          obtain ⟨hfirst, hplace⟩ := menuAt_cons.mp hplace
          cases hone.symm.trans hfirst
          rw [ih hplace]
          simp only [offered_cons, List.cons_append, List.flatten_cons, List.append_assoc]
  | @offer input output paths hseveral =>
      cases place with
      | nil => simp only [offered_nil, List.nil_append, List.flatten_singleton]
      | cons first place =>
          exact absurd (menuAt_nil.mpr hseveral) (not_menuAt_nil (menuAt_cons.mp hplace).1)

/-! ## Completions -/

/-- The place where a walk arrives: no path but its own is one that the input leads to, and when there is
none, the input goes on behind it. -/
structure ArrivesAt (input : List Char) (paths : List (List Segment)) (path : List Segment) : Prop where
  leading : Leading paths path
  only : ∀ other ∈ matching input paths, other = path
  passed : matching input paths = [] → path ≠ [] → folded path <+: input ∧ folded path ≠ input

theorem arrivesAt_nil (hnone : Trie.agreeing input paths = []) : ArrivesAt input paths [] := by
  refine ⟨.inl rfl, fun other hother => ?_, fun _ hne => absurd rfl hne⟩
  cases other with
  | nil => rfl
  | cons segment other =>
      have hmem := mem_agreeing_of_matching hother
      rw [hnone] at hmem
      cases hmem

theorem ArrivesAt.cons (hlevel : Level paths) (hone : Trie.agreeing input paths = [segment])
    (h : ArrivesAt (input.drop (lowerChars segment).length) (behind segment paths) path) :
    ArrivesAt input paths (segment :: path) := by
  have hmem : segment ∈ Trie.agreeing input paths := hone ▸ List.mem_singleton_self segment
  obtain ⟨⟨rest, hrest⟩, hagree⟩ := Trie.mem_agreeing.mp hmem
  refine ⟨?_, fun other hother => ?_, fun hnone _ => ?_⟩
  · rcases h.leading with rfl | ⟨whole, hwhole, hprefix⟩
    · exact .inr ⟨segment :: rest, hrest, rest, rfl⟩
    · exact .inr ⟨segment :: whole, mem_behind.mp hwhole, (List.prefix_cons_inj segment).mpr hprefix⟩
  · obtain ⟨first, other, rfl, hfirst⟩ := hlevel.exists_agreeing hmem hother
    rw [hone, List.mem_singleton] at hfirst
    subst hfirst
    rw [h.only other ((mem_matching_cons hagree).mp hother)]
  · have hnone' : ∀ other, other ∉ matching (input.drop (lowerChars segment).length)
        (behind segment paths) := by
      intro other hother
      have hcons := (mem_matching_cons hagree).mpr hother
      rw [hnone] at hcons
      cases hcons
    -- The input goes on behind the segment, because else it would lead to the rest of a path.
    have hends : ¬ input <+: lowerChars segment := by
      intro hends
      refine hnone' rest (mem_matching.mpr ⟨mem_behind.mpr hrest, ?_⟩)
      rw [List.drop_eq_nil_of_le hends.length_le]
      exact List.nil_prefix
    have hread : lowerChars segment <+: input := (agree_iff.mp hagree).resolve_right hends
    obtain ⟨left, rfl⟩ := hread
    rw [List.drop_left] at h hnone'
    by_cases hpath : path = []
    · subst hpath
      rw [folded_singleton]
      exact ⟨List.prefix_append _ _, fun heq => hends (heq ▸ List.prefix_rfl)⟩
    · obtain ⟨hread, hne⟩ := h.passed (List.eq_nil_iff_forall_not_mem.mpr hnone') hpath
      rw [folded_cons]
      exact ⟨(List.prefix_append_right_inj _).mpr hread, fun heq => hne (List.append_cancel_left heq)⟩

theorem Walks.exists_arrivesAt {text : String} (h : Walks raw input output paths completion)
    (hlevel : Level paths) (htext : completion = .complete text) :
    ∃ path, ArrivesAt input paths path ∧ completion = Trie.arrive raw (output ++ path.flatten) := by
  induction h with
  | @stop input output paths hnone =>
      exact ⟨[], arrivesAt_nil hnone, by rw [List.flatten_nil, List.append_nil]⟩
  | @pass input output paths segment completion hone _ ih =>
      obtain ⟨path, harrives, hcompletion⟩ := ih (hlevel.behind segment) htext
      refine ⟨segment :: path, harrives.cons hlevel hone, ?_⟩
      rw [hcompletion, List.flatten_cons, List.append_assoc]
  | offer => cases htext

/-! ## Options -/

section Options

variable {d : Delimiter} {options : List String} {option text : String}

theorem ended_of_mem_pathsOf (hpath : path ∈ pathsOf d options) : Ended path := by
  obtain ⟨option, _, rfl⟩ := List.mem_map.mp hpath
  exact ended_segments d option.toList

theorem level_pathsOf (d : Delimiter) (options : List String) : Level (pathsOf d options) :=
  .inl fun _ => ended_of_mem_pathsOf

theorem walks_resolve (d : Delimiter) (options : List String) (raw : String) :
    Walks raw (lowerChars raw.toList) [] (pathsOf d options)
      ((Trie.ofOptions d options).resolve raw) := by
  unfold Trie.resolve
  rw [Trie.ofOptions_eq_ofPaths]
  exact walks_walk raw _ _ _

theorem mem_matching_of_leads (hoption : option ∈ options)
    (hleads : lowerChars raw.toList <+: folded (segments d option.toList)) :
    segments d option.toList ∈ matching (lowerChars raw.toList) (pathsOf d options) :=
  mem_matching.mpr ⟨List.mem_map_of_mem hoption, hleads⟩

/-- The texts of the segments that are offered behind a path. -/
def menuBehind (input : List Char) (paths : List (List Segment)) (path : List Segment) : List String :=
  (offered input paths path).map fun s => String.ofList (path ++ [s]).flatten

/-- An input is answered by a menu exactly when its walk comes to the place of one, and the menu is what is
offered there. -/
theorem resolve_eq_ambiguous_iff {menu : List String} :
    (Trie.ofOptions d options).resolve raw = .ambiguous menu ↔
      ∃ place, MenuAt (lowerChars raw.toList) (pathsOf d options) place ∧
        menu = menuBehind (lowerChars raw.toList) (pathsOf d options) place := by
  constructor
  · exact (walks_resolve d options raw).exists_menuAt
  · rintro ⟨place, hplace, rfl⟩
    exact (walks_resolve d options raw).eq_of_menuAt hplace

theorem exists_offers_of_resolve {menu : List String}
    (h : (Trie.ofOptions d options).resolve raw = .ambiguous menu) :
    ∃ common next, Offers (lowerChars raw.toList) (pathsOf d options) common next ∧
      menu = next.map fun s => String.ofList (common ++ [s]).flatten := by
  obtain ⟨place, hplace, rfl⟩ := resolve_eq_ambiguous_iff.mp h
  exact ⟨place, _, hplace.offers (level_pathsOf d options), rfl⟩

theorem exists_arrivesAt_of_resolve (h : (Trie.ofOptions d options).resolve raw = .complete text) :
    ∃ path, ArrivesAt (lowerChars raw.toList) (pathsOf d options) path ∧
      text = if path.flatten = [] then raw else String.ofList path.flatten := by
  obtain ⟨path, harrives, hcompletion⟩ :=
    (walks_resolve d options raw).exists_arrivesAt (level_pathsOf d options) h
  rw [h, arrive_eq, List.nil_append] at hcompletion
  exact ⟨path, harrives, Completion.complete.inj hcompletion⟩

theorem eq_of_resolve (h : (Trie.ofOptions d options).resolve raw = .complete text)
    (hoption : option ∈ options)
    (hleads : lowerChars raw.toList <+: folded (segments d option.toList)) : option = text := by
  obtain ⟨path, harrives, rfl⟩ := exists_arrivesAt_of_resolve h
  obtain rfl := harrives.only _ (mem_matching_of_leads hoption hleads)
  rw [flatten_segments]
  split
  · rename_i hempty
    rw [folded_eq_nil ((flatten_segments d option.toList).trans hempty)] at hleads
    have hraw : raw.toList = [] := lowerChars_eq_nil (List.prefix_nil.mp hleads)
    exact String.toList_inj.mp (hempty.trans hraw.symm)
  · rw [String.ofList_toList]

/-- When the input leads to no option, a completion is the input itself, or the text of a leading path that
the input goes on behind. -/
theorem eq_or_passed_of_resolve (h : (Trie.ofOptions d options).resolve raw = .complete text)
    (hnone : ∀ option ∈ options, ¬ lowerChars raw.toList <+: folded (segments d option.toList)) :
    text = raw ∨ ∃ option ∈ options, ∃ path, path <+: segments d option.toList ∧
      text = String.ofList path.flatten ∧
      folded path <+: lowerChars raw.toList ∧ folded path ≠ lowerChars raw.toList := by
  obtain ⟨path, harrives, rfl⟩ := exists_arrivesAt_of_resolve h
  have hmatching : matching (lowerChars raw.toList) (pathsOf d options) = [] := by
    rw [List.eq_nil_iff_forall_not_mem]
    intro path hpath
    obtain ⟨hmem, hleads⟩ := mem_matching.mp hpath
    obtain ⟨option, hoption, rfl⟩ := List.mem_map.mp hmem
    exact hnone option hoption hleads
  split
  · exact .inl rfl
  · rename_i hflatten
    have hpath : path ≠ [] := fun hnil => hflatten (by rw [hnil, List.flatten_nil])
    rcases harrives.leading with hnil | ⟨whole, hwhole, hprefix⟩
    · exact absurd hnil hpath
    · obtain ⟨option, hoption, rfl⟩ := List.mem_map.mp hwhole
      exact .inr ⟨option, hoption, path, hprefix, rfl, harrives.passed hmatching hpath⟩

/-- No option is lost or invented, whatever the options are.  The entries of a menu are several different
leading paths of options, each in agreement with the input, and every option that the input leads to starts
with one of them.  A completion is the only option that the input leads to; when the input leads to none, it
is the input itself or a leading path of an option that the input goes on behind. -/
theorem resolve_keeps_options (d : Delimiter) (options : List String) (raw : String) :
    match (Trie.ofOptions d options).resolve raw with
    | .ambiguous menu =>
        2 ≤ menu.length ∧ menu.Nodup ∧
          (∀ entry ∈ menu, ∃ option ∈ options, ∃ path, path <+: segments d option.toList ∧ path ≠ [] ∧
            entry = String.ofList path.flatten ∧
            (folded path <+: lowerChars raw.toList ∨ lowerChars raw.toList <+: folded path)) ∧
          ∀ option ∈ options, lowerChars raw.toList <+: folded (segments d option.toList) →
            ∃ entry ∈ menu, entry.toList <+: option.toList
    | .complete text =>
        (∀ option ∈ options, lowerChars raw.toList <+: folded (segments d option.toList) →
          option = text) ∧
          ((∀ option ∈ options, ¬ lowerChars raw.toList <+: folded (segments d option.toList)) →
            text = raw ∨ ∃ option ∈ options, ∃ path, path <+: segments d option.toList ∧
              text = String.ofList path.flatten ∧
              folded path <+: lowerChars raw.toList ∧ folded path ≠ lowerChars raw.toList) := by
  cases h : (Trie.ofOptions d options).resolve raw with
  | complete text =>
      exact ⟨fun option hoption => eq_of_resolve h hoption, eq_or_passed_of_resolve h⟩
  | ambiguous menu =>
      obtain ⟨common, next, hoffers, rfl⟩ := exists_offers_of_resolve h
      refine ⟨?_, ?_, fun entry hentry => ?_, fun option hoption hleads => ?_⟩
      · rw [List.length_map]
        exact hoffers.several
      · refine List.Pairwise.map _ (fun s t hne heq => hne ?_) hoffers.distinct
        have hflatten := String.ofList_injective heq
        simpa using hflatten
      · obtain ⟨s, hs, rfl⟩ := List.mem_map.mp hentry
        obtain ⟨whole, hwhole, hprefix⟩ := hoffers.leading s hs
        obtain ⟨option, hoption, rfl⟩ := List.mem_map.mp hwhole
        exact ⟨option, hoption, common ++ [s], hprefix, by simp, rfl,
          agree_iff.mp (hoffers.agrees s hs)⟩
      · obtain ⟨s, hs, rest, hrest⟩ := hoffers.keeps _ (mem_matching_of_leads hoption hleads)
        refine ⟨_, List.mem_map_of_mem hs, rest.flatten, ?_⟩
        rw [String.toList_ofList, ← List.flatten_append, hrest, flatten_segments]

end Options

end CommandForms.Completion
