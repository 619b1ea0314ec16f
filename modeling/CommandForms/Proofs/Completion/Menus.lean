import CommandForms.Proofs.Completion.Walks
import CommandForms.Proofs.Text.Lowercase

/-!
# Following a menu

What the completion of a menu's entry is.  An option crosses the path of the entry when it leaves that path at
a segment that the rest of the path does not tell apart from its own.  Without such an option, the entry is
completed further; with one, the entry is answered by the menu of a place on the way to it, which may be the
menu that offered the entry.
-/

namespace CommandForms.Completion

open CommandForms.Text (lowerChars)

/-! ## Options that cross a path -/

/-- Another path leaves a path at a segment that agrees with what is left of the path there, case aside. -/
def crosses : List Segment → List Segment → Bool
  | a :: path, b :: other =>
      if a = b then crosses path other else Trie.agree (lowerChars b) (folded (a :: path))
  | _, _ => false

variable {raw : String} {input output : List Char} {segment : Segment} {path common other : List Segment}
  {paths : List (List Segment)} {completion : Completion}

theorem crosses_append (common path other : List Segment) :
    crosses (common ++ path) (common ++ other) = crosses path other := by
  induction common with
  | nil => rfl
  | cons segment common ih => rw [List.cons_append, List.cons_append, crosses, if_pos rfl, ih]

theorem mem_agreeing_of_start (h : ∃ whole ∈ paths, segment :: path <+: whole) :
    segment ∈ Trie.agreeing (folded (segment :: path)) paths := by
  obtain ⟨whole, hwhole, rest, rfl⟩ := h
  exact Trie.mem_agreeing.mpr
    ⟨⟨path ++ rest, hwhole⟩, agree_iff.mpr (.inl (List.prefix_append _ _))⟩

/-- Another first segment that agrees with the text of a path is that of a path that crosses it. -/
theorem exists_crosses_of_agreeing {first : Segment}
    (h : first ∈ Trie.agreeing (folded (segment :: path)) paths) (hne : first ≠ segment) :
    ∃ whole ∈ paths, crosses (segment :: path) whole = true := by
  obtain ⟨⟨rest, hrest⟩, hagree⟩ := Trie.mem_agreeing.mp h
  exact ⟨first :: rest, hrest, by rw [crosses, if_neg (Ne.symm hne), hagree]⟩

theorem start_behind (h : ∃ whole ∈ paths, segment :: path <+: whole) :
    ∃ whole ∈ behind segment paths, path <+: whole := by
  obtain ⟨whole, hwhole, rest, rfl⟩ := h
  exact ⟨path ++ rest, mem_behind.mpr hwhole, List.prefix_append _ _⟩

/-- A path that is crossed, but not where it starts, is crossed behind its first segment. -/
theorem crossed_behind (hone : Trie.agreeing (folded (segment :: path)) paths = [segment])
    (h : ∃ whole ∈ paths, crosses (segment :: path) whole = true) :
    ∃ whole ∈ behind segment paths, crosses path whole = true := by
  obtain ⟨whole, hwhole, hcrosses⟩ := h
  cases whole with
  | nil => cases hcrosses
  | cons first other =>
      rw [crosses] at hcrosses
      split at hcrosses
      · rename_i heq
        subst heq
        exact ⟨other, mem_behind.mpr hwhole, hcrosses⟩
      · rename_i hne
        have hfirst : first ∈ Trie.agreeing (folded (segment :: path)) paths :=
          Trie.mem_agreeing.mpr ⟨⟨other, hwhole⟩, hcrosses⟩
        rw [hone, List.mem_singleton] at hfirst
        exact absurd hfirst.symm hne

/-! ## Walks along a path -/

/-- With the text of a leading path that nothing crosses as its input, a walk goes along that path. -/
theorem Walks.along (h : Walks raw (folded path) output paths completion)
    (hstart : ∃ whole ∈ paths, path <+: whole) (hclear : ∀ whole ∈ paths, crosses path whole = false) :
    Walks raw [] (output ++ path.flatten) (behindPath path paths) completion := by
  induction path generalizing output paths with
  | nil =>
      rw [List.flatten_nil, List.append_nil]
      exact h
  | cons segment path ih =>
      have hmem := mem_agreeing_of_start hstart
      have honly : ∀ first ∈ Trie.agreeing (folded (segment :: path)) paths, first = segment := by
        intro first hfirst
        by_contra hne
        obtain ⟨whole, hwhole, hcrosses⟩ := exists_crosses_of_agreeing hfirst hne
        rw [hclear whole hwhole] at hcrosses
        cases hcrosses
      cases h with
      | stop hnone =>
          rw [hnone] at hmem
          cases hmem
      | @pass _ _ _ first _ hone inner =>
          obtain rfl := honly first (hone ▸ List.mem_singleton_self first)
          rw [folded_cons, List.drop_left] at inner
          rw [List.flatten_cons, ← List.append_assoc]
          refine ih inner (start_behind hstart) fun whole hwhole => ?_
          have hcrosses := hclear _ (mem_behind.mp hwhole)
          rwa [crosses, if_pos rfl] at hcrosses
      | offer hseveral =>
          obtain ⟨a, ha, b, hb, hne⟩ := exists_ne_of_two_le hseveral
          exact absurd ((honly a ha).trans (honly b hb).symm) hne

theorem Walks.starts_with_output (h : Walks raw input output paths completion) :
    (∀ text, completion = .complete text → output <+: text.toList) ∧
      ∀ menu, completion = .ambiguous menu → ∀ entry ∈ menu, output <+: entry.toList := by
  induction h with
  | @stop input output paths hnone =>
      rw [arrive_eq]
      refine ⟨fun text htext => ?_, nofun⟩
      cases htext
      split
      · rename_i hempty
        rw [hempty]
        exact List.nil_prefix
      · rw [String.toList_ofList]
  | @pass input output paths segment completion hone _ ih =>
      refine ⟨fun text htext => ?_, fun menu hmenu entry hentry => ?_⟩
      · exact (List.prefix_append _ _).trans (ih.1 text htext)
      · exact (List.prefix_append _ _).trans (ih.2 menu hmenu entry hentry)
  | @offer input output paths hseveral =>
      refine ⟨nofun, fun menu hmenu entry hentry => ?_⟩
      cases hmenu
      obtain ⟨s, _, rfl⟩ := List.mem_map.mp hentry
      rw [String.toList_ofList]
      exact List.prefix_append _ _

/-! ## Places where a path is crossed -/

section Crossed

variable {front rest : List Segment} {a s t : Segment}

theorem folded_append (path other : List Segment) : folded (path ++ other) = folded path ++ folded other :=
  List.flatMap_append

/-- With the text of a leading path as its input, a walk along the path is offered the next segment of it. -/
theorem mem_offered_of_start (h : ∃ whole ∈ paths, front ++ a :: rest <+: whole) :
    a ∈ offered (folded (front ++ a :: rest)) paths front := by
  obtain ⟨whole, hwhole, more, rfl⟩ := h
  rw [List.append_assoc, List.cons_append] at hwhole
  refine mem_offered.mpr ⟨⟨rest ++ more, hwhole⟩, agree_iff.mpr (.inl ?_)⟩
  rw [folded_append, List.drop_left, folded_cons]
  exact List.prefix_append _ _

theorem exists_crosses_of_offered (h : t ∈ offered (folded (front ++ a :: rest)) paths front)
    (hne : t ≠ a) :
    ∃ more, front ++ t :: more ∈ paths ∧ crosses (front ++ a :: rest) (front ++ t :: more) = true := by
  obtain ⟨⟨more, hmore⟩, hagree⟩ := mem_offered.mp h
  rw [folded_append, List.drop_left] at hagree
  refine ⟨more, hmore, ?_⟩
  rw [crosses_append, crosses, if_neg (Ne.symm hne)]
  exact hagree

theorem agree_of_offered (h : t ∈ offered (folded (front ++ rest)) paths front) :
    Trie.agree (folded (front ++ [t])) (folded (front ++ rest)) = true := by
  rw [folded_append, folded_singleton, agree_append, folded_append]
  refine ⟨agree_iff.mpr (.inl (List.prefix_append _ _)), ?_⟩
  rw [← folded_append]
  exact (mem_offered.mp h).2

/-- With the text of a leading path that something crosses as its input, there is a menu on the way along the
path. -/
theorem exists_menuAt_of_crosses (hstart : ∃ whole ∈ paths, path <+: whole)
    (hcrossed : ∃ whole ∈ paths, crosses path whole = true) :
    ∃ front a rest, path = front ++ a :: rest ∧ MenuAt (folded path) paths front := by
  induction path generalizing paths with
  | nil =>
      obtain ⟨whole, _, hcrosses⟩ := hcrossed
      cases whole <;> cases hcrosses
  | cons segment path ih =>
      -- The menu is where a second segment agrees; up to there the path's own is the only one.
      by_cases hseveral : 2 ≤ (Trie.agreeing (folded (segment :: path)) paths).length
      · exact ⟨[], segment, path, rfl, menuAt_nil.mpr hseveral⟩
      · have hmem := mem_agreeing_of_start hstart
        have hlength : (Trie.agreeing (folded (segment :: path)) paths).length = 1 :=
          Nat.le_antisymm (Nat.le_of_not_lt hseveral) (List.length_pos_of_mem hmem)
        obtain ⟨first, hone⟩ := List.length_eq_one_iff.mp hlength
        rw [hone, List.mem_singleton] at hmem
        subst hmem
        obtain ⟨front, a, rest, rfl, hplace⟩ := ih (start_behind hstart) (crossed_behind hone hcrossed)
        refine ⟨segment :: front, a, rest, rfl, menuAt_cons.mpr ⟨hone, ?_⟩⟩
        rw [folded_cons, List.drop_left]
        exact hplace

theorem MenuAt.exists_crosses (h : MenuAt (folded (front ++ a :: rest)) paths front) :
    ∃ whole ∈ paths, crosses (front ++ a :: rest) whole = true ∧ ¬ front ++ [a] <+: whole := by
  obtain ⟨b, hb, c, hc, hne⟩ := exists_ne_of_two_le h.several
  obtain ⟨t, ht, hta⟩ : ∃ t ∈ offered (folded (front ++ a :: rest)) paths front, t ≠ a := by
    by_cases hba : b = a
    · exact ⟨c, hc, fun hca => hne (hba.trans hca.symm)⟩
    · exact ⟨b, hb, hba⟩
  obtain ⟨more, hmore, hcrosses⟩ := exists_crosses_of_offered ht hta
  refine ⟨_, hmore, hcrosses, fun hprefix => hta ?_⟩
  rw [List.prefix_append_right_inj] at hprefix
  exact (List.cons_prefix_cons.mp hprefix).1.symm

/-- Where all paths that cross a path leave it at its last segment, that is the place of the menu. -/
theorem MenuAt.eq_of_crosses_last (h : MenuAt (folded path) paths front) (hpath : path = front ++ a :: rest)
    (hlast : path = common ++ [s]) (hcrosses : ∀ whole ∈ paths, crosses path whole = true → common <+: whole) :
    front = common := by
  subst hpath
  obtain ⟨whole, hwhole, hcross, hleaves⟩ := h.exists_crosses
  have hcommon := hcrosses whole hwhole hcross
  rcases List.eq_nil_or_concat rest with rfl | ⟨rest, b, rfl⟩
  · exact (List.append_inj' hlast rfl).1
  · rw [List.concat_eq_append, ← List.cons_append, ← List.append_assoc] at hlast
    have hinit : front ++ a :: rest = common := (List.append_inj' hlast rfl).1
    refine absurd (List.IsPrefix.trans ?_ hcommon) hleaves
    rw [← hinit]
    exact ⟨rest, by rw [List.append_assoc, List.singleton_append]⟩

end Crossed

/-! ## Lower case -/

/-- Without a capital sigma, the text of a path in lower case is that of its segments. -/
theorem folded_eq_lowerChars (h : 'Σ' ∉ path.flatten) : folded path = lowerChars path.flatten := by
  induction path with
  | nil => rfl
  | cons segment path ih =>
      rw [List.flatten_cons, List.mem_append, not_or] at h
      rw [folded_cons, ih h.2, List.flatten_cons, Text.lowerChars_append h.1 h.2]

theorem folded_of_start {d : Delimiter} {option : List Char} (h : 'Σ' ∉ option)
    (hpath : path <+: segments d option) : folded path = lowerChars path.flatten := by
  refine folded_eq_lowerChars fun hmem => h ?_
  rw [← flatten_segments d option]
  exact hpath.flatten.subset hmem

theorem folded_segments {d : Delimiter} {option : List Char} (h : 'Σ' ∉ option) :
    folded (segments d option) = lowerChars option := by
  rw [folded_of_start h List.prefix_rfl, flatten_segments]

/-! ## Options without namespaces -/

section Plain

variable {options : List String} {option text : String}

theorem lowerChars_of_member? (h : member? options text = some option) :
    lowerChars option.toList = lowerChars text.toList := by
  have hsame := List.find?_some h
  exact beq_iff_eq.mp hsame

theorem member?_eq_none_iff : member? options text = none ↔
    ∀ option ∈ options, lowerChars option.toList ≠ lowerChars text.toList := by
  unfold member?
  simp only [List.find?_eq_none, beq_iff_eq, ne_eq]

theorem plain_of_mem (h : text ∈ options) :
    ∃ option ∈ options, plain options text = .complete option ∧
      lowerChars option.toList = lowerChars text.toList := by
  cases hmember : member? options text with
  | none => exact absurd rfl (member?_eq_none_iff.mp hmember text h)
  | some option =>
      refine ⟨option, List.mem_of_find?_eq_some hmember, ?_, lowerChars_of_member? hmember⟩
      rw [plain, hmember]

theorem plain_eq_raw
    (h : ∀ option ∈ options, ¬ lowerChars raw.toList <+: lowerChars option.toList) :
    plain options raw = .complete raw := by
  have hmember : member? options raw = none :=
    member?_eq_none_iff.mpr fun option hoption hsame => h option hoption (hsame ▸ List.prefix_rfl)
  have hfilter : options.filter (fun option =>
      (lowerChars raw.toList).isPrefixOf (lowerChars option.toList)) = [] :=
    List.filter_eq_nil_iff.mpr fun option hoption hprefix =>
      h option hoption (List.isPrefixOf_iff_prefix.mp hprefix)
  rw [plain, hmember]
  dsimp only
  rw [hfilter]

theorem mem_of_plain {menu : List String} (h : plain options raw = .ambiguous menu)
    (hentry : text ∈ menu) : text ∈ options := by
  unfold plain at h
  split at h
  · cases h
  · split at h
    · cases h
    · cases h
    · cases h
      exact (List.mem_filter.mp hentry).1

end Plain

/-! ## Entries of menus -/

section Entries

variable {d : Delimiter} {options menu : List String} {entry : String}

theorem folded_of_entry (hentry : entry.toList = path.flatten) (hsigma : 'Σ' ∉ entry.toList) :
    folded path = lowerChars entry.toList := by
  rw [hentry] at hsigma ⊢
  exact folded_eq_lowerChars hsigma

theorem walks_resolve_start (hentry : entry.toList = path.flatten) (hsigma : 'Σ' ∉ entry.toList) :
    Walks entry (folded path) [] (pathsOf d options) ((Trie.ofOptions d options).resolve entry) := by
  rw [folded_of_entry hentry hsigma]
  exact walks_resolve d options entry

theorem starts_with_of_clear (hstart : ∃ whole ∈ pathsOf d options, path <+: whole)
    (hclear : ∀ whole ∈ pathsOf d options, crosses path whole = false)
    (hentry : entry.toList = path.flatten) (hsigma : 'Σ' ∉ entry.toList) :
    (∀ text, (Trie.ofOptions d options).resolve entry = .complete text →
      entry.toList <+: text.toList) ∧
      ∀ menu, (Trie.ofOptions d options).resolve entry = .ambiguous menu →
        ∀ other ∈ menu, entry.toList <+: other.toList := by
  rw [hentry]
  exact ((walks_resolve_start hentry hsigma).along hstart hclear).starts_with_output

theorem Offers.exists_ne {next : List Segment} (h : Offers input paths common next) (s : Segment) :
    ∃ t ∈ next, t ≠ s := by
  by_contra hnone
  have hall : ∀ t ∈ next, t = s := by
    intro t ht
    by_contra hne
    exact hnone ⟨t, ht, hne⟩
  have hlength : next.length ≤ 1 := by
    have hdistinct := h.distinct
    rw [List.eq_replicate_of_mem hall, List.nodup_replicate] at hdistinct
    exact hdistinct
  exact absurd h.several (Nat.not_le.mpr (Nat.lt_succ_of_le hlength))

/-- Of the segments that a menu offers, none is the start of another one whose path it does not cross. -/
theorem Offers.not_prefix {next : List Segment} {s t : Segment} (h : Offers input paths common next)
    (hclear : ∀ whole ∈ paths, crosses (common ++ [s]) whole = false) (ht : t ∈ next) (hne : t ≠ s) :
    ¬ lowerChars s <+: lowerChars t := by
  intro hprefix
  obtain ⟨whole, hwhole, rest, rfl⟩ := h.leading t ht
  have hcrosses := hclear _ hwhole
  rw [List.append_assoc, crosses_append, List.singleton_append, crosses, if_neg (Ne.symm hne),
    folded_singleton] at hcrosses
  rw [agree_iff.mpr (.inr hprefix)] at hcrosses
  cases hcrosses

theorem Offers.exists_not_prefix {next : List Segment} {s : Segment} (h : Offers input paths common next)
    (hclear : ∀ whole ∈ paths, crosses (common ++ [s]) whole = false) (hsigma : 'Σ' ∉ s) :
    ∃ t ∈ next, ¬ s <+: t := by
  obtain ⟨t, ht, hne⟩ := h.exists_ne s
  exact ⟨t, ht, fun hprefix => h.not_prefix hclear ht hne (Text.lowerChars_prefix hsigma hprefix)⟩

end Entries

/-- How far the answer to an entry whose path is crossed takes up the entry. -/
structure LeadsBack (paths : List (List Segment)) (common : List Segment) (s : Segment)
    (menu entries : List String) (entry : String) : Prop where
  /-- One of the entries is a start of the entry. -/
  starts : ∃ other ∈ entries, other.toList <+: entry.toList
  /-- Each of the entries is a start of the entry or goes on from it, case aside. -/
  comparable : ∀ other ∈ entries, 'Σ' ∉ other.toList →
    lowerChars other.toList <+: lowerChars entry.toList ∨ lowerChars entry.toList <+: lowerChars other.toList
  /-- A menu with an entry of which this cannot be said is not repeated. -/
  changes : (∃ other ∈ menu, 'Σ' ∉ other.toList ∧ ¬ lowerChars other.toList <+: lowerChars entry.toList ∧
    ¬ lowerChars entry.toList <+: lowerChars other.toList) → entries ≠ menu
  /-- All entries go on from the entry when the paths that cross its path do so at the last segment. -/
  extend : (∀ whole ∈ paths, crosses (common ++ [s]) whole = true →
      ∃ t, common ++ [t] <+: whole ∧ lowerChars s <+: lowerChars t) →
    ∀ other ∈ entries, 'Σ' ∉ other.toList → lowerChars entry.toList <+: lowerChars other.toList

/-- Where all paths that cross a path go on from its last segment, so does what is offered at the menu on the way
along it. -/
theorem MenuAt.folded_prefix {front rest : List Segment} {a s t : Segment}
    (h : MenuAt (folded path) paths front) (hpath : path = front ++ a :: rest) (hlast : path = common ++ [s])
    (hcrosses : ∀ whole ∈ paths, crosses path whole = true →
      ∃ t, common ++ [t] <+: whole ∧ lowerChars s <+: lowerChars t)
    (ht : t ∈ offered (folded path) paths front) : folded path <+: folded (front ++ [t]) := by
  have hfront : front = common := by
    refine h.eq_of_crosses_last hpath hlast fun whole hwhole hcross => ?_
    obtain ⟨t, hprefix, -⟩ := hcrosses whole hwhole hcross
    exact (List.prefix_append _ _).trans hprefix
  subst hfront hlast
  rw [folded_append, folded_append, List.prefix_append_right_inj, folded_singleton, folded_singleton]
  -- Whatever else is offered than the segment itself belongs to a path that crosses.
  by_cases hts : t = s
  · rw [hts]
  · obtain ⟨more, hmore, hcross⟩ := exists_crosses_of_offered ht hts
    obtain ⟨next, hnext, hlonger⟩ := hcrosses _ hmore hcross
    rw [List.prefix_append_right_inj] at hnext
    obtain ⟨rfl, -⟩ := List.cons_prefix_cons.mp hnext
    exact hlonger

theorem MenuAt.leadsBack {front rest : List Segment} {a s : Segment} {menu : List String} {entry : String}
    (h : MenuAt (folded path) paths front) (hpath : path = front ++ a :: rest) (hlast : path = common ++ [s])
    (hstart : ∃ whole ∈ paths, path <+: whole) (hentry : entry.toList = path.flatten)
    (hsigma : 'Σ' ∉ entry.toList) :
    LeadsBack paths common s menu (menuBehind (folded path) paths front) entry := by
  have hfolded := folded_of_entry hentry hsigma
  have hcomparable : ∀ other ∈ menuBehind (folded path) paths front, 'Σ' ∉ other.toList →
      lowerChars other.toList <+: lowerChars entry.toList ∨
        lowerChars entry.toList <+: lowerChars other.toList := by
    intro other hother hother'
    obtain ⟨t, ht, rfl⟩ := List.mem_map.mp hother
    rw [String.toList_ofList] at hother' ⊢
    rw [← hfolded, ← folded_eq_lowerChars hother']
    rw [hpath] at ht ⊢
    exact agree_iff.mp (agree_of_offered ht)
  refine ⟨?_, hcomparable, ?_, fun hcrosses other hother hother' => ?_⟩
  · subst hpath
    refine ⟨_, List.mem_map_of_mem (mem_offered_of_start hstart), rest.flatten, ?_⟩
    rw [hentry, String.toList_ofList, ← List.flatten_append, List.append_assoc, List.singleton_append]
  · rintro ⟨other, hother, hother', hshorter, hlonger⟩ rfl
    exact (hcomparable other hother hother').elim hshorter hlonger
  · obtain ⟨t, ht, rfl⟩ := List.mem_map.mp hother
    rw [String.toList_ofList] at hother' ⊢
    rw [← hfolded, ← folded_eq_lowerChars hother']
    exact h.folded_prefix hpath hlast (hlast ▸ hcrosses) ht

/-- Following a menu.  Without namespaces, an entry is completed to an option that equals it, case aside.  With
namespaces, the entries of a menu are the texts of the segments that its input offers behind a common path; let
an entry have no capital sigma.  If no option crosses the path of the entry, the entry is completed to a text
that starts with it, or to another menu whose entries all start with it.  If an option does, the entry is
answered by the menu of a place on its path, which leads back to it. -/
theorem entry_is_completed {source : CompletionSource} {menu : List String}
    (hmenu : source.complete raw = .ambiguous menu) :
    (source.delimiter = none → ∀ entry ∈ menu, ∃ option ∈ source.options,
      source.complete entry = .complete option ∧ lowerChars option.toList = lowerChars entry.toList) ∧
    ∀ d paths, source.delimiter = some d → paths = pathsOf d source.options →
      ∃ common, MenuAt (lowerChars raw.toList) paths common ∧
        menu = menuBehind (lowerChars raw.toList) paths common ∧
        ∀ s ∈ offered (lowerChars raw.toList) paths common, ∀ entry,
          entry = String.ofList (common ++ [s]).flatten → 'Σ' ∉ entry.toList →
          ((∀ whole ∈ paths, crosses (common ++ [s]) whole = false) →
            (∃ text, source.complete entry = .complete text ∧
              lowerChars entry.toList <+: lowerChars text.toList) ∨
            ∃ entries, source.complete entry = .ambiguous entries ∧ entries ≠ menu ∧
              ∀ other ∈ entries, lowerChars entry.toList <+: lowerChars other.toList) ∧
          ((∃ whole ∈ paths, crosses (common ++ [s]) whole = true) →
            ∃ front, front <+: common ∧ MenuAt (lowerChars entry.toList) paths front ∧
              ∃ entries, source.complete entry = .ambiguous entries ∧
                entries = menuBehind (lowerChars entry.toList) paths front ∧
                LeadsBack paths common s menu entries entry) := by
  obtain ⟨options, delimiter⟩ := source
  constructor
  · rintro rfl entry hentry
    exact plain_of_mem (mem_of_plain hmenu hentry)
  · rintro d paths rfl rfl
    obtain ⟨common, hplace, rfl⟩ := resolve_eq_ambiguous_iff.mp hmenu
    have hoffers := hplace.offers (level_pathsOf d options)
    refine ⟨common, hplace, rfl, fun s hs entry hentry hsigma => ?_⟩
    have hpath : entry.toList = (common ++ [s]).flatten := by rw [hentry, String.toList_ofList]
    have hstart := hoffers.leading s hs
    refine ⟨fun hclear => ?_, fun hcrossed => ?_⟩
    · obtain ⟨hcomplete, hambiguous⟩ := starts_with_of_clear hstart hclear hpath hsigma
      cases h : (Trie.ofOptions d options).resolve entry with
      | complete text => exact .inl ⟨text, h, Text.lowerChars_prefix hsigma (hcomplete text h)⟩
      | ambiguous entries =>
          refine .inr ⟨entries, h, ?_, fun other hother =>
            Text.lowerChars_prefix hsigma (hambiguous entries h other hother)⟩
          rintro rfl
          -- Another entry of the menu does not go on from this one, so that the menus differ.
          have hsigma' : 'Σ' ∉ s := by
            rw [hpath, List.flatten_append, List.flatten_singleton, List.mem_append, not_or] at hsigma
            exact hsigma.2
          obtain ⟨t, ht, hnot⟩ := hoffers.exists_not_prefix hclear hsigma'
          have hfront := hambiguous _ h _ (List.mem_map_of_mem ht)
          rw [hpath, String.toList_ofList, List.flatten_append, List.flatten_append,
            List.prefix_append_right_inj, List.flatten_singleton, List.flatten_singleton] at hfront
          exact hnot hfront
    · obtain ⟨front, a, rest, heq, hplace'⟩ := exists_menuAt_of_crosses hstart hcrossed
      have hfolded := folded_of_entry hpath hsigma
      have hfront : front <+: common := by
        rcases List.prefix_concat_iff.mp ⟨a :: rest, heq.symm⟩ with hwhole | hfront
        · rw [hwhole] at heq
          exact absurd (List.self_eq_append_right.mp heq) (List.cons_ne_nil a rest)
        · exact hfront
      have hleads : LeadsBack (pathsOf d options) common s
          (menuBehind (lowerChars raw.toList) (pathsOf d options) common)
          (menuBehind (folded (common ++ [s])) (pathsOf d options) front) entry :=
        hplace'.leadsBack heq rfl hstart hpath hsigma
      rw [hfolded] at hplace' hleads
      exact ⟨front, hfront, hplace', _, resolve_eq_ambiguous_iff.mpr ⟨front, hplace', rfl⟩, rfl, hleads⟩

/-- A namespace that nothing crosses leads on to its own options, and an option that is also the name of a
namespace to a menu whose entries all start with it. -/
theorem entry_is_completed_namespace :
    let plain : CompletionSource := ⟨["forge", "format"], none⟩
    let apart : CompletionSource := ⟨["app.one", "app.two", "Base"], some AspectSet.delimiter⟩
    let crossed : CompletionSource := ⟨["forge", "forge.x"], some AspectSet.delimiter⟩
    (plain.complete "fo" = .ambiguous ["forge", "format"] ∧
      ∃ option ∈ plain.options, plain.complete "forge" = .complete option ∧
        lowerChars option.toList = lowerChars "forge".toList) ∧
    (apart.complete "" = .ambiguous ["app.", "Base"] ∧
      ((∃ text, apart.complete "app." = .complete text ∧
          lowerChars "app.".toList <+: lowerChars text.toList) ∨
        ∃ entries, apart.complete "app." = .ambiguous entries ∧ entries ≠ ["app.", "Base"] ∧
          ∀ other ∈ entries, lowerChars "app.".toList <+: lowerChars other.toList)) ∧
    crossed.complete "f" = .ambiguous ["forge", "forge."] ∧
      ∃ entries, crossed.complete "forge" = .ambiguous entries ∧
        ∀ other ∈ entries, 'Σ' ∉ other.toList →
          lowerChars "forge".toList <+: lowerChars other.toList := by
  intro plain apart crossed
  have hplain : plain.complete "fo" = .ambiguous ["forge", "format"] := by decide +kernel
  have hapart : apart.complete "" = .ambiguous ["app.", "Base"] := by decide +kernel
  have hcrossed : crossed.complete "f" = .ambiguous ["forge", "forge."] := by decide +kernel
  refine ⟨⟨hplain, (entry_is_completed hplain).1 rfl "forge" List.mem_cons_self⟩, ⟨hapart, ?_⟩, hcrossed, ?_⟩
  · obtain ⟨common, hplace, -, hfollow⟩ := (entry_is_completed hapart).2 AspectSet.delimiter _ rfl rfl
    obtain rfl : common = [] := hplace.unique (menuAt_nil.mpr (by decide +kernel))
    exact (hfollow "app.".toList (by decide +kernel) "app." rfl (by decide +kernel)).1 (by decide +kernel)
  · obtain ⟨common, hplace, -, hfollow⟩ := (entry_is_completed hcrossed).2 AspectSet.delimiter _ rfl rfl
    obtain rfl : common = [] := hplace.unique (menuAt_nil.mpr (by decide +kernel))
    obtain ⟨front, -, -, entries, hcomplete, -, hleads⟩ :=
      (hfollow "forge".toList (by decide +kernel) "forge" rfl (by decide +kernel)).2 (by decide +kernel)
    have hlonger : ∀ whole ∈ pathsOf AspectSet.delimiter crossed.options,
        ∃ t ∈ whole, [t] <+: whole ∧ lowerChars "forge".toList <+: lowerChars t := by
      decide +kernel
    refine ⟨entries, hcomplete, hleads.extend fun whole hwhole _ => ?_⟩
    obtain ⟨t, -, hprefix, hextends⟩ := hlonger whole hwhole
    exact ⟨t, hprefix, hextends⟩

/-- An option that is also the name of a namespace crosses its own path: its menu is what both entries of the
menu lead to. -/
theorem entry_repeats_its_menu :
    let source : CompletionSource := ⟨["forge", "forge.x"], some AspectSet.delimiter⟩
    source.complete "f" = .ambiguous ["forge", "forge."] ∧
      source.complete "forge" = .ambiguous ["forge", "forge."] ∧
      source.complete "forge." = .ambiguous ["forge", "forge."] ∧
      ¬ lowerChars "forge.".toList <+: lowerChars "forge".toList := by
  decide +kernel

end CommandForms.Completion
