import CommandForms.Keyed

/-!
# Entries under keys

What the operations on keyed entries do to the entries under each key, and to their number.
-/

namespace CommandForms

namespace Entries

variable {α : Type} {key k : String} {value v : α} {entries : List (String × α)}

/-! ## The value under a key -/

@[simp]
theorem find?_nil : find? (α := α) key [] = none := rfl

theorem find?_cons :
    find? k ((key, value) :: entries) = if k = key then some value else find? k entries := by
  unfold find?
  rw [List.lookup_cons]
  by_cases hk : k = key
  · simp [hk]
  · rw [beq_false_of_ne hk, if_neg hk]

theorem mem_of_find? (h : find? key entries = some value) : (key, value) ∈ entries := by
  obtain ⟨before, after, hentries, _⟩ := List.lookup_eq_some_iff.mp h
  simp [hentries]

theorem find?_eq_none_iff : find? key entries = none ↔ key ∉ entries.map (·.1) := by
  unfold find?
  rw [List.lookup_eq_none_iff]
  constructor
  · intro h hmem
    obtain ⟨entry, hentry, heq⟩ := List.mem_map.mp hmem
    simpa [heq] using h entry hentry
  · intro h entry hentry
    have hne : key ≠ entry.1 := fun heq => h (heq ▸ List.mem_map_of_mem hentry)
    simpa using hne

theorem isSome_find?_iff : (find? key entries).isSome ↔ key ∈ entries.map (·.1) := by
  rw [Option.isSome_iff_ne_none, ne_eq, find?_eq_none_iff, Decidable.not_not]

/-- Keys that ascend strictly are pairwise different, so that an entry is found under its key. -/
theorem Ascending.find?_eq_some (h : Ascending entries) (hmem : (key, value) ∈ entries) :
    find? key entries = some value := by
  induction entries with
  | nil => cases hmem
  | cons head entries ih =>
      obtain ⟨k, v⟩ := head
      unfold Ascending at h
      rw [List.pairwise_cons] at h
      rcases List.mem_cons.mp hmem with heq | hmem
      · cases heq
        simp [find?_cons]
      · have hlt : k < key := h.1 _ hmem
        have hne : key ≠ k := fun heq => String.lt_irrefl _ (heq ▸ hlt)
        simpa [find?_cons, hne] using ih h.2 hmem

theorem find?_insert :
    find? k (insert key value entries) = if k = key then some value else find? k entries := by
  induction entries with
  | nil => exact find?_cons
  | cons head entries ih =>
      obtain ⟨k', v'⟩ := head
      unfold insert
      split
      · rename_i heq
        subst heq
        simp only [find?_cons]
        split <;> rfl
      · split
        · simp only [find?_cons]
        · rename_i hne _
          simp only [find?_cons, ih]
          by_cases hk : k = k'
          · subst hk
            simp [Ne.symm hne]
          · simp [hk]

theorem mem_erase {entry : String × α} (h : entry ∈ erase key entries) : entry ∈ entries :=
  (List.mem_filter.mp h).1

/-! ## Entries in ascending order -/

theorem Ascending.nodup (h : Ascending entries) : entries.Nodup := by
  refine List.Pairwise.imp ?_ h
  intro entry other hlt heq
  exact String.lt_irrefl _ (heq ▸ hlt)

theorem Ascending.ext {others : List (String × α)} (h : Ascending entries) (h' : Ascending others)
    (hfind : ∀ key, find? key entries = find? key others) : entries = others := by
  have hmem : ∀ entry, entry ∈ entries ↔ entry ∈ others := by
    rintro ⟨key, value⟩
    constructor
    · intro hmem
      exact mem_of_find? (hfind key ▸ h.find?_eq_some hmem)
    · intro hmem
      exact mem_of_find? ((hfind key).trans (h'.find?_eq_some hmem))
  have hperm := (List.perm_ext_iff_of_nodup h.nodup h'.nodup).mpr hmem
  refine hperm.eq_of_pairwise ?_ h h'
  intro entry other _ _ hlt hgt
  exact absurd hgt (String.lt_asymm hlt)

theorem Ascending.insert_last (h : Ascending (entries ++ [(key, value)])) :
    Entries.insert key value entries = entries ++ [(key, value)] := by
  induction entries with
  | nil => rfl
  | cons head entries ih =>
      obtain ⟨k, v⟩ := head
      unfold Ascending at h
      rw [List.cons_append, List.pairwise_cons] at h
      have hlt : k < key := h.1 (key, value) (by simp)
      have hne : key ≠ k := fun heq => String.lt_irrefl _ (heq ▸ hlt)
      rw [Entries.insert, if_neg hne, if_neg (String.lt_asymm hlt), ih h.2, List.cons_append]

theorem Ascending.ofList_eq (h : Ascending entries) : ofList entries = entries := by
  suffices hbuilt : ∀ built, Ascending (built ++ entries) →
      entries.foldl (fun built entry => Entries.insert entry.1 entry.2 built) built =
        built ++ entries from hbuilt [] h
  clear h
  induction entries with
  | nil => exact fun built _ => (List.append_nil built).symm
  | cons entry entries ih =>
      intro built hbuilt
      have happend : built ++ entry :: entries = (built ++ [entry]) ++ entries := by simp
      rw [happend] at hbuilt ⊢
      have hfront : Ascending (built ++ [entry]) := (List.pairwise_append.mp hbuilt).1
      rw [List.foldl_cons, hfront.insert_last]
      exact ih _ hbuilt

theorem perm_insert (h : key ∉ entries.map (·.1)) :
    (insert key value entries).Perm ((key, value) :: entries) := by
  induction entries with
  | nil => exact .refl _
  | cons head entries ih =>
      obtain ⟨k, v⟩ := head
      rw [List.map_cons, List.mem_cons, not_or] at h
      unfold insert
      rw [if_neg h.1]
      split
      · exact .refl _
      · exact ((ih h.2).cons _).trans (.swap _ _ _)

theorem perm_ofList (h : (entries.map (·.1)).Nodup) : (ofList entries).Perm entries := by
  suffices hbuilt : ∀ built, ((built ++ entries).map (·.1)).Nodup →
      (entries.foldl (fun built entry => insert entry.1 entry.2 built) built).Perm
        (built ++ entries) from hbuilt [] h
  clear h
  induction entries with
  | nil => exact fun built _ => (List.append_nil built).symm ▸ .refl _
  | cons entry entries ih =>
      intro built hbuilt
      have hmiddle : (built ++ entry :: entries).Perm ((entry :: built) ++ entries) :=
        List.perm_middle
      have hnodup : (((entry :: built) ++ entries).map (·.1)).Nodup :=
        (hmiddle.map _).nodup_iff.mp hbuilt
      have hnew : entry.1 ∉ built.map (·.1) := by
        rw [List.cons_append, List.map_cons, List.nodup_cons, List.map_append, List.mem_append,
          not_or] at hnodup
        exact hnodup.1.1
      have hinsert : (insert entry.1 entry.2 built).Perm (entry :: built) := perm_insert hnew
      have hnodup' : ((insert entry.1 entry.2 built ++ entries).map (·.1)).Nodup :=
        ((hinsert.append_right entries).map _).nodup_iff.mpr hnodup
      exact ((ih _ hnodup').trans (hinsert.append_right entries)).trans hmiddle.symm

/-! ## The number of entries -/

theorem length_insert_le : (insert key value entries).length ≤ entries.length + 1 := by
  induction entries with
  | nil => simp [insert]
  | cons head entries ih =>
      unfold insert
      split
      · simp
      · split
        · simp
        · simpa using ih

theorem Ascending.length_insert (h : Ascending entries) (hmem : key ∈ entries.map (·.1)) :
    (Entries.insert key value entries).length = entries.length := by
  induction entries with
  | nil => cases hmem
  | cons head entries ih =>
      obtain ⟨k, v⟩ := head
      unfold Ascending at h
      rw [List.pairwise_cons] at h
      unfold Entries.insert
      by_cases heq : key = k
      · simp [heq]
      · have htail : key ∈ entries.map (·.1) := by simpa [heq] using hmem
        obtain ⟨entry, hentry, hkey⟩ := List.mem_map.mp htail
        have hlt : k < key := hkey ▸ h.1 entry hentry
        rw [if_neg heq, if_neg (String.lt_asymm hlt)]
        simpa using ih h.2 htail

theorem length_erase_le : (erase key entries).length ≤ entries.length :=
  List.length_filter_le _ _

end Entries

namespace Keyed

variable {α : Type}

theorem contains_iff (map : Keyed α) (key : String) : map.contains key = true ↔ key ∈ map.keys :=
  Entries.isSome_find?_iff

end Keyed

end CommandForms
