/-!
# Keyed lists

Lists of entries in strictly ascending order of their keys.  Keys are compared by their characters'
code points.  The operations keep the order, and `Keyed α` packs a list with it.
-/

namespace CommandForms

namespace Entries

variable {α : Type}

def Ascending (entries : List (String × α)) : Prop :=
  entries.Pairwise fun a b => a.1 < b.1

/-- Puts an entry at its place; an entry with the same key gives way. -/
def insert (key : String) (value : α) : List (String × α) → List (String × α)
  | [] => [(key, value)]
  | (k, v) :: entries =>
      if key = k then (key, value) :: entries
      else if key < k then (key, value) :: (k, v) :: entries
      else (k, v) :: insert key value entries

def erase (key : String) (entries : List (String × α)) : List (String × α) :=
  entries.filter (·.1 ≠ key)

def find? (key : String) (entries : List (String × α)) : Option α :=
  entries.lookup key

/-- The entries of any list in ascending order, the last of several entries with one key kept. -/
def ofList (entries : List (String × α)) : List (String × α) :=
  entries.foldl (fun built entry => insert entry.1 entry.2 built) []

/-! ## Order -/

theorem mem_insert {key : String} {value : α} {entries : List (String × α)}
    {entry : String × α} (h : entry ∈ insert key value entries) :
    entry = (key, value) ∨ entry ∈ entries := by
  induction entries with
  | nil => simpa [insert] using h
  | cons head entries ih =>
      obtain ⟨k, v⟩ := head
      simp only [insert] at h
      split at h
      · simp only [List.mem_cons] at h ⊢
        rcases h with h | h
        · exact .inl h
        · exact .inr (.inr h)
      · split at h
        · simpa using h
        · simp only [List.mem_cons] at h ⊢
          rcases h with h | h
          · exact .inr (.inl h)
          · rcases ih h with h | h
            · exact .inl h
            · exact .inr (.inr h)

theorem Ascending.insert {key : String} {value : α} {entries : List (String × α)}
    (h : Ascending entries) : Ascending (insert key value entries) := by
  induction entries with
  | nil => simp [Entries.insert, Ascending]
  | cons head entries ih =>
      obtain ⟨k, v⟩ := head
      simp only [Ascending, List.pairwise_cons] at h
      simp only [Entries.insert]
      split
      · rename_i heq
        subst heq
        exact List.pairwise_cons.2 h
      · rename_i hne
        split
        · rename_i hlt
          refine List.pairwise_cons.2 ⟨?_, List.pairwise_cons.2 h⟩
          intro entry hentry
          rcases List.mem_cons.1 hentry with rfl | hentry
          · exact hlt
          · exact String.lt_trans hlt (h.1 entry hentry)
        · rename_i hnlt
          refine List.pairwise_cons.2 ⟨?_, ih h.2⟩
          intro entry hentry
          rcases mem_insert hentry with rfl | hentry
          · have hle : k ≤ key := String.not_lt.1 hnlt
            exact Decidable.byContradiction fun hnot =>
              hne (String.le_antisymm (String.not_lt.1 hnot) hle)
          · exact h.1 entry hentry

theorem Ascending.erase {key : String} {entries : List (String × α)} (h : Ascending entries) :
    Ascending (erase key entries) :=
  List.Pairwise.filter _ h

theorem ascending_ofList (entries : List (String × α)) : Ascending (ofList entries) := by
  suffices h : ∀ built, Ascending built →
      Ascending (entries.foldl (fun built entry => insert entry.1 entry.2 built) built) from
    h [] List.Pairwise.nil
  induction entries with
  | nil => exact fun _ h => h
  | cons entry entries ih => exact fun built h => ih _ h.insert

end Entries

/-- Entries in ascending order of their keys. -/
structure Keyed (α : Type) where
  entries : List (String × α)
  ascending : Entries.Ascending entries

namespace Keyed

variable {α : Type}

def empty : Keyed α :=
  ⟨[], List.Pairwise.nil⟩

instance : Inhabited (Keyed α) := ⟨empty⟩

/-- Puts an entry at its place; an entry with the same key gives way. -/
def insert (map : Keyed α) (key : String) (value : α) : Keyed α :=
  ⟨Entries.insert key value map.entries, map.ascending.insert⟩

def erase (map : Keyed α) (key : String) : Keyed α :=
  ⟨Entries.erase key map.entries, map.ascending.erase⟩

def find? (map : Keyed α) (key : String) : Option α :=
  Entries.find? key map.entries

def contains (map : Keyed α) (key : String) : Bool :=
  (map.find? key).isSome

def keys (map : Keyed α) : List String :=
  map.entries.map (·.1)

def values (map : Keyed α) : List α :=
  map.entries.map (·.2)

def size (map : Keyed α) : Nat :=
  map.entries.length

/-- The entries of any list, the last of several entries with one key kept. -/
def ofList (entries : List (String × α)) : Keyed α :=
  ⟨Entries.ofList entries, Entries.ascending_ofList entries⟩

end Keyed

end CommandForms
