import CommandForms.Completion.Trie

/-!
# Segments of options

Matches of a delimiter stop within the text, so that an option is cut into pieces that are not empty, with
the empty piece at its end only.  Hence no path of segments goes on behind the end of another option.
-/

namespace CommandForms

/-! ## Matches stop within the text -/

namespace Pattern.Program

/-- A match is the one found before, or it stops between here and the end of the text. -/
theorem stop_of_run {p : Program} {reach index : Nat} {before : Option Char} {threads : Threads}
    {found : Option Match} {cs : List Char} {m : Match}
    (h : p.run reach before index threads found cs = some m) :
    found = some m ∨ index ≤ m.stop ∧ m.stop ≤ index + cs.length := by
  induction cs generalizing before index threads found with
  | nil =>
      unfold run at h
      dsimp only at h
      split at h
      · cases h
        exact .inr ⟨Nat.le_refl _, Nat.le_refl _⟩
      · exact .inl h
  | cons c cs ih =>
      have hhere : ∀ {accepted : Option Nat},
          (accepted.map fun start => Match.mk start index).or found = some m →
          found = some m ∨ index ≤ m.stop ∧ m.stop ≤ index + (c :: cs).length := by
        intro accepted hm
        cases accepted with
        | none => exact .inl hm
        | some start =>
            cases hm
            exact .inr ⟨Nat.le_refl _, Nat.le_add_right _ _⟩
      unfold run at h
      dsimp only at h
      generalize (if found.isSome = true then threads
        else p.follow ⟨before, c :: cs⟩ index reach [p.start] threads) = here at h
      split at h
      · exact hhere h
      · rcases ih h with hm | ⟨hleast, hmost⟩
        · exact hhere hm
        · rw [List.length_cons]
          exact .inr ⟨by omega, by omega⟩

theorem stop_of_find? {p : Program} {place : Cursor} {index : Nat} {m : Match}
    (h : p.find? place index = some m) : index ≤ m.stop ∧ m.stop ≤ index + place.rest.length := by
  rcases stop_of_run h with hnone | hstop
  · cases hnone
  · exact hstop

theorem length_rest_forward (n : Nat) (place : Cursor) :
    (place.forward n).rest.length = place.rest.length - n := by
  induction n generalizing place with
  | zero =>
      obtain ⟨before, rest⟩ := place
      rw [Cursor.forward]
      rfl
  | succ n ih =>
      obtain ⟨before, rest⟩ := place
      cases rest with
      | nil =>
          rw [Cursor.forward]
          simp
      | cons c cs =>
          rw [Cursor.forward, ih]
          simp

theorem le_of_mem_stopsFrom {p : Program} {bound index stop : Nat} {place : Cursor}
    {last? : Option Nat} (h : stop ∈ p.stopsFrom bound place index last?) :
    stop ≤ index + place.rest.length := by
  induction bound generalizing place index last? with
  | zero => cases h
  | succ bound ih =>
      unfold stopsFrom at h
      split at h
      · cases h
      · rename_i m hfind
        obtain ⟨hleast, hmost⟩ := stop_of_find? hfind
        split at h
        · split at h
          · cases h
          · rename_i hrest
            have hle := ih h
            rw [length_rest_forward, hrest, List.length_cons] at hle
            rw [hrest, List.length_cons]
            omega
        · rcases List.mem_cons.mp h with rfl | h
          · exact hmost
          · have hle := ih h
            rw [length_rest_forward] at hle
            omega

/-- Matches stop one behind the other, none of them in front of the place where the search starts. -/
theorem pairwise_stopsFrom (p : Program) (bound : Nat) (place : Cursor) (index : Nat)
    (last? : Option Nat) :
    (∀ stop ∈ p.stopsFrom bound place index last?, index ≤ stop) ∧
      (p.stopsFrom bound place index last?).Pairwise (· ≤ ·) := by
  induction bound generalizing place index last? with
  | zero => exact ⟨nofun, .nil⟩
  | succ bound ih =>
      unfold stopsFrom
      split
      · exact ⟨nofun, .nil⟩
      · rename_i m hfind
        obtain ⟨hleast, _⟩ := stop_of_find? hfind
        split
        · split
          · exact ⟨nofun, .nil⟩
          · obtain ⟨hbehind, hpairwise⟩ := ih (place.forward 1) (index + 1) last?
            exact ⟨fun stop hstop => Nat.le_of_succ_le (hbehind stop hstop), hpairwise⟩
        · obtain ⟨hbehind, hpairwise⟩ := ih (place.forward (m.stop - index)) m.stop (some m.stop)
          refine ⟨?_, List.pairwise_cons.mpr ⟨hbehind, hpairwise⟩⟩
          rw [List.forall_mem_cons]
          exact ⟨hleast, fun stop hstop => Nat.le_trans hleast (hbehind stop hstop)⟩

end Pattern.Program

theorem Delimiter.pairwise_matchEnds (d : Delimiter) (cs : List Char) :
    (d.matchEnds cs).Pairwise (· ≤ ·) :=
  (Pattern.Program.pairwise_stopsFrom _ _ _ _ _).2

theorem Delimiter.le_of_mem_matchEnds {d : Delimiter} {cs : List Char} {stop : Nat}
    (h : stop ∈ d.matchEnds cs) : stop ≤ cs.length := by
  have hle := Pattern.Program.le_of_mem_stopsFrom h
  simpa using hle

/-! ## Only the last segment is empty -/

namespace Completion

open CommandForms.Text (lowerChars)

theorem ne_nil_of_mem_cut {start : Nat} {stops : List Nat} {cs : List Char} {segment : Segment}
    (hstops : ∀ stop ∈ stops, stop ≤ start + cs.length) (h : segment ∈ cut start stops cs) :
    segment ≠ [] := by
  induction stops generalizing start cs with
  | nil =>
      unfold cut at h
      cases cs with
      | nil => cases h
      | cons c cs =>
          cases List.mem_singleton.mp h
          exact List.cons_ne_nil _ _
  | cons stop stops ih =>
      obtain ⟨hstop, hlater⟩ := List.forall_mem_cons.mp hstops
      unfold cut at h
      split at h
      · rename_i hlt
        rcases List.mem_cons.mp h with rfl | h
        · have hcs : 0 < cs.length := by omega
          intro hnil
          have hlength := congrArg List.length hnil
          rw [List.length_take, List.length_nil] at hlength
          omega
        · refine ih (fun later hmem => ?_) h
          have hle := hlater later hmem
          rw [List.length_drop]
          omega
      · exact ih hlater h

/-- A path ends with the empty segment, and has no other empty segment. -/
def Ended (path : List Segment) : Prop :=
  ∃ front, path = front ++ [[]] ∧ [] ∉ front

theorem ended_segments (d : Delimiter) (option : List Char) : Ended (segments d option) := by
  refine ⟨cut 0 (d.matchEnds option) option, rfl, fun hmem => ?_⟩
  refine ne_nil_of_mem_cut (fun stop hstop => ?_) hmem rfl
  have hle := Delimiter.le_of_mem_matchEnds hstop
  omega

theorem segments_injective {d : Delimiter} {option other : List Char}
    (h : segments d option = segments d other) : option = other := by
  rw [← flatten_segments d option, h, flatten_segments]

theorem Ended.ne_nil {path : List Segment} (h : Ended path) : path ≠ [] := by
  obtain ⟨front, rfl, _⟩ := h
  simp

theorem Ended.tail {segment : Segment} {path : List Segment} (h : Ended (segment :: path)) :
    segment = [] ∧ path = [] ∨ segment ≠ [] ∧ Ended path := by
  obtain ⟨front, hpath, hfront⟩ := h
  cases front with
  | nil =>
      cases hpath
      exact .inl ⟨rfl, rfl⟩
  | cons first front =>
      cases hpath
      rw [List.mem_cons, not_or] at hfront
      exact .inr ⟨Ne.symm hfront.1, front, rfl, hfront.2⟩

/-! ## Lower case -/

theorem lowerChars_eq_nil {cs : List Char} (h : lowerChars cs = []) : cs = [] := by
  cases cs with
  | nil => rfl
  | cons c cs =>
      have hhead := (List.append_eq_nil_iff.mp h).1
      split at hhead
      · cases hhead
      · unfold Text.lowerChar at hhead
        split at hhead <;> cases hhead

/-- The text of a path with every segment in lower case. -/
def folded (path : List Segment) : List Char :=
  path.flatMap lowerChars

@[simp]
theorem folded_cons (segment : Segment) (path : List Segment) :
    folded (segment :: path) = lowerChars segment ++ folded path := rfl

theorem folded_eq_nil {path : List Segment} (h : path.flatten = []) : folded path = [] := by
  rw [List.flatten_eq_nil_iff] at h
  unfold folded
  rw [List.flatMap_eq_nil_iff]
  intro segment hsegment
  rw [h segment hsegment]
  rfl

end Completion

end CommandForms
