import CommandForms.Proofs.Schema.Parts

/-!
# The check of delimiters

The check of a schema accepts exactly the schemas whose delimiter patterns are all well formed, and it
reports the first pattern that is not, in the order in which the schema declares them.
-/

namespace CommandForms

/-- A pattern is well formed when it has a program. -/
def WellFormedPattern (pattern : String) : Prop :=
  (Pattern.Program.ofPattern? pattern).isSome

namespace Delimiter

theorem ofPattern_eq_error {pattern : String} (h : ¬ WellFormedPattern pattern) :
    ofPattern pattern = .error ⟨pattern⟩ := by
  unfold ofPattern
  split
  · rename_i program hprogram
    exact absurd (Option.isSome_of_eq_some hprogram) h
  · rfl

theorem exists_ofPattern {pattern : String} (h : WellFormedPattern pattern) :
    ∃ delimiter, ofPattern pattern = .ok delimiter := by
  unfold ofPattern
  split
  · exact ⟨_, rfl⟩
  · rename_i hnone
    unfold WellFormedPattern at h
    rw [hnone] at h
    cases h

end Delimiter

namespace Schema

/-! ## One pattern after the other -/

/-- Checks patterns one after the other. -/
def checkPatterns : List String → Except BadDelimiter Unit
  | [] => .ok ()
  | pattern :: patterns => do
      checkPattern (some pattern)
      checkPatterns patterns

theorem checkPattern_of_wellFormed {pattern : String} (h : WellFormedPattern pattern) :
    checkPattern (some pattern) = .ok () := by
  obtain ⟨delimiter, hdelimiter⟩ := Delimiter.exists_ofPattern h
  rw [checkPattern, hdelimiter]
  rfl

theorem checkPattern_of_not_wellFormed {pattern : String} (h : ¬ WellFormedPattern pattern) :
    checkPattern (some pattern) = .error ⟨pattern⟩ := by
  rw [checkPattern, Delimiter.ofPattern_eq_error h]
  rfl

theorem checkPatterns_append (front back : List String) :
    checkPatterns (front ++ back) = checkPatterns front >>= fun _ => checkPatterns back := by
  induction front with
  | nil => rfl
  | cons pattern front ih =>
      rw [List.cons_append, checkPatterns, checkPatterns, ih]
      cases checkPattern (some pattern) with
      | error e => rfl
      | ok => rfl

theorem checkPatterns_toList (pattern : Option String) :
    checkPatterns pattern.toList = checkPattern pattern := by
  cases pattern with
  | none => rfl
  | some pattern =>
      change (do checkPattern (some pattern); checkPatterns []) = checkPattern (some pattern)
      cases checkPattern (some pattern) with
      | error e => rfl
      | ok => rfl

theorem checkPatterns_eq_ok {patterns : List String} :
    checkPatterns patterns = .ok () ↔ ∀ pattern ∈ patterns, WellFormedPattern pattern := by
  induction patterns with
  | nil => simp [checkPatterns]
  | cons pattern patterns ih =>
      rw [List.forall_mem_cons, ← ih, checkPatterns]
      by_cases h : WellFormedPattern pattern
      · rw [checkPattern_of_wellFormed h]
        exact (and_iff_right h).symm
      · rw [checkPattern_of_not_wellFormed h]
        constructor
        · intro himpossible
          cases himpossible
        · intro hboth
          exact absurd hboth.1 h

theorem checkPatterns_eq_error {patterns : List String} {e : BadDelimiter} :
    checkPatterns patterns = .error e ↔
      ∃ before after, patterns = before ++ e.pattern :: after ∧
        (∀ pattern ∈ before, WellFormedPattern pattern) ∧ ¬ WellFormedPattern e.pattern := by
  constructor
  · intro h
    induction patterns with
    | nil => cases h
    | cons pattern patterns ih =>
        rw [checkPatterns] at h
        by_cases hgood : WellFormedPattern pattern
        · rw [checkPattern_of_wellFormed hgood] at h
          obtain ⟨before, after, hpatterns, hbefore, hbad⟩ := ih h
          refine ⟨pattern :: before, after, ?_, ?_, hbad⟩
          · rw [hpatterns, List.cons_append]
          · exact List.forall_mem_cons.mpr ⟨hgood, hbefore⟩
        · rw [checkPattern_of_not_wellFormed hgood] at h
          cases h
          exact ⟨[], patterns, rfl, nofun, hgood⟩
  · rintro ⟨before, after, rfl, hbefore, hbad⟩
    rw [checkPatterns_append, checkPatterns_eq_ok.mpr hbefore, checkPatterns,
      checkPattern_of_not_wellFormed hbad]
    rfl

/-! ## The patterns of a schema -/

/-- The delimiter pattern that a schema declares itself. -/
def ownDelimiter? : Schema → Option String
  | .string _ options => options.delimiter
  | .stringSet _ options => options.delimiter
  | .integer .. | .boolean .. | .aspectMap .. | .object .. | .array .. => none

/-- Every delimiter pattern that a schema declares itself is well formed. -/
def WellFormedDelimiter (s : Schema) : Prop :=
  ∀ pattern ∈ s.ownDelimiter?, WellFormedPattern pattern

theorem checkDelimiters_eq (s : Schema) : s.checkDelimiters = checkPatterns s.delimiters := by
  induction s using Schema.induction with
  | string label options =>
      rw [checkDelimiters, delimiters, checkPatterns_toList]
  | stringSet label options =>
      rw [checkDelimiters, delimiters, checkPatterns_toList]
  | integer label options => rw [checkDelimiters, delimiters, checkPatterns]
  | boolean label default => rw [checkDelimiters, delimiters, checkPatterns]
  | aspectMap label keys => rw [checkDelimiters, delimiters, checkPatterns]
  | object label fields ih =>
      rw [checkDelimiters, delimiters]
      induction fields with
      | nil => rfl
      | cons field fields ihFields =>
          obtain ⟨key, schema⟩ := field
          obtain ⟨hhead, htail⟩ := List.forall_mem_cons.mp ih
          rw [checkFieldDelimiters, fieldDelimiters, checkPatterns_append, hhead, ihFields htail]
  | array label element length ih =>
      rw [checkDelimiters, delimiters, ih]

/-- The list holds the pattern of every schema inside a schema, and no other patterns. -/
theorem forall_mem_delimiters {p : String → Prop} (s : Schema) :
    (∀ pattern ∈ s.delimiters, p pattern) ↔
      s.Everywhere fun part => ∀ pattern ∈ part.ownDelimiter?, p pattern := by
  induction s using Schema.induction with
  | string label options => simp [delimiters, Everywhere, ownDelimiter?]
  | stringSet label options => simp [delimiters, Everywhere, ownDelimiter?]
  | integer label options => simp [delimiters, Everywhere, ownDelimiter?]
  | boolean label default => simp [delimiters, Everywhere, ownDelimiter?]
  | aspectMap label keys => simp [delimiters, Everywhere, ownDelimiter?]
  | object label fields ih =>
      have hfields : (∀ pattern ∈ fieldDelimiters fields, p pattern) ↔
          ∀ field ∈ fields, ∀ pattern ∈ field.2.delimiters, p pattern := by
        clear ih
        induction fields with
        | nil => simp [fieldDelimiters]
        | cons field fields ihFields =>
            rw [fieldDelimiters, List.forall_mem_append, ihFields, List.forall_mem_cons]
      rw [delimiters, hfields, everywhere_object]
      constructor
      · intro h
        exact ⟨by simp [ownDelimiter?], fun field hmem => (ih field hmem).mp (h field hmem)⟩
      · rintro ⟨_, h⟩ field hmem
        exact (ih field hmem).mpr (h field hmem)
  | array label element length ih =>
      rw [delimiters, ih, Everywhere]
      exact (and_iff_right (by simp [ownDelimiter?])).symm

theorem checkDelimiters_eq_ok {s : Schema} :
    s.checkDelimiters = .ok () ↔ s.Everywhere WellFormedDelimiter := by
  rw [checkDelimiters_eq, checkPatterns_eq_ok]
  exact forall_mem_delimiters s

theorem checkDelimiters_eq_error {s : Schema} {e : BadDelimiter} :
    s.checkDelimiters = .error e ↔
      ∃ before after, s.delimiters = before ++ e.pattern :: after ∧
        (∀ pattern ∈ before, WellFormedPattern pattern) ∧ ¬ WellFormedPattern e.pattern := by
  rw [checkDelimiters_eq]
  exact checkPatterns_eq_error

end Schema

end CommandForms
