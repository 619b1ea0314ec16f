import CommandForms.Pattern.Delimiter

/-!
# Segments

An option is cut behind every match of the delimiter, so that a delimiter stays with the segment it
closes.  An empty segment behind the last one marks the end of the option.
-/

namespace CommandForms.Completion

abbrev Segment := List Char

/-- Cuts characters at ascending ends, which count from `start` characters before the front. -/
def cut (start : Nat) : List Nat → List Char → List Segment
  | [], cs => if cs.isEmpty then [] else [cs]
  | stop :: stops, cs =>
      if start < stop then cs.take (stop - start) :: cut stop stops (cs.drop (stop - start))
      else cut start stops cs

/-- The segments of an option, with the empty one at its end. -/
def segments (d : Delimiter) (option : List Char) : List Segment :=
  cut 0 (d.matchEnds option) option ++ [[]]

/-! ## Cutting loses nothing -/

theorem flatten_cut (start : Nat) (stops : List Nat) (cs : List Char) :
    (cut start stops cs).flatten = cs := by
  induction stops generalizing start cs with
  | nil => cases cs <;> simp [cut]
  | cons stop stops ih =>
      simp only [cut]
      split
      · simp [ih]
      · exact ih start cs

theorem flatten_segments (d : Delimiter) (option : List Char) :
    (segments d option).flatten = option := by
  simp [segments, flatten_cut]

end CommandForms.Completion
