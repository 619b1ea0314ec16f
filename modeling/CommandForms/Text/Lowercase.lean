import CommandForms.Text.Letters
import CommandForms.Text.Marks
import CommandForms.Text.LowercaseRuns

/-!
# Lower case

The full lower-case mapping of a text.  A dotted capital I becomes two characters, and a capital
sigma becomes the final sigma exactly where a word ends; every other character is mapped on its own.
-/

namespace CommandForms.Text

def meetsCased (cs : List Char) : Bool :=
  match cs.dropWhile isCaseIgnorable with
  | [] => false
  | c :: _ => isCased c

/-- A capital sigma ends a word when a cased letter comes before it and none comes after it. -/
def endsWord (before after : List Char) : Bool :=
  meetsCased before && !meetsCased after

def lowerChar (c : Char) : List Char :=
  if c = 'İ' then ['i', '\u0307'] else [CaseRun.map lowercaseRuns c]

/-- The lower case of `cs`, where `before` holds the characters in front of it, nearest first. -/
def lowerAfter (before : List Char) : List Char → List Char
  | [] => []
  | c :: cs =>
      (if c = 'Σ' then [if endsWord before cs then 'ς' else 'σ'] else lowerChar c) ++
        lowerAfter (c :: before) cs

def lowerChars (cs : List Char) : List Char :=
  lowerAfter [] cs

def lowercase (s : String) : String :=
  String.ofList (lowerChars s.toList)

/-! ## Lower case away from sigma -/

/-- Without a capital sigma, the lower case is taken character by character. -/
theorem lowerAfter_eq_flatMap {cs : List Char} (h : 'Σ' ∉ cs) (before : List Char) :
    lowerAfter before cs = cs.flatMap lowerChar := by
  induction cs generalizing before with
  | nil => rfl
  | cons c cs ih =>
      simp only [List.mem_cons, not_or] at h
      simp [lowerAfter, Ne.symm h.1, ih h.2]

@[simp]
theorem lowerChars_nil : lowerChars [] = [] := rfl

@[simp]
theorem toList_lowercase (s : String) : (lowercase s).toList = lowerChars s.toList := by
  simp [lowercase]

end CommandForms.Text
