/-!
# Lines

The lines of an input.  A line ends with a line feed, and a carriage return in front of that belongs to
the end; the last line may lack its end.
-/

namespace CommandForms.Text

/-- A line, given backwards, without a carriage return at its end. -/
def dropReturn : List Char → List Char
  | '\r' :: cs => cs
  | cs => cs

/-- The lines of an input whose first line goes on; `line` holds what is known of that line,
backwards. -/
def linesFrom (line : List Char) : List Char → List String
  | [] => if line = [] then [] else [String.ofList line.reverse]
  | c :: cs =>
      if c = '\n' then String.ofList (dropReturn line).reverse :: linesFrom [] cs
      else linesFrom (c :: line) cs

def lines (text : String) : List String :=
  linesFrom [] text.toList

end CommandForms.Text
