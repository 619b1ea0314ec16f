import CommandForms.Completion.Source
import CommandForms.Data
import CommandForms.Keyed

/-!
# Aspects

The known aspect names, in ascending order, and the source that completes them.
-/

namespace CommandForms

structure AspectSet where
  members : Keyed Unit

namespace AspectSet

def empty : AspectSet := ⟨.empty⟩

instance : Inhabited AspectSet := ⟨empty⟩

def names (aspects : AspectSet) : List String := aspects.members.keys

def contains (aspects : AspectSet) (name : String) : Bool := aspects.members.contains name

def size (aspects : AspectSet) : Nat := aspects.members.size

def insert (aspects : AspectSet) (name : String) : AspectSet := ⟨aspects.members.insert name ()⟩

def extend (aspects : AspectSet) (names : List String) : AspectSet := names.foldl insert aspects

def ofList (names : List String) : AspectSet := empty.extend names

def ofData (d : Data) : Except Mismatch AspectSet := d.asTexts.map ofList

/-- The pattern that separates the namespaces of aspect names. -/
def delimiterPattern : String := "\\."

/-- That pattern with its program, which looks for a point. -/
def delimiter : Delimiter :=
  ⟨delimiterPattern, (Pattern.Expr.chars (.single 0x2E)).program, by decide +kernel⟩

def source (aspects : AspectSet) : CompletionSource :=
  ⟨aspects.names, some delimiter⟩

end AspectSet

end CommandForms
