import CommandForms.Text.Rest
import CommandForms.Yaml.Token

/-!
# Nodes of YAML documents

The tree that the tokens of a document build.  An alias is kept as a number; numbers are given to the
names of anchors as they come up, and a number means the last node that took it.
-/

namespace CommandForms.Yaml

structure Tag where
  bytes : List UInt8
deriving Repr, DecidableEq

/-- A node.  Scalars, sequences and mappings may have a tag. -/
inductive Node
  | scalar (tag : Option Tag) (style : Style) (text : String)
  | sequence (tag : Option Tag) (items : List Node)
  | mapping (tag : Option Tag) (entries : List (Node × Node))
  | alias (number : Nat)
deriving Repr, Inhabited

/-- The anchors of a document: the numbers of their names, and under every number the nodes that took it,
each by its place among all anchored nodes, the last one first. -/
structure Anchors where
  names : List (String × Nat) := []
  places : List (Nat × Nat) := []
  nodes : List (Nat × Node) := []
  started : Nat := 0
deriving Repr, Inhabited

namespace Anchors

/-- Starts a node with an anchor.  Its number counts the names before it. -/
def start (anchors : Anchors) (name : String) : Anchors :=
  let number := anchors.names.length
  { anchors with
    names := (name, number) :: anchors.names.filter (·.1 ≠ name)
    places := (number, anchors.started) :: anchors.places
    started := anchors.started + 1 }

def keep (anchors : Anchors) (place : Nat) (node : Node) : Anchors :=
  { anchors with nodes := (place, node) :: anchors.nodes }

def number? (anchors : Anchors) (name : String) : Option Nat :=
  anchors.names.lookup name

def node? (anchors : Anchors) (number : Nat) : Option Node := do
  anchors.nodes.lookup (← anchors.places.lookup number)

end Anchors

/-- A document: its root, and its anchors. -/
structure Document where
  root : Node
  anchors : Anchors
deriving Repr, Inhabited

namespace Node

def empty : Node := .scalar none .plain ""

/-- Something built from tokens, fewer than `bound` of which are left. -/
structure Built (α : Type) (bound : Nat) where
  value : α
  anchors : Anchors
  rest : List Token
  fewer : rest.length < bound

namespace Built

variable {α β : Type} {m n : Nat}

def weaken (b : Built α m) (h : m ≤ n) : Built α n :=
  ⟨b.value, b.anchors, b.rest, Nat.lt_of_lt_of_le b.fewer h⟩

def map (f : α → β) (b : Built α n) : Built β n :=
  ⟨f b.value, b.anchors, b.rest, b.fewer⟩

end Built

/-- The properties in front of a node: its anchor and its tag, in either order. -/
structure Properties (ts : List Token) where
  anchor : Option String
  tag : Option (String × List UInt8)
  rest : List Token
  fewer : rest.length ≤ ts.length

def properties : (ts : List Token) → Properties ts
  | .anchor name :: .tag handle suffix :: rest =>
      ⟨some name, some (handle, suffix), rest, by simp only [List.length_cons]; omega⟩
  | .tag handle suffix :: .anchor name :: rest =>
      ⟨some name, some (handle, suffix), rest, by simp only [List.length_cons]; omega⟩
  | .anchor name :: rest => ⟨some name, none, rest, Nat.le_succ _⟩
  | .tag handle suffix :: rest => ⟨none, some (handle, suffix), rest, Nat.le_succ _⟩
  | ts => ⟨none, none, ts, Nat.le_refl _⟩

abbrev Handles := List (String × List UInt8)

def fullTag? (handles : Handles) : Option (String × List UInt8) → Option (Option Tag)
  | none => some none
  | some (handle, suffix) =>
      if handle = "" then some (some ⟨suffix⟩)
      else (handles.lookup handle).map fun start => some ⟨start ++ suffix⟩

def isEmptyBefore (ends : List Token) : List Token → Bool
  | t :: _ => ends.contains t
  | [] => false

mutual

/-- Builds a node.  Block collections are allowed only in block context, and a sequence that is not
indented only as the content of a mapping. -/
def build (handles : Handles) (block unindented : Bool) (anchors : Anchors)
    (ts : List Token) : Option (Built Node ts.length) :=
  match ts with
  | .alias name :: rest => do
      return ⟨.alias (← anchors.number? name), anchors, rest, Nat.lt_succ_self _⟩
  | ts => do
      let ⟨anchor, shortTag, rest, hrest⟩ := properties ts
      let tag ← fullTag? handles shortTag
      let place := anchors.started
      let anchors := match anchor with
        | some name => anchors.start name
        | none => anchors
      let built ← (match rest with
        | .scalar style text :: rest =>
            some ⟨.scalar tag style text, anchors, rest, Text.length_lt_of_cons_le hrest⟩
        | .flowSequence :: rest =>
            have : rest.length < ts.length := Text.length_lt_of_cons_le hrest
            (buildFlowItems handles anchors rest).map fun items =>
              (items.map (.sequence tag)).weaken (Nat.le_of_lt this)
        | .flowMapping :: rest =>
            have : rest.length < ts.length := Text.length_lt_of_cons_le hrest
            (buildFlowEntries handles anchors rest).map fun entries =>
              (entries.map (.mapping tag)).weaken (Nat.le_of_lt this)
        | .blockSequence :: rest =>
            have : rest.length < ts.length := Text.length_lt_of_cons_le hrest
            if block then
              (buildBlockItems handles anchors rest).map fun items =>
                (items.map (.sequence tag)).weaken (Nat.le_of_lt this)
            else none
        | .blockMapping :: rest =>
            have : rest.length < ts.length := Text.length_lt_of_cons_le hrest
            if block then
              (buildBlockEntries handles anchors rest).map fun entries =>
                (entries.map (.mapping tag)).weaken (Nat.le_of_lt this)
            else none
        | .entry :: rest' =>
            have : rest'.length < ts.length := Text.length_lt_of_cons_le hrest
            if unindented then
              (buildUnindentedItems handles anchors rest').map fun items =>
                (items.map (.sequence tag)).weaken this
            else if h : rest.length < ts.length then
              some ⟨.scalar tag .plain "", anchors, rest, h⟩
            else none
        | rest =>
            if h : rest.length < ts.length then some ⟨.scalar tag .plain "", anchors, rest, h⟩
            else none : Option (Built Node ts.length))
      return { built with anchors := match anchor with
        | some _ => built.anchors.keep place built.value
        | none => built.anchors }
termination_by (ts.length, 0)

/-- Builds a node, or the empty one in front of some tokens. -/
def buildOptional (handles : Handles) (block unindented : Bool) (ends : List Token)
    (anchors : Anchors) (ts : List Token) : Option (Built Node (ts.length + 1)) :=
  if isEmptyBefore ends ts then some ⟨empty, anchors, ts, Nat.lt_succ_self _⟩
  else (build handles block unindented anchors ts).map (·.weaken (Nat.le_succ _))
termination_by (ts.length, 1)

def buildBlockItems (handles : Handles) (anchors : Anchors) (ts : List Token) :
    Option (Built (List Node) ts.length) :=
  match ts with
  | .entry :: rest => do
      let item ← buildOptional handles true false [.entry, .blockEnd] anchors rest
      have := item.fewer
      let items ← buildBlockItems handles item.anchors item.rest
      return (items.map (item.value :: ·)).weaken (by rw [List.length_cons]; omega)
  | .blockEnd :: rest => some ⟨[], anchors, rest, Nat.lt_succ_self _⟩
  | _ => none
termination_by (ts.length, 0)

/-- Builds the items of a block sequence that is not indented, behind the hyphen of the first one. -/
def buildUnindentedItems (handles : Handles) (anchors : Anchors) (ts : List Token) :
    Option (Built (List Node) (ts.length + 1)) := do
  let item ← buildOptional handles true false [.entry, .key, .value, .blockEnd] anchors ts
  match hrest : item.rest with
  | .entry :: rest =>
      have : rest.length < ts.length := by
        have := item.fewer
        rw [hrest, List.length_cons] at this
        omega
      let items ← buildUnindentedItems handles item.anchors rest
      return (items.map (item.value :: ·)).weaken (by omega)
  | _ => return item.map ([·])
termination_by (ts.length, 2)

def buildBlockEntries (handles : Handles) (anchors : Anchors) (ts : List Token) :
    Option (Built (List (Node × Node)) ts.length) :=
  match ts with
  | .key :: rest => do
      let key ← buildOptional handles true true [.key, .value, .blockEnd] anchors rest
      have := key.fewer
      let value : Built Node (rest.length + 1) ←
        match hkey : key.rest with
        | .value :: rest' => do
            have : rest'.length < rest.length := by
              rw [hkey, List.length_cons] at this
              omega
            let value ← buildOptional handles true true [.key, .value, .blockEnd] key.anchors rest'
            pure (value.weaken (by omega))
        | _ => pure (key.map fun _ => empty)
      have := value.fewer
      let entries ← buildBlockEntries handles value.anchors value.rest
      return (entries.map ((key.value, value.value) :: ·)).weaken (by rw [List.length_cons]; omega)
  | .blockEnd :: rest => some ⟨[], anchors, rest, Nat.lt_succ_self _⟩
  | _ => none
termination_by (ts.length, 0)

def buildFlowItem (handles : Handles) (anchors : Anchors) (ts : List Token) :
    Option (Built Node ts.length) :=
  match ts with
  | .key :: rest =>
      (buildPair handles anchors rest).map (·.map fun entry => .mapping none [entry])
  | ts => build handles false false anchors ts
termination_by (ts.length, 1)

def buildFlowItems (handles : Handles) (anchors : Anchors) (ts : List Token) :
    Option (Built (List Node) ts.length) :=
  match ts with
  | .flowSequenceEnd :: rest => some ⟨[], anchors, rest, Nat.lt_succ_self _⟩
  | ts => do
      let item ← buildFlowItem handles anchors ts
      match hitem : item.rest with
      | .comma :: rest =>
          have : rest.length < ts.length := by
            have := item.fewer
            rw [hitem, List.length_cons] at this
            omega
          let items ← buildFlowItems handles item.anchors rest
          return (items.map (item.value :: ·)).weaken (by omega)
      | .flowSequenceEnd :: rest =>
          return ⟨[item.value], item.anchors, rest, by
            have := item.fewer
            rw [hitem, List.length_cons] at this
            omega⟩
      | _ => none
termination_by (ts.length, 2)

/-- Builds the only entry of a mapping that is written as an item of a flow sequence, from its key on.
Where no key is written, the next token goes with it. -/
def buildPair (handles : Handles) (anchors : Anchors) (ts : List Token) :
    Option (Built (Node × Node) (ts.length + 1)) := do
  let key : Built Node (ts.length + 1) ←
    if isEmptyBefore [.value, .comma, .flowSequenceEnd] ts then
      some ⟨empty, anchors, ts.tail, by rw [List.length_tail]; omega⟩
    else (build handles false false anchors ts).map (·.weaken (Nat.le_succ _))
  match hkey : key.rest with
  | .value :: rest =>
      have : rest.length < ts.length := by
        have := key.fewer
        rw [hkey, List.length_cons] at this
        omega
      let value ← buildOptional handles false false [.comma, .flowSequenceEnd] key.anchors rest
      return (value.map (key.value, ·)).weaken (by omega)
  | _ => return key.map (·, empty)
termination_by (ts.length, 2)

def buildFlowEntry (handles : Handles) (anchors : Anchors) (ts : List Token) :
    Option (Built (Node × Node) ts.length) :=
  match ts with
  | .key :: rest => do
      let key ← buildOptional handles false false [.value, .comma, .flowMappingEnd] anchors rest
      match hkey : key.rest with
      | .value :: rest' =>
          have : rest'.length < rest.length := by
            have := key.fewer
            rw [hkey, List.length_cons] at this
            omega
          let value ← buildOptional handles false false [.comma, .flowMappingEnd] key.anchors rest'
          return (value.map (key.value, ·)).weaken (by rw [List.length_cons]; omega)
      | _ => return key.map (·, empty)
  | ts => (build handles false false anchors ts).map (·.map (·, empty))
termination_by (ts.length, 1)

def buildFlowEntries (handles : Handles) (anchors : Anchors) (ts : List Token) :
    Option (Built (List (Node × Node)) ts.length) :=
  match ts with
  | .flowMappingEnd :: rest => some ⟨[], anchors, rest, Nat.lt_succ_self _⟩
  | ts => do
      let entry ← buildFlowEntry handles anchors ts
      match hentry : entry.rest with
      | .comma :: rest =>
          have : rest.length < ts.length := by
            have := entry.fewer
            rw [hentry, List.length_cons] at this
            omega
          let entries ← buildFlowEntries handles entry.anchors rest
          return (entries.map (entry.value :: ·)).weaken (by omega)
      | .flowMappingEnd :: rest =>
          return ⟨[entry.value], entry.anchors, rest, by
            have := entry.fewer
            rw [hentry, List.length_cons] at this
            omega⟩
      | _ => none
termination_by (ts.length, 2)

end

end Node

/-! ## Documents -/

namespace Document

def commonHandles : Node.Handles :=
  [("!", bytesOf "!"), ("!!", bytesOf "tag:yaml.org,2002:")]

/-- Reads the directives in front of a document: at most one version, which is 1.1 or 1.2, and every
handle at most once. -/
def directives? (version : Bool) (handles : Node.Handles) :
    List Token → Option (Node.Handles × List Token)
  | .version major minor :: ts =>
      if version ∨ major ≠ 1 ∨ (minor ≠ 1 ∧ minor ≠ 2) then none else directives? true handles ts
  | .tagHandle handle start :: ts =>
      if (handles.lookup handle).isSome then none
      else directives? version (handles ++ [(handle, start)]) ts
  | ts => some (handles, ts)

/-- Whether a document starts without a mark. -/
def startsBare : List Token → Bool
  | .version .. :: _ | .tagHandle .. :: _ | .documentStart :: _ => false
  | _ => true

/-- Whether nothing is written in a document behind its mark. -/
def isBlank : List Token → Bool
  | [] | .version .. :: _ | .tagHandle .. :: _ | .documentStart :: _ | .documentEnd :: _ => true
  | _ => false

/-- Builds the root of a document; nothing but marks of its end may follow. -/
def ofContent? (handles : Node.Handles) (ts : List Token) : Option Document := do
  let built ← Node.build (handles ++ commonHandles) true false {} ts
  if built.rest.all (· == .documentEnd) then return ⟨built.value, built.anchors⟩ else none

/-- The only document that tokens build.  Where nothing is written, its root is the empty node. -/
def ofTokens? (ts : List Token) : Option Document := do
  if ts = [] then return ⟨.empty, {}⟩
  else if startsBare ts then ofContent? [] ts
  else
    let (handles, rest) ← directives? false [] ts
    match rest with
    | .documentStart :: rest =>
        if isBlank rest then
          if rest.all (· == .documentEnd) then return ⟨.empty, {}⟩ else none
        else ofContent? handles rest
    | _ => none

end Document

end CommandForms.Yaml
