import CommandForms.Json.Record
import CommandForms.Proofs.Computation
import CommandForms.Proofs.Json.Values

/-!
# Written values of a given shape are read back

The readers that ask for a text, a truth value or a list, on the texts of such values.
-/

namespace CommandForms.Json

variable {α σ : Type} {cs rest : List Char} {depth : Nat}

/-! ## First characters -/

theorem yields_readStart {expected : String} {accepts : Char → Bool} {c : Char}
    (hspace : isSpace c = false) (haccepts : accepts c = true) :
    Yields (readStart expected accepts (c :: rest)) c rest := by
  have hskip : skipSpace (c :: rest) = c :: rest := skipSpace_cons hspace
  have hstart : afterSpace? (c :: rest) = some ⟨c, rest, Nat.lt_succ_self _⟩ := by
    unfold afterSpace?
    split
    · rename_i heq
      cases hskip.symm.trans heq
    · rename_i heq
      cases hskip.symm.trans heq
      rfl
  unfold readStart
  simp only [hstart, haccepts, if_true]
  exact .intro _ _

/-! ## Scalars -/

theorem yields_readText (s : String) : Yields (readText (stringChars s ++ rest)) s rest := by
  rw [stringChars_append]
  refine (yields_readStart (by decide) (by decide)).bind fun hstart => ?_
  exact (yields_readStringTail s).bind fun hread => .intro _ s

theorem yields_readBool (b : Bool) : Yields (readBool ((Value.bool b).chars ++ rest)) b rest := by
  cases b with
  | true =>
      change Yields (readBool ('t' :: 'r' :: 'u' :: 'e' :: rest)) true rest
      exact (yields_readStart (by decide) (by decide)).bind fun hstart => .intro _ true
  | false =>
      change Yields (readBool ('f' :: 'a' :: 'l' :: 's' :: 'e' :: rest)) false rest
      exact (yields_readStart (by decide) (by decide)).bind fun hstart => .intro _ false

theorem yields_readOption_text (s : String) :
    Yields (readOption (stringChars s ++ rest) fun es _ => readText es) (some s) rest := by
  have hread : Yields (readText (stringChars s ++ rest)) s rest := yields_readText s
  rw [stringChars_append] at hread ⊢
  exact hread.map some

/-! ## Lists -/

theorem yields_readList {json : α → Value} {read : Nat → (ds : List Char) → Reading α ds}
    {items : List α} (hdepth : (Value.array (items.map json)).depth < depth)
    (hwhole : ∀ item ∈ items, (json item).Whole)
    (hread : ∀ item ∈ items, ∀ inner after, (json item).depth < inner → EndsNumber after →
      Yields (read inner ((json item).chars ++ after)) item after) :
    Yields (readList depth read ((Value.array (items.map json)).chars ++ rest)) items rest := by
  obtain ⟨inner, rfl, hinside⟩ := Value.exists_inside_array hdepth
  have hitems : Yields (foldElements true [] (Value.itemsChars (items.map json) ++ ']' :: rest)
      fun items ds _ => do return (← read (inner + 1) ds).map (· :: items)) (items.reverse ++ []) rest := by
    have hchars : Value.itemsChars (items.map json) ++ ']' :: rest =
        (commaEach (fun item => (json item).chars) items).tail ++ ']' :: rest := by
      rw [Value.itemsChars_eq, commaEach, commaEach, List.flatMap_map]
    refine yields_foldElements hchars ?_ ?_
    · intro item hmem
      exact Value.startsElement_chars (hwhole item hmem)
    · intro item hmem front after _ hends
      have hitem := hinside (json item) (List.mem_map_of_mem hmem)
      exact (hread item hmem _ after hitem hends).map _
  rw [Value.chars, List.append_assoc, List.cons_append, List.singleton_append]
  unfold readList
  refine (yields_readStart (by decide) (by decide)).bind fun hstart => ?_
  refine hitems.bind fun hlt => ?_
  rw [List.append_nil]
  refine ⟨Nat.lt_succ_of_lt hlt, ?_⟩
  change Except.ok (Parsed.mk items.reverse.reverse rest _) = _
  simp only [List.reverse_reverse]

theorem yields_readTexts {texts : List String}
    (hdepth : (Value.array (texts.map .string)).depth < depth) :
    Yields (readTexts depth ((Value.array (texts.map .string)).chars ++ rest)) texts rest :=
  yields_readList hdepth (fun text _ => Value.whole_string text)
    fun text _ _ _ _ _ => yields_readText text

/-! ## Records -/

section Records

variable (state : List String → σ) {fields : List String} {members : List (String × Value)}

/-- Reads a member of a record: the keys that have been seen, and the state after them. -/
def readField (fields : List String) (set : σ → String → (ds : List Char) → Reading σ ds)
    (read : List String × σ) (key : String) (ds : List Char) : Reading (List String × σ) ds := do
  if fields.contains key then
    if read.1.contains key then breakOff (.duplicateField key) ds
    else
      let colon ← readColon ds
      let value ← set read.2 key colon.1
      return (value.map fun state => (key :: read.1, state)).extend colon.2
  else
    let colon ← readColon ds
    let skipped ← skipValue colon.1
    return ⟨read, skipped.1, Nat.lt_of_lt_of_le skipped.2 colon.2⟩

theorem yields_readField {set : σ → String → (ds : List Char) → Reading σ ds} {seen : List String}
    {before after : σ} {key : String} (hfield : key ∈ fields) (hnew : key ∉ seen)
    (hset : Yields (set before key cs) after rest) :
    Yields (readField fields set (seen, before) key (':' :: cs)) (key :: seen, after) rest := by
  obtain ⟨hle, hcolon⟩ := readColon_eq cs
  have hfield' : fields.contains key = true := List.contains_iff_mem.mpr hfield
  have hunseen : seen.contains key ≠ true := fun h => hnew (List.contains_iff_mem.mp h)
  unfold readField
  rw [if_pos hfield', if_neg hunseen, hcolon]
  exact hset.bind fun hread => .intro _ _

/-- Members under different declared keys are read one after the other; what has been read of a record is
told by the keys that have been seen. -/
theorem yields_readByName {set : σ → String → (ds : List Char) → Reading σ ds}
    (hnodup : (members.map (·.1)).Nodup) (hfields : ∀ member ∈ members, member.1 ∈ fields)
    (hset : ∀ member ∈ members, ∀ seen after, EndsNumber after →
      Yields (set (state seen) member.1 (member.2.chars ++ after)) (state (member.1 :: seen)) after) :
    Yields (readByName fields set (state []) (Value.membersChars members ++ '\x7d' :: rest))
      (state (members.map (·.1)).reverse) rest := by
  have hmembers : Yields (foldMembers true (([] : List String), state [])
      (Value.membersChars members ++ '\x7d' :: rest) fun read key ds _ => readField fields set read key ds)
      ((members.map (·.1)).reverse, state (members.map (·.1)).reverse) rest := by
    have hchars : Value.membersChars members ++ '\x7d' :: rest =
        (commaEach memberChars members).tail ++ '\x7d' :: rest := by rw [Value.membersChars_eq]
    refine yields_foldMembers
      (fun before => ((before.map (·.1)).reverse, state (before.map (·.1)).reverse)) hchars ?_
    intro before member later hsplit after _ hends
    have hmem : member ∈ members := hsplit ▸ List.mem_append_cons_self
    have hnew : member.1 ∉ (before.map (·.1)).reverse := by
      rw [List.mem_reverse]
      exact key_not_mem_before hsplit hnodup
    rw [List.map_append, List.map_singleton, List.reverse_concat]
    exact yields_readField (hfields member hmem) hnew (hset member hmem _ after hends)
  exact hmembers.map _

theorem yields_readRecord {expected : String} {finish : σ → Except String α} {a : α}
    {set : Nat → σ → String → (ds : List Char) → Reading σ ds}
    (hdepth : (Value.object members).depth < depth)
    (hnodup : (members.map (·.1)).Nodup) (hfields : ∀ member ∈ members, member.1 ∈ fields)
    (hset : ∀ member ∈ members, ∀ seen inner after, member.2.depth < inner → EndsNumber after →
      Yields (set inner (state seen) member.1 (member.2.chars ++ after)) (state (member.1 :: seen)) after)
    (hfinish : finish (state (members.map (·.1)).reverse) = .ok a) :
    Yields (readRecord expected fields (state []) set finish depth
      ((Value.object members).chars ++ rest)) a rest := by
  obtain ⟨inner, rfl, hinside⟩ := Value.exists_inside_object hdepth
  have hread : Yields (readByName fields (set (inner + 1)) (state [])
      (Value.membersChars members ++ '\x7d' :: rest)) (state (members.map (·.1)).reverse) rest :=
    yields_readByName state hnodup hfields fun member hmem seen after hends =>
      hset member hmem seen _ after (hinside member hmem) hends
  rw [Value.chars, List.append_assoc, List.cons_append, List.singleton_append]
  unfold readRecord
  refine (yields_readStart (by decide) (by decide)).bind fun hstart => ?_
  have hbrace : '\x7b' ≠ '[' := by decide
  rw [enter, Except.ok_bind, if_neg hbrace]
  refine hread.bind fun hlt => ?_
  simp only [hfinish]
  exact .intro _ a

end Records

end CommandForms.Json
