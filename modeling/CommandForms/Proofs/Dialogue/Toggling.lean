import CommandForms.Proofs.Completion.Typing
import CommandForms.Proofs.Dialogue.Buildable
import CommandForms.Proofs.Dialogue.Selection
import Mathlib.Algebra.Ring.Parity
import Mathlib.Data.List.Dedup
import Mathlib.Data.List.Nodup

/-!
# Toggled sets

A set field changes the membership of one entry after another until a blank line finishes it.  The members
are at every question what the entries so far leave of the members it starts with, and they stay distinct
and within their bound.  Without a bound, what is left follows from how often each entry was taken, and from
the order in which the entries were taken last.
-/

namespace CommandForms.Dialogue

open CommandForms.Json (Value)
open CommandForms.Text (lowerChars)

/-- The entry that a typed line is taken as; a blank line and one that is refused are taken as none. -/
def acceptedText? (source : CompletionSource) (strict : Bool) (typed : String) : Option String :=
  let line := Text.trim typed
  if line.isEmpty then none
  else
    match choose source strict line with
    | .taken entry => some entry
    | .refused _ => none

/-- The members of a set after entries were toggled one after another. -/
def toggleAll (name : String) (options : StringSetOptions) (members entries : List String) :
    List String :=
  entries.foldl (fun members entry => (toggle name options members entry).1) members

/-- A text belongs to a set after entries were toggled: it was a member and was toggled an even number of
times, or it was none and was toggled an odd number of times. -/
def Held (initial entries : List String) (x : String) : Prop :=
  x ∈ initial ∧ Even (entries.count x) ∨ x ∉ initial ∧ Odd (entries.count x)

/-- What toggling entries leaves of a set without a bound.  The members that were never toggled stand in
front as they stood, and the others follow in the order in which they were toggled last, which added them;
of equal entries, `dedup` keeps the last. -/
structure Toggled (initial entries members : List String) : Prop where
  mem_iff : ∀ x, x ∈ members ↔ Held initial entries x
  order : members = initial.filter (· ∉ entries) ++ entries.dedup.filter (· ∈ members)
  added : ∀ x ∈ members, ∀ before after, entries = before ++ x :: after → x ∉ after →
    ¬ Held initial before x

variable {name entry x : String} {options : StringSetOptions} {members entries : List String}

/-! ## One entry -/

theorem nodup_toggle (name entry : String) (h : members.Nodup) :
    (toggle name options members entry).1.Nodup := by
  unfold toggle
  split
  · exact h.erase entry
  · rename_i hnew
    split
    · rw [← List.concat_eq_append]
      exact h.concat (by simpa using hnew)
    · exact h

/-- Without a bound, an entry leaves the set when it is a member, and otherwise joins it at the end. -/
theorem toggle_of_unbounded (hmax : options.count.max = none) (name entry : String)
    (members : List String) : (toggle name options members entry).1 =
      if entry ∈ members then members.erase entry else members ++ [entry] := by
  have hroom : options.count.leavesRoom members.length = true :=
    CountBounds.leavesRoom_iff.mpr (by simp [hmax])
  simp only [toggle, List.contains_iff_mem, hroom]
  split <;> rfl

theorem toggle_of_full (hnew : entry ∉ members)
    (hfull : options.count.leavesRoom members.length = false) :
    toggle name options members entry =
      (members, [name ++ " holds at most " ++ Numeral.integerText options.count.most ++ " entries"]) := by
  simp [toggle, hnew, hfull]

theorem mem_toggle (hmax : options.count.max = none) (h : members.Nodup) :
    x ∈ (toggle name options members entry).1 ↔ (x ∈ members ↔ x ≠ entry) := by
  rw [toggle_of_unbounded hmax]
  split
  · rename_i hmem
    rw [h.mem_erase_iff]
    grind
  · rw [List.mem_append, List.mem_singleton]
    grind

/-- The members that are not among some later entries, after one entry was toggled. -/
theorem filter_toggle (hmax : options.count.max = none) (h : members.Nodup) :
    (toggle name options members entry).1.filter (· ∉ entries) =
      members.filter (· ∉ entry :: entries) ++
        if entry ∈ members ∨ entry ∈ entries then [] else [entry] := by
  have hothers : (members.filter (· != entry)).filter (· ∉ entries) =
      members.filter (· ∉ entry :: entries) := by
    rw [List.filter_filter]
    refine List.filter_congr fun other _ => ?_
    grind
  rw [toggle_of_unbounded hmax]
  split
  · rename_i hmem
    rw [if_pos (.inl hmem), List.append_nil, h.erase_eq_filter, hothers]
  · rename_i hmem
    have hself : members.filter (· != entry) = members := by
      rw [← h.erase_eq_filter, List.erase_of_not_mem hmem]
    rw [List.filter_append, ← hothers, hself]
    simp [hmem, List.filter_cons]

/-! ## One entry after another -/

theorem toggleAll_append (before after : List String) :
    toggleAll name options members (before ++ after) =
      toggleAll name options (toggleAll name options members before) after :=
  List.foldl_append

theorem nodup_toggleAll (name : String) (entries : List String) (h : members.Nodup) :
    (toggleAll name options members entries).Nodup := by
  induction entries generalizing members with
  | nil => exact h
  | cons entry entries ih => exact ih (nodup_toggle name entry h)

theorem length_toggleAll_le {length : Nat} (name : String) (entries : List String)
    (hroom : ∀ most ∈ options.count.max, members.length ≤ max most.toNat length) :
    ∀ most ∈ options.count.max,
      (toggleAll name options members entries).length ≤ max most.toNat length := by
  induction entries generalizing members with
  | nil => exact hroom
  | cons entry entries ih => exact ih (length_toggle_le name entry hroom)

theorem mem_toggleAll (hmax : options.count.max = none) (h : members.Nodup) :
    x ∈ toggleAll name options members entries ↔ Held members entries x := by
  induction entries generalizing members with
  | nil => simp [toggleAll, Held]
  | cons entry entries ih =>
      refine (ih (nodup_toggle name entry h)).trans ?_
      unfold Held
      rw [mem_toggle hmax h, List.count_cons]
      by_cases hx : x = entry
      · subst hx
        simp only [beq_self_eq_true, if_true, Nat.even_add_one, Nat.odd_add_one]
        grind
      · simp [hx, Ne.symm hx]

/-- A text that is toggled no more is a member in the end when it is one already. -/
theorem mem_toggleAll_of_not_mem (name : String) (hmax : options.count.max = none) (h : members.Nodup)
    (hx : x ∉ entries) : x ∈ toggleAll name options members entries ↔ x ∈ members := by
  rw [mem_toggleAll hmax h, Held, List.count_eq_zero_of_not_mem hx]
  simp

theorem toggleAll_eq (hmax : options.count.max = none) (h : members.Nodup) :
    toggleAll name options members entries = members.filter (· ∉ entries) ++
      entries.dedup.filter (· ∈ toggleAll name options members entries) := by
  induction entries generalizing members with
  | nil => simp [toggleAll]
  | cons entry entries ih =>
      have hnodup : (toggle name options members entry).1.Nodup := nodup_toggle name entry h
      have hrest := ih hnodup
      rw [filter_toggle hmax h, List.append_assoc] at hrest
      refine hrest.trans (congrArg _ ?_)
      change _ = (entry :: entries).dedup.filter
        (· ∈ toggleAll name options (toggle name options members entry).1 entries)
      by_cases hlater : entry ∈ entries
      · rw [if_pos (.inr hlater), List.dedup_cons_of_mem hlater, List.nil_append]
      · have hmem := mem_toggleAll_of_not_mem name hmax hnodup hlater
        rw [mem_toggle hmax h] at hmem
        rw [List.dedup_cons_of_notMem hlater, List.filter_cons]
        by_cases hold : entry ∈ members <;> simp [hmem, hold, hlater]

/-- What toggling entries leaves of distinct members when there is no bound. -/
theorem toggled_toggleAll (hmax : options.count.max = none) (h : members.Nodup)
    (name : String) (entries : List String) :
    Toggled members entries (toggleAll name options members entries) where
  mem_iff _ := mem_toggleAll hmax h
  order := toggleAll_eq hmax h
  added := by
    rintro x hx before after rfl hlast hheld
    have hbefore : (toggleAll name options members before).Nodup := nodup_toggleAll name before h
    rw [toggleAll_append] at hx
    have hjoins := (mem_toggleAll_of_not_mem name hmax (nodup_toggle name x hbefore) hlast).mp hx
    rw [mem_toggle hmax hbefore] at hjoins
    exact hjoins.mp ((mem_toggleAll hmax h).mpr hheld) rfl

/-! ## The questions of a set field -/

/-- The members that a set field holds after lines were typed at it. -/
def membersAfter (label : Label) (options : StringSetOptions) (source : CompletionSource)
    (typed : List String) : List String :=
  toggleAll label.name options (options.default.getD [])
    (typed.filterMap (acceptedText? source options.strict))

/-- The lines in front of the first entry of a field: none when the field is required, and otherwise the
answer not to skip it, perhaps behind answers that are not clear. -/
def OpensField (label : Label) (front : List String) : Prop :=
  if label.required then front = []
  else
    ∃ unclear no, front = unclear ++ [no] ∧ (∀ other ∈ unclear, yesNo? (some false) other = none) ∧
      yesNo? (some false) no = some false

/-- The values that a set field commits, where it reads the lines that `t` has and `t'` has no more.  It is
skipped, or a blank line finishes it with enough members. -/
inductive CommitsSet (label : Label) (options : StringSetOptions) (source : CompletionSource)
    (t t' : Terminal) : Value → Prop
  | skipped (hoptional : label.required = false) : CommitsSet label options source t t' .null
  | finished {front typed : List String} {blank : String} (hfront : OpensField label front)
      (hread : t.unread = front ++ typed ++ blank :: t'.unread) (hblank : Text.trim blank = "")
      (hcount : options.count.least ≤ (membersAfter label options source typed).length) :
      CommitsSet label options source t t' (textsValue (membersAfter label options source typed))

/-- Where the conversation of a set field gets from a terminal: it asks whether to skip the field, it asks
for an entry while it holds the members that the typed lines leave, or it has committed a value. -/
inductive SetStage (aspects : AspectSet) (label : Label) (options : StringSetOptions)
    (source : CompletionSource) (mark : Nat) (resume : Value → Nat → Turn) (t : Terminal) :
    Turn × Terminal → Prop
  | skipping (hoptional : label.required = false) :
      SetStage aspects label options source mark resume t
        (constructField aspects (.stringSet label options) mark resume, t)
  | asking {front typed : List String} {turn : Turn} {t' : Terminal} (hfront : OpensField label front)
      (hread : t.unread = front ++ typed ++ t'.unread)
      (hagain : AsksAgain (.member label.name options source (membersAfter label options source typed))
        (commit label.name mark resume) turn) :
      SetStage aspects label options source mark resume t (turn, t')
  | committed {value : Value} {lines : Nat} {t' : Terminal} {reached : Turn × Terminal}
      (hvalue : CommitsSet label options source t t' value)
      (hcommit : Turn.Reaches aspects
        (constructField aspects (.stringSet label options) mark resume, t)
        (commit label.name mark resume value lines, t'))
      (hrest : Turn.Reaches aspects (commit label.name mark resume value lines, t') reached) :
      SetStage aspects label options source mark resume t reached

variable {aspects : AspectSet} {label : Label} {source : CompletionSource} {mark lines : Nat}
  {resume : Value → Nat → Turn} {turn turn' : Turn} {t t' t₁ : Terminal} {typed : List String}
  {line : String}

theorem membersAfter_concat : membersAfter label options source (typed ++ [line]) =
    toggleAll label.name options (membersAfter label options source typed)
      (acceptedText? source options.strict line).toList := by
  unfold membersAfter
  rw [List.filterMap_append, toggleAll_append]
  cases hentry : acceptedText? source options.strict line <;> simp [hentry]

theorem AsksAgain.call {question : Question} (h : AsksAgain question resume turn)
    (hcall : turn.call? aspects t = some (.ok turn', t')) :
    (t.unread = t'.unread ∧ AsksAgain question resume turn') ∨
      ∃ line lines, t.unread = line :: t'.unread ∧
        turn' = question.respond aspects line lines resume := by
  cases h with
  | ask lines =>
      obtain ⟨line, hread, rfl⟩ := Turn.goOn_eq_ok.mp (Option.some.inj hcall)
      exact .inr ⟨line, _, Terminal.unread_of_readLine hread, rfl⟩
  | @write text lines next hnext =>
      obtain ⟨_, hwrite, rfl⟩ := Turn.goOn_eq_ok.mp (Option.some.inj hcall)
      have hunread := t.unread_writeLine text
      rw [hwrite] at hunread
      exact .inl ⟨hunread.symm, hnext⟩

/-- A blank line finishes a set that has enough members, and every other line toggles the entry that it is
taken as, if any. -/
theorem respond_member (aspects : AspectSet) (line : String) (lines : Nat) :
    (Text.trim line = "" ∧ options.count.least ≤ members.length ∧
        (Question.member name options source members).respond aspects line lines resume =
          resume (textsValue members) lines) ∨
      AsksAgain (.member name options source
          (toggleAll name options members (acceptedText? source options.strict line).toList)) resume
        ((Question.member name options source members).respond aspects line lines resume) := by
  unfold acceptedText? Question.respond
  dsimp only
  cases hblank : (Text.trim line).isEmpty with
  | true =>
      rw [if_pos rfl, if_pos rfl]
      split
      · rename_i hcount
        exact .inl ⟨by simpa using hblank, hcount, rfl⟩
      · exact .inr (.write (.ask _))
  | false =>
      refine .inr ?_
      rw [if_neg nofun, if_neg nofun]
      cases choose source options.strict (Text.trim line) with
      | taken entry => exact .writeAll fun _ => .write (.ask _)
      | refused said => exact .writeAll fun _ => .write (.ask _)

theorem constructField_optional (hoptional : label.required = false) :
    constructField aspects (.stringSet label options) mark resume =
      .confirm ("Skip " ++ label.name ++ "?") (some false) mark fun skip =>
        if skip then commit label.name mark resume .null (mark + 1)
        else
          withSource options.autocomplete options.delimiter fun source =>
            askMember label.name options source (options.default.getD []) (mark + 1)
              (commit label.name mark resume) := by
  rw [constructField, framed, Schema.label, hoptional]
  rfl

theorem asksAgain_withSource
    (hsource : CompletionSource.ofOptions options.autocomplete options.delimiter = .ok source) :
    AsksAgain (.member label.name options source (membersAfter label options source [])) resume
      (withSource options.autocomplete options.delimiter fun source =>
        askMember label.name options source (options.default.getD []) lines resume) := by
  rw [withSource, hsource]
  exact .write (.ask _)

theorem SetStage.call
    (hsource : CompletionSource.ofOptions options.autocomplete options.delimiter = .ok source)
    (h : SetStage aspects label options source mark resume t (turn, t₁))
    (hreach : Turn.Reaches aspects
      (constructField aspects (.stringSet label options) mark resume, t) (turn', t'))
    (hcall : turn.call? aspects t₁ = some (.ok turn', t')) :
    SetStage aspects label options source mark resume t (turn', t') := by
  cases h with
  | skipping hoptional =>
      rw [constructField_optional hoptional] at hcall
      obtain ⟨skip, hconfirm, rfl⟩ := Turn.goOn_eq_ok.mp (Option.some.inj hcall)
      cases skip with
      | true => exact .committed (.skipped hoptional) hreach .refl
      | false =>
          obtain ⟨unclear, no, hunread, hothers, hno⟩ := Terminal.unread_of_confirm hconfirm
          have hfront : OpensField label (unclear ++ [no]) := by
            rw [OpensField, hoptional]
            exact ⟨unclear, no, rfl, hothers, hno⟩
          have hread : t.unread = unclear ++ [no] ++ [] ++ t'.unread := by simpa using hunread
          exact .asking hfront hread (asksAgain_withSource hsource)
  | @asking front typed _ _ hfront hread hagain =>
      rcases hagain.call hcall with ⟨hunread, hagain⟩ | ⟨line, lines, hunread, rfl⟩
      · exact .asking hfront (hunread ▸ hread) hagain
      · rw [hunread] at hread
        rcases respond_member aspects line lines with ⟨hblank, hcount, hresume⟩ | hagain
        · rw [hresume] at hreach ⊢
          exact .committed (.finished hfront hread hblank hcount) hreach .refl
        · rw [← membersAfter_concat] at hagain
          exact .asking hfront (by simpa using hread) hagain
  | committed hvalue hcommit hrest => exact .committed hvalue hcommit (hrest.tail hcall)

theorem setStage_of_reaches
    (hsource : CompletionSource.ofOptions options.autocomplete options.delimiter = .ok source)
    {reached : Turn × Terminal}
    (h : Turn.Reaches aspects
      (constructField aspects (.stringSet label options) mark resume, t) reached) :
    SetStage aspects label options source mark resume t reached := by
  induction h with
  | refl =>
      cases hrequired : label.required with
      | false => exact .skipping hrequired
      | true =>
          have hfront : OpensField label [] := by
            rw [OpensField, hrequired]
            rfl
          have hread : t.unread = [] ++ [] ++ t.unread := rfl
          refine .asking hfront hread ?_
          rw [constructField, framed, Schema.label, hrequired]
          exact asksAgain_withSource hsource
  | tail hreach hcall ih => exact ih.call hsource (hreach.tail hcall) hcall

/-- The value that is committed is the one that the run ends with when nothing follows. -/
theorem eq_of_run_commit {value other : Value}
    (h : (commit label.name mark (fun value _ => .done value) value lines).run aspects t =
      (.ok other, t')) : other = value ∧ t'.unread = t.unread := by
  obtain ⟨t₁, herased, h⟩ := Turn.exists_run_of_erase h
  obtain ⟨t₂, hwritten, h⟩ := Turn.exists_run_of_write h
  cases (Turn.run_of_ending? rfl).symm.trans h
  exact ⟨rfl, hwritten.trans herased⟩

theorem commitsSet_of_construct
    (hsource : CompletionSource.ofOptions options.autocomplete options.delimiter = .ok source)
    {value : Value} (h : construct (.stringSet label options) aspects t = (.ok value, t')) :
    CommitsSet label options source t t' value := by
  have hstage := setStage_of_reaches hsource (Turn.reaches_of_run h)
  generalize hend : (Turn.done value, t') = reached at hstage
  cases hstage with
  | skipping hoptional =>
      rw [constructField_optional hoptional] at hend
      cases hend
  | asking _ _ hagain =>
      cases hend
      cases hagain
  | @committed committed lines t₁ _ hvalue _ hrest =>
      subst hend
      have hrun := hrest.run_eq.trans (Turn.run_of_ending? rfl)
      obtain ⟨rfl, hunread⟩ := eq_of_run_commit hrun
      cases hvalue with
      | skipped hoptional => exact .skipped hoptional
      | finished hfront hread hblank hcount =>
          exact .finished hfront (hunread.symm ▸ hread) hblank hcount

/-! ## Entries -/

/-- Texts that equal an option, case aside, are taken as one and the same option. -/
theorem exists_spelling {option : String} (hoption : option ∈ source.options) (strict : Bool) :
    ∃ spelling ∈ source.options, lowerChars spelling.toList = lowerChars option.toList ∧
      ∀ line, Text.trim line ≠ "" →
        lowerChars (Text.trim line).toList = lowerChars option.toList →
        acceptedText? source strict line = some spelling := by
  cases hfound : source.member? option with
  | none =>
      exact absurd (beq_self_eq_true _) (List.find?_eq_none.mp hfound option hoption)
  | some spelling =>
      refine ⟨spelling, mem_of_member? hfound, Completion.lowerChars_of_member? hfound, ?_⟩
      intro line hblank hsame
      have hmember : source.member? (Text.trim line) = some spelling :=
        (Completion.member?_congr hsame).trans hfound
      simp only [acceptedText?, isEmpty_of_ne hblank, choose, hmember]
      rfl

/-- A new entry for which there is no room is refused, and the set is asked about as it was. -/
theorem respond_member_of_full (aspects : AspectSet) (lines : Nat) (resume : Value → Nat → Turn)
    (hentry : acceptedText? source options.strict line = some entry) (hnew : entry ∉ members)
    (hfull : options.count.leavesRoom members.length = false) :
    (Question.member name options source members).respond aspects line lines resume =
      .write (name ++ " holds at most " ++ Numeral.integerText options.count.most ++ " entries") lines
        (askMember name options source members (lines + 1) resume) := by
  unfold acceptedText? at hentry
  unfold Question.respond
  dsimp only at hentry ⊢
  split at hentry
  · cases hentry
  · rename_i hblank
    rw [if_neg hblank]
    cases hchoice : choose source options.strict (Text.trim line) with
    | refused said =>
        rw [hchoice] at hentry
        cases hentry
    | taken taken =>
        rw [hchoice] at hentry
        cases hentry
        dsimp only
        rw [toggle_of_full hnew hfull]
        rfl

/-- A set field with a well-formed delimiter and distinct default members, in front of anything that may
follow it, only gets to the question whether to skip it, to questions about the members that the typed lines
leave, and behind what it commits.  The members are always distinct and never more than their bound or the
default members.  Without a bound, they are those toggled an odd number of times against the default.  An
entry without room is refused and changes nothing, and all texts that equal an option, case aside, are taken
as the same entry. -/
theorem set_holds_what_was_toggled
    (hsource : CompletionSource.ofOptions options.autocomplete options.delimiter = .ok source)
    (hdistinct : (options.default.getD []).Nodup) (aspects : AspectSet) (label : Label) :
    (∀ mark resume t reached,
      Turn.Reaches aspects (constructField aspects (.stringSet label options) mark resume, t) reached →
        SetStage aspects label options source mark resume t reached) ∧
    (∀ t value t', construct (.stringSet label options) aspects t = (.ok value, t') →
      CommitsSet label options source t t' value) ∧
    (∀ typed, let members := membersAfter label options source typed
      members.Nodup ∧
      (∀ most ∈ options.count.max,
        members.length ≤ max most.toNat (options.default.getD []).length) ∧
      (options.count.max = none →
        Toggled (options.default.getD []) (typed.filterMap (acceptedText? source options.strict))
          members)) ∧
    (∀ line entry members, acceptedText? source options.strict line = some entry → entry ∉ members →
      options.count.leavesRoom members.length = false → ∀ lines resume,
        (Question.member label.name options source members).respond aspects line lines resume =
          .write (label.name ++ " holds at most " ++ Numeral.integerText options.count.most ++ " entries")
            lines (askMember label.name options source members (lines + 1) resume)) ∧
    ∀ option ∈ options.autocomplete, ∃ spelling ∈ options.autocomplete,
      lowerChars spelling.toList = lowerChars option.toList ∧
      ∀ line, Text.trim line ≠ "" → lowerChars (Text.trim line).toList = lowerChars option.toList →
        acceptedText? source options.strict line = some spelling := by
  refine ⟨fun _ _ _ _ => setStage_of_reaches hsource, fun _ _ _ => commitsSet_of_construct hsource,
    fun typed => ⟨?_, ?_, ?_⟩, ?_, ?_⟩
  · exact nodup_toggleAll label.name _ hdistinct
  · exact length_toggleAll_le label.name _ fun _ _ => Nat.le_max_right _ _
  · exact fun hmax => toggled_toggleAll hmax hdistinct label.name _
  · intro line entry members hentry hnew hfull lines resume
    exact respond_member_of_full aspects lines resume hentry hnew hfull
  · intro option hoption
    rw [← options_of_ofOptions hsource] at hoption ⊢
    exact exists_spelling hoption options.strict

/-- The options of a set of spells that starts with one of them. -/
def spellOptions : StringSetOptions :=
  { autocomplete := ["Ice", "fire"], strict := true, default := some ["fire"], count := ⟨some 1, none⟩ }

theorem set_holds_what_was_toggled_spells :
    CompletionSource.ofOptions spellOptions.autocomplete spellOptions.delimiter =
        .ok ⟨["Ice", "fire"], none⟩ ∧
      (spellOptions.default.getD []).Nodup ∧
      ∃ t', construct (.stringSet ⟨"spells", true⟩ spellOptions) .empty
          { unread := ["ICE", "wind", "FIRE", ""] } = (.ok (textsValue ["Ice"]), t') ∧
        CommitsSet ⟨"spells", true⟩ spellOptions ⟨["Ice", "fire"], none⟩
          { unread := ["ICE", "wind", "FIRE", ""] } t' (textsValue ["Ice"]) := by
  have hsource : CompletionSource.ofOptions spellOptions.autocomplete spellOptions.delimiter =
      .ok ⟨["Ice", "fire"], none⟩ := rfl
  have hdistinct : (spellOptions.default.getD []).Nodup := by decide
  have hrun : construct (.stringSet ⟨"spells", true⟩ spellOptions) .empty
      { unread := ["ICE", "wind", "FIRE", ""] } = (.ok (textsValue ["Ice"]), _) :=
    Turn.run_eq_of_makeCalls 11 rfl
  refine ⟨hsource, hdistinct, _, hrun, ?_⟩
  exact (set_holds_what_was_toggled hsource hdistinct .empty _).2.1 _ _ _ hrun

end CommandForms.Dialogue
