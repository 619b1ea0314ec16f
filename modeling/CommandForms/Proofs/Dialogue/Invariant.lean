import CommandForms.Dialogue.Terminal
import CommandForms.Proofs.Dialogue.Buildable

/-!
# Invariants of conversations

A property of conversations that every single call carries over holds of the whole conversation for a
schema, as soon as it holds of what follows the value.  The property may mention the lines that the
conversation has on the screen, and a bound on the lines that the operator has left, which every question
lowers; the loops of the questions are followed here once and for all.
-/

namespace CommandForms.Dialogue

open CommandForms.Json (Value)
open CommandForms.Validation (admits)

/-- A property that every call carries over.  `fuel` bounds the lines that are still unread, and `shown`
holds the lines that the conversation has on the screen. -/
structure CallInvariant (aspects : AspectSet) (P : Nat → List String → Turn → Prop) : Prop where
  write {fuel : Nat} {shown : List String} {text : String} {next : Turn} :
    P fuel (shown ++ [text]) next → P fuel shown (.write text shown.length next)
  erase {fuel : Nat} {base shown : List String} {next : Turn} :
    base <+: shown → P fuel base next → P fuel shown (.erase shown.length base.length next)
  confirm {fuel : Nat} {shown : List String} {prompt : String} {default : Option Bool}
      {next : Bool → Turn} :
    (∀ fuel' < fuel, ∀ answer yes, yesNo? default answer = some yes →
      P fuel' (shown ++ [Terminal.answerText prompt default answer]) (next yes)) →
    P fuel shown (.confirm prompt default shown.length next)
  ask {fuel : Nat} {shown : List String} {question : Question} {resume : Value → Nat → Turn} :
    (∀ fuel' < fuel, ∀ line, P fuel' (shown ++ [question.prompt ++ line])
      (question.respond aspects line (shown.length + 1) resume)) →
    P fuel shown (.ask question shown.length resume)

/-- What follows a value has a property whenever the value satisfies `Q`, however many more lines are on
the screen by then. -/
def Keeps (P : Nat → List String → Turn → Prop) (fuel : Nat) (base : List String)
    (Q : Value → Prop) (resume : Value → Nat → Turn) : Prop :=
  ∀ fuel' ≤ fuel, ∀ shown lines value, base <+: shown → lines = shown.length → Q value →
    P fuel' shown (resume value lines)

/-- What follows a field has a property when the field leaves one line, for a value that its schema can be
built to. -/
def Follows (aspects : AspectSet) (P : Nat → List String → Turn → Prop) (fuel : Nat)
    (shown : List String) (s : Schema) (resume : Value → Nat → Turn) : Prop :=
  ∀ fuel' ≤ fuel, ∀ value, Buildable aspects s value →
    P fuel' (shown ++ [valueLine s.name value]) (resume value (shown.length + 1))

/-- The conversation for a schema has a property whenever what follows it has the property. -/
def FieldKeeps (aspects : AspectSet) (P : Nat → List String → Turn → Prop) (s : Schema) : Prop :=
  ∀ fuel shown lines resume, lines = shown.length → Follows aspects P fuel shown s resume →
    P fuel shown (constructField aspects s lines resume)

variable {aspects : AspectSet} {P : Nat → List String → Turn → Prop} {fuel fuel' lines : Nat}
  {base base' shown : List String} {Q Q' : Value → Prop} {resume finish : Value → Nat → Turn}

theorem Keeps.mono (h : Keeps P fuel base Q resume) (hfuel : fuel' ≤ fuel) (hbase : base <+: base') :
    Keeps P fuel' base' Q resume :=
  fun fuel'' hle shown lines value hshown =>
    h fuel'' (Nat.le_trans hle hfuel) shown lines value (hbase.trans hshown)

theorem Keeps.weaken (h : Keeps P fuel base Q resume) (hQ : ∀ value, Q' value → Q value) :
    Keeps P fuel base Q' resume :=
  fun fuel' hle shown lines value hshown hlines hvalue =>
    h fuel' hle shown lines value hshown hlines (hQ value hvalue)

theorem Keeps.here {value : Value} (h : Keeps P fuel base Q resume) (hvalue : Q value) :
    P fuel base (resume value base.length) :=
  h fuel (Nat.le_refl _) base base.length value (List.prefix_refl _) rfl hvalue

theorem keeps_withSource {options : List String} {pattern : Option String}
    {next : CompletionSource → Turn} (hpattern : Schema.checkPattern pattern = .ok ())
    (hnext : ∀ source : CompletionSource, source.options = options → P fuel shown (next source)) :
    P fuel shown (withSource options pattern next) := by
  obtain ⟨source, hsource, hwith⟩ := withSource_eq hpattern
  rw [hwith]
  exact hnext source hsource

theorem keeps_constructFields {fields : List (String × Schema)} {record : List (String × Value)}
    (hfields : ∀ field ∈ fields, FieldKeeps aspects P field.2) (hlines : lines = shown.length)
    (hfinish : Keeps P fuel shown (fun value => ∃ built, value = .object built ∧
      RecordBuilds aspects fields record built) finish) :
    P fuel shown (constructFields aspects fields record lines finish) := by
  induction fields generalizing fuel shown lines record with
  | nil =>
      subst hlines
      rw [constructFields]
      exact hfinish.here ⟨record, rfl, rfl⟩
  | cons field fields ih =>
      obtain ⟨key, schema⟩ := field
      obtain ⟨hhead, htail⟩ := List.forall_mem_cons.mp hfields
      rw [constructFields]
      refine hhead _ _ _ _ hlines fun fuel' hle value hvalue => ?_
      refine ih htail (by simp) ?_
      refine (hfinish.mono hle (List.prefix_append _ _)).weaken ?_
      rintro _ ⟨built, rfl, hbuilt⟩
      exact ⟨built, rfl, value, hvalue, hbuilt⟩

namespace CallInvariant

theorem writeAll (h : CallInvariant aspects P) {said : List String} {next : Nat → Turn}
    (hlines : lines = shown.length)
    (hnext : P fuel (shown ++ said) (next (shown ++ said).length)) :
    P fuel shown (writeAll said lines next) := by
  induction said generalizing shown lines with
  | nil =>
      subst hlines
      simpa [Dialogue.writeAll] using hnext
  | cons text said ih =>
      subst hlines
      exact h.write (ih (by simp) (by simpa using hnext))

theorem keeps_commit (h : CallInvariant aspects P) {name : String}
    (hresume : ∀ fuel' ≤ fuel, ∀ value, Q value →
      P fuel' (base ++ [valueLine name value]) (resume value (base.length + 1))) :
    Keeps P fuel base Q (commit name base.length resume) := by
  rintro fuel' hle shown lines value hshown rfl hvalue
  exact h.erase hshown (h.write (hresume fuel' hle value hvalue))

/-! ## The loops of the questions -/

theorem answer (h : CallInvariant aspects P) {prompt : String} {default : Option Bool}
    {next : Bool → Turn}
    (hanswer : ∀ fuel' < fuel, ∀ yes shown', shown <+: shown' →
      shown'.length = shown.length + 1 → P fuel' shown' (next yes)) :
    P fuel shown (.confirm prompt default shown.length next) := by
  apply h.confirm
  intro fuel' hlt answer yes _
  exact hanswer fuel' hlt yes _ (List.prefix_append _ _) (by simp)

theorem read (h : CallInvariant aspects P) {question : Question}
    (hanswer : ∀ fuel' < fuel, ∀ line shown', shown <+: shown' →
      P fuel' shown' (question.respond aspects line shown'.length resume)) :
    P fuel shown (.ask question shown.length resume) := by
  apply h.ask
  intro fuel' hlt line
  have hnext := hanswer fuel' hlt line (shown ++ [question.prompt ++ line]) (List.prefix_append _ _)
  rwa [List.length_append, List.length_singleton] at hnext

theorem round (h : CallInvariant aspects P) {text : String} {question : Question}
    (hanswer : ∀ fuel' < fuel, ∀ line shown', shown <+: shown' →
      P fuel' shown' (question.respond aspects line shown'.length resume)) :
    P fuel shown (.write text shown.length (.ask question (shown.length + 1) resume)) := by
  apply h.write
  have hread : P fuel (shown ++ [text]) (.ask question (shown ++ [text]).length resume) := by
    apply h.read
    intro fuel' hlt line shown' hshown
    exact hanswer fuel' hlt line shown' ((List.prefix_append _ _).trans hshown)
  rwa [List.length_append, List.length_singleton] at hread

theorem askText (h : CallInvariant aspects P) {name : String} {options : StringOptions}
    {source : CompletionSource} (hsource : source.options = options.autocomplete)
    (hlines : lines = shown.length)
    (hfinish : Keeps P fuel shown (fun value => ∃ text, value = .string text ∧ TextFits options text)
      finish) :
    P fuel shown (.ask (.text name options source) lines finish) := by
  induction fuel using Nat.strongRecOn generalizing shown lines with
  | ind fuel ih =>
      subst hlines
      apply h.read
      intro fuel' hlt line shown' hshown
      have hlater := hfinish.mono (Nat.le_of_lt hlt) hshown
      simp only [Question.respond]
      split
      · split
        · rename_i default hdefault
          exact hlater.here ⟨default, rfl, .inl hdefault⟩
        · exact ih fuel' hlt rfl hlater
      · split
        · rename_i entry hentry
          exact hlater.here ⟨entry, rfl, .inr (hsource ▸ admits_of_choose hentry)⟩
        · refine h.writeAll rfl (ih fuel' hlt rfl ?_)
          exact hlater.mono (Nat.le_refl _) (List.prefix_append _ _)

theorem askNumber (h : CallInvariant aspects P) {name : String} {options : IntegerOptions}
    (hlines : lines = shown.length)
    (hfinish : Keeps P fuel shown (fun value => ∃ n, value = integerValue n ∧ NumberFits options n)
      finish) :
    P fuel shown (.ask (.number name options) lines finish) := by
  induction fuel using Nat.strongRecOn generalizing shown lines with
  | ind fuel ih =>
      subst hlines
      apply h.read
      intro fuel' hlt line shown' hshown
      have hlater := hfinish.mono (Nat.le_of_lt hlt) hshown
      simp only [Question.respond]
      split
      · rename_i n hn
        exact hlater.here ⟨n, rfl, numberFits_of_readNumber? hn⟩
      · exact ih fuel' hlt rfl hlater

/-- The loop over the members of a set, with any invariant `I` of its members that each entry carries over:
the members satisfy it, and they are enough, when the set is finished. -/
theorem askMember_of (h : CallInvariant aspects P) {name : String} {options : StringSetOptions}
    {source : CompletionSource} (hsource : source.options = options.autocomplete)
    {I : List String → Prop} {members : List String}
    (htoggle : ∀ {members : List String} {entry : String}, I members →
      admits options.strict options.autocomplete entry = true →
        I (toggle name options members entry).1)
    (hmembers : I members) (hlines : lines = shown.length)
    (hfinish : Keeps P fuel shown (fun value => ∃ members, value = textsValue members ∧
      I members ∧ options.count.least ≤ members.length) finish) :
    P fuel shown (askMember name options source members lines finish) := by
  induction fuel using Nat.strongRecOn generalizing shown lines members with
  | ind fuel ih =>
      subst hlines
      apply h.round
      intro fuel' hlt line shown' hshown
      have hlater := hfinish.mono (Nat.le_of_lt hlt) hshown
      have hagain : ∀ said members, I members →
          P fuel' shown' (Dialogue.writeAll said shown'.length fun lines =>
            Dialogue.askMember name options source members lines finish) := by
        intro said members hmembers
        refine h.writeAll rfl (ih fuel' hlt hmembers rfl ?_)
        exact hlater.mono (Nat.le_refl _) (List.prefix_append _ _)
      simp only [Question.respond]
      split
      · split
        · rename_i hleast
          exact hlater.here ⟨members, rfl, hmembers, hleast⟩
        · exact hagain [] members hmembers
      · split
        · rename_i entry hentry
          exact hagain _ _ (htoggle hmembers (hsource ▸ admits_of_choose hentry))
        · exact hagain _ members hmembers

theorem askMember (h : CallInvariant aspects P) {name : String} {options : StringSetOptions}
    {source : CompletionSource} (hsource : source.options = options.autocomplete)
    {members : List String} (hmembers : MembersGrow options members) (hlines : lines = shown.length)
    (hfinish : Keeps P fuel shown (fun value => ∃ members, value = textsValue members ∧
      MembersGrow options members ∧ options.count.least ≤ members.length) finish) :
    P fuel shown (askMember name options source members lines finish) :=
  h.askMember_of hsource (fun hmembers => hmembers.toggle name) hmembers hlines hfinish

/-- The loop over the counts of aspects, with the question for one count inside it. -/
theorem askAspect (h : CallInvariant aspects P) {name : String} {keys : CountBounds}
    {counts : List (String × Value)} (hcounts : CountsGrow aspects keys counts)
    (hlines : lines = shown.length)
    (hfinish : Keeps P fuel shown (fun value => ∃ counts, value = .object counts ∧
      CountsGrow aspects keys counts ∧ keys.least ≤ counts.length) finish) :
    P fuel shown (askAspect name keys aspects.source counts lines finish) := by
  induction fuel using Nat.strongRecOn generalizing shown lines counts with
  | ind fuel ih =>
      subst hlines
      apply h.round
      intro fuel' hlt line shown' hshown
      have hlater := hfinish.mono (Nat.le_of_lt hlt) hshown
      have hagain : ∀ said, P fuel' shown' (Dialogue.writeAll said shown'.length fun lines =>
          Dialogue.askAspect name keys aspects.source counts lines finish) := by
        intro said
        refine h.writeAll rfl (ih fuel' hlt hcounts rfl ?_)
        exact hlater.mono (Nat.le_refl _) (List.prefix_append _ _)
      simp only [Question.respond]
      split
      · split
        · rename_i hleast
          exact hlater.here ⟨counts, rfl, hcounts, hleast⟩
        · exact hagain []
      · split
        · exact hagain _
        · rename_i chosen hchosen
          split
          · exact hagain _
          · rename_i hroom
            have hroom' : (Entries.find? chosen counts).isSome = true ∨
                keys.leavesRoom counts.length = true := by
              cases hfind : Entries.find? chosen counts <;> simp_all
            apply h.askNumber rfl
            rintro fuel'' hle shown'' lines'' _ hshown'' hlines'' ⟨n, rfl, hn⟩
            refine ih fuel'' (Nat.lt_of_le_of_lt hle hlt) ?_ hlines'' (hlater.mono hle hshown'')
            exact hcounts.setCount (contains_of_chooseAspect hchosen) hroom' hn

/-- The loop over the items of a list, with the conversation for an element inside it. -/
theorem askAction (h : CallInvariant aspects P) {name : String} {element : Schema}
    {length : CountBounds} {items : List Value}
    (helement : FieldKeeps aspects P element)
    (hitems : ItemsGrow (Buildable aspects element) length items) (hlines : lines = shown.length)
    (hfinish : Keeps P fuel shown (fun value => ∃ items, value = .array items ∧
      ItemsGrow (Buildable aspects element) length items ∧ length.least ≤ items.length) finish) :
    P fuel shown (askAction name element length items lines finish) := by
  induction fuel using Nat.strongRecOn generalizing shown lines items with
  | ind fuel ih =>
      subst hlines
      apply h.round
      intro fuel' hlt line shown' hshown
      have hlater := hfinish.mono (Nat.le_of_lt hlt) hshown
      simp only [Question.respond]
      split
      · exact ih fuel' hlt hitems rfl hlater
      · rename_i haction
        have hleast := Action.done_mem_available.mp (Action.mem_of_ofLine? haction)
        exact hlater.here ⟨items, rfl, hitems, hleast⟩
      · rename_i haction
        have hroom := Action.add_mem_available.mp (Action.mem_of_ofLine? haction)
        refine helement _ _ _ _ rfl fun fuel'' hle item hitem => ?_
        refine ih fuel'' (Nat.lt_of_le_of_lt hle hlt) (hitems.add hroom hitem) (by simp) ?_
        exact hlater.mono hle (List.prefix_append _ _)
      · apply h.askNumber rfl
        rintro fuel'' hle shown'' lines'' _ hshown'' hlines'' ⟨n, rfl, _⟩
        refine ih fuel'' (Nat.lt_of_le_of_lt hle hlt) (hitems.removeAt _) hlines'' ?_
        exact hlater.mono hle hshown''

/-! ## The conversation for a schema -/

/-- A field asks first whether to skip it, unless it must be given.  What is kept of its values may be any
condition `Q` that null satisfies where the field may be skipped. -/
theorem framed_of (h : CallInvariant aspects P) {label : Label}
    {kind : Nat → (Value → Nat → Turn) → Turn} (hnull : label.required = false → Q .null)
    (hkind : ∀ {fuel : Nat} {shown : List String} {finish : Value → Nat → Turn},
      Keeps P fuel shown Q finish → P fuel shown (kind shown.length finish))
    (hlines : lines = shown.length)
    (hresume : ∀ fuel' ≤ fuel, ∀ value, Q value →
      P fuel' (shown ++ [valueLine label.name value]) (resume value (shown.length + 1))) :
    P fuel shown (framed label lines resume kind) := by
  subst hlines
  have hcommit := h.keeps_commit hresume
  unfold Dialogue.framed
  dsimp only
  split
  · exact hkind hcommit
  · rename_i hrequired
    apply h.answer
    intro fuel' hlt skip shown' hshown hlength
    have hlater := hcommit.mono (Nat.le_of_lt hlt) hshown
    rw [← hlength]
    cases skip with
    | true => exact hlater.here (hnull (by simpa using hrequired))
    | false => exact hkind hlater

theorem framed (h : CallInvariant aspects P) {s : Schema}
    {kind : Nat → (Value → Nat → Turn) → Turn}
    (hkind : ∀ {fuel : Nat} {shown : List String} {finish : Value → Nat → Turn},
      Keeps P fuel shown (Buildable aspects s) finish → P fuel shown (kind shown.length finish))
    (hlines : lines = shown.length) (hresume : Follows aspects P fuel shown s resume) :
    P fuel shown (framed s.label lines resume kind) :=
  h.framed_of (fun hrequired => buildable_of_absent ⟨rfl, hrequired⟩) hkind hlines hresume

/-- The conversation for a schema has the property when what follows its value has it. -/
theorem constructField (h : CallInvariant aspects P) {s : Schema}
    (hs : s.checkDelimiters = .ok ()) : FieldKeeps aspects P s := by
  induction s using Schema.induction with
  | string label options =>
      intro fuel shown lines resume hlines hresume
      rw [Dialogue.constructField]
      refine h.framed (fun hfinish => keeps_withSource hs fun source hsource => ?_) hlines hresume
      exact h.askText hsource rfl (hfinish.weaken fun _ => .inr)
  | stringSet label options =>
      intro fuel shown lines resume hlines hresume
      rw [Dialogue.constructField]
      refine h.framed (fun hfinish => keeps_withSource hs fun source hsource => ?_) hlines hresume
      exact h.askMember hsource (.start options) rfl (hfinish.weaken fun _ => .inr)
  | integer label options =>
      intro fuel shown lines resume hlines hresume
      rw [Dialogue.constructField]
      refine h.framed (fun hfinish => ?_) hlines hresume
      exact h.askNumber rfl (hfinish.weaken fun _ => .inr)
  | boolean label default =>
      intro fuel shown lines resume hlines hresume
      rw [Dialogue.constructField]
      refine h.framed (fun hfinish => h.answer fun fuel' hlt yes shown' hshown hlength => ?_) hlines
        hresume
      rw [← hlength]
      exact (hfinish.mono (Nat.le_of_lt hlt) hshown).here (.inr ⟨yes, rfl⟩)
  | aspectMap label keys =>
      intro fuel shown lines resume hlines hresume
      rw [Dialogue.constructField]
      refine h.framed (fun hfinish => ?_) hlines hresume
      exact h.askAspect (.start aspects keys) rfl (hfinish.weaken fun _ => .inr)
  | object label fields ih =>
      intro fuel shown lines resume hlines hresume
      rw [Dialogue.constructField]
      refine h.framed (fun hfinish => ?_) hlines hresume
      have hfields := Schema.checkFieldDelimiters_eq_ok.mp hs
      refine keeps_constructFields (fun field hmem => ?_) rfl (hfinish.weaken fun _ => .inr)
      exact ih field hmem (hfields field hmem)
  | array label element length ih =>
      intro fuel shown lines resume hlines hresume
      rw [Dialogue.constructField]
      refine h.framed (fun hfinish => ?_) hlines hresume
      exact h.askAction (ih hs) (.start _ length) rfl (hfinish.weaken fun _ => .inr)

end CallInvariant

end CommandForms.Dialogue
