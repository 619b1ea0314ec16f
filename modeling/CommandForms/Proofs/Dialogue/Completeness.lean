import CommandForms.Proofs.Dialogue.Canonical

/-!
# Every canonical value can be built

The script of a value drives the conversation for its schema to that value, when the value is valid and
canonical.  Each loop of the questions is driven by the lines for the entries that it still lacks.
-/

namespace CommandForms.Dialogue

open CommandForms.Json (Value Number)
open CommandForms.Json.Value (Within)
open CommandForms.Numeral (integerText)
open CommandForms.Validation (admits check FieldHolds)

variable {aspects : AspectSet} {s schema element : Schema} {value : Value} {name text : String}
  {lines : Nat} {finish resume : Value → Nat → Turn} {source : CompletionSource}

/-! ## Single answers -/

theorem drives_askText {options : StringOptions} (hsource : source.options = options.autocomplete)
    (hentry : Enterable options.autocomplete text)
    (hadmits : admits options.strict options.autocomplete text = true) :
    Drives aspects (.ask (.text name options source) lines finish) [textLine text]
      (finish (.string text) (lines + 1)) := by
  have hchoice : choose source options.strict text = .taken text :=
    choose_of_enterable (hsource ▸ hentry) (hsource ▸ hadmits)
  have hrespond : Question.respond aspects (.text name options source) (textLine text) (lines + 1)
      finish = finish (.string text) (lines + 1) := by
    simp only [Question.respond, trim_textLine hentry.trimmed, isEmpty_of_enterable hentry, hchoice,
      Bool.false_eq_true, if_false]
  exact hrespond ▸ Drives.ask (textLine_ne_cancelLine text)

theorem drives_askNumber {options : IntegerOptions} {n : Int64}
    (hsafe : n.toInt.natAbs ≤ Value.maxSafeInteger) (hbounds : options.contains n.toInt = true) :
    Drives aspects (.ask (.number name options) lines finish) [numberLine (integerValue n)]
      (finish (integerValue n) (lines + 1)) := by
  have hline : numberLine (integerValue n) = textLine (integerText n.toInt) := by
    rw [numberLine, safeInteger?_integerValue hsafe]
    rfl
  have hrespond : Question.respond aspects (.number name options) (numberLine (integerValue n))
      (lines + 1) finish = finish (integerValue n) (lines + 1) := by
    simp only [Question.respond, hline, trim_textLine (trim_integerText _),
      readNumber?_integerText hsafe hbounds]
  exact hrespond ▸ Drives.ask (hline ▸ textLine_ne_cancelLine _)

/-! ## Growing collections -/

/-- A script drives a conversation to what follows a value, at some count of lines. -/
def Finishes (aspects : AspectSet) (turn : Turn) (script : List String)
    (finish : Value → Nat → Turn) (value : Value) : Prop :=
  ∃ lines, Drives aspects turn script (finish value lines)

/-- What is finished behind a driven conversation is finished behind the whole script. -/
theorem Finishes.after {turn turn₁ : Turn} {script script' : List String}
    (h : Finishes aspects turn₁ script' finish value) (hdrives : Drives aspects turn script turn₁) :
    Finishes aspects turn (script ++ script') finish value := by
  obtain ⟨lines, hfinish⟩ := h
  exact ⟨lines, hdrives.trans hfinish⟩

theorem isEmpty_trim_empty : (Text.trim "").isEmpty = true := rfl

theorem finishes_askMember {options : StringSetOptions}
    (hsource : source.options = options.autocomplete) {members todo : List String}
    (htodo : ∀ text ∈ todo, Enterable options.autocomplete text ∧
      admits options.strict options.autocomplete text = true)
    (hdistinct : (members ++ todo).Nodup) (hcount : options.count.Holds (members ++ todo).length) :
    Finishes aspects (askMember name options source members lines finish)
      (todo.map textLine ++ [""]) finish (textsValue (members ++ todo)) := by
  induction todo generalizing members lines with
  | nil =>
      rw [List.append_nil] at hcount ⊢
      have hround : Drives aspects (askMember name options source members lines finish) [""]
          (Question.respond aspects (.member name options source members) "" (lines + 2) finish) :=
        Drives.round (by decide)
      simp only [Question.respond, isEmpty_trim_empty, if_true, if_pos hcount.1] at hround
      exact ⟨lines + 2, hround⟩
  | cons text todo ih =>
      obtain ⟨⟨hentry, hadmits⟩, htail⟩ := List.forall_mem_cons.mp htodo
      have hchoice : choose source options.strict text = .taken text :=
        choose_of_enterable (hsource ▸ hentry) (hsource ▸ hadmits)
      have hnew : text ∉ members := by
        intro hmem
        exact (List.nodup_append.mp hdistinct).2.2 text hmem text (.head _) rfl
      have hroom : options.count.leavesRoom members.length = true :=
        hcount.leavesRoom (by simp)
      have htoggle : toggle name options members text = (members ++ [text], []) := by
        simp [toggle, hnew, hroom]
      have hround : Drives aspects (askMember name options source members lines finish)
          [textLine text]
          (Question.respond aspects (.member name options source members) (textLine text) (lines + 2)
            finish) :=
        Drives.round (textLine_ne_cancelLine text)
      simp only [Question.respond, trim_textLine hentry.trimmed, isEmpty_of_enterable hentry,
        hchoice, htoggle, Bool.false_eq_true, if_false, writeAll] at hround
      rw [show members ++ text :: todo = members ++ [text] ++ todo by simp] at hdistinct hcount ⊢
      exact (ih htail hdistinct hcount).after hround

/-- The aspects that still lack a count are given it one by one, in ascending order. -/
theorem finishes_askAspect {keys : CountBounds} {counts todo : List (String × Value)}
    (htodo : ∀ entry ∈ todo, Enterable aspects.names entry.1 ∧ aspects.contains entry.1 = true ∧
      ∃ n : Int64, entry.2 = integerValue n ∧ 1 ≤ n.toInt ∧ n.toInt.natAbs ≤ Value.maxSafeInteger)
    (hordered : Entries.Ascending (counts ++ todo)) (hcount : keys.Holds (counts ++ todo).length) :
    Finishes aspects (askAspect name keys aspects.source counts lines finish)
      (todo.flatMap aspectLines ++ [""]) finish (.object (counts ++ todo)) := by
  induction todo generalizing counts lines with
  | nil =>
      rw [List.append_nil] at hcount ⊢
      have hround : Drives aspects (askAspect name keys aspects.source counts lines finish) [""]
          (Question.respond aspects (.aspect name keys aspects.source counts) "" (lines + 2) finish) :=
        Drives.round (by decide)
      simp only [Question.respond, isEmpty_trim_empty, if_true, if_pos hcount.1] at hround
      exact ⟨lines + 2, hround⟩
  | cons entry todo ih =>
      obtain ⟨chosen, count⟩ := entry
      obtain ⟨⟨hentry, hknown, n, hn, hpositive, hsafe⟩, htail⟩ := List.forall_mem_cons.mp htodo
      dsimp only at hentry hknown hn
      subst hn
      have hroom : keys.leavesRoom counts.length = true :=
        hcount.leavesRoom (by simp)
      rw [show counts ++ (chosen, integerValue n) :: todo =
        counts ++ [(chosen, integerValue n)] ++ todo by simp] at hordered hcount ⊢
      -- The aspects are entered in order, so that each one is counted behind those before it.
      have hlast : Entries.Ascending (counts ++ [(chosen, integerValue n)]) :=
        hordered.sublist (List.sublist_append_left _ _)
      have hset : setCount counts chosen (integerValue n) = counts ++ [(chosen, integerValue n)] := by
        unfold setCount
        rw [safeInteger?_integerValue hsafe]
        dsimp only
        rw [if_neg (by omega), hlast.insert_last]
      have hround : Drives aspects (askAspect name keys aspects.source counts lines finish)
          [textLine chosen]
          (Question.respond aspects (.aspect name keys aspects.source counts) (textLine chosen)
            (lines + 2) finish) :=
        Drives.round (textLine_ne_cancelLine chosen)
      simp only [Question.respond, trim_textLine hentry.trimmed, isEmpty_of_enterable hentry,
        chooseAspect_of_enterable hentry hknown, hroom, Bool.not_true, Bool.and_false,
        Bool.false_eq_true, if_false] at hround
      have hnumber := hround.trans (drives_askNumber hsafe rfl)
      rw [hset] at hnumber
      exact (ih htail hordered hcount).after hnumber

/-- The script of a value drives the conversation for a schema, whatever follows it. -/
def FieldDrives (aspects : AspectSet) (s : Schema) (value : Value) : Prop :=
  ∀ lines resume, Drives aspects (constructField aspects s lines resume) (fieldScript s value)
    (resume value (lines + 1))

theorem finishes_askAction {length : CountBounds} {items todo : List Value}
    (htodo : ∀ item ∈ todo, item.isNull = false ∧ FieldDrives aspects element item)
    (hcount : length.Holds (items ++ todo).length) :
    Finishes aspects (askAction name element length items lines finish)
      (todo.flatMap (fun item => Action.add.label :: fieldScript element item) ++ [Action.done.label])
      finish (.array (items ++ todo)) := by
  induction todo generalizing items lines with
  | nil =>
      rw [List.append_nil] at hcount ⊢
      have hdone : Action.ofLine? (Action.available length items.length) Action.done.label =
          some .done :=
        Action.ofLine?_label (Action.done_mem_available.mpr hcount.1)
      have hround : Drives aspects (askAction name element length items lines finish)
          [Action.done.label]
          (Question.respond aspects (.action name element length items) Action.done.label (lines + 2)
            finish) :=
        Drives.round (Action.label_ne_cancelLine .done)
      simp only [Question.respond, Action.trim_label, hdone] at hround
      exact ⟨lines + 2, hround⟩
  | cons item todo ih =>
      obtain ⟨⟨hpresent, helement⟩, htail⟩ := List.forall_mem_cons.mp htodo
      have hroom : length.leavesRoom items.length = true :=
        hcount.leavesRoom (by simp)
      have hadd : Action.ofLine? (Action.available length items.length) Action.add.label =
          some .add :=
        Action.ofLine?_label (Action.add_mem_available.mpr hroom)
      have hround : Drives aspects (askAction name element length items lines finish)
          [Action.add.label]
          (Question.respond aspects (.action name element length items) Action.add.label (lines + 2)
            finish) :=
        Drives.round (Action.label_ne_cancelLine .add)
      simp only [Question.respond, Action.trim_label, hadd] at hround
      have hitem := hround.trans (helement _ _)
      simp only [hpresent, Bool.false_eq_true, if_false] at hitem
      rw [show items ++ item :: todo = items ++ [item] ++ todo by simp] at hcount ⊢
      have hmore := (ih htail hcount).after hitem
      simpa only [List.flatMap_cons, List.append_assoc, List.cons_append, List.nil_append] using hmore

/-! ## Records -/

/-- The record that the members under the keys of fields build. -/
def recordUnder (members : List (String × Value)) :
    List (String × Schema) → List (String × Value) → List (String × Value)
  | [], record => record
  | (key, _) :: fields, record =>
      recordUnder members fields (addMember key (valueUnder key members) record)

theorem finishes_constructFields {members : List (String × Value)} {fields : List (String × Schema)}
    {record : List (String × Value)}
    (hfields : ∀ field ∈ fields, FieldDrives aspects field.2 (valueUnder field.1 members)) :
    Finishes aspects (constructFields aspects fields record lines finish)
      (fieldsScript fields members) finish (.object (recordUnder members fields record)) := by
  induction fields generalizing record lines with
  | nil =>
      refine ⟨lines, ?_⟩
      rw [constructFields, fieldsScript]
      exact Drives.refl aspects _
  | cons field fields ih =>
      obtain ⟨key, schema⟩ := field
      obtain ⟨hhead, htail⟩ := List.forall_mem_cons.mp hfields
      rw [constructFields, fieldsScript]
      exact (ih htail).after (hhead lines _)

theorem ascending_recordUnder {members record : List (String × Value)}
    (fields : List (String × Schema)) (h : Entries.Ascending record) :
    Entries.Ascending (recordUnder members fields record) := by
  induction fields generalizing record with
  | nil => exact h
  | cons field fields ih => exact ih (ascending_addMember h)

theorem find?_addMember {members record : List (String × Value)} {k key : String}
    (hpresent : ∀ entry ∈ members, entry.2.isNull = false) :
    Entries.find? key (addMember k (valueUnder k members) record) =
      if key = k then (Entries.find? key members).or (Entries.find? key record)
      else Entries.find? key record := by
  unfold addMember valueUnder
  by_cases hkey : key = k
  · subst hkey
    cases hfind : Entries.find? key members with
    | none => simp [Value.isNull]
    | some value =>
        have hvalue := hpresent _ (Entries.mem_of_find? hfind)
        dsimp only at hvalue
        simp [hvalue, Entries.find?_insert]
  · rw [if_neg hkey]
    split
    · rfl
    · rw [Entries.find?_insert, if_neg hkey]

/-- Under the key of a field stands what the members hold, and under any other key what stood before. -/
theorem find?_recordUnder {members record : List (String × Value)} {fields : List (String × Schema)}
    {key : String} (hpresent : ∀ entry ∈ members, entry.2.isNull = false) :
    Entries.find? key (recordUnder members fields record) =
      if key ∈ fields.map (·.1) then
        (Entries.find? key members).or (Entries.find? key record)
      else Entries.find? key record := by
  induction fields generalizing record with
  | nil => rfl
  | cons field fields ih =>
      obtain ⟨k, schema⟩ := field
      rw [recordUnder, ih, find?_addMember hpresent]
      simp only [List.map_cons, List.mem_cons]
      by_cases hkey : key = k
      · subst hkey
        cases Entries.find? key members <;> simp
      · simp only [hkey, if_false, false_or]

/-- Members in ascending order, none of them null and all of them declared, are built again. -/
theorem recordUnder_eq {members : List (String × Value)} {fields : List (String × Schema)}
    (hordered : Entries.Ascending members)
    (hpresent : ∀ entry ∈ members, entry.2.isNull = false)
    (hdeclared : ∀ key ∈ members.map (·.1), key ∈ fields.map (·.1)) :
    recordUnder members fields [] = members := by
  refine (ascending_recordUnder fields List.Pairwise.nil).ext hordered fun key => ?_
  rw [find?_recordUnder hpresent]
  split
  · simp
  · rename_i hkey
    have hnone : Entries.find? key members = none :=
      Entries.find?_eq_none_iff.mpr fun hmem => hkey (hdeclared key hmem)
    rw [hnone]
    rfl

/-! ## Fields -/

theorem drives_framed {label : Label} {kind : Nat → (Value → Nat → Turn) → Turn}
    {script : List String}
    (hkind : ∀ lines finish, Finishes aspects (kind lines finish) script finish value) :
    Drives aspects (framed label lines resume kind)
      ((if label.required then [] else [yesNoLine false]) ++ script) (resume value (lines + 1)) := by
  have hcommitted : ∀ start, Drives aspects (kind start (commit label.name lines resume)) script
      (resume value (lines + 1)) := by
    intro start
    obtain ⟨lines', hvalue⟩ := hkind start (commit label.name lines resume)
    simpa using hvalue.trans (Drives.commit label.name lines resume value)
  unfold framed
  dsimp only
  split
  · exact hcommitted lines
  · refine Drives.trans ?_ (hcommitted (lines + 1))
    exact Drives.confirm (yesNoLine_ne_cancelLine false) (yesNo?_yesNoLine (some false) false)

theorem drives_framed_null {label : Label} {kind : Nat → (Value → Nat → Turn) → Turn}
    (hrequired : label.required = false) :
    Drives aspects (framed label lines resume kind) [yesNoLine true] (resume .null (lines + 1)) := by
  have hskipped : Drives aspects (framed label lines resume kind) [yesNoLine true]
      (commit label.name lines resume .null (lines + 1)) := by
    unfold framed
    dsimp only
    rw [hrequired, if_neg nofun]
    exact Drives.confirm (yesNoLine_ne_cancelLine true) (yesNo?_yesNoLine (some false) true)
  exact hskipped.trans (Drives.commit label.name lines resume .null)

theorem fieldDrives_null (hrequired : s.required = false) : FieldDrives aspects s .null := by
  intro lines resume
  have hscript : fieldScript s .null = [yesNoLine true] := by
    unfold fieldScript
    rfl
  rw [hscript, constructField]
  exact drives_framed_null hrequired

/-- The value under the key of a field is driven when the object is valid and canonical. -/
theorem fieldDrives_valueUnder {label : Label} {fields : List (String × Schema)}
    {members : List (String × Value)} {field : String × Schema}
    (hfield : field ∈ fields) (hholds : FieldHolds aspects members field)
    (hcanonical : Canonical aspects (.object label fields) (.object members))
    (hdrives : ∀ value, check aspects field.2 value = .ok () → Canonical aspects field.2 value →
      FieldDrives aspects field.2 value) :
    FieldDrives aspects field.2 (valueUnder field.1 members) := by
  obtain ⟨key, schema⟩ := field
  unfold FieldHolds at hholds
  unfold valueUnder
  dsimp only at hholds hdrives ⊢
  cases hfind : Entries.find? key members with
  | none =>
      rw [hfind] at hholds
      exact fieldDrives_null hholds
  | some value =>
      rw [hfind] at hholds
      exact hdrives value hholds (hcanonical.member hfield (Entries.mem_of_find? hfind))

/-- Sets start without members. -/
def StartsEmpty : Schema → Prop
  | .stringSet _ options => options.default.getD [] = []
  | _ => True

/-! ## Fields of each kind -/

section Kinds

variable {label : Label}

theorem fieldDrives_string {options : StringOptions}
    (hdelimiters : (Schema.string label options).checkDelimiters = .ok ())
    (hvalid : check aspects (.string label options) value = .ok ())
    (hcanonical : Canonical aspects (.string label options) value) :
    FieldDrives aspects (.string label options) value := by
  rcases Validation.check_string.mp hvalid with ⟨rfl, hrequired⟩ | ⟨text, rfl, hadmits⟩
  · exact fieldDrives_null hrequired
  · obtain ⟨source, hsource, hwith⟩ := withSource_eq hdelimiters
    have hentry := hcanonical.texts _ _ _ (.root _ _)
    intro lines resume
    rw [constructField, fieldScript]
    refine drives_framed fun lines finish => ⟨lines + 1, ?_⟩
    dsimp only
    rw [hwith]
    exact drives_askText hsource hentry hadmits

theorem fieldDrives_stringSet {options : StringSetOptions}
    (hdelimiters : (Schema.stringSet label options).checkDelimiters = .ok ())
    (hstart : StartsEmpty (.stringSet label options))
    (hvalid : check aspects (.stringSet label options) value = .ok ())
    (hcanonical : Canonical aspects (.stringSet label options) value) :
    FieldDrives aspects (.stringSet label options) value := by
  rcases Validation.check_stringSet.mp hvalid with ⟨rfl, hrequired⟩ | ⟨texts, rfl, hcount, hadmits⟩
  · exact fieldDrives_null hrequired
  · obtain ⟨source, hsource, hwith⟩ := withSource_eq hdelimiters
    obtain ⟨hdistinct, hentries⟩ := hcanonical.sets _ _ _ (.root _ _)
    have hlines : (texts.map Value.string).map memberLine = texts.map textLine := by
      simp [memberLine]
    intro lines resume
    rw [constructField, fieldScript]
    dsimp only
    rw [hlines]
    refine drives_framed fun lines finish => ?_
    rw [hwith, show options.default.getD [] = [] from hstart]
    refine finishes_askMember hsource ?_ ?_ hcount
    · intro text hmem
      exact ⟨hentries text (List.mem_map_of_mem hmem), hadmits text hmem⟩
    · exact List.Pairwise.of_map Value.string (fun _ _ hne heq => hne (heq ▸ rfl)) hdistinct

theorem fieldDrives_integer {options : IntegerOptions}
    (hvalid : check aspects (.integer label options) value = .ok ())
    (hcanonical : Canonical aspects (.integer label options) value) :
    FieldDrives aspects (.integer label options) value := by
  rcases Validation.check_integer.mp hvalid with ⟨rfl, hrequired⟩ | ⟨n, hsafe, hbounds⟩
  · exact fieldDrives_null hrequired
  · obtain ⟨m, rfl, rfl, hsmall⟩ := exists_integerValue hsafe fun d heq =>
      hcanonical.integral d (heq ▸ .root _)
    intro lines resume
    rw [constructField, fieldScript]
    exact drives_framed fun lines finish => ⟨lines + 1, drives_askNumber hsmall hbounds⟩

theorem fieldDrives_boolean {default : Option Bool}
    (hvalid : check aspects (.boolean label default) value = .ok ()) :
    FieldDrives aspects (.boolean label default) value := by
  rcases Validation.check_boolean.mp hvalid with ⟨rfl, hrequired⟩ | ⟨yes, rfl⟩
  · exact fieldDrives_null hrequired
  · intro lines resume
    rw [constructField, fieldScript]
    refine drives_framed fun lines finish => ⟨lines + 1, ?_⟩
    exact Drives.confirm (yesNoLine_ne_cancelLine yes) (yesNo?_yesNoLine default yes)

theorem fieldDrives_aspectMap {keys : CountBounds}
    (hvalid : check aspects (.aspectMap label keys) value = .ok ())
    (hcanonical : Canonical aspects (.aspectMap label keys) value) :
    FieldDrives aspects (.aspectMap label keys) value := by
  rcases Validation.check_aspectMap.mp hvalid with ⟨rfl, hrequired⟩ | ⟨counts, rfl, hcount, hcounts⟩
  · exact fieldDrives_null hrequired
  · have hordered := hcanonical.ordered counts (.root _)
    intro lines resume
    rw [constructField, fieldScript]
    refine drives_framed fun lines finish => ?_
    refine finishes_askAspect (fun entry hmem => ?_) hordered hcount
    obtain ⟨hentry, hpositive⟩ := hcanonical.counts _ _ _ (.root _ _) entry hmem
    obtain ⟨hknown, n, hsafe, _⟩ := hcounts entry hmem
    obtain ⟨m, hm, rfl, hsmall⟩ := exists_integerValue hsafe fun d heq =>
      hcanonical.integral d (.member hmem (heq ▸ .root _))
    exact ⟨hentry, hknown, m, hm, hpositive _ hsafe, hsmall⟩

theorem fieldDrives_object {fields : List (String × Schema)}
    (hfields : ∀ field ∈ fields, ∀ value, check aspects field.2 value = .ok () →
      Canonical aspects field.2 value → FieldDrives aspects field.2 value)
    (hvalid : check aspects (.object label fields) value = .ok ())
    (hcanonical : Canonical aspects (.object label fields) value) :
    FieldDrives aspects (.object label fields) value := by
  rcases Validation.check_object.mp hvalid with ⟨rfl, hrequired⟩ | ⟨members, rfl, hholds⟩
  · exact fieldDrives_null hrequired
  · have hrecord : recordUnder members fields [] = members := by
      apply recordUnder_eq (hcanonical.ordered members (.root _))
      · intro entry hmem
        exact hcanonical.isNull_of_member hmem
      · exact hcanonical.declared _ _ _ (.root _ _)
    intro lines resume
    rw [constructField, fieldScript]
    refine drives_framed fun lines finish => ?_
    have hbuilt : Finishes aspects (constructFields aspects fields [] lines finish)
        (fieldsScript fields members) finish (.object (recordUnder members fields [])) := by
      apply finishes_constructFields
      intro field hmem
      exact fieldDrives_valueUnder hmem (hholds field hmem) hcanonical (hfields field hmem)
    rw [hrecord] at hbuilt
    exact hbuilt

theorem fieldDrives_array {length : CountBounds}
    (helement : ∀ value, check aspects element value = .ok () → Canonical aspects element value →
      FieldDrives aspects element value)
    (hvalid : check aspects (.array label element length) value = .ok ())
    (hcanonical : Canonical aspects (.array label element length) value) :
    FieldDrives aspects (.array label element length) value := by
  rcases Validation.check_array.mp hvalid with ⟨rfl, hrequired⟩ | ⟨items, rfl, hcount, hitems⟩
  · exact fieldDrives_null hrequired
  · intro lines resume
    rw [constructField, fieldScript]
    refine drives_framed fun lines finish => ?_
    refine finishes_askAction (fun item hmem => ⟨?_, ?_⟩) hcount
    · exact hcanonical.isNull_of_item hmem
    · exact helement item (hitems item hmem) (hcanonical.item hmem)

end Kinds

/-- The script of a valid canonical value drives the conversation for its schema to that value. -/
theorem fieldDrives_of_canonical (hdelimiters : s.checkDelimiters = .ok ())
    (hstart : s.Everywhere StartsEmpty) (hvalid : check aspects s value = .ok ())
    (hcanonical : Canonical aspects s value) : FieldDrives aspects s value := by
  induction s using Schema.induction generalizing value with
  | string label options => exact fieldDrives_string hdelimiters hvalid hcanonical
  | stringSet label options => exact fieldDrives_stringSet hdelimiters hstart.root hvalid hcanonical
  | integer label options => exact fieldDrives_integer hvalid hcanonical
  | boolean label default => exact fieldDrives_boolean hvalid
  | aspectMap label keys => exact fieldDrives_aspectMap hvalid hcanonical
  | object label fields ih =>
      have hfields := Schema.checkFieldDelimiters_eq_ok.mp hdelimiters
      have hinner := (Schema.everywhere_object.mp hstart).2
      refine fieldDrives_object (fun field hmem value => ?_) hvalid hcanonical
      exact ih field hmem (hfields field hmem) (hinner field hmem)
  | array label element length ih =>
      exact fieldDrives_array (fun value => ih hdelimiters hstart.2) hvalid hcanonical

/-- Every valid canonical value can be built.  When the delimiters of a schema are well formed and its sets
start without members, there is a script on which every working terminal ends the construction with
exactly that value, behind exactly the lines of the script. -/
theorem exists_script_of_canonical (hdelimiters : s.checkDelimiters = .ok ())
    (hstart : s.Everywhere StartsEmpty) (hvalid : validate value s aspects = .ok ())
    (hcanonical : Canonical aspects s value) :
    ∃ script : List String, ∀ rest t, Ready (script ++ rest) t →
      ∃ t', construct s aspects t = (.ok value, t') ∧ t'.unread = rest := by
  refine ⟨fieldScript s value, fun rest t hready => ?_⟩
  have hdrives : Drives aspects (constructTurn aspects s) (fieldScript s value) (.done value) :=
    fieldDrives_of_canonical hdelimiters hstart hvalid hcanonical 0 fun value _ => .done value
  exact hdrives.run_eq hready

def partySchema : Schema :=
  .stringSet ⟨"party", true⟩
    { autocomplete := ["Ana", "Bo"], strict := true, count := { max := some 3 } }

def partyValue : Value :=
  textsValue ["Bo", "Ana"]

theorem exists_script_of_canonical_party :
    partySchema.checkDelimiters = .ok () ∧ partySchema.Everywhere StartsEmpty ∧
      validate partyValue partySchema .empty = .ok () ∧
      Canonical .empty partySchema partyValue ∧
      ∃ script : List String, ∀ rest t, Ready (script ++ rest) t →
        ∃ t', construct partySchema .empty t = (.ok partyValue, t') ∧ t'.unread = rest := by
  have hdelimiters : partySchema.checkDelimiters = .ok () := rfl
  have hstart : partySchema.Everywhere StartsEmpty := rfl
  have hvalid : validate partyValue partySchema .empty = .ok () := rfl
  have hcanonical : Canonical .empty partySchema partyValue := by
    refine canonical_textsValue (by decide) ?_
    intro text htext
    rcases (by simpa using htext : text = "Bo" ∨ text = "Ana") with rfl | rfl
    · exact ⟨by decide, by decide, by decide +kernel⟩
    · exact ⟨by decide, by decide, by decide +kernel⟩
  exact ⟨hdelimiters, hstart, hvalid, hcanonical,
    exists_script_of_canonical hdelimiters hstart hvalid hcanonical⟩

end CommandForms.Dialogue
