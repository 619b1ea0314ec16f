import CommandForms.Proofs.Validation.Valid

/-!
# Places

The places of a value that a schema reaches, each with what is asked of it there: the value of a field has
to meet the field's own constraints, and a member of a set has to be a text.  A value is valid exactly when
each of its places meets what is asked of it, and an error leads to the first place that does not.
-/

namespace CommandForms.Validation

open CommandForms.Json (Value)

/-! ## Places and the way to them -/

/-- A place of a value: the value of a field with the field's schema, or a member of a set. -/
inductive Place
  | field (s : Schema) (value : Value)
  | member (value : Value)

/-- A value has the form that the kind of a schema asks for, with its bounds, whatever the parts of the
value are.  An object has all keys that are needed. -/
def HasForm (aspects : AspectSet) (value : Value) : Schema → Prop
  | .string _ options =>
      ∃ text, value = .string text ∧ admits options.strict options.autocomplete text = true
  | .stringSet _ options =>
      ∃ texts : List String, value = .array (texts.map .string) ∧ options.count.Holds texts.length ∧
        ∀ text ∈ texts, admits options.strict options.autocomplete text = true
  | .integer _ options => ∃ n, value.safeInteger? = some n ∧ options.contains n = true
  | .boolean .. => ∃ yes, value = .bool yes
  | .aspectMap _ keys =>
      ∃ counts, value = .object counts ∧ keys.Holds counts.length ∧
        ∀ entry ∈ counts, aspects.contains entry.1 = true ∧
          ∃ n, entry.2.safeInteger? = some n ∧ 0 ≤ n
  | .object _ fields =>
      ∃ members, value = .object members ∧
        ∀ field ∈ fields, field.2.required = true → Entries.find? field.1 members ≠ none
  | .array _ _ length => ∃ items, value = .array items ∧ length.Holds items.length

namespace Place

/-- The place behind one step.  A key leads to a member of an object that the object's schema declares, and
an index leads to an element of a list or to a member of a set. -/
def step? : Place → Step → Option Place
  | .field (.object _ fields) (.object members), .key key =>
      (Entries.find? key fields).bind fun schema =>
        (Entries.find? key members).map fun value => .field schema value
  | .field (.array _ element _) (.array items), .index index => items[index]?.map (.field element)
  | .field (.stringSet ..) (.array items), .index index => items[index]?.map .member
  | _, _ => none

def follow? : Place → List Step → Option Place
  | place, [] => some place
  | place, step :: path => (place.step? step).bind fun next => next.follow? path

def check (aspects : AspectSet) : Place → Outcome
  | .field s value => Validation.check aspects s value
  | .member (.string _) => .ok ()
  | .member _ => refuse .notAString

/-- What is asked of a place itself: null only where no value is needed, and else the form of the schema; a
member of a set is a text. -/
def Meets (aspects : AspectSet) : Place → Prop
  | .field s value => s.Absent value ∨ HasForm aspects value s
  | .member value => ∃ text, value = .string text

/-- Everything that a place has in front of a step is valid: the fields declared before a key, each valid or
absent where no value is needed, and the elements of a list or the members of a set before an index. -/
def ClearBefore (aspects : AspectSet) : Place → Step → Prop
  | .field (.object _ fields) (.object members), .key key =>
      ∀ field ∈ fields.takeWhile (·.1 ≠ key), FieldHolds aspects members field
  | .field (.array _ element _) (.array items), .index index =>
      ∀ item ∈ items.take index, Validation.check aspects element item = .ok ()
  | .field (.stringSet _ options) (.array items), .index index =>
      ∀ item ∈ items.take index, ∃ text, item = .string text ∧
        admits options.strict options.autocomplete text = true
  | _, _ => False

/-- The object schemas at a place and behind it have pairwise different keys. -/
def DistinctKeys : Place → Prop
  | .field s _ => s.Everywhere Schema.DistinctKeys
  | .member _ => True

end Place

variable {aspects : AspectSet} {label : Label} {s : Schema} {value : Value} {place behind : Place}
  {first : Step} {path : List Step} {violation : Violation} {e : Error}

/-- What a step from a place leads to: the value of a declared field, an element of a list, or a member of a
set. -/
theorem Place.step?_cases (h : place.step? first = some behind) :
    (∃ label fields members key schema value, place = .field (.object label fields) (.object members) ∧
      first = .key key ∧ Entries.find? key fields = some schema ∧
      Entries.find? key members = some value ∧ behind = .field schema value) ∨
    (∃ label element length items index item,
      place = .field (.array label element length) (.array items) ∧ first = .index index ∧
      items[index]? = some item ∧ behind = .field element item) ∨
    (∃ label options items index item, place = .field (.stringSet label options) (.array items) ∧
      first = .index index ∧ items[index]? = some item ∧ behind = .member item) := by
  unfold Place.step? at h
  split at h
  · rename_i label fields members key
    obtain ⟨schema, hfield, h⟩ := Option.bind_eq_some_iff.mp h
    obtain ⟨value, hmember, rfl⟩ := Option.map_eq_some_iff.mp h
    exact .inl ⟨label, fields, members, key, schema, value, rfl, rfl, hfield, hmember, rfl⟩
  · rename_i label element length items index
    obtain ⟨item, hitem, rfl⟩ := Option.map_eq_some_iff.mp h
    exact .inr (.inl ⟨label, element, length, items, index, item, rfl, rfl, hitem, rfl⟩)
  · rename_i label options items index
    obtain ⟨item, hitem, rfl⟩ := Option.map_eq_some_iff.mp h
    exact .inr (.inr ⟨label, options, items, index, item, rfl, rfl, hitem, rfl⟩)
  · cases h

theorem Place.DistinctKeys.step (h : place.DistinctKeys) (hstep : place.step? first = some behind) :
    behind.DistinctKeys := by
  rcases step?_cases hstep with ⟨_, _, _, _, _, _, rfl, rfl, hfield, _, rfl⟩ |
    ⟨_, _, _, _, _, _, rfl, rfl, _, rfl⟩ | ⟨_, _, _, _, _, rfl, rfl, _, rfl⟩
  · exact (Schema.everywhere_object.mp h).2 _ (Entries.mem_of_find? hfield)
  · exact h.2
  · trivial

/-! ## Errors of the parts of a check -/

theorem within_eq_error {outcome : Outcome} (h : within first outcome = .error e) :
    ∃ inner, outcome = .error inner ∧ e = ⟨first :: inner.path, inner.violation⟩ := by
  cases outcome with
  | ok => cases h
  | error inner =>
      cases h
      exact ⟨inner, rfl, rfl⟩

theorem bind_eq_error {first : Outcome} {second : Unit → Outcome}
    (h : (first >>= second) = .error e) :
    first = .error e ∨ first = .ok () ∧ second () = .error e := by
  cases first with
  | error e' => exact .inl h
  | ok => exact .inr ⟨rfl, h⟩

theorem path_of_refuse (h : refuse violation = .error e) : e.path = [] := by
  cases h
  rfl

theorem path_of_checkCount {bounds : CountBounds} {count : Nat}
    (h : checkCount bounds count = .error e) : e.path = [] := by
  unfold checkCount at h
  split at h
  · exact path_of_refuse h
  · split at h
    · exact path_of_refuse h
    · cases h

theorem path_of_checkString {options : StringOptions} (h : checkString options value = .error e) :
    e.path = [] := by
  unfold checkString at h
  split at h
  · split at h
    · cases h
    · exact path_of_refuse h
  · exact path_of_refuse h

theorem path_of_checkInteger {options : IntegerOptions} (h : checkInteger options value = .error e) :
    e.path = [] := by
  unfold checkInteger at h
  split at h
  · exact path_of_refuse h
  · split at h
    · exact path_of_refuse h
    · split at h
      · exact path_of_refuse h
      · cases h

theorem path_of_checkBoolean (h : checkBoolean value = .error e) : e.path = [] := by
  unfold checkBoolean at h
  split at h
  · cases h
  · exact path_of_refuse h

theorem path_of_checkAspects {counts : List (String × Value)}
    (h : checkAspects aspects counts = .error e) : e.path = [] := by
  induction counts with
  | nil => cases h
  | cons entry counts ih =>
      obtain ⟨name, count⟩ := entry
      unfold checkAspects at h
      split at h
      · split at h
        · exact path_of_refuse h
        · split at h
          · exact path_of_refuse h
          · exact ih h
      · exact path_of_refuse h

theorem path_of_checkAspectMap {keys : CountBounds}
    (h : checkAspectMap aspects keys value = .error e) : e.path = [] := by
  unfold checkAspectMap at h
  split at h
  · rcases bind_eq_error h with h | ⟨_, h⟩
    · exact path_of_checkAspects h
    · exact path_of_checkCount h
  · exact path_of_refuse h

/-- The members of a set are refused as a whole, or for the first of them that is not a text. -/
theorem checkMembers_eq_error {options : StringSetOptions} {items : List Value} {start : Nat}
    (h : checkMembers options start items = .error e) :
    e.path = [] ∨
      ∃ index item inner, items[index]? = some item ∧
        (Place.member item).check aspects = .error inner ∧
        e = ⟨.index (start + index) :: inner.path, inner.violation⟩ ∧
        ∀ earlier ∈ items.take index, ∃ text, earlier = .string text ∧
          admits options.strict options.autocomplete text = true := by
  induction items generalizing start with
  | nil => cases h
  | cons item items ih =>
      cases item with
      | string text =>
          unfold checkMembers at h
          split at h
          · rename_i hadmits
            rcases ih h with hroot | ⟨index, item, inner, hitem, hinner, he, hclear⟩
            · exact .inl hroot
            · refine .inr ⟨index + 1, item, inner, hitem, hinner, ?_, ?_⟩
              · rw [he, Nat.add_assoc, Nat.add_comm 1]
              · rw [List.take_succ_cons, List.forall_mem_cons]
                exact ⟨⟨text, rfl, hadmits⟩, hclear⟩
          · exact .inl (path_of_refuse h)
      | _ =>
          cases h
          exact .inr ⟨0, _, ⟨[], .notAString⟩, rfl, rfl, rfl, List.forall_mem_nil _⟩

theorem checkElements_eq_error {check : Value → Outcome} {items : List Value} {start : Nat}
    (h : checkElements check start items = .error e) :
    ∃ index item inner, items[index]? = some item ∧ check item = .error inner ∧
      e = ⟨.index (start + index) :: inner.path, inner.violation⟩ ∧
      ∀ earlier ∈ items.take index, check earlier = .ok () := by
  induction items generalizing start with
  | nil => cases h
  | cons item items ih =>
      rw [checkElements] at h
      rcases bind_eq_error h with h | ⟨hvalid, h⟩
      · obtain ⟨inner, hinner, he⟩ := within_eq_error h
        exact ⟨0, item, inner, rfl, hinner, he, List.forall_mem_nil _⟩
      · obtain ⟨index, item', inner, hitem, hinner, he, hclear⟩ := ih h
        refine ⟨index + 1, item', inner, hitem, hinner, ?_, ?_⟩
        · rw [he, Nat.add_assoc, Nat.add_comm 1]
        · rw [List.take_succ_cons, List.forall_mem_cons]
          exact ⟨within_eq_ok.mp hvalid, hclear⟩

/-- The outcome of the member of an object under a field's key. -/
def checkField (aspects : AspectSet) (members : List (String × Value)) (field : String × Schema) :
    Outcome :=
  match Entries.find? field.1 members with
  | none => if field.2.required then refuse (.missingKey field.1) else .ok ()
  | some value => within (.key field.1) (check aspects field.2 value)

section Fields

variable {members : List (String × Value)} {field : String × Schema} {fields : List (String × Schema)}

theorem checkFields_cons :
    checkFields aspects members (field :: fields) =
      checkField aspects members field >>= fun _ => checkFields aspects members fields := by
  rw [checkFields, checkField]
  cases Entries.find? field.1 members with
  | none => cases field.2.required <;> rfl
  | some value => rfl

theorem checkField_eq_ok : checkField aspects members field = .ok () ↔
    FieldHolds aspects members field := by
  unfold checkField FieldHolds
  cases Entries.find? field.1 members with
  | none => cases field.2.required <;> simp
  | some value => exact within_eq_ok

theorem checkField_eq_error (h : checkField aspects members field = .error e) :
    e.path = [] ∧ field.2.required = true ∧ Entries.find? field.1 members = none ∨
      ∃ part inner, Entries.find? field.1 members = some part ∧
        check aspects field.2 part = .error inner ∧
        e = ⟨.key field.1 :: inner.path, inner.violation⟩ := by
  unfold checkField at h
  cases hmember : Entries.find? field.1 members with
  | none =>
      rw [hmember] at h
      dsimp only at h
      split at h
      · rename_i hrequired
        exact .inl ⟨path_of_refuse h, hrequired, rfl⟩
      · cases h
  | some part =>
      rw [hmember] at h
      obtain ⟨inner, hinner, he⟩ := within_eq_error h
      exact .inr ⟨part, inner, rfl, hinner, he⟩

/-- The members of an object are refused for a key that is needed and missing, or for the first declared
field whose value is not valid. -/
theorem checkFields_eq_error (h : checkFields aspects members fields = .error e) :
    (e.path = [] ∧ ∃ field ∈ fields, field.2.required = true ∧ Entries.find? field.1 members = none) ∨
      ∃ before field after part inner, fields = before ++ field :: after ∧
        Entries.find? field.1 members = some part ∧ check aspects field.2 part = .error inner ∧
        e = ⟨.key field.1 :: inner.path, inner.violation⟩ ∧
        ∀ earlier ∈ before, FieldHolds aspects members earlier := by
  induction fields with
  | nil => cases h
  | cons field fields ih =>
      rw [checkFields_cons] at h
      rcases bind_eq_error h with h | ⟨hvalid, h⟩
      · rcases checkField_eq_error h with ⟨hroot, hmissing⟩ | ⟨part, inner, hpart, hinner, he⟩
        · exact .inl ⟨hroot, field, .head _, hmissing⟩
        · exact .inr ⟨[], field, fields, part, inner, rfl, hpart, hinner, he, nofun⟩
      · rcases ih h with ⟨hroot, other, hother, hmissing⟩ |
          ⟨before, other, after, part, inner, rfl, hpart, hinner, he, hclear⟩
        · exact .inl ⟨hroot, other, .tail _ hother, hmissing⟩
        · refine .inr ⟨field :: before, other, after, part, inner, rfl, hpart, hinner, he, ?_⟩
          exact List.forall_mem_cons.mpr ⟨checkField_eq_ok.mp hvalid, hclear⟩

/-- Among fields with pairwise different keys, the schema under a key is found, and the fields in front of
the key are those declared before it. -/
theorem find?_of_distinct {before after : List (String × Schema)}
    (h : ((before ++ field :: after).map (·.1)).Nodup) :
    Entries.find? field.1 (before ++ field :: after) = some field.2 ∧
      (before ++ field :: after).takeWhile (·.1 ≠ field.1) = before := by
  rw [List.map_append, List.map_cons, List.nodup_append] at h
  have hbefore : ∀ earlier ∈ before, earlier.1 ≠ field.1 := by
    intro earlier hearlier
    exact h.2.2 _ (List.mem_map_of_mem hearlier) _ (.head _)
  constructor
  · have hnone : Entries.find? field.1 before = none := by
      rw [Entries.find?_eq_none_iff]
      intro hmem
      obtain ⟨earlier, hearlier, hkey⟩ := List.mem_map.mp hmem
      exact hbefore earlier hearlier hkey
    unfold Entries.find? at hnone ⊢
    rw [List.lookup_append, hnone, Option.none_or, List.lookup_cons_self]
  · rw [List.takeWhile_append_of_pos (by simpa using hbefore)]
    simp

end Fields

/-! ## One step -/

theorem meets_of_check (h : place.check aspects = .ok ()) : place.Meets aspects := by
  cases place with
  | member value =>
      cases value with
      | string text => exact ⟨text, rfl⟩
      | _ => cases h
  | field s value =>
      change check aspects s value = .ok () at h
      cases s with
      | string => exact check_string.mp h
      | stringSet => exact check_stringSet.mp h
      | integer => exact check_integer.mp h
      | boolean => exact check_boolean.mp h
      | aspectMap => exact check_aspectMap.mp h
      | object label fields =>
          rcases check_object.mp h with habsent | ⟨members, hvalue, hfields⟩
          · exact .inl habsent
          · refine .inr ⟨members, hvalue, fun field hfield hrequired hnone => ?_⟩
            have hholds := hfields field hfield
            rw [FieldHolds, hnone, hrequired] at hholds
            cases hholds
      | array label element length =>
          rcases check_array.mp h with habsent | ⟨items, hvalue, hcount, _⟩
          · exact .inl habsent
          · exact .inr ⟨items, hvalue, hcount⟩

theorem check_of_step (h : place.check aspects = .ok ()) (hstep : place.step? first = some behind) :
    behind.check aspects = .ok () := by
  rcases Place.step?_cases hstep with ⟨_, _, _, _, _, _, rfl, rfl, hfield, hvalue, rfl⟩ |
    ⟨_, _, _, _, _, _, rfl, rfl, hitem, rfl⟩ | ⟨_, _, _, _, _, rfl, rfl, hitem, rfl⟩
  · rcases check_object.mp h with habsent | ⟨members, hmembers, hfields⟩
    · cases habsent.1
    · cases hmembers
      have hholds := hfields _ (Entries.mem_of_find? hfield)
      rw [FieldHolds, hvalue] at hholds
      exact hholds
  · rcases check_array.mp h with habsent | ⟨items, hitems, _, hvalid⟩
    · cases habsent.1
    · cases hitems
      exact hvalid _ (List.mem_of_getElem? hitem)
  · change check aspects (.stringSet _ _) _ = .ok () at h
    rcases check_stringSet.mp h with habsent | ⟨texts, htexts, _⟩
    · cases habsent.1
    · cases htexts
      obtain ⟨text, _, rfl⟩ := List.mem_map.mp (List.mem_of_getElem? hitem)
      rfl

/-- An error is about a place itself, which does not meet what is asked of it.  Or the place has a step to
another one, everything in front of that step is valid, and the error is the other place's. -/
def FailsAt (aspects : AspectSet) (place : Place) (e : Error) : Prop :=
  (e.path = [] ∧ ¬ place.Meets aspects) ∨
    ∃ step next inner, place.step? step = some next ∧ place.ClearBefore aspects step ∧
      next.check aspects = .error inner ∧ e = ⟨step :: inner.path, inner.violation⟩

/-- The error of a check that tells null from all other values first is as far in as that of the rest. -/
theorem path_of_nullFirst {rest : Outcome} (hrest : ∀ e, rest = .error e → e.path = [])
    (h : (if value.isNull then if s.required then refuse .undefined else .ok () else rest) = .error e) :
    e.path = [] := by
  split at h
  · split at h
    · exact path_of_refuse h
    · cases h
  · exact hrest e h

theorem not_hasForm_null : ¬ HasForm aspects .null s := by
  cases s <;> simp [HasForm, Value.safeInteger?]

theorem failsAt_null (h : check aspects s .null = .error e) : FailsAt aspects (.field s .null) e := by
  have hrequired : s.required = true := by
    cases hrequired : s.required with
    | true => rfl
    | false => cases h.symm.trans (check_null.mpr hrequired)
  refine .inl ⟨?_, ?_⟩
  · unfold check at h
    rw [hrequired] at h
    exact path_of_refuse h
  · rintro (habsent | hform)
    · cases hrequired.symm.trans habsent.2
    · exact not_hasForm_null hform

theorem failsAt_stringSet {options : StringSetOptions}
    (h : check aspects (.stringSet label options) value = .error e) :
    FailsAt aspects (.field (.stringSet label options) value) e := by
  have hmeets : ¬ (Place.field (.stringSet label options) value).Meets aspects := by
    intro hmeets
    cases h.symm.trans (check_stringSet.mpr hmeets)
  cases value with
  | null => exact failsAt_null h
  | array items =>
      rcases bind_eq_error h with h | ⟨_, h⟩
      · exact .inl ⟨path_of_checkCount h, hmeets⟩
      · rcases checkMembers_eq_error h with hroot | ⟨index, item, inner, hitem, hinner, he, hclear⟩
        · exact .inl ⟨hroot, hmeets⟩
        · rw [Nat.zero_add] at he
          refine .inr ⟨.index index, .member item, inner, ?_, hclear, hinner, he⟩
          rw [Place.step?, hitem, Option.map_some]
  | _ => exact .inl ⟨path_of_refuse h, hmeets⟩

theorem failsAt_object {fields : List (String × Schema)} (hkeys : (fields.map (·.1)).Nodup)
    (h : check aspects (.object label fields) value = .error e) :
    FailsAt aspects (.field (.object label fields) value) e := by
  cases value with
  | null => exact failsAt_null h
  | object members =>
      rcases checkFields_eq_error h with ⟨hroot, field, hfield, hrequired, hnone⟩ |
        ⟨before, field, after, part, inner, rfl, hpart, hinner, he, hclear⟩
      · refine .inl ⟨hroot, ?_⟩
        rintro (habsent | ⟨_, hmembers, hneeded⟩)
        · cases habsent.1
        · cases hmembers
          exact hneeded field hfield hrequired hnone
      · obtain ⟨hfind, hbefore⟩ := find?_of_distinct hkeys
        refine .inr ⟨.key field.1, .field field.2 part, inner, ?_, ?_, hinner, he⟩
        · rw [Place.step?, hfind, Option.bind_some, hpart, Option.map_some]
        · rw [Place.ClearBefore, hbefore]
          exact hclear
  | _ =>
      refine .inl ⟨path_of_refuse h, ?_⟩
      rintro (habsent | ⟨_, hmembers, _⟩)
      · cases habsent.1
      · cases hmembers

theorem failsAt_array {element : Schema} {length : CountBounds}
    (h : check aspects (.array label element length) value = .error e) :
    FailsAt aspects (.field (.array label element length) value) e := by
  cases value with
  | null => exact failsAt_null h
  | array items =>
      rcases bind_eq_error h with h | ⟨_, h⟩
      · refine .inl ⟨path_of_checkCount h, ?_⟩
        rintro (habsent | ⟨_, hitems, hcount⟩)
        · cases habsent.1
        · cases hitems
          cases h.symm.trans (checkCount_eq_ok.mpr hcount)
      · obtain ⟨index, item, inner, hitem, hinner, he, hclear⟩ := checkElements_eq_error h
        rw [Nat.zero_add] at he
        refine .inr ⟨.index index, .field element item, inner, ?_, hclear, hinner, he⟩
        rw [Place.step?, hitem, Option.map_some]
  | _ =>
      refine .inl ⟨path_of_refuse h, ?_⟩
      rintro (habsent | ⟨_, hitems, _⟩)
      · cases habsent.1
      · cases hitems

/-- Every error of a place is about the place itself or about one behind a single step. -/
theorem failsAt_of_check (hkeys : place.DistinctKeys) (h : place.check aspects = .error e) :
    FailsAt aspects place e := by
  cases place with
  | member value =>
      cases value with
      | string => cases h
      | _ =>
          refine .inl ⟨path_of_refuse h, ?_⟩
          rintro ⟨text, htext⟩
          cases htext
  | field s value =>
      change check aspects s value = .error e at h
      have hinvalid : check aspects s value ≠ .ok () := fun hok => nomatch h.symm.trans hok
      cases s with
      | stringSet => exact failsAt_stringSet h
      | object => exact failsAt_object (Schema.everywhere_object.mp hkeys).1 h
      | array => exact failsAt_array h
      | string label options =>
          refine .inl ⟨?_, mt check_string.mpr hinvalid⟩
          unfold check at h
          exact path_of_nullFirst (fun _ => path_of_checkString) h
      | integer label options =>
          refine .inl ⟨?_, mt check_integer.mpr hinvalid⟩
          unfold check at h
          exact path_of_nullFirst (fun _ => path_of_checkInteger) h
      | boolean label default =>
          refine .inl ⟨?_, mt check_boolean.mpr hinvalid⟩
          unfold check at h
          exact path_of_nullFirst (fun _ => path_of_checkBoolean) h
      | aspectMap label keys =>
          refine .inl ⟨?_, mt check_aspectMap.mpr hinvalid⟩
          unfold check at h
          exact path_of_nullFirst (fun _ => path_of_checkAspectMap) h

/-! ## Whole paths -/

/-- A path down from a place, with everything valid that the places on it have in front of its steps. -/
inductive ClearWay (aspects : AspectSet) : Place → List Step → Place → Prop
  | here (place : Place) : ClearWay aspects place [] place
  | step {place next target : Place} {step : Step} {path : List Step}
      (hstep : place.step? step = some next) (hclear : place.ClearBefore aspects step)
      (inner : ClearWay aspects next path target) : ClearWay aspects place (step :: path) target

variable {target : Place}

theorem ClearWay.follow?_eq (h : ClearWay aspects place path target) :
    place.follow? path = some target := by
  induction h with
  | here => rfl
  | step hstep _ _ ih => rw [Place.follow?, hstep, Option.bind_some, ih]

/-- Every step of a clear path is taken from a place that is clear in front of it. -/
theorem ClearWay.exists_clearBefore {before after : List Step} {step : Step}
    (h : ClearWay aspects place (before ++ step :: after) target) :
    ∃ middle, place.follow? before = some middle ∧ middle.ClearBefore aspects step := by
  induction before generalizing place with
  | nil =>
      cases h with
      | step _ hclear _ => exact ⟨place, rfl, hclear⟩
  | cons first before ih =>
      cases h with
      | step hstep _ inner =>
          obtain ⟨middle, hfollow, hclear⟩ := ih inner
          exact ⟨middle, by rw [Place.follow?, hstep, Option.bind_some, hfollow], hclear⟩

/-- The path of an error is clear, and leads to a place that fails on its own with the error's violation and
does not meet what is asked of it. -/
theorem exists_clearWay (hkeys : place.DistinctKeys)
    (h : place.check aspects = .error ⟨path, violation⟩) :
    ∃ target, ClearWay aspects place path target ∧ target.check aspects = refuse violation ∧
      ¬ target.Meets aspects := by
  induction path generalizing place with
  | nil =>
      rcases failsAt_of_check hkeys h with ⟨_, hmeets⟩ | ⟨step, next, inner, _, _, _, he⟩
      · exact ⟨place, .here place, h, hmeets⟩
      · cases he
  | cons step path ih =>
      rcases failsAt_of_check hkeys h with ⟨hroot, _⟩ | ⟨step', next, inner, hstep, hclear, hinner, he⟩
      · cases hroot
      · cases he
        obtain ⟨target, hway, hcheck, hmeets⟩ := ih (hkeys.step hstep) hinner
        exact ⟨target, .step hstep hclear hway, hcheck, hmeets⟩

theorem check_of_follow? (h : place.check aspects = .ok ()) (hfollow : place.follow? path = some target) :
    target.check aspects = .ok () := by
  induction path generalizing place with
  | nil =>
      cases hfollow
      exact h
  | cons step path ih =>
      obtain ⟨next, hstep, hrest⟩ := Option.bind_eq_some_iff.mp hfollow
      exact ih (check_of_step h hstep) hrest

/-- A value is valid exactly when every place of it meets what is asked of that place.  An error of a value
has the path to a place that fails on its own, with the error's violation and no path; and at each step of
the path, all that stands in front of the step is valid. -/
theorem validate_tells_first_invalid_place (hkeys : s.Everywhere Schema.DistinctKeys) (value : Value)
    (aspects : AspectSet) :
    (validate value s aspects = .ok () ↔
      ∀ path place, (Place.field s value).follow? path = some place → place.Meets aspects) ∧
    ∀ path violation, validate value s aspects = .error ⟨path, violation⟩ →
      (∃ place, (Place.field s value).follow? path = some place ∧
        place.check aspects = .error ⟨[], violation⟩) ∧
      ∀ before step after, path = before ++ step :: after →
        ∃ place, (Place.field s value).follow? before = some place ∧ place.ClearBefore aspects step := by
  have hplace : (Place.field s value).DistinctKeys := hkeys
  refine ⟨⟨fun h path place hfollow => ?_, fun hmeets => ?_⟩, fun path violation h => ?_⟩
  · have hvalid : (Place.field s value).check aspects = .ok () := h
    exact meets_of_check (check_of_follow? hvalid hfollow)
  · cases h : validate value s aspects with
    | ok => rfl
    | error e =>
        obtain ⟨target, hway, _, hnot⟩ := exists_clearWay hplace h
        exact absurd (hmeets _ target hway.follow?_eq) hnot
  · obtain ⟨target, hway, hcheck, _⟩ := exists_clearWay hplace h
    refine ⟨⟨target, hway.follow?_eq, hcheck⟩, ?_⟩
    rintro before step after rfl
    exact hway.exists_clearBefore

/-- Levels within bounds, and titles that may be left out. -/
def levelsSchema : Schema :=
  .object ⟨"hero", true⟩
    [("titles", .stringSet ⟨"titles", false⟩ {}),
      ("levels", .array ⟨"levels", true⟩ (.integer ⟨"level", true⟩ { min := some 1, max := some 99 })
        {})]

/-- Two levels, the second of which is too high. -/
def levelsValue : Value :=
  .object [("levels", .array [.number (.ofInt64 10), .number (.ofInt64 150)])]

theorem validate_tells_first_invalid_place_levels :
    levelsSchema.Everywhere Schema.DistinctKeys ∧
      validate levelsValue levelsSchema .empty = .error ⟨[.key "levels", .index 1], .aboveMax⟩ ∧
      (∃ place, (Place.field levelsSchema levelsValue).follow? [.key "levels", .index 1] = some place ∧
        place.check .empty = .error ⟨[], .aboveMax⟩) ∧
      ∃ place, (Place.field levelsSchema levelsValue).follow? [.key "levels"] = some place ∧
        place.ClearBefore .empty (.index 1) := by
  have hkeys : levelsSchema.Everywhere Schema.DistinctKeys := by
    simp [levelsSchema, Schema.Everywhere, Schema.EverywhereIn, Schema.DistinctKeys]
  have herror : validate levelsValue levelsSchema .empty =
      .error ⟨[.key "levels", .index 1], .aboveMax⟩ := rfl
  obtain ⟨hplace, hclear⟩ :=
    (validate_tells_first_invalid_place hkeys levelsValue .empty).2 _ _ herror
  exact ⟨hkeys, herror, hplace, hclear [.key "levels"] (.index 1) [] rfl⟩

end CommandForms.Validation
