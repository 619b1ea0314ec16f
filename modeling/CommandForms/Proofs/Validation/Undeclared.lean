import CommandForms.Proofs.Validation.Places

/-!
# Undeclared members

The members of a value that the object schemas governing it do not declare.  The validation reads an object
only through the keys of its schema, so that such members, wherever they are, have no part in its outcome.
The keys of an aspect map are not declared by a schema, and all of them count.
-/

namespace CommandForms

open CommandForms.Json (Value)

/-! ## The declared part of a value -/

namespace Schema

mutual

/-- A value without the members that are not declared, at every position that an object schema governs. -/
def declaredPart : Schema → Value → Value
  | .object _ fields, .object members => .object (declaredMembers fields members)
  | .array _ element _, .array items => .array (declaredItems element items)
  | _, value => value

/-- The members under the keys of fields, each with its declared part. -/
def declaredMembers (fields : List (String × Schema)) :
    List (String × Value) → List (String × Value)
  | [] => []
  | (key, value) :: members =>
      match Entries.find? key fields with
      | none => declaredMembers fields members
      | some schema => (key, schema.declaredPart value) :: declaredMembers fields members

/-- The declared parts of the elements of a list. -/
def declaredItems (element : Schema) : List Value → List Value
  | [] => []
  | item :: items => element.declaredPart item :: declaredItems element items

end

variable {label : Label} {fields : List (String × Schema)} {members : List (String × Value)}
  {s element part : Schema} {value inside : Value} {items : List Value} {key : String}

theorem declaredPart_aspectMap {keys : CountBounds} :
    (aspectMap label keys).declaredPart value = value := by
  cases value <;> rfl

theorem declaredItems_eq : declaredItems element items = items.map element.declaredPart := by
  induction items with
  | nil => rw [declaredItems, List.map_nil]
  | cons item items ih => rw [declaredItems, ih, List.map_cons]

theorem find?_declaredMembers :
    Entries.find? key (declaredMembers fields members) =
      (Entries.find? key fields).bind fun schema =>
        (Entries.find? key members).map schema.declaredPart := by
  induction members with
  | nil =>
      rw [declaredMembers]
      cases Entries.find? key fields <;> rfl
  | cons member members ih =>
      obtain ⟨k, value⟩ := member
      rw [declaredMembers, Entries.find?_cons]
      by_cases heq : key = k
      · subst heq
        cases hfield : Entries.find? key fields with
        | none =>
            rw [ih, hfield]
            rfl
        | some schema =>
            dsimp only
            rw [Entries.find?_cons, if_pos rfl, if_pos rfl]
            rfl
      · rw [if_neg heq, ← ih]
        cases Entries.find? k fields with
        | none => rfl
        | some schema =>
            dsimp only
            rw [Entries.find?_cons, if_neg heq]

theorem declaredMembers_eq :
    declaredMembers fields members = members.filterMap fun member =>
      (Entries.find? member.1 fields).map fun schema => (member.1, schema.declaredPart member.2) := by
  induction members with
  | nil => rw [declaredMembers, List.filterMap_nil]
  | cons member members ih =>
      rw [declaredMembers, List.filterMap_cons, ← ih]
      cases Entries.find? member.1 fields <;> rfl

theorem mem_declaredMembers {found : Value} :
    (key, found) ∈ declaredMembers fields members ↔
      ∃ value schema, (key, value) ∈ members ∧ Entries.find? key fields = some schema ∧
        schema.declaredPart value = found := by
  rw [declaredMembers_eq, List.mem_filterMap]
  constructor
  · rintro ⟨⟨k, value⟩, hmem, hfound⟩
    obtain ⟨schema, hfield, heq⟩ := Option.map_eq_some_iff.mp hfound
    cases heq
    exact ⟨value, schema, hmem, hfield, rfl⟩
  · rintro ⟨value, schema, hmem, hfield, rfl⟩
    exact ⟨(key, value), hmem, Option.map_eq_some_iff.mpr ⟨schema, hfield, rfl⟩⟩

/-! ## The positions of the declared part -/

theorem find?_of_mem {schema : Schema} (hkeys : (fields.map (·.1)).Nodup)
    (hfield : (key, schema) ∈ fields) : Entries.find? key fields = some schema := by
  obtain ⟨before, after, rfl⟩ := List.append_of_mem hfield
  exact (Validation.find?_of_distinct hkeys).1

/-- The declared part has the same positions as the value, with the declared part of what is there. -/
theorem governs_declaredPart (hkeys : s.Everywhere DistinctKeys) :
    s.Governs (s.declaredPart value) part inside ↔
      ∃ original, s.Governs value part original ∧ part.declaredPart original = inside := by
  constructor
  · intro h
    -- The way down through the declared part is one through the value, which is taken apart along with it.
    generalize hwhole : s.declaredPart value = whole at h
    induction h generalizing value with
    | root s whole => exact ⟨value, .root s value, hwhole⟩
    | @member label fields members key schema part found inside hfield hmember _ ih =>
        obtain ⟨hdistinct, hinner⟩ := everywhere_object.mp hkeys
        cases value with
        | object members =>
            rw [declaredPart] at hwhole
            cases hwhole
            obtain ⟨value, schema', hmem, hfind, hfound⟩ := mem_declaredMembers.mp hmember
            cases hfind.symm.trans (find?_of_mem hdistinct hfield)
            obtain ⟨original, hgoverns, horiginal⟩ := ih (hinner _ hfield) hfound
            exact ⟨original, .member hfield hmem hgoverns, horiginal⟩
        | _ => cases hwhole
    | @item label element part length items found inside hitem _ ih =>
        cases value with
        | array items =>
            rw [declaredPart, declaredItems_eq] at hwhole
            cases hwhole
            obtain ⟨item, hmem, hfound⟩ := List.mem_map.mp hitem
            obtain ⟨original, hgoverns, horiginal⟩ := ih hkeys.2 hfound
            exact ⟨original, .item hmem hgoverns, horiginal⟩
        | _ => cases hwhole
  · rintro ⟨original, h, rfl⟩
    induction h with
    | root s value => exact .root s _
    | @member label fields members key schema part found original hfield hmember _ ih =>
        obtain ⟨hdistinct, hinner⟩ := everywhere_object.mp hkeys
        rw [declaredPart]
        refine .member hfield (mem_declaredMembers.mpr ?_) (ih (hinner _ hfield))
        exact ⟨found, schema, hmember, find?_of_mem hdistinct hfield, rfl⟩
    | @item label element part length items found original hitem _ ih =>
        rw [declaredPart, declaredItems_eq]
        exact .item (List.mem_map_of_mem hitem) (ih hkeys.2)

end Schema

/-! ## The check of the declared part -/

namespace Validation

variable {aspects : AspectSet} {label : Label} {s : Schema} {value : Value}
  {fields : List (String × Schema)} {members others : List (String × Value)}

theorem checkFields_congr
    (h : ∀ field ∈ fields, checkField aspects members field = checkField aspects others field) :
    checkFields aspects members fields = checkFields aspects others fields := by
  induction fields with
  | nil => rfl
  | cons field fields ih =>
      obtain ⟨hfirst, hrest⟩ := List.forall_mem_cons.mp h
      rw [checkFields_cons, checkFields_cons, hfirst, ih hrest]

theorem checkElements_map {check : Value → Outcome} {f : Value → Value}
    (h : ∀ item, check (f item) = check item) (index : Nat) (items : List Value) :
    checkElements check index (items.map f) = checkElements check index items := by
  induction items generalizing index with
  | nil => rfl
  | cons item items ih => rw [List.map_cons, checkElements, checkElements, h, ih]

theorem check_items {element : Schema} {length : CountBounds} {items : List Value} :
    check aspects (.array label element length) (.array items) =
      checkCount length items.length >>= fun _ => checkElements (check aspects element) 0 items := rfl

/-- A field is checked alike in the declared part of an object, when that is so of its own values. -/
theorem checkField_declaredMembers {field : String × Schema}
    (hfind : Entries.find? field.1 fields = some field.2)
    (h : ∀ value, check aspects field.2 (field.2.declaredPart value) = check aspects field.2 value) :
    checkField aspects (Schema.declaredMembers fields members) field =
      checkField aspects members field := by
  unfold checkField
  rw [Schema.find?_declaredMembers, hfind, Option.bind_some]
  cases Entries.find? field.1 members with
  | none => rfl
  | some value =>
      rw [Option.map_some]
      dsimp only
      rw [h]

theorem check_declaredPart (hkeys : s.Everywhere Schema.DistinctKeys) (value : Value) :
    check aspects s (s.declaredPart value) = check aspects s value := by
  induction s using Schema.induction generalizing value with
  | object label fields ih =>
      obtain ⟨hdistinct, hinner⟩ := Schema.everywhere_object.mp hkeys
      cases value with
      | object members =>
          refine checkFields_congr fun field hfield => ?_
          exact checkField_declaredMembers (Schema.find?_of_mem hdistinct hfield)
            (ih field hfield (hinner field hfield))
      | _ => rfl
  | array label element length ih =>
      cases value with
      | array items =>
          rw [Schema.declaredPart, Schema.declaredItems_eq, check_items, check_items, List.length_map,
            checkElements_map (ih hkeys.2)]
      | _ => rfl
  | _ => cases value <;> rfl

/-- Members that are not declared are invisible to the validation.  Two values with the same declared part
have the same outcome, the path and the violation of an error included.  The declared part has no member that
is not declared, at any position that an object schema governs; and it has all aspect maps of the value, at
the positions that their schemas govern, with all their keys. -/
theorem undeclared_members_are_invisible (hkeys : s.Everywhere Schema.DistinctKeys)
    (aspects : AspectSet) :
    (∀ value other, s.declaredPart value = s.declaredPart other →
      validate value s aspects = validate other s aspects) ∧
    (∀ value label fields members,
      s.Governs (s.declaredPart value) (.object label fields) (.object members) →
      ∀ key ∈ members.map (·.1), key ∈ fields.map (·.1)) ∧
    ∀ value label keys inside, s.Governs value (.aspectMap label keys) inside →
      s.Governs (s.declaredPart value) (.aspectMap label keys) inside := by
  refine ⟨fun value other hsame => ?_, fun value label fields members h => ?_,
    fun value label keys inside h => ?_⟩
  · change check aspects s value = check aspects s other
    rw [← check_declaredPart hkeys value, hsame, check_declaredPart hkeys other]
  · obtain ⟨original, _, hpart⟩ := (Schema.governs_declaredPart hkeys).mp h
    cases original with
    | object originals =>
        rw [Schema.declaredPart] at hpart
        cases hpart
        rintro key hkey
        obtain ⟨⟨_, found⟩, hmember, rfl⟩ := List.mem_map.mp hkey
        obtain ⟨_, schema, _, hfind, _⟩ := Schema.mem_declaredMembers.mp hmember
        exact List.mem_map_of_mem (Entries.mem_of_find? hfind)
    | _ => cases hpart
  · exact (Schema.governs_declaredPart hkeys).mpr ⟨inside, h, Schema.declaredPart_aspectMap⟩

/-- Heroes of a party, each with the levels of skills. -/
def partySchema : Schema :=
  .object ⟨"party", true⟩
    [("heroes", .array ⟨"heroes", true⟩
      (.object ⟨"hero", true⟩
        [("name", .string ⟨"name", true⟩ {}), ("levels", .aspectMap ⟨"levels", true⟩ {})]) {})]

/-- A party of one hero with a level that is no integer; the party and the hero have further members. -/
def partyOf (extra : List (String × Value)) : Value :=
  .object (extra ++ [("heroes", .array
    [.object (extra ++ [("levels", .object [("forge", .null)]), ("name", .string "Ana")])])])

theorem undeclared_members_are_invisible_party :
    partySchema.Everywhere Schema.DistinctKeys ∧
      partySchema.declaredPart (partyOf [("age", .null), ("forge", .bool true)]) =
        partySchema.declaredPart (partyOf []) ∧
      validate (partyOf [("age", .null), ("forge", .bool true)]) partySchema (.ofList ["forge"]) =
        validate (partyOf []) partySchema (.ofList ["forge"]) ∧
      validate (partyOf []) partySchema (.ofList ["forge"]) =
        .error ⟨[.key "heroes", .index 0, .key "levels"], .aspectNotInteger "forge"⟩ := by
  have hkeys : partySchema.Everywhere Schema.DistinctKeys := by
    simp [partySchema, Schema.Everywhere, Schema.EverywhereIn, Schema.DistinctKeys]
  have hsame : partySchema.declaredPart (partyOf [("age", .null), ("forge", .bool true)]) =
      partySchema.declaredPart (partyOf []) := rfl
  exact ⟨hkeys, hsame, (undeclared_members_are_invisible hkeys _).1 _ _ hsame, rfl⟩

end Validation

end CommandForms
