import CommandForms.Json.Value
import CommandForms.Schema.Delimiters
import CommandForms.Validation.Check

/-!
# Parts of values and schemas

The values inside a value, the schemas inside a schema, and the positions at which a part of a schema
governs a part of a value.  Properties of schemas that concern every part are stated here once.
-/

namespace CommandForms

open CommandForms.Json (Value)

/-! ## Parts of values -/

namespace Json.Value

/-- A value occurs in another one, at its root or below. -/
inductive Within : Value → Value → Prop where
  | root (value : Value) : Within value value
  | item {part item : Value} {items : List Value} (hitem : item ∈ items)
      (inner : Within part item) : Within part (.array items)
  | member {part value : Value} {key : String} {members : List (String × Value)}
      (hmember : (key, value) ∈ members) (inner : Within part value) :
      Within part (.object members)

end Json.Value

namespace Schema

/-! ## Parts of schemas -/

@[elab_as_elim]
theorem induction {motive : Schema → Prop}
    (string : ∀ label options, motive (.string label options))
    (stringSet : ∀ label options, motive (.stringSet label options))
    (integer : ∀ label options, motive (.integer label options))
    (boolean : ∀ label default, motive (.boolean label default))
    (aspectMap : ∀ label keys, motive (.aspectMap label keys))
    (object : ∀ label fields, (∀ field ∈ fields, motive field.2) → motive (.object label fields))
    (array : ∀ label element length, motive element → motive (.array label element length))
    (s : Schema) : motive s :=
  @Schema.rec motive (fun fields => ∀ field ∈ fields, motive field.2) (fun field => motive field.2)
    string stringSet integer boolean aspectMap object array
    (fun _ hmem => nomatch hmem)
    (fun _ _ hhead htail field hmem => by
      rcases List.mem_cons.mp hmem with rfl | hmem
      · exact hhead
      · exact htail field hmem)
    (fun _ _ hschema => hschema) s

mutual

/-- A property holds of a schema and of every schema inside it. -/
def Everywhere (p : Schema → Prop) : Schema → Prop
  | .object label fields => p (.object label fields) ∧ EverywhereIn p fields
  | .array label element length => p (.array label element length) ∧ element.Everywhere p
  | s => p s

/-- A property holds of the schemas of fields and of every schema inside them. -/
def EverywhereIn (p : Schema → Prop) : List (String × Schema) → Prop
  | [] => True
  | (_, schema) :: fields => schema.Everywhere p ∧ EverywhereIn p fields

end

theorem everywhereIn_iff {p : Schema → Prop} {fields : List (String × Schema)} :
    EverywhereIn p fields ↔ ∀ field ∈ fields, field.2.Everywhere p := by
  induction fields with
  | nil => simp [EverywhereIn]
  | cons field fields ih => simp [EverywhereIn, ih]

theorem everywhere_object {p : Schema → Prop} {label : Label} {fields : List (String × Schema)} :
    (Schema.object label fields).Everywhere p ↔
      p (.object label fields) ∧ ∀ field ∈ fields, field.2.Everywhere p := by
  rw [Everywhere, everywhereIn_iff]

theorem Everywhere.root {p : Schema → Prop} {s : Schema} (h : s.Everywhere p) : p s := by
  cases s with
  | object | array => exact h.1
  | _ => exact h

/-- The keys of an object schema are pairwise different. -/
def DistinctKeys : Schema → Prop
  | .object _ fields => (fields.map (·.1)).Nodup
  | _ => True

/-- The default of a schema, when it declares one, is a value of its own kind and within its own bounds.
A set may still have fewer members than it needs in the end. -/
def DefaultFits : Schema → Prop
  | .string _ options =>
      ∀ text ∈ options.default, Validation.admits options.strict options.autocomplete text
  | .stringSet _ options =>
      ∀ members ∈ options.default, (∀ most ∈ options.count.max, members.length ≤ most.toNat) ∧
        ∀ text ∈ members, Validation.admits options.strict options.autocomplete text
  | .integer _ options =>
      ∀ n ∈ options.default, n.toInt.natAbs ≤ Value.maxSafeInteger ∧ options.contains n.toInt
  | _ => True

/-! ## Delimiters of the parts -/

theorem checkFieldDelimiters_eq_ok {fields : List (String × Schema)} :
    checkFieldDelimiters fields = .ok () ↔
      ∀ field ∈ fields, field.2.checkDelimiters = .ok () := by
  induction fields with
  | nil => simp [checkFieldDelimiters]
  | cons field fields ih =>
      obtain ⟨key, schema⟩ := field
      simp only [checkFieldDelimiters, List.mem_cons, forall_eq_or_imp, ← ih]
      cases schema.checkDelimiters with
      | error e => simp [bind, Except.bind]
      | ok => simp [bind, Except.bind]

/-! ## Positions -/

/-- At a position of a value, reached through declared keys and through elements of lists, a schema inside
the value's schema governs a value inside the value. -/
inductive Governs : Schema → Value → Schema → Value → Prop where
  | root (s : Schema) (value : Value) : Governs s value s value
  | member {label : Label} {fields : List (String × Schema)} {members : List (String × Value)}
      {key : String} {schema s : Schema} {part value : Value}
      (hfield : (key, schema) ∈ fields) (hmember : (key, part) ∈ members)
      (inner : Governs schema part s value) :
      Governs (.object label fields) (.object members) s value
  | item {label : Label} {element s : Schema} {length : CountBounds} {items : List Value}
      {item value : Value} (hitem : item ∈ items) (inner : Governs element item s value) :
      Governs (.array label element length) (.array items) s value

end Schema

end CommandForms
