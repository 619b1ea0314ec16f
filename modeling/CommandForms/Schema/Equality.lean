import CommandForms.Schema.Basic

/-!
# Equality of schemas

Equality of schemas is decidable.
-/

namespace CommandForms.Schema

mutual

def same : Schema → Schema → Bool
  | .string label options, .string label' options' => label == label' && options == options'
  | .stringSet label options, .stringSet label' options' => label == label' && options == options'
  | .integer label options, .integer label' options' => label == label' && options == options'
  | .boolean label default, .boolean label' default' => label == label' && default == default'
  | .aspectMap label keys, .aspectMap label' keys' => label == label' && keys == keys'
  | .object label fields, .object label' fields' => label == label' && sameFields fields fields'
  | .array label element length, .array label' element' length' =>
      label == label' && same element element' && length == length'
  | _, _ => false

def sameFields : List (String × Schema) → List (String × Schema) → Bool
  | [], [] => true
  | (key, schema) :: fields, (key', schema') :: fields' =>
      key == key' && same schema schema' && sameFields fields fields'
  | _, _ => false

end

mutual

theorem same_iff : (a b : Schema) → (same a b = true ↔ a = b)
  | .string .., b => by cases b <;> simp [same]
  | .stringSet .., b => by cases b <;> simp [same]
  | .integer .., b => by cases b <;> simp [same]
  | .boolean .., b => by cases b <;> simp [same]
  | .aspectMap .., b => by cases b <;> simp [same]
  | .object _ fields, b => by cases b <;> simp [same, sameFields_iff fields]
  | .array _ element _, b => by cases b <;> simp [same, same_iff element, and_assoc]

theorem sameFields_iff :
    (fields fields' : List (String × Schema)) → (sameFields fields fields' = true ↔ fields = fields')
  | [], fields' => by cases fields' <;> simp [sameFields]
  | (_, schema) :: fields, fields' => by
      cases fields' with
      | nil => simp [sameFields]
      | cons field fields' =>
          obtain ⟨key', schema'⟩ := field
          simp [sameFields, same_iff schema, sameFields_iff fields, and_assoc]

end

instance : DecidableEq Schema := fun a b => decidable_of_iff _ (same_iff a b)

end CommandForms.Schema
