import CommandForms.Json.Value

/-!
# Equality of JSON values

Equality of values is decidable.
-/

namespace CommandForms.Json.Value

mutual

def same : Value → Value → Bool
  | .null, .null => true
  | .bool b, .bool b' => b == b'
  | .number n, .number n' => n == n'
  | .string s, .string s' => s == s'
  | .array items, .array items' => sameItems items items'
  | .object members, .object members' => sameMembers members members'
  | _, _ => false

def sameItems : List Value → List Value → Bool
  | [], [] => true
  | item :: items, item' :: items' => same item item' && sameItems items items'
  | _, _ => false

def sameMembers : List (String × Value) → List (String × Value) → Bool
  | [], [] => true
  | (key, value) :: members, (key', value') :: members' =>
      key == key' && same value value' && sameMembers members members'
  | _, _ => false

end

mutual

theorem same_iff : (a b : Value) → (same a b = true ↔ a = b)
  | .null, b => by cases b <;> simp [same]
  | .bool _, b => by cases b <;> simp [same]
  | .number _, b => by cases b <;> simp [same]
  | .string _, b => by cases b <;> simp [same]
  | .array items, b => by cases b <;> simp [same, sameItems_iff items]
  | .object members, b => by cases b <;> simp [same, sameMembers_iff members]

theorem sameItems_iff : (items items' : List Value) → (sameItems items items' = true ↔ items = items')
  | [], items' => by cases items' <;> simp [sameItems]
  | item :: items, items' => by
      cases items' <;> simp [sameItems, same_iff item, sameItems_iff items]

theorem sameMembers_iff :
    (members members' : List (String × Value)) →
      (sameMembers members members' = true ↔ members = members')
  | [], members' => by cases members' <;> simp [sameMembers]
  | (_, value) :: members, members' => by
      cases members' with
      | nil => simp [sameMembers]
      | cons member members' =>
          obtain ⟨key', value'⟩ := member
          simp [sameMembers, same_iff value, sameMembers_iff members, and_assoc]

end

instance : DecidableEq Value := fun a b => decidable_of_iff _ (same_iff a b)

end CommandForms.Json.Value
