/-!
# Rests of texts

A reader answers the rest of the text that it was given.  How long the rest is bounds every loop; these
are the comparisons that come up.
-/

namespace CommandForms.Text

variable {α : Type} {a : α} {k l m : List α}

theorem length_le_self (l : List α) : l.length ≤ l.length :=
  Nat.le_refl _

theorem length_le_cons (a : α) (l : List α) : l.length ≤ (a :: l).length :=
  Nat.le_succ _

theorem length_lt_cons (a : α) (l : List α) : l.length < (a :: l).length :=
  Nat.lt_succ_self _

theorem length_lt_cons_of_le (h : k.length ≤ l.length) : k.length < (a :: l).length :=
  Nat.lt_succ_of_le h

theorem length_lt_of_le_of_lt (h : k.length ≤ l.length) (h' : l.length < m.length) :
    k.length < m.length :=
  Nat.lt_of_le_of_lt h h'

theorem length_lt_of_cons_le (h : (a :: k).length ≤ l.length) : k.length < l.length :=
  h

theorem length_drop_lt_cons (n : Nat) (a : α) (l : List α) : (l.drop n).length < (a :: l).length :=
  length_lt_cons_of_le (List.drop_sublist n l).length_le

end CommandForms.Text
