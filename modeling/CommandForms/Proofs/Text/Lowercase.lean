import CommandForms.Text.Lowercase

/-!
# Lower case and prefixes

Only a capital sigma looks at what follows it.  Without one, the lower case of a front of a text is a front of
the text's lower case.
-/

namespace CommandForms.Text

variable {a b : List Char}

theorem lowerAfter_append (h : 'Σ' ∉ a) (before : List Char) :
    lowerAfter before (a ++ b) = a.flatMap lowerChar ++ lowerAfter (a.reverse ++ before) b := by
  induction a generalizing before with
  | nil => rfl
  | cons c a ih =>
      rw [List.mem_cons, not_or] at h
      rw [List.cons_append, lowerAfter, if_neg (Ne.symm h.1), ih h.2, List.flatMap_cons,
        List.append_assoc, List.reverse_cons, List.append_assoc, List.singleton_append]

theorem lowerChars_append (ha : 'Σ' ∉ a) (hb : 'Σ' ∉ b) :
    lowerChars (a ++ b) = lowerChars a ++ lowerChars b := by
  unfold lowerChars
  rw [lowerAfter_append ha, lowerAfter_eq_flatMap ha, lowerAfter_eq_flatMap hb, lowerAfter_eq_flatMap hb]

theorem lowerChars_prefix (h : 'Σ' ∉ a) (hfront : a <+: b) : lowerChars a <+: lowerChars b := by
  obtain ⟨rest, rfl⟩ := hfront
  unfold lowerChars
  rw [lowerAfter_append h, lowerAfter_eq_flatMap h]
  exact List.prefix_append _ _

end CommandForms.Text
