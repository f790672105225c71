import Mathlib.Data.List.Infix

/-!
# Words that can be told apart

No word of a prefix-free code is the beginning of another. A text made of such words is
made of them in one way only, so a text that ends in the middle of a word is not a text
of whole words at all.
-/

namespace SmartHome.Library.PrefixCodes

set_option autoImplicit false

variable {Symbol : Type*} {code : List Symbol → Prop}

structure PrefixFree (code : List Symbol → Prop) : Prop where
  nonempty : ∀ word, code word → word ≠ []
  prefixes : ∀ word other, code word → code other → word <+: other → word = other

theorem PrefixFree.first_eq (free : PrefixFree code) {word other rest later : List Symbol}
    (isWord : code word) (isOther : code other) (same : word ++ rest = other ++ later) :
    word = other := by
  have before : word <+: other ++ later := same ▸ List.prefix_append word rest
  rcases List.prefix_or_prefix_of_prefix before (List.prefix_append other later) with
    inside | inside
  · exact free.prefixes word other isWord isOther inside
  · exact (free.prefixes other word isOther isWord inside).symm

/-- Whole words and a piece of one more are no text of whole words. -/
theorem PrefixFree.no_piece (free : PrefixFree code) {words others : List (List Symbol)}
    {word piece : List Symbol} (areWords : ∀ word ∈ words, code word)
    (areOthers : ∀ word ∈ others, code word) (isWord : code word) (inside : piece <+: word)
    (some_ : piece ≠ []) (proper : piece ≠ word) : words.flatten ++ piece ≠ others.flatten := by
  induction words generalizing others with
  | nil =>
      intro same
      rw [List.flatten_nil, List.nil_append] at same
      cases others with
      | nil => exact some_ same
      | cons other others =>
          rcases List.forall_mem_cons.mp areOthers with ⟨isOther, _⟩
          rw [List.flatten_cons] at same
          have begins : other <+: word := (same ▸ List.prefix_append other _).trans inside
          have whole := free.prefixes other word isOther isWord begins
          apply proper
          apply inside.eq_of_length
          apply le_antisymm inside.length_le
          rw [same, whole, List.length_append]
          exact Nat.le_add_right _ _
  | cons first words induction =>
      intro same
      rcases List.forall_mem_cons.mp areWords with ⟨isFirst, areRest⟩
      rw [List.flatten_cons, List.append_assoc] at same
      cases others with
      | nil => exact free.nonempty first isFirst (List.append_eq_nil_iff.mp same).1
      | cons other others =>
          rcases List.forall_mem_cons.mp areOthers with ⟨isOther, areLater⟩
          rw [List.flatten_cons] at same
          have equal := free.first_eq isFirst isOther same
          rw [equal, List.append_cancel_left_eq] at same
          exact induction areRest areLater same

end SmartHome.Library.PrefixCodes
