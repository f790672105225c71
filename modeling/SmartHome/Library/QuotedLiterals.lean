import Mathlib.Data.List.Basic
import Mathlib.Tactic.SplitIfs

/-!
# Quoted literals

A literal stands between two delimiters, and a delimiter inside it is written twice. A
text that is put between delimiters as it is may therefore say something else than
itself, or end before its end.
-/

namespace SmartHome.Library.QuotedLiterals

set_option autoImplicit false

variable {Symbol : Type*} [DecidableEq Symbol] {quote : Symbol} {text value rest : List Symbol}

/-- Behind the opening delimiter: the value up to the closing one, and what follows. -/
def readLiteral (quote : Symbol) : List Symbol → Option (List Symbol × List Symbol)
  | [] => none
  | symbol :: text =>
      if symbol = quote then
        match text with
        | [] => some ([], [])
        | next :: rest =>
            if next = quote then (readLiteral quote rest).map (Prod.map (quote :: ·) id)
            else some ([], next :: rest)
      else (readLiteral quote text).map (Prod.map (symbol :: ·) id)

def literalValue (quote : Symbol) (text : List Symbol) : Option (List Symbol) :=
  match readLiteral quote (text ++ [quote]) with
  | some (value, []) => some value
  | _ => none

theorem literal_value_eq_some :
    literalValue quote text = some value ↔
      readLiteral quote (text ++ [quote]) = some (value, []) := by
  unfold literalValue
  split
  · rename_i found same
    rw [same, Option.some.injEq, Option.some.injEq, Prod.mk.injEq, and_iff_left rfl]
  · rename_i other
    constructor
    · intro none
      cases none
    · intro whole
      exact absurd whole (other value)

theorem read_literal_cons {first : Symbol} (plain : first ≠ quote) (text : List Symbol) :
    readLiteral quote (first :: text) =
      (readLiteral quote text).map (Prod.map (first :: ·) id) := by
  conv_lhs => unfold readLiteral
  exact if_neg plain

theorem literal_value_plain (plain : quote ∉ text) : literalValue quote text = some text := by
  rw [literal_value_eq_some]
  induction text with
  | nil => rw [List.nil_append, readLiteral, if_pos rfl]
  | cons first text induction =>
      have different : first ≠ quote := fun same => plain (same ▸ List.mem_cons_self)
      have later : quote ∉ text := fun member => plain (List.mem_cons_of_mem first member)
      rw [List.cons_append, read_literal_cons different, induction later]
      rfl

inductive Written (quote : Symbol) (value rest text : List Symbol) : Prop
  | plain : text = value ++ quote :: rest → quote ∉ value → Written quote value rest text
  | doubled : value.length + rest.length + 1 < text.length → Written quote value rest text

omit [DecidableEq Symbol] in
theorem Written.cons {first : Symbol} (different : first ≠ quote)
    (written : Written quote value rest text) :
    Written quote (first :: value) rest (first :: text) := by
  cases written with
  | plain same none =>
      apply Written.plain
      · rw [same, List.cons_append]
      · intro member
        rcases List.mem_cons.mp member with here | later
        · exact different here.symm
        · exact none later
  | doubled shorter =>
      apply Written.doubled
      rw [List.length_cons, List.length_cons]
      omega

omit [DecidableEq Symbol] in
theorem Written.double (second : Symbol) (written : Written quote value rest text) :
    Written quote (quote :: value) rest (quote :: second :: text) := by
  have length : value.length + rest.length + 1 ≤ text.length := by
    cases written with
    | plain same none =>
        rw [same, List.length_append, List.length_cons]
        omega
    | doubled shorter => omega
  apply Written.doubled
  rw [List.length_cons, List.length_cons, List.length_cons]
  omega

theorem read_literal_written (read : readLiteral quote text = some (value, rest)) :
    Written quote value rest text := by
  fun_induction readLiteral quote text generalizing value with
  | case1 => cases read
  | case2 =>
      cases read
      exact .plain rfl List.not_mem_nil
  | case3 later induction =>
      rw [Option.map_eq_some_iff] at read
      rcases read with ⟨⟨inner, left⟩, found, same⟩
      cases same
      exact (induction found).double quote
  | case4 next later different =>
      cases read
      exact .plain rfl List.not_mem_nil
  | case5 first later different induction =>
      rw [Option.map_eq_some_iff] at read
      rcases read with ⟨⟨inner, left⟩, found, same⟩
      cases same
      exact (induction found).cons different

theorem read_literal_subset (read : readLiteral quote text = some (value, rest)) :
    value ⊆ text := by
  fun_induction readLiteral quote text generalizing value with
  | case1 => cases read
  | case2 =>
      cases read
      exact List.nil_subset _
  | case3 later induction =>
      rw [Option.map_eq_some_iff] at read
      rcases read with ⟨⟨inner, left⟩, found, same⟩
      cases same
      exact List.cons_subset_cons quote
        (List.Subset.trans (induction found) (List.subset_cons_self _ _))
  | case4 next later different =>
      cases read
      exact List.nil_subset _
  | case5 first later different induction =>
      rw [Option.map_eq_some_iff] at read
      rcases read with ⟨⟨inner, left⟩, found, same⟩
      cases same
      exact List.cons_subset_cons first (induction found)

theorem read_literal_append {later : List Symbol} (ends : ∀ symbol ∈ later.head?, symbol ≠ quote)
    (read : readLiteral quote text = some (value, [])) :
    readLiteral quote (text ++ later) = some (value, later) := by
  fun_induction readLiteral quote text generalizing value with
  | case1 => cases read
  | case2 =>
      cases read
      cases later with
      | nil => rw [List.append_nil, readLiteral, if_pos rfl]
      | cons next later =>
          rw [List.singleton_append, readLiteral, if_pos rfl, if_neg (ends next rfl)]
  | case3 rest induction =>
      rw [Option.map_eq_some_iff] at read
      rcases read with ⟨⟨inner, left⟩, found, same⟩
      cases same
      rw [List.cons_append, List.cons_append, readLiteral, if_pos rfl, if_pos rfl, induction found]
      rfl
  | case4 next rest different => cases read
  | case5 first rest different induction =>
      rw [Option.map_eq_some_iff] at read
      rcases read with ⟨⟨inner, left⟩, found, same⟩
      cases same
      rw [List.cons_append, read_literal_cons different, induction found]
      rfl

/-- A text says itself exactly when there is no delimiter in it. -/
theorem literal_value_eq_iff (found : literalValue quote text = some value) :
    value = text ↔ quote ∉ text := by
  rw [literal_value_eq_some] at found
  cases read_literal_written found with
  | plain same none =>
      rw [List.append_cancel_right_eq] at same
      rw [same, eq_self, true_iff]
      exact none
  | doubled shorter =>
      rw [List.length_append, List.length_singleton, List.length_nil] at shorter
      constructor
      · rintro rfl
        omega
      · intro plain
        have itself := literal_value_eq_some.mp (literal_value_plain plain)
        rw [itself] at found
        cases found
        rfl

theorem literal_value_subset (found : literalValue quote text = some value) {symbol : Symbol}
    (other : symbol ≠ quote) (absent : symbol ∉ text) : symbol ∉ value := by
  intro member
  have inside := read_literal_subset (literal_value_eq_some.mp found) member
  rcases List.mem_append.mp inside with here | last
  · exact absent here
  · exact other (List.mem_singleton.mp last)

theorem literal_value_length_le (found : literalValue quote text = some value) :
    value.length ≤ text.length := by
  cases read_literal_written (literal_value_eq_some.mp found) with
  | plain same none =>
      rw [List.append_cancel_right_eq] at same
      exact Nat.le_of_eq (congrArg List.length same.symm)
  | doubled shorter =>
      rw [List.length_append, List.length_singleton, List.length_nil] at shorter
      omega

end SmartHome.Library.QuotedLiterals
