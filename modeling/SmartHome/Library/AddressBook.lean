import Mathlib.Data.List.Nodup
import Mathlib.Tactic.SplitIfs

/-!
# Address books searched from the front

A book lists members with the address each has taken last. A search for an address
finds the first entry that has it, though the address belongs to the member that took
it last. `Owner` is that other view, and the two agree as long as no assignment is
shadowed by an entry in front of it, and no entry that goes away uncovers another one.
-/

namespace SmartHome.Library.AddressBook

set_option autoImplicit false

variable {Name Address : Type*} [DecidableEq Name] [DecidableEq Address]

/-- Who took an address last and has neither taken another one since nor gone. -/
abbrev Owner (Name Address : Type*) := Address → Option Name

namespace Owner

def nobody : Owner Name Address := fun _ => none

def release (owner : Owner Name Address) (name : Name) : Owner Name Address :=
  fun address => if owner address = some name then none else owner address

def take (owner : Owner Name Address) (name : Name) (address : Address) : Owner Name Address :=
  fun other => if other = address then some name else owner.release name other

end Owner

abbrev Book (Name Address : Type*) := List (Name × Address)

def holder (book : Book Name Address) (address : Address) : Option Name :=
  (book.find? (·.2 = address)).map (·.1)

/-- A member's entry is rewritten in its place, a new member's entry comes last. -/
def assign (name : Name) (address : Address) : Book Name Address → Book Name Address
  | [] => [(name, address)]
  | entry :: rest =>
      if entry.1 = name then (name, address) :: rest else entry :: assign name address rest

def remove (name : Name) (book : Book Name Address) : Book Name Address :=
  book.eraseP (·.1 = name)

def Unshadowed (name : Name) (address : Address) (book : Book Name Address) : Prop :=
  ∀ entry ∈ book.takeWhile (·.1 ≠ name), entry.2 ≠ address

instance (name : Name) (address : Address) (book : Book Name Address) :
    Decidable (Unshadowed name address book) :=
  inferInstanceAs (Decidable (∀ entry ∈ book.takeWhile (·.1 ≠ name), entry.2 ≠ address))

/-- The member has the address with nobody in front of it, and somebody else has it too. -/
def Uncovers (name : Name) (address : Address) (book : Book Name Address) : Prop :=
  ((name, address) ∈ book ∧ Unshadowed name address book) ∧
    ∃ entry ∈ book, entry.2 = address ∧ entry.1 ≠ name

omit [DecidableEq Name] in
theorem holder_cons (entry : Name × Address) (book : Book Name Address) (address : Address) :
    holder (entry :: book) address =
      if entry.2 = address then some entry.1 else holder book address := by
  unfold holder
  split_ifs with same
  · simp [same]
  · simp [same]

omit [DecidableEq Name] in
theorem holder_eq_none {book : Book Name Address} {address : Address} :
    holder book address = none ↔ ∀ entry ∈ book, entry.2 ≠ address := by
  rw [holder, Option.map_eq_none_iff, List.find?_eq_none]
  simp

omit [DecidableEq Address] in
theorem unshadowed_cons {entry : Name × Address} {name : Name} (other : entry.1 ≠ name)
    (address : Address) (rest : Book Name Address) :
    Unshadowed name address (entry :: rest) ↔
      entry.2 ≠ address ∧ Unshadowed name address rest := by
  have front : (entry :: rest).takeWhile (·.1 ≠ name) = entry :: rest.takeWhile (·.1 ≠ name) :=
    List.takeWhile_cons_of_pos (by simpa using other)
  rw [Unshadowed, front]
  exact List.forall_mem_cons

omit [DecidableEq Address] in
/-- Only the entries in front of the member's own can shadow it. -/
theorem unshadowed_split {front rest : Book Name Address} {entry : Name × Address}
    (absent : entry.1 ∉ front.map (·.1)) (address : Address) :
    Unshadowed entry.1 address (front ++ entry :: rest) ↔ address ∉ front.map (·.2) := by
  induction front with
  | nil => simp [Unshadowed]
  | cons first front induction =>
      rw [List.map_cons, List.mem_cons, not_or] at absent
      rw [List.cons_append, unshadowed_cons (Ne.symm absent.1), induction absent.2, List.map_cons,
        List.mem_cons, not_or, ne_comm]

omit [DecidableEq Address] in
theorem unshadowed_absent {name : Name} {book : Book Name Address}
    (absent : name ∉ book.map (·.1)) (address : Address) :
    Unshadowed name address book ↔ address ∉ book.map (·.2) := by
  induction book with
  | nil => simp [Unshadowed]
  | cons first book induction =>
      rw [List.map_cons, List.mem_cons, not_or] at absent
      rw [unshadowed_cons (Ne.symm absent.1), induction absent.2, List.map_cons, List.mem_cons,
        not_or, ne_comm]

theorem holder_eq_some {name : Name} {address : Address} {book : Book Name Address}
    (distinct : (book.map (·.1)).Nodup) :
    holder book address = some name ↔ (name, address) ∈ book ∧ Unshadowed name address book := by
  induction book with
  | nil => simp [holder]
  | cons entry rest induction =>
      have split := List.nodup_cons.mp distinct
      rw [holder_cons, List.mem_cons]
      by_cases own : entry.1 = name
      · have absent : (name, address) ∉ rest := by
          intro member
          have key : name ∈ rest.map (·.1) := List.mem_map_of_mem member
          rw [← own] at key
          exact split.1 key
        have missed : holder rest address ≠ some name := by
          rw [ne_eq, induction split.2]
          exact fun found => absent found.1
        have front : Unshadowed name address (entry :: rest) := by
          simp [Unshadowed, own]
        by_cases taken : entry.2 = address
        · have same : (name, address) = entry := Prod.ext own.symm taken.symm
          simp [own, taken, same, front]
        · have other : (name, address) ≠ entry := fun same => taken (congrArg Prod.snd same).symm
          simp [taken, missed, absent, other]
      · have other : (name, address) ≠ entry := fun same => own (congrArg Prod.fst same).symm
        rw [unshadowed_cons own]
        by_cases taken : entry.2 = address
        · simp [taken, own]
        · simp [taken, other, induction split.2]

/-- A member that has taken an address is found there unless it is shadowed. -/
theorem holder_assign_self (name : Name) (address : Address) (book : Book Name Address) :
    holder (assign name address book) address = some name ↔ Unshadowed name address book := by
  induction book with
  | nil => simp [assign, holder_cons, Unshadowed]
  | cons entry rest induction =>
      unfold assign
      by_cases own : entry.1 = name
      · simp [own, holder_cons, Unshadowed]
      · rw [if_neg own, holder_cons, unshadowed_cons own]
        by_cases taken : entry.2 = address
        · simp [taken, own]
        · simp [taken, induction]

/-- For every other address, taking one is as good as going away. -/
theorem holder_assign_other {name : Name} {address other : Address} (different : other ≠ address)
    (book : Book Name Address) :
    holder (assign name address book) other = holder (remove name book) other := by
  induction book with
  | nil =>
      rw [assign, holder_cons, if_neg different.symm]
      rfl
  | cons entry rest induction =>
      unfold assign remove
      rw [List.eraseP_cons]
      by_cases own : entry.1 = name
      · simp [own, holder_cons, different.symm]
      · unfold remove at induction
        simp [own, holder_cons, induction]

/-- A member that is not the one found may go unnoticed. -/
theorem holder_remove_of_ne {name : Name} {address : Address} {book : Book Name Address}
    (distinct : (book.map (·.1)).Nodup) (elsewhere : holder book address ≠ some name) :
    holder (remove name book) address = holder book address := by
  induction book with
  | nil => rfl
  | cons entry rest induction =>
      have split := List.nodup_cons.mp distinct
      unfold remove
      rw [List.eraseP_cons]
      rw [holder_cons] at elsewhere
      by_cases own : entry.1 = name
      · by_cases taken : entry.2 = address
        · rw [if_pos taken, own] at elsewhere
          exact absurd rfl elsewhere
        · simp [own, holder_cons, taken]
      · by_cases taken : entry.2 = address
        · simp [own, holder_cons, taken]
        · rw [if_neg taken] at elsewhere
          unfold remove at induction
          simp [own, holder_cons, taken, induction split.2 elsewhere]

omit [DecidableEq Address] in
theorem mem_remove {name : Name} {book : Book Name Address} (distinct : (book.map (·.1)).Nodup)
    (entry : Name × Address) : entry ∈ remove name book ↔ entry ∈ book ∧ entry.1 ≠ name := by
  induction book with
  | nil => simp [remove]
  | cons head rest induction =>
      have split := List.nodup_cons.mp distinct
      unfold remove at induction ⊢
      rw [List.eraseP_cons]
      by_cases own : head.1 = name
      · have absent : entry ∈ rest → entry.1 ≠ name := by
          intro member same
          have key : entry.1 ∈ rest.map (·.1) := List.mem_map_of_mem member
          rw [same, ← own] at key
          exact split.1 key
        simp only [own, decide_true, cond_true, List.mem_cons]
        constructor
        · intro member
          exact ⟨Or.inr member, absent member⟩
        · rintro ⟨here | member, other⟩
          · exact absurd (here ▸ own) other
          · exact member
      · simp only [own, decide_false, cond_false, List.mem_cons, induction split.2]
        constructor
        · rintro (here | ⟨member, other⟩)
          · exact ⟨Or.inl here, here ▸ own⟩
          · exact ⟨Or.inr member, other⟩
        · rintro ⟨here | member, other⟩
          · exact Or.inl here
          · exact Or.inr ⟨member, other⟩

theorem holder_remove_of_eq {name : Name} {address : Address} {book : Book Name Address}
    (distinct : (book.map (·.1)).Nodup) (here : holder book address = some name) :
    holder (remove name book) address = none ↔ ¬Uncovers name address book := by
  rw [holder_eq_none, Uncovers, ← holder_eq_some distinct, not_and_or]
  constructor
  · intro gone
    right
    rintro ⟨entry, member, taken, other⟩
    exact gone entry ((mem_remove distinct entry).mpr ⟨member, other⟩) taken
  · rintro (elsewhere | nobody) entry member taken
    · exact absurd here elsewhere
    · have both := (mem_remove distinct entry).mp member
      exact nobody ⟨entry, both.1, taken, both.2⟩

omit [DecidableEq Address] in
theorem assign_append {name : Name} {address : Address} {book : Book Name Address}
    (absent : name ∉ book.map (·.1)) : assign name address book = book ++ [(name, address)] := by
  induction book with
  | nil => rfl
  | cons entry rest induction =>
      rw [List.map_cons, List.mem_cons, not_or] at absent
      rw [assign, if_neg (Ne.symm absent.1), induction absent.2]
      rfl

omit [DecidableEq Address] in
theorem assign_self {name : Name} {address : Address} {book : Book Name Address}
    (distinct : (book.map (·.1)).Nodup) (member : (name, address) ∈ book) :
    assign name address book = book := by
  induction book with
  | nil => exact absurd member List.not_mem_nil
  | cons entry rest induction =>
      have split := List.nodup_cons.mp distinct
      rw [assign]
      split_ifs with own
      · rcases List.mem_cons.mp member with here | later
        · rw [here]
        · have key : name ∈ rest.map (·.1) := List.mem_map_of_mem later
          rw [← own] at key
          exact absurd key split.1
      · rcases List.mem_cons.mp member with here | later
        · exact absurd (congrArg Prod.fst here).symm own
        · rw [induction split.2 later]

omit [DecidableEq Address] in
theorem remove_absent {name : Name} {book : Book Name Address}
    (absent : name ∉ book.map (·.1)) : remove name book = book := by
  apply List.eraseP_of_forall_not
  intro entry member same
  exact absent (of_decide_eq_true same ▸ List.mem_map_of_mem member)

section Agreement

variable {book : Book Name Address} {owner : Owner Name Address}

def Agrees (book : Book Name Address) (owner : Owner Name Address) : Prop :=
  ∀ address, holder book address = owner address

omit [DecidableEq Name] in
theorem agrees_nobody : Agrees ([] : Book Name Address) Owner.nobody := by
  intro address
  rfl

theorem holder_remove_release (distinct : (book.map (·.1)).Nodup) (agrees : Agrees book owner)
    (name : Name) (address : Address) :
    holder (remove name book) address = owner.release name address ↔
      ¬Uncovers name address book := by
  have same := agrees address
  unfold Owner.release
  by_cases here : holder book address = some name
  · rw [if_pos (same ▸ here)]
    exact holder_remove_of_eq distinct here
  · rw [if_neg (same ▸ here), holder_remove_of_ne distinct here]
    constructor
    · rintro _ ⟨found, _⟩
      exact here ((holder_eq_some distinct).mpr found)
    · intro _
      exact same

/-- A member goes away: the search still agrees if and only if it uncovers nobody. -/
theorem agrees_remove (distinct : (book.map (·.1)).Nodup) (agrees : Agrees book owner)
    (name : Name) :
    Agrees (remove name book) (owner.release name) ↔ ∀ address, ¬Uncovers name address book := by
  constructor
  · intro after address
    exact (holder_remove_release distinct agrees name address).mp (after address)
  · intro covered address
    exact (holder_remove_release distinct agrees name address).mpr (covered address)

/-- A member takes an address: the search still agrees if and only if the member is not shadowed
there and uncovers nobody elsewhere. -/
theorem agrees_assign (distinct : (book.map (·.1)).Nodup) (agrees : Agrees book owner)
    (name : Name) (address : Address) :
    Agrees (assign name address book) (owner.take name address) ↔
      Unshadowed name address book ∧ ∀ other, other ≠ address → ¬Uncovers name other book := by
  have self : owner.take name address address = some name := if_pos rfl
  have elsewhere : ∀ other, other ≠ address →
      owner.take name address other = owner.release name other := fun _ different => if_neg different
  constructor
  · intro after
    constructor
    · rw [← holder_assign_self, after address, self]
    · intro other different
      have released := after other
      rw [holder_assign_other different, elsewhere other different] at released
      exact (holder_remove_release distinct agrees name other).mp released
  · rintro ⟨front, covered⟩ other
    by_cases same : other = address
    · rw [same, self]
      exact (holder_assign_self name address book).mpr front
    · rw [holder_assign_other same, elsewhere other same]
      exact (holder_remove_release distinct agrees name other).mpr (covered other same)

end Agreement

end SmartHome.Library.AddressBook
