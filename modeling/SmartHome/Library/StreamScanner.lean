import Mathlib.Data.List.Basic

/-!
# Scanning a stream that arrives in pieces

A scanner looks at the head of the pending items and either skips one item,
cuts a record off, or holds until more items arrive. When a decision other than
holding never changes as items arrive behind it, the records found and the items
left over do not depend on how the stream was cut into pieces.
-/

namespace SmartHome.Library.StreamScanner

set_option autoImplicit false

variable {Item Tag : Type*}

inductive Verdict (Tag : Type*)
  | skip
  | cut (tag : Tag) (count : Nat)
  | hold
  deriving DecidableEq

inductive Event (Item Tag : Type*)
  | skipped (item : Item)
  | record (tag : Tag) (items : List Item)
  deriving DecidableEq

namespace Event

def items : Event Item Tag → List Item
  | skipped item => [item]
  | record _ items => items

def record? : Event Item Tag → Option (Tag × List Item)
  | skipped _ => none
  | record tag items => some (tag, items)

end Event

structure Scanner (Item Tag : Type*) where
  verdict : List Item → Verdict Tag
  empty_holds : verdict [] = .hold
  cut_within : ∀ pending tag count, verdict pending = .cut tag count →
    0 < count ∧ count ≤ pending.length
  stable : ∀ pending later, verdict pending ≠ .hold → verdict (pending ++ later) = verdict pending

namespace Scanner

variable (scanner : Scanner Item Tag)

def scan : List Item → List (Event Item Tag) × List Item
  | [] => ([], [])
  | item :: rest =>
      match decision : scanner.verdict (item :: rest) with
      | .hold => ([], item :: rest)
      | .skip =>
          let (events, pending) := scan rest
          (.skipped item :: events, pending)
      | .cut tag count =>
          have _bound := scanner.cut_within _ _ _ decision
          let (events, pending) := scan ((item :: rest).drop count)
          (.record tag ((item :: rest).take count) :: events, pending)
termination_by pending => pending.length
decreasing_by
  · simp
  · simp only [List.length_drop]
    omega

theorem scan_hold (pending : List Item) (decision : scanner.verdict pending = .hold) :
    scanner.scan pending = ([], pending) := by
  cases pending with
  | nil => rw [scan]
  | cons item rest =>
      rw [scan]
      split <;> simp_all

theorem scan_skip (item : Item) (rest : List Item)
    (decision : scanner.verdict (item :: rest) = .skip) :
    scanner.scan (item :: rest) =
      (.skipped item :: (scanner.scan rest).1, (scanner.scan rest).2) := by
  rw [scan]
  split <;> simp_all

theorem scan_cut (pending : List Item) (tag : Tag) (count : Nat)
    (decision : scanner.verdict pending = .cut tag count) :
    scanner.scan pending =
      (.record tag (pending.take count) :: (scanner.scan (pending.drop count)).1,
        (scanner.scan (pending.drop count)).2) := by
  cases pending with
  | nil => rw [scanner.empty_holds] at decision; contradiction
  | cons item rest =>
      rw [scan]
      split <;> simp_all

/-- Case analysis along the scan itself: hold, skip one item, or cut a record off. -/
theorem scan_induction {motive : List Item → Prop}
    (hold : ∀ pending, scanner.verdict pending = .hold → motive pending)
    (skip : ∀ item rest, scanner.verdict (item :: rest) = .skip → motive rest →
      motive (item :: rest))
    (cut : ∀ pending tag count, scanner.verdict pending = .cut tag count →
      motive (pending.drop count) → motive pending)
    (pending : List Item) : motive pending := by
  induction length : pending.length using Nat.strongRecOn generalizing pending with
  | ind size induction =>
      cases decision : scanner.verdict pending with
      | hold => exact hold pending decision
      | skip =>
          cases pending with
          | nil => rw [scanner.empty_holds] at decision; contradiction
          | cons item rest =>
              exact skip item rest decision (induction rest.length (by simp at length; omega) rest rfl)
      | cut tag count =>
          have bound := scanner.cut_within _ _ _ decision
          exact cut pending tag count decision
            (induction (pending.drop count).length (by simp; omega) _ rfl)

/-- The events and what is left are the stream. -/
theorem scan_content (pending : List Item) :
    (scanner.scan pending).1.flatMap Event.items ++ (scanner.scan pending).2 = pending := by
  induction pending using scanner.scan_induction with
  | hold pending decision => rw [scanner.scan_hold pending decision, List.flatMap_nil, List.nil_append]
  | skip item rest decision induction =>
      rw [scanner.scan_skip item rest decision, List.flatMap_cons, Event.items, List.append_assoc,
        induction, List.singleton_append]
  | cut pending tag count decision induction =>
      rw [scanner.scan_cut pending tag count decision, List.flatMap_cons, Event.items,
        List.append_assoc, induction, List.take_append_drop]

theorem scan_pending_holds (pending : List Item) :
    scanner.verdict (scanner.scan pending).2 = .hold := by
  induction pending using scanner.scan_induction with
  | hold pending decision => rw [scanner.scan_hold pending decision]; exact decision
  | skip item rest decision induction => rw [scanner.scan_skip item rest decision]; exact induction
  | cut pending tag count decision induction =>
      rw [scanner.scan_cut pending tag count decision]
      exact induction

/-- Scanning a longer stream is scanning its front and then what that left with the rest. -/
theorem scan_append (front later : List Item) :
    scanner.scan (front ++ later) =
      ((scanner.scan front).1 ++ (scanner.scan ((scanner.scan front).2 ++ later)).1,
        (scanner.scan ((scanner.scan front).2 ++ later)).2) := by
  induction front using scanner.scan_induction with
  | hold front decision => simp [scanner.scan_hold front decision]
  | skip item rest decision induction =>
      have extended : scanner.verdict (item :: (rest ++ later)) = .skip := by
        rw [← List.cons_append, scanner.stable _ _ (by rw [decision]; simp), decision]
      rw [List.cons_append, scanner.scan_skip _ _ extended, scanner.scan_skip _ _ decision, induction]
      rfl
  | cut front tag count decision induction =>
      have bound := (scanner.cut_within _ _ _ decision).2
      have extended : scanner.verdict (front ++ later) = .cut tag count := by
        rw [scanner.stable _ _ (by rw [decision]; simp), decision]
      rw [scanner.scan_cut _ _ _ extended, scanner.scan_cut _ _ _ decision,
        List.drop_append_of_le_length bound, List.take_append_of_le_length bound, induction]
      rfl

def feed (pending : List Item) : List (List Item) → List (Event Item Tag) × List Item
  | [] => ([], pending)
  | piece :: pieces =>
      let scanned := scanner.scan (pending ++ piece)
      let later := feed scanned.2 pieces
      (scanned.1 ++ later.1, later.2)

theorem feed_eq_scan (pending : List Item) (settled : scanner.verdict pending = .hold)
    (pieces : List (List Item)) :
    scanner.feed pending pieces = scanner.scan (pending ++ pieces.flatten) := by
  induction pieces generalizing pending with
  | nil => simp [feed, scanner.scan_hold pending settled]
  | cons piece pieces induction =>
      rw [feed, induction _ (scanner.scan_pending_holds _), List.flatten_cons, ← List.append_assoc,
        scanner.scan_append (pending ++ piece)]

/-- However a stream is cut into pieces, feeding them gives the scan of the whole. -/
theorem feed_pieces (pieces : List (List Item)) :
    scanner.feed [] pieces = scanner.scan pieces.flatten := by
  rw [scanner.feed_eq_scan [] scanner.empty_holds, List.nil_append]

end Scanner

end SmartHome.Library.StreamScanner
