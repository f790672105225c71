import Mathlib.Data.List.Nodup
import Mathlib.Logic.Function.Basic
import Mathlib.Tactic.SplitIfs

/-!
# Doubly linked circular lists

Lists whose links lie in the items themselves, around a head that is no item. Each
operation is made of writes to single links. `Ring` says which items a head has: they
are met in this order when the links are followed, back to the head, and in the
opposite order the other way round. Lists of different heads may share the links of
their items over time, but no node is in two of them at once.
-/

namespace SmartHome.Library.LinkedLists

set_option autoImplicit false

open Function

variable {Node : Type*} [DecidableEq Node]

structure Links (Node : Type*) where
  next : Node → Node
  prev : Node → Node

def setNext (node target : Node) (links : Links Node) : Links Node :=
  { links with next := update links.next node target }

def setPrev (node target : Node) (links : Links Node) : Links Node :=
  { links with prev := update links.prev node target }

/-- `INIT_LIST_HEAD` -/
def initListHead (node : Node) (links : Links Node) : Links Node :=
  setPrev node node (setNext node node links)

/-- `__list_add` -/
def insertBetween (new prev next : Node) (links : Links Node) : Links Node :=
  setNext prev new (setPrev new prev (setNext new next (setPrev next new links)))

/-- `list_add_tail` -/
def addTail (new head : Node) (links : Links Node) : Links Node :=
  insertBetween new (links.prev head) head links

/-- `__list_del` -/
def joinLinks (prev next : Node) (links : Links Node) : Links Node :=
  setNext prev next (setPrev next prev links)

/-- `list_del_init` -/
def delInit (entry : Node) (links : Links Node) : Links Node :=
  initListHead entry (joinLinks (links.prev entry) (links.next entry) links)

/-- `list_empty` -/
def isEmpty (head : Node) (links : Links Node) : Bool := links.next head = head

def Segment (links : Links Node) (first : Node) : List Node → Node → Prop
  | [], last => links.next first = last ∧ links.prev last = first
  | node :: nodes, last =>
      (links.next first = node ∧ links.prev node = first) ∧ Segment links node nodes last

structure Ring (links : Links Node) (head : Node) (items : List Node) : Prop where
  around : Segment links head items head
  distinct : (head :: items).Nodup

section Segments

variable {links other : Links Node} {first last node : Node} {nodes front back : List Node}

omit [DecidableEq Node] in
theorem segment_append :
    Segment links first (front ++ node :: back) last ↔
      Segment links first front node ∧ Segment links node back last := by
  induction front generalizing first with
  | nil => rfl
  | cons head front induction =>
      rw [List.cons_append, Segment, Segment, induction, ← and_assoc]

omit [DecidableEq Node] in
theorem Segment.congr (segment : Segment links first nodes last)
    (next : ∀ node ∈ first :: nodes, other.next node = links.next node)
    (prev : ∀ node ∈ nodes ++ [last], other.prev node = links.prev node) :
    Segment other first nodes last := by
  induction nodes generalizing first with
  | nil =>
      rcases segment with ⟨forward, backward⟩
      exact ⟨(next first (by simp)).trans forward, (prev last (by simp)).trans backward⟩
  | cons node nodes induction =>
      rcases segment with ⟨⟨forward, backward⟩, later⟩
      refine ⟨⟨(next first (by simp)).trans forward, (prev node (by simp)).trans backward⟩, ?_⟩
      apply induction later
      · intro item member
        exact next item (List.mem_cons_of_mem first member)
      · intro item member
        exact prev item (List.mem_cons_of_mem node member)

def firstOf (last : Node) (nodes : List Node) : Node := nodes.headD last

omit [DecidableEq Node] in
theorem Segment.next_eq (segment : Segment links first nodes last) :
    links.next first = firstOf last nodes := by
  cases nodes with
  | nil => exact segment.1
  | cons node nodes => exact segment.1.1

omit [DecidableEq Node] in
theorem Segment.prev_mem (segment : Segment links first nodes last) :
    links.prev last ∈ first :: nodes := by
  induction nodes generalizing first with
  | nil => exact segment.2 ▸ List.mem_cons_self
  | cons node nodes induction => exact List.mem_cons_of_mem first (induction segment.2)

theorem Segment.redirect (segment : Segment links first nodes last)
    (distinct : (first :: nodes).Nodup) {target : Node} (outside : target ∉ nodes) :
    Segment (joinLinks (links.prev last) target links) first nodes target := by
  induction nodes generalizing first with
  | nil =>
      rcases segment with ⟨_, backward⟩
      rw [backward]
      exact ⟨update_self _ _ _, update_self _ _ _⟩
  | cons node nodes induction =>
      rcases segment with ⟨⟨forward, backward⟩, later⟩
      rcases List.nodup_cons.mp distinct with ⟨notLater, distinctLater⟩
      have different : target ≠ node := fun same => outside (same ▸ List.mem_cons_self)
      have notFirst : first ≠ links.prev last := fun same => notLater (same ▸ later.prev_mem)
      refine ⟨⟨?_, ?_⟩, induction later distinctLater ?_⟩
      · exact (update_of_ne notFirst _ _).trans forward
      · exact (update_of_ne different.symm _ _).trans backward
      · exact fun member => outside (List.mem_cons_of_mem node member)

theorem Segment.join_frame (segment : Segment links first nodes last) {prev next : Node}
    (notPrev : prev ∉ first :: nodes) (notNext : next ∉ nodes ++ [last]) :
    Segment (joinLinks prev next links) first nodes last := by
  apply segment.congr
  · intro node member
    exact update_of_ne (ne_of_mem_of_not_mem member notPrev) _ _
  · intro node member
    exact update_of_ne (ne_of_mem_of_not_mem member notNext) _ _

end Segments

section Rings

variable {links : Links Node} {head new entry : Node} {items front back : List Node}

omit [DecidableEq Node] in
theorem Ring.congr {other : Links Node} (ring : Ring links head items)
    (next : ∀ node ∈ head :: items, other.next node = links.next node)
    (prev : ∀ node ∈ head :: items, other.prev node = links.prev node) :
    Ring other head items := by
  refine ⟨ring.around.congr next ?_, ring.distinct⟩
  intro node member
  apply prev
  rcases List.mem_append.mp member with inside | here
  · exact List.mem_cons_of_mem head inside
  · exact List.mem_singleton.mp here ▸ List.mem_cons_self

theorem Ring.init_frame (ring : Ring links head items) {node : Node}
    (outside : node ∉ head :: items) :
    Ring (initListHead node links) head items := by
  apply ring.congr
  · intro other member
    exact update_of_ne (ne_of_mem_of_not_mem member outside) _ _
  · intro other member
    exact update_of_ne (ne_of_mem_of_not_mem member outside) _ _

/-- The two links that an insertion makes. -/
theorem insert_between_eq (links : Links Node) {prev next : Node} (notPrev : prev ≠ new)
    (notNext : next ≠ new) :
    insertBetween new prev next links = joinLinks new next (joinLinks prev new links) := by
  have forward := update_comm notPrev new next links.next
  have backward := update_comm notNext new prev links.prev
  unfold insertBetween joinLinks setNext setPrev
  rw [forward, backward]

theorem Ring.add_tail (ring : Ring links head items) (fresh : new ∉ head :: items) :
    Ring (addTail new head links) head (items ++ [new]) := by
  have notLast : links.prev head ≠ new := ne_of_mem_of_not_mem ring.around.prev_mem fresh
  have notHead : head ≠ new := ne_of_mem_of_not_mem List.mem_cons_self fresh
  have notItem : new ∉ items := fun member => fresh (List.mem_cons_of_mem head member)
  have headOnce : head ∉ items ++ [new] := by
    intro member
    rcases List.mem_append.mp member with inside | last
    · exact (List.nodup_cons.mp ring.distinct).1 inside
    · exact notHead (List.mem_singleton.mp last)
  rw [addTail, insert_between_eq links notLast notHead]
  constructor
  · apply segment_append.mpr
    refine ⟨?_, update_self _ _ _, update_self _ _ _⟩
    exact (ring.around.redirect ring.distinct notItem).join_frame fresh headOnce
  · rw [← List.cons_append, ← List.concat_eq_append, List.nodup_concat]
    exact ⟨fresh, ring.distinct⟩

theorem Ring.add_tail_frame {elsewhere : Node} {others : List Node}
    (ring : Ring links head items) (other : Ring links elsewhere others)
    (fresh : new ∉ elsewhere :: others)
    (apart : List.Disjoint (elsewhere :: others) (head :: items)) :
    Ring (addTail new head links) elsewhere others := by
  have last := ring.around.prev_mem
  apply other.congr
  · intro node member
    have notNew : node ≠ new := ne_of_mem_of_not_mem member fresh
    have notLast : node ≠ links.prev head := fun same => apart member (same ▸ last)
    exact (update_of_ne notLast _ _).trans (update_of_ne notNew _ _)
  · intro node member
    have notNew : node ≠ new := ne_of_mem_of_not_mem member fresh
    have notHead : node ≠ head := fun same => apart member (same ▸ List.mem_cons_self)
    exact (update_of_ne notNew _ _).trans (update_of_ne notHead _ _)

theorem Ring.del_init (ring : Ring links head (front ++ entry :: back)) :
    Ring (delInit entry links) head (front ++ back) := by
  rcases segment_append.mp ring.around with ⟨before, behind⟩
  have distinct := ring.distinct
  rw [← List.cons_append, List.nodup_middle, List.nodup_cons] at distinct
  rcases distinct with ⟨gone, rest⟩
  have frontDistinct : (head :: front).Nodup := rest.sublist (List.sublist_append_left _ _)
  have joined : Ring (joinLinks (links.prev entry) (links.next entry) links) head
      (front ++ back) := by
    refine ⟨?_, rest⟩
    cases back with
    | nil =>
        have next : links.next entry = head := behind.1
        rw [next, List.append_nil]
        exact before.redirect frontDistinct (List.nodup_cons.mp frontDistinct).1
    | cons node back =>
        have next : links.next entry = node := behind.1.1
        have apart := List.disjoint_of_nodup_append rest
        have notFront : node ∉ head :: front := fun member => apart member List.mem_cons_self
        have notPrev : links.prev entry ∉ node :: back := apart before.prev_mem
        have notBehind : node ∉ back ++ [head] := by
          intro member
          rcases List.mem_append.mp member with inside | last
          · exact (List.nodup_cons.mp (List.nodup_append.mp rest).2.1).1 inside
          · exact notFront (List.mem_singleton.mp last ▸ List.mem_cons_self)
        rw [next]
        apply segment_append.mpr
        constructor
        · exact before.redirect frontDistinct (fun inside =>
            notFront (List.mem_cons_of_mem head inside))
        · exact behind.2.join_frame notPrev notBehind
  exact joined.init_frame gone

theorem Ring.del_init_frame {elsewhere : Node} {others : List Node}
    (ring : Ring links head (front ++ entry :: back)) (other : Ring links elsewhere others)
    (apart : List.Disjoint (elsewhere :: others) (head :: (front ++ entry :: back))) :
    Ring (delInit entry links) elsewhere others := by
  rcases segment_append.mp ring.around with ⟨before, behind⟩
  have entryIn : entry ∈ head :: (front ++ entry :: back) := by simp
  have prevIn : links.prev entry ∈ head :: (front ++ entry :: back) := by
    rw [← List.cons_append]
    exact List.mem_append_left _ before.prev_mem
  have nextIn : links.next entry ∈ head :: (front ++ entry :: back) := by
    rw [behind.next_eq]
    cases back with
    | nil => exact List.mem_cons_self
    | cons node back => simp [firstOf]
  apply other.congr
  · intro node member
    have notEntry : node ≠ entry := fun same => apart member (same ▸ entryIn)
    have notPrev : node ≠ links.prev entry := fun same => apart member (same ▸ prevIn)
    exact (update_of_ne notEntry _ _).trans (update_of_ne notPrev _ _)
  · intro node member
    have notEntry : node ≠ entry := fun same => apart member (same ▸ entryIn)
    have notNext : node ≠ links.next entry := fun same => apart member (same ▸ nextIn)
    exact (update_of_ne notEntry _ _).trans (update_of_ne notNext _ _)

omit [DecidableEq Node] in
theorem Ring.next_eq (ring : Ring links head items) : links.next head = firstOf head items :=
  ring.around.next_eq

omit [DecidableEq Node] in
theorem Ring.next_item (ring : Ring links head (front ++ entry :: back)) :
    links.next entry = firstOf head back :=
  (segment_append.mp ring.around).2.next_eq

theorem Ring.is_empty_iff (ring : Ring links head items) :
    isEmpty head links = true ↔ items = [] := by
  rw [isEmpty, decide_eq_true_iff, ring.next_eq]
  cases items with
  | nil => exact ⟨fun _ => rfl, fun _ => rfl⟩
  | cons item items =>
      have different : item ≠ head := fun same =>
        (List.nodup_cons.mp ring.distinct).1 (same ▸ List.mem_cons_self)
      exact ⟨fun same => absurd same different, fun none => absurd none (List.cons_ne_nil _ _)⟩

end Rings

section Iteration

variable {State : Type*}

/-- `list_for_each_safe`: the successor is read before the body runs, so the body may take the
present item out of the list. Without fuel there is no result. -/
def forEachSafe (links : State → Links Node) (head : Node) (body : Node → State → State) :
    Nat → Node → Node → State → Option State
  | 0, _, _, _ => none
  | fuel + 1, pos, n, state =>
      if pos = head then some state
      else
        let state := body pos state
        forEachSafe links head body fuel n ((links state).next n) state

def iterate (links : State → Links Node) (head : Node) (body : Node → State → State) (fuel : Nat)
    (state : State) : Option State :=
  let pos := (links state).next head
  forEachSafe links head body fuel pos ((links state).next pos) state

variable {links : State → Links Node} {head : Node} {body : Node → State → State}
  {holds : List Node → State → Prop}

theorem for_each_safe_rule
    (ring : ∀ remaining state, holds remaining state →
      ∃ visited, Ring (links state) head (visited ++ remaining))
    (kept : ∀ node remaining state, holds (node :: remaining) state →
      holds remaining (body node state))
    {items : List Node} {state : State} (initial : holds items state) {n : Node}
    (successor : n = (links state).next (firstOf head items)) {fuel : Nat}
    (enough : items.length < fuel) :
    ∃ after, forEachSafe links head body fuel (firstOf head items) n state = some after ∧
      holds [] after := by
  induction items generalizing state n fuel with
  | nil =>
      cases fuel with
      | zero => exact absurd enough (Nat.not_lt_zero _)
      | succ fuel => exact ⟨state, if_pos rfl, initial⟩
  | cons node items induction =>
      cases fuel with
      | zero => exact absurd enough (Nat.not_lt_zero _)
      | succ fuel =>
          rcases ring _ _ initial with ⟨visited, here⟩
          have notHead : node ≠ head := by
            intro same
            apply (List.nodup_cons.mp here.distinct).1
            rw [← same]
            exact List.mem_append_right _ List.mem_cons_self
          have next : n = firstOf head items := successor.trans here.next_item
          have first : firstOf head (node :: items) = node := rfl
          rw [next, first, forEachSafe, if_neg notHead]
          exact induction (kept _ _ _ initial) rfl (Nat.lt_of_succ_lt_succ enough)

/-- The rule of the loop: `holds` speaks of the items that are still to come. A body that keeps it
for the rest is run once for each of them, in order. -/
theorem iterate_rule
    (ring : ∀ remaining state, holds remaining state →
      ∃ visited, Ring (links state) head (visited ++ remaining))
    (kept : ∀ node remaining state, holds (node :: remaining) state →
      holds remaining (body node state))
    {items : List Node} {state : State} (start : Ring (links state) head items)
    (initial : holds items state) {fuel : Nat} (enough : items.length < fuel) :
    ∃ after, iterate links head body fuel state = some after ∧ holds [] after := by
  rw [iterate, start.next_eq]
  exact for_each_safe_rule ring kept initial rfl enough

def tryForEachSafe (links : State → Links Node) (head : Node)
    (body : Node → State → Option State) : Nat → Node → Node → State → Option State
  | 0, _, _, _ => none
  | fuel + 1, pos, n, state =>
      if pos = head then some state
      else
        (body pos state).bind fun state =>
          tryForEachSafe links head body fuel n ((links state).next n) state

def tryIterate (links : State → Links Node) (head : Node) (body : Node → State → Option State)
    (fuel : Nat) (state : State) : Option State :=
  let pos := (links state).next head
  tryForEachSafe links head body fuel pos ((links state).next pos) state

theorem try_for_each_safe_rule {body : Node → State → Option State}
    (ring : ∀ remaining state, holds remaining state →
      ∃ visited, Ring (links state) head (visited ++ remaining))
    (kept : ∀ node remaining state, holds (node :: remaining) state →
      ∃ next, body node state = some next ∧ holds remaining next)
    {items : List Node} {state : State} (initial : holds items state) {n : Node}
    (successor : n = (links state).next (firstOf head items)) {fuel : Nat}
    (enough : items.length < fuel) :
    ∃ after, tryForEachSafe links head body fuel (firstOf head items) n state = some after ∧
      holds [] after := by
  induction items generalizing state n fuel with
  | nil =>
      cases fuel with
      | zero => exact absurd enough (Nat.not_lt_zero _)
      | succ fuel => exact ⟨state, if_pos rfl, initial⟩
  | cons node items induction =>
      cases fuel with
      | zero => exact absurd enough (Nat.not_lt_zero _)
      | succ fuel =>
          rcases ring _ _ initial with ⟨visited, here⟩
          have notHead : node ≠ head := by
            intro same
            apply (List.nodup_cons.mp here.distinct).1
            rw [← same]
            exact List.mem_append_right _ List.mem_cons_self
          have next : n = firstOf head items := successor.trans here.next_item
          have first : firstOf head (node :: items) = node := rfl
          rcases kept _ _ _ initial with ⟨after, done, rest⟩
          rw [next, first, tryForEachSafe, if_neg notHead, done, Option.bind_some]
          exact induction rest rfl (Nat.lt_of_succ_lt_succ enough)

theorem try_iterate_rule {body : Node → State → Option State}
    (ring : ∀ remaining state, holds remaining state →
      ∃ visited, Ring (links state) head (visited ++ remaining))
    (kept : ∀ node remaining state, holds (node :: remaining) state →
      ∃ next, body node state = some next ∧ holds remaining next)
    {items : List Node} {state : State} (start : Ring (links state) head items)
    (initial : holds items state) {fuel : Nat} (enough : items.length < fuel) :
    ∃ after, tryIterate links head body fuel state = some after ∧ holds [] after := by
  rw [tryIterate, start.next_eq]
  exact try_for_each_safe_rule ring kept initial rfl enough

end Iteration

end SmartHome.Library.LinkedLists
