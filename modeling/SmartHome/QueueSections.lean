import SmartHome.Queue

/-!
# The code under the access semaphore

What the three critical sections of the queue do to the list they find: a message comes to
the front or to the back, or the first one is taken and its node is freed. On the way
no pointer is followed that points nowhere, and a list that is not empty before nor after
never looks empty to a thread that looks at `head` from outside.
-/

namespace SmartHome.Queue

open Function
open SmartHome.Library.CriticalSections

set_option autoImplicit false

def Segment (nodes : Address → Option Node) (stop : Option Address) :
    Option Address → List (Address × List UInt8) → Prop
  | start, [] => start = stop
  | start, (address, data) :: cells =>
      start = some address ∧ ∃ ptr, nodes address = some ⟨data, ptr⟩ ∧ Segment nodes stop ptr cells

theorem segment_append {nodes : Address → Option Node} {stop start : Option Address}
    {front back : List (Address × List UInt8)} :
    Segment nodes stop start (front ++ back) ↔
      ∃ middle, Segment nodes middle start front ∧ Segment nodes stop middle back := by
  induction front generalizing start with
  | nil => simp [Segment]
  | cons cell front induction =>
      constructor
      · rintro ⟨here, ptr, stored, rest⟩
        rcases induction.mp rest with ⟨middle, first, second⟩
        exact ⟨middle, ⟨here, ptr, stored, first⟩, second⟩
      · rintro ⟨middle, ⟨here, ptr, stored, first⟩, second⟩
        exact ⟨here, ptr, stored, induction.mpr ⟨middle, first, second⟩⟩

theorem Segment.congr {nodes other : Address → Option Node} {stop start : Option Address}
    {cells : List (Address × List UInt8)} (segment : Segment nodes stop start cells)
    (agree : ∀ address ∈ cells.map Prod.fst, other address = nodes address) :
    Segment other stop start cells := by
  induction cells generalizing start with
  | nil => exact segment
  | cons cell cells induction =>
      rcases segment with ⟨here, ptr, stored, rest⟩
      refine ⟨here, ptr, ?_, induction rest fun address member => agree address (by simp [member])⟩
      rw [agree cell.1 (by simp), stored]

/-- The list of the queue: what it holds, in order, is on the heap and nothing else. -/
structure Chained (hndl : Llq) (cells : List (Address × List UInt8)) : Prop where
  linked : Segment hndl.nodes none hndl.head cells
  last : hndl.tail = cells.getLast?.map Prod.fst
  distinct : (cells.map Prod.fst).Nodup
  allocated : ∀ address, hndl.nodes address ≠ none → address ∈ cells.map Prod.fst

def Contents (messages : List (List UInt8)) (hndl : Llq) : Prop :=
  ∃ cells, Chained hndl cells ∧ cells.map Prod.snd = messages

/-- Between these contents the queue never looks empty unless one of them is. -/
def Guarded (before after : List (List UInt8)) (hndl : Llq) : Prop :=
  before ≠ [] → after ≠ [] → hndl.head ≠ none

theorem Contents.guarded {messages : List (List UInt8)} {hndl : Llq}
    (contents : Contents messages hndl) (before : List (List UInt8)) :
    Guarded before messages hndl := by
  rcases contents with ⟨cells, chained, rfl⟩
  intro _ some_
  cases cells with
  | nil => exact absurd rfl some_
  | cons cell cells =>
      rw [chained.linked.1]
      exact Option.some_ne_none cell.1

section Rules

variable {visible : Llq → Prop} {post : Llq → Registers → Prop} {hndl after : Llq}
  {registers : Registers} {rest : Code Llq Registers}

theorem ensures_on_queue {change : Llq → Option Llq} (seen : visible hndl)
    (changed : change hndl = some after) (later : rest.Ensures visible post after registers) :
    (Code.act (onQueue change) rest).Ensures visible post hndl registers :=
  ⟨seen, (after, registers), by rw [onQueue, changed]; rfl, later⟩

theorem ensures_on_registers {load : Llq → Registers → Option Registers} {left : Registers}
    (seen : visible hndl) (loaded : load hndl registers = some left)
    (later : rest.Ensures visible post hndl left) :
    (Code.act (onRegisters load) rest).Ensures visible post hndl registers :=
  ⟨seen, (hndl, left), by rw [onRegisters, loaded]; rfl, later⟩

theorem ensures_test {condition : Llq → Bool} {yes no : Code Llq Registers} (seen : visible hndl)
    (positive : condition hndl = true → yes.Ensures visible post hndl registers)
    (negative : condition hndl = false → no.Ensures visible post hndl registers) :
    (Code.test condition yes no).Ensures visible post hndl registers := by
  refine ⟨seen, ?_⟩
  split_ifs with holds
  · exact positive holds
  · exact negative (Bool.not_eq_true _ ▸ holds)

theorem write_eq {address : Address} {node : Node} (stored : hndl.nodes address = some node)
    (change : Node → Node) :
    hndl.write (some address) change =
      some { hndl with nodes := update hndl.nodes address (some (change node)) } := by
  rw [Llq.write, Option.bind_some, stored, Option.map_some]

end Rules

section Sections

variable {hndl : Llq} {cells : List (Address × List UInt8)} {fresh : Address}

theorem Chained.fresh_not_mem (chained : Chained hndl cells) (unused : hndl.nodes fresh = none) :
    fresh ∉ cells.map Prod.fst := by
  intro member
  rcases List.mem_map.mp member with ⟨cell, inside, rfl⟩
  rcases List.append_of_mem inside with ⟨front, back, rfl⟩
  rcases segment_append.mp chained.linked with ⟨middle, _, _, ptr, stored, _⟩
  rw [unused] at stored
  cases stored

theorem Chained.head_eq_none_iff (chained : Chained hndl cells) :
    hndl.head = none ↔ cells = [] := by
  cases cells with
  | nil => exact iff_of_true chained.linked rfl
  | cons cell cells =>
      rw [chained.linked.1]
      exact iff_of_false (Option.some_ne_none _) (List.cons_ne_nil _ _)

theorem Chained.tail_eq_none_iff (chained : Chained hndl cells) :
    hndl.tail = none ↔ cells = [] := by
  rw [chained.last, Option.map_eq_none_iff, List.getLast?_eq_none_iff]

theorem Chained.push_front (chained : Chained hndl cells) (unused : hndl.nodes fresh = none)
    {data : List UInt8} {after : Llq} (head : after.head = some fresh)
    (tail : after.tail = ((fresh, data) :: cells).getLast?.map Prod.fst)
    (here : after.nodes fresh = some ⟨data, hndl.head⟩)
    (others : ∀ address, address ≠ fresh → after.nodes address = hndl.nodes address) :
    Chained after ((fresh, data) :: cells) := by
  have absent := chained.fresh_not_mem unused
  refine ⟨⟨head, hndl.head, here, chained.linked.congr ?_⟩, tail, ?_, ?_⟩
  · intro address member
    apply others
    rintro rfl
    exact absent member
  · exact List.nodup_cons.mpr ⟨absent, chained.distinct⟩
  · intro address allocated
    by_cases new : address = fresh
    · exact List.mem_cons.mpr (.inl new)
    · rw [others address new] at allocated
      exact List.mem_cons_of_mem _ (chained.allocated address allocated)

theorem Chained.push_back {front : List (Address × List UInt8)} {last : Address × List UInt8}
    (chained : Chained hndl (front ++ [last])) (unused : hndl.nodes fresh = none)
    {data : List UInt8} {after : Llq} (head : after.head = hndl.head)
    (tail : after.tail = some fresh) (here : after.nodes fresh = some ⟨data, none⟩)
    (before : after.nodes last.1 = some ⟨last.2, some fresh⟩)
    (others : ∀ address, address ≠ fresh → address ≠ last.1 →
      after.nodes address = hndl.nodes address) :
    Chained after (front ++ [last] ++ [(fresh, data)]) := by
  have absent := chained.fresh_not_mem unused
  have distinct := chained.distinct
  rw [List.map_append, List.nodup_append] at distinct
  rcases segment_append.mp chained.linked with ⟨middle, first, start, _⟩
  have unchanged : Segment after.nodes middle after.head front := by
    rw [head]
    apply first.congr
    intro address member
    apply others
    · rintro rfl
      exact absent (by simp [member])
    · exact distinct.2.2 address member last.1 (by simp)
  refine ⟨?_, ?_, ?_, ?_⟩
  · rw [List.append_assoc, segment_append]
    exact ⟨middle, unchanged, start, some fresh, before, rfl, none, here, rfl⟩
  · rw [tail, List.getLast?_append_of_ne_nil _ (List.cons_ne_nil _ _)]
    rfl
  · rw [List.map_append, List.map_cons, List.map_nil, List.nodup_append]
    refine ⟨chained.distinct, List.nodup_singleton _, ?_⟩
    intro address member other isFresh same
    rw [List.mem_singleton] at isFresh
    subst same isFresh
    exact absent member
  · intro address allocated
    rw [List.map_append, List.mem_append]
    by_cases new : address = fresh
    · exact .inr (by simp [new])
    by_cases old : address = last.1
    · exact .inl (by simp [old])
    rw [others address new old] at allocated
    exact .inl (chained.allocated address allocated)

theorem Chained.pop {cell : Address × List UInt8} {ptr : Option Address}
    (chained : Chained hndl (cell :: cells)) (next : hndl.nodes cell.1 = some ⟨cell.2, ptr⟩)
    {after : Llq} (head : after.head = ptr) (tail : after.tail = cells.getLast?.map Prod.fst)
    (here : after.nodes cell.1 = none)
    (others : ∀ address, address ≠ cell.1 → after.nodes address = hndl.nodes address) :
    Chained after cells := by
  rcases chained.linked with ⟨_, other, stored, rest⟩
  rw [next, Option.some.injEq, Node.mk.injEq] at stored
  rcases stored with ⟨_, rfl⟩
  have distinct := List.nodup_cons.mp chained.distinct
  refine ⟨?_, tail, distinct.2, ?_⟩
  · rw [head]
    apply rest.congr
    intro address member
    apply others
    rintro rfl
    exact distinct.1 member
  · intro address allocated
    have different : address ≠ cell.1 := by
      rintro rfl
      exact allocated here
    rw [others address different] at allocated
    exact (List.mem_cons.mp (chained.allocated address allocated)).resolve_left different

end Sections

section Ensured

variable {hndl : Llq} {messages : List (List UInt8)} {fresh : Address}

theorem add_to_head_ensures (contents : Contents messages hndl) (unused : hndl.nodes fresh = none)
    (data : List UInt8) (stale : Node) (registers : Registers) :
    (addToHead data fresh stale).Ensures (Guarded messages (data :: messages))
      (fun after left => Contents (data :: messages) after ∧ left = registers) hndl registers := by
  rcases contents with ⟨cells, chained, rfl⟩
  have filled : ∀ head : Option Address, setData data (setPtr head stale) = ⟨data, head⟩ :=
    fun _ => rfl
  rw [addToHead]
  refine ensures_test ?_ ?_ ?_
  · exact fun some_ _ empty => some_ (by rw [chained.head_eq_none_iff.mp empty]; rfl)
  · intro empty
    have none_ : cells = [] := chained.head_eq_none_iff.mp (of_decide_eq_true empty)
    subst none_
    have seen : ∀ other, Guarded (([] : List (Address × List UInt8)).map Prod.snd)
        (data :: ([] : List (Address × List UInt8)).map Prod.snd) other :=
      fun _ some_ => absurd rfl some_
    refine ensures_on_queue (seen _) rfl ?_
    refine ensures_on_queue (seen _) (write_eq (update_self _ _ _) _) ?_
    refine ensures_on_queue (seen _) (write_eq (update_self _ _ _) _) ?_
    refine ensures_on_queue (seen _) rfl ⟨seen _, ⟨[(fresh, data)], ?_, rfl⟩, rfl⟩
    refine chained.push_front unused rfl rfl ?_ ?_
    · rw [chained.head_eq_none_iff.mpr rfl]
      exact update_self _ _ _
    · intro address different
      simp only [Llq.malloc, update_idem, update_of_ne different]
  · intro full
    have some_ : hndl.head ≠ none := of_decide_eq_false full
    have seen : ∀ other : Llq, other.head = hndl.head ∨ other.head = some fresh →
        Guarded (cells.map Prod.snd) (data :: cells.map Prod.snd) other := by
      rintro other (same | new) _ _
      · rwa [same]
      · rw [new]
        exact Option.some_ne_none fresh
    refine ensures_on_queue (seen _ (.inl rfl)) rfl ?_
    refine ensures_on_queue (seen _ (.inl rfl)) (write_eq (update_self _ _ _) _) ?_
    refine ensures_on_queue (seen _ (.inl rfl)) (write_eq (update_self _ _ _) _) ?_
    refine ensures_on_queue (seen _ (.inl rfl)) rfl
      ⟨seen _ (.inr rfl), ⟨(fresh, data) :: cells, ?_, rfl⟩, rfl⟩
    refine chained.push_front unused rfl ?_ (update_self _ _ _) ?_
    · have nonempty : cells ≠ [] := fun empty => some_ (chained.head_eq_none_iff.mpr empty)
      rw [List.getLast?_cons_of_ne_nil nonempty]
      exact chained.last
    · intro address different
      simp only [Llq.malloc, update_idem, update_of_ne different]

theorem add_to_tail_ensures (contents : Contents messages hndl) (unused : hndl.nodes fresh = none)
    (data : List UInt8) (stale : Node) (registers : Registers) :
    (addToTail data fresh stale).Ensures (Guarded messages (messages ++ [data]))
      (fun after left => Contents (messages ++ [data]) after ∧ left = registers) hndl registers := by
  rcases contents with ⟨cells, chained, rfl⟩
  rw [addToTail]
  refine ensures_test ?_ ?_ ?_
  · exact fun some_ _ empty => some_ (by rw [chained.head_eq_none_iff.mp empty]; rfl)
  · intro empty
    have none_ : cells = [] := chained.tail_eq_none_iff.mp (of_decide_eq_true empty)
    subst none_
    have seen : ∀ other, Guarded (([] : List (Address × List UInt8)).map Prod.snd)
        (([] : List (Address × List UInt8)).map Prod.snd ++ [data]) other :=
      fun _ some_ => absurd rfl some_
    refine ensures_on_queue (seen _) rfl ?_
    refine ensures_on_queue (seen _) (write_eq (update_self _ _ _) _) ?_
    refine ensures_on_queue (seen _) (write_eq (update_self _ _ _) _) ?_
    refine ensures_on_queue (seen _) rfl ⟨seen _, ⟨[(fresh, data)], ?_, rfl⟩, rfl⟩
    refine chained.push_front unused rfl rfl ?_ ?_
    · rw [chained.head_eq_none_iff.mpr rfl]
      exact update_self _ _ _
    · intro address different
      simp only [Llq.malloc, update_idem, update_of_ne different]
  · intro full
    have some_ : hndl.tail ≠ none := of_decide_eq_false full
    have nonempty : cells ≠ [] := fun empty => some_ (chained.tail_eq_none_iff.mpr empty)
    have head : hndl.head ≠ none := fun empty => nonempty (chained.head_eq_none_iff.mp empty)
    have seen : ∀ other : Llq, other.head = hndl.head →
        Guarded (cells.map Prod.snd) (cells.map Prod.snd ++ [data]) other := by
      intro other same _ _
      rwa [same]
    rcases List.eq_nil_or_concat' cells with empty | ⟨front, last, rfl⟩
    · exact absurd empty nonempty
    have isLast : hndl.tail = some last.1 := by
      rw [chained.last, List.getLast?_concat]
      rfl
    rcases segment_append.mp chained.linked with ⟨_, _, _, _, stored, rfl⟩
    have different : fresh ≠ last.1 := by
      rintro rfl
      rw [unused] at stored
      cases stored
    let allocated : Llq := { hndl.malloc fresh stale with temp := some fresh }
    have lastHere : allocated.nodes last.1 = some ⟨last.2, none⟩ :=
      (update_of_ne different.symm _ _).trans stored
    have linked := write_eq lastHere (setPtr allocated.temp)
    have tailHere : allocated.tail = some last.1 := isLast
    rw [← tailHere] at linked
    refine ensures_on_queue (seen _ rfl) rfl ?_
    refine ensures_on_queue (seen _ rfl) linked ?_
    refine ensures_on_queue (seen _ rfl)
      (write_eq ((update_of_ne different _ _).trans (update_self _ _ _)) _) ?_
    refine ensures_on_queue (seen _ rfl) (write_eq (update_self _ _ _) _) ?_
    refine ensures_on_queue (seen _ rfl) rfl
      ⟨seen _ rfl, ⟨front ++ [last] ++ [(fresh, data)], ?_, by rw [List.map_append]; rfl⟩, rfl⟩
    refine chained.push_back unused rfl rfl (update_self _ _ _) ?_ ?_
    · simp only [update_of_ne different.symm, update_self]
      rfl
    · intro address new old
      simp only [allocated, Llq.malloc, update_of_ne new, update_of_ne old]

theorem receive_section_ensures {message : List UInt8}
    (contents : Contents (message :: messages) hndl) (registers : Registers) :
    receiveSection.Ensures (Guarded (message :: messages) messages)
      (fun after left => Contents messages after ∧ left = ⟨message, message.length⟩) hndl
      registers := by
  rcases contents with ⟨cells, chained, shown⟩
  cases cells with
  | nil => cases shown
  | cons cell cells =>
      rw [List.map_cons, List.cons.injEq] at shown
      rcases shown with ⟨rfl, rfl⟩
      rcases chained.linked with ⟨head, ptr, stored, rest⟩
      have found : ∀ other : Llq, other.head = hndl.head → other.nodes = hndl.nodes →
          other.read other.head = some ⟨cell.2, ptr⟩ := by
        intro other sameHead sameNodes
        rw [Llq.read, sameHead, head, Option.bind_some, sameNodes, stored]
      have seen : ∀ other : Llq, other.head = hndl.head →
          Guarded (cell.2 :: cells.map Prod.snd) (cells.map Prod.snd) other := by
        intro other same _ _
        rw [same, head]
        exact Option.some_ne_none cell.1
      have freed : ∀ other : Llq, other.head = hndl.head → other.nodes = hndl.nodes →
          other.free other.head =
            some { other with nodes := update hndl.nodes cell.1 none } := by
        intro other sameHead sameNodes
        rw [Llq.free, sameHead, head, Option.bind_some, sameNodes, stored, Option.map_some]
      rw [receiveSection]
      refine ensures_on_queue (seen _ rfl) (congrArg (Option.map _) (found _ rfl rfl)) ?_
      refine ensures_on_registers (seen _ rfl) (congrArg (Option.map _) (found _ rfl rfl)) ?_
      refine ensures_on_registers (seen _ rfl) (congrArg (Option.map _) (found _ rfl rfl)) ?_
      refine ensures_test (seen _ rfl) ?_ ?_
      · intro more
        have nonempty : ptr ≠ none := of_decide_eq_true more
        refine ensures_on_queue (seen _ rfl) (freed _ rfl rfl) ?_
        refine ensures_on_queue (seen _ rfl) rfl ⟨?_, ⟨cells, ?_, rfl⟩, rfl⟩
        · exact fun _ _ => nonempty
        · refine chained.pop stored rfl ?_ (update_self _ _ _) ?_
          · cases cells with
            | nil => exact absurd rest nonempty
            | cons second cells =>
                rw [← List.getLast?_cons_of_ne_nil (List.cons_ne_nil second cells)]
                exact chained.last
          · intro address different
            exact update_of_ne different _ _
      · intro last
        have empty : ptr = none := not_not.mp (of_decide_eq_false last)
        have alone : cells = [] := by
          cases cells with
          | nil => rfl
          | cons second cells =>
              rw [empty] at rest
              cases rest.1
        subst alone
        have hidden : ∀ other, Guarded (cell.2 :: ([] : List (Address × List UInt8)).map Prod.snd)
            (([] : List (Address × List UInt8)).map Prod.snd) other :=
          fun _ _ some_ => absurd rfl some_
        refine ensures_on_queue (hidden _) (freed _ rfl rfl) ?_
        refine ensures_on_queue (hidden _) rfl ?_
        refine ensures_on_queue (hidden _) rfl ⟨hidden _, ⟨[], ?_, rfl⟩, rfl⟩
        refine chained.pop stored empty.symm rfl (update_self _ _ _) ?_
        intro address different
        exact update_of_ne different _ _

end Ensured

end SmartHome.Queue
