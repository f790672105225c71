import SmartHome.Library.Bytes

/-!
# Reading memory through a moving pointer

A parser in the manner of C: it is handed a pointer and reads what lies behind it,
whether or not that belongs to the input. The cursor therefore records, next to
the pointer, how far the parser has read.
-/

namespace SmartHome.Library.MemoryCursor

open SmartHome.Library.Bytes

set_option autoImplicit false

/-- `reach` is one past the furthest byte read so far. -/
structure Cursor where
  p : Nat
  reach : Nat
  deriving DecidableEq

def Cursor.start : Cursor := ⟨0, 0⟩

abbrev Parser (α : Type) := ReaderT Memory (StateM Cursor) α

namespace Parser

variable {α β : Type}

def runFrom (parser : Parser α) (memory : Memory) (cursor : Cursor) : α × Cursor :=
  parser memory cursor

def value (parser : Parser α) (memory : Memory) : α := (parser.runFrom memory .start).1

def reach (parser : Parser α) (memory : Memory) : Nat := (parser.runFrom memory .start).2.reach

def skip (count : Nat) : Parser Unit := fun _ cursor => ((), { cursor with p := cursor.p + count })

def look (offset count : Nat) : Parser (List UInt8) := fun memory cursor =>
  (readBytes memory (cursor.p + offset) count,
    { cursor with
      reach := if count = 0 then cursor.reach else max cursor.reach (cursor.p + offset + count) })

def take (count : Nat) : Parser (List UInt8) := do
  let bytes ← look 0 count
  skip count
  return bytes

def position : Parser Nat := fun _ cursor => (cursor.p, cursor)

@[simp] theorem run_from_pure (item : α) (memory : Memory) (cursor : Cursor) :
    runFrom (pure item) memory cursor = (item, cursor) := rfl

@[simp] theorem run_from_bind (parser : Parser α) (next : α → Parser β) (memory : Memory)
    (cursor : Cursor) :
    runFrom (parser >>= next) memory cursor =
      runFrom (next (runFrom parser memory cursor).1) memory (runFrom parser memory cursor).2 := rfl

@[simp] theorem run_from_map (change : α → β) (parser : Parser α) (memory : Memory)
    (cursor : Cursor) :
    runFrom (change <$> parser) memory cursor =
      (change (runFrom parser memory cursor).1, (runFrom parser memory cursor).2) := rfl

@[simp] theorem run_from_look (offset count : Nat) (memory : Memory) (cursor : Cursor) :
    runFrom (look offset count) memory cursor =
      (readBytes memory (cursor.p + offset) count,
        { cursor with
          reach :=
            if count = 0 then cursor.reach else max cursor.reach (cursor.p + offset + count) }) :=
  rfl

@[simp] theorem run_from_take (count : Nat) (memory : Memory) (cursor : Cursor) :
    runFrom (take count) memory cursor =
      (readBytes memory cursor.p count,
        { p := cursor.p + count
          reach := if count = 0 then cursor.reach else max cursor.reach (cursor.p + count) }) :=
  rfl

@[simp] theorem run_from_position (memory : Memory) (cursor : Cursor) :
    runFrom position memory cursor = (cursor.p, cursor) := rfl

end Parser

end SmartHome.Library.MemoryCursor
