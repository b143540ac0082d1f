import Mathlib.Data.List.Range

/-!
# Byte memory

A memory gives a byte at every address and remembers which addresses have been written.
`store` writes bytes from an address on; `printBounded` is a bounded print: at most `size - 1`
bytes of a text and then a NUL, nothing at all when `size` is zero.

A text that has been printed stays until something is written over it (`Holds`,
`Holds.append`), and a byte that was never written is unchanged (`Frame`).
-/

set_option autoImplicit false

namespace ByteMemory

/-- A byte at every address, and the addresses written so far. -/
structure Memory where
  byte : ℕ → UInt8
  written : List ℕ

/-- A memory nothing has been written to. -/
def Memory.initial (byte : ℕ → UInt8) : Memory := ⟨byte, []⟩

/-- Write bytes from an address on. -/
def store (mem : Memory) (start : ℕ) (bytes : List UInt8) : Memory where
  byte i := if i < start then mem.byte i else (bytes[i - start]?).getD (mem.byte i)
  written := mem.written ++ List.range' start bytes.length

/-- Print a text from an address on, with its NUL into at most `size` bytes. -/
def printBounded (mem : Memory) (start size : ℕ) (text : List UInt8) : Memory :=
  if size = 0 then mem else store mem start (text.take (size - 1) ++ [0])

/-- The bytes from address zero on are a text. -/
def Holds (mem : Memory) (text : List UInt8) : Prop :=
  ∀ i (inside : i < text.length), mem.byte i = text[i]

/-- Only addresses below a limit have been written, and every other byte is as it was. -/
structure Frame (byte : ℕ → UInt8) (limit : ℕ) (mem : Memory) : Prop where
  below : ∀ i ∈ mem.written, i < limit
  kept : ∀ i, i ∉ mem.written → mem.byte i = byte i

variable {mem : Memory} {start : ℕ} {bytes : List UInt8}

theorem Frame.initial (byte : ℕ → UInt8) (limit : ℕ) : Frame byte limit (Memory.initial byte) :=
  ⟨fun _ member => (List.not_mem_nil member).elim, fun _ _ => rfl⟩

/-- Stores below the limit keep the frame. -/
theorem Frame.store {byte : ℕ → UInt8} {limit : ℕ} (frame : Frame byte limit mem)
    (fits : start + bytes.length ≤ limit) : Frame byte limit (store mem start bytes) where
  below i member := by
    rcases List.mem_append.mp member with before | now
    · exact frame.below i before
    · have range := List.mem_range'_1.mp now
      omega
  kept i untouched := by
    rw [ByteMemory.store, List.mem_append, not_or, List.mem_range'_1] at untouched
    rw [← frame.kept i untouched.1]
    change (if i < start then mem.byte i else (bytes[i - start]?).getD (mem.byte i)) = mem.byte i
    split
    · rfl
    · rw [List.getElem?_eq_none (by omega), Option.getD_none]

/-- A bounded print below the limit keeps the frame. -/
theorem Frame.printBounded {byte : ℕ → UInt8} {limit size : ℕ} (frame : Frame byte limit mem)
    (fits : start + size ≤ limit) (text : List UInt8) :
    Frame byte limit (printBounded mem start size text) := by
  rw [ByteMemory.printBounded]
  split
  · exact frame
  · refine frame.store ?_
    rw [List.length_append, List.length_take, List.length_singleton]
    omega

/-- Nothing at or after the limit changes. -/
theorem Frame.outside {byte : ℕ → UInt8} {limit : ℕ} (frame : Frame byte limit mem) {i : ℕ}
    (outside : limit ≤ i) : mem.byte i = byte i :=
  frame.kept i fun member => Nat.not_lt.mpr outside (frame.below i member)

/-- **Bytes stored right after a text continue it.** -/
theorem Holds.store {text : List UInt8} (holds : Holds mem text) (bytes : List UInt8) :
    Holds (store mem text.length bytes) (text ++ bytes) := by
  intro i inside
  change (if i < text.length then mem.byte i else (bytes[i - text.length]?).getD (mem.byte i)) = _
  split
  · rename_i early
    rw [List.getElem_append_left early, holds i early]
  · rename_i late
    rw [List.length_append] at inside
    rw [List.getElem_append_right (Nat.not_lt.mp late),
      List.getElem?_eq_getElem (by omega), Option.getD_some]

theorem Holds.left {text more : List UInt8} (holds : Holds mem (text ++ more)) :
    Holds mem text := by
  intro i inside
  rw [holds i (by rw [List.length_append]; omega), List.getElem_append_left inside]

/-- A print with room for all of the text and its NUL continues the text before it. -/
theorem Holds.printBounded {text more : List UInt8} {size : ℕ} (holds : Holds mem text)
    (room : more.length < size) :
    Holds (printBounded mem text.length size more) (text ++ more) := by
  rw [ByteMemory.printBounded, if_neg (by omega), List.take_of_length_le (by omega)]
  have longer := holds.store (more ++ [0])
  rw [← List.append_assoc] at longer
  exact longer.left

end ByteMemory
