import Mathlib.Data.List.Basic

/-!
# Checked buffers

An array of cells that may not have been written yet. A load of a cell outside of it or not written
so far fails, and so does a store that does not fit. `Filled` says that the array begins with a text.
Then loads within the text are its parts (`Filled.loads_eq`), a search along it is the search in the
text (`Filled.seek_eq`), and what fits is stored behind it (`Filled.store_eq`); a store at the front
is a store behind the empty text.
-/

set_option autoImplicit false

namespace CheckedBuffer

universe u

/-- Cells, of which those that were never written are `none`. -/
structure Buffer (β : Type u) where
  size : ℕ
  cell : ℕ → Option β

variable {β : Type u}

def load (b : Buffer β) (i : ℕ) : Option β := if i < b.size then b.cell i else none

/-- `n` cells from `start` on. -/
def loads (b : Buffer β) : ℕ → ℕ → Option (List β)
  | _, 0 => some []
  | start, n + 1 => (load b start).bind fun x => (loads b (start + 1) n).map (x :: ·)

def store (b : Buffer β) (start : ℕ) (text : List β) : Option (Buffer β) :=
  if start + text.length ≤ b.size then
    some { b with cell := fun i => if i < start then b.cell i else (text[i - start]?).or (b.cell i) }
  else none

/-- The first of `n` cells from `start` on with a property. -/
def seek (p : β → Bool) (b : Buffer β) : ℕ → ℕ → Option (Option ℕ)
  | _, 0 => some none
  | start, n + 1 => (load b start).bind fun x =>
      if p x then some (some start) else seek p b (start + 1) n

/-- The buffer begins with a text. -/
structure Filled (b : Buffer β) (text : List β) : Prop where
  fits : text.length ≤ b.size
  cells : ∀ i (inside : i < text.length), b.cell i = some text[i]

variable {b : Buffer β} {text : List β}

theorem filled_nil (b : Buffer β) : Filled b [] := ⟨Nat.zero_le _, fun _ inside => by cases inside⟩

theorem Filled.load_eq (filled : Filled b text) {i : ℕ} (inside : i < text.length) :
    load b i = some text[i] := by
  rw [load, if_pos (Nat.lt_of_lt_of_le inside filled.fits), filled.cells i inside]

/-- **Loads within the text** are a part of it. -/
theorem Filled.loads_eq (filled : Filled b text) {start n : ℕ} (inside : start + n ≤ text.length) :
    loads b start n = some ((text.drop start).take n) := by
  induction n generalizing start with
  | zero => simp [loads]
  | succ n ih =>
      have here : start < text.length := by omega
      rw [loads, filled.load_eq here, Option.bind_some, ih (by omega), Option.map_some,
        List.drop_eq_getElem_cons here, List.take_succ_cons]

/-- **A search along the text** is a search in it. -/
theorem Filled.seek_eq (filled : Filled b text) (p : β → Bool) {start n : ℕ}
    (all : start + n = text.length) :
    seek p b start n = some (((text.drop start).findIdx? p).map (· + start)) := by
  induction n generalizing start with
  | zero =>
      have done : text.drop start = [] := List.drop_eq_nil_of_le (by omega)
      rw [seek, done]
      rfl
  | succ n ih =>
      have here : start < text.length := by omega
      rw [seek, filled.load_eq here, Option.bind_some, List.drop_eq_getElem_cons here,
        List.findIdx?_cons]
      by_cases found : p text[start] = true
      · rw [if_pos found, if_pos found, Option.map_some, Nat.zero_add]
      · rw [if_neg found, if_neg found, ih (by omega), Option.map_map]
        congr 2
        funext i
        simp only [Function.comp_apply]
        omega

/-- **What fits is stored behind the text.** -/
theorem Filled.store_eq (filled : Filled b text) (more : List β)
    (fits : text.length + more.length ≤ b.size) :
    ∃ after, store b text.length more = some after ∧ after.size = b.size ∧
      Filled after (text ++ more) := by
  refine ⟨_, if_pos fits, rfl, by rwa [List.length_append], fun i inside => ?_⟩
  change (if i < text.length then b.cell i else _) = _
  rw [List.length_append] at inside
  by_cases early : i < text.length
  · rw [if_pos early, filled.cells i early, List.getElem_append_left early]
  · rw [if_neg early, List.getElem_append_right (Nat.not_lt.mp early),
      List.getElem?_eq_getElem (by omega), Option.some_or]

end CheckedBuffer
