import Mathlib.Data.List.Infix

/-!
# Lines taken into a bounded buffer

A reader takes a line symbol by symbol into a buffer with `room` for so many symbols. Some symbols
are skipped. It stops as soon as the buffer is full, before it has seen the end of the line, and
leaves the rest of the line to be read (`cut`).

What it takes is the line without the skipped symbols, as far as there is room (`cut_fst`). A
line shorter than the buffer is taken whole with its end (`cut_snd_of_short`); of a line that just
fills the buffer skipped symbols may be left, and the end (`kept_of_cut_snd`).
-/

set_option autoImplicit false

namespace BoundedLine

variable {α : Type*} (skip : α → Bool)

/-- A line without the skipped symbols. -/
def kept (line : List α) : List α := line.filter fun x => !skip x

/-- What is taken of a line, and the rest of it when the buffer is full before its end. -/
def cut : ℕ → List α → List α × Option (List α)
  | 0, line => ([], some line)
  | _ + 1, [] => ([], none)
  | room + 1, x :: line =>
      if skip x then cut (room + 1) line else (x :: (cut room line).1, (cut room line).2)

/-- The lines of a stream, each with its newline. -/
def terminated (newline : α) (lines : List (List α)) : List α :=
  lines.flatMap fun line => line ++ [newline]

variable {skip}

theorem terminated_cons (newline : α) (line : List α) (lines : List (List α)) :
    terminated newline (line :: lines) = line ++ newline :: terminated newline lines := by
  rw [terminated, List.flatMap_cons, List.append_assoc]
  rfl

theorem terminated_append (newline : α) (first second : List (List α)) :
    terminated newline (first ++ second) = terminated newline first ++ terminated newline second :=
  List.flatMap_append

theorem kept_cons_of_skip {x : α} (skipped : skip x = true) (line : List α) :
    kept skip (x :: line) = kept skip line := by
  rw [kept, List.filter_cons_of_neg (by simp [skipped]), kept]

theorem kept_cons_of_keep {x : α} (keep : ¬ skip x = true) (line : List α) :
    kept skip (x :: line) = x :: kept skip line := by
  rw [kept, List.filter_cons_of_pos (by simpa using keep), kept]

/-- **What is taken is the line without the skipped symbols**, as far as there is room. -/
theorem cut_fst (room : ℕ) (line : List α) :
    (cut skip room line).1 = (kept skip line).take room := by
  induction line generalizing room with
  | nil => cases room <;> simp [cut, kept]
  | cons x line ih =>
      cases room with
      | zero => simp [cut]
      | succ room =>
          rw [cut]
          split
          · rename_i skipped
            rw [ih, kept_cons_of_skip skipped]
          · rename_i keep
            rw [ih, kept_cons_of_keep keep, List.take_succ_cons]

/-- A line that is shorter than the buffer is taken with its end. -/
theorem cut_snd_of_short {room : ℕ} {line : List α} (short : (kept skip line).length < room) :
    (cut skip room line).2 = none := by
  induction line generalizing room with
  | nil =>
      cases room with
      | zero => cases short
      | succ room => rfl
  | cons x line ih =>
      cases room with
      | zero => cases short
      | succ room =>
          rw [cut]
          split
          · rename_i skipped
            rw [kept_cons_of_skip skipped] at short
            exact ih short
          · rename_i keep
            rw [kept_cons_of_keep keep, List.length_cons] at short
            exact ih (by omega)

/-- What is left of a line is its end, and keeps what was not taken. -/
theorem kept_of_cut_snd {room : ℕ} {line rest : List α}
    (left : (cut skip room line).2 = some rest) :
    rest <:+ line ∧ kept skip rest = (kept skip line).drop room := by
  induction line generalizing room with
  | nil =>
      cases room with
      | zero =>
          cases left
          exact ⟨List.suffix_refl _, rfl⟩
      | succ room => cases left
  | cons x line ih =>
      cases room with
      | zero =>
          cases left
          exact ⟨List.suffix_refl _, rfl⟩
      | succ room =>
          rw [cut] at left
          split at left
          · rename_i skipped
            obtain ⟨isEnd, same⟩ := ih left
            rw [kept_cons_of_skip skipped]
            exact ⟨isEnd.trans (List.suffix_cons x line), same⟩
          · rename_i keep
            obtain ⟨isEnd, same⟩ := ih left
            rw [kept_cons_of_keep keep, List.drop_succ_cons]
            exact ⟨isEnd.trans (List.suffix_cons x line), same⟩

end BoundedLine
