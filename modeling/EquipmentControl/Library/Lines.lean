import Mathlib.Data.List.Basic

/-!
# Newline-terminated lines of a stream

`frames newline text` cuts a text into its complete lines, each with its newline, and the
unterminated tail. Nothing is lost (`flatten_frames`), a line ends at its only newline
(`frames_line_append`), and a stream can be cut before it has arrived in full: the lines
of `first ++ second` are those of `first`, then those of the tail of `first` followed by
`second` (`frames_append`). A bound on the lines and the tail of a stream also bounds the
tail of every prefix of it (`tail_length_lt_of_append`).
-/

set_option autoImplicit false

namespace LineText

variable {α : Type*} [DecidableEq α] {newline : α}

/-- The complete lines of a text, each with its newline, and the unterminated tail. -/
def frames (newline : α) : List α → List (List α) × List α
  | [] => ([], [])
  | x :: rest =>
      if x = newline then ([x] :: (frames newline rest).1, (frames newline rest).2)
      else
        match (frames newline rest).1 with
        | [] => ([], x :: (frames newline rest).2)
        | line :: lines => ((x :: line) :: lines, (frames newline rest).2)

/-- Every line and the tail are shorter than `cap`. -/
def Fits (newline : α) (cap : ℕ) (text : List α) : Prop :=
  (∀ line ∈ (frames newline text).1, line.length < cap) ∧ (frames newline text).2.length < cap

theorem frames_of_not_mem {text : List α} (absent : newline ∉ text) :
    frames newline text = ([], text) := by
  induction text with
  | nil => rfl
  | cons x rest ih =>
      obtain ⟨differs, absent⟩ := not_or.mp (List.mem_cons.not.mp absent)
      rw [frames, if_neg (Ne.symm differs), ih absent]

/-- The first line ends at the first newline. -/
theorem frames_line_append {body : List α} (absent : newline ∉ body) (rest : List α) :
    frames newline (body ++ newline :: rest) =
      ((body ++ [newline]) :: (frames newline rest).1, (frames newline rest).2) := by
  induction body with
  | nil => simp [frames]
  | cons x body ih =>
      obtain ⟨differs, absent⟩ := not_or.mp (List.mem_cons.not.mp absent)
      rw [List.cons_append, frames, if_neg (Ne.symm differs), ih absent]
      rfl

/-- Every text has no newline, or starts with a first line. -/
theorem split_first_line (newline : α) (text : List α) :
    newline ∉ text ∨ ∃ body rest, text = body ++ newline :: rest ∧ newline ∉ body := by
  by_cases present : newline ∈ text
  · exact .inr (List.eq_append_cons_of_mem present)
  · exact .inl present

/-- Induction on the lines of a text: a text without a newline, or a line in front. -/
theorem lines_induction {motive : List α → Prop} (newline : α)
    (tail : ∀ text, newline ∉ text → motive text)
    (line : ∀ body rest, newline ∉ body → motive rest → motive (body ++ newline :: rest)) :
    ∀ text, motive text := by
  intro text
  induction hn : text.length using Nat.strongRecOn generalizing text with
  | ind n ih =>
      rcases split_first_line newline text with absent | ⟨body, rest, rfl, absent⟩
      · exact tail text absent
      · refine line body rest absent (ih rest.length ?_ rest rfl)
        rw [← hn, List.length_append, List.length_cons]
        omega

theorem tail_not_mem (newline : α) (text : List α) : newline ∉ (frames newline text).2 := by
  induction text using lines_induction newline with
  | tail text absent => simpa [frames_of_not_mem absent] using absent
  | line body rest absent ih => simpa [frames_line_append absent] using ih

/-- **Nothing is lost**: the lines and the tail, in order, are the text. -/
theorem flatten_frames (newline : α) (text : List α) :
    (frames newline text).1.flatten ++ (frames newline text).2 = text := by
  induction text using lines_induction newline with
  | tail text absent => simp [frames_of_not_mem absent]
  | line body rest absent ih =>
      rw [frames_line_append absent, List.flatten_cons, List.append_assoc, ih]
      simp

/-- **A stream can be cut while it arrives**: what follows `first` is read after its tail. -/
theorem frames_append (first second : List α) :
    frames newline (first ++ second) =
      ((frames newline first).1 ++ (frames newline ((frames newline first).2 ++ second)).1,
        (frames newline ((frames newline first).2 ++ second)).2) := by
  induction first using lines_induction newline with
  | tail first absent => simp [frames_of_not_mem absent]
  | line body rest absent ih =>
      rw [List.append_assoc, List.cons_append, frames_line_append absent,
        frames_line_append absent, ih]
      rfl

/-- The tail of a prefix opens a line of the whole stream, or its tail. -/
theorem tail_length_lt_of_append {cap : ℕ} {first second : List α}
    (fits : Fits newline cap (first ++ second)) : (frames newline first).2.length < cap := by
  rw [Fits, frames_append] at fits
  obtain ⟨lines, tail⟩ := fits
  have clean := tail_not_mem newline first
  generalize (frames newline first).2 = opened at lines tail clean ⊢
  rcases split_first_line newline second with absent | ⟨body, rest, rfl, absent⟩
  · rw [frames_of_not_mem (List.not_mem_append clean absent), List.length_append] at tail
    omega
  · have both := List.not_mem_append clean absent
    rw [← List.append_assoc, frames_line_append both] at lines
    have first := lines (opened ++ body ++ [newline]) (by simp)
    simp only [List.length_append] at first
    omega

/-- A bound on a stream is a bound on what remains to be read after a prefix of it. -/
theorem Fits.rest {cap : ℕ} {first second : List α}
    (fits : Fits newline cap (first ++ second)) :
    Fits newline cap ((frames newline first).2 ++ second) := by
  rw [Fits, frames_append] at fits
  exact ⟨fun line member => fits.1 line (List.mem_append_right _ member), fits.2⟩

/-- The first newline, found by its index, ends the first line. -/
theorem frames_of_findIdx?_some {text : List α} {i : ℕ}
    (found : text.findIdx? (fun x => decide (x = newline)) = some i) :
    frames newline text =
      (text.take (i + 1) :: (frames newline (text.drop (i + 1))).1,
        (frames newline (text.drop (i + 1))).2) := by
  obtain ⟨bound, hit, before⟩ := List.findIdx?_eq_some_iff_getElem.mp found
  have here : text[i] = newline := by simpa using hit
  have absent : newline ∉ text.take i := by
    intro member
    obtain ⟨j, hj, same⟩ := List.mem_take_iff_getElem.mp member
    exact absurd same (by simpa using before j (by omega))
  have cut : text = text.take i ++ newline :: text.drop (i + 1) := by
    rw [← here, List.getElem_cons_drop, List.take_append_drop]
  have head : text.take (i + 1) = text.take i ++ [newline] := by
    rw [← List.take_append_getElem bound, here]
  conv_lhs => rw [cut]
  rw [frames_line_append absent, head]

theorem frames_of_findIdx?_none {text : List α}
    (absent : text.findIdx? (fun x => decide (x = newline)) = none) :
    frames newline text = ([], text) := by
  apply frames_of_not_mem
  intro member
  simpa using List.findIdx?_eq_none_iff.mp absent newline member

end LineText
