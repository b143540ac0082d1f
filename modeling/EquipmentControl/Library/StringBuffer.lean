import EquipmentControl.Library.Tokens
import Mathlib.Data.List.DropRight

/-!
# Strings cut up in their buffer

A buffer holds strings, each ended by a terminator. A pointer into the buffer is an offset, and the
string at an offset is what comes before the next terminator (`stringAt`).

`splitNext` hands out the tokens of a string one by one and writes a terminator after each, as
`strtok_r` does: called again with the offset it saved it goes through all tokens in order
(`splitNext_cons`, `splitNext_nil`). The strings handed out stay readable, because later calls
write behind them. `findIn` is a search in the string at an offset, and `stripEnd` shortens a
string from its end.
-/

set_option autoImplicit false

namespace StringBuffer

open TokenText

variable {α : Type*} [DecidableEq α] (terminator : α)

/-- The string at an offset. -/
def stringAt (buf : List α) (offset : ℕ) : List α :=
  (buf.drop offset).takeWhile fun x => decide (x ≠ terminator)

/-- The next token from the saved offset on: its offset, the buffer with a terminator after the
token, and the offset to save. -/
def splitNext (isSep : α → Bool) (buf : List α) (save : ℕ) : Option ℕ × List α × ℕ :=
  let start := save + ((stringAt terminator buf save).takeWhile isSep).length
  let stop := start + ((stringAt terminator buf start).takeWhile fun x => !isSep x).length
  if stringAt terminator buf start = [] then (none, buf, start)
  else if stringAt terminator buf stop = [] then (some start, buf, stop)
  else (some start, buf.set stop terminator, stop + 1)

/-- The offset of a symbol in the string at an offset. -/
def findIn (buf : List α) (offset : ℕ) (x : α) : Option ℕ :=
  if x ∈ stringAt terminator buf offset then
    some (offset + ((stringAt terminator buf offset).takeWhile fun y => decide (y ≠ x)).length)
  else none

/-- Put terminators over the end of a string of `n` symbols as long as its last one is dropped. -/
def stripEnd (isDropped : α → Bool) : ℕ → List α → List α
  | 0, buf => buf
  | n + 1, buf =>
      match buf[n]? with
      | none => buf
      | some x => if isDropped x then stripEnd isDropped n (buf.set n terminator) else buf

variable {terminator}

/-! ## Reading -/

/-- The string at the end of what comes before it. -/
theorem stringAt_append (before : List α) {text : List α} (clean : terminator ∉ text)
    (after : List α) :
    stringAt terminator (before ++ text ++ terminator :: after) before.length = text := by
  rw [stringAt, List.append_assoc, List.drop_left, List.takeWhile_append_of_pos]
  · simp
  · intro x member
    simpa using fun same : x = terminator => clean (same ▸ member)

/-- A symbol is found at its first place in the string. -/
theorem findIn_append (before : List α) {text : List α} (clean : terminator ∉ text)
    (after : List α) (x : α) :
    findIn terminator (before ++ text ++ terminator :: after) before.length x =
      if x ∈ text then
        some (before.length + (text.takeWhile fun y => decide (y ≠ x)).length)
      else none := by
  rw [findIn, stringAt_append before clean]

/-- **A string cut in two** by a terminator over one of its symbols: both halves can be read. -/
theorem stringAt_cut (before : List α) {first second : List α} (x : α)
    (clean : terminator ∉ first ++ x :: second) (after : List α) :
    let buf := (before ++ (first ++ x :: second) ++ terminator :: after).set
      (before.length + first.length) terminator
    stringAt terminator buf before.length = first ∧
      stringAt terminator buf (before.length + first.length + 1) = second := by
  intro buf
  have cut : buf = before ++ first ++ terminator :: (second ++ terminator :: after) := by
    change (before ++ (first ++ x :: second) ++ terminator :: after).set _ _ = _
    rw [← List.length_append, ← List.append_assoc before, List.append_assoc (before ++ first),
      List.cons_append, List.set_append_right _ _ (Nat.le_refl _), Nat.sub_self]
    rfl
  constructor
  · rw [cut]
    exact stringAt_append before (fun member => clean (List.mem_append_left _ member)) _
  · have cleanSecond : terminator ∉ second := fun member =>
      clean (List.mem_append_right _ (List.mem_cons_of_mem x member))
    rw [cut]
    simpa [Nat.add_assoc] using stringAt_append (before ++ first ++ [terminator]) cleanSecond after

omit [DecidableEq α] in
/-- **Stripping** leaves the string without the dropped symbols at its end. -/
theorem stripEnd_append (isDropped : α → Bool) (text after : List α) :
    ∃ rest, stripEnd terminator isDropped text.length (text ++ terminator :: after) =
      text.rdropWhile isDropped ++ terminator :: rest := by
  induction text using List.reverseRecOn generalizing after with
  | nil => exact ⟨after, rfl⟩
  | append_singleton text x ih =>
      have last : (text ++ [x] ++ terminator :: after)[text.length]? = some x := by simp
      rw [List.length_append, List.length_singleton, stripEnd, last]
      simp only
      split
      · rename_i dropped
        obtain ⟨rest, stripped⟩ := ih (terminator :: after)
        refine ⟨rest, ?_⟩
        rw [List.rdropWhile_concat_pos _ _ _ dropped, ← stripped]
        congr 1
        rw [List.append_assoc, List.set_append_right _ _ (Nat.le_refl _), Nat.sub_self]
        rfl
      · rename_i kept
        exact ⟨after, by rw [List.rdropWhile_concat_neg _ _ _ kept]⟩

/-! ## Tokens one by one -/

/-- When no token is left there is no next one. -/
theorem splitNext_nil {isSep : α → Bool} (before : List α) {text : List α}
    (clean : terminator ∉ text) (nothing : tokens isSep text = []) (after : List α) :
    (splitNext terminator isSep (before ++ text ++ terminator :: after) before.length).1 =
      none := by
  have atEnd : stringAt terminator (before ++ text ++ terminator :: after)
      (before.length + (text.takeWhile isSep).length) = [] := by
    have whole := List.takeWhile_append_dropWhile (p := isSep) (l := text)
    rw [dropWhile_of_tokens_nil nothing, List.append_nil] at whole
    rw [whole, ← List.length_append]
    simpa using stringAt_append (before ++ text) (List.not_mem_nil (a := terminator)) after
  rw [splitNext, stringAt_append before clean, if_pos atEnd]

omit [DecidableEq α] in
/-- What `splitNext` has passed and left has the token and a terminator in it. -/
theorem token_written {before passed rest : List α}
    (place : passed = before ++ [terminator] ∨ passed = before ∧ rest = []) (after : List α) :
    ∃ behind, passed ++ rest ++ terminator :: after = before ++ terminator :: behind := by
  rcases place with rfl | ⟨rfl, rfl⟩
  · exact ⟨rest ++ terminator :: after, by simp⟩
  · exact ⟨after, by rw [List.append_nil]⟩

/-- **The next token** is the first of the tokens left. It is written to the buffer with a
terminator, and what is left of the string has the other tokens. -/
theorem splitNext_cons {isSep : α → Bool} (before : List α) {text word : List α}
    {words : List (List α)} (clean : terminator ∉ text)
    (split : tokens isSep text = word :: words) (after : List α) :
    ∃ lead passed rest, splitNext terminator isSep (before ++ text ++ terminator :: after)
        before.length =
          (some (before ++ lead).length, passed ++ rest ++ terminator :: after, passed.length) ∧
      rest.length < text.length ∧ terminator ∉ rest ∧ tokens isSep rest = words ∧
      (passed = before ++ lead ++ word ++ [terminator] ∨
        passed = before ++ lead ++ word ∧ rest = []) := by
  obtain ⟨rest, whole, someWord, ends, wordsEq, separated⟩ := tokens_eq_cons split
  rw [splitNext, stringAt_append before clean, ← List.length_append]
  generalize text.takeWhile isSep = lead at whole ⊢
  subst whole
  have cleanRest : terminator ∉ rest := fun member => clean (List.mem_append_right _ member)
  have atStart : stringAt terminator (before ++ (lead ++ word ++ rest) ++ terminator :: after)
      (before ++ lead).length = word ++ rest := by
    rw [List.append_assoc lead, ← List.append_assoc before]
    refine stringAt_append (before ++ lead) (fun member => clean ?_) after
    rw [List.append_assoc]
    exact List.mem_append_right lead member
  have atStop : stringAt terminator (before ++ (lead ++ word ++ rest) ++ terminator :: after)
      (before ++ lead ++ word).length = rest := by
    rw [← List.append_assoc before, ← List.append_assoc before]
    exact stringAt_append (before ++ lead ++ word) cleanRest after
  rw [atStart, if_neg (by simp [someWord]), ends, ← List.length_append, atStop]
  have := List.length_pos_of_ne_nil someWord
  cases rest with
  | nil =>
      refine ⟨lead, before ++ lead ++ word, [], ?_, ?_, List.not_mem_nil, wordsEq,
        .inr ⟨rfl, rfl⟩⟩
      · rw [if_pos rfl]
        simp
      · rw [List.append_nil, List.length_append, List.length_nil]
        omega
  | cons sep rest =>
      rw [tokens_sep (separated sep rest rfl)] at wordsEq
      refine ⟨lead, before ++ lead ++ word ++ [terminator], rest, ?_, ?_,
        fun member => cleanRest (List.mem_cons_of_mem sep member), wordsEq, .inl rfl⟩
      · rw [if_neg (List.cons_ne_nil sep rest)]
        simp [Nat.add_assoc]
      · rw [List.length_append, List.length_append, List.length_cons]
        omega

end StringBuffer
