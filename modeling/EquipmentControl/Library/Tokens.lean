import Mathlib.Data.List.Basic
import Mathlib.Data.List.TakeWhile

/-!
# Splitting text into tokens

`tokens isSep text` is the list of maximal runs of non-separators of `text`, in order:
the pieces between separators, without the empty ones that adjacent, leading and trailing
separators leave. A text built by putting one separator in front of every further word
splits back into its words (`tokens_words`).
-/

set_option autoImplicit false

namespace TokenText

variable {α : Type*} (isSep : α → Bool)

/-- The maximal runs of non-separators, in order. -/
def tokens (text : List α) : List (List α) :=
  (text.splitOnP isSep).filter fun piece => !piece.isEmpty

/-- A word: a nonempty run without separators. -/
structure IsWord (word : List α) : Prop where
  nonempty : word ≠ []
  clean : ∀ x ∈ word, isSep x = false

variable {isSep}

theorem tokens_word {word : List α} (isWord : IsWord isSep word) :
    tokens isSep word = [word] := by
  rw [tokens, List.splitOnP_eq_singleton isWord.clean]
  simp [isWord.nonempty]

/-- The first token ends at the first separator. -/
theorem tokens_word_append {word : List α} (isWord : IsWord isSep word) {sep : α}
    (separates : isSep sep = true) (rest : List α) :
    tokens isSep (word ++ sep :: rest) = word :: tokens isSep rest := by
  rw [tokens, List.splitOnP_append_cons_of_forall_mem isWord.clean sep separates]
  simp [tokens, isWord.nonempty]

theorem tokens_sep {sep : α} (separates : isSep sep = true) (rest : List α) :
    tokens isSep (sep :: rest) = tokens isSep rest := by
  rw [tokens, List.splitOnP_cons_eq_if_modifyHead, if_pos separates,
    List.filter_cons_of_neg (by simp), tokens]

/-- Leading separators do not count. -/
theorem tokens_dropWhile (text : List α) :
    tokens isSep (text.dropWhile isSep) = tokens isSep text := by
  induction text with
  | nil => rfl
  | cons x text ih =>
      rw [List.dropWhile_cons]
      split
      · rename_i separates
        rw [ih, tokens_sep separates]
      · rfl

/-- A text that starts with a token: the token reaches to the next separator. -/
theorem tokens_run {x : α} (begins : isSep x = false) (text : List α) :
    tokens isSep (x :: text) = (x :: text).takeWhile (fun y => !isSep y) ::
      tokens isSep ((x :: text).dropWhile fun y => !isSep y) := by
  have isWord : IsWord isSep ((x :: text).takeWhile fun y => !isSep y) := by
    refine ⟨by rw [List.takeWhile_cons_of_pos (by simp [begins])]; exact List.cons_ne_nil _ _, ?_⟩
    intro y member
    simpa using List.mem_takeWhile_imp member
  have whole := List.takeWhile_append_dropWhile (p := fun y => !isSep y) (l := x :: text)
  cases after : (x :: text).dropWhile fun y => !isSep y with
  | nil =>
      rw [after, List.append_nil] at whole
      rw [whole] at isWord ⊢
      exact tokens_word isWord
  | cons sep rest =>
      have separates : isSep sep = true := by
        have first := List.head?_dropWhile_not (fun y => !isSep y) (x :: text)
        rw [after] at first
        simpa using first
      rw [tokens_sep separates, ← tokens_word_append isWord separates, ← after, whole]

/-- A text without tokens is made of separators. -/
theorem dropWhile_of_tokens_nil {text : List α} (nothing : tokens isSep text = []) :
    text.dropWhile isSep = [] := by
  rw [← tokens_dropWhile] at nothing
  cases left : text.dropWhile isSep with
  | nil => rfl
  | cons x rest =>
      have begins := List.head?_dropWhile_not isSep text
      rw [left] at nothing begins
      rw [tokens_run (by simpa using begins)] at nothing
      cases nothing

/-- **Where the first token of a text is**: separators, the token, and a rest that has the other
tokens and is empty or begins with a separator. -/
theorem tokens_eq_cons {text word : List α} {words : List (List α)}
    (split : tokens isSep text = word :: words) :
    ∃ rest, text = text.takeWhile isSep ++ word ++ rest ∧ word ≠ [] ∧
      (word ++ rest).takeWhile (fun x => !isSep x) = word ∧ tokens isSep rest = words ∧
      ∀ sep more, rest = sep :: more → isSep sep = true := by
  rw [← tokens_dropWhile] at split
  have whole := List.takeWhile_append_dropWhile (p := isSep) (l := text)
  have first := List.head?_dropWhile_not isSep text
  cases left : text.dropWhile isSep with
  | nil =>
      rw [left] at split
      cases split
  | cons x more =>
  rw [left] at split first whole
  have begins : isSep x = false := by simpa using first
  rw [tokens_run begins] at split
  obtain ⟨wordEq, wordsEq⟩ := List.cons.inj split
  have halves := List.takeWhile_append_dropWhile (p := fun y => !isSep y) (l := x :: more)
  have second := List.head?_dropWhile_not (fun y => !isSep y) (x :: more)
  rw [wordEq] at halves
  refine ⟨(x :: more).dropWhile fun y => !isSep y, ?_, ?_, by rw [halves, wordEq], wordsEq, ?_⟩
  · rw [List.append_assoc, halves, whole]
  · rw [← wordEq, List.takeWhile_cons_of_pos (by simp [begins])]
    exact List.cons_ne_nil _ _
  · intro sep rest same
    rw [same] at second
    simpa using second

/-- A token is made of bytes of the text that are no separators. -/
theorem mem_of_mem_tokens {text token : List α} (member : token ∈ tokens isSep text) {x : α}
    (inside : x ∈ token) : x ∈ text ∧ isSep x = false := by
  have piece : token ∈ text.splitOnP isSep := List.mem_of_mem_filter member
  clear member
  induction text generalizing token with
  | nil =>
      rw [List.splitOnP_nil, List.mem_singleton] at piece
      subst piece
      cases inside
  | cons y text ih =>
      rw [List.splitOnP_cons_eq_if_modifyHead] at piece
      split at piece
      · rcases List.mem_cons.mp piece with rfl | later
        · cases inside
        · obtain ⟨inText, clean⟩ := ih inside later
          exact ⟨List.mem_cons_of_mem y inText, clean⟩
      · rename_i other
        cases pieces : text.splitOnP isSep with
        | nil => exact absurd pieces (List.splitOnP_ne_nil isSep text)
        | cons head later =>
            rw [pieces, List.modifyHead_cons] at piece
            rcases List.mem_cons.mp piece with rfl | inLater
            · rcases List.mem_cons.mp inside with rfl | inHead
              · exact ⟨List.mem_cons_self, Bool.eq_false_iff.mpr other⟩
              · obtain ⟨inText, clean⟩ := ih inHead (pieces ▸ List.mem_cons_self)
                exact ⟨List.mem_cons_of_mem y inText, clean⟩
            · obtain ⟨inText, clean⟩ := ih inside (pieces ▸ List.mem_cons_of_mem head inLater)
              exact ⟨List.mem_cons_of_mem y inText, clean⟩

/-- **Words with one separator in front of each further one split back into the words.** -/
theorem tokens_words {sep : α} (separates : isSep sep = true) {first : List α}
    {words : List (List α)} (isWord : IsWord isSep first)
    (areWords : ∀ word ∈ words, IsWord isSep word) :
    tokens isSep (first ++ words.flatMap fun word => sep :: word) = first :: words := by
  induction words generalizing first with
  | nil => simpa using tokens_word isWord
  | cons word words ih =>
      rw [List.flatMap_cons, List.cons_append, tokens_word_append isWord separates,
        ih (areWords word List.mem_cons_self)
          fun other member => areWords other (List.mem_cons_of_mem word member)]

end TokenText
