import EquipmentControl.Library.StringBuffer
import EquipmentControl.Protocol.LineCodec

/-!
# Parsing in the buffer

`line_parse` (`common/src/protocol/line_codec.c`) as it works on its scratch buffer: the line is
copied behind a NUL, CRs and LFs at its end are overwritten, `strtok_r` writes a NUL after each
token and saves where to go on, and the `=` of a token is overwritten before its key and value are
read through pointers into the buffer.

None of these writes disturbs what is read later, so the result is that of `lineParse`, whatever the
buffer held before (`lineParseBuffer_eq`).
-/

set_option autoImplicit false

namespace EquipmentControl

open StringBuffer TokenText

/-- `rstrip_crlf` on the buffer. -/
def rstripCrlfBuffer (buf : Bytes) : Bytes :=
  stripEnd 0 isCrlf (stringAt 0 buf 0).length buf

/-- `strtok_r(NULL, " \t", &save)`; the first call starts with the beginning of the buffer. -/
def strtokR (buf : Bytes) (save : ℕ) : Option ℕ × Bytes × ℕ := splitNext 0 isBlank buf save

section Codec

variable {δ : Type} [CDouble δ]

/-- The loop over the keys. Every round takes a byte off the text, so there are as many rounds as
bytes in the buffer. -/
def keyLoop : ℕ → Bytes → ℕ → Message δ → Message δ
  | 0, _, _, m => m
  | rounds + 1, buf, save, m =>
      match strtokR buf save with
      | (none, _, _) => m
      | (some tok, buf, save) =>
          (findIn 0 buf tok 61).elim (keyLoop rounds buf save m) fun eq =>
            let buf := buf.set eq 0
            keyLoop rounds buf save (applyKey m (stringAt 0 buf tok) (stringAt 0 buf (eq + 1)))

/-- What `line_parse` makes of the text in its buffer: the role, the type and the keys. -/
def parseTokens (buf : Bytes) : Option (Message δ) :=
  match strtokR buf 0 with
  | (none, _, _) => none
  | (some tokRole, buf, save) =>
      match strtokR buf save with
      | (none, _, _) => none
      | (some tokType, buf, save) =>
          let role := roleFrom (stringAt 0 buf tokRole)
          let type := typeFrom (stringAt 0 buf tokType)
          if role = .unknown ∨ type = .unknown then none
          else some (keyLoop buf.length buf save { role := role, type := type })

/-- `line_parse`, with what the buffer on the stack holds before: `none` is the result -1. -/
def lineParseBuffer (scratch line : Bytes) : Option (Message δ) :=
  let n := min (cString line).length 511
  if n = 0 ∨ 511 ≤ n then none
  else parseTokens (rstripCrlfBuffer (line.take n ++ 0 :: scratch.drop (n + 1)))

/-- The message of a list of tokens. -/
def messageOf : List Bytes → Option (Message δ)
  | role :: type :: toks =>
      if roleFrom role = .unknown ∨ typeFrom type = .unknown then none
      else some (toks.foldl applyToken { role := roleFrom role, type := typeFrom type })
  | _ => none

/-- A line within its bounds is read as the message of its tokens. -/
theorem lineParse_eq (line : Bytes) :
    lineParse line =
      if (cString line).length = 0 ∨ 511 ≤ (cString line).length then none
      else (messageOf (tokens isBlank (rstripCrlf (cString line))) : Option (Message δ)) := by
  rw [lineParse]
  split
  · rw [if_pos (by omega)]
  · rw [if_neg (by omega), List.take_of_length_le (by omega)]
    rfl

/-! ## The loop over the keys -/

/-- A token with `=` is its key, the `=` and its value. -/
theorem key_value {tok : Bytes} (hasEq : 61 ∈ tok) :
    tok.takeWhile (· ≠ 61) ++ 61 :: (tok.dropWhile (· ≠ 61)).tail = tok := by
  have halves := List.takeWhile_append_dropWhile (p := fun b : UInt8 => decide (b ≠ 61)) (l := tok)
  have second := List.head?_dropWhile_not (fun b : UInt8 => decide (b ≠ 61)) tok
  cases left : tok.dropWhile (fun b : UInt8 => decide (b ≠ 61)) with
  | nil =>
      rw [left, List.append_nil] at halves
      rw [← halves] at hasEq
      simpa using List.mem_takeWhile_imp hasEq
  | cons b rest =>
      rw [left] at halves second
      obtain rfl : b = 61 := by simpa using second
      exact halves

/-- **The loop reads the tokens that are left**, one after the other. -/
theorem keyLoop_eq (after : Bytes) {rounds : ℕ} {before text : Bytes} (clean : 0 ∉ text)
    (enough : text.length < rounds) (m : Message δ) :
    keyLoop rounds (before ++ text ++ 0 :: after) before.length m =
      (tokens isBlank text).foldl applyToken m := by
  induction rounds generalizing before text m with
  | zero => cases enough
  | succ rounds ih =>
  rw [keyLoop, strtokR]
  cases split : tokens isBlank text with
  | nil =>
      have nothing := splitNext_nil before clean split after
      split
      · rfl
      · rename_i result
        rw [result] at nothing
        cases nothing
  | cons tok toks =>
  obtain ⟨lead, passed, rest, next, shorter, cleanRest, others, place⟩ :=
    splitNext_cons before clean split after
  obtain ⟨behind, written⟩ := token_written place after
  have cleanTok : 0 ∉ tok := fun member =>
    clean (mem_of_mem_tokens (split ▸ List.mem_cons_self) member).1
  have found := findIn_append (before ++ lead) cleanTok behind 61
  rw [next]
  simp only
  rw [written, found, List.foldl_cons, applyToken, ← written]
  by_cases hasEq : 61 ∈ tok
  · rw [if_pos hasEq, if_pos hasEq]
    have whole := key_value hasEq
    rw [← whole] at cleanTok
    obtain ⟨key, value⟩ := stringAt_cut (before ++ lead) 61 cleanTok behind
    rw [whole, ← written] at key value
    simp only [Option.elim_some, key, value]
    have inside : (before ++ lead).length + (tok.takeWhile (· ≠ 61)).length < passed.length := by
      have shorter := congrArg List.length whole
      rw [List.length_append, List.length_cons] at shorter
      rcases place with rfl | ⟨rfl, -⟩ <;> simp only [List.length_append] <;> omega
    have sameLength : ∀ i, (passed.set i 0).length = passed.length := fun _ => List.length_set
    rw [List.append_assoc, List.set_append_left _ _ inside, ← List.append_assoc, ← others,
      ← sameLength]
    exact ih cleanRest (by omega) _
  · rw [if_neg hasEq, if_neg hasEq, Option.elim_none, ← others]
    exact ih cleanRest (by omega) m

/-! ## The whole line -/

/-- The text after the copy and the strip: it ends with a NUL, behind which anything may be. -/
theorem rstripCrlfBuffer_append {text : Bytes} (clean : 0 ∉ text) (scratch : Bytes) :
    ∃ after, rstripCrlfBuffer (text ++ 0 :: scratch) = rstripCrlf text ++ 0 :: after := by
  have whole : stringAt 0 (text ++ 0 :: scratch) 0 = text := stringAt_append [] clean scratch
  rw [rstripCrlfBuffer, whole]
  exact stripEnd_append isCrlf text scratch

/-- **Role, type and keys** of a text in the buffer. -/
theorem parseTokens_eq {text : Bytes} (clean : 0 ∉ text) (after : Bytes) :
    (parseTokens (text ++ 0 :: after) : Option (Message δ)) = messageOf (tokens isBlank text) := by
  rw [parseTokens, strtokR]
  cases split : tokens isBlank text with
  | nil =>
      have nothing : (splitNext 0 isBlank (text ++ 0 :: after) 0).1 = none :=
        splitNext_nil [] clean split after
      split
      · rfl
      · rename_i result
        rw [result] at nothing
        cases nothing
  | cons role toks =>
  obtain ⟨lead, passed, rest, next, -, cleanRest, others, place⟩ :=
    splitNext_cons [] clean split after
  change splitNext 0 isBlank (text ++ 0 :: after) 0 = _ at next
  rw [next]
  simp only [strtokR]
  cases toks with
  | nil =>
      have nothing := splitNext_nil passed cleanRest others after
      split
      · rfl
      · rename_i result
        rw [result] at nothing
        cases nothing
  | cons type toks =>
  obtain ⟨lead', passed', rest', next', -, cleanRest', others', place'⟩ :=
    splitNext_cons passed cleanRest others after
  obtain ⟨behind, written⟩ := token_written place' after
  have cleanWord : ∀ tok ∈ role :: type :: toks, 0 ∉ tok := fun tok member nul =>
    clean (mem_of_mem_tokens (split ▸ member) nul).1
  -- there is a second token, so the first was cut off with a NUL of its own
  have roleEnds : passed = lead ++ role ++ [0] := by
    rcases place with ends | ⟨-, rfl⟩
    · exact ends
    · cases others
  have roleRead : stringAt 0 (passed' ++ rest' ++ 0 :: after) lead.length = role := by
    rw [written, roleEnds]
    simpa using stringAt_append lead (cleanWord role (by simp)) (lead' ++ type ++ 0 :: behind)
  have typeRead : stringAt 0 (passed' ++ rest' ++ 0 :: after) (passed ++ lead').length = type := by
    rw [written]
    exact stringAt_append (passed ++ lead') (cleanWord type (by simp)) behind
  have enough : rest'.length < (passed' ++ rest' ++ 0 :: after).length := by
    rw [List.length_append, List.length_append, List.length_cons]
    omega
  rw [next']
  simp only [List.nil_append, roleRead, typeRead, messageOf, ← others']
  rw [keyLoop_eq after cleanRest' enough]

/-- **Parsing in the buffer gives the message of the line**, whatever the buffer held before. -/
theorem lineParseBuffer_eq (scratch line : Bytes) :
    (lineParseBuffer scratch line : Option (Message δ)) = lineParse line := by
  rw [lineParseBuffer, lineParse_eq]
  split
  · rw [if_pos (by omega)]
  rw [if_neg (by omega), Nat.min_eq_left (by omega)]
  have copied : line.take (cString line).length = cString line :=
    (List.prefix_iff_eq_take.mp (List.takeWhile_prefix _)).symm
  have clean := zero_not_mem_cString line
  obtain ⟨after, stripped⟩ :=
    rstripCrlfBuffer_append clean (scratch.drop ((cString line).length + 1))
  rw [copied, stripped]
  exact parseTokens_eq (fun member => clean ((List.rdropWhile_prefix _ _).subset member)) after

end Codec

end EquipmentControl
