import EquipmentControl.Protocol.RoundTrip

/-!
# The keys of a line

An accepted line is read as a role, a type and the tokens after them (`lineParse_some`). What a
field of the message holds depends on the last of these tokens with its key alone
(`foldl_applyToken_field`): a device number, for one, is what `strtoul` makes of the value of the
last `dev=`, cut to 32 bits (`lineParse_dev`).

`strtoul` reads a numeral of any length and saturates at the end of `unsigned long`
(`strtoul_digits`), so a device number is exact only below `2 ^ 32`.
-/

set_option autoImplicit false

namespace EquipmentControl

open DecimalText TokenText

/-- The value of a token with a key: what follows its first `=`. -/
def tokenValue (key tok : Bytes) : Option Bytes :=
  if 61 ∈ tok ∧ tok.takeWhile (· ≠ 61) = key then some (tok.dropWhile (· ≠ 61)).tail else none

/-- The value of the last token with a key. -/
def lastValue (key : Bytes) (toks : List Bytes) : Option Bytes :=
  toks.reverse.findSome? (tokenValue key)

/-- The tokens of a line after its role and type. -/
def keyTokens (line : Bytes) : List Bytes := (tokens isBlank (rstripCrlf (cString line))).drop 2

theorem lastValue_concat (key : Bytes) (toks : List Bytes) (tok : Bytes) :
    lastValue key (toks ++ [tok]) = (tokenValue key tok).or (lastValue key toks) := by
  rw [lastValue, List.reverse_append, List.reverse_singleton, List.findSome?_append, lastValue]
  cases value : tokenValue key tok <;> simp [value]

/-- The value of a key is part of a token. -/
theorem lastValue_subset {key val : Bytes} {toks : List Bytes}
    (last : lastValue key toks = some val) : ∃ tok ∈ toks, val ⊆ tok := by
  obtain ⟨tok, member, value⟩ := List.exists_of_findSome?_eq_some last
  refine ⟨tok, List.mem_reverse.mp member, ?_⟩
  rw [tokenValue] at value
  split at value
  · cases value
    exact List.Subset.trans (List.tail_subset _) (List.dropWhile_sublist _).subset
  · cases value

/-- A token of a line holds no blanks, and only what is left of the line once its end is
stripped. -/
theorem mem_of_mem_keyTokens {line tok : Bytes} (member : tok ∈ keyTokens line) {b : UInt8}
    (inside : b ∈ tok) : b ∈ rstripCrlf (cString line) ∧ isBlank b = false :=
  mem_of_mem_tokens (List.mem_of_mem_drop member) inside

section Codec

variable {δ : Type} [CDouble δ]

/-- An accepted line has a known role and type, and its message is read from the tokens after
them. -/
theorem lineParse_some {line : Bytes} {m : Message δ} (parsed : lineParse line = some m) :
    ∃ role type, tokens isBlank (rstripCrlf (cString line)) = role :: type :: keyTokens line ∧
      roleFrom role ≠ .unknown ∧ typeFrom type ≠ .unknown ∧
      m = (keyTokens line).foldl applyToken { role := roleFrom role, type := typeFrom type } := by
  simp only [lineParse] at parsed
  split at parsed
  · cases parsed
  rename_i room
  rw [List.take_of_length_le (by omega)] at parsed
  split at parsed
  · rename_i role type rest split
    split at parsed
    · cases parsed
    · rename_i known
      have after : keyTokens line = rest := by rw [keyTokens, split]; rfl
      rw [after]
      exact ⟨role, type, split, (not_or.mp known).1, (not_or.mp known).2,
        (Option.some.inj parsed).symm⟩
  · cases parsed

/-- **The last token with its key decides a field** that its own key sets and no other key
touches. -/
theorem foldl_applyToken_field {τ : Type} {key : Bytes} {field : Message δ → Option τ}
    {read : Bytes → τ}
    (step : ∀ m other val,
      field (applyKey m other val) = if other = key then some (read val) else field m)
    (m : Message δ) (toks : List Bytes) :
    field (toks.foldl applyToken m) = ((lastValue key toks).map read).or (field m) := by
  induction toks using List.reverseRecOn with
  | nil => rfl
  | append_singleton toks tok ih =>
      rw [List.foldl_concat, lastValue_concat, applyToken, tokenValue]
      by_cases hasEq : 61 ∈ tok
      · rw [if_pos hasEq, step]
        by_cases same : tok.takeWhile (· ≠ 61) = key
        · rw [if_pos same, if_pos ⟨hasEq, same⟩]
          rfl
        · rw [if_neg same, if_neg fun both => same both.2, ih]
          rfl
      · rw [if_neg hasEq, if_neg fun both => hasEq both.1, ih]
        rfl

/-- A field of an accepted line that only its own key sets is read from the last token with that
key. -/
theorem lineParse_field {τ : Type} {key : Bytes} {field : Message δ → Option τ} {read : Bytes → τ}
    (step : ∀ m other val,
      field (applyKey m other val) = if other = key then some (read val) else field m)
    (absent : ∀ role type, field { role := role, type := type } = none) {line : Bytes}
    {m : Message δ} (parsed : lineParse line = some m) :
    field m = (lastValue key (keyTokens line)).map read := by
  obtain ⟨role, type, _, _, _, rfl⟩ := lineParse_some parsed
  rw [foldl_applyToken_field step, absent, Option.or_none]

/-- **The device of an accepted line** is what `strtoul` makes of its last `dev=`, cut to 32
bits. -/
theorem lineParse_dev {line : Bytes} {m : Message δ} (parsed : lineParse line = some m) :
    m.dev = (lastValue (ascii "dev") (keyTokens line)).map fun val => UInt32.ofNat (strtoul val) :=
  lineParse_field (fun m key val => (applyKey_step m key val).dev) (fun _ _ => rfl) parsed

/-- The state of an accepted line is its last `state=`, cut to the array. -/
theorem lineParse_state {line : Bytes} {m : Message δ} (parsed : lineParse line = some m) :
    m.state = (lastValue (ascii "state") (keyTokens line)).map (strncpy 31) :=
  lineParse_field (fun m key val => (applyKey_step m key val).state) (fun _ _ => rfl) parsed

/-- The text of an accepted line is its last `msg=`, cut to the array. -/
theorem lineParse_msg {line : Bytes} {m : Message δ} (parsed : lineParse line = some m) :
    m.msg = (lastValue (ascii "msg") (keyTokens line)).map (strncpy 127) :=
  lineParse_field (fun m key val => (applyKey_step m key val).msg) (fun _ _ => rfl) parsed

end Codec

/-! ## Numerals of any length -/

/-- **`strtoul` of a string of digits** is its value, held at the end of `unsigned long`. -/
theorem strtoul_digits {text : Bytes} (digits : ∀ b ∈ text, isDigit b = true) :
    strtoul text = min (digitsValue text) (2 ^ 64 - 1) := by
  simp only [strtoul, scanInteger_digits digits, Bool.false_eq_true, if_false]
  split <;> omega

end EquipmentControl
