import Mathlib.Data.Nat.Digits.Lemmas

/-!
# Decimal text

`decimal n` writes a natural number in ASCII digits, most significant first and without
leading zeros; `signedDecimal` puts a minus sign in front of a negative number.
`digitsValue` reads a string of digits back. Reading undoes writing
(`digitsValue_decimal`), a numeral consists of digits only (`isDigit_of_mem_decimal`),
and a number below `10 ^ k` takes at most `k` digits (`decimal_length_le`).
-/

set_option autoImplicit false

namespace DecimalText

/-- The ASCII digit of a number below ten. -/
def digitByte (d : ℕ) : UInt8 := UInt8.ofNat (48 + d)

/-- The number an ASCII digit stands for. -/
def digitValue (b : UInt8) : ℕ := b.toNat - 48

def isDigit (b : UInt8) : Bool := decide (48 ≤ b.toNat) && decide (b.toNat ≤ 57)

/-- The decimal numeral of `n`, most significant digit first. -/
def decimal (n : ℕ) : List UInt8 :=
  if n = 0 then [48] else ((Nat.digits 10 n).map digitByte).reverse

/-- The decimal numeral of an integer. -/
def signedDecimal (i : ℤ) : List UInt8 :=
  if i < 0 then 45 :: decimal i.natAbs else decimal i.natAbs

/-- The value of a string of digits, most significant digit first. -/
def digitsValue (text : List UInt8) : ℕ :=
  text.foldl (fun value b => 10 * value + digitValue b) 0

theorem digitByte_toNat {d : ℕ} (small : d < 10) : (digitByte d).toNat = 48 + d := by
  rw [digitByte, UInt8.toNat_ofNat']
  omega

theorem digitValue_digitByte {d : ℕ} (small : d < 10) : digitValue (digitByte d) = d := by
  rw [digitValue, digitByte_toNat small]
  omega

theorem isDigit_digitByte {d : ℕ} (small : d < 10) : isDigit (digitByte d) = true := by
  rw [isDigit, digitByte_toNat small]
  simp
  omega

/-- A numeral consists of digits. -/
theorem isDigit_of_mem_decimal {n : ℕ} {b : UInt8} (member : b ∈ decimal n) :
    isDigit b = true := by
  rw [decimal] at member
  split at member
  · rw [List.mem_singleton.mp member]
    decide
  · obtain ⟨d, digit, rfl⟩ := List.mem_map.mp (List.mem_reverse.mp member)
    exact isDigit_digitByte (Nat.digits_lt_base (by omega) digit)

/-- Horner's rule over the reversed digits is the value in base ten. -/
theorem digitsValue_reverse_map {digits : List ℕ} (small : ∀ d ∈ digits, d < 10) :
    digitsValue (digits.map digitByte).reverse = Nat.ofDigits 10 digits := by
  rw [digitsValue, List.foldl_reverse, List.foldr_map]
  induction digits with
  | nil => rfl
  | cons d digits ih =>
      rw [List.foldr_cons, ih fun e member => small e (List.mem_cons_of_mem d member),
        digitValue_digitByte (small d List.mem_cons_self), Nat.ofDigits_cons]
      exact Nat.add_comm _ _

/-- **Reading a numeral gives the number it was written from.** -/
theorem digitsValue_decimal (n : ℕ) : digitsValue (decimal n) = n := by
  rw [decimal]
  split
  · rename_i zero
    rw [zero]
    rfl
  · rw [digitsValue_reverse_map fun d => Nat.digits_lt_base (by omega), Nat.ofDigits_digits]

/-- A number below `10 ^ k` has at most `k` digits, when at least one is allowed. -/
theorem decimal_length_le {n k : ℕ} (positive : 0 < k) (bound : n < 10 ^ k) :
    (decimal n).length ≤ k := by
  rw [decimal]
  split
  · exact positive
  · rw [List.length_reverse, List.length_map]
    exact (Nat.digits_length_le_iff (by omega) n).mpr bound

/-- A signed numeral consists of digits and minus signs. -/
theorem sign_or_digit_of_mem {i : ℤ} {b : UInt8} (member : b ∈ signedDecimal i) :
    b = 45 ∨ isDigit b = true := by
  rw [signedDecimal] at member
  split at member
  · rcases List.mem_cons.mp member with sign | digit
    · exact .inl sign
    · exact .inr (isDigit_of_mem_decimal digit)
  · exact .inr (isDigit_of_mem_decimal member)

theorem signedDecimal_length_le {i : ℤ} {k : ℕ} (positive : 0 < k) (bound : i.natAbs < 10 ^ k) :
    (signedDecimal i).length ≤ k + 1 := by
  have digits := decimal_length_le positive bound
  rw [signedDecimal]
  split
  · rw [List.length_cons]
    omega
  · omega

end DecimalText
