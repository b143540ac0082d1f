import Mathlib.Algebra.Order.Floor.Defs
import Mathlib.Data.List.TakeWhile
import Mathlib.Data.Rat.Floor
import EquipmentControl.Library.Decimal

/-!
# Messages

The message object shared by every node (`common/include/protocol/message.h`), and the parts
of the C library it is read and written with.

A text in a fixed `char` array is a `CString`: it carries its bound and is free of NUL bytes,
so an unterminated array cannot be built. A key with its `has_` flag is an `Option`: the
value of an absent key is never read. A `double` is a value of any type with the operations
the programs use (`CDouble`); the exact rationals are one instance.
-/

set_option autoImplicit false

namespace EquipmentControl

open DecimalText

/-! ## Bytes and C strings -/

abbrev Bytes := List UInt8

/-- The bytes of a string literal of the source. -/
def ascii (text : String) : Bytes := text.toList.map Char.toUInt8

/-- What a C string function sees of a buffer: the bytes before the first NUL. -/
def cString (buffer : Bytes) : Bytes := buffer.takeWhile (· ≠ 0)

theorem zero_not_mem_cString (buffer : Bytes) : 0 ∉ cString buffer := by
  intro member
  simpa using List.mem_takeWhile_imp member

theorem cString_of_not_mem {buffer : Bytes} (nulFree : 0 ∉ buffer) : cString buffer = buffer := by
  apply List.takeWhile_eq_self_iff.mpr
  intro b member
  simpa using fun zero : b = 0 => nulFree (zero ▸ member)

/-- The text in a `char` array of `cap + 1` bytes: at most `cap` bytes before its NUL. -/
@[ext] structure CString (cap : ℕ) where
  bytes : Bytes
  length_le : bytes.length ≤ cap
  nulFree : 0 ∉ bytes
deriving DecidableEq

/-- The text of a zeroed array. -/
def CString.empty (cap : ℕ) : CString cap := ⟨[], by simp, by simp⟩

/-- `strncpy` of at most `cap` bytes into an array of `cap + 1`, the last of which is NUL. -/
def strncpy (cap : ℕ) (source : Bytes) : CString cap where
  bytes := (cString source).take cap
  length_le := by simp
  nulFree member := zero_not_mem_cString source (List.mem_of_mem_take member)

/-- A text that fits is copied unchanged. -/
theorem strncpy_bytes {cap : ℕ} (text : CString cap) : strncpy cap text.bytes = text := by
  ext1
  change (cString text.bytes).take cap = text.bytes
  rw [cString_of_not_mem text.nulFree, List.take_of_length_le text.length_le]

/-! ## Doubles -/

/-- The operations the programs use on `double`. -/
class CDouble (δ : Type) where
  /-- The value of a literal of the source; an all-zero object is `literal 0`. -/
  literal : ℚ → δ
  add : δ → δ → δ
  sub : δ → δ → δ
  less : δ → δ → Bool
  strtod : Bytes → δ
  /-- The conversion `%f` of `sscanf`, when the text has one. -/
  scanFloat : Bytes → Option δ
  /-- The rendering `%.2f` of `printf`. -/
  fixed2 : δ → Bytes

/-- Rounding to the nearest integer, ties to even. -/
def roundHalfEven (q : ℚ) : ℤ :=
  if q - ⌊q⌋ < 1 / 2 then ⌊q⌋
  else if 1 / 2 < q - ⌊q⌋ then ⌊q⌋ + 1
  else if ⌊q⌋ % 2 = 0 then ⌊q⌋ else ⌊q⌋ + 1

/-- `%.2f` of an exact rational. -/
def fixed2Rat (q : ℚ) : Bytes :=
  let hundredths := (roundHalfEven (q * 100)).natAbs
  (if q < 0 then ascii "-" else []) ++ decimal (hundredths / 100) ++ ascii "." ++
    [digitByte (hundredths % 100 / 10), digitByte (hundredths % 10)]

/-- A plain decimal numeral, with an optional sign and fraction, at the start of a text. -/
def scanRat (text : Bytes) : Option ℚ :=
  let negative := text.head? = some 45
  let body := if negative ∨ text.head? = some 43 then text.tail else text
  let whole := body.takeWhile isDigit
  let afterWhole := body.dropWhile isDigit
  let fraction := if afterWhole.head? = some 46 then afterWhole.tail.takeWhile isDigit else []
  if whole = [] ∧ fraction = [] then none
  else
    let magnitude : ℚ := digitsValue whole + digitsValue fraction / 10 ^ fraction.length
    some (if negative then -magnitude else magnitude)

/-- Exact rationals, read from and written to plain decimal numerals. They stand for a `double` that
is not rounded, without exponents, infinities and NaN. -/
instance : CDouble ℚ where
  literal q := q
  add := (· + ·)
  sub := (· - ·)
  less p q := decide (p < q)
  strtod text := (scanRat text).getD 0
  scanFloat := scanRat
  fixed2 := fixed2Rat

/-! ## The message object -/

inductive MsgRole where
  | req | resp | evt | unknown
deriving DecidableEq, Repr

inductive MsgType where
  | ping | register | start | stop | status | reset | fault | error | telemetry | alarm | unknown
deriving DecidableEq, Repr

/-- `message_t`. -/
@[ext] structure Message (δ : Type) where
  role : MsgRole
  type : MsgType
  dev : Option UInt32 := none
  seq : Option UInt32 := none
  ok : Option Int32 := none
  code : Option Int32 := none
  state : Option (CString 31) := none
  msg : Option (CString 127) := none
  temp : Option δ := none
  pressure : Option δ := none
  flow : Option δ := none
deriving DecidableEq

end EquipmentControl
