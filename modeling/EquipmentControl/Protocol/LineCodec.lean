import Mathlib.Data.List.DropRight
import EquipmentControl.Library.Tokens
import EquipmentControl.Protocol.Message

/-!
# The line codec

`lineParse` and `lineFormat` (`common/src/protocol/line_codec.c`), with the integer
conversions of the C library they call. `long` has 64 bits.

What a key does to the message is said once (`applyKey_step`): it sets its own field.

`lineFormat` appends the role, the type and every present key in canonical order, each only
if it still fits; it succeeds exactly when the complete text, a newline and a NUL fit
(`lineFormat_eq`).
-/

set_option autoImplicit false

namespace EquipmentControl

open DecimalText TokenText

/-! ## `strtoul` and `strtol` -/

/-- `isspace` in the C locale. -/
def isSpace (b : UInt8) : Bool :=
  decide (b = 32) || (decide (9 ≤ b.toNat) && decide (b.toNat ≤ 13))

/-- The sign and the magnitude of the decimal numeral a text starts with. -/
def scanInteger (text : Bytes) : Bool × ℕ :=
  let body := text.dropWhile isSpace
  let negative := decide (body.head? = some 45)
  let digits := if negative ∨ body.head? = some 43 then body.tail else body
  (negative, digitsValue (digits.takeWhile isDigit))

/-- `strtoul(text, NULL, 10)`: a minus sign negates in `unsigned long`, overflow saturates. -/
def strtoul (text : Bytes) : ℕ :=
  let (negative, magnitude) := scanInteger text
  if 2 ^ 64 ≤ magnitude then 2 ^ 64 - 1
  else if negative then (2 ^ 64 - magnitude) % 2 ^ 64
  else magnitude

/-- `strtol(text, NULL, 10)`: overflow saturates. -/
def strtol (text : Bytes) : ℤ :=
  let (negative, magnitude) := scanInteger text
  max (-2 ^ 63) (min (2 ^ 63 - 1) (if negative then -(magnitude : ℤ) else magnitude))

/-! ## Names of roles and types -/

def roleFrom (s : Bytes) : MsgRole :=
  if s = ascii "REQ" then .req
  else if s = ascii "RESP" then .resp
  else if s = ascii "EVT" then .evt
  else .unknown

def typeFrom (s : Bytes) : MsgType :=
  if s = ascii "PING" then .ping
  else if s = ascii "REGISTER" then .register
  else if s = ascii "START" then .start
  else if s = ascii "STOP" then .stop
  else if s = ascii "STATUS" then .status
  else if s = ascii "RESET" then .reset
  else if s = ascii "FAULT" then .fault
  else if s = ascii "TELEMETRY" then .telemetry
  else if s = ascii "ALARM" then .alarm
  else if s = ascii "ERROR" then .error
  else .unknown

def roleTo : MsgRole → Bytes
  | .req => ascii "REQ"
  | .resp => ascii "RESP"
  | .evt => ascii "EVT"
  | .unknown => ascii "UNK"

def typeTo : MsgType → Bytes
  | .ping => ascii "PING"
  | .register => ascii "REGISTER"
  | .start => ascii "START"
  | .stop => ascii "STOP"
  | .status => ascii "STATUS"
  | .reset => ascii "RESET"
  | .fault => ascii "FAULT"
  | .telemetry => ascii "TELEMETRY"
  | .alarm => ascii "ALARM"
  | .error => ascii "ERROR"
  | .unknown => ascii "UNKNOWN"

theorem roleFrom_roleTo (role : MsgRole) : roleFrom (roleTo role) = role := by
  cases role <;> rfl

theorem typeFrom_typeTo (type : MsgType) : typeFrom (typeTo type) = type := by
  cases type <;> rfl

/-! ## Parsing -/

def isCrlf (b : UInt8) : Bool := decide (b = 10) || decide (b = 13)

/-- The separators of `strtok_r(..., " \t", ...)`. -/
def isBlank (b : UInt8) : Bool := decide (b = 32) || decide (b = 9)

/-- Strip trailing CR and LF. -/
def rstripCrlf (s : Bytes) : Bytes := s.rdropWhile isCrlf

/-- The keys that set a field. -/
def knownKeys : List Bytes :=
  ["dev", "seq", "ok", "code", "state", "msg", "temp", "pressure", "flow"].map ascii

theorem mem_knownKeys {key : Bytes} :
    key ∈ knownKeys ↔ key = ascii "dev" ∨ key = ascii "seq" ∨ key = ascii "ok" ∨
      key = ascii "code" ∨ key = ascii "state" ∨ key = ascii "msg" ∨ key = ascii "temp" ∨
      key = ascii "pressure" ∨ key = ascii "flow" := by
  simp only [knownKeys, List.map_cons, List.map_nil, List.mem_cons, List.not_mem_nil, or_false]

section Codec

variable {δ : Type} [CDouble δ]

/-- What a known key does to the message; unknown keys are ignored. -/
def applyKey (m : Message δ) (key val : Bytes) : Message δ :=
  if key = ascii "dev" then { m with dev := some (UInt32.ofNat (strtoul val)) }
  else if key = ascii "seq" then { m with seq := some (UInt32.ofNat (strtoul val)) }
  else if key = ascii "ok" then { m with ok := some (Int32.ofInt (strtol val)) }
  else if key = ascii "code" then { m with code := some (Int32.ofInt (strtol val)) }
  else if key = ascii "state" then { m with state := some (strncpy 31 val) }
  else if key = ascii "msg" then { m with msg := some (strncpy 127 val) }
  else if key = ascii "temp" then { m with temp := some (CDouble.strtod val) }
  else if key = ascii "pressure" then { m with pressure := some (CDouble.strtod val) }
  else if key = ascii "flow" then { m with flow := some (CDouble.strtod val) }
  else m

/-- A token with `=` is a key and a value; others are ignored. -/
def applyToken (m : Message δ) (tok : Bytes) : Message δ :=
  if 61 ∈ tok then applyKey m (tok.takeWhile (· ≠ 61)) (tok.dropWhile (· ≠ 61)).tail else m

/-- `line_parse`: `none` is the result -1. -/
def lineParse (line : Bytes) : Option (Message δ) :=
  let n := min (cString line).length 511
  if n = 0 ∨ 511 ≤ n then none
  else
    match tokens isBlank (rstripCrlf ((cString line).take n)) with
    | tokRole :: tokType :: rest =>
        if roleFrom tokRole = .unknown ∨ typeFrom tokType = .unknown then none
        else some (rest.foldl applyToken { role := roleFrom tokRole, type := typeFrom tokType })
    | _ => none

/-- What a key does to a message: it sets its own field, and every other one is kept. -/
structure KeyStep (key val : Bytes) (m next : Message δ) : Prop where
  role : next.role = m.role
  type : next.type = m.type
  dev : next.dev = if key = ascii "dev" then some (UInt32.ofNat (strtoul val)) else m.dev
  seq : next.seq = if key = ascii "seq" then some (UInt32.ofNat (strtoul val)) else m.seq
  ok : next.ok = if key = ascii "ok" then some (Int32.ofInt (strtol val)) else m.ok
  code : next.code = if key = ascii "code" then some (Int32.ofInt (strtol val)) else m.code
  state : next.state = if key = ascii "state" then some (strncpy 31 val) else m.state
  msg : next.msg = if key = ascii "msg" then some (strncpy 127 val) else m.msg
  temp : next.temp = if key = ascii "temp" then some (CDouble.strtod val) else m.temp
  pressure : next.pressure =
    if key = ascii "pressure" then some (CDouble.strtod val) else m.pressure
  flow : next.flow = if key = ascii "flow" then some (CDouble.strtod val) else m.flow

theorem applyKey_step (m : Message δ) (key val : Bytes) :
    KeyStep key val m (applyKey m key val) := by
  by_cases known : key ∈ knownKeys
  · simp only [mem_knownKeys] at known
    rcases known with rfl | rfl | rfl | rfl | rfl | rfl | rfl | rfl | rfl <;> constructor <;> rfl
  · simp only [mem_knownKeys, not_or] at known
    constructor <;> simp only [applyKey, known, if_false]

/-! ## Formatting -/

def keyWord (key : String) (value : Bytes) : Bytes := ascii key ++ 61 :: value

/-- The present keys with their values, in canonical order. -/
def keyWords (m : Message δ) : List Bytes :=
  (m.dev.map fun dev => keyWord "dev" (decimal dev.toNat)).toList ++
  (m.seq.map fun seq => keyWord "seq" (decimal seq.toNat)).toList ++
  (m.ok.map fun ok => keyWord "ok" (signedDecimal ok.toInt)).toList ++
  (m.state.map fun state => keyWord "state" state.bytes).toList ++
  (m.code.map fun code => keyWord "code" (signedDecimal code.toInt)).toList ++
  (m.msg.map fun msg => keyWord "msg" msg.bytes).toList ++
  (m.temp.map fun temp => keyWord "temp" (CDouble.fixed2 temp)).toList ++
  (m.pressure.map fun pressure => keyWord "pressure" (CDouble.fixed2 pressure)).toList ++
  (m.flow.map fun flow => keyWord "flow" (CDouble.fixed2 flow)).toList

/-- One `snprintf` at the end of the text: it fails unless text and NUL fit into `cap`. -/
def appendText (cap : ℕ) (w text : Bytes) : Option Bytes :=
  if cap ≤ w.length + text.length then none else some (w ++ text)

/-- `line_format` into `cap` bytes: `none` is the result -1. -/
def lineFormat (m : Message δ) (cap : ℕ) : Option Bytes :=
  if cap < 8 then none
  else do
    let head ← appendText cap [] (roleTo m.role ++ 32 :: typeTo m.type)
    let w ← (keyWords m).foldlM (fun w word => appendText cap w (32 :: word)) head
    if cap < w.length + 2 then none else some (w ++ [10])

/-- The complete text of a message, without the newline. -/
def lineText (m : Message δ) : Bytes :=
  roleTo m.role ++ 32 :: typeTo m.type ++ (keyWords m).flatMap fun word => 32 :: word

theorem foldlM_appendText (cap : ℕ) {w : Bytes} (fits : w.length < cap) (words : List Bytes) :
    words.foldlM (fun w word => appendText cap w (32 :: word)) w =
      if (w ++ words.flatMap fun word => 32 :: word).length < cap
      then some (w ++ words.flatMap fun word => 32 :: word) else none := by
  induction words generalizing w with
  | nil => simp [fits]
  | cons word words ih =>
      rw [List.foldlM_cons, appendText]
      split
      · rename_i long
        have total : ¬ (w ++ (word :: words).flatMap fun word => 32 :: word).length < cap := by
          simp only [List.flatMap_cons, List.length_append] at long ⊢
          omega
        rw [if_neg total]
        rfl
      · rename_i short
        rw [Option.bind_eq_bind, Option.bind_some, ih (by rw [List.length_append]; omega),
          List.flatMap_cons, List.append_assoc]

/-- **`line_format` succeeds exactly when the complete text, a newline and a NUL fit.** -/
theorem lineFormat_eq (m : Message δ) (cap : ℕ) :
    lineFormat m cap =
      if cap < 8 ∨ cap < (lineText m).length + 2 then none else some (lineText m ++ [10]) := by
  have total : (roleTo m.role ++ 32 :: typeTo m.type).length ≤ (lineText m).length := by
    simp [lineText]
  rw [lineFormat]
  by_cases tiny : cap < 8
  · rw [if_pos tiny, if_pos (.inl tiny)]
  rw [if_neg tiny, appendText]
  split
  · rename_i long
    rw [if_pos (.inr (by simp only [List.length_nil] at long; omega))]
    rfl
  rename_i short
  rw [Option.bind_eq_bind, Option.bind_some, List.nil_append,
    foldlM_appendText cap (by simpa using short)]
  change (if (lineText m).length < cap then some (lineText m) else none).bind _ = _
  by_cases room : (lineText m).length < cap
  · rw [if_pos room, Option.bind_some]
    by_cases last : cap < (lineText m).length + 2
    · rw [if_pos last, if_pos (.inr last)]
    · rw [if_neg last, if_neg (by omega)]
  · rw [if_neg room, if_pos (.inr (by omega))]
    rfl

end Codec

end EquipmentControl
