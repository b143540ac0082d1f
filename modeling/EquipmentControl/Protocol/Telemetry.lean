import EquipmentControl.Protocol.RoundTrip
import Mathlib.Tactic.Linarith
import Mathlib.Tactic.FieldSimp

/-!
# Telemetry on its way

`temp`, `pressure` and `flow` are written with two decimals (`%.2f` in `line_format`,
`common/src/protocol/line_codec.c`) and read back by `strtod`. A message is formatted and parsed at
every hop: by the simulator and the controller, and by the controller and equipmentd.

Parsing the line of a message gives the message back with its telemetry read from two decimals
(`lineParse_reread`). Over exact rationals a value read back is the nearest hundredth
(`scanRat_fixed2Rat`), and stays what it is from then on. However many hops a message takes, its
rational telemetry arrives within half a hundredth of what was sent, and nothing else is changed
(`telemetry_hops`). A `double` is rounded once more when it is read back.
-/

set_option autoImplicit false

namespace EquipmentControl

open DecimalText TokenText

section Codec

variable {δ : Type} [CDouble δ]

/-- A value after it was written and read back. -/
def rereadValue (x : δ) : δ := CDouble.strtod (CDouble.fixed2 x)

/-- A message whose telemetry was written and read back. -/
def reread (m : Message δ) : Message δ :=
  { m with
    temp := m.temp.map rereadValue
    pressure := m.pressure.map rereadValue
    flow := m.flow.map rereadValue }

/-- The texts of a message are clean. -/
structure CleanTexts (m : Message δ) : Prop where
  state : ∀ state ∈ m.state, Clean state.bytes
  msg : ∀ msg ∈ m.msg, Clean msg.bytes

/-- Every key of the message is written as a clean word, when numbers are. -/
theorem CleanTexts.clean_of_mem_keyWords (prints : ∀ x : δ, Clean (CDouble.fixed2 x))
    {m : Message δ} (clean : CleanTexts m) {word : Bytes} (member : word ∈ keyWords m) :
    Clean word := by
  have written : ∀ key : String, Clean (ascii key) → ∀ value, Clean value →
      Clean (keyWord key value) := by
    intro key keyClean value valueClean b inside
    exact (clean_or_mem_of_mem_keyWord keyClean inside).elim id (valueClean b)
  simp only [keyWords, List.mem_append, Option.mem_toList, Option.map_eq_some_iff] at member
  rcases member with (((((((⟨_, _, rfl⟩ | ⟨_, _, rfl⟩) | ⟨_, _, rfl⟩) | ⟨state, present, rfl⟩) |
    ⟨_, _, rfl⟩) | ⟨msg, present, rfl⟩) | ⟨_, _, rfl⟩) | ⟨_, _, rfl⟩) | ⟨_, _, rfl⟩
  · exact written "dev" (by decide) _ (clean_decimal _)
  · exact written "seq" (by decide) _ (clean_decimal _)
  · exact written "ok" (by decide) _ (clean_signedDecimal _)
  · exact written "state" (by decide) _ (clean.state state present)
  · exact written "code" (by decide) _ (clean_signedDecimal _)
  · exact written "msg" (by decide) _ (clean.msg msg present)
  · exact written "temp" (by decide) _ (prints _)
  · exact written "pressure" (by decide) _ (prints _)
  · exact written "flow" (by decide) _ (prints _)

theorem applyKey_temp (m : Message δ) (x : δ) :
    applyKey m (ascii "temp") (CDouble.fixed2 x) = { m with temp := some (rereadValue x) } := rfl

theorem applyKey_pressure (m : Message δ) (x : δ) :
    applyKey m (ascii "pressure") (CDouble.fixed2 x) =
      { m with pressure := some (rereadValue x) } := rfl

theorem applyKey_flow (m : Message δ) (x : δ) :
    applyKey m (ascii "flow") (CDouble.fixed2 x) = { m with flow := some (rereadValue x) } := rfl

/-- **Reading the present keys gives the fields back**, the telemetry from two decimals. -/
theorem foldl_keyWords_reread (m : Message δ) :
    (keyWords m).foldl applyToken { role := m.role, type := m.type } = reread m := by
  obtain ⟨role, type, dev, seq, ok, code, state, msg, temp, pressure, flow⟩ := m
  simp only [keyWords, List.foldl_append]
  rw [foldl_keyWord (by decide) (fun m dev => { m with dev := dev }) applyKey_dev _ rfl,
    foldl_keyWord (by decide) (fun m seq => { m with seq := seq }) applyKey_seq _ rfl,
    foldl_keyWord (by decide) (fun m ok => { m with ok := ok }) applyKey_ok _ rfl,
    foldl_keyWord (by decide) (fun m state => { m with state := state }) applyKey_state _ rfl,
    foldl_keyWord (by decide) (fun m code => { m with code := code }) applyKey_code _ rfl,
    foldl_keyWord (by decide) (fun m msg => { m with msg := msg }) applyKey_msg _ rfl,
    foldl_keyWord (by decide) (fun m temp => { m with temp := temp.map rereadValue })
      applyKey_temp _ rfl,
    foldl_keyWord (by decide) (fun m pressure => { m with pressure := pressure.map rereadValue })
      applyKey_pressure _ rfl,
    foldl_keyWord (by decide) (fun m flow => { m with flow := flow.map rereadValue })
      applyKey_flow _ rfl]
  rfl

/-- **Parsing the line of a message gives it back with its telemetry read from two decimals.** -/
theorem lineParse_reread (prints : ∀ x : δ, Clean (CDouble.fixed2 x)) {m : Message δ}
    (clean : CleanTexts m) (knownRole : m.role ≠ .unknown) (knownType : m.type ≠ .unknown)
    (short : (lineText m).length < 510) : lineParse (lineText m ++ [10]) = some (reread m) := by
  have bytes : ∀ b ∈ lineText m, b ≠ 0 ∧ isCrlf b = false := by
    intro b member
    rcases lineText_byte_cases member with isClean | rfl | ⟨word, isKey, inside⟩
    · exact ⟨ne_zero_of_isClean isClean, not_isCrlf_of_isClean isClean⟩
    · decide
    · exact (clean.clean_of_mem_keyWords prints isKey).bytes inside
  have nulFree : 0 ∉ lineText m ++ [10] := by
    intro member
    rcases List.mem_append.mp member with inText | newline
    · exact (bytes 0 inText).1 rfl
    · simp at newline
  have stripped : rstripCrlf (lineText m ++ [10]) = lineText m := by
    rw [rstripCrlf, List.rdropWhile_concat_pos _ _ _ (by decide), List.rdropWhile_eq_self_iff]
    intro nonempty
    simp [(bytes _ (List.getLast_mem nonempty)).2]
  have areWords : ∀ word ∈ keyWords m, IsWord isBlank word := fun word member =>
    (clean.clean_of_mem_keyWords prints member).isWord (ne_nil_of_mem_keyWords member)
  have room : (lineText m ++ [10]).length < 511 := by
    rw [List.length_append, List.length_singleton]
    omega
  rw [lineParse_of_tokens nulFree (by simp) room
    stripped (tokens_lineText areWords) (by rwa [roleFrom_roleTo]) (by rwa [typeFrom_typeTo]),
    roleFrom_roleTo, typeFrom_typeTo, foldl_keyWords_reread]

end Codec

/-! ## Rounding -/

/-- A rounded number is at most one half away. -/
theorem abs_roundHalfEven_sub_le (q : ℚ) : |(roundHalfEven q : ℚ) - q| ≤ 1 / 2 := by
  have lower := Int.floor_le q
  have upper := Int.lt_floor_add_one q
  rw [abs_le, roundHalfEven]
  split
  · constructor <;> linarith
  split
  · push_cast
    constructor <;> linarith
  split
  · constructor <;> linarith
  · push_cast
    constructor <;> linarith

/-- An integer is not rounded. -/
theorem roundHalfEven_intCast (n : ℤ) : roundHalfEven (n : ℚ) = n := by
  rw [roundHalfEven, Int.floor_intCast, sub_self, if_pos (by norm_num)]

/-- A rounded number has the sign of the number. -/
theorem roundHalfEven_nonneg {q : ℚ} (nonneg : 0 ≤ q) : 0 ≤ roundHalfEven q := by
  have floor : 0 ≤ ⌊q⌋ := Int.floor_nonneg.mpr nonneg
  rw [roundHalfEven]
  split
  · exact floor
  split
  · omega
  split
  · exact floor
  · omega

theorem roundHalfEven_nonpos {q : ℚ} (neg : q < 0) : roundHalfEven q ≤ 0 := by
  have floor : ⌊q⌋ < 0 := Int.floor_lt.mpr (by simpa using neg)
  rw [roundHalfEven]
  split
  · omega
  split
  · omega
  split
  · omega
  · omega

/-! ## Reading a number back -/

/-- The hundredths a number is written as. -/
def hundredths (q : ℚ) : ℕ := (roundHalfEven (q * 100)).natAbs

/-- The digits of a number, without its sign. -/
def unsignedFixed2 (h : ℕ) : Bytes :=
  decimal (h / 100) ++ ascii "." ++ [digitByte (h % 100 / 10), digitByte (h % 10)]

theorem fixed2Rat_eq (q : ℚ) :
    fixed2Rat q = (if q < 0 then ascii "-" else []) ++ unsignedFixed2 (hundredths q) := by
  simp only [fixed2Rat, unsignedFixed2, hundredths, List.append_assoc]

theorem clean_fixed2Rat (q : ℚ) : Clean (fixed2Rat q) := by
  have digit : ∀ {n : ℕ}, n < 10 → isClean (digitByte n) = true :=
    fun small => clean_of_isDigit (isDigit_digitByte small)
  rw [fixed2Rat_eq, unsignedFixed2]
  intro b member
  simp only [List.mem_append, List.mem_cons, List.not_mem_nil, or_false] at member
  rcases member with sign | (whole | point) | rfl | rfl
  · split at sign
    · exact (show Clean (ascii "-") by decide) b sign
    · cases sign
  · exact clean_decimal _ b whole
  · exact (show Clean (ascii ".") by decide) b point
  · exact digit (by omega)
  · exact digit (by omega)

/-- The digits of a number are read back as its hundredths. -/
theorem scan_unsigned (h : ℕ) :
    let body := unsignedFixed2 h
    body.takeWhile isDigit = decimal (h / 100) ∧
      (body.dropWhile isDigit).head? = some 46 ∧
      (body.dropWhile isDigit).tail.takeWhile isDigit =
        [digitByte (h % 100 / 10), digitByte (h % 10)] := by
  have digits : ∀ b ∈ decimal (h / 100), isDigit b = true :=
    fun b member => isDigit_of_mem_decimal member
  have first := isDigit_digitByte (show h % 100 / 10 < 10 by omega)
  have second := isDigit_digitByte (show h % 10 < 10 by omega)
  have point : isDigit 46 = false := by decide
  have body : unsignedFixed2 h = decimal (h / 100) ++
      46 :: [digitByte (h % 100 / 10), digitByte (h % 10)] := by
    rw [unsignedFixed2, List.append_assoc]
    rfl
  simp only [body, List.takeWhile_append_of_pos digits, List.dropWhile_append_of_pos digits]
  simp [point, first, second]

/-- The whole and the fraction of a number make up its hundredths. -/
theorem hundredths_value (h : ℕ) :
    ((digitsValue (decimal (h / 100)) : ℕ) : ℚ) +
      (digitsValue [digitByte (h % 100 / 10), digitByte (h % 10)] : ℕ) / 10 ^ 2 = (h : ℚ) / 100 := by
  have tens := digitValue_digitByte (show h % 100 / 10 < 10 by omega)
  have ones := digitValue_digitByte (show h % 10 < 10 by omega)
  have fraction : digitsValue [digitByte (h % 100 / 10), digitByte (h % 10)] = h % 100 := by
    simp only [digitsValue, List.foldl_cons, List.foldl_nil, tens, ones]
    omega
  have split : (h : ℚ) = 100 * (h / 100 : ℕ) + (h % 100 : ℕ) := by
    exact_mod_cast (Nat.div_add_mod h 100).symm
  rw [digitsValue_decimal, fraction, split]
  ring

/-- What a number is read back as without its sign. -/
theorem unsigned_head (h : ℕ) :
    ∃ b rest, unsignedFixed2 h = b :: rest ∧ isDigit b = true := by
  have nonempty : decimal (h / 100) ≠ [] := by
    intro empty
    have value := digitsValue_decimal (h / 100)
    rw [decimal] at empty
    split at empty
    · cases empty
    · rename_i positive
      rw [List.reverse_eq_nil_iff, List.map_eq_nil_iff, Nat.digits_eq_nil_iff_eq_zero] at empty
      exact positive empty
  obtain ⟨b, rest, same⟩ := List.exists_cons_of_ne_nil nonempty
  refine ⟨b, rest ++ ascii "." ++ [digitByte (h % 100 / 10), digitByte (h % 10)], ?_, ?_⟩
  · rw [unsignedFixed2, same]
    rfl
  · exact isDigit_of_mem_decimal (by rw [same]; exact List.mem_cons_self)

/-- **A number that was written is read back as the nearest hundredth.** -/
theorem scanRat_fixed2Rat (q : ℚ) :
    scanRat (fixed2Rat q) = some ((roundHalfEven (q * 100) : ℚ) / 100) := by
  obtain ⟨whole, point, fraction⟩ := scan_unsigned (hundredths q)
  obtain ⟨b, rest, head, digit⟩ := unsigned_head (hundredths q)
  have value := hundredths_value (hundredths q)
  have notSign : b ≠ 45 ∧ b ≠ 43 := by
    constructor <;>
      (rintro rfl
       revert digit
       decide)
  have nonempty : decimal (hundredths q / 100) ≠ [] := by
    intro empty
    rw [empty, head, List.takeWhile_cons_of_pos digit] at whole
    cases whole
  have absolute : ((hundredths q : ℕ) : ℚ) = |(roundHalfEven (q * 100) : ℚ)| := by
    rw [hundredths, Nat.cast_natAbs, Int.cast_abs]
  rw [fixed2Rat_eq, scanRat]
  by_cases negative : q < 0
  · have nonpos : (roundHalfEven (q * 100) : ℚ) ≤ 0 := by
      exact_mod_cast roundHalfEven_nonpos (show q * 100 < 0 by linarith)
    have sign : ((if q < 0 then ascii "-" else []) ++ unsignedFixed2 (hundredths q)).head? =
        some 45 := by
      rw [if_pos negative]
      rfl
    have tail : ((if q < 0 then ascii "-" else []) ++ unsignedFixed2 (hundredths q)).tail =
        unsignedFixed2 (hundredths q) := by
      rw [if_pos negative]
      rfl
    simp only [sign, tail, true_or, if_true, whole, point, fraction, nonempty, false_and, if_false,
      List.length_cons, List.length_nil]
    rw [value, absolute, abs_of_nonpos nonpos]
    congr 1
    ring
  · have nonneg : 0 ≤ (roundHalfEven (q * 100) : ℚ) := by
      exact_mod_cast roundHalfEven_nonneg (show 0 ≤ q * 100 by linarith)
    have sign : (unsignedFixed2 (hundredths q)).head? = some b := by
      rw [head]
      rfl
    have body : (if q < 0 then ascii "-" else []) ++ unsignedFixed2 (hundredths q) =
        unsignedFixed2 (hundredths q) := by
      rw [if_neg negative]
      rfl
    have noMinus : ¬ (some b = some (45 : UInt8)) := fun same => notSign.1 (Option.some.inj same)
    have noPlus : ¬ (some b = some (43 : UInt8)) := fun same => notSign.2 (Option.some.inj same)
    simp only [body, sign, noMinus, noPlus, or_self, if_false, whole, point, if_true, fraction,
      nonempty, false_and, List.length_cons, List.length_nil]
    rw [value, absolute, abs_of_nonneg nonneg]

/-- What a number is read back as. -/
theorem rereadValue_eq (q : ℚ) : rereadValue q = (roundHalfEven (q * 100) : ℚ) / 100 := by
  change (scanRat (fixed2Rat q)).getD 0 = _
  rw [scanRat_fixed2Rat, Option.getD_some]

/-- **A number is read back within half a hundredth.** -/
theorem abs_rereadValue_sub_le (q : ℚ) : |rereadValue q - q| ≤ 1 / 200 := by
  have near := abs_roundHalfEven_sub_le (q * 100)
  rw [abs_le] at near ⊢
  rw [rereadValue_eq]
  constructor <;> linarith

/-- A number that was read back stays what it is. -/
theorem rereadValue_rereadValue (q : ℚ) : rereadValue (rereadValue q) = rereadValue q := by
  rw [rereadValue_eq (rereadValue q), rereadValue_eq q, div_mul_cancel₀ _ (by norm_num),
    roundHalfEven_intCast]

/-- A number that was read back is written in no more room. -/
theorem fixed2Rat_reread_length (q : ℚ) :
    (fixed2Rat (rereadValue q)).length ≤ (fixed2Rat q).length := by
  have same : hundredths (rereadValue q) = hundredths q := by
    rw [hundredths, hundredths, rereadValue_eq, div_mul_cancel₀ _ (by norm_num),
      roundHalfEven_intCast]
  rw [fixed2Rat_eq, fixed2Rat_eq, same, List.length_append, List.length_append]
  by_cases negative : q < 0
  · rw [if_pos negative]
    split <;> simp
  · have nonneg : ¬ rereadValue q < 0 := by
      have rounded : 0 ≤ (roundHalfEven (q * 100) : ℚ) := by
        exact_mod_cast roundHalfEven_nonneg (show 0 ≤ q * 100 by linarith)
      rw [rereadValue_eq, not_lt]
      linarith
    rw [if_neg negative, if_neg nonneg]

/-! ## Hops -/

/-- A message is formatted into a buffer and parsed by the receiver. -/
def hop (cap : ℕ) (m : Message ℚ) : Option (Message ℚ) := (lineFormat m cap).bind lineParse

/-- A message after some hops, with the buffers the senders use. -/
def hops : List ℕ → Message ℚ → Option (Message ℚ)
  | [], m => some m
  | cap :: caps, m => (hop cap m).bind (hops caps)

theorem reread_reread (m : Message ℚ) : reread (reread m) = reread m := by
  have twice : (rereadValue : ℚ → ℚ) ∘ rereadValue = rereadValue := funext rereadValue_rereadValue
  simp only [reread, Option.map_map, twice]

/-- The text of a message that was read back is no longer. -/
theorem lineText_reread_length (m : Message ℚ) :
    (lineText (reread m)).length ≤ (lineText m).length := by
  have written : ∀ (key : String) (x : Option ℚ),
      (((x.map rereadValue).map fun x => keyWord key (CDouble.fixed2 x)).toList.flatMap
        fun word => 32 :: word).length ≤
        ((x.map fun x => keyWord key (CDouble.fixed2 x)).toList.flatMap
          fun word => 32 :: word).length := by
    intro key x
    cases x with
    | none => exact le_rfl
    | some q =>
        have room : (CDouble.fixed2 (rereadValue q)).length ≤ (CDouble.fixed2 q).length :=
          fixed2Rat_reread_length q
        simp only [Option.map_some, Option.toList_some, List.flatMap_cons, List.flatMap_nil,
          keyWord, List.length_append, List.length_cons]
        omega
  have temp := written "temp" m.temp
  have pressure := written "pressure" m.pressure
  have flow := written "flow" m.flow
  simp only [lineText, keyWords, reread, List.flatMap_append, List.length_append] at *
  omega

theorem CleanTexts.reread {m : Message ℚ} (clean : CleanTexts m) :
    CleanTexts (EquipmentControl.reread m) := ⟨clean.state, clean.msg⟩

/-- One hop. -/
theorem hop_eq {cap : ℕ} (room : 512 ≤ cap) {m : Message ℚ} (clean : CleanTexts m)
    (knownRole : m.role ≠ .unknown) (knownType : m.type ≠ .unknown)
    (short : (lineText m).length < 510) : hop cap m = some (reread m) := by
  rw [hop, lineFormat_eq, if_neg (by omega), Option.bind_some]
  exact lineParse_reread clean_fixed2Rat clean knownRole knownType short

/-- **Telemetry over any number of hops**, over exact rationals: a message with clean texts that fits
the line buffers arrives after every hop as it did after the first, each of its values within half a
hundredth of what was sent, and nothing else changed. -/
theorem telemetry_hops (m : Message ℚ) (clean : CleanTexts m) (knownRole : m.role ≠ .unknown)
    (knownType : m.type ≠ .unknown) (short : (lineText m).length < 510) (cap : ℕ)
    (caps : List ℕ) (room : ∀ size ∈ cap :: caps, 512 ≤ size) :
    ∃ arrived, hops (cap :: caps) m = some arrived ∧ hops [cap] m = some arrived ∧
      arrived = { m with
        temp := arrived.temp, pressure := arrived.pressure, flow := arrived.flow } ∧
      ∀ field ∈ [Message.temp, Message.pressure, Message.flow],
        (field arrived).isSome = (field m).isSome ∧
          ∀ sent ∈ field m, ∀ received ∈ field arrived, |received - sent| ≤ 1 / 200 := by
  have stays : ∀ later : List ℕ, (∀ size ∈ later, 512 ≤ size) →
      hops later (reread m) = some (reread m) := by
    intro later
    induction later with
    | nil => exact fun _ => rfl
    | cons size later ih =>
        intro enough
        have shorter := lineText_reread_length m
        rw [hops, hop_eq (enough size List.mem_cons_self) clean.reread knownRole knownType
          (by omega), Option.bind_some, reread_reread,
          ih fun other member => enough other (List.mem_cons_of_mem size member)]
  have arrives : ∀ later : List ℕ, (∀ size ∈ later, 512 ≤ size) →
      hops (cap :: later) m = some (reread m) := by
    intro later enough
    rw [hops, hop_eq (room cap List.mem_cons_self) clean knownRole knownType short,
      Option.bind_some, stays later enough]
  have near : ∀ x : Option ℚ, (x.map rereadValue).isSome = x.isSome ∧
      ∀ sent ∈ x, ∀ received ∈ x.map rereadValue, |received - sent| ≤ 1 / 200 := by
    intro x
    refine ⟨Option.isSome_map, ?_⟩
    rintro sent ⟨⟩ received ⟨⟩
    exact abs_rereadValue_sub_le sent
  refine ⟨reread m, arrives caps fun size member => room size (List.mem_cons_of_mem cap member),
    arrives [] (by simp), rfl, ?_⟩
  intro field member
  simp only [List.mem_cons, List.not_mem_nil, or_false] at member
  rcases member with rfl | rfl | rfl
  · exact near m.temp
  · exact near m.pressure
  · exact near m.flow

/-- The telemetry of a simulator. -/
def measured : Message ℚ :=
  { role := .evt, type := .telemetry, dev := some 1
    temp := some (251 / 10), pressure := some (1 / 3), flow := some (-1 / 500) }

/-- It arrives at equipmentd as it arrived at the controller. -/
theorem telemetry_hops_measured :
    ∃ arrived, hops [1024, 512] measured = some arrived ∧ hops [1024] measured = some arrived ∧
      arrived = { measured with
        temp := arrived.temp, pressure := arrived.pressure, flow := arrived.flow } ∧
      ∀ field ∈ [Message.temp, Message.pressure, Message.flow],
        (field arrived).isSome = (field measured).isSome ∧
          ∀ sent ∈ field measured, ∀ received ∈ field arrived, |received - sent| ≤ 1 / 200 :=
  telemetry_hops measured ⟨by rintro _ ⟨⟩, by rintro _ ⟨⟩⟩ (by decide) (by decide)
    (by decide +kernel) 1024 [512] (by decide)

end EquipmentControl
