import EquipmentControl.Protocol.LineCodec

/-!
# Parsing undoes formatting

A formatted line is the words of a message with one blank in front of each further word. When
the values of `state` and `msg` are free of blanks and line ends, those words are the tokens
of the line, and reading them key by key gives the message back (`lineParse_lineText`).
The longest message without telemetry values needs 248 bytes with its newline and NUL
(`lineText_length_le`), so 256 bytes always suffice (`lineParse_lineFormat`).
-/

set_option autoImplicit false

namespace EquipmentControl

open DecimalText TokenText

/-! ## Reading numerals -/

theorem not_isSpace_of_isDigit {b : UInt8} (digit : isDigit b = true) : isSpace b = false := by
  simp only [isDigit, Bool.and_eq_true, decide_eq_true_eq] at digit
  have differs : b ≠ 32 := by
    rintro rfl
    exact absurd digit.1 (by decide)
  simp only [isSpace, differs, decide_false, Bool.false_or, Bool.and_eq_false_iff,
    decide_eq_false_iff_not]
  omega

/-- A string of digits is a numeral without a sign, and its value is the magnitude. -/
theorem scanInteger_digits {text : Bytes} (digits : ∀ b ∈ text, isDigit b = true) :
    scanInteger text = (false, digitsValue text) := by
  cases text with
  | nil => rfl
  | cons b rest =>
      have digit := digits b List.mem_cons_self
      have noSpace : (b :: rest).dropWhile isSpace = b :: rest :=
        List.dropWhile_cons_of_neg (by simp [not_isSpace_of_isDigit digit])
      have plus : b ≠ 43 := by rintro rfl; exact absurd digit (by decide)
      have minus : b ≠ 45 := by rintro rfl; exact absurd digit (by decide)
      have all : (b :: rest).takeWhile isDigit = b :: rest := List.takeWhile_eq_self_iff.mpr digits
      simp only [scanInteger, noSpace, List.head?_cons, Option.some.injEq, minus, plus, decide_false,
        or_self, Bool.false_eq_true, if_false, all]

/-- The magnitude of an unsigned numeral is its value. -/
theorem scanInteger_decimal (n : ℕ) : scanInteger (decimal n) = (false, n) := by
  rw [scanInteger_digits fun _ member => isDigit_of_mem_decimal member, digitsValue_decimal]

/-- The magnitude of a signed numeral is the absolute value, and its sign the sign. -/
theorem scanInteger_signedDecimal (i : ℤ) :
    scanInteger (signedDecimal i) = (decide (i < 0), i.natAbs) := by
  rw [signedDecimal]
  split
  · rename_i negative
    have all : (decimal i.natAbs).takeWhile isDigit = decimal i.natAbs :=
      List.takeWhile_eq_self_iff.mpr fun c member => isDigit_of_mem_decimal member
    have noSpace : (45 :: decimal i.natAbs).dropWhile isSpace = 45 :: decimal i.natAbs := rfl
    simp [scanInteger, noSpace, all, digitsValue_decimal, negative]
  · rename_i nonnegative
    rw [scanInteger_decimal, decide_eq_false nonnegative]

theorem strtoul_decimal {n : ℕ} (bound : n < 2 ^ 64) : strtoul (decimal n) = n := by
  simp only [strtoul, scanInteger_decimal, if_neg (Nat.not_le.mpr bound), Bool.false_eq_true,
    if_false]

theorem strtol_signedDecimal {i : ℤ} (lower : -2 ^ 63 ≤ i) (upper : i < 2 ^ 63) :
    strtol (signedDecimal i) = i := by
  simp only [strtol, scanInteger_signedDecimal, decide_eq_true_eq]
  split <;> omega

/-- `%u` and back. -/
theorem ofNat_strtoul_decimal (x : UInt32) :
    UInt32.ofNat (strtoul (decimal x.toNat)) = x := by
  rw [strtoul_decimal (by have := x.toNat_lt; omega), UInt32.ofNat_toNat]

/-- `%d` and back. -/
theorem ofInt_strtol_signedDecimal (x : Int32) :
    Int32.ofInt (strtol (signedDecimal x.toInt)) = x := by
  have lower := x.le_toInt
  have upper := x.toInt_lt
  rw [strtol_signedDecimal (by omega) (by omega), Int32.ofInt_toInt]

/-! ## Clean values -/

/-- A byte that ends neither a token nor a line nor a C string. -/
def isClean (b : UInt8) : Bool :=
  decide (b ≠ 0) && !isBlank b && !isCrlf b

/-- Every byte of a text is clean. -/
def Clean (text : Bytes) : Prop := ∀ b ∈ text, isClean b = true

instance decidableClean (text : Bytes) : Decidable (Clean text) :=
  List.decidableBAll (fun b => isClean b = true) text

theorem ne_zero_of_isClean {b : UInt8} (clean : isClean b = true) : b ≠ 0 := by
  rintro rfl
  cases clean

theorem not_isBlank_of_isClean {b : UInt8} (clean : isClean b = true) : isBlank b = false := by
  simp only [isClean, Bool.and_eq_true, Bool.not_eq_true'] at clean
  exact clean.1.2

theorem not_isCrlf_of_isClean {b : UInt8} (clean : isClean b = true) : isCrlf b = false := by
  simp only [isClean, Bool.and_eq_true, Bool.not_eq_true'] at clean
  exact clean.2

theorem clean_of_isDigit {b : UInt8} (digit : isDigit b = true) : isClean b = true := by
  simp only [isDigit, Bool.and_eq_true, decide_eq_true_eq] at digit
  have differs : ∀ c : UInt8, c.toNat < 48 → b ≠ c := by
    rintro c small rfl
    omega
  simp [isClean, isBlank, isCrlf, differs 0 (by decide), differs 32 (by decide),
    differs 9 (by decide), differs 10 (by decide), differs 13 (by decide)]

theorem clean_decimal (n : ℕ) : Clean (decimal n) := by
  intro b member
  exact clean_of_isDigit (isDigit_of_mem_decimal member)

theorem clean_signedDecimal (i : ℤ) : Clean (signedDecimal i) := by
  intro b member
  rcases sign_or_digit_of_mem member with rfl | digit
  · decide
  · exact clean_of_isDigit digit

theorem clean_roleTo (role : MsgRole) : Clean (roleTo role) := by
  cases role <;> decide

theorem clean_typeTo (type : MsgType) : Clean (typeTo type) := by
  cases type <;> decide

/-- A byte of a written key is clean, or one of its value. -/
theorem clean_or_mem_of_mem_keyWord {key : String} (keyClean : Clean (ascii key)) {value : Bytes}
    {b : UInt8} (member : b ∈ keyWord key value) : isClean b = true ∨ b ∈ value := by
  rcases List.mem_append.mp member with inKey | inValue
  · exact .inl (keyClean b inKey)
  rcases List.mem_cons.mp inValue with rfl | inValue
  · exact .inl (by decide)
  · exact .inr inValue

theorem Clean.bytes {text : Bytes} (clean : Clean text) {b : UInt8} (member : b ∈ text) :
    b ≠ 0 ∧ isCrlf b = false :=
  ⟨ne_zero_of_isClean (clean b member), not_isCrlf_of_isClean (clean b member)⟩

theorem Clean.isWord {text : Bytes} (clean : Clean text) (nonempty : text ≠ []) :
    IsWord isBlank text where
  nonempty := nonempty
  clean b member := not_isBlank_of_isClean (clean b member)

/-! ## The tokens of a formatted line -/

section Codec

variable {δ : Type} [CDouble δ]

/-- No telemetry key is present, and `state` and `msg` hold clean values. -/
structure Plain (m : Message δ) : Prop where
  temp : m.temp = none
  pressure : m.pressure = none
  flow : m.flow = none
  state : ∀ state ∈ m.state, Clean state.bytes
  msg : ∀ msg ∈ m.msg, Clean msg.bytes

/-- No telemetry key is present. -/
structure NoTelemetry (m : Message δ) : Prop where
  temp : m.temp = none
  pressure : m.pressure = none
  flow : m.flow = none

omit [CDouble δ] in
theorem Plain.noTelemetry {m : Message δ} (plain : Plain m) : NoTelemetry m :=
  ⟨plain.temp, plain.pressure, plain.flow⟩

/-- A written key is a word. -/
theorem ne_nil_of_mem_keyWords {m : Message δ} {word : Bytes} (member : word ∈ keyWords m) :
    word ≠ [] := by
  rintro rfl
  simp [keyWords, keyWord] at member

/-- A byte of a written key is clean, or one of the state or the text of the message. -/
theorem NoTelemetry.byte_cases {m : Message δ} (bare : NoTelemetry m) {word : Bytes}
    (member : word ∈ keyWords m) {b : UInt8} (inside : b ∈ word) :
    isClean b = true ∨ (∃ state ∈ m.state, b ∈ state.bytes) ∨ ∃ msg ∈ m.msg, b ∈ msg.bytes := by
  simp only [keyWords, bare.temp, bare.pressure, bare.flow, Option.map_none,
    Option.toList_none, List.append_nil, List.mem_append, Option.mem_toList,
    Option.map_eq_some_iff] at member
  have numeral : ∀ key : String, Clean (ascii key) → ∀ value, Clean value →
      b ∈ keyWord key value → isClean b = true := by
    intro key keyClean value clean inside
    exact (clean_or_mem_of_mem_keyWord keyClean inside).elim id (clean b)
  rcases member with ((((⟨_, _, rfl⟩ | ⟨_, _, rfl⟩) | ⟨_, _, rfl⟩) | ⟨state, present, rfl⟩) |
    ⟨_, _, rfl⟩) | ⟨msg, present, rfl⟩
  · exact .inl (numeral "dev" (by decide) _ (clean_decimal _) inside)
  · exact .inl (numeral "seq" (by decide) _ (clean_decimal _) inside)
  · exact .inl (numeral "ok" (by decide) _ (clean_signedDecimal _) inside)
  · exact (clean_or_mem_of_mem_keyWord (by decide) inside).imp_right
      fun inState => .inl ⟨state, present, inState⟩
  · exact .inl (numeral "code" (by decide) _ (clean_signedDecimal _) inside)
  · exact (clean_or_mem_of_mem_keyWord (by decide) inside).imp_right
      fun inMsg => .inr ⟨msg, present, inMsg⟩

/-- A present key of a plain message is written as a clean word. -/
theorem Plain.clean_of_mem_keyWords {m : Message δ} (plain : Plain m) {word : Bytes}
    (member : word ∈ keyWords m) : Clean word := by
  intro b inside
  rcases plain.noTelemetry.byte_cases member inside with
    clean | ⟨state, present, inState⟩ | ⟨msg, present, inMsg⟩
  · exact clean
  · exact plain.state state present b inState
  · exact plain.msg msg present b inMsg

theorem lineText_eq (m : Message δ) :
    lineText m = roleTo m.role ++ (typeTo m.type :: keyWords m).flatMap fun word => 32 :: word := by
  simp [lineText]

theorem typeTo_ne_nil (type : MsgType) : typeTo type ≠ [] := by
  cases type <;> decide

theorem roleTo_ne_nil (role : MsgRole) : roleTo role ≠ [] := by
  cases role <;> decide

/-- The tokens of a formatted line are the role, the type and the present keys, if these are
written as words. -/
theorem tokens_lineText {m : Message δ} (areWords : ∀ word ∈ keyWords m, IsWord isBlank word) :
    tokens isBlank (lineText m) = roleTo m.role :: typeTo m.type :: keyWords m := by
  rw [lineText_eq]
  apply tokens_words (by decide) ((clean_roleTo _).isWord (roleTo_ne_nil _))
  intro word member
  rcases List.mem_cons.mp member with rfl | inside
  · exact (clean_typeTo _).isWord (typeTo_ne_nil _)
  · exact areWords word inside

/-- A byte of a formatted line is clean, a blank, or one of a written key. -/
theorem lineText_byte_cases {m : Message δ} {b : UInt8} (member : b ∈ lineText m) :
    isClean b = true ∨ b = 32 ∨ ∃ word ∈ keyWords m, b ∈ word := by
  rw [lineText_eq, List.mem_append, List.mem_flatMap] at member
  rcases member with inRole | ⟨other, isWord, inside⟩
  · exact .inl (clean_roleTo _ b inRole)
  rcases List.mem_cons.mp inside with rfl | inside
  · exact .inr (.inl rfl)
  rcases List.mem_cons.mp isWord with rfl | isKey
  · exact .inl (clean_typeTo _ b inside)
  · exact .inr (.inr ⟨other, isKey, inside⟩)

/-- A formatted line is free of NUL bytes. -/
theorem NoTelemetry.nulFree {m : Message δ} (bare : NoTelemetry m) : 0 ∉ lineText m ++ [10] := by
  intro member
  rcases List.mem_append.mp member with inText | newline
  · rcases lineText_byte_cases inText with clean | blank | ⟨word, isKey, inside⟩
    · exact ne_zero_of_isClean clean rfl
    · cases blank
    rcases bare.byte_cases isKey inside with clean | ⟨state, _, inState⟩ | ⟨msg, _, inMsg⟩
    · exact ne_zero_of_isClean clean rfl
    · exact state.nulFree inState
    · exact msg.nulFree inMsg
  · simp at newline

/-- A formatted line is free of line ends before its newline. -/
theorem Plain.not_isCrlf {m : Message δ} (plain : Plain m) {b : UInt8} (member : b ∈ lineText m) :
    isCrlf b = false := by
  rcases lineText_byte_cases member with clean | rfl | ⟨word, isKey, inside⟩
  · exact not_isCrlf_of_isClean clean
  · decide
  · exact not_isCrlf_of_isClean (plain.clean_of_mem_keyWords isKey b inside)

/-! ## Reading the keys back -/

theorem applyToken_keyWord (m : Message δ) {key : String} (noEq : 61 ∉ ascii key)
    (value : Bytes) : applyToken m (keyWord key value) = applyKey m (ascii key) value := by
  have pass : ∀ b ∈ ascii key, decide (b ≠ 61) = true := by
    intro b member
    simpa using fun eq : b = 61 => noEq (eq ▸ member)
  rw [applyToken, keyWord, if_pos (by simp), List.takeWhile_append_of_pos pass,
    List.dropWhile_append_of_pos pass, List.takeWhile_cons_of_neg (by simp),
    List.dropWhile_cons_of_neg (by simp), List.append_nil, List.tail_cons]

theorem applyKey_dev (m : Message δ) (x : UInt32) :
    applyKey m (ascii "dev") (decimal x.toNat) = { m with dev := some x } :=
  congrArg (fun y => { m with dev := some y }) (ofNat_strtoul_decimal x)

theorem applyKey_seq (m : Message δ) (x : UInt32) :
    applyKey m (ascii "seq") (decimal x.toNat) = { m with seq := some x } :=
  congrArg (fun y => { m with seq := some y }) (ofNat_strtoul_decimal x)

theorem applyKey_ok (m : Message δ) (x : Int32) :
    applyKey m (ascii "ok") (signedDecimal x.toInt) = { m with ok := some x } :=
  congrArg (fun y => { m with ok := some y }) (ofInt_strtol_signedDecimal x)

theorem applyKey_code (m : Message δ) (x : Int32) :
    applyKey m (ascii "code") (signedDecimal x.toInt) = { m with code := some x } :=
  congrArg (fun y => { m with code := some y }) (ofInt_strtol_signedDecimal x)

theorem applyKey_state (m : Message δ) (x : CString 31) :
    applyKey m (ascii "state") x.bytes = { m with state := some x } :=
  congrArg (fun y => { m with state := some y }) (strncpy_bytes x)

theorem applyKey_msg (m : Message δ) (x : CString 127) :
    applyKey m (ascii "msg") x.bytes = { m with msg := some x } :=
  congrArg (fun y => { m with msg := some y }) (strncpy_bytes x)

/-- Reading the word of an optional key sets the field, when reading its value gives it back. -/
theorem foldl_keyWord {τ : Type} {key : String} (noEq : 61 ∉ ascii key) {render : τ → Bytes}
    (set : Message δ → Option τ → Message δ)
    (reads : ∀ m value, applyKey m (ascii key) (render value) = set m (some value))
    (m : Message δ) (absent : set m none = m) (field : Option τ) :
    (field.map fun value => keyWord key (render value)).toList.foldl applyToken m =
      set m field := by
  cases field with
  | none => exact absent.symm
  | some value => exact (applyToken_keyWord m noEq (render value)).trans (reads m value)

/-- **Reading the present keys of a message without telemetry gives its fields back.** -/
theorem NoTelemetry.foldl_keyWords {m : Message δ} (bare : NoTelemetry m) :
    (keyWords m).foldl applyToken { role := m.role, type := m.type } = m := by
  obtain ⟨role, type, dev, seq, ok, code, state, msg, temp, pressure, flow⟩ := m
  obtain ⟨rfl, rfl, rfl⟩ := bare
  simp only [keyWords, Option.map_none, Option.toList_none, List.append_nil, List.foldl_append]
  rw [foldl_keyWord (by decide) (fun m dev => { m with dev := dev }) applyKey_dev _ rfl,
    foldl_keyWord (by decide) (fun m seq => { m with seq := seq }) applyKey_seq _ rfl,
    foldl_keyWord (by decide) (fun m ok => { m with ok := ok }) applyKey_ok _ rfl,
    foldl_keyWord (by decide) (fun m state => { m with state := state }) applyKey_state _ rfl,
    foldl_keyWord (by decide) (fun m code => { m with code := code }) applyKey_code _ rfl,
    foldl_keyWord (by decide) (fun m msg => { m with msg := msg }) applyKey_msg _ rfl]

/-! ## The longest line -/

/-- The room an optional key takes, with the blank in front of it. -/
theorem keyWord_room_le {τ : Type} (key : String) (render : τ → Bytes) {bound : ℕ}
    (short : ∀ value, (render value).length ≤ bound) (field : Option τ) :
    ((field.map fun value => keyWord key (render value)).toList.flatMap
      fun word => 32 :: word).length ≤ (ascii key).length + bound + 2 := by
  cases field with
  | none => simp
  | some value =>
      have := short value
      simp [keyWord]
      omega

theorem decimal_uint32_length_le (x : UInt32) : (decimal x.toNat).length ≤ 10 :=
  decimal_length_le (by omega) (by have := x.toNat_lt; omega)

theorem signedDecimal_int32_length_le (x : Int32) : (signedDecimal x.toInt).length ≤ 11 :=
  signedDecimal_length_le (by omega) (by have := x.le_toInt; have := x.toInt_lt; omega)

theorem roleTo_length_le (role : MsgRole) : (roleTo role).length ≤ 4 := by
  cases role <;> decide

theorem typeTo_length_le (type : MsgType) : (typeTo type).length ≤ 9 := by
  cases type <;> decide

/-- A message without telemetry takes at most 246 bytes, its newline and NUL excluded. -/
theorem lineText_length_le {m : Message δ} (temp : m.temp = none) (pressure : m.pressure = none)
    (flow : m.flow = none) : (lineText m).length ≤ 246 := by
  have role := roleTo_length_le m.role
  have type := typeTo_length_le m.type
  have dev := keyWord_room_le "dev" _ decimal_uint32_length_le m.dev
  have seq := keyWord_room_le "seq" _ decimal_uint32_length_le m.seq
  have ok := keyWord_room_le "ok" _ signedDecimal_int32_length_le m.ok
  have state := keyWord_room_le "state" _ (fun state : CString 31 => state.length_le) m.state
  have code := keyWord_room_le "code" _ signedDecimal_int32_length_le m.code
  have msg := keyWord_room_le "msg" _ (fun msg : CString 127 => msg.length_le) m.msg
  have keys : (ascii "dev").length = 3 ∧ (ascii "seq").length = 3 ∧ (ascii "ok").length = 2 ∧
      (ascii "state").length = 5 ∧ (ascii "code").length = 4 ∧ (ascii "msg").length = 3 := by
    decide
  simp only [lineText, keyWords, temp, pressure, flow, Option.map_none,
    Option.toList_none, List.append_nil, List.flatMap_append, List.length_append, List.length_cons]
  omega

/-! ## The round trip -/

/-- A line no longer than the decoder's buffer is parsed as its tokens. -/
theorem lineParse_of_tokens {line text role type : Bytes} {words : List Bytes}
    (nulFree : 0 ∉ line) (nonempty : line ≠ []) (short : line.length < 511)
    (stripped : rstripCrlf line = text) (split : tokens isBlank text = role :: type :: words)
    (knownRole : roleFrom role ≠ .unknown) (knownType : typeFrom type ≠ .unknown) :
    lineParse (δ := δ) line =
      some (words.foldl applyToken { role := roleFrom role, type := typeFrom type }) := by
  have positive : line.length ≠ 0 := by simpa using nonempty
  have bound : ¬ (min line.length 511 = 0 ∨ 511 ≤ min line.length 511) := by omega
  have all : line.take (min line.length 511) = line := List.take_of_length_le (by omega)
  simp only [lineParse, cString_of_not_mem nulFree, if_neg bound, all, stripped, split,
    knownRole, knownType, or_self, if_false]

/-- **A line that is stripped to the text of a message is parsed to the message**, if its keys are
written as words. -/
theorem NoTelemetry.lineParse_of_stripped {m : Message δ} (bare : NoTelemetry m)
    (areWords : ∀ word ∈ keyWords m, IsWord isBlank word) (knownRole : m.role ≠ .unknown)
    (knownType : m.type ≠ .unknown) {line : Bytes} (nulFree : 0 ∉ line)
    (short : line.length < 511) (stripped : rstripCrlf line = lineText m) :
    lineParse line = some m := by
  have nonempty : line ≠ [] := by
    rintro rfl
    have empty : lineText m = [] := stripped.symm
    simp [lineText] at empty
  rw [lineParse_of_tokens nulFree nonempty short stripped (tokens_lineText areWords)
    (by rwa [roleFrom_roleTo]) (by rwa [typeFrom_typeTo]), roleFrom_roleTo, typeFrom_typeTo,
    bare.foldl_keyWords]

theorem NoTelemetry.line_length_lt {m : Message δ} (bare : NoTelemetry m) :
    (lineText m ++ [10]).length < 511 := by
  have := lineText_length_le bare.temp bare.pressure bare.flow
  rw [List.length_append, List.length_singleton]
  omega

/-- The newline of a formatted line is all that is stripped from it. -/
theorem Plain.rstripCrlf_line {m : Message δ} (plain : Plain m) :
    rstripCrlf (lineText m ++ [10]) = lineText m := by
  rw [rstripCrlf, List.rdropWhile_concat_pos _ _ _ (by decide), List.rdropWhile_eq_self_iff]
  intro nonempty
  simp [plain.not_isCrlf (List.getLast_mem nonempty)]

/-- **Parsing the complete line of a plain message gives the message back.** -/
theorem Plain.lineParse_lineText {m : Message δ} (plain : Plain m) (knownRole : m.role ≠ .unknown)
    (knownType : m.type ≠ .unknown) : lineParse (lineText m ++ [10]) = some m :=
  plain.noTelemetry.lineParse_of_stripped
    (fun _ member =>
      (plain.clean_of_mem_keyWords member).isWord (ne_nil_of_mem_keyWords member))
    knownRole knownType plain.noTelemetry.nulFree plain.noTelemetry.line_length_lt
    plain.rstripCrlf_line

/-- **Decode undoes encode** over the whole format without telemetry: in 256 bytes or more a
message with a known role and type is formatted, and the line parses to the same message. -/
theorem lineParse_lineFormat {m : Message δ} {cap : ℕ} (plain : Plain m)
    (knownRole : m.role ≠ .unknown) (knownType : m.type ≠ .unknown) (room : 256 ≤ cap) :
    ∃ line, lineFormat m cap = some line ∧ lineParse line = some m := by
  have length := lineText_length_le plain.temp plain.pressure plain.flow
  refine ⟨lineText m ++ [10], ?_, plain.lineParse_lineText knownRole knownType⟩
  rw [lineFormat_eq, if_neg (by omega)]

/-- A reply with full-range numerals, an `=` inside a value and an empty value. -/
def longReply : Message ℚ where
  role := .resp
  type := .error
  dev := some 4294967295
  seq := some 4294967295
  ok := some (-2147483648)
  code := some (-2147483648)
  state := some (strncpy 31 (ascii "A=B"))
  msg := some (strncpy 127 [])

theorem longReply_roundTrip :
    ∃ line, lineFormat longReply 256 = some line ∧ lineParse line = some longReply :=
  lineParse_lineFormat
    { temp := rfl
      pressure := rfl
      flow := rfl
      state := by decide
      msg := by decide }
    (by decide) (by decide) (by decide)

/-! ## The head of a formatted line -/

/-- Stripping line ends stops at a byte that is none. -/
theorem rstripCrlf_append {head : Bytes} (nonempty : head ≠ [])
    (keep : isCrlf (head.getLast nonempty) = false) (tail : Bytes) :
    rstripCrlf (head ++ tail) = head ++ rstripCrlf tail := by
  induction tail using List.reverseRecOn with
  | nil =>
      rw [List.append_nil, rstripCrlf, List.rdropWhile_eq_self_iff.mpr fun _ => by simp [keep]]
      simp [rstripCrlf]
  | append_singleton tail b ih =>
      rw [← List.append_assoc, rstripCrlf, rstripCrlf]
      cases isEnd : isCrlf b with
      | true =>
          rw [List.rdropWhile_concat_pos _ _ _ isEnd, List.rdropWhile_concat_pos _ _ _ isEnd]
          exact ih
      | false =>
          rw [List.rdropWhile_concat_neg _ _ _ (by simp [isEnd]),
            List.rdropWhile_concat_neg _ _ _ (by simp [isEnd]), List.append_assoc]

theorem foldl_applyToken_head (m : Message δ) (words : List Bytes) :
    (words.foldl applyToken m).role = m.role ∧ (words.foldl applyToken m).type = m.type := by
  induction words generalizing m with
  | nil => exact ⟨rfl, rfl⟩
  | cons word words ih =>
      have one : (applyToken m word).role = m.role ∧ (applyToken m word).type = m.type := by
        rw [applyToken]
        split
        · exact ⟨(applyKey_step m _ _).role, (applyKey_step m _ _).type⟩
        · exact ⟨rfl, rfl⟩
      exact ⟨(ih _).1.trans one.1, (ih _).2.trans one.2⟩

/-- What follows the type of a formatted line leaves the type a token. -/
theorem tokens_head {type : Bytes} (isWord : IsWord isBlank type) {m : Message δ} :
    ∃ words, tokens isBlank (type ++ rstripCrlf (cString
      (((keyWords m).flatMap fun word => 32 :: word) ++ [10]))) = type :: words := by
  cases keyWords m with
  | nil => exact ⟨[], by rw [show rstripCrlf (cString _) = [] from rfl, List.append_nil,
      tokens_word isWord]⟩
  | cons word words =>
      rw [List.flatMap_cons, List.cons_append, List.cons_append,
        cString, List.takeWhile_cons_of_pos (by decide), ← List.singleton_append,
        rstripCrlf_append (by simp) (by rfl), List.singleton_append,
        tokens_word_append isWord (by decide)]
      exact ⟨_, rfl⟩

/-- The tokens of a formatted line start with the role and the type of its message. -/
theorem tokens_line_head (m : Message δ) :
    ∃ words, tokens isBlank (rstripCrlf (cString (lineText m ++ [10]))) =
      roleTo m.role :: typeTo m.type :: words := by
  have roleWord := (clean_roleTo m.role).isWord (roleTo_ne_nil m.role)
  have typeWord := (clean_typeTo m.type).isWord (typeTo_ne_nil m.type)
  have headBytes : ∀ b ∈ roleTo m.role ++ 32 :: typeTo m.type, b ≠ 0 ∧ isCrlf b = false := by
    intro b member
    rcases List.mem_append.mp member with inRole | inType
    · exact (clean_roleTo m.role).bytes inRole
    rcases List.mem_cons.mp inType with rfl | inType
    · decide
    · exact (clean_typeTo m.type).bytes inType
  have cut : cString (lineText m ++ [10]) = roleTo m.role ++ 32 :: typeTo m.type ++
      cString (((keyWords m).flatMap fun word => 32 :: word) ++ [10]) := by
    rw [lineText, List.append_assoc, cString,
      List.takeWhile_append_of_pos fun b member => by simpa using (headBytes b member).1, cString]
  have nonempty : roleTo m.role ++ 32 :: typeTo m.type ≠ [] := by simp
  have keep := (headBytes _ (List.getLast_mem nonempty)).2
  obtain ⟨words, split⟩ := tokens_head typeWord (m := m)
  refine ⟨words, ?_⟩
  rw [cut, rstripCrlf_append nonempty keep, List.append_assoc, List.cons_append,
    tokens_word_append roleWord (by decide), split]

/-- Messages with the same complete text have the same role and type. -/
theorem lineText_head_injective {m other : Message δ} (same : lineText m = lineText other) :
    m.role = other.role ∧ m.type = other.type := by
  obtain ⟨_, first⟩ := tokens_line_head m
  obtain ⟨_, second⟩ := tokens_line_head other
  rw [same, second] at first
  obtain ⟨role, rest⟩ := List.cons.inj first
  obtain ⟨type, _⟩ := List.cons.inj rest
  constructor
  · rw [← roleFrom_roleTo m.role, ← role, roleFrom_roleTo]
  · rw [← typeFrom_typeTo m.type, ← type, typeFrom_typeTo]

/-- **A line that a message was formatted to has the role and the type of the message**, whatever
its values are, if it is accepted at all. -/
theorem lineParse_lineText_head {m parsed : Message δ}
    (accepted : lineParse (lineText m ++ [10]) = some parsed) :
    parsed.role = m.role ∧ parsed.type = m.type := by
  obtain ⟨words, tokenized⟩ := tokens_line_head m
  simp only [lineParse] at accepted
  split at accepted
  · cases accepted
  rename_i room
  rw [List.take_of_length_le (by omega), tokenized] at accepted
  simp only [roleFrom_roleTo, typeFrom_typeTo] at accepted
  split at accepted
  · cases accepted
  · cases accepted
    exact foldl_applyToken_head _ words

end Codec

end EquipmentControl
