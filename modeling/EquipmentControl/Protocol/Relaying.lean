import EquipmentControl.Protocol.KeyValues

/-!
# Relaying a line

equipmentd and the PMC relay a message by parsing its line and formatting it again
(`services/equipmentd/src/main.c`, `nodes/pmc/src/io_manager.c`). The formatted line has the keys
in canonical order, so the value that ends the line need not be the one that ended the line
before, and the end of a line is stripped of CR and LF when it is parsed.

The texts of an accepted line hold neither blanks nor line feeds (`lineParse_relayable`). A relay
therefore leaves the message alone but for the CRs at the end of a `state` or `msg` that comes last
(`lineParse_relay`), and is transparent exactly when there are none (`relay_transparent_iff`).
-/

set_option autoImplicit false

namespace EquipmentControl

open DecimalText TokenText

/-! ## The end of a line -/

/-- What is left of a line once its end is stripped holds a line feed only if the line does before
its last byte. -/
theorem newline_not_mem_stripped {line : Bytes} (newline : 10 ∉ line.dropLast) :
    10 ∉ rstripCrlf (cString line) := by
  intro member
  have isPrefix : rstripCrlf (cString line) <+: line :=
    (List.rdropWhile_prefix _ _).trans (List.takeWhile_prefix _)
  have last : ∀ nonempty, isCrlf ((rstripCrlf (cString line)).getLast nonempty) ≠ true := by
    exact List.rdropWhile_last_not _ _
  generalize rstripCrlf (cString line) = text at member isPrefix last
  obtain ⟨cut, rfl⟩ := isPrefix
  by_cases whole : cut = []
  · subst whole
    rw [List.append_nil] at newline
    have nonempty : text ≠ [] := List.ne_nil_of_mem member
    rw [← List.dropLast_append_getLast nonempty, List.mem_append, List.mem_singleton] at member
    rcases member with before | atEnd
    · exact newline before
    · exact last nonempty (by rw [← atEnd]; decide)
  · rw [List.dropLast_append_of_ne_nil whole] at newline
    exact newline (List.mem_append_left _ member)

/-- The text without the CRs and LFs at its end. -/
def CString.rstrip {cap : ℕ} (text : CString cap) : CString cap where
  bytes := rstripCrlf text.bytes
  length_le := (List.rdropWhile_prefix _ _).length_le.trans text.length_le
  nulFree member := text.nulFree ((List.rdropWhile_prefix _ _).subset member)

/-- A value is stripped where it ends a line, and what is in front of it is not. -/
theorem rstripCrlf_keyWord (before : Bytes) (key : String) (value : Bytes) :
    rstripCrlf (before ++ 32 :: keyWord key value ++ [10]) =
      before ++ 32 :: keyWord key (rstripCrlf value) := by
  have front : before ++ 32 :: keyWord key value ++ [10] =
      (before ++ 32 :: ascii key ++ [61]) ++ (value ++ [10]) := by simp [keyWord]
  have newline : rstripCrlf (value ++ [10]) = rstripCrlf value :=
    List.rdropWhile_concat_pos _ _ _ (by decide)
  have keep : isCrlf ((before ++ 32 :: ascii key ++ [61]).getLast (by simp)) = false := by
    rw [List.getLast_append_of_ne_nil _ (by simp)]
    decide
  rw [front, rstripCrlf_append (by simp) keep, newline]
  simp [keyWord]

theorem Clean.rstripCrlf_eq {value : Bytes} (clean : Clean value) : rstripCrlf value = value := by
  refine List.rdropWhile_eq_self_iff.mpr fun nonempty => ?_
  simp [not_isCrlf_of_isClean (clean _ (List.getLast_mem nonempty))]

section Codec

variable {δ : Type} [CDouble δ]

/-! ## What an accepted line holds -/

/-- No telemetry is present, and the texts hold neither blanks nor line feeds. -/
structure Relayable (m : Message δ) : Prop extends NoTelemetry m where
  state : ∀ state ∈ m.state, ∀ b ∈ state.bytes, isBlank b = false ∧ b ≠ 10
  msg : ∀ msg ∈ m.msg, ∀ b ∈ msg.bytes, isBlank b = false ∧ b ≠ 10

omit [CDouble δ] in
/-- A text that is copied from the value of a token holds neither blanks nor line feeds. -/
theorem value_bytes {line key : Bytes} (newline : 10 ∉ line.dropLast) {cap : ℕ}
    {text : CString cap}
    (read : (lastValue key (keyTokens line)).map (strncpy cap) = some text) {b : UInt8}
    (member : b ∈ text.bytes) : isBlank b = false ∧ b ≠ 10 := by
  obtain ⟨val, last, rfl⟩ := Option.map_eq_some_iff.mp read
  obtain ⟨tok, inLine, subset⟩ := lastValue_subset last
  have inValue : b ∈ val :=
    (List.takeWhile_sublist _).subset (List.mem_of_mem_take member)
  obtain ⟨inText, noBlank⟩ := mem_of_mem_keyTokens inLine (subset inValue)
  refine ⟨noBlank, ?_⟩
  rintro rfl
  exact newline_not_mem_stripped newline inText

/-- **The texts of an accepted line hold neither blanks nor line feeds.** -/
theorem lineParse_relayable {line : Bytes} {m : Message δ} (parsed : lineParse line = some m)
    (newline : 10 ∉ line.dropLast) (bare : NoTelemetry m) : Relayable m where
  toNoTelemetry := bare
  state _ present _ member :=
    value_bytes newline ((lineParse_state parsed).symm.trans present) member
  msg _ present _ member :=
    value_bytes newline ((lineParse_msg parsed).symm.trans present) member

/-- The keys of a message whose texts hold no blanks are written as words. -/
theorem Relayable.areWords {m : Message δ} (relayable : Relayable m) {word : Bytes}
    (member : word ∈ keyWords m) : IsWord isBlank word where
  nonempty := ne_nil_of_mem_keyWords member
  clean b inside := by
    rcases relayable.byte_cases member inside with
      clean | ⟨state, present, inState⟩ | ⟨msg, present, inMsg⟩
    · exact not_isBlank_of_isClean clean
    · exact (relayable.state state present b inState).1
    · exact (relayable.msg msg present b inMsg).1

/-! ## The message after a relay -/

/-- The message with the end of its last value stripped, if that is a text. -/
def relayed (m : Message δ) : Message δ :=
  match m.msg, m.code, m.state with
  | some msg, _, _ => { m with msg := some msg.rstrip }
  | none, none, some state => { m with state := some state.rstrip }
  | _, _, _ => m

/-- The last value of the formatted line is a text that ends in CR. -/
def EndsInCr (m : Message δ) : Prop :=
  match m.msg, m.code, m.state with
  | some msg, _, _ => msg.bytes.getLast? = some 13
  | none, none, some state => state.bytes.getLast? = some 13
  | _, _, _ => False

omit [CDouble δ] in
theorem relayed_msg {m : Message δ} {text : CString 127} (hasMsg : m.msg = some text) :
    relayed m = { m with msg := some text.rstrip } := by
  rw [relayed, hasMsg]

/-- The text of a message comes last in its line. -/
theorem NoTelemetry.lineText_msg {m : Message δ} (bare : NoTelemetry m) (text : CString 127) :
    lineText { m with msg := some text } =
      lineText { m with msg := none } ++ 32 :: keyWord "msg" text.bytes := by
  simp [lineText, keyWords, bare.temp, bare.pressure, bare.flow]

/-- Without a text the code comes last. -/
theorem NoTelemetry.lineText_code {m : Message δ} (bare : NoTelemetry m) (noMsg : m.msg = none)
    (code : Int32) :
    lineText { m with code := some code } =
      lineText { m with code := none } ++ 32 :: keyWord "code" (signedDecimal code.toInt) := by
  simp [lineText, keyWords, bare.temp, bare.pressure, bare.flow, noMsg]

/-- Without either the state comes last. -/
theorem NoTelemetry.lineText_state {m : Message δ} (bare : NoTelemetry m) (noMsg : m.msg = none)
    (noCode : m.code = none) (state : CString 31) :
    lineText { m with state := some state } =
      lineText { m with state := none } ++ 32 :: keyWord "state" state.bytes := by
  simp [lineText, keyWords, bare.temp, bare.pressure, bare.flow, noMsg, noCode]

/-- **The newline of a formatted line is stripped**, and the end of its last text. -/
theorem NoTelemetry.rstripCrlf_line {m : Message δ} (bare : NoTelemetry m) :
    rstripCrlf (lineText m ++ [10]) = lineText (relayed m) := by
  cases hasMsg : m.msg with
  | some text =>
      have same : m = { m with msg := some text } := by rw [← hasMsg]
      rw [relayed_msg hasMsg, bare.lineText_msg, same, bare.lineText_msg, rstripCrlf_keyWord]
      rfl
  | none =>
  cases hasCode : m.code with
  | some code =>
      have same : m = { m with code := some code } := by rw [← hasCode]
      have kept : relayed m = m := by rw [relayed, hasMsg, hasCode]
      rw [kept, same, bare.lineText_code hasMsg, rstripCrlf_keyWord,
        (clean_signedDecimal _).rstripCrlf_eq]
  | none =>
  cases hasState : m.state with
  | some state =>
      have same : m = { m with state := some state } := by rw [← hasState]
      have cut : relayed m = { m with state := some state.rstrip } := by
        rw [relayed, hasMsg, hasCode, hasState]
      rw [cut, bare.lineText_state hasMsg hasCode, same, bare.lineText_state hasMsg hasCode,
        rstripCrlf_keyWord]
      rfl
  | none =>
      have kept : relayed m = m := by rw [relayed, hasMsg, hasCode, hasState]
      have plain : Plain m :=
        { temp := bare.temp
          pressure := bare.pressure
          flow := bare.flow
          state := by simp [hasState]
          msg := by simp [hasMsg] }
      rw [kept, plain.rstripCrlf_line]

theorem rstrip_bytes {cap : ℕ} {text : CString cap} {b : UInt8} (member : b ∈ text.rstrip.bytes) :
    b ∈ text.bytes :=
  (List.rdropWhile_prefix _ _).subset member

omit [CDouble δ] in
/-- What is stripped leaves the texts without blanks and line feeds. -/
theorem Relayable.relayed {m : Message δ} (relayable : Relayable m) : Relayable (relayed m) := by
  rw [EquipmentControl.relayed]
  split
  · rename_i text hasMsg
    refine { relayable with msg := ?_ }
    rintro _ ⟨⟩ b member
    exact relayable.msg text hasMsg b (rstrip_bytes member)
  · rename_i state _ _ hasState
    refine { relayable with state := ?_ }
    rintro _ ⟨⟩ b member
    exact relayable.state state hasState b (rstrip_bytes member)
  · exact relayable

omit [CDouble δ] in
theorem relayed_head (m : Message δ) : (relayed m).role = m.role ∧ (relayed m).type = m.type := by
  rw [relayed]
  split <;> exact ⟨rfl, rfl⟩

/-- **A relayed message is parsed to itself with the end of its last text stripped.** -/
theorem lineParse_relay {m : Message δ} (relayable : Relayable m) (knownRole : m.role ≠ .unknown)
    (knownType : m.type ≠ .unknown) : lineParse (lineText m ++ [10]) = some (relayed m) := by
  obtain ⟨role, type⟩ := relayed_head m
  exact relayable.relayed.lineParse_of_stripped (fun _ => relayable.relayed.areWords)
    (by rwa [role]) (by rwa [type]) relayable.nulFree relayable.line_length_lt
    relayable.rstripCrlf_line

/-! ## Transparency -/

/-- A text without line feeds stays as it is exactly when it does not end in CR. -/
theorem rstrip_eq_self_iff {cap : ℕ} {text : CString cap} (noFeed : ∀ b ∈ text.bytes, b ≠ 10) :
    text.rstrip = text ↔ text.bytes.getLast? ≠ some 13 := by
  rw [CString.ext_iff]
  change rstripCrlf text.bytes = text.bytes ↔ _
  rw [rstripCrlf, List.rdropWhile_eq_self_iff]
  rcases List.eq_nil_or_concat' text.bytes with empty | ⟨front, b, whole⟩
  · simp [empty]
  · have feed : b ≠ 10 := noFeed b (by rw [whole]; simp)
    simp [whole, isCrlf, feed]

omit [CDouble δ] in
/-- A relay leaves a message alone exactly when its last value is no text that ends in CR. -/
theorem Relayable.relayed_eq_iff {m : Message δ} (relayable : Relayable m) :
    EquipmentControl.relayed m = m ↔ ¬ EndsInCr m := by
  rw [EquipmentControl.relayed, EndsInCr]
  split
  · rename_i text hasMsg
    rw [← ne_eq, ← rstrip_eq_self_iff fun b member => (relayable.msg text hasMsg b member).2,
      Message.ext_iff]
    simp [hasMsg]
  · rename_i state _ _ hasState
    rw [← ne_eq, ← rstrip_eq_self_iff fun b member => (relayable.state state hasState b member).2,
      Message.ext_iff]
    simp [hasState]
  · simp

/-- **A relay is transparent** exactly when the last value of the formatted line is no text that
ends in CR: every line of at most 510 bytes without telemetry that is accepted is formatted, and the
formatted line is parsed to the same message unless the end of that text is stripped from it. -/
theorem relay_transparent_iff (line : Bytes) (m : Message δ) (newline : 10 ∉ line.dropLast)
    (parsed : lineParse line = some m) (temp : m.temp = none) (pressure : m.pressure = none)
    (flow : m.flow = none) :
    ∃ out, lineFormat m 512 = some out ∧ (lineParse out = some m ↔ ¬ EndsInCr m) := by
  have relayable := lineParse_relayable parsed newline ⟨temp, pressure, flow⟩
  have room := lineText_length_le temp pressure flow
  obtain ⟨role, type, _, knownRole, knownType, same⟩ := lineParse_some parsed
  obtain ⟨hasRole, hasType⟩ :=
    foldl_applyToken_head (δ := δ) { role := roleFrom role, type := typeFrom type } (keyTokens line)
  rw [← same] at hasRole hasType
  refine ⟨lineText m ++ [10], by rw [lineFormat_eq, if_neg (by omega)], ?_⟩
  rw [lineParse_relay relayable (by rwa [hasRole]) (by rwa [hasType]), Option.some.injEq,
    relayable.relayed_eq_iff]

end Codec

/-- An event with a state and a text. -/
def stateEvent (state : String) (dev : Option UInt32) : Message ℚ :=
  { role := .evt, type := .status, dev := dev, state := some (strncpy 31 (ascii state)) }

/-- The line of a module's STATUS is relayed as it is. -/
theorem relay_transparent_status :
    ∃ out, lineFormat (stateEvent "IDLE" (some 1)) 512 = some out ∧
      (lineParse out = some (stateEvent "IDLE" (some 1)) ↔
        ¬ EndsInCr (stateEvent "IDLE" (some 1))) :=
  relay_transparent_iff (ascii "EVT STATUS state=IDLE dev=1\n") _ (by decide) (by decide) rfl rfl
    rfl

/-- A CR at the end of a state that another key follows is lost when the state comes last. -/
theorem trailing_cr_lost :
    let m := stateEvent "A\r" (some 1)
    lineParse (ascii "EVT STATUS state=A\r dev=1\n") = some m ∧
      lineFormat m 512 = some (ascii "EVT STATUS dev=1 state=A\r\n") ∧
      lineParse (ascii "EVT STATUS dev=1 state=A\r\n") = some (stateEvent "A" (some 1)) ∧
      m ≠ stateEvent "A" (some 1) := by
  refine ⟨by decide, by decide, by decide, by decide⟩

end EquipmentControl
