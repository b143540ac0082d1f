import EquipmentControl.Pmc.AuxDevice
import EquipmentControl.Pmc.LineStream

/-!
# Boot lines and the replies after a reconnection

An aux device prints boot lines when its port is opened and answers each command with one line.
`pmc_io_uart_aux_configure` and `pmc_aux_reconnect` drain at most four lines
(`Reconnected.ready`). When that empties the link and each answer fits into the buffer, every
reply is the answer to its own command (`exchange_matched`). A boot line that is left is taken for
the reply to the next command, and every answer comes one command late; the calls succeed, so
nothing reopens the link. So the replies match exactly when there are at most four boot lines and
every answer is shorter than the buffer (`replies_matched_iff`).
-/

set_option autoImplicit false

namespace EquipmentControl

open BoundedLine

/-- A line that is not blank. -/
structure TextLine (line : Bytes) : Prop extends CleanLine line where
  notBlank : stripCr line ≠ []

/-- The lines a device prints when its port has been opened. -/
def BootLines (boot : List Bytes) : Prop :=
  ∀ line ∈ boot, TextLine line ∧ (stripCr line).length < 127

/-- A device behind a port. Configuring the port discards what it had yet to deliver, and the
device prints `boot`; a command that is written is answered with one line of at most `len` bytes. -/
structure BootingDevice {τ : Type} (io : SerialPort τ) (unread : τ → Bytes)
    (answer : Bytes → τ → Bytes) (boot : List Bytes) (len : ℕ) : Prop where
  delivers : ∀ fd, io.Delivers fd unread
  boots : ∀ fd speed world, (io.configure fd speed world).1 = true →
    unread (io.configure fd speed world).2 = lineBytes boot
  answered : ∀ fd data world, unread (io.write fd data world).2 =
    unread world ++ lineBytes (if (io.write fd data world).1 then [answer data world] else [])
  answers : ∀ data world, TextLine (answer data world)
  fits : ∀ data world, (stripCr (answer data world)).length ≤ len

/-- The session has been opened, by `pmc_aux_reconnect` or by `pmc_io_uart_aux_configure`. -/
def Reconnected {τ : Type} (io : SerialPort τ) (after : Aux τ) : Prop :=
  ∃ aux, pmcAuxReconnect io aux = (true, after) ∨
    ∃ serialPath baudrate, pmcIoUartAuxConfigure io serialPath baudrate aux = (true, after)

/-- The port after some calls of `pico_send_and_wait`, each a command and the size of a buffer. -/
def afterCalls {τ : Type} (io : SerialPort τ) (dev : PicoDevice) (calls : List (Bytes × ℕ))
    (port : τ) : τ :=
  calls.foldl (fun port call => (picoSendAndWait io dev call.1 call.2 port).2) port

/-- **Every reply belongs to its own command**: for every device that prints `boot` and answers
lines of at most `len` bytes, and every command after a reconnection, with buffers of at least
`replySz` bytes. -/
def RepliesMatched (boot : List Bytes) (len replySz : ℕ) : Prop :=
  ∀ {τ : Type} (io : SerialPort τ) (unread : τ → Bytes) (answer : Bytes → τ → Bytes),
    BootingDevice io unread answer boot len → ∀ after, Reconnected io after →
    ∀ earlier : List (Bytes × ℕ), (∀ call ∈ earlier, replySz ≤ call.2) →
    ∀ cmd size reply, replySz ≤ size →
      let port := afterCalls io after.cfg.dev earlier after.port
      (picoSendAndWait io after.cfg.dev cmd size port).1 = some reply →
        reply = stripCr (answer (cmd ++ [10]) port)

/-! ## The drain -/

section Drain

variable {τ : Type} {io : SerialPort τ} {unread : τ → Bytes}

/-- The drain takes whole lines, as many as it may. -/
theorem drainLoop_unread {link : SerialLink} (delivers : io.Delivers link.fd unread)
    (isOpen : link.isOpen = true) {boot : List Bytes} (bootLines : BootLines boot) (count : ℕ)
    {port : τ} (pending : unread port = lineBytes boot) :
    unread (drainLoop io link count port) = lineBytes (boot.drop count) := by
  induction count generalizing boot port with
  | zero => exact pending
  | succ count ih =>
      rw [drainLoop]
      cases boot with
      | nil =>
          obtain ⟨after, read, left⟩ :=
            serialLinkReadLine_atEnd delivers isOpen (show 0 < 127 by decide) 200 pending
          rw [read]
          exact left
      | cons line boot =>
          obtain ⟨isText, short⟩ := bootLines line List.mem_cons_self
          obtain ⟨after, read, left⟩ :=
            serialLinkReadLine_line delivers isOpen 127 200 isText.noNewline pending
          rw [cut_snd_of_short short] at left
          rw [read]
          exact ih (fun other member => bootLines other (List.mem_cons_of_mem line member)) left

/-- A device that has been opened is connected, over an open link with the boot lines ahead. -/
theorem picoDeviceOpen_boots {answer : Bytes → τ → Bytes} {boot : List Bytes} {len : ℕ}
    (device : BootingDevice io unread answer boot len) {path : Bytes} {baudrate : ℤ} {port next : τ}
    {dev : PicoDevice} (opened : picoDeviceOpen io path baudrate port = (true, dev, next)) :
    dev.connected = true ∧ dev.link.isOpen = true ∧ unread next = lineBytes boot := by
  rw [picoDeviceOpen, serialLinkOpen] at opened
  split at opened
  · cases opened
  rename_i link world linked
  cases opened
  split at linked
  · cases linked
  rename_i fd ready _
  split at linked
  · cases linked
  rename_i next configured
  cases linked
  have boots := device.boots fd (baudToSpeed baudrate) ready
  rw [configured] at boots
  exact ⟨rfl, rfl, boots rfl⟩

/-- **After a reconnection** the device is connected, and the boot lines from the fifth on are
left. -/
theorem Reconnected.ready {answer : Bytes → τ → Bytes} {boot : List Bytes} {len : ℕ}
    (device : BootingDevice io unread answer boot len) (bootLines : BootLines boot)
    {after : Aux τ} (reconnected : Reconnected io after) :
    after.cfg.dev.connected = true ∧ after.cfg.dev.link.isOpen = true ∧
      unread after.port = lineBytes (boot.drop 4) := by
  have drained : ∀ {path : Bytes} {baudrate : ℤ} {port : τ} {opened : Aux τ},
      picoDeviceOpen io path baudrate port = (true, opened.cfg.dev, opened.port) →
      opened.cfg.sessionReady = true → pmcAuxDrainBootLines io opened = after →
      after.cfg.dev.connected = true ∧ after.cfg.dev.link.isOpen = true ∧
        unread after.port = lineBytes (boot.drop 4) := by
    intro path baudrate port opened open' ready same
    obtain ⟨connected, isOpen, pending⟩ := picoDeviceOpen_boots device open'
    rw [pmcAuxDrainBootLines, ready, if_neg (by decide)] at same
    subst same
    exact ⟨connected, isOpen,
      drainLoop_unread (device.delivers opened.cfg.dev.link.fd) isOpen bootLines 4 pending⟩
  obtain ⟨aux, reconnect | ⟨serialPath, baudrate, configured⟩⟩ := reconnected
  · rw [pmcAuxReconnect] at reconnect
    split at reconnect
    · cases reconnect
    simp only at reconnect
    split at reconnect
    · cases reconnect
    · rename_i opened
      exact drained opened rfl (Prod.mk.inj reconnect).2
  · rw [pmcIoUartAuxConfigure] at configured
    split at configured
    · cases configured
    simp only at configured
    split at configured
    · cases configured
    · rename_i opened
      exact drained opened rfl (Prod.mk.inj configured).2

end Drain

/-! ## Replies that match -/

section Matched

variable {τ : Type} {io : SerialPort τ} {unread : τ → Bytes} {answer : Bytes → τ → Bytes}
  {boot : List Bytes} {len : ℕ} (device : BootingDevice io unread answer boot len)

/-- The lines that a device sends while data is written: its answer, if the write succeeds. -/
def answerLines (io : SerialPort τ) (answer : Bytes → τ → Bytes) (fd : ℤ) (data : Bytes)
    (world : τ) : List Bytes :=
  if (io.write fd data world).1 then [answer data world] else []

/-- A command that is written has one answer. -/
theorem arrivals_answerLines {link : SerialLink} (isOpen : link.isOpen = true) (cmd : Bytes)
    (world : τ) :
    arrivals (answerLines io answer link.fd) cmd world =
      if (serialLinkWriteLine io link cmd world).1 then [answer (cmd ++ [10]) world] else [] := by
  rw [arrivals, serialLinkWriteLine, isOpen, if_neg (show ¬ (!true) = true by decide)]
  split <;> rfl

/-- Nothing is left of the lines that arrived but a blank line that a full buffer has left. -/
def AllTaken (unread : τ → Bytes) (len : ℕ) (world : τ) : Prop :=
  ∃ arrived, (∀ line ∈ arrived, TextLine line ∧ (stripCr line).length ≤ len) ∧
    InOrder unread world arrived (nonBlank arrived)

/-- Lines that are not blank are framed. -/
theorem framed_of_text {lines : List Bytes}
    (text : ∀ line ∈ lines, TextLine line ∧ (stripCr line).length ≤ len) : Framed len lines where
  clean line member := (text line member).1.toCleanLine
  fits line member := (text line member).2
  blanks before blanks line after same blank _ := by
    cases blanks with
    | nil => exact Nat.zero_le 3
    | cons b blanks =>
        have member : b ∈ lines := by simp [same]
        exact absurd (blank b List.mem_cons_self) (text b member).1.notBlank

include device

/-- **An exchange** that starts with nothing left: a command that is written gets its answer. -/
theorem exchange_matched {dev : PicoDevice} (isOpen : dev.link.isOpen = true)
    (connected : dev.connected = true) (cmd : Bytes) {size : ℕ} (fits : len < size) {world : τ}
    (taken : AllTaken unread len world) :
    (picoSendAndWait io dev cmd size world).1 =
        (if (serialLinkWriteLine io dev.link cmd world).1 then
          some (stripCr (answer (cmd ++ [10]) world)) else none) ∧
      AllTaken unread len (picoSendAndWait io dev cmd size world).2 := by
  obtain ⟨arrived, text, inOrder⟩ := taken
  have isText := device.answers (cmd ++ [10]) world
  have short := device.fits (cmd ++ [10]) world
  have notEmpty : 0 < len := Nat.lt_of_lt_of_le (List.length_pos_of_ne_nil isText.notBlank) short
  have streams : io.Streams dev.link.fd unread (answerLines io answer dev.link.fd) :=
    ⟨device.delivers dev.link.fd, device.answered dev.link.fd⟩
  have more : ∀ line ∈ arrived ++ arrivals (answerLines io answer dev.link.fd) cmd world,
      TextLine line ∧ (stripCr line).length ≤ len := by
    intro line member
    rw [arrivals_answerLines isOpen] at member
    rcases List.mem_append.mp member with old | new
    · exact text line old
    split at new
    · rw [List.mem_singleton.mp new]
      exact ⟨isText, short⟩
    · cases new
  obtain ⟨reply, next⟩ := inOrder.picoSendAndWait streams isOpen connected notEmpty fits
    (framed_of_text more)
  have own : (picoSendAndWait io dev cmd size world).1 =
      if (serialLinkWriteLine io dev.link cmd world).1 then
        some (stripCr (answer (cmd ++ [10]) world)) else none := by
    rw [reply, arrivals_answerLines isOpen]
    split
    · rw [nonBlank_append, nonBlank_singleton isText.notBlank, List.getElem?_concat_length]
    · rfl
  refine ⟨own, _, more, ?_⟩
  rw [own] at next
  rw [arrivals_answerLines isOpen] at next ⊢
  cases written : (serialLinkWriteLine io dev.link cmd world).1 with
  | false => simpa [written] using next
  | true =>
      rw [written, if_pos rfl, if_pos rfl] at next
      rw [if_pos rfl, nonBlank_append, nonBlank_singleton isText.notBlank]
      exact next

/-- Calls after a reconnection leave nothing, when the drain has left nothing. -/
theorem afterCalls_matched {dev : PicoDevice} (isOpen : dev.link.isOpen = true)
    (connected : dev.connected = true) {calls : List (Bytes × ℕ)}
    (fits : ∀ call ∈ calls, len < call.2) {world : τ} (taken : AllTaken unread len world) :
    AllTaken unread len (afterCalls io dev calls world) := by
  induction calls generalizing world with
  | nil => exact taken
  | cons call calls ih =>
      exact ih (fun other member => fits other (List.mem_cons_of_mem call member))
        (exchange_matched device isOpen connected call.1 (fits call List.mem_cons_self) taken).2

end Matched

/-- **At most four boot lines and answers that fit** make every reply match. -/
theorem repliesMatched_of_short {boot : List Bytes} (bootLines : BootLines boot) {len replySz : ℕ}
    (few : boot.length ≤ 4) (fits : len < replySz) : RepliesMatched boot len replySz := by
  intro τ io unread answer device after reconnected earlier sizes cmd size reply large port replied
  obtain ⟨connected, isOpen, left⟩ := reconnected.ready device bootLines
  have start : AllTaken unread len after.port := by
    rw [List.drop_eq_nil_of_le few] at left
    have nothing : InOrder unread after.port [] [] := ⟨none, [], [], rfl, left, (by simp), rfl⟩
    exact ⟨[], (by simp), nothing⟩
  have taken := afterCalls_matched device isOpen connected
    (fun call member => Nat.lt_of_lt_of_le fits (sizes call member)) start
  have own := (exchange_matched device isOpen connected cmd
    (Nat.lt_of_lt_of_le fits large) taken).1
  rw [own] at replied
  split at replied
  · exact (Option.some.inj replied).symm
  · cases replied

/-! ## Replies that do not match -/

section Constant

variable {boot : List Bytes} {answer : Bytes}

/-- A device that answers every command with the same line. -/
theorem constantDevice (isText : TextLine answer) {len : ℕ} (fits : (stripCr answer).length ≤ len) :
    BootingDevice (streamPort boot fun _ => [answer]) id (fun _ _ => answer) boot len where
  delivers fd := (streamPort_streams boot (fun _ => [answer]) fd).toDelivers
  boots _ _ _ _ := rfl
  answered _ _ _ := rfl
  answers _ _ := isText
  fits _ _ := fits

/-- The session after a reconnection to that device. -/
def constantSession (boot : List Bytes) (answer : Bytes) : Aux Bytes :=
  (pmcAuxReconnect (streamPort boot fun _ => [answer]) ⟨plantCfg, []⟩).2

theorem constantSession_reconnected (boot : List Bytes) (answer : Bytes) :
    Reconnected (streamPort boot fun _ => [answer]) (constantSession boot answer) :=
  ⟨⟨plantCfg, []⟩, .inl rfl⟩

/-- **The first command gets the first line that is left**, as far as it fits. -/
theorem firstReply (bootLines : BootLines boot) (isText : TextLine answer) {size : ℕ}
    (room : 2 ≤ size) {line : Bytes} {rest : List Bytes}
    (first : boot.drop 4 ++ [answer] = line :: rest) :
    (picoSendAndWait (streamPort boot fun _ => [answer]) (constantSession boot answer).cfg.dev
      (ascii "PING") size (constantSession boot answer).port).1 =
        some ((stripCr line).take (size - 1)) := by
  have device : BootingDevice (streamPort boot fun _ => [answer]) id (fun _ _ => answer) boot
      (stripCr answer).length := constantDevice isText (Nat.le_refl _)
  obtain ⟨connected, isOpen, left⟩ :=
    (constantSession_reconnected boot answer).ready device bootLines
  have lineText : TextLine line := by
    have member : line ∈ boot.drop 4 ++ [answer] := first ▸ List.mem_cons_self
    rcases List.mem_append.mp member with inBoot | isAnswer
    · exact (bootLines line (List.mem_of_mem_drop inBoot)).1
    · exact List.mem_singleton.mp isAnswer ▸ isText
  obtain ⟨size, rfl⟩ : ∃ room, size = room + 1 := ⟨size - 1, by omega⟩
  generalize constantSession boot answer = session at connected isOpen left ⊢
  have written : serialLinkWriteLine (streamPort boot fun _ => [answer]) session.cfg.dev.link
      (ascii "PING") session.port = (true, session.port ++ lineBytes [answer]) := by
    rw [serialLinkWriteLine, isOpen]
    rfl
  have pending : id (session.port ++ lineBytes [answer]) = lineBytes ([] ++ line :: rest) := by
    rw [List.nil_append, ← first, lineBytes, lineBytes, terminated_append]
    exact congrArg (· ++ _) left
  obtain ⟨after, reply, -⟩ := picoWait_reply (device.delivers session.cfg.dev.link.fd) isOpen
    (show 0 < size by omega) (by simp) (show 0 < 5 by decide)
    lineText.toCleanLine lineText.notBlank pending
  rw [picoSendAndWait, connected, decide_eq_false (by omega), if_neg (by decide), written]
  exact congrArg Prod.fst reply

/-- When replies match, the first line that is left is the answer. -/
theorem RepliesMatched.first {len replySz : ℕ} (matched : RepliesMatched boot len replySz)
    (bootLines : BootLines boot) (isText : TextLine answer) (fits : (stripCr answer).length ≤ len)
    (room : 2 ≤ replySz) {line : Bytes} {rest : List Bytes}
    (first : boot.drop 4 ++ [answer] = line :: rest) :
    (stripCr line).take (replySz - 1) = stripCr answer :=
  matched (streamPort boot fun _ => [answer]) id (fun _ _ => answer) (constantDevice isText fits)
    (constantSession boot answer) (constantSession_reconnected boot answer) [] (by simp)
    (ascii "PING") replySz ((stripCr line).take (replySz - 1)) (Nat.le_refl _)
    (firstReply bootLines isText room first)

end Constant

theorem stripCr_replicate {b : UInt8} (notCr : b ≠ 13) (n : ℕ) :
    stripCr (List.replicate n b) = List.replicate n b :=
  List.filter_replicate_of_pos (by simpa [isCr] using notCr)

/-- A line of one letter. -/
theorem letters_text {b : UInt8} (notNul : b ≠ 0) (notNewline : b ≠ 10) (notCr : b ≠ 13) {n : ℕ}
    (some : 0 < n) : TextLine (List.replicate n b) where
  noNewline member := notNewline (List.eq_of_mem_replicate member).symm
  nulFree member := notNul (List.eq_of_mem_replicate member).symm
  notBlank := by
    rw [stripCr_replicate notCr]
    exact List.ne_nil_of_length_pos (by rwa [List.length_replicate])

theorem ready_bootLines (n : ℕ) : BootLines (List.replicate n (ascii "ready")) := by
  intro line member
  rw [List.eq_of_mem_replicate member]
  exact ⟨⟨⟨by decide, by decide⟩, by decide⟩, by decide⟩

/-- **The replies match exactly when the drain can take every boot line and every answer is shorter
than the buffer.** -/
theorem replies_matched_iff {boot : List Bytes} (bootLines : BootLines boot) {len replySz : ℕ}
    (answers : 0 < len) (room : 2 ≤ replySz) :
    RepliesMatched boot len replySz ↔ boot.length ≤ 4 ∧ len < replySz := by
  refine ⟨fun matched => ?_, fun ⟨few, fits⟩ => repliesMatched_of_short bootLines few fits⟩
  have few : boot.length ≤ 4 := by
    by_contra many
    obtain ⟨line, rest, left⟩ : ∃ line rest, boot.drop 4 = line :: rest :=
      List.exists_cons_of_length_pos (by rw [List.length_drop]; omega)
    have inBoot : line ∈ boot := List.mem_of_mem_drop (left ▸ List.mem_cons_self)
    obtain ⟨ch, more, same⟩ := List.exists_cons_of_ne_nil (bootLines line inBoot).1.notBlank
    -- an answer that starts with another letter than the boot line that is left
    obtain ⟨b, other, notNul, notNewline, notCr⟩ :
        ∃ b : UInt8, ch ≠ b ∧ b ≠ 0 ∧ b ≠ 10 ∧ b ≠ 13 := by
      by_cases isA : ch = 65
      · exact ⟨66, by rw [isA]; decide, by decide, by decide, by decide⟩
      · exact ⟨65, isA, by decide, by decide, by decide⟩
    have first := matched.first bootLines (letters_text notNul notNewline notCr Nat.one_pos)
      (by rwa [stripCr_replicate notCr, List.length_replicate]) room
      (show boot.drop 4 ++ [List.replicate 1 b] = line :: (rest ++ [List.replicate 1 b]) by
        rw [left, List.cons_append])
    obtain ⟨size, rfl⟩ : ∃ size, replySz = size + 2 := ⟨replySz - 2, by omega⟩
    rw [same, stripCr_replicate notCr] at first
    exact other (List.cons.inj first).1
  refine ⟨few, ?_⟩
  by_contra long
  have isText : TextLine (List.replicate replySz 65) :=
    letters_text (by decide) (by decide) (by decide) (by omega)
  have first := matched.first bootLines isText
    (by rw [stripCr_replicate (by decide), List.length_replicate]; omega) room
    (show boot.drop 4 ++ [List.replicate replySz 65] = List.replicate replySz 65 :: [] by
      rw [List.drop_eq_nil_of_le few, List.nil_append])
  have lengths := congrArg List.length first
  rw [stripCr_replicate (by decide), List.length_take, List.length_replicate] at lengths
  omega

/-- Four boot lines are drained, and answers of two bytes fit. -/
theorem replies_matched_four :
    BootLines (List.replicate 4 (ascii "ready")) ∧
      RepliesMatched (List.replicate 4 (ascii "ready")) 2 128 := by
  exact ⟨ready_bootLines 4,
    (replies_matched_iff (ready_bootLines 4) (by decide) (by decide)).mpr ⟨by decide, by decide⟩⟩

/-- The fifth boot line is taken for the reply to the first command. -/
theorem boot_line_as_reply :
    BootLines (List.replicate 5 (ascii "ready")) ∧
      ¬ RepliesMatched (List.replicate 5 (ascii "ready")) 2 128 := by
  refine ⟨ready_bootLines 5, fun matched => ?_⟩
  have isText : TextLine (ascii "OK") := ⟨⟨by decide, by decide⟩, by decide⟩
  have first := matched.first (ready_bootLines 5) isText (by decide) (by decide)
    (show (List.replicate 5 (ascii "ready")).drop 4 ++ [ascii "OK"] =
      [ascii "ready", ascii "OK"] from rfl)
  exact absurd first (by decide)

end EquipmentControl
