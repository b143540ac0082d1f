import EquipmentControl.Library.BoundedLine
import EquipmentControl.Library.Machine
import EquipmentControl.Pmc.Serial
import Mathlib.Data.List.ReduceOption

/-!
# Lines on the serial link

What `serial_link_read_line` and `pico_send_and_wait` take from a port that delivers a stream of
lines. A line goes into a buffer of `reply_sz` bytes; CRs are skipped, and a line with
`reply_sz - 1` other bytes fills the buffer before its newline is read (`serialLinkReadLine_line`).
What is left of it is then a blank line in front of the next one.

A call reads up to five lines until one is not blank (`picoWait_reply`). One blank line is left at
most, so with three more blank lines in front of a line the call still finds it: as long as no
line is too long for the buffer, the calls return the lines that are not blank, in order and without
their CRs, and fail only when nothing was written or no such line is left (`replies_in_order`).
-/

set_option autoImplicit false

namespace EquipmentControl

open BoundedLine InputMachine

/-- The byte that reading a line skips. -/
def isCr (b : UInt8) : Bool := decide (b = 13)

/-- A line without its CRs. -/
def stripCr (line : Bytes) : Bytes := kept isCr line

/-- The bytes of a list of lines. -/
def lineBytes (lines : List Bytes) : Bytes := terminated 10 lines

/-- A line of the stream: it holds no newline and no NUL. -/
structure CleanLine (line : Bytes) : Prop where
  noNewline : 10 ∉ line
  nulFree : 0 ∉ line

/-- A line with nothing but CRs. -/
structure BlankLine (line : Bytes) : Prop where
  noNewline : 10 ∉ line
  empty : stripCr line = []

/-- A stream whose lines have at most `room` bytes without their CRs, with at most three blank
lines in front of each that is not blank. -/
structure Framed (room : ℕ) (lines : List Bytes) : Prop where
  clean : ∀ line ∈ lines, CleanLine line
  fits : ∀ line ∈ lines, (stripCr line).length ≤ room
  blanks : ∀ before blanks line after, lines = before ++ blanks ++ line :: after →
    (∀ blank ∈ blanks, stripCr blank = []) → stripCr line ≠ [] → blanks.length ≤ 3

/-- The lines that are not blank, without their CRs. -/
def nonBlank (lines : List Bytes) : List Bytes := (lines.map stripCr).filter fun line => line ≠ []

/-- Reads on a descriptor take the bytes that are yet to be delivered in order, all of them in one
burst if need be, and find nothing at the end. -/
structure SerialPort.Delivers {τ : Type} (io : SerialPort τ) (fd : ℤ) (unread : τ → Bytes) :
    Prop where
  byte : ∀ timeoutMs world ch rest, unread world = ch :: rest →
    (io.read fd timeoutMs world).1 = .byte ch ∧ unread (io.read fd timeoutMs world).2 = rest
  atEnd : ∀ timeoutMs world, unread world = [] →
    (io.read fd timeoutMs world).1 = .nothing ∧ unread (io.read fd timeoutMs world).2 = []
  burst : ∀ world, (unread world).length ≤ io.burst world

/-- A port that delivers lines on a descriptor: a write, also one that fails, adds the lines of
`arrives`. -/
structure SerialPort.Streams {τ : Type} (io : SerialPort τ) (fd : ℤ) (unread : τ → Bytes)
    (arrives : Bytes → τ → List Bytes) : Prop extends io.Delivers fd unread where
  write : ∀ data world,
    unread (io.write fd data world).2 = unread world ++ lineBytes (arrives data world)

theorem CleanLine.of_suffix {line rest : Bytes} (clean : CleanLine line) (isEnd : rest <:+ line) :
    CleanLine rest :=
  ⟨fun newline => clean.noNewline (isEnd.subset newline),
    fun nul => clean.nulFree (isEnd.subset nul)⟩

/-- What is taken of a clean line is a C string. -/
theorem CleanLine.cString_take {line : Bytes} (clean : CleanLine line) (room : ℕ) :
    cString ((stripCr line).take room) = (stripCr line).take room :=
  cString_of_not_mem fun nul =>
    clean.nulFree (List.mem_of_mem_filter (List.mem_of_mem_take nul))

theorem nonBlank_append (first second : List Bytes) :
    nonBlank (first ++ second) = nonBlank first ++ nonBlank second := by
  rw [nonBlank, List.map_append, List.filter_append, nonBlank, nonBlank]

theorem nonBlank_of_blank {lines : List Bytes} (blank : ∀ line ∈ lines, stripCr line = []) :
    nonBlank lines = [] := by
  rw [nonBlank, List.filter_eq_nil_iff]
  intro kept member
  obtain ⟨line, inLines, rfl⟩ := List.mem_map.mp member
  simpa using blank line inLines

theorem nonBlank_singleton {line : Bytes} (notBlank : stripCr line ≠ []) :
    nonBlank [line] = [stripCr line] := by
  rw [nonBlank, List.map_singleton, List.filter_singleton, decide_eq_true notBlank]
  rfl

/-- The first line of a stream that is not blank, if there is one. -/
theorem blank_or_line (lines : List Bytes) :
    (∀ line ∈ lines, stripCr line = []) ∨ ∃ blanks line after, lines = blanks ++ line :: after ∧
      (∀ blank ∈ blanks, stripCr blank = []) ∧ stripCr line ≠ [] := by
  cases found : lines.find? fun line => decide (stripCr line ≠ []) with
  | none =>
      rw [List.find?_eq_none] at found
      exact .inl fun line member => by simpa using found line member
  | some line =>
      obtain ⟨notBlank, blanks, after, same, blank⟩ := List.find?_eq_some_iff_append.mp found
      exact .inr ⟨blanks, line, after, same, fun b member => by simpa using blank b member,
        of_decide_eq_true notBlank⟩

theorem Framed.of_prefix {room : ℕ} {first second : List Bytes}
    (framed : Framed room (first ++ second)) : Framed room first where
  clean line member := framed.clean line (List.mem_append_left second member)
  fits line member := framed.fits line (List.mem_append_left second member)
  blanks before blanks line after same :=
    framed.blanks before blanks line (after ++ second) (by rw [same]; simp)

variable {τ : Type} {io : SerialPort τ} {unread : τ → Bytes}

section Lines

variable {link : SerialLink} (delivers : io.Delivers link.fd unread)
include delivers

/-! ## One line -/

/-- A byte that is yet to be delivered is the next one to be read. -/
theorem readLineLoop_byte (timeoutMs : ℕ) {outSz rounds : ℕ} {used rest : Bytes} {ch : UInt8}
    {world : τ} (hasRoom : used.length + 1 < outSz) (pending : unread world = ch :: rest) :
    ∃ after, unread after = rest ∧
      readLineLoop io link.fd outSz timeoutMs (rounds + 1) used world =
        if ch = 13 then readLineLoop io link.fd outSz timeoutMs rounds used after
        else if ch = 10 then (.line used, after)
        else readLineLoop io link.fd outSz timeoutMs rounds (used ++ [ch]) after := by
  obtain ⟨isByte, next⟩ := delivers.byte timeoutMs world ch rest pending
  refine ⟨(io.read link.fd timeoutMs world).2, next, ?_⟩
  rw [readLineLoop, if_neg (by omega), ← Prod.eta (io.read link.fd timeoutMs world), isByte]

/-- The loop takes a line as far as the buffer has room. -/
theorem readLineLoop_line (timeoutMs : ℕ) {outSz room rounds : ℕ} {used line rest : Bytes}
    {world : τ} (size : outSz = used.length + 1 + room) (enough : line.length < rounds)
    (noNewline : 10 ∉ line) (pending : unread world = line ++ 10 :: rest) :
    ∃ after, readLineLoop io link.fd outSz timeoutMs rounds used world =
        (.line (used ++ (cut isCr room line).1), after) ∧
      unread after = match (cut isCr room line).2 with
        | none => rest
        | some left => left ++ 10 :: rest := by
  induction line generalizing room rounds used world with
  | nil =>
      cases rounds with
      | zero => cases enough
      | succ rounds =>
      cases room with
      | zero =>
          rw [readLineLoop, if_pos (by omega)]
          exact ⟨world, by simp [cut], pending⟩
      | succ room =>
          obtain ⟨after, next, read⟩ := readLineLoop_byte delivers timeoutMs
            (show used.length + 1 < outSz by omega) pending
          rw [read]
          exact ⟨after, by simp [cut], next⟩
  | cons ch line ih =>
      cases rounds with
      | zero => cases enough
      | succ rounds =>
      cases room with
      | zero =>
          rw [readLineLoop, if_pos (by omega)]
          exact ⟨world, by simp [cut], pending⟩
      | succ room =>
          obtain ⟨after, next, read⟩ := readLineLoop_byte delivers timeoutMs
            (show used.length + 1 < outSz by omega) pending
          rw [read]
          have fewer : line.length < rounds := Nat.lt_of_succ_lt_succ enough
          have inLine : 10 ∉ line := fun member => noNewline (List.mem_cons_of_mem ch member)
          by_cases cr : ch = 13
          · subst cr
            rw [if_pos rfl]
            exact ih size fewer inLine next
          · have newline : ch ≠ 10 := fun same => noNewline (same ▸ List.mem_cons_self)
            have keep : isCr ch = false := by simpa [isCr] using cr
            rw [if_neg cr, if_neg newline]
            have larger : outSz = (used ++ [ch]).length + 1 + room := by
              rw [List.length_append, List.length_singleton]
              omega
            obtain ⟨last, taken, left⟩ := ih larger fewer inLine next
            refine ⟨last, ?_, ?_⟩
            · rw [taken, cut, keep, List.append_assoc]
              rfl
            · rw [left, cut, keep]
              rfl

/-- **One line**: what fits of it is taken, and the rest stays in front of the next line. -/
theorem serialLinkReadLine_line (isOpen : link.isOpen = true) (room : ℕ)
    (timeoutMs : ℕ) {line : Bytes} {lines : List Bytes} {world : τ} (noNewline : 10 ∉ line)
    (pending : unread world = lineBytes (line :: lines)) :
    ∃ after, serialLinkReadLine io link (room + 1) timeoutMs world =
        (.line ((stripCr line).take room), after) ∧
      unread after = lineBytes ((cut isCr room line).2.toList ++ lines) := by
  rw [lineBytes, terminated_cons] at pending
  have enough : line.length < io.burst world + 1 := by
    have all := delivers.burst world
    rw [pending, List.length_append] at all
    omega
  obtain ⟨after, taken, left⟩ := readLineLoop_line delivers timeoutMs
    (show room + 1 = List.length [] + 1 + room by rw [List.length_nil]; omega) enough
    noNewline pending
  refine ⟨after, ?_, ?_⟩
  · rw [serialLinkReadLine, isOpen, if_neg (by simp), taken, cut_fst]
    rfl
  · rw [left]
    cases (cut isCr room line).2 with
    | none => rfl
    | some rest => rw [lineBytes, Option.toList_some, List.singleton_append, terminated_cons]

/-- At the end of the stream there is no line. -/
theorem serialLinkReadLine_atEnd (isOpen : link.isOpen = true) {room : ℕ}
    (hasRoom : 0 < room) (timeoutMs : ℕ) {world : τ} (pending : unread world = []) :
    ∃ after, serialLinkReadLine io link (room + 1) timeoutMs world = (.nothing, after) ∧
      unread after = [] := by
  obtain ⟨nothing, left⟩ := delivers.atEnd timeoutMs world pending
  refine ⟨(io.read link.fd timeoutMs world).2, ?_, left⟩
  rw [serialLinkReadLine, isOpen, if_neg (by simp), readLineLoop, List.length_nil,
    if_neg (by omega), ← Prod.eta (io.read link.fd timeoutMs world), nothing]

/-! ## One call -/

/-- A blank line costs a call one of its tries. -/
theorem picoWait_blank (isOpen : link.isOpen = true) {room : ℕ}
    (hasRoom : 0 < room) (tries : ℕ) {blank : Bytes} {lines : List Bytes} {world : τ}
    (isBlank : BlankLine blank) (pending : unread world = lineBytes (blank :: lines)) :
    ∃ next, picoWait io link (room + 1) (tries + 1) world = picoWait io link (room + 1) tries next ∧
      unread next = lineBytes lines := by
  obtain ⟨next, read, left⟩ :=
    serialLinkReadLine_line delivers isOpen room 500 isBlank.noNewline pending
  have whole : (cut isCr room blank).2 = none := cut_snd_of_short (by
    rw [← stripCr, isBlank.empty]
    exact hasRoom)
  rw [whole] at left
  refine ⟨next, ?_, left⟩
  rw [picoWait, read, isBlank.empty, List.take_nil]
  rfl

/-- **The first line that is not blank is the reply**, when few enough blank lines precede it. -/
theorem picoWait_reply (isOpen : link.isOpen = true) {room tries : ℕ}
    (hasRoom : 0 < room) {blanks lines : List Bytes} {line : Bytes} {world : τ}
    (blank : ∀ b ∈ blanks, BlankLine b) (few : blanks.length < tries)
    (clean : CleanLine line) (notBlank : stripCr line ≠ [])
    (pending : unread world = lineBytes (blanks ++ line :: lines)) :
    ∃ after, picoWait io link (room + 1) tries world = (some ((stripCr line).take room), after) ∧
      unread after = lineBytes ((cut isCr room line).2.toList ++ lines) := by
  induction blanks generalizing tries world with
  | nil =>
      cases tries with
      | zero => cases few
      | succ tries =>
      obtain ⟨after, read, left⟩ :=
        serialLinkReadLine_line delivers isOpen room 500 clean.noNewline pending
      have taken : (stripCr line).take room ≠ [] := by
        rw [Ne, List.take_eq_nil_iff]
        exact not_or.mpr ⟨by omega, notBlank⟩
      refine ⟨after, ?_, left⟩
      rw [picoWait, read]
      simp only [clean.cString_take, if_neg taken]
  | cons b blanks ih =>
      cases tries with
      | zero => cases few
      | succ tries =>
      obtain ⟨next, skipped, left⟩ :=
        picoWait_blank delivers isOpen hasRoom tries (blank b List.mem_cons_self) pending
      rw [skipped]
      exact ih (fun b' member => blank b' (List.mem_cons_of_mem b member))
        (Nat.lt_of_succ_lt_succ few) left

/-- Blank lines alone give no reply. -/
theorem picoWait_blanks (isOpen : link.isOpen = true) {room : ℕ} (hasRoom : 0 < room)
    (tries : ℕ) {blanks : List Bytes} {world : τ}
    (blank : ∀ b ∈ blanks, BlankLine b) (pending : unread world = lineBytes blanks) :
    ∃ after, picoWait io link (room + 1) tries world = (none, after) ∧
      unread after = lineBytes (blanks.drop tries) := by
  induction tries generalizing blanks world with
  | zero => exact ⟨world, rfl, pending⟩
  | succ tries ih =>
      cases blanks with
      | nil =>
          obtain ⟨after, read, left⟩ := serialLinkReadLine_atEnd delivers isOpen hasRoom 500 pending
          refine ⟨after, ?_, left⟩
          rw [picoWait, read]
      | cons b blanks =>
          obtain ⟨next, skipped, left⟩ :=
            picoWait_blank delivers isOpen hasRoom tries (blank b List.mem_cons_self) pending
          rw [skipped]
          exact ih (fun b' member => blank b' (List.mem_cons_of_mem b member)) left

/-! ## Calls in a row -/

/-- What is left of the lines that arrived: those after `taken`, with at most one blank line that a
full buffer has left in front. `got` are the replies so far. -/
def InOrder (unread : τ → Bytes) (world : τ) (arrived got : List Bytes) : Prop :=
  ∃ (stray : Option Bytes) (taken rest : List Bytes), arrived = taken ++ rest ∧
    unread world = lineBytes (stray.toList ++ rest) ∧ (∀ blank ∈ stray, BlankLine blank) ∧
    got = nonBlank taken

omit delivers in
/-- A stray line before blank lines of the stream is one more. -/
theorem blankLines_of_stray {stray : Option Bytes} (strayBlank : ∀ blank ∈ stray, BlankLine blank)
    {lines : List Bytes} (clean : ∀ line ∈ lines, CleanLine line)
    (blank : ∀ line ∈ lines, stripCr line = []) : ∀ b ∈ stray.toList ++ lines, BlankLine b := by
  intro b member
  rcases List.mem_append.mp member with inStray | inLines
  · exact strayBlank b (Option.mem_toList.mp inStray)
  · exact ⟨(clean b inLines).noNewline, blank b inLines⟩

/-- With nothing but blank lines left, a call skips some of them. -/
theorem inOrder_blanks (isOpen : link.isOpen = true) {room : ℕ} (hasRoom : 0 < room)
    {stray : Option Bytes} (taken : List Bytes) {rest : List Bytes} {world : τ}
    (pending : unread world = lineBytes (stray.toList ++ rest))
    (strayBlank : ∀ blank ∈ stray, BlankLine blank) (clean : ∀ line ∈ rest, CleanLine line)
    (restBlank : ∀ line ∈ rest, stripCr line = []) :
    (picoWait io link (room + 1) 5 world).1 = none ∧
      InOrder unread (picoWait io link (room + 1) 5 world).2 (taken ++ rest) (nonBlank taken) := by
  have few : stray.toList.length ≤ 1 := by cases stray <;> simp
  obtain ⟨last, noReply, left⟩ := picoWait_blanks delivers isOpen hasRoom 5
    (blankLines_of_stray strayBlank clean restBlank) pending
  rw [noReply]
  refine ⟨rfl, none, taken ++ rest.take (5 - stray.toList.length),
    rest.drop (5 - stray.toList.length), ?_, ?_, ?_, ?_⟩
  · rw [List.append_assoc, List.take_append_drop]
  · rw [left, List.drop_append, List.drop_eq_nil_of_le (by omega)]
    rfl
  · intro b member
    cases member
  · have takenBlank : nonBlank (rest.take (5 - stray.toList.length)) = [] :=
      nonBlank_of_blank fun b member => restBlank b (List.mem_of_mem_take member)
    rw [nonBlank_append, takenBlank, List.append_nil]

/-- With at most three blank lines before the next other one, a call returns that. -/
theorem inOrder_line (isOpen : link.isOpen = true) {room : ℕ} (hasRoom : 0 < room)
    {stray : Option Bytes} (taken : List Bytes) {blanks after : List Bytes} {line : Bytes}
    {world : τ}
    (pending : unread world = lineBytes (stray.toList ++ (blanks ++ line :: after)))
    (strayBlank : ∀ blank ∈ stray, BlankLine blank)
    (clean : ∀ other ∈ blanks ++ line :: after, CleanLine other)
    (blank : ∀ b ∈ blanks, stripCr b = []) (few : blanks.length ≤ 3) (notBlank : stripCr line ≠ [])
    (fits : (stripCr line).length ≤ room) :
    (picoWait io link (room + 1) 5 world).1 = some (stripCr line) ∧
      InOrder unread (picoWait io link (room + 1) 5 world).2 (taken ++ (blanks ++ line :: after))
        (nonBlank taken ++ [stripCr line]) := by
  have strayFew : stray.toList.length ≤ 1 := by cases stray <;> simp
  have lineClean := clean line (List.mem_append_right blanks List.mem_cons_self)
  have isBlank := blankLines_of_stray strayBlank
    (fun b member => clean b (List.mem_append_left _ member)) blank
  rw [← List.append_assoc] at pending
  obtain ⟨last, reply, left⟩ := picoWait_reply delivers isOpen hasRoom isBlank
    (show (stray.toList ++ blanks).length < 5 by rw [List.length_append]; omega)
    lineClean notBlank pending
  rw [reply, List.take_of_length_le fits]
  refine ⟨rfl, (cut isCr room line).2, taken ++ blanks ++ [line], after, ?_, left, ?_, ?_⟩
  · simp
  · intro b member
    obtain ⟨isEnd, kept⟩ := kept_of_cut_snd (Option.mem_def.mp member)
    refine ⟨(lineClean.of_suffix isEnd).noNewline, ?_⟩
    rw [stripCr, kept, ← stripCr, List.drop_eq_nil_of_le fits]
  · rw [nonBlank_append, nonBlank_append, nonBlank_of_blank blank, nonBlank_singleton notBlank,
      List.append_nil]

/-- **A call returns the next line that is not blank.** -/
theorem InOrder.picoWait (isOpen : link.isOpen = true) {room replySz : ℕ}
    (hasRoom : 0 < room) (size : room < replySz) {arrived got : List Bytes} {world : τ}
    (framed : Framed room arrived) (inOrder : InOrder unread world arrived got) :
    (picoWait io link replySz 5 world).1 = (nonBlank arrived)[got.length]? ∧
      InOrder unread (picoWait io link replySz 5 world).2 arrived
        (got ++ (picoWait io link replySz 5 world).1.toList) := by
  obtain ⟨stray, taken, rest, rfl, pending, strayBlank, rfl⟩ := inOrder
  obtain ⟨room', rfl⟩ : ∃ room', replySz = room' + 1 := ⟨replySz - 1, by omega⟩
  have larger : 0 < room' := by omega
  have inRest : ∀ line ∈ rest, CleanLine line := fun line member =>
    framed.clean line (List.mem_append_right taken member)
  rcases blank_or_line rest with restBlank | ⟨blanks, line, after, rfl, blank, notBlank⟩
  · obtain ⟨noReply, skipped⟩ :=
      inOrder_blanks delivers isOpen larger taken pending strayBlank inRest restBlank
    rw [noReply, nonBlank_append, nonBlank_of_blank restBlank, List.append_nil]
    exact ⟨(List.getElem?_eq_none (Nat.le_refl _)).symm, by simpa using skipped⟩
  · have few := framed.blanks taken blanks line after (List.append_assoc ..).symm blank notBlank
    have isLine : line ∈ blanks ++ line :: after :=
      List.mem_append_right blanks List.mem_cons_self
    have fits : (stripCr line).length ≤ room' := by
      have := framed.fits line (List.mem_append_right taken isLine)
      omega
    obtain ⟨reply, moved⟩ := inOrder_line delivers isOpen larger taken pending strayBlank
      inRest blank few notBlank fits
    rw [reply]
    refine ⟨?_, moved⟩
    rw [nonBlank_append, nonBlank_append, nonBlank_of_blank blank, List.nil_append,
      List.getElem?_append_right (Nat.le_refl _), Nat.sub_self, ← List.singleton_append,
      nonBlank_append, nonBlank_singleton notBlank]
    rfl

end Lines

/-- The lines that arrive while a command is written; one that is too long is not written. -/
def arrivals (arrives : Bytes → τ → List Bytes) (cmd : Bytes) (world : τ) : List Bytes :=
  if 256 ≤ cmd.length + 1 then [] else arrives (cmd ++ [10]) world

/-- The calls of `pico_send_and_wait` on a device, each with its command and the size of its
buffer. The state holds the port and the lines that have arrived so far. -/
def exchangeMachine (io : SerialPort τ) (arrives : Bytes → τ → List Bytes) (dev : PicoDevice) :
    Machine (τ × List Bytes) (Bytes × ℕ) (Option Bytes) where
  step s call :=
    (((picoSendAndWait io dev call.1 call.2 s.1).2, s.2 ++ arrivals arrives call.1 s.1),
      (picoSendAndWait io dev call.1 call.2 s.1).1)

/-- The replies of the calls that succeed, in order. -/
def replies (io : SerialPort τ) (arrives : Bytes → τ → List Bytes) (dev : PicoDevice)
    (start : τ × List Bytes) (calls : List (Bytes × ℕ)) : List Bytes :=
  ((exchangeMachine io arrives dev).outputs start calls).reduceOption

section Calls

variable {arrives : Bytes → τ → List Bytes} {dev : PicoDevice}
  (streams : io.Streams dev.link.fd unread arrives) (isOpen : dev.link.isOpen = true)
  (connected : dev.connected = true) {room : ℕ} (hasRoom : 0 < room)
include streams isOpen

/-- A command that is written, or not, adds the lines that arrive. -/
theorem serialLinkWriteLine_unread (cmd : Bytes) (world : τ) :
    unread (serialLinkWriteLine io dev.link cmd world).2 =
      unread world ++ lineBytes (arrivals arrives cmd world) := by
  rw [serialLinkWriteLine, isOpen, if_neg (by simp), arrivals]
  split
  · exact (List.append_nil _).symm
  · exact streams.write (cmd ++ [10]) world

include connected hasRoom

/-- **One exchange**: a command that is written gets the next line that is not blank. -/
theorem InOrder.picoSendAndWait {cmd : Bytes} {replySz : ℕ} (size : room < replySz)
    {arrived got : List Bytes} {world : τ} (inOrder : InOrder unread world arrived got)
    (framed : Framed room (arrived ++ arrivals arrives cmd world)) :
    (picoSendAndWait io dev cmd replySz world).1 =
        (if (serialLinkWriteLine io dev.link cmd world).1 then
          (nonBlank (arrived ++ arrivals arrives cmd world))[got.length]? else none) ∧
      InOrder unread (picoSendAndWait io dev cmd replySz world).2
        (arrived ++ arrivals arrives cmd world)
        (got ++ (picoSendAndWait io dev cmd replySz world).1.toList) := by
  have written : InOrder unread (serialLinkWriteLine io dev.link cmd world).2
      (arrived ++ arrivals arrives cmd world) got := by
    obtain ⟨stray, taken, rest, rfl, pending, strayBlank, same⟩ := inOrder
    refine ⟨stray, taken, rest ++ arrivals arrives cmd world, List.append_assoc .., ?_,
      strayBlank, same⟩
    rw [serialLinkWriteLine_unread streams isOpen, pending, ← List.append_assoc,
      lineBytes, lineBytes, lineBytes, ← terminated_append]
  rw [EquipmentControl.picoSendAndWait, connected, decide_eq_false (by omega), if_neg (by simp)]
  obtain ⟨ok, next, wrote⟩ : ∃ ok next, serialLinkWriteLine io dev.link cmd world = (ok, next) :=
    ⟨_, _, rfl⟩
  rw [wrote] at written ⊢
  cases ok with
  | false => exact ⟨rfl, by simpa using written⟩
  | true => exact InOrder.picoWait streams.toDelivers isOpen hasRoom size framed written

omit streams isOpen connected hasRoom in
/-- Lines that arrived stay arrived. -/
theorem arrived_prefix (io : SerialPort τ) (arrives : Bytes → τ → List Bytes) (dev : PicoDevice)
    (s : τ × List Bytes) (calls : List (Bytes × ℕ)) :
    s.2 <+: ((exchangeMachine io arrives dev).run s calls).2 :=
  Machine.invariant (M := exchangeMachine io arrives dev) (I := fun next => s.2 <+: next.2)
    (fun _ _ before => before.trans (List.prefix_append ..)) (List.prefix_refl _) calls

omit streams isOpen connected hasRoom in
theorem replies_cons (s : τ × List Bytes) (call : Bytes × ℕ) (calls : List (Bytes × ℕ)) :
    replies io arrives dev s (call :: calls) =
      (picoSendAndWait io dev call.1 call.2 s.1).1.toList ++
        replies io arrives dev ((exchangeMachine io arrives dev).step s call).1 calls := by
  rw [replies, Machine.outputs_cons, replies]
  cases reply : ((exchangeMachine io arrives dev).step s call).2 with
  | none =>
      rw [List.reduceOption_cons_of_none, show (picoSendAndWait io dev call.1 call.2 s.1).1 = none
        from reply]
      rfl
  | some text =>
      rw [List.reduceOption_cons_of_some, show (picoSendAndWait io dev call.1 call.2 s.1).1 =
        some text from reply]
      rfl

/-- A run of calls keeps the stream in order. -/
theorem InOrder.run {calls : List (Bytes × ℕ)} (sizes : ∀ call ∈ calls, room < call.2)
    {s : τ × List Bytes} {got : List Bytes} (inOrder : InOrder unread s.1 s.2 got)
    (framed : Framed room ((exchangeMachine io arrives dev).run s calls).2) :
    InOrder unread ((exchangeMachine io arrives dev).run s calls).1
      ((exchangeMachine io arrives dev).run s calls).2
      (got ++ replies io arrives dev s calls) := by
  induction calls generalizing s got with
  | nil => simpa [replies, Machine.outputs, List.reduceOption_nil] using inOrder
  | cons call calls ih =>
      have sofar : Framed room (s.2 ++ arrivals arrives call.1 s.1) := by
        obtain ⟨later, same⟩ :=
          arrived_prefix io arrives dev ((exchangeMachine io arrives dev).step s call).1 calls
        exact Framed.of_prefix (same ▸ framed)
      have next := (inOrder.picoSendAndWait streams isOpen connected hasRoom
        (sizes call List.mem_cons_self) sofar).2
      rw [replies_cons, ← List.append_assoc]
      exact ih (fun other member => sizes other (List.mem_cons_of_mem call member)) next framed

/-- **Framing with a bounded buffer**: as long as no line is longer than `room` bytes and at most
three blank lines precede each other line, calls whose buffers have more than `room` bytes return
the lines that are not blank, one after the other. A call fails only when nothing was written or
no such line is left. -/
theorem replies_in_order {start : τ} {lines : List Bytes} (pending : unread start = lineBytes lines)
    (calls : List (Bytes × ℕ)) (sizes : ∀ call ∈ calls, room < call.2)
    (framed : Framed room ((exchangeMachine io arrives dev).run (start, lines) calls).2) :
    let M := exchangeMachine io arrives dev
    let s := M.run (start, lines) calls
    let got := replies io arrives dev (start, lines) calls
    got <+: nonBlank s.2 ∧
      ∀ cmd replySz, room < replySz → Framed room (M.step s (cmd, replySz)).1.2 →
        (M.step s (cmd, replySz)).2 =
          if (serialLinkWriteLine io dev.link cmd s.1).1 then
            (nonBlank (M.step s (cmd, replySz)).1.2)[got.length]?
          else none := by
  intro M s got
  have start : InOrder unread start lines [] :=
    ⟨none, [], lines, rfl, pending, (by simp), rfl⟩
  have inOrder : InOrder unread s.1 s.2 got :=
    start.run streams isOpen connected hasRoom sizes framed
  refine ⟨?_, fun cmd replySz size next =>
    (inOrder.picoSendAndWait streams isOpen connected hasRoom size next).1⟩
  obtain ⟨stray, taken, rest, arrived, -, -, same⟩ := inOrder
  rw [same, arrived, nonBlank_append]
  exact List.prefix_append ..

end Calls

/-- A port whose state is what it has yet to deliver: a device that prints the lines `boot` when it
is opened and answers each write with the lines of `answer`. -/
def streamPort (boot : List Bytes) (answer : Bytes → List Bytes) : SerialPort Bytes where
  openPath _ unread := (some 3, unread)
  configure _ _ _ := (true, lineBytes boot)
  close _ unread := unread
  write _ data unread := (true, unread ++ lineBytes (answer data))
  read
    | _, _, [] => (.nothing, [])
    | _, _, ch :: rest => (.byte ch, rest)
  burst := List.length

theorem streamPort_streams (boot : List Bytes) (answer : Bytes → List Bytes) (fd : ℤ) :
    (streamPort boot answer).Streams fd id fun data _ => answer data where
  byte timeoutMs world ch rest pending := by
    cases pending
    exact ⟨rfl, rfl⟩
  atEnd timeoutMs world pending := by
    cases pending
    exact ⟨rfl, rfl⟩
  burst _ := Nat.le_refl _
  write data world := rfl

/-- Two lines that fill a buffer of three bytes, with blank lines between them: the first reply
leaves a CR and a newline unread. -/
theorem replies_in_order_full :
    let dev : PicoDevice := ⟨⟨3, true⟩, true⟩
    let lines := [ascii "o\rk\r", [], ascii "\r", ascii "on"]
    let got := replies (streamPort [] fun _ => []) (fun _ _ => []) dev (lineBytes lines, lines)
      [(ascii "PING", 3), (ascii "READ HEATER", 3)]
    got <+: nonBlank lines ∧ got = [ascii "ok", ascii "on"] := by
  intro dev lines got
  have framed : Framed 2 lines := by
    refine ⟨?_, by decide, ?_⟩
    · intro line member
      have clean : ∀ line ∈ lines, 10 ∉ line ∧ 0 ∉ line := by decide
      exact ⟨(clean line member).1, (clean line member).2⟩
    · intro before blanks line after same _ _
      have total : lines.length = 4 := rfl
      rw [same, List.length_append, List.length_append, List.length_cons] at total
      omega
  have streams : (streamPort [] fun _ => []).Streams dev.link.fd id fun _ _ => [] :=
    streamPort_streams [] (fun _ => []) 3
  have pending : id (lineBytes lines) = lineBytes lines := rfl
  refine ⟨(replies_in_order streams rfl rfl (show 0 < 2 by decide) pending
    [(ascii "PING", 3), (ascii "READ HEATER", 3)] (by decide) framed).1, ?_⟩
  decide

end EquipmentControl
