import EquipmentControl.Library.CheckedBuffer
import EquipmentControl.Library.Machine
import EquipmentControl.Protocol.Session

/-!
# The session in memory

`session_feed` and `session_pop_line` on the array of a `session_t` and on the caller's buffer
(`common/src/protocol/session.c`). The arrays hold anything at first, also bytes that were never
written. A load or a store outside of an array, and a load of a byte that was never written, fails
(`none`). Sums of `size_t` wrap.

In any sequence of calls after `session_init` nothing fails, and the calls return what
`sessionFeed` and `sessionPopLine` say, the line with its NUL in the caller's buffer
(`session_in_memory`).
-/

set_option autoImplicit false

namespace EquipmentControl

open CheckedBuffer InputMachine

/-- `session_t`. -/
structure SessionMemory where
  buf : Buffer UInt8
  len : ℕ

/-- A sum of two `size_t`. -/
def sizeAdd (a b : ℕ) : ℕ := (a + b) % 2 ^ 64

namespace SessionMemory

/-- `session_init`. -/
def init (s : SessionMemory) : SessionMemory := { s with len := 0 }

/-- `session_feed`. -/
def feed (s : SessionMemory) (data : Bytes) : Option (SessionMemory × ℤ) :=
  if data.length = 0 then some (s, 0)
  else if 4096 < sizeAdd s.len data.length then some (s, -1)
  else (store s.buf s.len data).map fun buf => (⟨buf, sizeAdd s.len data.length⟩, 0)

/-- The part of `session_pop_line` that follows the newline found at `i`. -/
def takeLine (s : SessionMemory) (out : Buffer UInt8) (i : ℕ) :
    Option (SessionMemory × Buffer UInt8 × ℤ) :=
  if out.size ≤ i + 1 then some (s, out, -1)
  else
    (loads s.buf 0 (i + 1)).bind fun line =>
    (store out 0 line).bind fun out =>
    (store out (i + 1) [0]).bind fun out =>
    (loads s.buf (i + 1) (s.len - (i + 1))).bind fun rest =>
    (store s.buf 0 rest).map fun buf => (⟨buf, s.len - (i + 1)⟩, out, 1)

/-- `session_pop_line` into a buffer that the caller gives with its size. -/
def popLine (s : SessionMemory) (out : Buffer UInt8) : Option (SessionMemory × Buffer UInt8 × ℤ) :=
  if out.size < 2 then some (s, out, -1)
  else (seek (fun b => decide (b = 10)) s.buf 0 s.len).bind fun found =>
    match found with
    | none => some (s, out, 0)
    | some i => takeLine s out i

end SessionMemory

/-- A call of `session.c`. -/
inductive SessionCall where
  | init
  | feed (data : Bytes)
  | pop (out : Buffer UInt8)

/-- The session, with what the calls return and the line that was popped. -/
def sessionMachine : Machine Session SessionCall (ℤ × Option Bytes) where
  step s
    | .init => (sessionInit, (0, none))
    | .feed data =>
        match sessionFeed s data with
        | none => (s, (-1, none))
        | some fed => (fed, (0, none))
    | .pop out =>
        match sessionPopLine s out.size with
        | .noLine => (s, (0, none))
        | .tooLong => (s, (-1, none))
        | .line line rest => (rest, (1, some line))

/-- What a call leaves in memory, what it returns, and the caller's buffer after a pop. -/
def SessionMemory.call (s : SessionMemory) :
    SessionCall → Option (SessionMemory × ℤ × Option (Buffer UInt8))
  | .init => some (s.init, 0, none)
  | .feed data => (s.feed data).map fun fed => (fed.1, fed.2, none)
  | .pop out => (s.popLine out).map fun popped => (popped.1, popped.2.2, some popped.2.1)

/-- The session in memory; after a failure nothing is left. -/
def sessionMemoryMachine :
    Machine (Option SessionMemory) SessionCall (Option (ℤ × Option (Buffer UInt8))) where
  step s call :=
    ((s.bind fun s => s.call call).map Prod.fst, (s.bind fun s => s.call call).map Prod.snd)

/-- The size of the data that is fed leaves room in a `size_t`. -/
def SessionCall.Sized : SessionCall → Prop
  | .feed data => 4096 + data.length < 2 ^ 64
  | _ => True

/-- The memory holds a session. -/
structure HoldsSession (s : SessionMemory) (session : Session) : Prop where
  size : s.buf.size = 4096
  filled : Filled s.buf session.buf
  len : s.len = session.buf.length

/-- A call in memory did not fail, and answered as the session does: with the same result, and with
the line and a NUL in the caller's buffer. -/
def AnswersAs (found : Option (ℤ × Option (Buffer UInt8))) (answer : ℤ × Option Bytes) : Prop :=
  ∃ out, found = some (answer.1, out) ∧ ∀ line ∈ answer.2, ∃ buf ∈ out, Filled buf (line ++ [0])

/-- A call keeps the session and answers as it does. -/
def CallsAs (called : Option (SessionMemory × ℤ × Option (Buffer UInt8)))
    (step : Session × (ℤ × Option Bytes)) : Prop :=
  ∃ after answer, called = some (after, answer) ∧ HoldsSession after step.1 ∧
    AnswersAs (some answer) step.2

/-! ## One call -/

/-- `session_feed` -/
theorem SessionMemory.feed_calls {s : SessionMemory} {session : Session}
    (holds : HoldsSession s session) {data : Bytes} (sized : 4096 + data.length < 2 ^ 64) :
    CallsAs (s.call (.feed data)) (sessionMachine.step session (.feed data)) := by
  have short := session.length_le
  have sum : sizeAdd s.len data.length = (session.buf ++ data).length := by
    rw [sizeAdd, holds.len, List.length_append, Nat.mod_eq_of_lt (by omega)]
  simp only [SessionMemory.call, SessionMemory.feed, sessionMachine, sessionFeed]
  by_cases empty : data.length = 0
  · have nothing := List.eq_nil_of_length_eq_zero empty
    subst nothing
    have same : (session.buf ++ []).length ≤ 4096 := by rwa [List.append_nil]
    rw [if_pos empty, dif_pos same]
    refine ⟨s, (0, none), rfl, ⟨holds.size, ?_, ?_⟩, none, rfl, by rintro _ ⟨⟩⟩
    · change Filled s.buf (session.buf ++ [])
      rw [List.append_nil]
      exact holds.filled
    · change s.len = (session.buf ++ []).length
      rw [List.append_nil]
      exact holds.len
  rw [if_neg empty, sum]
  by_cases fits : (session.buf ++ data).length ≤ 4096
  · have room : session.buf.length + data.length ≤ s.buf.size := by
      rw [holds.size, ← List.length_append]
      exact fits
    obtain ⟨after, stored, size, filled⟩ := holds.filled.store_eq data room
    rw [if_neg (not_lt.mpr fits), dif_pos fits, holds.len, stored]
    exact ⟨⟨after, _⟩, (0, none), rfl, ⟨size.trans holds.size, filled, rfl⟩, none, rfl,
      by rintro _ ⟨⟩⟩
  · rw [if_pos (not_le.mp fits), dif_neg fits]
    exact ⟨s, (-1, none), rfl, holds, none, rfl, by rintro _ ⟨⟩⟩

/-- The line is copied out with its NUL, and the rest of the buffer is moved to its front. -/
theorem SessionMemory.takeLine_eq {s : SessionMemory} {session : Session}
    (holds : HoldsSession s session) {out : Buffer UInt8} {i : ℕ} (found : i < session.buf.length)
    (fits : i + 1 < out.size) : ∃ buf after,
      s.takeLine out i = some (⟨buf, s.len - (i + 1)⟩, after, 1) ∧ buf.size = 4096 ∧
        Filled buf (session.buf.drop (i + 1)) ∧
        Filled after (session.buf.take (i + 1) ++ [0]) := by
  have short := session.length_le
  have line : loads s.buf 0 (i + 1) = some (session.buf.take (i + 1)) := by
    rw [holds.filled.loads_eq (by omega), List.drop_zero]
  have rest : loads s.buf (i + 1) (s.len - (i + 1)) = some (session.buf.drop (i + 1)) := by
    rw [holds.len, holds.filled.loads_eq (by omega), List.take_of_length_le]
    rw [List.length_drop]
  have lineLen : (session.buf.take (i + 1)).length = i + 1 := by
    rw [List.length_take]
    omega
  obtain ⟨copied, stored, outSize, copiedLine⟩ :=
    (filled_nil out).store_eq (session.buf.take (i + 1)) (by rw [lineLen]; simp; omega)
  obtain ⟨ended, storedNul, _, endedLine⟩ :=
    copiedLine.store_eq [0] (by rw [List.nil_append, lineLen, outSize]; simp; omega)
  obtain ⟨moved, storedRest, size, movedRest⟩ :=
    (filled_nil s.buf).store_eq (session.buf.drop (i + 1))
      (by rw [List.length_drop, holds.size]; simp; omega)
  rw [List.nil_append, lineLen] at storedNul
  refine ⟨moved, ended, ?_, size.trans holds.size, movedRest, endedLine⟩
  rw [takeLine, if_neg (by omega), line, Option.bind_some, show store out 0 _ = _ from stored,
    Option.bind_some, storedNul, Option.bind_some, rest, Option.bind_some,
    show store s.buf 0 _ = _ from storedRest, Option.map_some]

/-- `session_pop_line` -/
theorem SessionMemory.popLine_calls {s : SessionMemory} {session : Session}
    (holds : HoldsSession s session) (out : Buffer UInt8) :
    CallsAs (s.call (.pop out)) (sessionMachine.step session (.pop out)) := by
  have searched : seek (fun b => decide (b = 10)) s.buf 0 s.len =
      some (session.buf.findIdx? fun b => decide (b = 10)) := by
    rw [holds.filled.seek_eq _ (by rw [holds.len, Nat.zero_add]), List.drop_zero]
    simp
  have kept : ∀ ret, CallsAs (some (s, ret, some out)) (session, (ret, none)) := fun ret =>
    ⟨s, (ret, some out), rfl, holds, some out, rfl, by rintro _ ⟨⟩⟩
  simp only [call, popLine, sessionMachine, sessionPopLine]
  by_cases narrow : out.size < 2
  · rw [if_pos narrow, if_pos narrow]
    exact kept (-1)
  rw [if_neg narrow, if_neg narrow, searched, Option.bind_some]
  cases found : session.buf.findIdx? fun b => decide (b = 10) with
  | none => exact kept 0
  | some i =>
      simp only
      by_cases long : out.size ≤ i + 1
      · rw [takeLine, if_pos long, if_pos long]
        exact kept (-1)
      have inside := (List.findIdx?_eq_some_iff_getElem.mp found).1
      obtain ⟨buf, after, took, size, rest, line⟩ := takeLine_eq holds inside (not_le.mp long)
      rw [if_neg long, took]
      refine ⟨_, (1, some after), rfl, ⟨size, rest, ?_⟩, some after, rfl, ?_⟩
      · rw [List.length_drop, holds.len]
      · rintro _ ⟨⟩
        exact ⟨after, rfl, line⟩

/-- **One call** does not fail and answers as the session does. -/
theorem SessionMemory.call_calls {s : SessionMemory} {session : Session}
    (holds : HoldsSession s session) {call : SessionCall} (sized : call.Sized) :
    CallsAs (s.call call) (sessionMachine.step session call) := by
  cases call with
  | init =>
      refine ⟨s.init, (0, none), rfl, ⟨holds.size, filled_nil _, rfl⟩, none, rfl, by rintro _ ⟨⟩⟩
  | feed data => exact feed_calls holds sized
  | pop out => exact popLine_calls holds out

/-! ## Any sequence of calls -/

/-- **The session in memory.** From any memory, after `session_init`, no sequence of calls fails;
every call returns what the session says, with the line and a NUL in the caller's buffer, and the
memory holds the session. -/
theorem session_in_memory (s : SessionMemory) (size : s.buf.size = 4096) (calls : List SessionCall)
    (sized : ∀ call ∈ calls, call.Sized) :
    (∃ after, sessionMemoryMachine.run (some s.init) calls = some after ∧
        HoldsSession after (sessionMachine.run sessionInit calls)) ∧
      List.Forall₂ AnswersAs (sessionMemoryMachine.outputs (some s.init) calls)
        (sessionMachine.outputs sessionInit calls) := by
  refine Machine.run_lockstep (R := fun found session =>
    ∃ s, found = some s ∧ HoldsSession s session) ?_ ⟨s.init, rfl, size, filled_nil _, rfl⟩ sized
  rintro _ session call ⟨s, rfl, holds⟩ sized
  obtain ⟨after, answer, called, held, answers⟩ := SessionMemory.call_calls holds sized
  simp only [sessionMemoryMachine, Option.bind_some, called, Option.map_some]
  exact ⟨⟨after, rfl, held⟩, answers⟩

/-- Memory that was never written. -/
def rawMemory (size : ℕ) : Buffer UInt8 := ⟨size, fun _ => none⟩

/-- Two reads that hold one line and the start of another, and two pops. -/
theorem session_in_memory_line :
    let calls := [.feed (ascii "REQ PI"), .feed (ascii "NG seq=1\nREQ"), .pop (rawMemory 512),
      .pop (rawMemory 512)]
    (∃ after, sessionMemoryMachine.run (some (SessionMemory.init ⟨rawMemory 4096, 77⟩)) calls =
        some after ∧ HoldsSession after (sessionMachine.run sessionInit calls)) ∧
      List.Forall₂ AnswersAs
        (sessionMemoryMachine.outputs (some (SessionMemory.init ⟨rawMemory 4096, 77⟩)) calls)
        (sessionMachine.outputs sessionInit calls) := by
  intro calls
  refine session_in_memory ⟨rawMemory 4096, 77⟩ rfl calls fun call member => ?_
  rcases List.mem_cons.mp member with rfl | member
  · exact show 4096 + (ascii "REQ PI").length < 2 ^ 64 by decide
  rcases List.mem_cons.mp member with rfl | member
  · exact show 4096 + (ascii "NG seq=1\nREQ").length < 2 ^ 64 by decide
  rcases List.mem_cons.mp member with rfl | member
  · trivial
  rw [List.mem_singleton.mp member]
  trivial

end EquipmentControl
