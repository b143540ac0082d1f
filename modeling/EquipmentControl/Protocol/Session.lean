import EquipmentControl.Library.Lines
import EquipmentControl.Protocol.Message

/-!
# Line sessions

The receive buffer of a connection (`common/src/protocol/session.c`): `sessionFeed` appends
what a read delivered, `sessionPopLine` takes the first newline-terminated line off the
front. A buffer within its 4096 bytes is part of the type.

`drain` pops until no line comes, `receive` feeds and drains read by read, as the loops of
`handle_client_event` and `handle_connected_peer` do. Whatever the cuts, a stream of short
lines comes out as its lines, in order, and the unterminated tail stays in the buffer
(`receive_frames`).
-/

set_option autoImplicit false

namespace EquipmentControl

open LineText

/-- `session_t`. -/
@[ext] structure Session where
  buf : Bytes
  length_le : buf.length ≤ 4096
deriving DecidableEq

/-- `session_init`. -/
def sessionInit : Session := ⟨[], by simp⟩

/-- `session_feed`: `none` is the result -1. -/
def sessionFeed (s : Session) (data : Bytes) : Option Session :=
  if fits : (s.buf ++ data).length ≤ 4096 then some ⟨s.buf ++ data, fits⟩ else none

/-- The results of `session_pop_line`: 0, -1, or 1 with the line and the session it leaves. -/
inductive Popped where
  | noLine
  | tooLong
  | line (out : Bytes) (rest : Session)

/-- `session_pop_line` into a buffer of `cap` bytes. -/
def sessionPopLine (s : Session) (cap : ℕ) : Popped :=
  if cap < 2 then .tooLong
  else
    match s.buf.findIdx? (fun b => decide (b = 10)) with
    | none => .noLine
    | some i =>
        if cap ≤ i + 1 then .tooLong
        else .line (s.buf.take (i + 1)) ⟨s.buf.drop (i + 1), by
          have := s.length_le
          rw [List.length_drop]
          omega⟩

theorem sessionPopLine_lt {s rest : Session} {cap : ℕ} {out : Bytes}
    (popped : sessionPopLine s cap = .line out rest) : rest.buf.length < s.buf.length := by
  rw [sessionPopLine] at popped
  split at popped
  · cases popped
  split at popped
  · cases popped
  rename_i i found
  have bound := (List.findIdx?_eq_some_iff_getElem.mp found).1
  split at popped
  · cases popped
  cases popped
  rw [List.length_drop]
  omega

/-- Pop lines until none comes: the lines, the session left, and whether the last call
returned 0 (and not -1). -/
def drain (s : Session) (cap : ℕ) : List Bytes × Session × Bool :=
  match _popped : sessionPopLine s cap with
  | .noLine => ([], s, true)
  | .tooLong => ([], s, false)
  | .line out rest => (out :: (drain rest cap).1, (drain rest cap).2)
termination_by s.buf.length
decreasing_by all_goals exact sessionPopLine_lt _popped

theorem drain_of_noLine {s : Session} {cap : ℕ} (popped : sessionPopLine s cap = .noLine) :
    drain s cap = ([], s, true) := by
  rw [drain]
  split <;> rename_i other <;> rw [popped] at other <;> cases other

theorem drain_of_tooLong {s : Session} {cap : ℕ} (popped : sessionPopLine s cap = .tooLong) :
    drain s cap = ([], s, false) := by
  rw [drain]
  split <;> rename_i other <;> rw [popped] at other <;> cases other

theorem drain_of_line {s rest : Session} {cap : ℕ} {out : Bytes}
    (popped : sessionPopLine s cap = .line out rest) :
    drain s cap = (out :: (drain rest cap).1, (drain rest cap).2) := by
  rw [drain]
  split <;> rename_i other <;> rw [popped] at other <;> cases other
  rfl

/-- Feed every read and drain after it: the lines popped and the session left, or `none`
when a call returned -1. -/
def receive (s : Session) (cap : ℕ) : List Bytes → Option (List Bytes × Session)
  | [] => some ([], s)
  | data :: reads =>
      match sessionFeed s data with
      | none => none
      | some fed =>
          match drain fed cap with
          | (_, _, false) => none
          | (lines, rest, true) =>
              match receive rest cap reads with
              | none => none
              | some (more, left) => some (lines ++ more, left)

/-! ## One call -/

theorem sessionFeed_of_fits {s : Session} {data : Bytes}
    (fits : (s.buf ++ data).length ≤ 4096) : sessionFeed s data = some ⟨s.buf ++ data, fits⟩ :=
  dif_pos fits

/-- Without a newline in the buffer no line is popped. -/
theorem sessionPopLine_noLine {s : Session} {cap : ℕ} (room : 2 ≤ cap)
    (empty : (frames 10 s.buf).1 = []) : sessionPopLine s cap = .noLine := by
  rw [sessionPopLine, if_neg (by omega)]
  cases found : s.buf.findIdx? (fun b => decide (b = 10)) with
  | none => rfl
  | some i =>
      rw [frames_of_findIdx?_some found] at empty
      cases empty

/-- The first line of the buffer is popped when it is shorter than the output buffer. -/
theorem sessionPopLine_line {s : Session} {cap : ℕ} {line : Bytes} {lines : List Bytes}
    (first : (frames 10 s.buf).1 = line :: lines) (short : line.length < cap) :
    ∃ rest : Session, sessionPopLine s cap = .line line rest ∧
      frames 10 rest.buf = (lines, (frames 10 s.buf).2) := by
  cases found : s.buf.findIdx? (fun b => decide (b = 10)) with
  | none =>
      rw [frames_of_findIdx?_none found] at first
      cases first
  | some i =>
      have bound := (List.findIdx?_eq_some_iff_getElem.mp found).1
      have cut := frames_of_findIdx?_some found
      rw [cut] at first
      obtain ⟨rfl, rfl⟩ := List.cons.inj first
      have length : (s.buf.take (i + 1)).length = i + 1 := by
        rw [List.length_take]
        omega
      refine ⟨⟨s.buf.drop (i + 1), by have := s.length_le; rw [List.length_drop]; omega⟩, ?_, ?_⟩
      · simp only [sessionPopLine, found]
        rw [if_neg (by omega), if_neg (by omega)]
      · rw [cut]

/-! ## Draining and receiving -/

/-- **Draining a buffer of short lines pops exactly its lines** and leaves its tail. -/
theorem drain_frames {cap : ℕ} (room : 2 ≤ cap) (s : Session)
    (short : ∀ line ∈ (frames 10 s.buf).1, line.length < cap) :
    ∃ rest : Session, drain s cap = ((frames 10 s.buf).1, rest, true) ∧
      rest.buf = (frames 10 s.buf).2 := by
  induction lines : (frames 10 s.buf).1 generalizing s with
  | nil =>
      have same := flatten_frames 10 s.buf
      rw [lines, List.flatten_nil, List.nil_append] at same
      exact ⟨s, drain_of_noLine (sessionPopLine_noLine room lines), same.symm⟩
  | cons line others ih =>
      rw [lines] at short
      obtain ⟨next, popped, left⟩ := sessionPopLine_line lines (short line List.mem_cons_self)
      have shorter : ∀ other ∈ (frames 10 next.buf).1, other.length < cap := by
        rw [left]
        exact fun other member => short other (List.mem_cons_of_mem line member)
      obtain ⟨rest, drained, tail⟩ := ih next shorter (by rw [left])
      refine ⟨rest, ?_, by rw [tail, left]⟩
      rw [drain_of_line popped, drained]

/-- A session in the middle of a stream of short lines receives the rest of the stream. -/
theorem receive_of_fits {cap : ℕ} (room : 2 ≤ cap) (small : cap ≤ 1024) (reads : List Bytes)
    (readable : ∀ data ∈ reads, data.length ≤ 1024) (s : Session)
    (opened : 10 ∉ s.buf) (fits : Fits 10 cap (s.buf ++ reads.flatten)) :
    ∃ left : Session,
      receive s cap reads = some ((frames 10 (s.buf ++ reads.flatten)).1, left) ∧
        left.buf = (frames 10 (s.buf ++ reads.flatten)).2 := by
  induction reads generalizing s with
  | nil =>
      rw [List.flatten_nil, List.append_nil, frames_of_not_mem opened]
      exact ⟨s, rfl, rfl⟩
  | cons data reads ih =>
      rw [List.flatten_cons, ← List.append_assoc] at fits ⊢
      -- The buffer holds the tail of what was fed before, so a whole read still fits.
      have held : s.buf.length < cap := by
        have := tail_length_lt_of_append (by rwa [List.append_assoc] at fits)
        rwa [frames_of_not_mem opened] at this
      have space : (s.buf ++ data).length ≤ 4096 := by
        have := readable data List.mem_cons_self
        rw [List.length_append]
        omega
      have lines : ∀ line ∈ (frames 10 (s.buf ++ data)).1, line.length < cap := by
        have := fits.1
        rw [frames_append] at this
        exact fun line member => this line (List.mem_append_left _ member)
      obtain ⟨rest, drained, tail⟩ := drain_frames room ⟨s.buf ++ data, space⟩ lines
      obtain ⟨left, received, leaves⟩ := ih
        (fun other member => readable other (List.mem_cons_of_mem data member)) rest
        (by rw [tail]; exact tail_not_mem 10 _) (by rw [tail]; exact fits.rest)
      refine ⟨left, ?_, ?_⟩
      · simp only [receive, sessionFeed_of_fits space, drained, received]
        rw [frames_append (s.buf ++ data), ← tail]
      · rw [leaves, frames_append (s.buf ++ data), ← tail]

/-- **Framing does not depend on how the stream is cut.** Feeding a stream read by read and
popping until no line comes never fails, pops exactly the lines of the stream, in order and
unchanged, and leaves exactly its unterminated tail in the buffer. -/
theorem receive_frames {cap : ℕ} (room : 2 ≤ cap) (small : cap ≤ 1024) (reads : List Bytes)
    (readable : ∀ data ∈ reads, 1 ≤ data.length ∧ data.length ≤ 1024)
    (fits : Fits 10 cap reads.flatten) :
    ∃ left : Session, receive sessionInit cap reads = some ((frames 10 reads.flatten).1, left) ∧
      left.buf = (frames 10 reads.flatten).2 :=
  receive_of_fits room small reads (fun data member => (readable data member).2) sessionInit
    (by simp [sessionInit]) fits

/-- A line cut in two, an empty line and a started line, in three reads. -/
theorem receive_three_reads :
    ∃ left : Session,
      receive sessionInit 512 [ascii "REQ PI", ascii "NG\n\nREQ", ascii " ST"] =
          some ((frames 10 (ascii "REQ PING\n\nREQ ST")).1, left) ∧
        left.buf = (frames 10 (ascii "REQ PING\n\nREQ ST")).2 :=
  receive_frames (by decide) (by decide) [ascii "REQ PI", ascii "NG\n\nREQ", ascii " ST"]
    (by decide) (by unfold Fits; decide)

end EquipmentControl
