import EquipmentControl.Protocol.Session

/-!
# Lines that are too long

The receive loops of `handle_client_event` (`services/equipmentd/src/main.c`) and
`handle_connected_peer` (`nodes/pmc/src/main.c`). When `session_pop_line` reports that a line is too
long they stop popping and read on; an overflow of the session closes the connection.

`session_pop_line` leaves the line it reports in the buffer, so it is in front again at every later
pop, and no later line is delivered (`receiveLoop_stuck`). The connection is usable after an
over-long line only if no line that could be delivered follows (`over_long_line_usable_iff`).
-/

set_option autoImplicit false

namespace EquipmentControl

open LineText

/-- What a receive loop makes of its reads: the lines it delivers, the bytes it takes into the
session, and whether the connection is still open. -/
structure ReceivedLines where
  delivered : List Bytes
  taken : Bytes
  isOpen : Bool

/-- The receive loop from the pops after a read on. A line that is too long ends the pops only. -/
def receiveLoop (s : Session) (cap : ℕ) : List Bytes → ReceivedLines
  | [] => ⟨(drain s cap).1, [], true⟩
  | data :: reads =>
      match sessionFeed (drain s cap).2.1 data with
      | none => ⟨(drain s cap).1, [], false⟩
      | some fed =>
          let later := receiveLoop fed cap reads
          ⟨(drain s cap).1 ++ later.delivered, data ++ later.taken, later.isOpen⟩

/-- A session whose first line does not fit into `cap` bytes. -/
def LongLineFirst (s : Session) (cap : ℕ) (body rest : Bytes) : Prop :=
  s.buf = body ++ 10 :: rest ∧ 10 ∉ body ∧ cap ≤ body.length + 1

/-- The reads that fit into the room left in a session, up to the first that does not. -/
def readsThatFit (room : ℕ) : List Bytes → List Bytes
  | [] => []
  | data :: reads =>
      if data.length ≤ room then data :: readsThatFit (room - data.length) reads else []

/-- The connection is closed at once, or all lines shorter than `cap` that follow its first one are
delivered, as long as it takes reads. -/
def UsableAfter (s : Session) (cap : ℕ) (rest : Bytes) (reads : List Bytes) : Prop :=
  (receiveLoop s cap []).isOpen = false ∨
    ((frames 10 (rest ++ (receiveLoop s cap reads).taken)).1.filter
      fun line => decide (line.length < cap)).Sublist (receiveLoop s cap reads).delivered

/-- A line that is too long is reported and stays in front. -/
theorem LongLineFirst.popped {s : Session} {cap : ℕ} {body rest : Bytes}
    (first : LongLineFirst s cap body rest) : sessionPopLine s cap = .tooLong := by
  obtain ⟨whole, noNewline, long⟩ := first
  rw [sessionPopLine]
  split
  · rfl
  cases found : s.buf.findIdx? fun b => decide (b = 10) with
  | none =>
      have absent := List.findIdx?_eq_none_iff.mp found 10 (by rw [whole]; simp)
      simp at absent
  | some i =>
      have cut := frames_of_findIdx?_some found
      rw [whole, frames_line_append noNewline] at cut
      obtain ⟨line, _⟩ := List.cons.inj (Prod.mk.inj cut).1
      have length := congrArg List.length line
      rw [List.length_append, List.length_singleton, List.length_take] at length
      exact if_pos (by omega)

theorem LongLineFirst.drained {s : Session} {cap : ℕ} {body rest : Bytes}
    (first : LongLineFirst s cap body rest) : drain s cap = ([], s, false) := by
  rw [drain]
  split
  · rename_i popped
    cases popped.symm.trans first.popped
  · rfl
  · rename_i popped
    cases popped.symm.trans first.popped

/-- What a read adds comes after the line. -/
theorem LongLineFirst.fed {s fed : Session} {cap : ℕ} {body rest data : Bytes}
    (first : LongLineFirst s cap body rest) (feeds : sessionFeed s data = some fed) :
    LongLineFirst fed cap body (rest ++ data) := by
  obtain ⟨whole, noNewline, long⟩ := first
  rw [sessionFeed] at feeds
  split at feeds
  · cases feeds
    refine ⟨?_, noNewline, long⟩
    simp only [whole, List.append_assoc, List.cons_append]
  · cases feeds

/-- **Nothing is delivered any more** once a line that is too long is in front, and reads are taken
until one does not fit. -/
theorem receiveLoop_stuck {s : Session} {cap : ℕ} {body rest : Bytes}
    (first : LongLineFirst s cap body rest) (reads : List Bytes) :
    (receiveLoop s cap reads).delivered = [] ∧
      (receiveLoop s cap reads).taken = (readsThatFit (4096 - s.buf.length) reads).flatten := by
  induction reads generalizing s rest with
  | nil => exact ⟨by rw [receiveLoop, first.drained], rfl⟩
  | cons data reads ih =>
      rw [receiveLoop, readsThatFit]
      simp only [first.drained, List.nil_append]
      have bound := s.length_le
      cases feeds : sessionFeed s data with
      | none =>
          rw [sessionFeed] at feeds
          split at feeds
          · cases feeds
          · rename_i overflow
            rw [List.length_append] at overflow
            rw [if_neg (by omega)]
            exact ⟨rfl, rfl⟩
      | some fed =>
          obtain ⟨quiet, taken⟩ := ih (first.fed feeds)
          rw [sessionFeed] at feeds
          split at feeds
          · rename_i fits
            cases feeds
            rw [List.length_append] at fits
            rw [if_pos (by omega), List.flatten_cons]
            refine ⟨quiet, congrArg (data ++ ·) ?_⟩
            rw [taken, List.length_append, Nat.sub_sub]
          · cases feeds

/-- **After a line that is too long the connection is usable** exactly when no complete line shorter
than `cap` follows it, in the session or in the reads that still fit. -/
theorem over_long_line_usable_iff (s : Session) (cap : ℕ) (body rest : Bytes)
    (first : LongLineFirst s cap body rest) (reads : List Bytes) :
    UsableAfter s cap rest reads ↔
      ∀ line ∈ (frames 10 (rest ++ (readsThatFit (4096 - s.buf.length) reads).flatten)).1,
        cap ≤ line.length := by
  obtain ⟨quiet, taken⟩ := receiveLoop_stuck first reads
  have stays : (receiveLoop s cap []).isOpen ≠ false := by simp [receiveLoop]
  rw [UsableAfter, or_iff_right stays, quiet, taken, List.sublist_nil, List.filter_eq_nil_iff]
  simp

/-- A session that holds one line of `n` letters. -/
def lettersSession (n : ℕ) (short : n < 4096) : Session where
  buf := List.replicate n 65 ++ [10]
  length_le := by
    rw [List.length_append, List.length_replicate]
    exact short

theorem lettersSession_first (n cap : ℕ) (short : n < 4096) (long : cap ≤ n + 1) :
    LongLineFirst (lettersSession n short) cap (List.replicate n 65) [] := by
  refine ⟨rfl, fun member => ?_, by rwa [List.length_replicate]⟩
  cases List.eq_of_mem_replicate member

/-- The line of 601 bytes is longer than the 512 bytes that equipmentd pops into, and does no harm
while another long line and the start of a line follow it. -/
theorem long_lines_alone :
    UsableAfter (lettersSession 600 (by decide)) 512 []
      [List.replicate 700 66 ++ [10], ascii "REQ PI"] :=
  (over_long_line_usable_iff _ 512 _ [] (lettersSession_first 600 512 (by decide) (by decide))
    [List.replicate 700 66 ++ [10], ascii "REQ PI"]).mpr (by decide +kernel)

/-- A PING that arrives behind it is never delivered. -/
theorem ping_behind_long_line :
    sessionPopLine (lettersSession 600 (by decide)) 512 = .tooLong ∧
      ¬ UsableAfter (lettersSession 600 (by decide)) 512 [] [ascii "REQ PING seq=1\n"] := by
  have first := lettersSession_first 600 512 (by decide) (by decide)
  obtain ⟨quiet, taken⟩ := receiveLoop_stuck first [ascii "REQ PING seq=1\n"]
  have room : (lettersSession 600 (by decide)).buf.length = 601 := by
    rw [lettersSession, List.length_append, List.length_replicate]
    rfl
  rw [room] at taken
  refine ⟨first.popped, ?_⟩
  rintro (closed | delivers)
  · cases closed
  · rw [quiet, taken, List.sublist_nil] at delivers
    exact absurd delivers (by decide)

end EquipmentControl
