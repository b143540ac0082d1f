import EquipmentControl.Equipmentd.Daemon

/-!
# One event of a client

The two loops of `handle_client_event` (`services/equipmentd/src/main.c`) with a record of what
they do to the connection: its fields, its descriptor, its release. From the moment
`close_connection` releases the object, its fields are those of an arbitrary object.

The end of the connection, a failed read and an overflow of the session leave the function at
once. A line that `handle_one_line` gives up on leaves the inner loop only, and the outer one
decides by the `state` of the released object whether it goes on. So nothing is done after the
close exactly when none of the lines that are read is given up on (`quiet_after_close_iff`).
-/

set_option autoImplicit false

namespace EquipmentControl

open InputMachine

/-- `conn_state_t`. -/
inductive ConnState where
  | isOpen
  | closed
deriving DecidableEq

/-- `connection_t`, the fields of the object in memory. -/
structure ConnectionObject where
  fd : ℤ
  session : Session
  lastActiveMs : ℤ
  state : ConnState

/-- What `read` returns: bytes, with the clock after them, 0, a failure for want of data, or another
failure. -/
inductive ClientRead where
  | data (bytes : Bytes) (nowMs : ℤ)
  | ended
  | again
  | failed

/-- The fields of a connection. -/
inductive ConnField where
  | fd
  | session
  | lastActiveMs
  | state
deriving DecidableEq

/-- What the function does to a connection: it uses a field, reads from a descriptor, hands the
object to `handle_one_line`, which may write to a descriptor, or calls `close_connection`. -/
inductive ClientOp where
  | field (used : ConnField)
  | read (fd : ℤ)
  | handle (line : Bytes)
  | write (fd : ℤ)
  | close
deriving DecidableEq

/-- Nothing is done after the connection is closed. -/
def QuietAfterClose (ops : List ClientOp) : Prop :=
  ∀ before after, ops = before ++ .close :: after → after = []

section ClientEvent

variable {δ : Type} [CDouble δ]

/-- The object, the context of the daemon, and how many lines were handled. -/
structure ClientState (δ : Type) where
  conn : ConnectionObject
  ctx : AppCtx δ
  lines : ℕ

/-- The inner loop. `world n` is the clock and the outcome of the writes for line `n`, `released`
the object that is found where the closed one was. -/
def lineLoop (fd : ℤ) (released : ConnectionObject) (world : ℕ → ℤ × Bool)
    (s : ClientState δ) : List ClientOp × ClientState δ :=
  match _popped : sessionPopLine s.conn.session lineSize with
  | .noLine | .tooLong => ([.field .session], s)
  | .line out rest =>
      let result :=
        handleOneLine s.conn.fd s.ctx out (world s.lines).1 (world s.lines).2
      let handled : List ClientOp :=
        [.field .session, .handle out] ++ result.wrote.toList.map fun sent => .write sent.1
      if result.ret < 0 then
        (handled ++ [.close], ⟨released, dropLinks result.ctx fd, s.lines + 1⟩)
      else
        let next := lineLoop fd released world
          ⟨{ s.conn with session := rest }, result.ctx, s.lines + 1⟩
        (handled ++ next.1, next.2)
termination_by s.conn.session.buf.length
decreasing_by exact sessionPopLine_lt _popped

/-- The outer loop, for the results of its reads in order; when they are used up, `read` has no
more data. -/
def readLoop (fd : ℤ) (released : ConnectionObject) (world : ℕ → ℤ × Bool) :
    List ClientRead → ClientState δ → List ClientOp
  | [], _ | .again :: _, _ => [.read fd]
  | .ended :: _, _ | .failed :: _, _ => [.read fd, .close]
  | .data bytes nowMs :: reads, s =>
      [.read fd, .field .lastActiveMs, .field .session] ++
        match sessionFeed s.conn.session bytes with
        | none => [.close]
        | some session =>
            let next := lineLoop fd released world
              { s with conn := { s.conn with session := session, lastActiveMs := nowMs } }
            next.1 ++ .field .state ::
              if next.2.conn.state = .closed then []
              else readLoop fd released world reads next.2

/-- `handle_client_event`: what it does to its connection. -/
def handleClientEvent (released : ConnectionObject) (world : ℕ → ℤ × Bool)
    (reads : List ClientRead) (conn : ConnectionObject) (ctx : AppCtx δ) : List ClientOp :=
  .field .fd :: readLoop conn.fd released world reads ⟨conn, ctx, 0⟩

/-! ## The lines that are read -/

/-- The lines that the reads deliver, up to the one after which none comes. -/
def receivedLines : Session → List ClientRead → List Bytes
  | s, .data bytes _ :: reads =>
      match sessionFeed s bytes with
      | none => []
      | some fed =>
          (drain fed lineSize).1 ++ receivedLines (drain fed lineSize).2.1 reads
  | _, _ => []

/-- Lines of a descriptor handled in turn. -/
def lineMachine (fd : ℤ) (world : ℕ → ℤ × Bool) :
    Machine (AppCtx δ × ℕ) Bytes (LineResult δ) where
  step s line :=
    let result := handleOneLine fd s.1 line (world s.2).1 (world s.2).2
    ((result.ctx, s.2 + 1), result)

/-- `handle_one_line` does not give up on any of the lines. -/
def NoneGivenUp (fd : ℤ) (world : ℕ → ℤ × Bool) (ctx : AppCtx δ) (handled : ℕ)
    (lines : List Bytes) : Prop :=
  (lineMachine fd world).Along (fun s line => givesUp fd s.1 line (world s.2).2 = false)
    (ctx, handled) lines

/-- The inner loop has handled `lines` and left the connection open, with the session `rest`. -/
structure LinesKept (fd : ℤ) (world : ℕ → ℤ × Bool) (s : ClientState δ) (lines : List Bytes)
    (rest : Session) (ops : List ClientOp) (next : ClientState δ) : Prop where
  none : NoneGivenUp fd world s.ctx s.lines lines
  silent : ClientOp.close ∉ ops
  conn : next.conn = { s.conn with session := rest }
  ctx : (next.ctx, next.lines) = (lineMachine fd world).run (s.ctx, s.lines) lines

/-- **The inner loop** keeps the connection, or gives up on a line and closes it. -/
theorem lineLoop_cases {fd : ℤ} (released : ConnectionObject) (world : ℕ → ℤ × Bool)
    {s : ClientState δ} (sameFd : s.conn.fd = fd) :
    LinesKept fd world s (drain s.conn.session lineSize).1 (drain s.conn.session lineSize).2.1
        (lineLoop fd released world s).1 (lineLoop fd released world s).2 ∨
      ¬ NoneGivenUp fd world s.ctx s.lines (drain s.conn.session lineSize).1 ∧
        ClientOp.close ∈ (lineLoop fd released world s).1 := by
  fun_induction lineLoop fd released world s with
  | case1 s popped =>
      rw [drain_of_noLine popped]
      exact .inl ⟨trivial, by simp, rfl, rfl⟩
  | case2 s popped =>
      rw [drain_of_tooLong popped]
      exact .inl ⟨trivial, by simp, rfl, rfl⟩
  | case3 s line rest popped result handled failed =>
      rw [drain_of_line popped]
      refine .inr ⟨fun none => ?_, by simp⟩
      have gives := (handleOneLine_gives_up s.conn.fd s.ctx line _ _).mp failed
      rw [sameFd] at gives
      exact absurd none.1 (by simp [gives])
  | case4 s line rest popped result handled kept next ih =>
      subst sameFd
      have opened : givesUp s.conn.fd s.ctx line (world s.lines).2 = false :=
        Bool.eq_false_iff.mpr fun up =>
          kept ((handleOneLine_gives_up s.conn.fd s.ctx line _ _).mpr up)
      have notClosed : ClientOp.close ∉ handled := by simp [handled]
      rw [drain_of_line popped]
      rcases ih rfl with ⟨none, silent, conn, ctx⟩ | ⟨given, closed⟩
      · refine .inl ⟨⟨opened, none⟩, ?_, conn, ctx⟩
        exact fun member => (List.mem_append.mp member).elim notClosed silent
      · exact .inr ⟨fun none => given none.2, List.mem_append_right handled closed⟩

/-! ## After the close -/

theorem QuietAfterClose.of_not_mem {ops : List ClientOp} (silent : ClientOp.close ∉ ops) :
    QuietAfterClose ops := by
  rintro before after rfl
  exact absurd (List.mem_append_right before List.mem_cons_self) silent

/-- Operations without a close in front change nothing. -/
theorem quietAfterClose_append {first second : List ClientOp}
    (silent : ClientOp.close ∉ first) :
    QuietAfterClose (first ++ second) ↔ QuietAfterClose second := by
  constructor
  · rintro quiet before after rfl
    exact quiet (first ++ before) after (List.append_assoc ..).symm
  · intro quiet before after same
    rcases List.append_eq_append_iff.mp same with ⟨between, rfl, rest⟩ | ⟨between, rfl, rest⟩
    · exact quiet between after rest
    · cases between with
      | nil => exact quiet [] after rest.symm
      | cons op between =>
          cases rest
          exact absurd (List.mem_append_right before List.mem_cons_self) silent

theorem quietAfterClose_close : QuietAfterClose [.close] := by
  intro before after same
  cases before with
  | nil => exact (List.cons.inj same).2.symm
  | cons op before => exact absurd (List.cons.inj same).2 (by simp)

/-- A close with something after it is not quiet. -/
theorem not_quietAfterClose {first second : List ClientOp} (closed : ClientOp.close ∈ first)
    (more : second ≠ []) : ¬ QuietAfterClose (first ++ second) := by
  intro quiet
  obtain ⟨before, after, rfl⟩ := List.append_of_mem closed
  have none := quiet before (after ++ second) (by rw [List.append_assoc, List.cons_append])
  exact more (List.append_eq_nil_iff.mp none).2

theorem noneGivenUp_append {fd : ℤ} {world : ℕ → ℤ × Bool} {ctx : AppCtx δ} {handled : ℕ}
    {first second : List Bytes} :
    NoneGivenUp fd world ctx handled (first ++ second) ↔
      NoneGivenUp fd world ctx handled first ∧
        NoneGivenUp fd world ((lineMachine fd world).run (ctx, handled) first).1
          ((lineMachine fd world).run (ctx, handled) first).2 second :=
  Machine.along_append

/-- **The outer loop** is quiet after a close exactly when no line it handles is given up on. -/
theorem readLoop_quiet_iff {fd : ℤ} (released : ConnectionObject) (world : ℕ → ℤ × Bool)
    (reads : List ClientRead) {s : ClientState δ} (sameFd : s.conn.fd = fd)
    (isOpen : s.conn.state = .isOpen) :
    QuietAfterClose (readLoop fd released world reads s) ↔
      NoneGivenUp fd world s.ctx s.lines (receivedLines s.conn.session reads) := by
  induction reads generalizing s with
  | nil => exact iff_of_true (.of_not_mem (by simp [readLoop])) trivial
  | cons result reads ih =>
  cases result with
  | again => exact iff_of_true (.of_not_mem (by simp [readLoop])) trivial
  | ended | failed =>
      refine iff_of_true ?_ trivial
      change QuietAfterClose ([.read fd] ++ [.close])
      exact (quietAfterClose_append (by simp)).mpr quietAfterClose_close
  | data bytes nowMs =>
  rw [readLoop, receivedLines, quietAfterClose_append (by simp)]
  cases sessionFeed s.conn.session bytes with
  | none => exact iff_of_true quietAfterClose_close trivial
  | some session =>
  simp only
  rcases lineLoop_cases released world (s := { s with
    conn := { s.conn with session := session, lastActiveMs := nowMs } }) sameFd with
    ⟨none, silent, conn, ctx⟩ | ⟨given, closed⟩
  · generalize lineLoop (δ := δ) fd released world _ = loop at silent conn ctx ⊢
    have stillFd : loop.2.conn.fd = fd := by rw [conn, sameFd]
    have stillOpen : loop.2.conn.state = .isOpen := by rw [conn, isOpen]
    rw [quietAfterClose_append silent, if_neg (by rw [stillOpen]; decide), ← List.singleton_append,
      quietAfterClose_append (by simp), ih stillFd stillOpen, noneGivenUp_append,
      and_iff_right none, conn, ← ctx]
  · refine iff_of_false (not_quietAfterClose closed (List.cons_ne_nil _ _)) ?_
    exact fun none => given (noneGivenUp_append.mp none).1

/-- **Nothing happens on a connection after it is closed** exactly when `handle_one_line` gives up
on none of the lines that the reads deliver, whatever is found where the released object was. -/
theorem quiet_after_close_iff (released : ConnectionObject) (world : ℕ → ℤ × Bool)
    (reads : List ClientRead) (ctx : AppCtx δ) (conn : ConnectionObject)
    (isOpen : conn.state = .isOpen) :
    QuietAfterClose (handleClientEvent released world reads conn ctx) ↔
      NoneGivenUp conn.fd world ctx 0 (receivedLines conn.session reads) := by
  rw [handleClientEvent, ← List.singleton_append, quietAfterClose_append (by simp)]
  exact readLoop_quiet_iff released world reads rfl isOpen

end ClientEvent

/-- A connection on descriptor 7 as it is accepted. -/
def acceptedConnection : ConnectionObject := ⟨7, sessionInit, 0, .isOpen⟩

/-- A line without a meaning is received. -/
theorem receivedLines_hello (nowMs : ℤ) (reads : List ClientRead) :
    receivedLines sessionInit (.data (ascii "HELLO\n") nowMs :: reads) =
      ascii "HELLO\n" :: receivedLines sessionInit reads := by
  have popped : sessionPopLine ⟨ascii "HELLO\n", by decide⟩ lineSize =
      .line (ascii "HELLO\n") sessionInit := rfl
  rw [receivedLines, show sessionFeed sessionInit (ascii "HELLO\n") =
    some ⟨ascii "HELLO\n", by decide⟩ from rfl]
  simp only [drain_of_line popped, drain_of_noLine (show sessionPopLine sessionInit lineSize =
    .noLine from rfl), List.singleton_append]

/-- A client that sends it, gets its error reply and hangs up. -/
theorem quiet_after_close_hangup :
    QuietAfterClose (handleClientEvent acceptedConnection (fun _ => (0, true))
      [.data (ascii "HELLO\n") 1, .ended] acceptedConnection (daemonInit : Daemon ℚ).ctx) := by
  refine (quiet_after_close_iff acceptedConnection (fun _ => (0, true))
    [.data (ascii "HELLO\n") 1, .ended] (daemonInit : Daemon ℚ).ctx acceptedConnection rfl).mpr ?_
  change NoneGivenUp 7 _ (daemonInit : Daemon ℚ).ctx 0 (receivedLines sessionInit _)
  rw [receivedLines_hello]
  exact ⟨by decide, trivial⟩

/-- When the error reply cannot be written, the connection is closed and its state is looked at. -/
theorem closed_connection_consulted :
    ¬ QuietAfterClose (handleClientEvent acceptedConnection (fun _ => (0, false))
        [.data (ascii "HELLO\n") 1] acceptedConnection (daemonInit : Daemon ℚ).ctx) := by
  intro quiet
  rw [handleClientEvent, ← List.singleton_append, quietAfterClose_append (by simp)] at quiet
  have none := (readLoop_quiet_iff acceptedConnection (fun _ => (0, false)) _
    (s := ⟨acceptedConnection, (daemonInit : Daemon ℚ).ctx, 0⟩) rfl rfl).mp quiet
  change NoneGivenUp 7 _ (daemonInit : Daemon ℚ).ctx 0 (receivedLines sessionInit _) at none
  rw [receivedLines_hello] at none
  exact absurd none.1 (by decide)

end EquipmentControl
