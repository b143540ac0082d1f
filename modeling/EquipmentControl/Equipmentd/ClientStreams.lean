import EquipmentControl.Equipmentd.EventLoop

/-!
# The streams of the clients

What equipmentd has read from each connection in a run, and the lines of it that were popped and
served (`handle_client_event` in `services/equipmentd/src/main.c`, `common/src/protocol/session.c`),
with the connections by their number.

Whatever is read and served on other connections in between, and however the stream is cut into
reads, the lines served are the first lines of the stream, in order, and what follows them is in the
session (`StreamServed`, `streamingDaemon_kept`). In the event loop no line is left that fits, so
that a stream of short lines is served line by line (`daemon_loop_serves_streams`).
-/

set_option autoImplicit false

namespace EquipmentControl

open InputMachine LineText

/-- What was read from a connection, and the lines that were popped from it. -/
structure ClientStream where
  received : Bytes
  served : List Bytes

/-- Nothing was read. -/
def ClientStream.empty : ClientStream := ⟨[], []⟩

/-- The lines served are the first ones of the stream, and what follows them is in the session. -/
structure StreamServed (stream : ClientStream) (s : Session) : Prop where
  framed : frames 10 stream.received = (stream.served ++ (frames 10 s.buf).1, (frames 10 s.buf).2)
  short : ∀ line ∈ stream.served, line.length < lineSize

namespace StreamServed

variable {stream : ClientStream} {s : Session}

theorem init : StreamServed .empty sessionInit := ⟨rfl, fun _ none => absurd none List.not_mem_nil⟩

/-- A read is put behind what is there. -/
theorem feed (delivers : StreamServed stream s) {data : Bytes} {fed : Session}
    (feeds : sessionFeed s data = some fed) :
    StreamServed ⟨stream.received ++ data, stream.served⟩ fed where
  framed := by
    rw [sessionFeed] at feeds
    split at feeds
    case isFalse => cases feeds
    cases feeds
    rw [frames_append, delivers.framed, frames_append s.buf, List.append_assoc]
  short := delivers.short

/-- A pop takes the first line that is left. -/
theorem pop (delivers : StreamServed stream s) {line : Bytes} {rest : Session}
    (popped : sessionPopLine s lineSize = .line line rest) :
    StreamServed ⟨stream.received, stream.served ++ [line]⟩ rest := by
  rw [sessionPopLine, if_neg (by decide)] at popped
  split at popped
  · cases popped
  rename_i i found
  by_cases long : lineSize ≤ i + 1
  · rw [if_pos long] at popped
    cases popped
  rw [if_neg long] at popped
  cases popped
  refine ⟨?_, fun line member => ?_⟩
  · rw [delivers.framed, frames_of_findIdx?_some found, List.append_assoc]
    rfl
  · rcases List.mem_append.mp member with old | last
    · exact delivers.short line old
    · rw [List.mem_singleton.mp last, List.length_take]
      omega

/-- A stream of short lines without a line that waits has been served. -/
theorem all (delivers : StreamServed stream s) (settled : ¬ LineWaits s)
    (fits : Fits 10 lineSize stream.received) :
    stream.served = (frames 10 stream.received).1 ∧ s.buf = (frames 10 stream.received).2 := by
  have none : (frames 10 s.buf).1 = [] := by
    cases first : (frames 10 s.buf).1 with
    | nil => rfl
    | cons line lines =>
        refine absurd ?_ settled
        have inStream : line ∈ (frames 10 stream.received).1 := by
          rw [delivers.framed, first]
          exact List.mem_append_right _ List.mem_cons_self
        obtain ⟨rest, popped, _⟩ := sessionPopLine_line first (fits.1 line inStream)
        exact ⟨line, rest, popped⟩
  have whole := flatten_frames 10 s.buf
  rw [none, List.flatten_nil, List.nil_append] at whole
  rw [delivers.framed, none, List.append_nil]
  exact ⟨rfl, whole.symm⟩

end StreamServed

/-! ## All connections -/

/-- The streams of the open connections, and none of those to come. -/
structure StreamsKept (cs : Connections) (streams : ℕ → ClientStream) : Prop where
  delivers : ∀ conn ∈ cs.list, StreamServed (streams conn.id) conn.session
  fresh : ∀ id, cs.nextId ≤ id → streams id = .empty

namespace StreamsKept

variable {cs : Connections} {streams : ℕ → ClientStream} {conn : Connection}

theorem close (kept : StreamsKept cs streams) (id : ℕ) : StreamsKept (cs.close id) streams :=
  ⟨fun conn member => kept.delivers conn (Connections.mem_close.mp member).1, kept.fresh⟩

theorem add (kept : StreamsKept cs streams) {fd : ℤ} (nowMs : ℤ)
    (closed : fd ∉ cs.list.map Connection.fd) : StreamsKept (cs.add fd nowMs closed) streams where
  delivers conn member := by
    rcases List.mem_cons.mp member with rfl | old
    · rw [kept.fresh cs.nextId le_rfl]
      exact .init
    · exact kept.delivers conn old
  fresh id beyond := kept.fresh id (Nat.le_of_succ_le beyond)

/-- A stream of an open connection is none to come. -/
theorem fresh_update (kept : StreamsKept cs streams) (member : conn ∈ cs.list)
    (stream : ClientStream) (id : ℕ) (beyond : cs.nextId ≤ id) :
    Function.update streams conn.id stream id = .empty := by
  have before := cs.fresh conn member
  rw [Function.update_of_ne (by omega)]
  exact kept.fresh id beyond

theorem update (kept : StreamsKept cs streams) (member : conn ∈ cs.list) {stream : ClientStream}
    {session : Session} (delivers : StreamServed stream session) (lastActiveMs : ℤ) :
    StreamsKept (cs.update conn.id session lastActiveMs)
      (Function.update streams conn.id stream) where
  delivers other inList := by
    obtain ⟨old, inOld, rfl⟩ := List.mem_map.mp inList
    rw [Connections.updated_id]
    by_cases same : old.id = conn.id
    · rw [same, Function.update_self, Connections.updated, if_pos same]
      exact delivers
    · rw [Function.update_of_ne same, Connections.updated, if_neg same]
      exact kept.delivers old inOld
  fresh := kept.fresh_update member stream

/-- The stream of a connection that is closed does not matter. -/
theorem closeUpdate (kept : StreamsKept cs streams) (member : conn ∈ cs.list)
    (stream : ClientStream) :
    StreamsKept (cs.close conn.id) (Function.update streams conn.id stream) where
  delivers other inList := by
    obtain ⟨inOld, differs⟩ := Connections.mem_close.mp inList
    rw [Function.update_of_ne differs]
    exact kept.delivers other inOld
  fresh := kept.fresh_update member stream

end StreamsKept

section Streams

variable {α δ : Type} [DecidableEq α] [CDouble δ]

/-- What a piece of work adds to the streams. -/
def noteStream (d : Daemon δ) (input : DaemonInput) (streams : ℕ → ClientStream) :
    ℕ → ClientStream :=
  match input with
  | .feed id data _ =>
      if (d.conns.find id).isSome then
        Function.update streams id ⟨(streams id).received ++ data, (streams id).served⟩
      else streams
  | .pop id _ _ =>
      Function.update streams id
        ⟨(streams id).received, (streams id).served ++ (poppedLine d id).toList⟩
  | _ => streams

/-- The daemon with the streams of its clients. -/
def streamingDaemon : Machine (Daemon δ × (ℕ → ClientStream)) DaemonInput (Option (ℤ × Bytes)) :=
  daemonMachine.withRecord noteStream

variable {d : Daemon δ} {streams : ℕ → ClientStream}

omit [CDouble δ] in
/-- A read of an open connection. -/
theorem StreamsKept.feedConnection (kept : StreamsKept d.conns streams) (id : ℕ) (data : Bytes)
    (nowMs : ℤ) :
    StreamsKept (feedConnection d id data nowMs).conns
      (noteStream d (.feed id data nowMs) streams) := by
  rw [EquipmentControl.feedConnection, noteStream]
  cases found : d.conns.find id with
  | none => exact kept
  | some conn =>
  obtain ⟨member, rfl⟩ := Connections.find_eq_some.mp found
  rw [Option.isSome_some, if_pos rfl]
  dsimp only
  cases feeds : sessionFeed conn.session data with
  | none => exact kept.closeUpdate member _
  | some fed => exact kept.update member ((kept.delivers conn member).feed feeds) nowMs

/-- A pop takes a line of its connection, or nothing. -/
theorem StreamsKept.popConnection (kept : StreamsKept d.conns streams) (id : ℕ) (nowMs : ℤ)
    (writeOk : Bool) :
    StreamsKept (popConnection d id nowMs writeOk).1.conns
      (noteStream d (.pop id nowMs writeOk) streams) := by
  rw [noteStream]
  cases popped : poppedLine d id with
  | none =>
      rw [popConnection_of_none popped, Option.toList_none, List.append_nil]
      change StreamsKept d.conns (Function.update streams id (streams id))
      rw [Function.update_eq_self]
      exact kept
  | some line =>
      obtain ⟨conn, rest, pops⟩ := poppedLine_eq_some popped
      obtain rfl := pops.id_eq
      have next := kept.update pops.member ((kept.delivers conn pops.member).pop pops.popped)
        conn.lastActiveMs
      rw [pops.popConnection_eq]
      dsimp only
      split
      · exact next.close conn.id
      · exact next

/-- **Every piece of work keeps the streams.** -/
theorem streamingDaemon_step (kept : StreamsKept d.conns streams) (input : DaemonInput) :
    StreamsKept (daemonMachine.step d input).1.conns (noteStream d input streams) := by
  cases input with
  | accept fd nowMs setUp =>
      change StreamsKept (acceptConnection d fd nowMs setUp).conns streams
      rcases acceptConnection_cases d fd nowMs setUp with same | ⟨closed, same⟩
      all_goals rw [same]
      · exact kept
      · exact kept.add nowMs closed
  | feed id data nowMs => exact kept.feedConnection id data nowMs
  | pop id nowMs writeOk => exact kept.popConnection id nowMs writeOk
  | hangUp id =>
      change StreamsKept (hangUpConnection d id).conns streams
      rcases hangUpConnection_cases d id with same | ⟨conn, _, _, same⟩
      all_goals rw [same]
      · exact kept
      · exact kept.close conn.id
  | runScheduler healthMs createdMs writeOk => exact kept
  | sweepRequests nowMs => exact kept
  | scanConnections nowMs =>
      exact scanConnectionTimeout_preserves (I := fun next => StreamsKept next.conns streams) nowMs
        (fun _ conn kept _ _ _ => kept.close conn.id) kept

/-- **Every run keeps the streams**, in whatever order its pieces come. -/
theorem streamingDaemon_kept (inputs : List DaemonInput) :
    let last := streamingDaemon.run ((daemonInit : Daemon δ), fun _ => .empty) inputs
    StreamsKept last.1.conns last.2 :=
  Machine.invariant (I := fun last : Daemon δ × (ℕ → ClientStream) =>
      StreamsKept last.1.conns last.2)
    (fun _ input kept => streamingDaemon_step kept input)
    ⟨fun _ none => absurd none List.not_mem_nil, fun _ _ => rfl⟩ inputs

variable (δ) in
/-- The streams of the clients in a run of the loop. -/
def clientStreams (inputs : List (EpollInput α)) : ℕ → ClientStream :=
  (streamingDaemon.run ((daemonInit : Daemon δ), fun _ => .empty)
    ((daemonLog δ inputs).map Prod.fst)).2

/-- **The loop serves the streams of its clients.** In every run in which the system calls keep
their promises, for each connection that is allocated, the lines that were served are the first
lines of what was read from it, in order, each short enough for the line buffer, and the rest is in
its session. When its lines and its tail are shorter than the line buffer, all of them have been
served. -/
theorem daemon_loop_serves_streams {inputs : List (EpollInput α)}
    (promised : PromisedRun δ (daemonStart α δ) inputs) :
    ∀ s, daemonLoop.run (daemonStart α δ) inputs = some s →
      ∀ a object, s.process.heap a = some object →
        let stream := clientStreams δ inputs object.conn.id
        let buf := object.conn.session.buf
        frames 10 stream.received = (stream.served ++ (frames 10 buf).1, (frames 10 buf).2) ∧
        (∀ line ∈ stream.served, line.length < lineSize) ∧
        (Fits 10 lineSize stream.received →
          stream.served = (frames 10 stream.received).1 ∧
            buf = (frames 10 stream.received).2) := by
  intro s reached a object allocated stream buf
  have reaches := (daemonLoop_refines promised).1
  rw [reached] at reaches
  obtain ⟨cells, inStep⟩ := reaches.related_of_some
  have member := inStep.holds.mem_conns ((inStep.holds.heap a object).mp allocated)
  have kept := streamingDaemon_kept (δ := δ) ((daemonLog δ inputs).map Prod.fst)
  dsimp only at kept
  rw [streamingDaemon, Machine.withRecord_run] at kept
  have delivers := kept.delivers object.conn member
  exact ⟨delivers.framed, delivers.short, delivers.all (inStep.settled _ member)⟩

/-- The complete line of a client in the middle of its second one. -/
theorem daemon_loop_serves_streams_cut :
    (clientStreams ℚ clientMidLine 0).served = (frames 10 (ascii "HELLO\nHEL")).1 := by
  have received : (clientStreams ℚ clientMidLine 0).received = ascii "HELLO\nHEL" := rfl
  obtain ⟨_, _, all⟩ :=
    daemon_loop_serves_streams clientMidLine_promised _ rfl 200 _ rfl
  change Fits 10 lineSize (clientStreams ℚ clientMidLine 0).received →
    (clientStreams ℚ clientMidLine 0).served =
      (frames 10 (clientStreams ℚ clientMidLine 0).received).1 ∧ _ at all
  rw [received] at all
  exact (all (by unfold Fits; decide)).1

end Streams

end EquipmentControl
