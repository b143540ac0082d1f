import EquipmentControl.Equipmentd.Daemon
import EquipmentControl.Equipmentd.LineSteps

/-!
# Whose request a slot holds

A slot of the tracker names its client by descriptor. It is meant to name the open connection the
request arrived on (`RequestsOwned`). Closing a connection leaves its slots behind, whichever way
it is closed: the invariant holds along every run that closes no connection with a request
pending (`requests_owned`), and then a response is relayed to the connection that asked.
`abandoned_request` is a run in which a client leaves before its answer, and the next connection
gets its descriptor.
-/

set_option autoImplicit false

namespace EquipmentControl

open InputMachine

section Owners

variable {δ : Type}

/-- The connection the request of each slot arrived on. -/
abbrev Origins := Fin requestTrackerMax → Option ℕ

/-- The connection whose line a piece of work serves. -/
def DaemonInput.source : DaemonInput → Option ℕ
  | .pop id _ _ => some id
  | _ => none

/-- A connection has a request pending. -/
def AwaitsAnswer (ctx : AppCtx δ) (fd : ℤ) : Prop :=
  ∃ i, (ctx.tracker i).valid = true ∧ (ctx.tracker i).clientFd = fd

instance (ctx : AppCtx δ) (fd : ℤ) : Decidable (AwaitsAnswer ctx fd) :=
  inferInstanceAs (Decidable (∃ i, (ctx.tracker i).valid = true ∧ (ctx.tracker i).clientFd = fd))

/-- The request of every slot with a client arrived on an open connection, whose descriptor the
slot names. -/
def RequestsOwned (s : Daemon δ × Origins) : Prop :=
  ∀ i, (s.1.ctx.tracker i).valid = true → 0 ≤ (s.1.ctx.tracker i).clientFd →
    ∃ conn ∈ s.1.conns.list, s.2 i = some conn.id ∧ conn.fd = (s.1.ctx.tracker i).clientFd

variable [CDouble δ]

/-- A slot that becomes valid originates from the connection served, one that is freed from
none. -/
def noteOrigins (d : Daemon δ) (input : DaemonInput) (origins : Origins) : Origins := fun i =>
  if ((daemonMachine.step d input).1.ctx.tracker i).valid then
    if (d.ctx.tracker i).valid then origins i else input.source
  else none

/-- The daemon together with the origin of every slot. -/
def owningMachine : Machine (Daemon δ × Origins) DaemonInput (Option (ℤ × Bytes)) :=
  daemonMachine.withRecord noteOrigins

/-- No piece closes a connection that has a request pending: none that ends, whose session
overflows or whose line is given up, and none that the idle scan finds. -/
def KeepsClients (s : Daemon δ × Origins) : DaemonInput → Prop
  | .feed id data _ => ∀ conn ∈ s.1.conns.list, conn.id = id →
      4096 < (conn.session.buf ++ data).length → ¬ AwaitsAnswer s.1.ctx conn.fd
  | .pop id _ writeOk => ∀ conn ∈ s.1.conns.list, conn.id = id →
      ∀ line ∈ poppedLine s.1 id, givesUp conn.fd s.1.ctx line writeOk = true →
        ¬ AwaitsAnswer s.1.ctx conn.fd
  | .hangUp id => ∀ conn ∈ s.1.conns.list, conn.id = id → ¬ AwaitsAnswer s.1.ctx conn.fd
  | .scanConnections nowMs => ∀ conn ∈ s.1.conns.list, conn.id ∈ s.1.connTable →
      isIdle nowMs conn = true → ¬ AwaitsAnswer s.1.ctx conn.fd
  | _ => True

instance decidableKeepsClients (s : Daemon δ × Origins) : ∀ input, Decidable (KeepsClients s input)
  | .feed id data _ => inferInstanceAs (Decidable (∀ conn ∈ s.1.conns.list, conn.id = id →
      4096 < (conn.session.buf ++ data).length → ¬ AwaitsAnswer s.1.ctx conn.fd))
  | .pop id _ writeOk => inferInstanceAs (Decidable (∀ conn ∈ s.1.conns.list, conn.id = id →
      ∀ line ∈ poppedLine s.1 id, givesUp conn.fd s.1.ctx line writeOk = true →
        ¬ AwaitsAnswer s.1.ctx conn.fd))
  | .hangUp id => inferInstanceAs (Decidable (∀ conn ∈ s.1.conns.list, conn.id = id →
      ¬ AwaitsAnswer s.1.ctx conn.fd))
  | .scanConnections nowMs => inferInstanceAs (Decidable (∀ conn ∈ s.1.conns.list,
      conn.id ∈ s.1.connTable → isIdle nowMs conn = true → ¬ AwaitsAnswer s.1.ctx conn.fd))
  | .accept .. | .runScheduler .. | .sweepRequests .. => isTrue trivial

/-! ## Slots that are kept -/

/-- The connections with a pending request stay open. -/
def Stay (s : Daemon δ × Origins) (next : Daemon δ) : Prop :=
  ∀ conn ∈ s.1.conns.list, AwaitsAnswer s.1.ctx conn.fd →
    ∃ kept ∈ next.conns.list, kept.id = conn.id ∧ kept.fd = conn.fd

/-- A slot that a piece leaves alone is owned as before. -/
theorem RequestsOwned.slot {s : Daemon δ × Origins} (owned : RequestsOwned s)
    {input : DaemonInput} {next : Daemon δ} (moved : (daemonMachine.step s.1 input).1 = next)
    (stay : Stay s next) {i : Fin requestTrackerMax}
    (same : next.ctx.tracker i = s.1.ctx.tracker i) (valid : (next.ctx.tracker i).valid = true)
    (client : 0 ≤ (next.ctx.tracker i).clientFd) :
    ∃ conn ∈ next.conns.list, noteOrigins s.1 input s.2 i = some conn.id ∧
      conn.fd = (next.ctx.tracker i).clientFd := by
  have wasValid : (s.1.ctx.tracker i).valid = true := by rwa [same] at valid
  rw [noteOrigins, moved, if_pos valid, if_pos wasValid, same]
  rw [same] at client
  obtain ⟨conn, member, origin, sameFd⟩ := owned i wasValid client
  obtain ⟨kept, keptMember, keptId, keptFd⟩ := stay conn member ⟨i, wasValid, sameFd.symm⟩
  exact ⟨kept, keptMember, by rw [keptId]; exact origin, keptFd.trans sameFd⟩

/-- A piece that leaves every slot it keeps valid for a client alone, and the connections these
name, keeps every request owned. -/
theorem RequestsOwned.keep {s : Daemon δ × Origins} (owned : RequestsOwned s)
    {input : DaemonInput} (next : Daemon δ) (moved : (daemonMachine.step s.1 input).1 = next)
    (stay : Stay s next)
    (slots : ∀ i, (next.ctx.tracker i).valid = true → 0 ≤ (next.ctx.tracker i).clientFd →
      next.ctx.tracker i = s.1.ctx.tracker i) :
    RequestsOwned (owningMachine.step s input).1 := by
  change RequestsOwned ((daemonMachine.step s.1 input).1, noteOrigins s.1 input s.2)
  rw [moved]
  exact fun i valid client => owned.slot moved stay (slots i valid client) valid client

omit [CDouble δ] in
/-- Closing a connection without a pending request lets the others stay. -/
theorem stay_close {s : Daemon δ × Origins} (next : Daemon δ) {id : ℕ} (stay : Stay s next)
    (free : ∀ conn ∈ s.1.conns.list, conn.id = id → ¬ AwaitsAnswer s.1.ctx conn.fd) :
    Stay s (closeConnection next id) := by
  intro conn member awaits
  obtain ⟨kept, keptMember, keptId, keptFd⟩ := stay conn member awaits
  refine ⟨kept, Connections.mem_close.mpr ⟨keptMember, fun same => ?_⟩, keptId, keptFd⟩
  exact free conn member (keptId.symm.trans same) awaits

/-- The idle scan keeps the connections with a pending request. -/
theorem scan_keeps {s : Daemon δ × Origins} {nowMs : ℤ}
    (kept : KeepsClients s (.scanConnections nowMs)) :
    (scanConnectionTimeout s.1 nowMs).ctx = s.1.ctx ∧
      ∀ conn ∈ s.1.conns.list, AwaitsAnswer s.1.ctx conn.fd →
        conn ∈ (scanConnectionTimeout s.1 nowMs).conns.list := by
  have all := scanConnectionTimeout_preserves (d := s.1)
    (I := fun d => d.ctx = s.1.ctx ∧ (d.conns.list ⊆ s.1.conns.list ∧
      d.connTable ⊆ s.1.connTable) ∧
        ∀ conn ∈ s.1.conns.list, AwaitsAnswer s.1.ctx conn.fd → conn ∈ d.conns.list)
    nowMs ?_ ⟨rfl, ⟨List.Subset.refl _, List.Subset.refl _⟩, fun _ member _ => member⟩
  · exact ⟨all.1, all.2.2⟩
  rintro d idle ⟨ctx, ⟨listed, entered⟩, stay⟩ member entry isIdle
  refine ⟨ctx, ⟨fun conn inClosed => listed (Connections.mem_close.mp inClosed).1,
    fun id inTable => entered (unregisterConnection_subset _ _ inTable)⟩, ?_⟩
  intro conn connMember awaits
  refine Connections.mem_close.mpr ⟨stay conn connMember awaits, ?_⟩
  intro same
  rw [Connections.eq_of_id connMember (listed member) same] at awaits
  exact kept idle (listed member) (entered entry) isIdle awaits

/-! ## One piece of work -/

/-- Popping and serving a line keeps every request owned, and a request it takes belongs to the
connection of the line. -/
theorem RequestsOwned.pop {s : Daemon δ × Origins} (owned : RequestsOwned s) (id : ℕ) (nowMs : ℤ)
    (writeOk : Bool) (kept : KeepsClients s (.pop id nowMs writeOk)) :
    RequestsOwned (owningMachine.step s (.pop id nowMs writeOk)).1 := by
  rcases popConnection_cases s.1 id nowMs writeOk with same | ⟨conn, line, rest, pops, same⟩
  · have moved : (daemonMachine.step s.1 (.pop id nowMs writeOk)).1 = s.1 := congrArg Prod.fst same
    exact owned.keep _ moved (fun conn member _ => ⟨conn, member, rfl, rfl⟩) fun _ _ _ => rfl
  have moved : (daemonMachine.step s.1 (.pop id nowMs writeOk)).1 = _ := congrArg Prod.fst same
  have slots := fun i => TrackerStep.slot (i := i)
    (handleOneLine_tracker conn.fd s.1.ctx line nowMs writeOk)
  rw [← serveLine_tracker] at slots
  have stayUpdate : Stay s (afterServing s.1 conn line rest nowMs writeOk) :=
    fun _ member _ => Connections.mem_update _ _ _ member
  by_cases failed : givesUp conn.fd s.1.ctx line writeOk = true
  · -- A line that is given up takes no slot, and its connection had no request pending.
    rw [if_pos failed] at moved
    refine owned.keep _ moved (stay_close _ stayUpdate fun other member sameId => ?_) ?_
    · rw [Connections.eq_of_id member pops.member sameId]
      exact kept conn pops.member pops.id_eq line pops.poppedLine_eq failed
    · intro i valid _
      rcases slots i valid with unchanged | ⟨zero, _⟩
      · exact unchanged
      · have negative := (handleOneLine_gives_up _ _ _ nowMs _).mpr failed
        rw [zero] at negative
        exact absurd negative (by decide)
  · rw [if_neg failed] at moved
    change RequestsOwned ((daemonMachine.step s.1 _).1, noteOrigins s.1 _ s.2)
    rw [moved]
    intro i valid client
    rcases slots i valid with unchanged | ⟨_, free, ofConn⟩
    · exact owned.slot moved stayUpdate unchanged valid client
    · -- The slot was free, so its origin is the connection of the line.
      obtain ⟨kept, keptMember, keptId, keptFd⟩ := Connections.mem_update
        conn.id rest conn.lastActiveMs pops.member
      refine ⟨kept, keptMember, ?_, keptFd.trans ofConn.symm⟩
      change noteOrigins s.1 (.pop id nowMs writeOk) s.2 i = some kept.id
      rw [noteOrigins, moved, if_pos valid, if_neg (by rw [free]; decide), keptId, pops.id_eq]
      rfl

/-- **A piece of work keeps every request owned** unless it closes a connection with a request
pending. -/
theorem owningMachine_owned (s : Daemon δ × Origins) (input : DaemonInput)
    (owned : RequestsOwned s) (kept : KeepsClients s input) :
    RequestsOwned (owningMachine.step s input).1 := by
  have here : Stay s s.1 := by
    intro conn member _
    exact ⟨conn, member, rfl, rfl⟩
  cases input with
  | accept fd nowMs setUp =>
      rcases acceptConnection_cases s.1 fd nowMs setUp with same | ⟨closed, same⟩
      · exact owned.keep _ same here fun _ _ _ => rfl
      · refine owned.keep _ same ?_ fun _ _ _ => rfl
        intro conn member _
        exact ⟨conn, List.mem_cons_of_mem _ member, rfl, rfl⟩
  | feed id data nowMs =>
      rcases feedConnection_cases s.1 id data nowMs with
        same | ⟨conn, member, rfl, ⟨long, same⟩ | ⟨session, same⟩⟩
      · exact owned.keep _ same here fun _ _ _ => rfl
      · refine owned.keep _ same (stay_close _ here ?_) fun _ _ _ => rfl
        intro other otherMember sameId
        rw [Connections.eq_of_id otherMember member sameId]
        exact kept conn member rfl long
      · refine owned.keep _ same ?_ fun _ _ _ => rfl
        intro conn member _
        exact Connections.mem_update _ _ _ member
  | pop id nowMs writeOk => exact owned.pop id nowMs writeOk kept
  | hangUp id =>
      rcases hangUpConnection_cases s.1 id with same | ⟨conn, member, rfl, same⟩
      · exact owned.keep _ same here fun _ _ _ => rfl
      · refine owned.keep _ same ?_ fun _ _ _ => rfl
        exact stay_close { s.1 with ctx := dropLinks s.1.ctx conn.fd } here kept
  | runScheduler healthMs createdMs writeOk =>
      refine owned.keep _ rfl here ?_
      intro i valid client
      rcases (runScheduler_tracker s.1.ctx healthMs createdMs writeOk).slot valid with
        unchanged | noClient
      · exact unchanged
      · exact absurd (client.trans_eq noClient) (by decide)
  | sweepRequests nowMs =>
      exact owned.keep _ rfl here fun i valid _ => requestTrackerSweep_valid valid
  | scanConnections nowMs =>
      obtain ⟨ctx, stay⟩ := scan_keeps kept
      refine owned.keep (scanConnectionTimeout s.1 nowMs) rfl ?_ fun i _ _ => by rw [ctx]
      exact fun conn member awaits => ⟨conn, stay conn member awaits, rfl, rfl⟩

/-- A piece of work relays the response for slot `i` to the descriptor `fd`. -/
def Relays (d : Daemon δ) (input : DaemonInput) (i : Fin requestTrackerMax) (fd : ℤ) : Prop :=
  ∃ id nowMs writeOk conn line rest text, ∃ m : Message δ, input = .pop id nowMs writeOk ∧
    Pops d id conn line rest ∧ lineParse line = some m ∧ matchPending conn.fd d.ctx m = some i ∧
      (daemonMachine.step d input).2 = some (fd, text)

/-- A relayed response is written to the client the slot names. -/
theorem Relays.client {d : Daemon δ} {input : DaemonInput} {i : Fin requestTrackerMax} {fd : ℤ}
    (relays : Relays d input i fd) :
    (d.ctx.tracker i).valid = true ∧ 0 ≤ (d.ctx.tracker i).clientFd ∧
      fd = (d.ctx.tracker i).clientFd := by
  obtain ⟨id, nowMs, writeOk, conn, line, rest, text, m, rfl, pops, parsed, matched, wrote⟩ :=
    relays
  obtain ⟨_, _, seq, dev, _, _, found⟩ := matchPending_some matched
  refine ⟨(requestTrackerFind_some found).1, ?_⟩
  change (popConnection d id nowMs writeOk).2 = _ at wrote
  rw [pops.wrote, serveLine_wrote, handleOneLine_matched parsed matched] at wrote
  exact handleResponse_wrote wrote

/-- **In every run** that closes no connection with a request pending, every request of a client
belongs in every state reached to the open connection it arrived on, and the response for a slot
is relayed to no other connection. -/
theorem requests_owned (inputs : List DaemonInput)
    (kept : owningMachine.Along KeepsClients
      ((daemonInit, fun _ => none) : Daemon δ × Origins) inputs) :
    ∀ before, before <+: inputs → ∀ s,
      s = owningMachine.run ((daemonInit, fun _ => none) : Daemon δ × Origins) before →
        RequestsOwned s ∧ ∀ input i fd, Relays s.1 input i fd →
          (∃ conn ∈ s.1.conns.list, conn.fd = fd) ∧
            ∀ conn ∈ s.1.conns.list, conn.fd = fd → s.2 i = some conn.id := by
  rintro before isPrefix s rfl
  have owned : RequestsOwned (owningMachine.run
      ((daemonInit, fun _ => none) : Daemon δ × Origins) before) :=
    Machine.invariant_along owningMachine_owned (fun _ valid => absurd valid Bool.false_ne_true)
      (kept.of_prefix isPrefix)
  refine ⟨owned, ?_⟩
  intro input i fd relays
  obtain ⟨valid, client, rfl⟩ := relays.client
  obtain ⟨conn, member, origin, sameFd⟩ := owned i valid client
  refine ⟨⟨conn, member, sameFd⟩, ?_⟩
  intro other otherMember otherFd
  rw [Connections.eq_of_fd otherMember member (otherFd.trans sameFd.symm)]
  exact origin

end Owners

/-- A process controller on descriptor 5 and a client on descriptor 7 that asks for the status of
module 1. -/
def statusAsked : List DaemonInput :=
  [.accept 5 0 true, .feed 0 (ascii "REQ REGISTER seq=1\n") 10, .pop 0 10 true,
    .accept 7 20 true, .feed 1 (ascii "REQ STATUS dev=1 seq=3\n") 30, .pop 1 30 true]

/-- The state before anything happened. -/
def unownedStart : Daemon ℚ × Origins := (daemonInit, fun _ => none)

/-- The run that ends with the answer keeps the clients. -/
theorem requests_owned_answered :
    let s := owningMachine.run unownedStart (statusAsked ++
      [.feed 0 (ascii "RESP STATUS dev=1 seq=3 ok=1\n") 40, .pop 0 40 true, .hangUp 1])
    RequestsOwned s ∧ ∀ input i fd, Relays s.1 input i fd →
      (∃ conn ∈ s.1.conns.list, conn.fd = fd) ∧
        ∀ conn ∈ s.1.conns.list, conn.fd = fd → s.2 i = some conn.id :=
  requests_owned _ (by decide) _ (List.prefix_refl _) _ rfl

/-- A client that leaves before its answer leaves its slot behind, and the answer goes to the next
connection on its descriptor. -/
theorem abandoned_request :
    let s := owningMachine.run unownedStart (statusAsked ++ [.hangUp 1, .accept 7 40 true,
      .feed 0 (ascii "RESP STATUS dev=1 seq=3 ok=1\n") 50])
    ¬ RequestsOwned s ∧ s.1.conns.list.map Connection.id = [2, 0] ∧ s.2 0 = some 1 ∧
      (owningMachine.step s (.pop 0 50 true)).2 =
        some (7, ascii "RESP STATUS dev=1 seq=3 ok=1\n") := by
  intro s
  have ids : s.1.conns.list.map Connection.id = [2, 0] := by decide
  have asked : s.2 0 = some 1 := by decide
  refine ⟨fun owned => ?_, ids, asked, by decide⟩
  obtain ⟨conn, member, origin, _⟩ := owned 0 (by decide) (by decide)
  have listed := List.mem_map_of_mem (f := Connection.id) member
  rw [ids, Option.some.inj (origin.symm.trans asked)] at listed
  exact absurd listed (by decide)

end EquipmentControl
