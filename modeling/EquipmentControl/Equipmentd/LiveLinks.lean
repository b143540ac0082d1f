import EquipmentControl.Equipmentd.Daemon
import EquipmentControl.Equipmentd.LineSteps

/-!
# The controller links stay live

`pmc_fd` and `tmc_fd` are meant to be -1 or the descriptor of an open connection that
registered itself (`LinksLive`). A connection that ends, or whose line is given up, resets them.
The idle scan and a session overflow close a connection without doing so: the invariant holds
along every run in which neither hits a controller's connection (`links_live`), and
`idle_controller_link` is a run in which the scan does.
-/

set_option autoImplicit false

namespace EquipmentControl

open InputMachine

section Links

variable {δ : Type}

/-- The lines received on each connection, most recent first. -/
abbrev Received := ℕ → List Bytes

/-- A popped line is received on its connection. -/
def noteReceived (d : Daemon δ) (input : DaemonInput) (received : Received) : Received :=
  match input with
  | .pop id _ _ =>
      match poppedLine d id with
      | none => received
      | some line => Function.update received id (line :: received id)
  | _ => received

/-- Nothing received is forgotten. -/
theorem subset_noteReceived (d : Daemon δ) (input : DaemonInput) (received : Received) (id : ℕ) :
    received id ⊆ noteReceived d input received id := by
  cases input
  case pop popId nowMs writeOk =>
    simp only [noteReceived]
    cases poppedLine d popId with
    | none => exact List.Subset.refl _
    | some line =>
        by_cases same : id = popId
        · subst same
          simp
        · simp only [Function.update_of_ne same]
          exact List.Subset.refl _
  all_goals exact List.Subset.refl _

theorem noteReceived_pop {d : Daemon δ} {id : ℕ} {conn : Connection} {line : Bytes}
    {rest : Session} (pops : Pops d id conn line rest) (nowMs : ℤ) (writeOk : Bool)
    (received : Received) :
    noteReceived d (.pop id nowMs writeOk) received =
      Function.update received id (line :: received id) := by
  simp only [noteReceived, pops.poppedLine_eq]

theorem isControllerFd_eq_false {ctx : AppCtx δ} {fd : ℤ}
    (other : isControllerFd ctx fd = false) : fd ≠ ctx.pmcFd ∧ fd ≠ ctx.tmcFd := by
  simpa [isControllerFd] using other

variable [CDouble δ]

/-- The daemon together with the lines each connection received. -/
def receivingMachine : Machine (Daemon δ × Received) DaemonInput (Option (ℤ × Bytes)) :=
  daemonMachine.withRecord noteReceived

/-- A descriptor is -1, or that of an open connection on which a line of the given kind was
received. -/
def LinkLive (conns : Connections) (received : Received) (Registers : Bytes → Prop) (fd : ℤ) :
    Prop :=
  fd = -1 ∨ ∃ conn ∈ conns.list, conn.fd = fd ∧ ∃ line ∈ received conn.id, Registers line

/-- Both controller links are live. -/
structure LinksLive (s : Daemon δ × Received) : Prop where
  pmc : LinkLive s.1.conns s.2 (RegistersPmc δ) s.1.ctx.pmcFd
  tmc : LinkLive s.1.conns s.2 (RegistersTmc δ) s.1.ctx.tmcFd

/-- No piece closes a controller's connection without dropping the link: no session overflow and
no idle scan hits one. -/
def KeepsControllers (s : Daemon δ × Received) : DaemonInput → Prop
  | .feed id data _ => ∀ conn ∈ s.1.conns.list, conn.id = id →
      4096 < (conn.session.buf ++ data).length → isControllerFd s.1.ctx conn.fd = false
  | .scanConnections nowMs => ∀ conn ∈ s.1.conns.list, conn.id ∈ s.1.connTable →
      isIdle nowMs conn = true → isControllerFd s.1.ctx conn.fd = false
  | _ => True

instance decidableKeepsControllers (s : Daemon δ × Received) :
    ∀ input, Decidable (KeepsControllers s input)
  | .feed id data _ => inferInstanceAs (Decidable (∀ conn ∈ s.1.conns.list, conn.id = id →
      4096 < (conn.session.buf ++ data).length → isControllerFd s.1.ctx conn.fd = false))
  | .scanConnections nowMs => inferInstanceAs (Decidable (∀ conn ∈ s.1.conns.list,
      conn.id ∈ s.1.connTable → isIdle nowMs conn = true →
        isControllerFd s.1.ctx conn.fd = false))
  | .accept .. | .pop .. | .hangUp .. | .runScheduler .. | .sweepRequests .. => isTrue trivial

/-! ## One link -/

variable {conns : Connections} {received : Received} {Registers : Bytes → Prop} {fd : ℤ}

/-- A link stays live when the connections that carry it stay, with all they received. -/
theorem LinkLive.mono (live : LinkLive conns received Registers fd) {later : Connections}
    {more : Received}
    (stay : ∀ conn ∈ conns.list, conn.fd = fd →
      ∃ kept ∈ later.list, kept.id = conn.id ∧ kept.fd = conn.fd)
    (grow : ∀ id, received id ⊆ more id) : LinkLive later more Registers fd := by
  rcases live with none | ⟨conn, member, same, line, received, registers⟩
  · exact .inl none
  · obtain ⟨kept, keptMember, sameId, sameFd⟩ := stay conn member same
    refine .inr ⟨kept, keptMember, sameFd.trans same, line, ?_, registers⟩
    rw [sameId]
    exact grow conn.id received

/-- Closing a connection on another descriptor keeps a link live. -/
theorem LinkLive.close (live : LinkLive conns received Registers fd) {id : ℕ}
    (other : ∀ conn ∈ conns.list, conn.id = id → conn.fd ≠ fd) :
    LinkLive (conns.close id) received Registers fd := by
  refine live.mono ?_ fun _ => List.Subset.refl _
  intro conn member same
  have differs : conn.id ≠ id := by
    intro this
    exact other conn member this same
  exact ⟨conn, Connections.mem_close.mpr ⟨member, differs⟩, rfl, rfl⟩

/-- Closing a connection and dropping its links leaves a live link. -/
theorem LinkLive.drop (live : LinkLive conns received Registers fd) {conn : Connection}
    (member : conn ∈ conns.list) :
    LinkLive (conns.close conn.id) received Registers (if conn.fd = fd then -1 else fd) := by
  split
  · exact .inl rfl
  · rename_i differ
    apply live.close
    intro other otherMember same
    rw [Connections.eq_of_id otherMember member same]
    exact differ

/-- An update keeps every link live. -/
theorem LinkLive.update (live : LinkLive conns received Registers fd) (id : ℕ)
    (session : Session) (lastActiveMs : ℤ) :
    LinkLive (conns.update id session lastActiveMs) received Registers fd :=
  live.mono (fun _ member _ => Connections.mem_update _ _ _ member) fun _ => List.Subset.refl _

/-- A link that is kept, or attached to the connection of the line received on it. -/
theorem LinkLive.receive (live : LinkLive conns received Registers fd) {conn : Connection}
    (member : conn ∈ conns.list) {line : Bytes} {rest : Session} {after : ℤ}
    (step : after = fd ∨ (after = conn.fd ∧ Registers line)) :
    LinkLive (conns.update conn.id rest conn.lastActiveMs)
      (Function.update received conn.id (line :: received conn.id)) Registers after := by
  rcases step with rfl | ⟨rfl, registers⟩
  · refine (live.update conn.id rest conn.lastActiveMs).mono
      (fun kept keptMember _ => ⟨kept, keptMember, rfl, rfl⟩) fun id => ?_
    by_cases same : id = conn.id
    · subst same
      rw [Function.update_self]
      exact List.subset_cons_self _ _
    · rw [Function.update_of_ne same]
      exact List.Subset.refl _
  · obtain ⟨kept, keptMember, sameId, sameFd⟩ := Connections.mem_update
      conn.id rest conn.lastActiveMs member
    refine .inr ⟨kept, keptMember, sameFd, line, ?_, registers⟩
    rw [sameId, Function.update_self]
    exact List.mem_cons_self

/-! ## One piece of work -/

/-- What does not touch the links and keeps the connections keeps both links live. -/
theorem LinksLive.keep {s : Daemon δ × Received} (live : LinksLive s) {d : Daemon δ}
    {received : Received} (pmcFd : d.ctx.pmcFd = s.1.ctx.pmcFd) (tmcFd : d.ctx.tmcFd = s.1.ctx.tmcFd)
    (stay : ∀ conn ∈ s.1.conns.list,
      ∃ kept ∈ d.conns.list, kept.id = conn.id ∧ kept.fd = conn.fd)
    (grow : ∀ id, s.2 id ⊆ received id) : LinksLive (d, received) where
  pmc := by
    change LinkLive d.conns received _ d.ctx.pmcFd
    rw [pmcFd]
    exact live.pmc.mono (fun conn member _ => stay conn member) grow
  tmc := by
    change LinkLive d.conns received _ d.ctx.tmcFd
    rw [tmcFd]
    exact live.tmc.mono (fun conn member _ => stay conn member) grow

/-- Closing a connection that is no controller's keeps both links live. -/
theorem LinksLive.close {s : Daemon δ × Received} (live : LinksLive s) {id : ℕ}
    (other : ∀ conn ∈ s.1.conns.list, conn.id = id → isControllerFd s.1.ctx conn.fd = false) :
    LinksLive (closeConnection s.1 id, s.2) where
  pmc := live.pmc.close fun conn member same =>
    (isControllerFd_eq_false (other conn member same)).1
  tmc := live.tmc.close fun conn member same =>
    (isControllerFd_eq_false (other conn member same)).2

/-- Closing a connection and dropping its links keeps both links live. -/
theorem LinksLive.drop {d : Daemon δ} {received : Received} (live : LinksLive (d, received))
    {conn : Connection} (member : conn ∈ d.conns.list) :
    LinksLive (closeConnection { d with ctx := dropLinks d.ctx conn.fd } conn.id, received) where
  pmc := live.pmc.drop member
  tmc := live.tmc.drop member

/-- Popping and serving a line keeps both links live. -/
theorem LinksLive.pop {s : Daemon δ × Received} (live : LinksLive s) (id : ℕ) (nowMs : ℤ)
    (writeOk : Bool) : LinksLive (receivingMachine.step s (.pop id nowMs writeOk)).1 := by
  change LinksLive ((popConnection s.1 id nowMs writeOk).1, noteReceived s.1 _ s.2)
  rcases popConnection_cases s.1 id nowMs writeOk with same | ⟨conn, line, rest, pops, same⟩
  · rw [same]
    exact live.keep rfl rfl (fun conn member => ⟨conn, member, rfl, rfl⟩)
      (subset_noteReceived s.1 _ s.2)
  · rw [same, noteReceived_pop pops]
    obtain ⟨member, rfl, popped⟩ := pops
    have links := handleOneLine_links conn.fd s.1.ctx line nowMs writeOk
    have gives := handleOneLine_gives_up conn.fd s.1.ctx line nowMs writeOk
    have received : LinksLive
        ({ afterServing s.1 conn line rest nowMs writeOk with
            ctx := (handleOneLine conn.fd s.1.ctx line nowMs writeOk).ctx },
          Function.update s.2 conn.id (line :: s.2 conn.id)) :=
      ⟨live.pmc.receive member links.pmc, live.tmc.receive member links.tmc⟩
    obtain ⟨kept, keptMember, sameId, sameFd⟩ := Connections.mem_update
      conn.id rest conn.lastActiveMs member
    by_cases failed : givesUp conn.fd s.1.ctx line writeOk = true
    · have dropped := received.drop keptMember
      rw [sameId, sameFd] at dropped
      rw [if_pos failed]
      simpa only [afterServing, serveLine, if_pos (gives.mpr failed)] using dropped
    · rw [if_neg failed]
      simpa only [afterServing, serveLine, if_neg (mt gives.mp failed)] using received

/-- **A piece of work keeps both links live** unless it closes a controller's connection behind
their back. -/
theorem receivingMachine_links (s : Daemon δ × Received) (input : DaemonInput)
    (live : LinksLive s) (kept : KeepsControllers s input) :
    LinksLive (receivingMachine.step s input).1 := by
  cases input with
  | accept fd nowMs setUp =>
      change LinksLive (acceptConnection s.1 fd nowMs setUp, s.2)
      rcases acceptConnection_cases s.1 fd nowMs setUp with same | ⟨closed, same⟩
      · rw [same]
        exact live
      · rw [same]
        exact live.keep rfl rfl
          (fun conn member => ⟨conn, List.mem_cons_of_mem _ member, rfl, rfl⟩)
          fun _ => List.Subset.refl _
  | feed id data nowMs =>
      change LinksLive (feedConnection s.1 id data nowMs, s.2)
      rcases feedConnection_cases s.1 id data nowMs with
        same | ⟨conn, member, rfl, ⟨long, same⟩ | ⟨session, same⟩⟩
      · rw [same]
        exact live
      · rw [same]
        apply live.close
        intro other otherMember sameId
        rw [Connections.eq_of_id otherMember member sameId]
        exact kept conn member rfl long
      · rw [same]
        exact live.keep rfl rfl (fun conn member => Connections.mem_update _ _ _ member)
          fun _ => List.Subset.refl _
  | pop id nowMs writeOk => exact live.pop id nowMs writeOk
  | hangUp id =>
      change LinksLive (hangUpConnection s.1 id, s.2)
      rcases hangUpConnection_cases s.1 id with same | ⟨conn, member, rfl, same⟩
      · rw [same]
        exact live
      · rw [same]
        exact live.drop member
  | runScheduler healthMs createdMs writeOk =>
      obtain ⟨pmcFd, tmcFd⟩ := runScheduler_fds s.1.ctx healthMs createdMs writeOk
      exact live.keep pmcFd tmcFd (fun conn member => ⟨conn, member, rfl, rfl⟩)
        fun _ => List.Subset.refl _
  | sweepRequests nowMs =>
      exact live.keep rfl rfl (fun conn member => ⟨conn, member, rfl, rfl⟩)
        fun _ => List.Subset.refl _
  | scanConnections nowMs =>
      change LinksLive (scanConnectionTimeout s.1 nowMs, s.2)
      have all := scanConnectionTimeout_preserves
        (I := fun d => LinksLive (d, s.2) ∧ KeepsControllers (d, s.2) (.scanConnections nowMs))
        nowMs ?_ ⟨live, kept⟩
      · exact all.1
      · rintro d conn ⟨live, kept⟩ member entry idle
        refine ⟨live.close fun other otherMember same => ?_, fun other otherMember inTable => ?_⟩
        · rw [Connections.eq_of_id otherMember member same]
          exact kept conn member entry idle
        · exact kept other (Connections.mem_close.mp otherMember).1
            (unregisterConnection_subset _ _ inTable)

/-- **In every run** in which no idle scan and no session overflow closes a controller's
connection, both links are live in every state reached. -/
theorem links_live (inputs : List DaemonInput)
    (kept : receivingMachine.Along KeepsControllers
      ((daemonInit, fun _ => []) : Daemon δ × Received) inputs) :
    ∀ before, before <+: inputs →
      LinksLive
        (receivingMachine.run ((daemonInit, fun _ => []) : Daemon δ × Received) before) := by
  intro before isPrefix
  exact Machine.invariant_along receivingMachine_links ⟨.inl rfl, .inl rfl⟩
    (kept.of_prefix isPrefix)

end Links

/-- A process controller connects on descriptor 5 and registers. -/
def controllerRegisters : List DaemonInput :=
  [.accept 5 0 true, .feed 0 (ascii "REQ REGISTER seq=1\n") 10, .pop 0 10 true]

/-- The state before anything happened. -/
def quietStart : Daemon ℚ × Received := (daemonInit, fun _ => [])

/-- After a sweep and a scan ten seconds later the links are live. -/
theorem links_live_registered :
    LinksLive (receivingMachine.run quietStart
      (controllerRegisters ++ [.sweepRequests 10000, .scanConnections 10000])) :=
  links_live _ (by decide) _ (List.prefix_refl _)

/-- A scan more than a minute after the last read closes the controller's connection and leaves
its descriptor in `pmc_fd`. -/
theorem idle_controller_link :
    ¬ LinksLive (receivingMachine.run quietStart
      (controllerRegisters ++ [.scanConnections 60011])) := by
  intro live
  rcases live.pmc with none | ⟨conn, member, _⟩
  · exact absurd none (by decide)
  · have closed : (receivingMachine.run quietStart
        (controllerRegisters ++ [.scanConnections 60011])).1.conns.list = [] := by rfl
    rw [closed] at member
    cases member

end EquipmentControl
