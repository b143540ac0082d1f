import EquipmentControl.Plant.ClientExchange

/-!
# From the clients to the simulators and back

equipmentd, the process controller and its simulators as one machine. Between equipmentd and the
controller lines are kept in order both ways, and everybody handles the next line at any time. The
controller's registration is the first line on its way.

What equipmentd has pending for its clients is what is on its way (`EquipmentInvariant.balance`). As
long as nothing fails and no request waits too long, every client gets as many responses with a
sequence number and a device as it has asked requests with them, from equipmentd, from the
controller or from a simulator (`clients_answered_once`). The keys are counted, not the contents:
two clients that use one key at a time may get each other's response.
-/

set_option autoImplicit false

namespace EquipmentControl

open InputMachine

/-! ## The machine -/

/-- equipmentd, the station, and the lines on their way between the two. -/
structure Equipment (κ δ τ : Type) where
  ctx : AppCtx δ
  station : Station κ δ τ
  toStation : List Bytes
  toEqd : List Bytes

/-- What happens: equipmentd is given a line of a client, runs its scheduler, sweeps its tracker or
serves the next line of the controller; the controller serves the next line of equipmentd or of a
simulator; a simulator takes a turn. -/
inductive EquipmentInput (κ : Type) where
  | client (fd : ℤ) (text : Bytes) (nowMs : ℤ)
  | runScheduler (healthMs createdMs : ℤ)
  | sweepRequests (nowMs : ℤ)
  | controller (nowMs : ℤ)
  | request (writeOk : ℤ → Bool)
  | deliver (i : κ) (writeOk : ℤ → Bool)
  | simTurn (i : κ) (lines : ℕ)

section Machine

variable {κ δ τ : Type}

/-- What equipmentd does: what it writes to the controller is on its way, and the clients get the
rest. -/
def Equipment.served (s : Equipment κ δ τ) (pmcFd : ℤ) (ctx : AppCtx δ)
    (wrote : Option (ℤ × Bytes)) : Equipment κ δ τ × List (ℤ × Bytes) :=
  ({ s with ctx := ctx, toStation := s.toStation ++ sentOn pmcFd wrote },
    wrote.toList.filter fun sent => decide (sent.1 ≠ pmcFd))

variable [CDouble δ] [DecidableEq κ] (w : Wiring κ) (io : SerialPort τ) (pmcFd : ℤ)

/-- What the station does: equipmentd is sent what it puts out. -/
def Equipment.moved (s : Equipment κ δ τ) (input : StationInput κ) : Equipment κ δ τ :=
  { s with
    station := ((stationMachine w io).step s.station input).1
    toEqd := s.toEqd ++ ((stationMachine w io).step s.station input).2 }

/-- The equipment from one input to the next. Its outputs are the lines written to clients. -/
def equipmentMachine : Machine (Equipment κ δ τ) (EquipmentInput κ) (List (ℤ × Bytes)) where
  step s input :=
    match input with
    | .client fd text nowMs =>
        let served := serveLine fd s.ctx text nowMs true
        s.served pmcFd served.ctx served.wrote
    | .runScheduler healthMs createdMs =>
        let turn := runScheduler s.ctx healthMs createdMs true
        s.served pmcFd turn.1 turn.2
    | .sweepRequests nowMs =>
        ({ s with ctx :=
          { s.ctx with tracker := requestTrackerSweepTimeouts s.ctx.tracker nowMs } }, [])
    | .controller nowMs =>
        match s.toEqd with
        | [] => (s, [])
        | line :: rest =>
            let served := serveLine pmcFd s.ctx line nowMs true
            { s with toEqd := rest }.served pmcFd served.ctx served.wrote
    | .request writeOk =>
        match s.toStation with
        | [] => (s, [])
        | line :: rest => ({ s with toStation := rest }.moved w io (.request line writeOk), [])
    | .deliver i writeOk => (s.moved w io (.deliver i writeOk), [])
    | .simTurn i lines => (s.moved w io (.simTurn i lines), [])

/-- The REGISTER that the controller sends when it has connected. -/
def controllerRegister : Message δ := { role := .req, type := .register, seq := some 1 }

/-- The controller has connected to equipmentd, and the simulators to the controller. -/
def equipmentStart (aux : Aux τ) : Equipment κ δ τ where
  ctx := (daemonInit : Daemon δ).ctx
  station := stationStart w aux
  toStation := []
  toEqd := [lineText (controllerRegister : Message δ) ++ [10]]

end Machine

/-! ## Lines on their way -/

section Lines

variable {κ δ τ : Type} [CDouble δ] {w : Wiring κ}

/-- A line that equipmentd sends to the controller: a request, or the answer to its registration. -/
def StationLine (δ : Type) [CDouble δ] (line : Bytes) : Prop :=
  10 ∉ line.dropLast ∧ ∀ m ∈ (lineParse line : Option (Message δ)),
    m.type = .register ∨ m.role = .req ∧ NoTelemetry m

/-- The line of a message whose texts hold no line feeds holds none. -/
theorem Relayable.newline {m : Message δ} (relayable : Relayable m) : 10 ∉ lineText m := by
  intro member
  rcases lineText_byte_cases member with clean | blank | ⟨word, isKey, inside⟩
  · exact absurd clean (by decide)
  · exact absurd blank (by decide)
  rcases relayable.byte_cases isKey inside with clean | ⟨state, present, inState⟩ |
    ⟨msg, present, inMsg⟩
  · exact absurd clean (by decide)
  · exact (relayable.state state present 10 inState).2 rfl
  · exact (relayable.msg msg present 10 inMsg).2 rfl

/-- A plain answer is a line of the controller. -/
theorem controllerLine_plain {out : Message δ} (plain : Plain out) (role : out.role = .resp)
    (known : out.type ≠ .register ∧ out.type ≠ .unknown) :
    ControllerLine δ (lineText out ++ [10]) := by
  intro m parsed
  cases (plain.lineParse_lineText (by rw [role]; decide) known.2).symm.trans parsed
  refine .inr (.inr ⟨role, known.1, plain.noTelemetry, ?_⟩)
  rw [List.dropLast_concat]
  intro member
  exact absurd (plain.not_isCrlf member) (by decide)

/-- What the controller writes for a line of a simulator is the line of its message. -/
theorem pmcServeLine_sim_relays (io : SerialPort τ) {pmc : Pmc τ} {id : ℕ} {line : Bytes}
    {writeOk : ℤ → Bool}
    (notEqd : ∀ conn, pmcFindConn pmc.conns id = some conn → conn.type ≠ .eqd) :
    ∀ sent ∈ (pmcServeLine δ io pmc id line writeOk).2, ∃ m : Message δ,
      lineParse line = some m ∧ sent.2 = lineText m ++ [10] := by
  intro sent wrote
  rw [pmcServeLine_message] at wrote
  cases parsed : (lineParse line : Option (Message δ)) with
  | none =>
      rw [parsed] at wrote
      cases wrote
  | some m =>
  rw [parsed] at wrote
  dsimp only at wrote
  have step := pmcServeMessage_step io pmc id m writeOk
  generalize pmcServeMessage io pmc id m writeOk = result at step wrote
  cases step with
  | nothing => cases wrote
  | registers => cases wrote
  | eqd conn found _ isEqd => exact absurd isEqd (notEqd conn found)
  | sim conn =>
      have relays : ∀ sent ∈ (pmcRouteSim pmc conn m writeOk).wrote,
          sent.2 = lineText m ++ [10] := by
        intro sent member
        rw [pmcRouteSim] at member
        split at member
        · cases member
        · rw [pmcSend_wrote] at member
          rw [pmcIoSendMessage_some member]
      exact ⟨m, rfl, relays sent wrote⟩

variable [DecidableEq κ]

/-- **What the station puts out** are lines of the controller. -/
theorem stationMachine_lines (prints : ∀ x : δ, Clean (CDouble.fixed2 x)) (io : SerialPort τ)
    {s : Station κ δ τ} {input : StationInput κ} (holds : StationInvariant w s)
    (allowed : Requests δ w input) :
    ∀ line ∈ ((stationMachine w io).step s input).2, ControllerLine δ line := by
  cases input with
  | request line writeOk =>
      intro out member
      simp only [stationMachine] at member
      rcases pmcServeLine_eqd (δ := δ) io holds.wired line writeOk with
        ⟨_, idle⟩ | ⟨eqd, isEqd, m, parsed, noRegister, served⟩
      · rw [idle] at member
        cases member
      have outcome := pmcRouteEqd_served prints io holds.wired isEqd m allowed.1
      rw [served] at member
      generalize (pmcRouteEqd io s.pmc eqd m writeOk).wrote = wrote at outcome member
      cases outcome with
      | answered answer answers =>
          simp only [Station.served] at member
          rw [sentOn_some, if_pos rfl, List.mem_singleton] at member
          subst member
          refine controllerLine_plain answers.plain answers.role ?_
          rcases answers.type with isError | isStatus
          · rw [isError]
            decide
          · rw [isStatus]
            decide
      | passed i sim dev =>
          simp only [Station.served] at member
          rw [sentOn_some, if_neg (w.simFd_ne i)] at member
          cases member
  | deliver i writeOk =>
      intro out member
      simp only [stationMachine] at member
      split at member
      · cases member
      rename_i line rest waiting
      obtain ⟨conn, found, isSim⟩ := holds.wired.findConn_sim i
      have notEqd : ∀ other, pmcFindConn s.pmc.conns (w.simId i) = some other →
          other.type ≠ .eqd := by
        intro other same isEqd
        cases found.symm.trans same
        cases registered : conn.registered with
        | false => cases (isSim.unregistered registered).symm.trans isEqd
        | true => cases (isSim.registered registered).1.symm.trans isEqd
      obtain ⟨sent, wrote, rfl⟩ : ∃ sent ∈ (pmcServeLine δ io s.pmc (w.simId i) line writeOk).2,
          sent.2 = out := by
        obtain ⟨sent, kept, same⟩ := List.mem_map.mp member
        exact ⟨sent, Option.mem_toList.mp (List.mem_of_mem_filter kept), same⟩
      obtain ⟨m, parsed, same⟩ := pmcServeLine_sim_relays (δ := δ) io notEqd sent wrote
      obtain ⟨message, sends, rfl⟩ := holds.lines i line (by rw [waiting]; exact List.mem_cons_self)
      rw [same]
      by_cases isResp : m.role = .resp
      · obtain ⟨rfl, _⟩ := sends.parsed parsed (.inr isResp)
        cases sends with
        | response out response =>
            exact controllerLine_plain response.plain response.role
              ⟨response.type.1, response.type.2.2⟩
        | _ => cases isResp
      · intro again parsedAgain
        have role := (lineParse_lineText_head parsedAgain).1
        have first := (lineParse_lineText_head parsed).1
        refine .inr (.inl ?_)
        rw [role, first]
        rw [first] at isResp
        cases sends with
        | response out response => exact absurd response.role isResp
        | _ => rfl
  | simTurn i lines =>
      intro out member
      cases member

/-- The controller ignores the answer to its registration. -/
theorem stationMachine_register (io : SerialPort τ) {s : Station κ δ τ} {line : Bytes}
    (holds : StationInvariant w s) {m : Message δ} (parsed : lineParse line = some m)
    (isRegister : m.type = .register) (writeOk : ℤ → Bool) :
    (stationMachine w io).step s (.request line writeOk) = (s, []) := by
  simp only [stationMachine]
  rcases pmcServeLine_eqd (δ := δ) io holds.wired line writeOk with
    ⟨_, idle⟩ | ⟨eqd, _, other, otherParsed, noRegister, _⟩
  · rw [idle]
    simp only [Station.served, sentOn_none, List.append_nil]
  · cases parsed.symm.trans otherParsed
    exact absurd isRegister noRegister

end Lines

/-! ## The invariant -/

section Invariant

variable {κ δ τ : Type} [CDouble δ] [DecidableEq κ] [Fintype κ] {w : Wiring κ} {pmcFd : ℤ}

/-- What holds of the equipment: who is connected to equipmentd, what is on its way between it and
the controller, and that its pending requests are those on their way. -/
structure EquipmentInvariant (w : Wiring κ) (pmcFd : ℤ) (s : Equipment κ δ τ) : Prop where
  station : StationInvariant w s.station
  addressed : Addressed w s.station
  dormant : Dormant s.ctx
  noTmc : s.ctx.tmcFd < 0
  pmc : s.ctx.pmcFd = pmcFd ∨ s.ctx.pmcFd < 0 ∧ ∀ i, (s.ctx.tracker i).valid = false
  clients : ∀ i, (s.ctx.tracker i).valid = true →
    0 ≤ (s.ctx.tracker i).clientFd ∧ (s.ctx.tracker i).clientFd ≠ pmcFd
  toStation : ∀ line ∈ s.toStation, StationLine δ line
  toEqd : ∀ line ∈ s.toEqd, ControllerLine δ line
  balance : (pendingKeys s.ctx.tracker).map Prod.snd =
    linesKeys δ .req s.toStation + s.station.owed + linesKeys δ .resp s.toEqd

/-- Nothing goes wrong: a client is no controller, sends one line of its own at a time, and finds a
free slot; no request waits too long; the lines of the controller are accepted; and the controller
can write to equipmentd. -/
def Undisturbed (w : Wiring κ) (pmcFd : ℤ) (s : Equipment κ δ τ) : EquipmentInput κ → Prop
  | .client fd text _ => 0 ≤ fd ∧ fd ≠ pmcFd ∧ ClientLine δ text ∧
      ∃ i, (s.ctx.tracker i).valid = false
  | .sweepRequests nowMs => ∀ i, (s.ctx.tracker i).valid = true →
      ¬ (s.ctx.tracker i).Overdue nowMs
  | .controller _ => ∀ line ∈ s.toEqd.head?, (lineParse line : Option (Message δ)).isSome
  | .request writeOk | .deliver _ writeOk => writeOk w.eqdFd = true
  | .runScheduler _ _ | .simTurn _ _ => True

/-- What the clients ask for in an input. -/
def askedKeys (δ : Type) [CDouble δ] : EquipmentInput κ → Multiset (ℤ × RequestKey)
  | .client fd text _ => clientKeys δ fd text
  | _ => 0

/-- What the equipment owes its clients. -/
def Equipment.pending (s : Equipment κ δ τ) : Multiset (ℤ × RequestKey) := pendingKeys s.ctx.tracker

omit [CDouble δ] [DecidableEq κ] [Fintype κ] in
theorem toClients_some {fd : ℤ} {line : Bytes} (differs : fd ≠ pmcFd) :
    (some (fd, line)).toList.filter (fun sent => decide (sent.1 ≠ pmcFd)) = [(fd, line)] := by
  simp [differs]

/-- A slot is taken for a client. -/
theorem clients_taken {t : RequestTracker} {i : Fin requestTrackerMax} {slot : PendingRequest}
    (clients : ∀ j, (t j).valid = true → 0 ≤ (t j).clientFd ∧ (t j).clientFd ≠ pmcFd)
    (client : slot.valid = true → 0 ≤ slot.clientFd ∧ slot.clientFd ≠ pmcFd) :
    ∀ j, (Function.update t i slot j).valid = true →
      0 ≤ (Function.update t i slot j).clientFd ∧ (Function.update t i slot j).clientFd ≠ pmcFd := by
  intro j
  by_cases here : j = i
  · subst here
    rw [Function.update_self]
    exact client
  · rw [Function.update_of_ne here]
    exact clients j

/-- **A line of a client** keeps the invariant, and is answered or pending. -/
theorem client_exchanged (io : SerialPort τ) {s : Equipment κ δ τ}
    (holds : EquipmentInvariant w pmcFd s) {fd : ℤ} {text : Bytes} {nowMs : ℤ}
    (allowed : Undisturbed w pmcFd s (.client fd text nowMs)) :
    EquipmentInvariant w pmcFd ((equipmentMachine w io pmcFd).step s (.client fd text nowMs)).1 ∧
      (equipmentMachine w io pmcFd).Balanced Equipment.pending (askedKeys δ) (replyKeys δ) s
        (.client fd text nowMs) := by
  obtain ⟨there, client, isLine, free⟩ := allowed
  have notController : isControllerFd s.ctx fd = false := by
    have notPmc : fd ≠ s.ctx.pmcFd := by
      rcases holds.pmc with same | ⟨lost, _⟩
      · exact same ▸ client
      · exact fun same => absurd there (not_le.mpr (same ▸ lost))
    have notTmc : fd ≠ s.ctx.tmcFd := fun same => absurd there (not_le.mpr (same ▸ holds.noTmc))
    simp [isControllerFd, notPmc, notTmc]
  have served := clientLine_served isLine notController holds.noTmc
    (requestTrackerAlloc_ne_none_iff.mpr free) nowMs
  have dormant := (serveLine_dormant holds.dormant fd text nowMs true).1
  simp only [equipmentMachine, Machine.Balanced, askedKeys, Equipment.pending]
  generalize serveLine fd s.ctx text nowMs true = result at served dormant ⊢
  cases served with
  | silent reg noKey =>
      simp only [Equipment.served, sentOn_none, List.append_nil]
      refine ⟨{ holds with dormant := dormant }, ?_⟩
      rw [noKey]
      rfl
  | replied out answers =>
      have elsewhere : sentOn pmcFd (some (fd, lineText out ++ [10])) = [] :=
        (sentOn_some _ _).trans (if_neg client)
      simp only [Equipment.served, elsewhere, List.append_nil, toClients_some client]
      exact ⟨holds, congrArg (pendingKeys s.ctx.tracker + ·) answers⟩
  | forwarded m seq dev i parsed role type hasSeq hasDev attached free =>
      have isPmc : s.ctx.pmcFd = pmcFd :=
        holds.pmc.resolve_right fun lost => absurd attached (not_le.mpr lost.1)
      have bare := (isLine.2 m parsed).2 role
      have noRegister : m.type ≠ .register := by
        intro isRegister
        rw [isRegister] at type
        cases type
      have onLink : sentOn pmcFd (some (s.ctx.pmcFd, lineText m ++ [10])) = [lineText m ++ [10]] :=
        (sentOn_some _ _).trans (if_pos isPmc)
      have noReply : (some (s.ctx.pmcFd, lineText m ++ [10])).toList.filter
          (fun sent => decide (sent.1 ≠ pmcFd)) = [] := by
        simp [isPmc]
      have key : lineKeys δ .req (lineText m ++ [10]) = {(some seq, some dev)} := by
        rw [passed_keys parsed isLine.1 bare .req, lineKeys_some .req parsed,
          if_pos ⟨role, noRegister⟩, hasSeq, hasDev]
      have slot := pendingKeys_taken free (clientRequest fd seq dev m.type nowMs)
      have slotKey : slotKeys (clientRequest fd seq dev m.type nowMs) =
          {(fd, some seq, some dev)} := slotKeys_valid rfl
      simp only [Equipment.served, onLink, noReply]
      refine ⟨⟨holds.station, holds.addressed, dormant, holds.noTmc, .inl isPmc, ?_, ?_,
        holds.toEqd, ?_⟩, ?_⟩
      · exact clients_taken holds.clients fun _ => ⟨there, client⟩
      · intro line member
        rcases List.mem_append.mp member with old | new
        · exact holds.toStation line old
        rw [List.mem_singleton.mp new]
        refine ⟨?_, ?_⟩
        · rw [List.dropLast_concat]
          exact (lineParse_relayable parsed isLine.1 bare).newline
        · intro out outParsed
          cases (passed_message parsed isLine.1 bare).symm.trans outParsed
          exact .inr ⟨(relayed_head m).1.trans role,
            (lineParse_relayable parsed isLine.1 bare).relayed.toNoTelemetry⟩
      · rw [slot, Multiset.map_add, holds.balance, slotKey, linesKeys_append, linesKeys_cons,
          linesKeys_nil, add_zero, key, Multiset.map_singleton]
        abel
      · rw [slot, slotKey, clientKeys_some parsed, if_pos role, hasSeq, hasDev, replyKeys_nil,
          add_zero]

/-- **A line of the controller** keeps the invariant, and an answer takes what it answers off the
pending requests. -/
theorem controller_exchanged (io : SerialPort τ) {s : Equipment κ δ τ}
    (holds : EquipmentInvariant w pmcFd s) {nowMs : ℤ}
    (allowed : Undisturbed w pmcFd s (.controller nowMs)) :
    EquipmentInvariant w pmcFd ((equipmentMachine w io pmcFd).step s (.controller nowMs)).1 ∧
      (equipmentMachine w io pmcFd).Balanced Equipment.pending (askedKeys δ) (replyKeys δ) s
        (.controller nowMs) := by
  simp only [equipmentMachine, Machine.Balanced, askedKeys, Equipment.pending]
  split
  · exact ⟨holds, rfl⟩
  rename_i line rest waiting
  have inEqd : ∀ other ∈ rest, other ∈ s.toEqd := fun other member => by
    rw [waiting]
    exact List.mem_cons_of_mem line member
  have balance := holds.balance
  rw [waiting, linesKeys_cons] at balance
  have owed : lineKeys δ .resp line ≤ (pendingKeys s.ctx.tracker).map Prod.snd := by
    rw [balance]
    exact (Multiset.le_add_right _ _).trans (Multiset.le_add_left _ _)
  have controller : (∃ i, (s.ctx.tracker i).valid = true) → isControllerFd s.ctx pmcFd = true := by
    rintro ⟨i, valid⟩
    rcases holds.pmc with same | ⟨_, free⟩
    · simp [isControllerFd, same]
    · cases (free i).symm.trans valid
  have served := controllerLine_served (holds.toEqd line (by rw [waiting]; exact List.mem_cons_self))
    (allowed line (by rw [waiting]; rfl)) owed controller (fun i valid => (holds.clients i valid).1)
    nowMs
  have dormant := (serveLine_dormant holds.dormant pmcFd line nowMs true).1
  generalize serveLine pmcFd s.ctx line nowMs true = result at served dormant ⊢
  cases served with
  | attached out type noKey newline parsed =>
      have onLink : sentOn pmcFd (some (pmcFd, lineText out ++ [10])) = [lineText out ++ [10]] :=
        (sentOn_some _ _).trans (if_pos rfl)
      have noRequest : lineKeys δ .req (lineText out ++ [10]) = 0 := by
        rw [lineKeys_some .req parsed]
        exact if_neg fun both => both.2 type
      have noReply : (some (pmcFd, lineText out ++ [10])).toList.filter
          (fun sent => decide (sent.1 ≠ pmcFd)) = [] := by
        simp
      simp only [Equipment.served, onLink, noReply]
      refine ⟨⟨holds.station, holds.addressed, dormant, holds.noTmc, .inl rfl, holds.clients, ?_,
        fun other member => holds.toEqd other (inEqd other member), ?_⟩, rfl⟩
      · intro other member
        rcases List.mem_append.mp member with old | new
        · exact holds.toStation other old
        rw [List.mem_singleton.mp new]
        refine ⟨newline, fun m same => ?_⟩
        cases parsed.symm.trans same
        exact .inl type
      · rw [balance, noKey, zero_add, linesKeys_append, linesKeys_cons, noRequest, linesKeys_nil,
          add_zero, add_zero]
  | recorded reg noKey =>
      simp only [Equipment.served, sentOn_none, List.append_nil]
      refine ⟨⟨holds.station, holds.addressed, dormant, holds.noTmc, holds.pmc, holds.clients,
        holds.toStation, fun other member => holds.toEqd other (inEqd other member), ?_⟩, rfl⟩
      rw [balance, noKey, zero_add]
  | relayed m i valid owner answers =>
      obtain ⟨_, client⟩ := holds.clients i valid
      have elsewhere : sentOn pmcFd (some ((s.ctx.tracker i).clientFd, lineText m ++ [10])) = [] :=
        (sentOn_some _ _).trans (if_neg client)
      have isPmc : s.ctx.pmcFd = pmcFd := holds.pmc.resolve_right fun lost => by
        cases (lost.2 i).symm.trans valid
      have freed := pendingKeys_freed s.ctx.tracker i
      simp only [Equipment.served, elsewhere, List.append_nil, toClients_some client]
      rw [finishResponse_tracker, answers, freed]
      refine ⟨⟨holds.station, holds.addressed, dormant, ?_, .inl ?_, ?_, holds.toStation,
        fun other member => holds.toEqd other (inEqd other member), ?_⟩, (add_zero _).symm⟩
      · exact (finishResponse_fds s.ctx m i).2 ▸ holds.noTmc
      · exact (finishResponse_fds s.ctx m i).1.trans isPmc
      · rw [finishResponse_tracker]
        exact clients_taken holds.clients (by rintro ⟨⟩)
      · rw [← freed, Multiset.map_add, slotKeys_valid valid, Multiset.map_singleton, owner] at balance
        rw [finishResponse_tracker]
        refine add_right_cancel (balance.trans ?_)
        abel

/-- **The station** keeps the invariant and puts out what it takes in. -/
theorem station_exchanged (prints : ∀ x : δ, Clean (CDouble.fixed2 x)) (io : SerialPort τ)
    {s : Equipment κ δ τ} (holds : EquipmentInvariant w pmcFd s) (input : StationInput κ)
    (allowed : Requests δ w input) {rest : List Bytes} (shorter : ∀ line ∈ rest, line ∈ s.toStation)
    (taken : linesKeys δ .req s.toStation = requestKeys δ input + linesKeys δ .req rest) :
    EquipmentInvariant w pmcFd ({ s with toStation := rest }.moved w io input) := by
  obtain ⟨addressed, balanced⟩ :=
    stationMachine_balanced prints io s.station input holds.station holds.addressed allowed
  have lines := stationMachine_lines prints io holds.station allowed
  refine ⟨stationMachine_invariant io s.station input holds.station, addressed, holds.dormant,
    holds.noTmc, holds.pmc, holds.clients,
    fun line member => holds.toStation line (shorter line member), ?_, ?_⟩
  · intro line member
    exact (List.mem_append.mp member).elim (holds.toEqd line) (lines line)
  · have balance := holds.balance
    rw [taken] at balance
    change (pendingKeys s.ctx.tracker).map Prod.snd = linesKeys δ .req rest +
      ((stationMachine w io).step s.station input).1.owed +
      linesKeys δ .resp (s.toEqd ++ ((stationMachine w io).step s.station input).2)
    have step : ((stationMachine w io).step s.station input).1.owed +
        linesKeys δ .resp ((stationMachine w io).step s.station input).2 =
        s.station.owed + requestKeys δ input := balanced
    rw [balance, linesKeys_append]
    calc requestKeys δ input + linesKeys δ .req rest + s.station.owed + linesKeys δ .resp s.toEqd
        = linesKeys δ .req rest + linesKeys δ .resp s.toEqd +
            (s.station.owed + requestKeys δ input) := by abel
      _ = _ := by rw [← step]; abel

/-- **One input keeps the invariant, and nothing that is asked is lost or answered twice.** -/
theorem equipmentMachine_exchanged (prints : ∀ x : δ, Clean (CDouble.fixed2 x))
    (io : SerialPort τ) (s : Equipment κ δ τ) (input : EquipmentInput κ)
    (holds : EquipmentInvariant w pmcFd s) (allowed : Undisturbed w pmcFd s input) :
    EquipmentInvariant w pmcFd ((equipmentMachine w io pmcFd).step s input).1 ∧
      (equipmentMachine w io pmcFd).Balanced Equipment.pending (askedKeys δ) (replyKeys δ) s
        input := by
  cases input with
  | client fd text nowMs => exact client_exchanged io holds allowed
  | controller nowMs => exact controller_exchanged io holds allowed
  | runScheduler healthMs createdMs =>
      simp only [equipmentMachine, Machine.Balanced, askedKeys, Equipment.pending]
      rw [runScheduler_dormant holds.dormant]
      simp only [Equipment.served, sentOn_none, List.append_nil]
      refine ⟨{ holds with dormant := ?_ }, rfl⟩
      exact ⟨holds.dormant.unrecorded.refresh healthMs, holds.dormant.resting, holds.dormant.seq,
        holds.dormant.clients⟩
  | sweepRequests nowMs =>
      have kept : requestTrackerSweepTimeouts s.ctx.tracker nowMs = s.ctx.tracker := by
        funext i
        rw [requestTrackerSweepTimeouts]
        split
        · rename_i swept
          simp only [Bool.and_eq_true, decide_eq_true_eq] at swept
          exact absurd swept.2 (allowed i swept.1)
        · rfl
      simp only [equipmentMachine, Machine.Balanced, askedKeys, Equipment.pending]
      rw [kept]
      exact ⟨holds, rfl⟩
  | request writeOk =>
      simp only [equipmentMachine, Machine.Balanced, askedKeys, Equipment.pending]
      split
      · exact ⟨holds, rfl⟩
      rename_i line rest waiting
      refine ⟨?_, rfl⟩
      obtain ⟨newline, isLine⟩ := holds.toStation line (by rw [waiting]; exact List.mem_cons_self)
      have shorter : ∀ other ∈ rest, other ∈ s.toStation := fun other member => by
        rw [waiting]
        exact List.mem_cons_of_mem line member
      by_cases isRegister : ∃ m : Message δ, lineParse line = some m ∧ m.type = .register
      · obtain ⟨m, parsed, type⟩ := isRegister
        have noKey : lineKeys δ .req line = 0 := by
          rw [lineKeys_some .req parsed]
          exact if_neg fun both => both.2 type
        simp only [Equipment.moved, stationMachine_register io holds.station parsed type,
          List.append_nil]
        refine { holds with
          toStation := fun other member => holds.toStation other (shorter other member)
          balance := ?_ }
        have balance := holds.balance
        rwa [waiting, linesKeys_cons, noKey, zero_add] at balance
      · have requests : Requests δ w (.request line writeOk) := by
          refine ⟨allowed, newline, fun m parsed => ?_⟩
          exact (isLine m parsed).resolve_left fun type => isRegister ⟨m, parsed, type⟩
        refine station_exchanged prints io holds _ requests shorter ?_
        rw [waiting]
        exact linesKeys_cons .req line rest
  | deliver i writeOk =>
      refine ⟨station_exchanged prints io holds (.deliver i writeOk) allowed
        (fun _ member => member) (zero_add _).symm, rfl⟩
  | simTurn i lines =>
      refine ⟨station_exchanged prints io holds (.simTurn i lines) trivial
        (fun _ member => member) (zero_add _).symm, rfl⟩

omit [DecidableEq κ] in
/-- **What holds at the start.** -/
theorem equipmentStart_invariant (aux : Aux τ) :
    EquipmentInvariant w pmcFd (equipmentStart w aux : Equipment κ δ τ) where
  station := stationStart_invariant w aux
  addressed := by rintro i line ⟨⟩
  dormant := dormant_init
  noTmc := show (-1 : ℤ) < 0 by decide
  pmc := .inr ⟨show (-1 : ℤ) < 0 by decide, fun _ => rfl⟩
  clients i valid := by cases valid
  toStation := by rintro line ⟨⟩
  toEqd line member := by
    have plain : Plain (controllerRegister : Message δ) :=
      ⟨rfl, rfl, rfl, by rintro _ ⟨⟩, by rintro _ ⟨⟩⟩
    intro m parsed
    rw [List.mem_singleton.mp member] at parsed
    cases (plain.lineParse_lineText (show MsgRole.req ≠ .unknown by decide)
      (show MsgType.register ≠ .unknown by decide)).symm.trans parsed
    exact .inl ⟨rfl, rfl⟩
  balance := by
    have silent : lineKeys δ .resp (lineText (controllerRegister : Message δ) ++ [10]) = 0 :=
      lineKeys_formatted (show MsgRole.req ≠ .resp by decide)
    change (pendingKeys requestTrackerInit).map Prod.snd = linesKeys δ .req [] +
      (stationStart w aux : Station κ δ τ).owed +
      linesKeys δ .resp [lineText (controllerRegister : Message δ) ++ [10]]
    rw [pendingKeys_init, stationStart_owed, linesKeys_cons, silent]
    rfl

/-- Nothing is on its way anywhere. -/
def Equipment.Quiet (s : Equipment κ δ τ) : Prop :=
  s.toStation = [] ∧ s.toEqd = [] ∧ ∀ i, s.station.toSim i = [] ∧ s.station.toPmc i = []

omit [DecidableEq κ] in
/-- With nothing on its way nothing is pending. -/
theorem EquipmentInvariant.pending_quiet {s : Equipment κ δ τ}
    (holds : EquipmentInvariant w pmcFd s) (quiet : s.Quiet) : s.pending = 0 := by
  obtain ⟨toStation, toEqd, sims⟩ := quiet
  have owed : s.station.owed = 0 := by
    refine Finset.sum_eq_zero fun i _ => ?_
    rw [(sims i).1, (sims i).2]
    rfl
  have balance := holds.balance
  rw [toStation, toEqd, owed] at balance
  exact Multiset.map_eq_zero.mp balance

/-- **Every client gets as many responses with each key as it has asked requests**: in every
undisturbed run the keys of what the clients have asked are those of what they have been answered and
of what is pending, and with nothing on its way those of what they have been answered. -/
theorem clients_answered_once (prints : ∀ x : δ, Clean (CDouble.fixed2 x)) (io : SerialPort τ)
    (aux : Aux τ) (inputs : List (EquipmentInput κ))
    (along : (equipmentMachine w io pmcFd).Along (Undisturbed w pmcFd)
      (equipmentStart w aux : Equipment κ δ τ) inputs) :
    let s := (equipmentMachine w io pmcFd).run (equipmentStart w aux : Equipment κ δ τ) inputs
    let answers := (((equipmentMachine w io pmcFd).outputs
      (equipmentStart w aux : Equipment κ δ τ) inputs).map (replyKeys δ)).sum
    let asked := (inputs.map (askedKeys δ)).sum
    s.pending + answers = asked ∧ (s.Quiet → answers = asked) := by
  intro s answers asked
  have start : EquipmentInvariant w pmcFd (equipmentStart w aux : Equipment κ δ τ) :=
    equipmentStart_invariant aux
  have empty : (equipmentStart w aux : Equipment κ δ τ).pending = 0 := pendingKeys_init
  have balanced := Machine.along_of_invariant (I := EquipmentInvariant w pmcFd)
    (fun s input holds allowed => (equipmentMachine_exchanged prints io s input holds allowed).1)
    (fun s input holds allowed => (equipmentMachine_exchanged prints io s input holds allowed).2)
    start along
  have reached : EquipmentInvariant w pmcFd s := Machine.invariant_along
    (fun s input holds allowed => (equipmentMachine_exchanged prints io s input holds allowed).1)
    start along
  refine ⟨?_, fun quiet => ?_⟩
  · have balance := Machine.balanced_run balanced
    rwa [empty, zero_add] at balance
  · exact Machine.balanced_drained balanced empty (reached.pending_quiet quiet)

instance decidableQuiet (s : Equipment κ δ τ) : Decidable s.Quiet :=
  inferInstanceAs (Decidable (s.toStation = [] ∧ s.toEqd = [] ∧
    ∀ i, s.station.toSim i = [] ∧ s.station.toPmc i = []))

instance decidableUndisturbed (s : Equipment κ δ τ) :
    ∀ input, Decidable (Undisturbed w pmcFd s input)
  | .client fd text _ => inferInstanceAs (Decidable (0 ≤ fd ∧ fd ≠ pmcFd ∧
      (10 ∉ text.dropLast ∧ ∀ m ∈ (lineParse text : Option (Message δ)),
        isRegister m = false ∧ (m.role = .req → NoTelemetry m)) ∧
      ∃ i, (s.ctx.tracker i).valid = false))
  | .sweepRequests nowMs => inferInstanceAs (Decidable (∀ i, (s.ctx.tracker i).valid = true →
      ¬ (s.ctx.tracker i).Overdue nowMs))
  | .controller _ => inferInstanceAs (Decidable (∀ line ∈ s.toEqd.head?,
      (lineParse line : Option (Message δ)).isSome))
  | .request writeOk | .deliver _ writeOk =>
      inferInstanceAs (Decidable (writeOk w.eqdFd = true))
  | .runScheduler _ _ | .simTurn _ _ => isTrue trivial

end Invariant

/-- Both simulators and the controller register. Two clients ask with the same sequence number, one
for a START that a simulator answers, the other for a STATUS that the controller answers and for a
PING that equipmentd answers. -/
def threeAsked : List (EquipmentInput (Fin 2)) :=
  let writes : ℤ → Bool := fun _ => true
  twoSims.order.flatMap (fun i => [.deliver i writes, .deliver i writes]) ++
    [.controller 0, .request writes, .controller 1, .controller 2,
      .client 7 (ascii "REQ START dev=2 seq=3\n") 3,
      .client 8 (ascii "REQ STATUS dev=1 seq=3\n") 4, .client 8 (ascii "REQ PING seq=4\n") 5,
      .request writes, .request writes, .simTurn (Fin.last 1) 1, .deliver (Fin.last 1) writes,
      .deliver (Fin.last 1) writes, .deliver (Fin.last 1) writes, .controller 6, .controller 7,
      .controller 8, .controller 9]

/-- Each gets its answers. -/
theorem clients_answered_once_three :
    (((equipmentMachine twoSims auxDevicePort 5).outputs
      (equipmentStart twoSims ⟨plantCfg, ⟨false, []⟩⟩ : Equipment (Fin 2) ℚ AuxDevice)
      threeAsked).map (replyKeys ℚ)).sum = (threeAsked.map (askedKeys ℚ)).sum :=
  (clients_answered_once clean_fixed2Rat auxDevicePort ⟨plantCfg, ⟨false, []⟩⟩ threeAsked
    (by decide +kernel)).2 (by decide +kernel)

end EquipmentControl
