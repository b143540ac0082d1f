import EquipmentControl.Plant.Station
import EquipmentControl.Protocol.Telemetry

/-!
# What the parts of a station do

A message of equipmentd is answered by the controller or passed on to the simulator of its device
(`pmcRouteEqd_served`). A simulator answers every request it is given (`simTurn_keys`) and sends
lines of its own (`simTurn_sends`). The controller registers a simulator with its first line and
passes the others on to equipmentd (`pmcServeLine_sim`).
-/

set_option autoImplicit false

namespace EquipmentControl

/-! ## What the controller answers -/

section Answers

variable {κ δ τ : Type} [CDouble δ]

/-- An answer of the controller itself, which is parsed as it was formatted. -/
structure OwnAnswer (m out : Message δ) : Prop extends RespondsTo m out where
  plain : Plain out
  type : out.type = .error ∨ out.type = .status

/-- The line of a response tells its request. -/
theorem Plain.lineKeys_resp {out : Message δ} (plain : Plain out) (role : out.role = .resp)
    (known : out.type ≠ .unknown ∧ out.type ≠ .register) :
    lineKeys δ .resp (lineText out ++ [10]) = {(out.seq, out.dev)} := by
  have parsed := plain.lineParse_lineText (by rw [role]; decide) known.1
  rw [lineKeys_some .resp parsed, if_pos ⟨role, known.2⟩]

theorem OwnAnswer.keys {m out : Message δ} (answers : OwnAnswer m out) :
    lineKeys δ .resp (lineText out ++ [10]) = {(m.seq, m.dev)} := by
  have known : out.type ≠ .unknown ∧ out.type ≠ .register := by
    rcases answers.type with isError | isStatus
    · rw [isError]
      decide
    · rw [isStatus]
      decide
  rw [answers.plain.lineKeys_resp answers.role known, answers.seq, answers.dev]

/-- What becomes of a message of equipmentd: the controller answers it, or the interlock lets it pass
and it goes on to the simulator of its device. -/
inductive EqdServed (w : Wiring κ) (conns : List PmcConnection) (m : Message δ) :
    Option (ℤ × Bytes) → Prop where
  | answered (out : Message δ) : OwnAnswer m out →
      EqdServed w conns m (some (w.eqdFd, lineText out ++ [10]))
  | passed (i : κ) (sim : PmcConnection) : m.dev = some (w.devId i).toUInt32 →
      pmcFindSim conns (w.devId i) = some sim → pmcInterlockCheck sim m.type = true →
      EqdServed w conns m (some (w.simFd i, lineText m ++ [10]))

omit [CDouble δ] in
/-- The texts with which the aux device is given up are clean. -/
theorem applyAuxForCommand_clean {io : SerialPort τ} {devId : Int32} {type : MsgType} {aux : Aux τ}
    {text : Bytes} (refused : (applyAuxForCommand io devId type aux).1 = .error text) :
    Clean text := by
  have switched : ∀ (on : Bool) (expect failed bad : String), Clean (ascii failed) →
      Clean (ascii bad) → ∀ aux : Aux τ,
        (switchHeater io on expect failed bad aux).1 = .error text → Clean text := by
    intro on expect failed bad cleanFailed cleanBad aux refused
    rw [switchHeater] at refused
    split at refused
    · cases refused
      exact cleanFailed
    · split at refused <;> cases refused
      exact cleanBad
  rw [applyAuxForCommand] at refused
  split at refused
  · cases refused
  split at refused
  · cases refused
    decide
  split at refused
  · cases refused
  rw [applyAuxSwitch.eq_def] at refused
  split at refused
  · split at refused
    · cases refused
      decide
    · split at refused
      · exact switched _ _ _ _ (by decide) (by decide) _ refused
      · cases refused
        decide
  · exact switched _ _ _ _ (by decide) (by decide) _ refused
  · exact switched _ _ _ _ (by decide) (by decide) _ refused
  · exact switched _ _ _ _ (by decide) (by decide) _ refused
  · cases refused

omit [CDouble δ] in
/-- An error with a clean text is an answer. -/
theorem ownAnswer_error (m : Message δ) (code : Int32) {text : Bytes} (clean : Clean text) :
    OwnAnswer m (pmcErrorMessage m code text) where
  role := rfl
  dev := rfl
  seq := rfl
  plain :=
    { temp := rfl
      pressure := rfl
      flow := rfl
      state := by rintro _ ⟨⟩
      msg := by
        rintro _ ⟨⟩
        exact clean_strncpy clean }
  type := .inl rfl

theorem clean_auxText (prints : ∀ x : δ, Clean (CDouble.fixed2 x)) (aux : AuxSnapshot δ) :
    ∀ text ∈ auxText aux, Clean text := by
  have append : ∀ first second : Bytes, Clean first → Clean second → Clean (first ++ second) := by
    intro first second one two b member
    exact (List.mem_append.mp member).elim (one b) (two b)
  have heater : Clean (if aux.heaterOn then ascii "ON" else ascii "OFF") := by
    split <;> decide
  have temp := append _ _ (prints aux.tempC) (show Clean (ascii "C") by decide)
  intro text present
  simp only [auxText] at present
  split at present
  · cases present
  split at present
  · cases present
    exact append _ _ (append _ _ (append _ _ (by decide) heater) (by decide)) temp
  split at present
  · cases present
    exact append _ _ (by decide) heater
  split at present
  · cases present
    exact append _ _ (by decide) temp
  · cases present

/-- The STATUS of a simulator's connection is an answer. -/
theorem ownAnswer_status (prints : ∀ x : δ, Clean (CDouble.fixed2 x)) {w : Wiring κ} {i : κ}
    {sim : PmcConnection} (isSim : IsSimConn w i sim) (m : Message δ) (aux : AuxSnapshot δ) :
    OwnAnswer m (pmcStatusMessage m sim aux) where
  role := rfl
  dev := rfl
  seq := rfl
  plain :=
    { temp := rfl
      pressure := rfl
      flow := rfl
      state := by
        rintro _ ⟨⟩
        split
        · rename_i known
          obtain ⟨state, same⟩ := isSim.state known
          rw [same]
          exact clean_strncpy (clean_fsmStateToString state)
        · exact clean_strncpy (by decide)
      msg := by
        intro text present
        obtain ⟨shown, isText, rfl⟩ := Option.map_eq_some_iff.mp present
        exact clean_strncpy (clean_auxText prints aux shown isText) }
  type := .inr rfl

theorem EqdServed.send {w : Wiring κ} {conns : List PmcConnection} {m out : Message δ}
    (answers : OwnAnswer m out) (pmc : Pmc τ)
    {fd : ℤ} (isEqd : fd = w.eqdFd) {writeOk : ℤ → Bool} (writes : writeOk w.eqdFd = true) :
    EqdServed w conns m (pmcSend pmc fd out writeOk).wrote := by
  rw [pmcSend_wrote,
    pmcIoSendMessage_fits answers.plain.temp answers.plain.pressure answers.plain.flow, isEqd,
    if_pos writes]
  exact .answered out answers

/-- **A message of equipmentd is answered or passed on.** -/
theorem pmcRouteEqd_served (prints : ∀ x : δ, Clean (CDouble.fixed2 x)) (io : SerialPort τ)
    {w : Wiring κ} {pmc : Pmc τ} (wired : Wired w pmc.conns) {eqd : PmcConnection}
    (isEqd : IsEqdConn w eqd) (m : Message δ) {writeOk : ℤ → Bool}
    (writes : writeOk w.eqdFd = true) :
    EqdServed w pmc.conns m (pmcRouteEqd io pmc eqd m writeOk).wrote := by
  have rejects : ∀ (aux : Aux τ) (code : Int32) (text : Bytes), Clean text →
      EqdServed w pmc.conns m (pmcSend { pmc with aux := aux } eqd.fd (pmcErrorMessage m code text)
        writeOk).wrote := fun aux code text clean =>
    .send (ownAnswer_error m code clean) _ isEqd.fd writes
  rw [pmcRouteEqd]
  cases hasDev : m.dev with
  | none =>
      simp only [pmcSequenceDecideEqdRequest, hasDev, if_true]
      exact rejects pmc.aux _ _ (by decide)
  | some dev =>
  simp only [pmcSequenceDecideEqdRequest, hasDev, reduceCtorEq, if_false, Option.bind_some]
  cases found : pmcFindSim pmc.conns dev.toInt32 with
  | none => exact rejects pmc.aux _ _ (by decide)
  | some sim =>
  obtain ⟨i, isSim, devId⟩ := wired.findSim found
  simp only
  by_cases isStatus : m.type = .status
  · rw [if_pos isStatus]
    exact .send (ownAnswer_status prints isSim m _) _ isEqd.fd writes
  rw [if_neg isStatus]
  by_cases passes : pmcInterlockCheck sim m.type = true
  · rw [if_pos passes]
    dsimp only
    have route := pmcRouteToSim_route io pmc eqd sim hasDev writeOk
    generalize pmcRouteToSim io pmc eqd sim m writeOk = result at route ⊢
    cases route with
    | refused text aux refused =>
        refine rejects aux _ _ ?_
        split
        · decide
        · exact applyAuxForCommand_clean (congrArg Prod.fst refused)
    | unsent aux =>
        refine rejects aux _ _ ?_
        decide
    | sent aux wrote _ sent =>
        rw [pmcIoSendMessage_some sent, isSim.fd]
        refine .passed i sim ?_ (devId ▸ found) passes
        rw [hasDev, devId, UInt32.toUInt32_toInt32]
  · rw [if_neg passes]
    exact rejects pmc.aux _ _ (by decide)

/-- A message of equipmentd leaves the connections alone. -/
theorem pmcRouteEqd_conns (io : SerialPort τ) (pmc : Pmc τ) (eqd : PmcConnection) (m : Message δ)
    (writeOk : ℤ → Bool) : (pmcRouteEqd io pmc eqd m writeOk).pmc.conns = pmc.conns := by
  have route := pmcRouteEqd_route io pmc eqd m writeOk
  generalize pmcRouteEqd io pmc eqd m writeOk = result at route ⊢
  cases route with
  | rejected => rw [pmcSend_pmc]
  | status => rw [pmcSend_pmc]
  | toSim sim routed =>
      obtain ⟨⟨dev, hasDev, _⟩, _⟩ := routed
      have toSim := pmcRouteToSim_route io pmc eqd sim hasDev writeOk
      generalize pmcRouteToSim io pmc eqd sim m writeOk = result at toSim ⊢
      cases toSim with
      | refused => rw [pmcSend_pmc]
      | unsent => rw [pmcSend_pmc]
      | sent => rfl

end Answers

/-! ## What a simulator sends -/

section Simulators

variable {δ : Type}

/-- The response of a simulator to a request. -/
structure IsResponse (devId : Int32) (out : Message δ) : Prop where
  role : out.role = .resp
  dev : out.dev = some devId.toUInt32
  type : out.type ≠ .register ∧ out.type ≠ .status ∧ out.type ≠ .unknown
  plain : Plain out

/-- The messages a simulator sends. -/
inductive SimSends (devId : Int32) : Message δ → Prop where
  | register : SimSends devId { role := .evt, type := .register, dev := some devId.toUInt32 }
  | status (state : SimState) : SimSends devId (telemetryBuildStatusEvt devId state)
  | telemetry (model : ProcessModel δ) : SimSends devId (telemetryBuildTelemetryEvt devId model)
  | response (out : Message δ) : IsResponse devId out → SimSends devId out

/-- A line that a simulator sends. -/
def SimLine (δ : Type) [CDouble δ] (devId : Int32) (line : Bytes) : Prop :=
  ∃ m : Message δ, SimSends devId m ∧ line = lineText m ++ [10]

/-- A line that a simulator may be sent: if it is a request, it is for its device. -/
def RequestFor (δ : Type) [CDouble δ] (devId : Int32) (line : Bytes) : Prop :=
  ∀ m : Message δ, lineParse line = some m → m.role = .req →
    m.dev = some devId.toUInt32 ∧ m.type ≠ .register

variable [CDouble δ]

theorem IsResponse.parsed {devId : Int32} {out : Message δ} (response : IsResponse devId out) :
    lineParse (lineText out ++ [10]) = some out :=
  response.plain.lineParse_lineText (by rw [response.role]; decide) response.type.2.2

theorem IsResponse.keys {devId : Int32} {out : Message δ} (response : IsResponse devId out) :
    lineKeys δ .resp (lineText out ++ [10]) = {(out.seq, some devId.toUInt32)} := by
  rw [lineKeys_some .resp response.parsed, if_pos ⟨response.role, response.type.1⟩, response.dev]

omit [CDouble δ] in
theorem plain_statusEvt (devId : Int32) (state : SimState) :
    Plain (telemetryBuildStatusEvt devId state : Message δ) where
  temp := rfl
  pressure := rfl
  flow := rfl
  state := by
    rintro _ ⟨⟩
    exact clean_strncpy (clean_fsmStateToString state)
  msg := by rintro _ ⟨⟩

/-- What is sent is the line of the message, if it fits. -/
theorem mem_simSend {m : Message δ} {line : Bytes} (member : line ∈ simSend m) :
    line = lineText m ++ [10] := by
  rw [simSend, lineFormat_eq, Option.mem_toList] at member
  split at member
  · cases member
  · exact (Option.some.inj member).symm

theorem simSend_plain {m : Message δ} (plain : Plain m) : simSend m = [lineText m ++ [10]] := by
  have short := lineText_length_le plain.temp plain.pressure plain.flow
  rw [simSend, lineFormat_eq, if_neg (by omega)]
  rfl

omit [CDouble δ] in
/-- The answer of a simulator to a request. -/
theorem simHandleMessage_response (ctx : SimCtx δ) {m : Message δ} (isReq : m.role = .req) :
    ∃ out, IsResponse ctx.devId out ∧ out.seq = m.seq ∧
      (simHandleMessage ctx m).2 = some out := by
  have isResponse : ∀ rc : ℤ, (rc = 0 → m.type ≠ .register ∧ m.type ≠ .status ∧
      m.type ≠ .unknown) → IsResponse ctx.devId (simResponse ctx.devId m rc) ∧
        (simResponse ctx.devId m rc).seq = m.seq := by
    intro rc accepted
    rw [simResponse]
    split
    · rename_i zero
      exact ⟨⟨rfl, rfl, accepted zero, ⟨rfl, rfl, rfl, by rintro _ ⟨⟩, by rintro _ ⟨⟩⟩⟩, rfl⟩
    · have isError : MsgType.error ≠ .register ∧ MsgType.error ≠ .status ∧
          MsgType.error ≠ .unknown := by decide
      refine ⟨⟨rfl, rfl, isError, ⟨rfl, rfl, rfl, by rintro _ ⟨⟩, ?_⟩⟩, rfl⟩
      rintro _ ⟨⟩
      exact clean_strncpy (by decide)
  rw [simHandleMessage, if_neg (not_not.mpr isReq)]
  have known : (fsmHandleCommand ctx.fsm (simCmdFromMessage m)).2 = 0 →
      m.type ≠ .register ∧ m.type ≠ .status ∧ m.type ≠ .unknown := by
    intro accepted
    refine ⟨?_, ?_, ?_⟩ <;>
      (intro same
       rw [simCmdFromMessage, same] at accepted
       cases accepted)
  obtain ⟨response, seq⟩ := isResponse _ known
  exact ⟨_, response, seq, rfl⟩

/-- **A line served by a simulator**: it keeps its device, and sends lines of its own. -/
theorem simServeLine_sends (ctx : SimCtx δ) (line : Bytes) :
    (simServeLine ctx line).1.devId = ctx.devId ∧
      ∀ sent ∈ (simServeLine ctx line).2, SimLine δ ctx.devId sent := by
  rw [simServeLine]
  cases (lineParse line : Option (Message δ)) with
  | none => exact ⟨rfl, fun sent member => by cases member⟩
  | some m =>
  dsimp only
  by_cases isReq : m.role = .req
  · obtain ⟨out, response, _, sends⟩ := simHandleMessage_response ctx isReq
    refine ⟨?_, ?_⟩
    · rw [simHandleMessage, if_neg (not_not.mpr isReq)]
    · intro sent member
      rw [sends] at member
      simp only [Option.toList_some, List.flatMap_cons, List.flatMap_nil, List.append_nil] at member
      exact ⟨out, .response out response, mem_simSend member⟩
  · rw [simHandleMessage, if_pos isReq]
    exact ⟨rfl, fun sent member => by cases member⟩

/-- **A request served by a simulator is answered**, with its own sequence number. -/
theorem simServeLine_keys (ctx : SimCtx δ) {line : Bytes} (request : RequestFor δ ctx.devId line) :
    linesKeys δ .resp (simServeLine ctx line).2 = lineKeys δ .req line := by
  rw [simServeLine]
  cases parsed : (lineParse line : Option (Message δ)) with
  | none => rw [lineKeys_none .req parsed, linesKeys_nil]
  | some m =>
  rw [lineKeys_some .req parsed]
  dsimp only
  by_cases isReq : m.role = .req
  · obtain ⟨out, response, seq, sends⟩ := simHandleMessage_response ctx isReq
    obtain ⟨dev, type⟩ := request m parsed isReq
    rw [sends, if_pos ⟨isReq, type⟩]
    simp only [Option.toList_some, List.flatMap_cons, List.flatMap_nil, List.append_nil,
      simSend_plain response.plain, linesKeys_cons, linesKeys_nil, add_zero]
    rw [response.keys, seq, dev]
  · rw [simHandleMessage, if_pos isReq, if_neg fun both => isReq both.1]
    rfl

/-- Lines served in order. -/
theorem simServeLines_sends (ctx : SimCtx δ) (lines : List Bytes) :
    (simServeLines ctx lines).1.devId = ctx.devId ∧
      ∀ sent ∈ (simServeLines ctx lines).2, SimLine δ ctx.devId sent := by
  induction lines generalizing ctx with
  | nil => exact ⟨rfl, fun sent member => by cases member⟩
  | cons line lines ih =>
      obtain ⟨devId, first⟩ := simServeLine_sends ctx line
      obtain ⟨kept, later⟩ := ih (simServeLine ctx line).1
      rw [devId] at kept later
      refine ⟨kept, ?_⟩
      intro sent member
      exact (List.mem_append.mp member).elim (first sent) (later sent)

theorem simServeLines_keys (ctx : SimCtx δ) {lines : List Bytes}
    (requests : ∀ line ∈ lines, RequestFor δ ctx.devId line) :
    linesKeys δ .resp (simServeLines ctx lines).2 = linesKeys δ .req lines := by
  induction lines generalizing ctx with
  | nil => rfl
  | cons line lines ih =>
      have devId := (simServeLine_sends ctx line).1
      have later := ih (simServeLine ctx line).1 fun other member =>
        devId ▸ requests other (List.mem_cons_of_mem line member)
      rw [simServeLines, linesKeys_append, linesKeys_cons, later,
        simServeLine_keys ctx (requests line List.mem_cons_self)]

/-- What a turn sends besides answers. -/
theorem simTick_sends (ctx : SimCtx δ) :
    (simTick ctx).1.devId = ctx.devId ∧
      ∀ sent ∈ (simTick ctx).2, SimLine δ ctx.devId sent ∧ lineKeys δ .resp sent = 0 := by
  refine ⟨rfl, ?_⟩
  intro sent member
  have other : ∀ m : Message δ, m.role = .evt → SimSends ctx.devId m → sent ∈ simSend m →
      SimLine δ ctx.devId sent ∧ lineKeys δ .resp sent = 0 := by
    intro m role sends inLine
    rw [mem_simSend inLine]
    exact ⟨⟨m, sends, rfl⟩, lineKeys_formatted (by rw [role]; decide)⟩
  rw [simTick] at member
  rcases List.mem_append.mp member with report | telemetry
  · split at report
    · exact other _ rfl (.status _) report
    · cases report
  · exact other _ rfl (.telemetry _) telemetry

theorem linesKeys_eq_zero {role : MsgRole} {lines : List Bytes}
    (none : ∀ line ∈ lines, lineKeys δ role line = 0) : linesKeys δ role lines = 0 := by
  induction lines with
  | nil => rfl
  | cons line lines ih =>
      rw [linesKeys_cons, none line List.mem_cons_self,
        ih fun other member => none other (List.mem_cons_of_mem line member), add_zero]

/-- **A turn of a simulator** answers every request it is given, and sends lines of its own. -/
theorem simTurn_sends (ctx : SimCtx δ) (lines : List Bytes) :
    (simTurn ctx lines).1.devId = ctx.devId ∧
      ∀ sent ∈ (simTurn ctx lines).2, SimLine δ ctx.devId sent := by
  obtain ⟨devId, served⟩ := simServeLines_sends ctx lines
  obtain ⟨kept, ticked⟩ := simTick_sends (simServeLines ctx lines).1
  rw [devId] at kept ticked
  refine ⟨kept, ?_⟩
  intro sent member
  exact (List.mem_append.mp member).elim (served sent) fun later => (ticked sent later).1

theorem simTurn_keys (ctx : SimCtx δ) {lines : List Bytes}
    (requests : ∀ line ∈ lines, RequestFor δ ctx.devId line) :
    linesKeys δ .resp (simTurn ctx lines).2 = linesKeys δ .req lines := by
  have silent := linesKeys_eq_zero fun sent member =>
    ((simTick_sends (simServeLines ctx lines).1).2 sent member).2
  rw [simTurn, linesKeys_append, simServeLines_keys ctx requests, silent, add_zero]

end Simulators

/-! ## Lines of a simulator at the controller -/

section Deliveries

variable {κ δ τ : Type} [CDouble δ] {w : Wiring κ} {i : κ}

/-- A message of a simulator that is a STATUS or RESP was sent as such, and is parsed as it was
sent. -/
theorem SimSends.parsed {devId : Int32} {sent m : Message δ} (sends : SimSends devId sent)
    (parsed : lineParse (lineText sent ++ [10]) = some m)
    (plainly : m.type = .status ∨ m.role = .resp) :
    m = sent ∧ (m.type = .status → ∃ state, m = telemetryBuildStatusEvt devId state) := by
  obtain ⟨role, type⟩ := lineParse_lineText_head parsed
  rw [role, type] at plainly
  cases sends with
  | register =>
      rcases plainly with isStatus | isResp
      · exact absurd isStatus (show MsgType.register ≠ .status by decide)
      · exact absurd isResp (show MsgRole.evt ≠ .resp by decide)
  | status state =>
      have same := (plain_statusEvt (δ := δ) devId state).lineParse_lineText
        (show MsgRole.evt ≠ .unknown by decide) (show MsgType.status ≠ .unknown by decide)
      cases same.symm.trans parsed
      exact ⟨rfl, fun _ => ⟨state, rfl⟩⟩
  | telemetry model =>
      rcases plainly with isStatus | isResp
      · exact absurd isStatus (show MsgType.telemetry ≠ .status by decide)
      · exact absurd isResp (show MsgRole.evt ≠ .resp by decide)
  | response out response =>
      cases response.parsed.symm.trans parsed
      exact ⟨rfl, fun isStatus => absurd isStatus response.type.2.1⟩

/-- What the controller does with a line of a simulator: the connection is updated for a
registration and for a reported state, and is registered afterwards; what is written goes to
equipmentd, which gets the answer the line is. -/
structure SimServed (w : Wiring κ) (i : κ) (pmc : Pmc τ) (line : Bytes) (writeOk : ℤ → Bool)
    (result : Pmc τ × Option (ℤ × Bytes)) : Prop where
  conns : (lineState δ line = none ∧ result.1.conns = pmc.conns) ∨
    ∃ conn, IsSimConn w i conn ∧ conn.registered = true ∧
      result.1.conns = updateConn pmc.conns conn ∧ rememberedState conn =
        (lineState δ line).or (recordedState pmc.conns (w.simId i))
  registered : ∀ conn ∈ result.1.conns, conn.id = w.simId i → conn.registered = true
  wrote : ∀ sent ∈ result.2, sent.1 = w.eqdFd
  keys : writeOk w.eqdFd = true →
    linesKeys δ .resp (sentOn w.eqdFd result.2) = lineKeys δ .resp line

/-- Nothing that is written for a line of a simulator goes to a simulator. -/
theorem SimServed.elsewhere {pmc : Pmc τ} {line : Bytes} {writeOk : ℤ → Bool}
    {result : Pmc τ × Option (ℤ × Bytes)} (served : SimServed (δ := δ) w i pmc line writeOk result)
    (j : κ) : sentOn (w.simFd j) result.2 = [] := by
  cases wrote : result.2 with
  | none => rfl
  | some sent => rw [sentOn_some, served.wrote sent wrote, if_neg (w.simFd_ne j).symm]

omit [CDouble δ] in
/-- A connection found by its id is the only one with it. -/
theorem Wired.unique {conns : List PmcConnection} (wired : Wired w conns) {id : ℕ}
    {conn other : PmcConnection} (found : pmcFindConn conns id = some conn)
    (member : other ∈ conns) (same : other.id = id) : other = conn := by
  obtain ⟨inList, here⟩ := pmcFindConn_some found
  exact List.inj_on_of_nodup_map wired.distinct member inList (same.trans here.symm)

/-- A message of a sim goes to the connection of equipmentd that is found afterwards. -/
theorem pmcRouteSim_wrote {pmc : Pmc τ} {sim eqd : PmcConnection} {m : Message δ}
    {writeOk : ℤ → Bool}
    (found : pmcFindEqd (pmcRouteSim pmc sim m writeOk).pmc.conns = some eqd) :
    (pmcRouteSim pmc sim m writeOk).wrote = pmcIoSendMessage eqd.fd m writeOk := by
  obtain ⟨conns, same⟩ : ∃ conns, pmcRouteSim pmc sim m writeOk =
      (pmcFindEqd conns).elim ⟨{ pmc with conns := conns }, -1, none⟩
        fun eqd => pmcSend { pmc with conns := conns } eqd.fd m writeOk :=
    ⟨_, by rw [pmcRouteSim]; cases pmcFindEqd _ <;> rfl⟩
  rw [same] at found ⊢
  cases known : pmcFindEqd conns with
  | none =>
      rw [known] at found
      cases known.symm.trans found
  | some other =>
      rw [known, Option.elim_some] at found
      rw [Option.elim_some]
      rw [pmcSend_pmc] at found
      cases known.symm.trans found
      exact pmcSend_wrote _ _ m writeOk

/-- A message of a registered simulator goes to equipmentd, and its state may be remembered. -/
theorem Wired.routeSim {pmc : Pmc τ} (wired : Wired w pmc.conns) {sim : PmcConnection}
    (isSim : IsSimConn w i sim) (registered : sim.registered = true) {m : Message δ}
    (states : m.type = .status → ∃ state, m = telemetryBuildStatusEvt (w.devId i) state)
    (writeOk : ℤ → Bool) :
    ((statusState m = none ∧ (pmcRouteSim pmc sim m writeOk).pmc.conns = pmc.conns) ∨
        ∃ conn, IsSimConn w i conn ∧ conn.registered = true ∧
          (pmcRouteSim pmc sim m writeOk).pmc.conns = updateConn pmc.conns conn ∧
          rememberedState conn = statusState m ∧ (statusState m).isSome) ∧
      (pmcRouteSim pmc sim m writeOk).wrote = pmcIoSendMessage w.eqdFd m writeOk := by
  have conns := pmcRouteSim_conns pmc sim m writeOk
  have moved : (statusState m = none ∧ (pmcRouteSim pmc sim m writeOk).pmc.conns = pmc.conns) ∨
      ∃ conn, IsSimConn w i conn ∧ conn.registered = true ∧
        (pmcRouteSim pmc sim m writeOk).pmc.conns = updateConn pmc.conns conn ∧
        rememberedState conn = statusState m ∧ (statusState m).isSome := by
    split at conns
    · rename_i text isStatus hasState
      obtain ⟨state, isReport⟩ := states isStatus
      have reports : statusState m = some text := by
        rw [statusState, isStatus, hasState, isReport]
        rfl
      refine .inr ⟨{ sim with state := text, hasState := true }, ?_, registered, conns,
        reports.symm, by rw [reports]; rfl⟩
      refine ⟨isSim.id, isSim.fd, isSim.unregistered, isSim.registered, fun _ => ⟨state, ?_⟩⟩
      rw [isReport] at hasState
      exact (Option.some.inj hasState).symm
    · rename_i noReport
      refine .inl ⟨?_, conns⟩
      rw [statusState]
      split
      · rename_i both
        cases hasState : m.state with
        | none => rfl
        | some state => exact (noReport state both.2 hasState).elim
      · rfl
  refine ⟨moved, ?_⟩
  have after : Wired w (pmcRouteSim pmc sim m writeOk).pmc.conns := by
    rcases moved with ⟨_, same⟩ | ⟨conn, isConn, _, same, _⟩
    · exact same ▸ wired
    · exact same ▸ wired.update isConn
  obtain ⟨eqd, found, fd⟩ := after.findEqd
  rw [pmcRouteSim_wrote found, fd]

/-- The first line of a simulator registers its connection. -/
theorem pmcServeLine_registers (io : SerialPort τ) {pmc : Pmc τ} {conn : PmcConnection}
    (found : pmcFindConn pmc.conns (w.simId i) = some conn) (isSim : IsSimConn w i conn)
    (fresh : conn.registered = false) (writeOk : ℤ → Bool) :
    SimServed (δ := δ) w i pmc (registerLine δ (w.devId i)) writeOk
      (pmcServeLine δ io pmc (w.simId i) (registerLine δ (w.devId i)) writeOk) := by
  have parsed : lineParse (registerLine δ (w.devId i)) =
      some ({ role := .evt, type := .register, dev := some (w.devId i).toUInt32 } :
        Message δ) :=
    Plain.lineParse_lineText ⟨rfl, rfl, rfl, by rintro _ ⟨⟩, by rintro _ ⟨⟩⟩
      (show MsgRole.evt ≠ .unknown by decide) (show MsgType.register ≠ .unknown by decide)
  have isConn : IsSimConn w i
      { conn with type := .sim, registered := true, devId := (w.devId i).toUInt32.toInt32 } :=
    ⟨isSim.id, isSim.fd, (by rintro ⟨⟩), fun _ => ⟨rfl, Int32.toInt32_toUInt32 _⟩, isSim.state⟩
  rw [pmcServeLine_message, parsed]
  simp only [pmcServeMessage, found, fresh, Bool.not_false, if_true, pmcHandleRegister,
    ne_eq, not_true_eq_false, if_false]
  refine ⟨.inr ⟨_, isConn, rfl, rfl, ?_⟩, ?_, by rintro _ ⟨⟩, fun _ => ?_⟩
  · rw [lineState, parsed, recordedState, found]
    rfl
  · intro other member same
    rcases mem_updateConn member with rfl | ⟨_, differs⟩
    · rfl
    · exact absurd (same.trans isSim.id.symm) differs
  · rw [lineKeys_some .resp parsed]
    rfl

/-- equipmentd gets the answer that a line of a simulator is. -/
theorem SimSends.keys_passed {devId : Int32} {sent m : Message δ} (sends : SimSends devId sent)
    (parsed : lineParse (lineText sent ++ [10]) = some m) {writeOk : ℤ → Bool}
    (writes : writeOk w.eqdFd = true) :
    linesKeys δ .resp (sentOn w.eqdFd (pmcIoSendMessage w.eqdFd m writeOk)) =
      lineKeys δ .resp (lineText sent ++ [10]) := by
  by_cases isResp : m.role = .resp
  · obtain ⟨rfl, _⟩ := sends.parsed parsed (.inr isResp)
    cases sends with
    | response out response =>
        rw [pmcIoSendMessage_fits response.plain.temp response.plain.pressure
          response.plain.flow, if_pos writes, sentOn_some, if_pos rfl, linesKeys_cons,
          linesKeys_nil, add_zero]
    | _ => cases isResp
  · rw [lineKeys_some .resp parsed, if_neg fun both => isResp both.1]
    cases sentBack : pmcIoSendMessage w.eqdFd m writeOk with
    | none => rfl
    | some out =>
        rw [pmcIoSendMessage_some sentBack, sentOn_some, if_pos rfl, linesKeys_cons,
          linesKeys_nil, add_zero, lineKeys_formatted isResp]

/-- A message of a registered simulator is passed on, and its state remembered. -/
theorem pmcServeMessage_passes (io : SerialPort τ) {pmc : Pmc τ} (wired : Wired w pmc.conns)
    {conn : PmcConnection} (found : pmcFindConn pmc.conns (w.simId i) = some conn)
    (isSim : IsSimConn w i conn) (registered : conn.registered = true) {sent m : Message δ}
    (sends : SimSends (w.devId i) sent) (parsed : lineParse (lineText sent ++ [10]) = some m)
    (only : ∀ other ∈ pmc.conns, other.id = w.simId i → other.registered = true)
    (writeOk : ℤ → Bool) :
    SimServed (δ := δ) w i pmc (lineText sent ++ [10]) writeOk
      (pmcServeMessage io pmc (w.simId i) m writeOk) := by
  have reported : lineState δ (lineText sent ++ [10]) = statusState m := by
    rw [lineState, parsed]
    rfl
  have step := pmcServeMessage_step io pmc (w.simId i) m writeOk
  generalize pmcServeMessage io pmc (w.simId i) m writeOk = result at step ⊢
  have type := (isSim.registered registered).1
  cases step with
  | nothing idle =>
      have isRegister := idle conn found registered type
      refine ⟨.inl ⟨?_, rfl⟩, only, by rintro _ ⟨⟩, fun _ => ?_⟩
      · rw [reported, statusState, isRegister]
        exact if_neg fun both => by cases both.2
      · rw [lineKeys_some .resp parsed, if_neg fun both => both.2 isRegister]
        rfl
  | registers other _ found' unregistered =>
      cases found.symm.trans found'
      cases registered.symm.trans unregistered
  | eqd other found' _ isEqd =>
      cases found.symm.trans found'
      cases type.symm.trans isEqd
  | sim other found' =>
      cases found.symm.trans found'
      obtain ⟨moved, wrote⟩ := wired.routeSim isSim registered
        (fun isStatus => (sends.parsed parsed (.inl isStatus)).2 isStatus) writeOk
      refine ⟨?_, ?_, ?_, ?_⟩
      · rw [reported]
        rcases moved with unchanged | ⟨updated, isConn, known, updates, state, some⟩
        · exact .inl unchanged
        · exact .inr ⟨updated, isConn, known, updates, by rw [state, Option.or_of_isSome some]⟩
      · intro other member same
        rcases moved with ⟨_, unchanged⟩ | ⟨updated, isConn, known, updates, _⟩
        · rw [unchanged] at member
          exact only other member same
        · rw [updates] at member
          rcases mem_updateConn member with rfl | ⟨inList, _⟩
          · exact known
          · exact only other inList same
      · intro out member
        rw [wrote] at member
        rw [pmcIoSendMessage_some member]
      · intro writes
        rw [wrote]
        exact sends.keys_passed parsed writes

/-- **What the controller does with a line of a simulator**: with the first one, it registers the
connection. -/
theorem pmcServeLine_sim (io : SerialPort τ) {pmc : Pmc τ} (wired : Wired w pmc.conns)
    {conn : PmcConnection} (found : pmcFindConn pmc.conns (w.simId i) = some conn)
    (isSim : IsSimConn w i conn) {line : Bytes} (isLine : SimLine δ (w.devId i) line)
    (first : conn.registered = false → line = registerLine δ (w.devId i)) (writeOk : ℤ → Bool) :
    SimServed (δ := δ) w i pmc line writeOk
      (pmcServeLine δ io pmc (w.simId i) line writeOk) := by
  cases registered : conn.registered with
  | false =>
      rw [first registered]
      exact pmcServeLine_registers io found isSim registered writeOk
  | true =>
  obtain ⟨sent, sends, rfl⟩ := isLine
  have only : ∀ other ∈ pmc.conns, other.id = w.simId i → other.registered = true := by
    intro other member same
    rw [wired.unique found member same]
    exact registered
  rw [pmcServeLine_message]
  cases parsed : (lineParse (lineText sent ++ [10]) : Option (Message δ)) with
  | none =>
      refine ⟨.inl ⟨?_, rfl⟩, only, by rintro _ ⟨⟩, fun _ => (lineKeys_none .resp parsed).symm⟩
      rw [lineState, parsed]
      rfl
  | some m => exact pmcServeMessage_passes io wired found isSim registered sends parsed only writeOk

end Deliveries

end EquipmentControl
