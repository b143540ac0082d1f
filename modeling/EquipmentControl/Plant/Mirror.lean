import EquipmentControl.Plant.RequestConservation

/-!
# What the controller knows of its simulators

The controller decides on requests by the state a simulator reported last. Reports take time, so the
record may be old. It is never wrong otherwise: the record, brought up to date with the reports on
their way, is the state of the simulator (`Mirrors`), in every run, whatever equipmentd sends and
whichever writes fail.

So with no line of a simulator on its way the record is its state, the interlock decides on that
state, and a STATUS request is answered with it (`record_is_state`).
-/

set_option autoImplicit false

namespace EquipmentControl

open InputMachine

section Mirror

variable {κ δ τ : Type} [CDouble δ] {w : Wiring κ} {i : κ}

/-- The state last reported in some lines, given the one before. -/
def stateAfter (δ : Type) [CDouble δ] (lines : List Bytes) (before : Option (CString 31)) :
    Option (CString 31) :=
  (lines.filterMap (lineState δ)).getLast?.or before

theorem stateAfter_cons (line : Bytes) (lines : List Bytes) (before : Option (CString 31)) :
    stateAfter δ (line :: lines) before = stateAfter δ lines ((lineState δ line).or before) := by
  rw [stateAfter, stateAfter]
  cases reported : lineState δ line with
  | none => rw [List.filterMap_cons_none reported, Option.none_or]
  | some state =>
      rw [List.filterMap_cons_some reported, List.getLast?_cons]
      cases (lines.filterMap (lineState δ)).getLast? <;> rfl

theorem stateAfter_append (first second : List Bytes) (before : Option (CString 31)) :
    stateAfter δ (first ++ second) before = stateAfter δ second (stateAfter δ first before) := by
  rw [stateAfter, stateAfter, stateAfter, List.filterMap_append, List.getLast?_append,
    Option.or_assoc]

/-! ## Updated connections -/

omit [CDouble δ] in
/-- An updated connection is found under its id. -/
theorem pmcFindConn_updated {conns : List PmcConnection} {id : ℕ} {conn updated : PmcConnection}
    (found : pmcFindConn conns id = some conn) (same : updated.id = id) :
    pmcFindConn (updateConn conns updated) id = some updated := by
  subst same
  have search : ((fun other : PmcConnection => decide (other.id = updated.id)) ∘
      fun other => if other.id = updated.id then updated else other) =
      fun other => decide (other.id = updated.id) := by
    funext other
    by_cases here : other.id = updated.id <;> simp [here]
  rw [pmcFindConn] at found ⊢
  rw [updateConn, List.find?_map, search, found, Option.map_some,
    if_pos (pmcFindConn_some found).2]

/-- Another connection is found as before. -/
theorem pmcFindConn_other {conns : List PmcConnection} {id : ℕ} {updated : PmcConnection}
    (other : updated.id ≠ id) :
    pmcFindConn (updateConn conns updated) id = pmcFindConn conns id := by
  have search : ((fun conn : PmcConnection => decide (conn.id = id)) ∘
      fun conn => if conn.id = updated.id then updated else conn) =
      fun conn => decide (conn.id = id) := by
    funext conn
    by_cases here : conn.id = updated.id
    · simp [here, other]
    · simp [here]
  rw [pmcFindConn, pmcFindConn, updateConn, List.find?_map, search]
  cases found : conns.find? fun conn => decide (conn.id = id) with
  | none => rfl
  | some conn =>
      have id := (pmcFindConn_some found).2
      rw [Option.map_some, if_neg fun same => other (same.symm.trans id)]

/-! ## What a turn of a simulator reports -/

/-- The state of a message is reported by its line, if it is a plain one. -/
theorem filterMap_simSend {m : Message δ}
    (plainly : m.role = .evt ∧ m.type = .status → Plain m) :
    (simSend m).filterMap (lineState δ) = (statusState m).toList := by
  by_cases both : m.role = .evt ∧ m.type = .status
  · have plain := plainly both
    have parsed := plain.lineParse_lineText (by rw [both.1]; decide) (by rw [both.2]; decide)
    have reported : lineState δ (lineText m ++ [10]) = statusState m := by
      rw [lineState, parsed]
      rfl
    rw [simSend_plain plain]
    cases state : statusState m with
    | none => rw [List.filterMap_cons_none (reported.trans state)]; rfl
    | some text => rw [List.filterMap_cons_some (reported.trans state)]; rfl
  · have silent : statusState m = none := by rw [statusState, if_neg both]
    rw [silent, Option.toList_none, List.filterMap_eq_nil_iff]
    intro line member
    rw [mem_simSend member, lineState]
    cases parsed : (lineParse (lineText m ++ [10]) : Option (Message δ)) with
    | none => rfl
    | some out =>
        obtain ⟨role, type⟩ := lineParse_lineText_head parsed
        rw [Option.bind_some, statusState, role, type, if_neg both]

/-- The reports in the lines of a turn are those of its messages. -/
theorem filterMap_simTurn (ctx : SimCtx δ) (lines : List Bytes) :
    (simTurn ctx lines).2.filterMap (lineState δ) =
      (simIteration ctx (lines.filterMap lineParse)).2.filterMap statusState := by
  have plainly : ∀ m ∈ (simIteration ctx (lines.filterMap lineParse)).2,
      (simSend m).filterMap (lineState δ) = (statusState m).toList := by
    intro m member
    refine filterMap_simSend fun both => ?_
    rcases List.mem_append.mp member with response | report
    · rw [(simHandleMessages_frame ctx _).2 m response] at both
      cases both.1
    · rw [simReport] at report
      rcases List.mem_append.mp report with status | telemetry
      · split at status
        · rw [List.mem_singleton.mp status]
          exact plain_statusEvt _ _
        · cases status
      · rw [List.mem_singleton.mp telemetry] at both
        cases both.2
  rw [simTurn_iteration, List.filterMap_flatMap]
  exact (List.flatMap_congr plainly).trans (List.filterMap_eq_flatMap_toList _ _).symm

/-- **A turn leaves the state it ended in as the last one reported**, given that the one before
was. -/
theorem stateAfter_simTurn {ctx : SimCtx δ} (reported : ctx.lastState = ctx.fsm.state)
    (lines : List Bytes) :
    (simTurn ctx lines).1.lastState = (simTurn ctx lines).1.fsm.state ∧
      stateAfter δ (simTurn ctx lines).2 (some (strncpy 31 (fsmStateToString ctx.fsm.state))) =
        some (strncpy 31 (fsmStateToString (simTurn ctx lines).1.fsm.state)) := by
  refine ⟨rfl, ?_⟩
  have last := lastReported_iteration ctx (lines.filterMap lineParse)
    (some (strncpy 31 (fsmStateToString ctx.fsm.state)))
  rw [stateAfter, filterMap_simTurn, simTurn_iteration]
  change lastReported _ _ = _
  rw [last, reported]
  split
  · rfl
  · rename_i same
    rw [not_not] at same
    rw [same]

/-! ## The record -/

/-- The record of every simulator, brought up to date with the reports on their way, is its
state. -/
def Mirrors (w : Wiring κ) (s : Station κ δ τ) : Prop :=
  ∀ i, (s.sims i).lastState = (s.sims i).fsm.state ∧
    stateAfter δ (s.toPmc i) (recordedState s.pmc.conns (w.simId i)) =
      some (strncpy 31 (fsmStateToString (s.sims i).fsm.state))

/-- The controller records the state a line of a simulator reports, and nothing else. -/
theorem SimServed.recorded {pmc : Pmc τ} (wired : Wired w pmc.conns) {line : Bytes}
    {writeOk : ℤ → Bool} {result : Pmc τ × Option (ℤ × Bytes)}
    (served : SimServed (δ := δ) w i pmc line writeOk result) :
    recordedState result.1.conns (w.simId i) =
        (lineState δ line).or (recordedState pmc.conns (w.simId i)) ∧
      ∀ j, j ≠ i → recordedState result.1.conns (w.simId j) =
        recordedState pmc.conns (w.simId j) := by
  rcases served.conns with ⟨noState, same⟩ | ⟨conn, isSim, _, same, state⟩
  · rw [same, noState]
    exact ⟨rfl, fun _ _ => rfl⟩
  · obtain ⟨old, found, _⟩ := wired.findConn_sim i
    rw [same]
    refine ⟨?_, ?_⟩
    · rw [recordedState, pmcFindConn_updated found isSim.id, Option.bind_some, state]
    · intro j differs
      rw [recordedState, recordedState, pmcFindConn_other]
      rw [isSim.id]
      exact fun same => differs (w.simId_injective same).symm

variable [DecidableEq κ]

/-- **Every input keeps the record right.** -/
theorem stationMachine_mirrors (io : SerialPort τ) (s : Station κ δ τ) (input : StationInput κ)
    (holds : StationInvariant w s) (mirrors : Mirrors w s) :
    Mirrors w ((stationMachine w io).step s input).1 := by
  cases input with
  | request line writeOk =>
      intro i
      have conns := pmcServeLine_eqd_conns (δ := δ) io holds.wired line writeOk
      refine ⟨(mirrors i).1, ?_⟩
      change stateAfter δ (s.toPmc i) (recordedState
        (pmcServeLine δ io s.pmc w.eqdId line writeOk).1.conns (w.simId i)) = _
      rw [conns]
      exact (mirrors i).2
  | deliver i writeOk =>
      simp only [stationMachine]
      split
      · exact mirrors
      rename_i line rest waiting
      obtain ⟨here, others⟩ := (holds.deliver io waiting writeOk).recorded holds.wired
      intro j
      refine ⟨(mirrors j).1, ?_⟩
      change stateAfter δ (Function.update s.toPmc i rest j) (recordedState
        (pmcServeLine δ io s.pmc (w.simId i) line writeOk).1.conns (w.simId j)) = _
      by_cases same : j = i
      · subst same
        rw [Function.update_self, here, ← stateAfter_cons, ← waiting]
        exact (mirrors j).2
      · rw [Function.update_of_ne same, others j same]
        exact (mirrors j).2
  | simTurn i lines =>
      obtain ⟨last, after⟩ := stateAfter_simTurn (mirrors i).1 ((s.toSim i).take lines)
      intro j
      by_cases same : j = i
      · subst same
        simp only [stationMachine, Function.update_self]
        exact ⟨last, by rw [stateAfter_append, (mirrors j).2, after]⟩
      · simp only [stationMachine, Function.update_of_ne same]
        exact mirrors j

/-! ## With nothing on its way -/

omit [CDouble δ] [DecidableEq κ] in
/-- A simulator that is registered is found by its device. -/
theorem Wired.findSim_registered {conns : List PmcConnection} (wired : Wired w conns)
    {conn : PmcConnection} (found : pmcFindConn conns (w.simId i) = some conn)
    (isSim : IsSimConn w i conn) (registered : conn.registered = true) :
    pmcFindSim conns (w.devId i) = some conn := by
  obtain ⟨type, devId⟩ := isSim.registered registered
  have isSome : (pmcFindSim conns (w.devId i)).isSome := by
    rw [pmcFindSim, List.find?_isSome]
    exact ⟨conn, (pmcFindConn_some found).1, by simp [registered, type, devId]⟩
  obtain ⟨other, same⟩ := Option.isSome_iff_exists.mp isSome
  obtain ⟨j, isOther, device⟩ := wired.findSim same
  cases w.devId_injective device
  rw [same, wired.unique found (pmcFindSim_devId same).1 isOther.id]

theorem strncpy_fsmStateToString (state : SimState) :
    (strncpy 31 (fsmStateToString state)).bytes = fsmStateToString state := by
  cases state <;> decide

omit [DecidableEq κ] in
/-- **With no line of a simulator on its way its state is on record.** -/
theorem Mirrors.at_rest {s : Station κ δ τ} (holds : StationInvariant w s) (mirrors : Mirrors w s)
    (quiet : s.toPmc i = []) :
    ∃ sim, pmcFindSim s.pmc.conns (w.devId i) = some sim ∧ sim.hasState = true ∧
      sim.state = strncpy 31 (fsmStateToString (s.sims i).fsm.state) := by
  obtain ⟨conn, found, isSim⟩ := holds.wired.findConn_sim i
  have registered : conn.registered = true := by
    by_contra fresh
    obtain ⟨member, id⟩ := pmcFindConn_some found
    have head := holds.boot i conn member id (Bool.not_eq_true _ ▸ fresh)
    rw [quiet] at head
    cases head
  have record := (mirrors i).2
  rw [quiet, recordedState, found, Option.bind_some] at record
  change rememberedState conn = _ at record
  rw [rememberedState] at record
  split at record
  · rename_i known
    exact ⟨conn, holds.wired.findSim_registered found isSim registered, known,
      Option.some.inj record⟩
  · cases record

omit [DecidableEq κ] in
/-- What holds at the start. -/
theorem mirrors_start (w : Wiring κ) (aux : Aux τ) :
    Mirrors w (stationStart w aux : Station κ δ τ) := by
  intro i
  refine ⟨rfl, ?_⟩
  have first : lineState δ (registerLine δ (w.devId i)) = none := by
    rw [lineState]
    cases parsed : (lineParse (registerLine δ (w.devId i)) : Option (Message δ)) with
    | none => rfl
    | some out =>
        rw [Option.bind_some, statusState, (lineParse_lineText_head parsed).2]
        exact if_neg fun both => by cases both.2
  have second : lineState δ
      (lineText (telemetryBuildStatusEvt (w.devId i) .idle : Message δ) ++ [10]) =
      some (strncpy 31 (fsmStateToString .idle)) := by
    rw [lineState, (plain_statusEvt (δ := δ) (w.devId i) .idle).lineParse_lineText
      (show MsgRole.evt ≠ .unknown by decide) (show MsgType.status ≠ .unknown by decide)]
    rfl
  rw [show (stationStart w aux : Station κ δ τ).toPmc i = _ from simStart_lines (w.devId i),
    stateAfter_cons, stateAfter_cons, first, second]
  rfl

/-- What holds in every run. -/
theorem reached_mirrors (io : SerialPort τ) (aux : Aux τ) (inputs : List (StationInput κ)) :
    StationInvariant w
        ((stationMachine w io).run (stationStart w aux : Station κ δ τ) inputs) ∧
      Mirrors w ((stationMachine w io).run (stationStart w aux : Station κ δ τ) inputs) :=
  Machine.invariant (M := stationMachine w io) (I := fun s => StationInvariant w s ∧ Mirrors w s)
    (fun s input both => ⟨stationMachine_invariant io s input both.1,
      stationMachine_mirrors io s input both.1 both.2⟩)
    ⟨stationStart_invariant w aux, mirrors_start w aux⟩ inputs

omit [CDouble δ] [DecidableEq κ] in
/-- The interlock on a recorded state. -/
theorem pmcInterlockCheck_recorded {sim : PmcConnection} {state : SimState}
    (known : sim.hasState = true) (same : sim.state = strncpy 31 (fsmStateToString state))
    {type : MsgType} {required : Bytes} (command : interlockState type = some required) :
    pmcInterlockCheck sim type = true ↔ fsmStateToString state = required := by
  have bytes : sim.state.bytes = fsmStateToString state := by
    rw [same, strncpy_fsmStateToString]
  constructor
  · intro passes
    rw [← bytes]
    exact (pmcInterlockCheck_state passes command).2
  · intro isRequired
    have isState := bytes.trans isRequired
    cases type <;> cases command <;>
      exact Bool.and_eq_true_iff.mpr ⟨known, decide_eq_true isState⟩

/-- The controller has the state of a simulator on record, decides on it, and answers with it. -/
structure RecordIsState (w : Wiring κ) (io : SerialPort τ) (s : Station κ δ τ) (i : κ)
    (sim : PmcConnection) : Prop where
  found : pmcFindSim s.pmc.conns (w.devId i) = some sim
  state : sim.hasState = true ∧ sim.state = strncpy 31 (fsmStateToString (s.sims i).fsm.state)
  interlock : ∀ type required, interlockState type = some required →
    (pmcInterlockCheck sim type = true ↔ fsmStateToString (s.sims i).fsm.state = required)
  fault : pmcInterlockCheck sim .fault = true
  status : ∀ (m : Message δ) (eqd : PmcConnection) (writeOk : ℤ → Bool), m.type = .status →
    m.dev = some (w.devId i).toUInt32 → writeOk eqd.fd = true →
      ∃ text, (pmcRouteEqd io s.pmc eqd m writeOk).wrote = some (eqd.fd, lineText
        ({ role := .resp, type := .status, dev := m.dev, seq := m.seq, ok := some 1
           state := some (strncpy 31 (fsmStateToString (s.sims i).fsm.state))
           msg := text } : Message δ) ++ [10])

/-- **With no line of a simulator on its way the record is its state**, in every run. -/
theorem record_is_state (io : SerialPort τ) (aux : Aux τ) (inputs : List (StationInput κ)) (i : κ)
    (quiet : ((stationMachine w io).run (stationStart w aux : Station κ δ τ) inputs).toPmc i = []) :
    ∃ sim, RecordIsState w io
      ((stationMachine w io).run (stationStart w aux : Station κ δ τ) inputs) i sim := by
  obtain ⟨holds, mirrors⟩ := reached_mirrors (w := w) (δ := δ) io aux inputs
  generalize (stationMachine w io).run (stationStart w aux : Station κ δ τ) inputs = s at *
  obtain ⟨conn, found, known, state⟩ := mirrors.at_rest holds quiet
  refine ⟨conn, found, ⟨known, state⟩, fun _ _ => pmcInterlockCheck_recorded known state, ?_, ?_⟩
  · exact Bool.and_eq_true_iff.mpr ⟨known, rfl⟩
  intro m eqd writeOk isStatus hasDev writes
  refine ⟨(auxText (readAuxSnapshot (δ := δ) io conn.devId s.pmc.aux).1).map (strncpy 127), ?_⟩
  rw [pmcRouteEqd, hasDev, Option.bind_some, Int32.toInt32_toUInt32, found]
  simp only [pmcSequenceDecideEqdRequest, hasDev, isStatus, reduceCtorEq, if_false, if_true]
  rw [pmcSend_wrote, pmcIoSendMessage_fits rfl rfl rfl, if_pos writes, pmcStatusMessage,
    if_pos known, state, hasDev]

end Mirror

/-- After the three requests module 1 is being processed, and the controller knows. -/
theorem record_is_state_three :
    ∃ sim, RecordIsState twoSims auxDevicePort ((stationMachine twoSims auxDevicePort).run
      (stationStart twoSims ⟨plantCfg, ⟨false, []⟩⟩ : Station (Fin 2) ℚ AuxDevice)
        threeRequests) 0 sim :=
  record_is_state auxDevicePort ⟨plantCfg, ⟨false, []⟩⟩ threeRequests 0 (by decide +kernel)

end EquipmentControl
