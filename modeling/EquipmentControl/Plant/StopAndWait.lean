import EquipmentControl.Plant.Mirror

/-!
# Commands sent when nothing is on its way

The interlock decides on the record of a state, and a command passes it long before the simulator
has it. equipmentd can avoid the race by waiting: it sends a request for a module only when no line
is on its way between the controller and the simulator of the module (`StopAndWait`).

Then the interlock stands for the simulator. A START, a RESET or a FAULT that passes it is carried
out, whatever turns the simulator makes before it reads the request, and so is a STOP unless the
process is over by then (`waited_commands_obeyed`).
-/

set_option autoImplicit false

namespace EquipmentControl

open InputMachine

section StopAndWait

variable {κ δ τ : Type} [CDouble δ] {w : Wiring κ}

/-- equipmentd sends a request for a module when no line of its simulator is on its way. -/
def StopAndWait (w : Wiring κ) (s : Station κ δ τ) : StationInput κ → Prop
  | .request line _ => ∀ m ∈ (lineParse line : Option (Message δ)), ∀ i,
      m.dev = some (w.devId i).toUInt32 → s.toSim i = [] ∧ s.toPmc i = []
  | _ => True

instance decidableStopAndWait [Fintype κ] (w : Wiring κ) (s : Station κ δ τ) :
    ∀ input, Decidable (StopAndWait w s input)
  | .request line _ => inferInstanceAs (Decidable (∀ m ∈ (lineParse line : Option (Message δ)),
      ∀ i, m.dev = some (w.devId i).toUInt32 → s.toSim i = [] ∧ s.toPmc i = []))
  | .deliver .. | .simTurn .. => isTrue trivial

/-- The commands a simulator carries out: a STOP is too late once the process is over. -/
def CarriedOut (fsm : Fsm) (m : Message δ) : Prop :=
  m.type = .start ∨ m.type = .reset ∨ m.type = .fault ∨ m.type = .stop ∧ fsm.state ≠ .done

/-- The state in which a command of that type has passed the interlock, as long as it waits. -/
def Awaited (fsm : Fsm) (m : Message δ) : Prop :=
  (m.type = .start → fsm.state = .idle) ∧ (m.type = .reset → fsm.state = .fault) ∧
    (m.type = .stop → fsm.state = .processing ∨ fsm.state = .done)

/-- At most one line waits for a simulator, which is in the state the interlock asked for. -/
structure Waits (s : Station κ δ τ) : Prop where
  one : ∀ i, (s.toSim i).length ≤ 1
  state : ∀ i, ∀ line ∈ s.toSim i, ∀ m : Message δ, lineParse line = some m →
    Awaited (s.sims i).fsm m

omit [CDouble δ] in
/-- What the interlock asks for. -/
theorem awaited_of_interlock {sim : PmcConnection} {fsm : Fsm} (known : sim.hasState = true)
    (same : sim.state = strncpy 31 (fsmStateToString fsm.state)) {m : Message δ}
    (passes : pmcInterlockCheck sim m.type = true) : Awaited fsm m := by
  have state : ∀ {type : MsgType} {required : Bytes}, m.type = type →
      interlockState type = some required → fsmStateToString fsm.state = required := by
    intro type required isType command
    rw [isType] at passes
    exact (pmcInterlockCheck_recorded known same command).mp passes
  refine ⟨fun isStart => ?_, fun isReset => ?_, fun isStop => .inl ?_⟩
  · have text := state isStart rfl
    revert text
    cases fsm.state <;> decide
  · have text := state isReset rfl
    revert text
    cases fsm.state <;> decide
  · have text := state isStop rfl
    revert text
    cases fsm.state <;> decide

omit [CDouble δ] in
/-- A tick keeps a waiting command possible. -/
theorem Awaited.tick {fsm : Fsm} {m : Message δ} (awaited : Awaited fsm m) :
    Awaited (fsmTick fsm) m := by
  obtain ⟨start, reset, stop⟩ := awaited
  refine ⟨fun isStart => ?_, fun isReset => ?_, fun isStop => ?_⟩
  · rw [fsmTick, start isStart]
    exact start isStart
  · rw [fsmTick, reset isReset]
    exact reset isReset
  · rcases stop isStop with processing | done
    · rw [fsmTick, processing]
      dsimp only
      split
      · exact .inr rfl
      · exact .inl rfl
    · rw [fsmTick, done]
      exact .inr done

omit [CDouble δ] in
/-- A waiting command that is carried out is accepted. -/
theorem Awaited.accepted {fsm : Fsm} {m : Message δ} (awaited : Awaited fsm m)
    (carriedOut : CarriedOut fsm m) : (fsmHandleCommand fsm (simCmdFromMessage m)).2 = 0 := by
  obtain ⟨start, reset, stop⟩ := awaited
  rw [simCmdFromMessage]
  rcases carriedOut with isStart | isReset | isFault | ⟨isStop, notDone⟩
  · rw [isStart, fsmHandleCommand, if_pos (.inl (start isStart))]
  · rw [isReset, fsmHandleCommand, if_pos (reset isReset)]
  · rw [isFault]
    rfl
  · rw [isStop, fsmHandleCommand, if_pos ((stop isStop).resolve_right notDone)]

/-- **What a message of equipmentd sends to the simulators**: nothing, or itself to the simulator of
its module when the interlock lets it pass. -/
theorem pmcRouteEqd_toSims (io : SerialPort τ) {pmc : Pmc τ} (wired : Wired w pmc.conns)
    {eqd : PmcConnection} (isEqd : IsEqdConn w eqd) (m : Message δ) (writeOk : ℤ → Bool) :
    (∀ i, sentOn (w.simFd i) (pmcRouteEqd io pmc eqd m writeOk).wrote = []) ∨
      ∃ i sim, m.dev = some (w.devId i).toUInt32 ∧ pmcFindSim pmc.conns (w.devId i) = some sim ∧
        pmcInterlockCheck sim m.type = true ∧
          (pmcRouteEqd io pmc eqd m writeOk).wrote = some (w.simFd i, lineText m ++ [10]) := by
  have answer : ∀ (left : Pmc τ) (out : Message δ) (i : κ),
      sentOn (w.simFd i) (pmcSend left eqd.fd out writeOk).wrote = [] := by
    intro left out i
    cases sent : (pmcSend left eqd.fd out writeOk).wrote with
    | none => rfl
    | some wrote =>
        rw [sentOn_some, pmcSend_fd wrote sent, isEqd.fd, if_neg (w.simFd_ne i).symm]
  have route := pmcRouteEqd_route io pmc eqd m writeOk
  generalize pmcRouteEqd io pmc eqd m writeOk = result at route ⊢
  cases route with
  | rejected => exact .inl (answer _ _)
  | status => exact .inl (answer _ _)
  | toSim sim routed =>
      obtain ⟨⟨dev, hasDev, found⟩, passes⟩ := routed
      obtain ⟨i, isSim, devId⟩ := wired.findSim found
      have toSim := pmcRouteToSim_route io pmc eqd sim hasDev writeOk
      generalize pmcRouteToSim io pmc eqd sim m writeOk = result at toSim ⊢
      cases toSim with
      | refused => exact .inl (answer _ _)
      | unsent => exact .inl (answer _ _)
      | sent aux wrote _ sent =>
          refine .inr ⟨i, sim, ?_, devId ▸ found, passes, ?_⟩
          · rw [hasDev, devId, UInt32.toUInt32_toInt32]
          · rw [pmcIoSendMessage_some sent, isSim.fd]

variable [DecidableEq κ]

/-- A request keeps the invariant when it is sent with nothing on its way. -/
theorem Waits.request (io : SerialPort τ) {s : Station κ δ τ} (holds : StationInvariant w s)
    (mirrors : Mirrors w s) (waits : Waits s) {line : Bytes} {writeOk : ℤ → Bool}
    (waited : StopAndWait w s (.request line writeOk)) :
    Waits ((stationMachine w io).step s (.request line writeOk)).1 := by
  simp only [stationMachine]
  rcases pmcServeLine_eqd (δ := δ) io holds.wired line writeOk with
    ⟨_, idle⟩ | ⟨eqd, isEqd, m, parsed, _, served⟩
  · rw [idle]
    simp only [Station.served, sentOn_none, List.append_nil]
    exact ⟨waits.one, waits.state⟩
  rw [served]
  rcases pmcRouteEqd_toSims io holds.wired isEqd m writeOk with
    nothing | ⟨i, sim, dev, found, passes, sent⟩
  · simp only [Station.served, nothing, List.append_nil]
    exact ⟨waits.one, waits.state⟩
  obtain ⟨noRequest, noReport⟩ := waited m parsed i dev
  obtain ⟨known, same, recorded, state⟩ := mirrors.at_rest holds noReport
  cases found.symm.trans same
  have awaited := awaited_of_interlock (m := m) recorded state passes
  have others : ∀ j, j ≠ i → sentOn (w.simFd j) (pmcRouteEqd io s.pmc eqd m writeOk).wrote = [] := by
    intro j differs
    rw [sent, sentOn_some, if_neg fun same => differs (w.simFd_injective same).symm]
  have there : s.toSim i ++ sentOn (w.simFd i) (pmcRouteEqd io s.pmc eqd m writeOk).wrote =
      [lineText m ++ [10]] := by
    rw [sent, noRequest, sentOn_some, if_pos rfl, List.nil_append]
  constructor
  · intro j
    by_cases here : j = i
    · subst here
      exact le_of_eq (congrArg List.length there)
    · simp only [Station.served, others j here, List.append_nil]
      exact waits.one j
  · intro j other member out outParsed
    by_cases here : j = i
    · subst here
      simp only [Station.served, there] at member
      rw [List.mem_singleton.mp member] at outParsed
      rw [Awaited, (lineParse_lineText_head outParsed).2]
      exact awaited
    · simp only [Station.served, others j here, List.append_nil] at member
      exact waits.state j other member out outParsed

/-- A turn of a simulator keeps the invariant: it reads the request that waits, or leaves it
waiting. -/
theorem Waits.simTurn (io : SerialPort τ) {s : Station κ δ τ} (waits : Waits s) (i : κ)
    (lines : ℕ) : Waits ((stationMachine w io).step s (.simTurn i lines)).1 := by
  have idle : ∀ line ∈ (s.toSim i).drop lines, (s.toSim i).take lines = [] := by
    intro line member
    have one := waits.one i
    have some : 0 < ((s.toSim i).drop lines).length := List.length_pos_of_mem member
    rw [List.length_drop] at some
    rw [show lines = 0 by omega, List.take_zero]
  constructor
  · intro j
    by_cases here : j = i
    · subst here
      simp only [stationMachine, Function.update_self, List.length_drop]
      have one := waits.one j
      omega
    · simp only [stationMachine, Function.update_of_ne here]
      exact waits.one j
  · intro j other member m parsed
    by_cases here : j = i
    · subst here
      simp only [stationMachine, Function.update_self] at member ⊢
      rw [idle other member]
      exact (waits.state j other (List.mem_of_mem_drop member) m parsed).tick
    · simp only [stationMachine, Function.update_of_ne here] at member ⊢
      exact waits.state j other member m parsed

end StopAndWait

end EquipmentControl
