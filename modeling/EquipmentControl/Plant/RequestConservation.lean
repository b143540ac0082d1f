import EquipmentControl.Plant.StationSteps
import Mathlib.Tactic.Abel

/-!
# Every request is answered once

To equipmentd the process controller and its simulators look like one device that owes an answer to
every request. The requests that were sent are those that were answered and those still on their
way. So when nothing is on its way every request has been answered exactly once
(`requests_answered_once`).
-/

set_option autoImplicit false

namespace EquipmentControl

open InputMachine

/-! ## The invariant -/

section Invariant

variable {κ δ τ : Type} [CDouble δ] {w : Wiring κ}

/-- The connections are those of the wiring, every simulator sends lines of its own, and what a
simulator has yet to send the controller starts with its registration as long as it is not
registered. -/
structure StationInvariant (w : Wiring κ) (s : Station κ δ τ) : Prop where
  wired : Wired w s.pmc.conns
  devId : ∀ i, (s.sims i).devId = w.devId i
  lines : ∀ i, ∀ line ∈ s.toPmc i, SimLine δ (w.devId i) line
  boot : ∀ i, ∀ conn ∈ s.pmc.conns, conn.id = w.simId i → conn.registered = false →
    (s.toPmc i).head? = some (registerLine δ (w.devId i))

/-- A line of equipmentd does nothing, or its message is routed. -/
theorem pmcServeLine_eqd (io : SerialPort τ) {pmc : Pmc τ} (wired : Wired w pmc.conns)
    (line : Bytes) (writeOk : ℤ → Bool) :
    (lineKeys δ .req line = 0 ∧ pmcServeLine δ io pmc w.eqdId line writeOk = (pmc, none)) ∨
      ∃ eqd, IsEqdConn w eqd ∧ ∃ m : Message δ, lineParse line = some m ∧ m.type ≠ .register ∧
        pmcServeLine δ io pmc w.eqdId line writeOk =
          ((pmcRouteEqd io pmc eqd m writeOk).pmc, (pmcRouteEqd io pmc eqd m writeOk).wrote) := by
  obtain ⟨eqd, found, isEqd⟩ := wired.findConn_eqd
  rcases pmcServeLine_registered (δ := δ) io found isEqd.registered line writeOk with
    ⟨isRegister, idle⟩ | ⟨m, parsed, noRegister, served⟩
  · refine .inl ⟨?_, idle⟩
    cases parsed : (lineParse line : Option (Message δ)) with
    | none => exact lineKeys_none .req parsed
    | some m =>
        rw [lineKeys_some .req parsed]
        exact if_neg fun both => both.2 (isRegister m parsed)
  · rw [pmcRouteMessage_eqd io pmc isEqd.registered isEqd.type noRegister] at served
    exact .inr ⟨eqd, isEqd, m, parsed, noRegister, served⟩

/-- A line of equipmentd leaves the connections alone. -/
theorem pmcServeLine_eqd_conns (io : SerialPort τ) {pmc : Pmc τ} (wired : Wired w pmc.conns)
    (line : Bytes) (writeOk : ℤ → Bool) :
    (pmcServeLine δ io pmc w.eqdId line writeOk).1.conns = pmc.conns := by
  rcases pmcServeLine_eqd (δ := δ) io wired line writeOk with ⟨_, idle⟩ | ⟨eqd, _, m, _, _, served⟩
  · rw [idle]
  · rw [served]
    exact pmcRouteEqd_conns io pmc eqd m writeOk

/-- The first line of a simulator that is not registered is its registration. -/
theorem StationInvariant.first {s : Station κ δ τ} (holds : StationInvariant w s) {i : κ}
    {line : Bytes} {rest : List Bytes} (waiting : s.toPmc i = line :: rest) {conn : PmcConnection}
    (found : pmcFindConn s.pmc.conns (w.simId i) = some conn) (fresh : conn.registered = false) :
    line = registerLine δ (w.devId i) := by
  obtain ⟨member, id⟩ := pmcFindConn_some found
  have head := holds.boot i conn member id fresh
  rw [waiting] at head
  exact Option.some.inj head

/-- What the controller does with the next line of a simulator. -/
theorem StationInvariant.deliver (io : SerialPort τ) {s : Station κ δ τ}
    (holds : StationInvariant w s) {i : κ} {line : Bytes} {rest : List Bytes}
    (waiting : s.toPmc i = line :: rest) (writeOk : ℤ → Bool) :
    SimServed (δ := δ) w i s.pmc line writeOk
      (pmcServeLine δ io s.pmc (w.simId i) line writeOk) := by
  obtain ⟨conn, found, isSim⟩ := holds.wired.findConn_sim i
  have isLine := holds.lines i line (by rw [waiting]; exact List.mem_cons_self)
  exact pmcServeLine_sim io holds.wired found isSim isLine
    (fun fresh => holds.first waiting found fresh) writeOk

variable [DecidableEq κ]

/-- **Every input keeps the invariant.** -/
theorem stationMachine_invariant (io : SerialPort τ) (s : Station κ δ τ) (input : StationInput κ)
    (holds : StationInvariant w s) : StationInvariant w ((stationMachine w io).step s input).1 := by
  cases input with
  | request line writeOk =>
      have conns := pmcServeLine_eqd_conns (δ := δ) io holds.wired line writeOk
      refine ⟨?_, holds.devId, holds.lines, ?_⟩
      · exact conns.symm ▸ holds.wired
      · intro i conn member
        exact holds.boot i conn (conns ▸ member)
  | deliver i writeOk =>
      simp only [stationMachine]
      split
      · exact holds
      rename_i line rest waiting
      have served := holds.deliver io waiting writeOk
      have wired : Wired w (pmcServeLine δ io s.pmc (w.simId i) line writeOk).1.conns := by
        rcases served.conns with ⟨_, same⟩ | ⟨conn, isSim, _, same, _⟩
        · exact same ▸ holds.wired
        · exact same ▸ holds.wired.update isSim
      refine ⟨wired, holds.devId, ?_, ?_⟩
      · intro j other member
        change other ∈ Function.update s.toPmc i rest j at member
        by_cases here : j = i
        · subst here
          rw [Function.update_self] at member
          exact holds.lines j other (by rw [waiting]; exact List.mem_cons_of_mem line member)
        · rw [Function.update_of_ne here] at member
          exact holds.lines j other member
      · intro j conn member id fresh
        by_cases here : j = i
        · subst here
          cases fresh.symm.trans (served.registered conn member id)
        · change (Function.update s.toPmc i rest j).head? = _
          rw [Function.update_of_ne here]
          refine holds.boot j conn ?_ id fresh
          rcases served.conns with ⟨_, same⟩ | ⟨updated, isSim, _, same, _⟩
          · exact same ▸ member
          · rcases mem_updateConn (same ▸ member) with rfl | ⟨old, _⟩
            · exact absurd (w.simId_injective (id.symm.trans isSim.id)) here
            · exact old
  | simTurn i lines =>
      obtain ⟨devId, sends⟩ := simTurn_sends (s.sims i) ((s.toSim i).take lines)
      rw [holds.devId i] at devId sends
      refine ⟨holds.wired, ?_, ?_, ?_⟩
      · intro j
        by_cases here : j = i
        · subst here
          simp only [stationMachine, Function.update_self, devId]
        · simp only [stationMachine, Function.update_of_ne here, holds.devId j]
      · intro j other member
        by_cases here : j = i
        · subst here
          simp only [stationMachine, Function.update_self, List.mem_append] at member
          exact member.elim (holds.lines j other) (sends other)
        · simp only [stationMachine, Function.update_of_ne here] at member
          exact holds.lines j other member
      · intro j conn member id fresh
        have head := holds.boot j conn member id fresh
        by_cases here : j = i
        · subst here
          simp only [stationMachine, Function.update_self, List.head?_append, head, Option.some_or]
        · simp only [stationMachine, Function.update_of_ne here]
          exact head

end Invariant

/-! ## Every request is answered once -/

section Conservation

variable {κ δ τ : Type} [CDouble δ] {w : Wiring κ}

/-- equipmentd sends requests without telemetry, one line at a time, and takes what it is sent. -/
def Requests (δ : Type) [CDouble δ] (w : Wiring κ) : StationInput κ → Prop
  | .request line writeOk => writeOk w.eqdFd = true ∧ 10 ∉ line.dropLast ∧
      ∀ m ∈ (lineParse line : Option (Message δ)), m.role = .req ∧ NoTelemetry m
  | .deliver _ writeOk => writeOk w.eqdFd = true
  | .simTurn _ _ => True

instance decidableNoTelemetry (m : Message δ) : Decidable (NoTelemetry m) :=
  decidable_of_iff (m.temp = none ∧ m.pressure = none ∧ m.flow = none)
    ⟨fun ⟨temp, pressure, flow⟩ => ⟨temp, pressure, flow⟩,
      fun bare => ⟨bare.temp, bare.pressure, bare.flow⟩⟩

instance decidableRequests (w : Wiring κ) : ∀ input, Decidable (Requests δ w input)
  | .request line writeOk => inferInstanceAs (Decidable (writeOk w.eqdFd = true ∧
      10 ∉ line.dropLast ∧
        ∀ m ∈ (lineParse line : Option (Message δ)), m.role = .req ∧ NoTelemetry m))
  | .deliver _ writeOk => inferInstanceAs (Decidable (writeOk w.eqdFd = true))
  | .simTurn .. => isTrue trivial

/-- The key of the request that an input is. -/
def requestKeys (δ : Type) [CDouble δ] : StationInput κ → Multiset RequestKey
  | .request line _ => lineKeys δ .req line
  | _ => 0

omit [CDouble δ] in
/-- A relay keeps the key of a message. -/
theorem relayed_key (m : Message δ) : (relayed m).seq = m.seq ∧ (relayed m).dev = m.dev := by
  rw [relayed]
  split <;> exact ⟨rfl, rfl⟩

/-- A message without telemetry that is passed on is parsed as it is relayed. -/
theorem passed_message {line : Bytes} {m : Message δ} (parsed : lineParse line = some m)
    (newline : 10 ∉ line.dropLast) (bare : NoTelemetry m) :
    lineParse (lineText m ++ [10]) = some (relayed m) := by
  obtain ⟨_, _, _, role, type, same⟩ := lineParse_some parsed
  obtain ⟨hasRole, hasType⟩ := foldl_applyToken_head (δ := δ) _ (keyTokens line)
  rw [← same] at hasRole hasType
  exact lineParse_relay (lineParse_relayable parsed newline bare) (by rwa [hasRole])
    (by rwa [hasType])

/-- A message that is passed on keeps its key. -/
theorem passed_keys {line : Bytes} {m : Message δ} (parsed : lineParse line = some m)
    (newline : 10 ∉ line.dropLast) (bare : NoTelemetry m) (role : MsgRole) :
    lineKeys δ role (lineText m ++ [10]) = lineKeys δ role line := by
  obtain ⟨sameRole, type⟩ := relayed_head m
  obtain ⟨seq, dev⟩ := relayed_key m
  rw [lineKeys_some role (passed_message parsed newline bare), lineKeys_some role parsed, sameRole,
    type, seq, dev]

variable [DecidableEq κ] [Fintype κ]

/-- The requests a station owes, when it differs from another at one simulator. -/
theorem owed_moved {s next : Station κ δ τ} (i : κ)
    (others : ∀ j, j ≠ i → next.toSim j = s.toSim j ∧ next.toPmc j = s.toPmc j)
    {x y : Multiset RequestKey}
    (here : linesKeys δ .req (next.toSim i) + linesKeys δ .resp (next.toPmc i) + x =
      linesKeys δ .req (s.toSim i) + linesKeys δ .resp (s.toPmc i) + y) :
    next.owed + x = s.owed + y := by
  refine sum_moved i (fun j differs => ?_) here
  rw [(others j differs).1, (others j differs).2]

/-- What holds of the requests on their way: each is for the simulator it goes to. -/
def Addressed (w : Wiring κ) (s : Station κ δ τ) : Prop :=
  ∀ i, ∀ line ∈ s.toSim i, RequestFor δ (w.devId i) line

/-- **A request is answered or on its way.** -/
theorem request_balanced (prints : ∀ x : δ, Clean (CDouble.fixed2 x)) (io : SerialPort τ)
    {s : Station κ δ τ} (holds : StationInvariant w s) (addressed : Addressed w s) {line : Bytes}
    {writeOk : ℤ → Bool} (allowed : Requests δ w (.request line writeOk)) :
    Addressed w ((stationMachine w io).step s (.request line writeOk)).1 ∧
      (stationMachine w io).Balanced Station.owed (requestKeys δ) (linesKeys δ .resp) s
        (.request line writeOk) := by
  obtain ⟨writes, newline, requests⟩ := allowed
  simp only [stationMachine, Machine.Balanced, requestKeys]
  rcases pmcServeLine_eqd (δ := δ) io holds.wired line writeOk with
    ⟨noKey, idle⟩ | ⟨eqd, isEqd, m, parsed, noRegister, served⟩
  · rw [idle, noKey]
    simp only [Station.served, sentOn_none, List.append_nil, linesKeys_nil, add_zero]
    exact ⟨addressed, trivial⟩
  obtain ⟨isReq, bare⟩ := requests m parsed
  have key : lineKeys δ .req line = {(m.seq, m.dev)} := by
    rw [lineKeys_some .req parsed, if_pos ⟨isReq, noRegister⟩]
  have outcome := pmcRouteEqd_served prints io holds.wired isEqd m writes
  rw [served]
  generalize (pmcRouteEqd io s.pmc eqd m writeOk).wrote = wrote at outcome ⊢
  cases outcome with
  | answered out answers =>
      have elsewhere : ∀ i, sentOn (w.simFd i) (some (w.eqdFd, lineText out ++ [10])) = [] :=
        fun i => (sentOn_some _ _).trans (if_neg (w.simFd_ne i).symm)
      simp only [Station.served, elsewhere, List.append_nil]
      rw [sentOn_some, if_pos rfl, linesKeys_cons, linesKeys_nil, add_zero, answers.keys, key]
      exact ⟨addressed, rfl⟩
  | passed i sim dev =>
      have others : ∀ j, j ≠ i →
          sentOn (w.simFd j) (some (w.simFd i, lineText m ++ [10])) = [] := by
        intro j differs
        exact (sentOn_some _ _).trans
          (if_neg fun same => differs (w.simFd_injective same).symm)
      have there : sentOn (w.simFd i) (some (w.simFd i, lineText m ++ [10])) =
          [lineText m ++ [10]] := (sentOn_some _ _).trans (if_pos rfl)
      refine ⟨?_, ?_⟩
      · intro j other member
        rcases List.mem_append.mp member with old | new
        · exact addressed j other old
        by_cases here : j = i
        · subst here
          rw [there] at new
          cases List.mem_singleton.mp new
          intro out outParsed _
          cases (passed_message parsed newline bare).symm.trans outParsed
          rw [(relayed_key m).2, (relayed_head m).2]
          exact ⟨dev, noRegister⟩
        · rw [others j here] at new
          cases new
      · refine owed_moved i (fun j differs => ?_) ?_
        · simp only [Station.served, others j differs, List.append_nil, and_self]
        · simp only [Station.served, there]
          rw [sentOn_some, if_neg (w.simFd_ne i), linesKeys_nil, add_zero, linesKeys_append,
            linesKeys_cons, linesKeys_nil, add_zero, passed_keys parsed newline bare .req,
            add_right_comm]

/-- **One input loses no request and doubles none.** -/
theorem stationMachine_balanced (prints : ∀ x : δ, Clean (CDouble.fixed2 x)) (io : SerialPort τ)
    (s : Station κ δ τ) (input : StationInput κ) (holds : StationInvariant w s)
    (addressed : Addressed w s) (allowed : Requests δ w input) :
    Addressed w ((stationMachine w io).step s input).1 ∧
      (stationMachine w io).Balanced Station.owed (requestKeys δ) (linesKeys δ .resp) s input := by
  cases input with
  | request line writeOk => exact request_balanced prints io holds addressed allowed
  | deliver i writeOk =>
      simp only [stationMachine, Machine.Balanced, requestKeys]
      split
      · exact ⟨addressed, rfl⟩
      rename_i line rest waiting
      have served := holds.deliver io waiting writeOk
      generalize pmcServeLine δ io s.pmc (w.simId i) line writeOk = result at served ⊢
      simp only [Station.served, served.elsewhere, List.append_nil]
      refine ⟨addressed, ?_⟩
      refine owed_moved i (fun j differs => ?_) ?_
      · exact ⟨rfl, Function.update_of_ne differs ..⟩
      · dsimp only
        rw [Function.update_self, waiting, linesKeys_cons, served.keys allowed, add_zero, add_assoc,
          add_comm (linesKeys δ .resp rest)]
  | simTurn i lines =>
      have requests : ∀ line ∈ (s.toSim i).take lines, RequestFor δ (s.sims i).devId line := by
        intro line member
        rw [holds.devId i]
        exact addressed i line (List.mem_of_mem_take member)
      simp only [stationMachine, Machine.Balanced, requestKeys]
      refine ⟨?_, owed_moved i (fun j differs =>
        ⟨Function.update_of_ne differs .., Function.update_of_ne differs ..⟩) ?_⟩
      · intro j line member
        by_cases here : j = i
        · subst here
          simp only [Function.update_self] at member
          exact addressed j line (List.mem_of_mem_drop member)
        · simp only [Function.update_of_ne here] at member
          exact addressed j line member
      · have cut : linesKeys δ .req (s.toSim i) = linesKeys δ .req ((s.toSim i).take lines) +
            linesKeys δ .req ((s.toSim i).drop lines) := by
          rw [← linesKeys_append, List.take_append_drop]
        dsimp only
        rw [Function.update_self, Function.update_self, linesKeys_nil, linesKeys_append,
          simTurn_keys (s.sims i) requests, cut]
        abel

end Conservation

/-! ## Runs -/

section Runs

variable {κ δ τ : Type} [CDouble δ] (w : Wiring κ)

/-- The connection of a simulator that was just accepted. -/
def acceptedConn (i : κ) : PmcConnection :=
  ⟨w.simId i, w.simFd i, .unknown, false, -1, .empty 31, false⟩

/-- The connections of the start, listed. -/
theorem startConns_eq (order : List κ) (tail : List PmcConnection) :
    order.foldr (fun i conns => pmcConnAdd conns (w.simId i) (w.simFd i)) tail =
      order.map (acceptedConn w) ++ tail := by
  induction order with
  | nil => rfl
  | cons i order ih =>
      rw [List.foldr_cons, ih]
      rfl

theorem wired_start (aux : Aux τ) :
    Wired w (stationStart w aux : Station κ δ τ).pmc.conns := by
  change Wired w (w.order.foldr (fun i conns => pmcConnAdd conns (w.simId i) (w.simFd i)) _)
  rw [startConns_eq]
  refine ⟨?_, ?_, ?_, ?_⟩
  · rw [List.map_append, List.map_map]
    refine List.Nodup.append (w.nodup.map w.simId_injective) (List.nodup_singleton _) ?_
    intro id member isEqd
    obtain ⟨i, _, rfl⟩ := List.mem_map.mp member
    exact w.simId_ne i (List.mem_singleton.mp isEqd)
  · intro conn member
    rcases List.mem_append.mp member with isSim | isEqd
    · obtain ⟨i, _, rfl⟩ := List.mem_map.mp isSim
      exact .inr ⟨i, rfl, rfl, fun _ => rfl, (by rintro ⟨⟩), (by rintro ⟨⟩)⟩
    · rw [List.mem_singleton.mp isEqd]
      exact .inl ⟨rfl, rfl, rfl, rfl⟩
  · exact ⟨_, List.mem_append_right _ (List.mem_singleton.mpr rfl), rfl⟩
  · intro i
    exact ⟨acceptedConn w i,
      List.mem_append_left _ (List.mem_map_of_mem (w.complete i)), rfl⟩

/-- What a simulator has sent when it enters its loop. -/
theorem simStart_lines (devId : Int32) :
    (simStart (δ := δ) devId).2 = [registerLine δ devId,
      lineText (telemetryBuildStatusEvt devId .idle : Message δ) ++ [10]] := by
  have plain : Plain ({ role := .evt, type := .register, dev := some devId.toUInt32 } :
      Message δ) := ⟨rfl, rfl, rfl, by rintro _ ⟨⟩, by rintro _ ⟨⟩⟩
  have short := lineText_length_le plain.temp plain.pressure plain.flow
  simp only [simStart]
  rw [lineFormat_eq, if_neg (by omega), show (fsmTick fsmInit).state = .idle from rfl,
    simSend_plain (plain_statusEvt devId .idle)]
  rfl

/-- **What holds at the start.** -/
theorem stationStart_invariant (aux : Aux τ) :
    StationInvariant w (stationStart w aux : Station κ δ τ) where
  wired := wired_start w aux
  devId _ := rfl
  lines i line member := by
    rw [show (stationStart w aux : Station κ δ τ).toPmc i = _ from simStart_lines (w.devId i)]
      at member
    rcases List.mem_pair.mp member with rfl | rfl
    · exact ⟨_, .register, rfl⟩
    · exact ⟨_, .status .idle, rfl⟩
  boot i conn member id fresh := by
    rw [show (stationStart w aux : Station κ δ τ).toPmc i = _ from simStart_lines (w.devId i)]
    rfl

variable [DecidableEq κ] [Fintype κ]

omit [DecidableEq κ] in
/-- Nothing is owed at the start. -/
theorem stationStart_owed (aux : Aux τ) : (stationStart w aux : Station κ δ τ).owed = 0 := by
  refine Finset.sum_eq_zero fun i _ => ?_
  have silent : linesKeys δ .resp ((stationStart w aux : Station κ δ τ).toPmc i) = 0 := by
    rw [show (stationStart w aux : Station κ δ τ).toPmc i = _ from simStart_lines (w.devId i)]
    refine linesKeys_eq_zero fun line member => ?_
    rcases List.mem_pair.mp member with rfl | rfl
    · exact lineKeys_formatted (show MsgRole.evt ≠ .resp by decide)
    · exact lineKeys_formatted (show MsgRole.evt ≠ .resp by decide)
  rw [silent, add_zero]
  rfl

/-- The answers equipmentd has got in a run, and the requests it has sent. -/
def answered (io : SerialPort τ) (aux : Aux τ) (inputs : List (StationInput κ)) :
    Multiset RequestKey :=
  (((stationMachine w io).outputs (stationStart w aux : Station κ δ τ) inputs).map
    (linesKeys δ .resp)).sum

def requested (δ : Type) [CDouble δ] (inputs : List (StationInput κ)) : Multiset RequestKey :=
  (inputs.map (requestKeys δ)).sum

/-- **Every request is answered exactly once**: in every run in which equipmentd sends requests
without telemetry and takes what it is sent, the requests are the answers it has got and the
requests still on their way, so that with nothing on its way they are the answers. -/
theorem requests_answered_once (prints : ∀ x : δ, Clean (CDouble.fixed2 x)) (io : SerialPort τ)
    (aux : Aux τ) (inputs : List (StationInput κ))
    (requests : ∀ input ∈ inputs, Requests δ w input) :
    let s := (stationMachine w io).run (stationStart w aux : Station κ δ τ) inputs
    s.owed + answered (δ := δ) w io aux inputs = requested δ inputs ∧
      ((∀ i, s.toSim i = [] ∧ s.toPmc i = []) →
        answered (δ := δ) w io aux inputs = requested δ inputs) := by
  intro s
  have balanced : (stationMachine w io).Along
      ((stationMachine w io).Balanced Station.owed (requestKeys δ) (linesKeys δ .resp))
      (stationStart w aux : Station κ δ τ) inputs :=
    Machine.along_of_invariant (P := fun _ input => Requests δ w input)
      (I := fun s => StationInvariant w s ∧ Addressed w s)
      (fun s input holds allowed => ⟨stationMachine_invariant io s input holds.1,
        (stationMachine_balanced prints io s input holds.1 holds.2 allowed).1⟩)
      (fun s input holds allowed =>
        (stationMachine_balanced prints io s input holds.1 holds.2 allowed).2)
      ⟨stationStart_invariant w aux, by rintro i line ⟨⟩⟩ (Machine.along_of_forall requests)
  have balance := Machine.balanced_run balanced
  rw [stationStart_owed, zero_add] at balance
  refine ⟨balance, fun quiet => ?_⟩
  have none : s.owed = 0 := by
    refine Finset.sum_eq_zero fun i _ => ?_
    rw [(quiet i).1, (quiet i).2]
    rfl
  rw [show s.owed = _ from none, zero_add] at balance
  exact balance

end Runs

/-- Two simulators, for modules 1 and 2. -/
def twoSims : Wiring (Fin 2) where
  eqdId := 0
  eqdFd := 4
  simId i := i + 1
  simFd i := 5 + i
  devId i := if i = 0 then 1 else 2
  order := [1, 0]
  complete := by decide
  nodup := by decide
  simId_injective := by decide
  simFd_injective := by decide
  devId_injective := by decide
  simId_ne := by decide
  simFd_ne := by decide

/-- Both simulators register, a START of module 1 is passed on, a STATUS of module 2 answered, and a
request without a device rejected. -/
def threeRequests : List (StationInput (Fin 2)) :=
  let deliver (i : Fin 2) : StationInput (Fin 2) := .deliver i fun _ => true
  [deliver 0, deliver 0, deliver 1, deliver 1,
    .request (ascii "REQ START dev=1 seq=3\n") fun _ => true,
    .request (ascii "REQ STATUS dev=2 seq=4\n") fun _ => true,
    .request (ascii "REQ RESET seq=5\n") fun _ => true,
    .simTurn 0 1, deliver 0, deliver 0, deliver 0]

/-- Each gets one answer. -/
theorem requests_answered_once_three :
    answered (δ := ℚ) twoSims auxDevicePort ⟨plantCfg, ⟨false, []⟩⟩ threeRequests =
      requested ℚ threeRequests :=
  (requests_answered_once twoSims clean_fixed2Rat auxDevicePort ⟨plantCfg, ⟨false, []⟩⟩
    threeRequests (by decide)).2 (by decide +kernel)

end EquipmentControl
