import EquipmentControl.Equipmentd.ControlRuns
import EquipmentControl.Equipmentd.ModuleHealth
import EquipmentControl.Library.Heartbeat
import EquipmentControl.Tmc.TransferRuns

/-!
# The health of the transfer controller

The transfer controller repeats its STATUS when a second has passed since the last one
(`tick_state_machine` in `nodes/tmc/src/main.c`), and equipmentd takes it for lost when it has
heard no report for three seconds (`refresh_module_health` in `services/equipmentd/src/main.c`).
Both go by the same clock.

`linkMachine` is the controller, the line to equipmentd and equipmentd's control part. Requests of
any kind reach the controller and anything else happens to equipmentd, at any time. A run is
`Timely` when the clock does not go back, the controller ticks often enough and no line is on its
way for too long.

A tick sends at most one STATUS and lets no second pass without one (`tickStateMachine_beat`), a
request sends at most one in between (`tmcServeLine_beat`), and a line stamps the record of a module
exactly when it is a report (`serveLine_stamp`). So the reports are a steady heartbeat
(`Beating.step`), and the controller is never taken for lost (`tmc_never_stale`).
-/

set_option autoImplicit false

namespace EquipmentControl

open InputMachine Heartbeat

/-- The transfer controller and equipmentd, with the lines on their way from the one to the other
and the times at which they were sent. -/
structure TmcLink (δ : Type) where
  ctx : AppCtx δ
  tmc : TmcCtx
  wire : List (ℤ × Bytes)
  /-- The time of the last tick. -/
  tickMs : ℤ
  /-- The last reading of the clock. -/
  clockMs : ℤ

/-- What happens on either side. -/
inductive LinkInput where
  | tick (nowMs doneMs repeatMs : ℤ)
  | request (line : Bytes) (startMs statusMs : ℤ)
  /-- The oldest line on its way is served. -/
  | deliver (fd nowMs : ℤ) (writeOk : Bool)
  | control (input : ControlInput)

/-- The last reading of the clock in a step of equipmentd, if it reads the clock. -/
def ControlInput.clock : ControlInput → Option ℤ
  | .line _ _ nowMs _ => some nowMs
  | .runScheduler _ createdMs _ => some createdMs
  | .sweepRequests nowMs => some nowMs
  | .dropLinks _ => none

section Link

variable {δ : Type} [CDouble δ]

/-- The link. The sends of the controller succeed; outputs are what equipmentd writes. -/
def linkMachine : Machine (TmcLink δ) LinkInput (Option (ℤ × Bytes)) where
  step s
    | .tick nowMs doneMs repeatMs =>
        let ticked := tickStateMachine δ s.tmc nowMs doneMs repeatMs true true
        ({ s with
          tmc := ticked.1
          wire := s.wire ++ ticked.2.map fun line => (ticked.1.lastStatusSentMs, line)
          tickMs := nowMs
          clockMs := repeatMs }, none)
    | .request line startMs statusMs =>
        let served := tmcServeLine δ s.tmc line startMs statusMs true true
        ({ s with
          tmc := served.ctx
          wire := s.wire ++ served.sent.map fun line => (statusMs, line)
          clockMs := statusMs }, none)
    | .deliver fd nowMs writeOk =>
        match s.wire with
        | [] => (s, none)
        | sent :: rest =>
            let served := serveLine fd s.ctx sent.2 nowMs writeOk
            ({ s with ctx := served.ctx, wire := rest, clockMs := nowMs }, served.wrote)
    | .control input =>
        let stepped := controlMachine.step s.ctx input
        ({ s with ctx := stepped.1, clockMs := input.clock.getD s.clockMs }, stepped.2)

omit [CDouble δ] in
/-- The clock does not go back, the controller ticks within `cadence` and is done by then, and when
the scheduler looks no line has been on its way for longer than `delay`. -/
def Timely (cadence delay : ℤ) (s : TmcLink δ) : LinkInput → Prop
  | .tick nowMs doneMs repeatMs => s.clockMs ≤ nowMs ∧ nowMs ≤ doneMs ∧ doneMs ≤ repeatMs ∧
      repeatMs ≤ s.tickMs + cadence
  | .request _ startMs statusMs => s.clockMs ≤ startMs ∧ startMs ≤ statusMs ∧
      statusMs ≤ s.tickMs + cadence
  | .deliver _ nowMs _ => s.clockMs ≤ nowMs
  | .control (.runScheduler healthMs createdMs _) => s.clockMs ≤ healthMs ∧ healthMs ≤ createdMs ∧
      healthMs ≤ s.tickMs + cadence ∧ ∀ sent ∈ s.wire, healthMs ≤ sent.1 + delay
  | .control (.line _ _ nowMs _) => s.clockMs ≤ nowMs
  | .control (.sweepRequests nowMs) => s.clockMs ≤ nowMs
  | .control (.dropLinks _) => True

/-- When the scheduler looks, the controller is healthy if it has reported at all. -/
def FoundHealthy (s : TmcLink δ) : LinkInput → Prop
  | .control (.runScheduler healthMs createdMs writeOk) =>
      (runScheduler s.ctx healthMs createdMs writeOk).1.moduleRegistry.tmc.healthy = true ↔
        s.ctx.moduleRegistry.tmc.lastUpdateMs ≠ 0
  | _ => True

/-! ## Reports -/

variable (δ) in
/-- The time of the report that a line handled at `nowMs` is for a module. -/
def lineReport (id : ModuleId) (nowMs : ℤ) (line : Bytes) : Option ℤ :=
  (lineParse line : Option (Message δ)).bind fun m =>
    if m.role = .evt then reportTime id (.event nowMs m) else none

variable (δ) in
/-- The times at which the reports on their way were sent. -/
def reportStamps (wire : List (ℤ × Bytes)) : List ℤ :=
  wire.filterMap fun sent => lineReport δ .tmc sent.1 sent.2

/-- A report is the report of the time it is handled at. -/
theorem eq_of_lineReport {id : ModuleId} {nowMs t : ℤ} {line : Bytes}
    (report : lineReport δ id nowMs line = some t) : t = nowMs := by
  obtain ⟨m, _, time⟩ := Option.bind_eq_some_iff.mp report
  split at time
  · rw [reportTime] at time
    split at time
    · cases time
      rfl
    · cases time
  · cases time

/-- Whether a line is a report does not depend on the time. -/
theorem lineReport_eq_none {id : ModuleId} {nowMs : ℤ} {line : Bytes}
    (silent : lineReport δ id nowMs line = none) (other : ℤ) :
    lineReport δ id other line = none := by
  rw [lineReport] at silent ⊢
  cases parsed : (lineParse line : Option (Message δ)) with
  | none => rfl
  | some m =>
      rw [parsed, Option.bind_some] at silent
      rw [Option.bind_some]
      split
      · rename_i isEvt
        rw [if_pos isEvt, reportTime] at silent
        rw [reportTime]
        split
        · rename_i reports
          rw [if_pos reports] at silent
          cases silent
        · rfl
      · rfl

/-- **A line stamps the record of a module exactly when it is a report of it.** -/
theorem serveLine_stamp (id : ModuleId) (fd : ℤ) (ctx : AppCtx δ) (line : Bytes) (nowMs : ℤ)
    (writeOk : Bool) :
    ((serveLine fd ctx line nowMs writeOk).ctx.moduleRegistry.get id).lastUpdateMs =
        (lineReport δ id nowMs line).getD (ctx.moduleRegistry.get id).lastUpdateMs ∧
      (lineReport δ id nowMs line ≠ none ∨ (ctx.moduleRegistry.get id).registered = true →
        ((serveLine fd ctx line nowMs writeOk).ctx.moduleRegistry.get id).registered = true) := by
  rw [serveLine_registry, lineReport, lineNotes]
  cases (lineParse line : Option (Message δ)) with
  | none => exact ⟨rfl, fun known => known.resolve_left fun some => some rfl⟩
  | some m =>
  simp only [Option.bind_some]
  by_cases isEvt : m.role = .evt
  · rw [if_pos isEvt, if_pos isEvt]
    obtain ⟨report, silent⟩ := applyNote_report id (.event nowMs m) (ctx.moduleRegistry.get id)
    cases time : reportTime id (.event nowMs m) with
    | some t => exact ⟨(report t time).2, fun _ => (report t time).1⟩
    | none =>
        obtain ⟨registered, stamp⟩ := silent time
        exact ⟨stamp, fun known => registered (known.resolve_left fun some => some rfl)⟩
  · rw [if_neg isEvt, if_neg isEvt]
    cases matchPending fd ctx m with
    | none => exact ⟨rfl, fun known => known.resolve_left fun some => some rfl⟩
    | some i =>
        simp only
        split
        · obtain ⟨registered, stamp⟩ := (applyNote_report id
            (.resetAcked (ctx.tracker i).dev) (ctx.moduleRegistry.get id)).2 rfl
          exact ⟨stamp, fun known => registered (known.resolve_left fun some => some rfl)⟩
        · exact ⟨rfl, fun known => known.resolve_left fun some => some rfl⟩

/-! ## What the controller sends -/

/-- The lines of a step hold no report and leave the time of the last STATUS alone, or hold one
report and set that time. -/
inductive Beat (before after : ℤ) (sent : List (ℤ × Bytes)) : Prop where
  | silent : reportStamps δ sent = [] → after = before → Beat before after sent
  | report : reportStamps δ sent = [after] → Beat before after sent

theorem lineReport_statusEvt (nowMs : ℤ) (state : TmcState) :
    lineReport δ .tmc nowMs (lineText (tmcStatusEvt state : Message δ) ++ [10]) = some nowMs := by
  have readable := readable_statusEvt (δ := δ) state
  rw [lineReport, readable.plain.lineParse_lineText readable.role readable.type]
  rfl

/-- A line that is read as no event is no report. -/
theorem lineReport_of_readable {m : Message δ} (readable : Readable m) (other : m.role ≠ .evt)
    (id : ModuleId) (nowMs : ℤ) : lineReport δ id nowMs (lineText m ++ [10]) = none := by
  rw [lineReport, readable.plain.lineParse_lineText readable.role readable.type, Option.bind_some,
    if_neg other]

theorem reportStamps_statusEvt (stamp : ℤ) (state : TmcState) :
    reportStamps δ [(stamp, lineText (tmcStatusEvt state : Message δ) ++ [10])] = [stamp] := by
  rw [reportStamps, List.filterMap_cons, lineReport_statusEvt]
  rfl

/-- **A tick** lets no second pass without a STATUS. -/
theorem tickStateMachine_beat (ctx : TmcCtx) {nowMs doneMs repeatMs : ℤ} (done : nowMs ≤ doneMs)
    (repeated : doneMs ≤ repeatMs) :
    let ticked := tickStateMachine δ ctx nowMs doneMs repeatMs true true
    Beat (δ := δ) ctx.lastStatusSentMs ticked.1.lastStatusSentMs
        (ticked.2.map fun line => (ticked.1.lastStatusSentMs, line)) ∧
      nowMs ≤ ticked.1.lastStatusSentMs + 999 ∧
      (ticked.1.lastStatusSentMs = ctx.lastStatusSentMs ∨
        ticked.1.lastStatusSentMs ≤ repeatMs) := by
  simp only [tickStateMachine, sendStatusEvt_sent]
  by_cases due : ctx.state = .transferring ∧ 0 < ctx.transferStartedMs ∧
      2000 ≤ nowMs - ctx.transferStartedMs
  · -- The transfer is over: its STATUS is younger than a second.
    have early : ¬ 1000 ≤ nowMs - doneMs := by omega
    simp only [if_pos due, if_neg early]
    exact ⟨.report (reportStamps_statusEvt doneMs .done), by omega, .inr repeated⟩
  · simp only [if_neg due]
    by_cases late : 1000 ≤ nowMs - ctx.lastStatusSentMs
    · rw [if_pos late]
      exact ⟨.report (reportStamps_statusEvt repeatMs ctx.state), by dsimp only; omega,
        .inr le_rfl⟩
    · rw [if_neg late]
      exact ⟨.silent rfl rfl, by dsimp only; omega, .inl rfl⟩

/-- **A line** makes the controller send a STATUS only if it stamps it. -/
theorem tmcServeLine_beat (ctx : TmcCtx) (line : Bytes) (startMs statusMs : ℤ) :
    let served := tmcServeLine δ ctx line startMs statusMs true true
    Beat (δ := δ) ctx.lastStatusSentMs served.ctx.lastStatusSentMs
        (served.sent.map fun line => (statusMs, line)) ∧
      (served.ctx.lastStatusSentMs = ctx.lastStatusSentMs ∨
        served.ctx.lastStatusSentMs = statusMs) := by
  intro served
  rcases tmcServeLine_cases (δ := δ) ctx line startMs statusMs true true with
    passed | ⟨m, _, _, handled⟩
  · have same : served = ⟨ctx, 0, []⟩ := passed
    rw [same]
    exact ⟨.silent rfl rfl, .inl rfl⟩
  have same : served = handleReqMessage ctx m startMs statusMs true true := handled
  by_cases isReq : m.role = .req
  · have step := handleReqMessage_step ctx m isReq startMs statusMs
    rw [← same] at step
    generalize served = result at step
    cases step with
    | unmoved resp unmoved =>
        have answers := unmoved.answers
        refine ⟨.silent ?_ rfl, .inl rfl⟩
        rw [reportStamps, List.map_singleton, List.filterMap_cons,
          lineReport_of_readable answers.toReadable (by rw [answers.isResp]; decide)]
        rfl
    | accepted state timer move =>
        have answers := move.answers
        refine ⟨.report ?_, .inr rfl⟩
        rw [List.map_cons, reportStamps, List.filterMap_cons,
          lineReport_of_readable answers.toReadable (by rw [answers.isResp]; decide)]
        exact reportStamps_statusEvt statusMs state
  · rw [same, handleReqMessage, if_pos isReq]
    exact ⟨.silent rfl rfl, .inl rfl⟩

/-! ## The heartbeat -/

/-- When equipmentd heard the controller last, if it did. -/
def heardAt (ctx : AppCtx δ) : List ℤ :=
  if 0 < (ctx.moduleRegistry.get .tmc).lastUpdateMs then
    [(ctx.moduleRegistry.get .tmc).lastUpdateMs]
  else []

/-- The reports are a steady heartbeat. -/
structure Beating (cadence : ℤ) (s : TmcLink δ) : Prop where
  steady : Steady (cadence + 999) s.tmc.lastStatusSentMs (heardAt s.ctx ++ reportStamps δ s.wire)
  sent : s.tickMs ≤ s.tmc.lastStatusSentMs + 999
  past : s.tmc.lastStatusSentMs ≤ s.clockMs
  ticked : s.tickMs ≤ s.clockMs
  stamps : ∀ stamp ∈ reportStamps δ s.wire, stamp ≤ s.clockMs
  positive : 0 < s.clockMs
  known : 0 ≤ (s.ctx.moduleRegistry.get .tmc).lastUpdateMs ∧
    (0 < (s.ctx.moduleRegistry.get .tmc).lastUpdateMs →
      (s.ctx.moduleRegistry.get .tmc).registered = true)

theorem reportStamps_append (first second : List (ℤ × Bytes)) :
    reportStamps δ (first ++ second) = reportStamps δ first ++ reportStamps δ second :=
  List.filterMap_append ..

/-- What a step of the controller sends in time keeps the heartbeat steady. -/
theorem Beat.steady {before after gap : ℤ} {heard : List ℤ} {wire sent : List (ℤ × Bytes)}
    (beat : Beat (δ := δ) before after sent) (inTime : after ≤ before + gap)
    (steady : Steady gap before (heard ++ reportStamps δ wire)) :
    Steady gap after (heard ++ reportStamps δ (wire ++ sent)) := by
  rw [reportStamps_append]
  cases beat with
  | silent none same =>
      rw [none, List.append_nil, same]
      exact steady
  | report one =>
      rw [one, ← List.append_assoc]
      exact steady.send inTime

/-- The stamps it adds are its own. -/
theorem Beat.stamps {before after : ℤ} {wire sent : List (ℤ × Bytes)}
    (beat : Beat (δ := δ) before after sent) {stamp : ℤ}
    (member : stamp ∈ reportStamps δ (wire ++ sent)) :
    stamp ∈ reportStamps δ wire ∨ stamp = after := by
  rw [reportStamps_append] at member
  refine (List.mem_append.mp member).imp_right fun own => ?_
  cases beat with
  | silent none =>
      rw [none] at own
      cases own
  | report one =>
      rw [one] at own
      exact List.mem_singleton.mp own

/-- **A report is heard** when it is served. -/
theorem heardAt_serveLine (fd : ℤ) (ctx : AppCtx δ) (line : Bytes) {nowMs : ℤ}
    (positive : 0 < nowMs) (writeOk : Bool) : heardAt (serveLine fd ctx line nowMs writeOk).ctx =
      (lineReport δ .tmc nowMs line).elim (heardAt ctx) fun _ => [nowMs] := by
  rw [heardAt, (serveLine_stamp .tmc fd ctx line nowMs writeOk).1]
  cases report : lineReport δ .tmc nowMs line with
  | none => rfl
  | some t =>
      cases eq_of_lineReport report
      exact if_pos positive

/-- A line served leaves the record of the controller as it should be. -/
theorem known_serveLine {ctx : AppCtx δ}
    (known : 0 ≤ (ctx.moduleRegistry.get .tmc).lastUpdateMs ∧
      (0 < (ctx.moduleRegistry.get .tmc).lastUpdateMs →
        (ctx.moduleRegistry.get .tmc).registered = true))
    (fd : ℤ) (line : Bytes) {nowMs : ℤ} (positive : 0 < nowMs) (writeOk : Bool) :
    0 ≤ ((serveLine fd ctx line nowMs writeOk).ctx.moduleRegistry.get .tmc).lastUpdateMs ∧
      (0 < ((serveLine fd ctx line nowMs writeOk).ctx.moduleRegistry.get .tmc).lastUpdateMs →
        ((serveLine fd ctx line nowMs writeOk).ctx.moduleRegistry.get .tmc).registered = true) := by
  obtain ⟨stamp, registers⟩ := serveLine_stamp .tmc fd ctx line nowMs writeOk
  rw [stamp]
  cases report : lineReport δ .tmc nowMs line with
  | none => exact ⟨known.1, fun heard => registers (.inr (known.2 heard))⟩
  | some t =>
      cases eq_of_lineReport report
      exact ⟨positive.le, fun _ => registers (.inl (by rw [report]; exact Option.some_ne_none _))⟩

/-- **The controller sends in time.** -/
theorem Beating.sends {cadence : ℤ} {s : TmcLink δ} (beating : Beating cadence s) {tmc : TmcCtx}
    {sent : List (ℤ × Bytes)} {tickMs clockMs : ℤ}
    (beat : Beat (δ := δ) s.tmc.lastStatusSentMs tmc.lastStatusSentMs sent)
    (inTime : tmc.lastStatusSentMs ≤ s.tmc.lastStatusSentMs + (cadence + 999))
    (recent : tickMs ≤ tmc.lastStatusSentMs + 999) (past : tmc.lastStatusSentMs ≤ clockMs)
    (ticked : tickMs ≤ clockMs) (later : s.clockMs ≤ clockMs) :
    Beating cadence
      { s with tmc := tmc, wire := s.wire ++ sent, tickMs := tickMs, clockMs := clockMs } where
  steady := beat.steady inTime beating.steady
  sent := recent
  past := past
  ticked := ticked
  stamps stamp member := by
    rcases beat.stamps member with old | rfl
    · exact (beating.stamps stamp old).trans later
    · exact past
  positive := beating.positive.trans_le later
  known := beating.known

/-- **equipmentd serves a line**, which is the oldest report on its way when that is taken. -/
theorem Beating.hears {cadence : ℤ} (ticks : 0 ≤ cadence) {s : TmcLink δ}
    (beating : Beating cadence s) (fd : ℤ) (line : Bytes) {nowMs : ℤ} (later : s.clockMs ≤ nowMs)
    (writeOk : Bool) (taken : List ℤ) {wire : List (ℤ × Bytes)}
    (rest : reportStamps δ s.wire = taken ++ reportStamps δ wire)
    (silent : lineReport δ .tmc nowMs line = none → taken = []) :
    Beating cadence
      { s with ctx := (serveLine fd s.ctx line nowMs writeOk).ctx, wire := wire, clockMs := nowMs }
    where
  steady := by
    have positive : 0 < nowMs := beating.positive.trans_le later
    have steady := beating.steady
    rw [rest] at steady
    dsimp only
    rw [heardAt_serveLine fd s.ctx line positive writeOk]
    cases report : lineReport δ .tmc nowMs line with
    | none =>
        rw [silent report] at steady
        exact steady
    | some t =>
        refine steady.of_append.of_append.notice (by omega) (beating.past.trans later) ?_
        intro stamp member
        have old : stamp ∈ reportStamps δ s.wire := by
          rw [rest]
          exact List.mem_append_right taken member
        exact (beating.stamps stamp old).trans later
  sent := beating.sent
  past := beating.past.trans later
  ticked := beating.ticked.trans later
  stamps stamp member := by
    have old : stamp ∈ reportStamps δ s.wire := by
      rw [rest]
      exact List.mem_append_right taken member
    exact (beating.stamps stamp old).trans later
  positive := beating.positive.trans_le later
  known := known_serveLine beating.known fd line (beating.positive.trans_le later) writeOk

/-- Time passes and the record of the controller is left alone, but for its health. -/
theorem Beating.passes {cadence : ℤ} {s : TmcLink δ} (beating : Beating cadence s) {ctx : AppCtx δ}
    {clockMs : ℤ} (later : s.clockMs ≤ clockMs)
    (stamp : (ctx.moduleRegistry.get .tmc).lastUpdateMs =
      (s.ctx.moduleRegistry.get .tmc).lastUpdateMs)
    (registered : (ctx.moduleRegistry.get .tmc).registered =
      (s.ctx.moduleRegistry.get .tmc).registered) :
    Beating cadence { s with ctx := ctx, clockMs := clockMs } where
  steady := by
    have same : heardAt ctx = heardAt s.ctx := by rw [heardAt, heardAt, stamp]
    dsimp only
    rw [same]
    exact beating.steady
  sent := beating.sent
  past := beating.past.trans later
  ticked := beating.ticked.trans later
  stamps stamp member := (beating.stamps stamp member).trans later
  positive := beating.positive.trans_le later
  known := by
    dsimp only
    rw [stamp, registered]
    exact beating.known

/-- **One step** keeps the heartbeat. -/
theorem Beating.step {cadence delay : ℤ} (ticks : 0 ≤ cadence) {s : TmcLink δ} {input : LinkInput}
    (beating : Beating cadence s) (timely : Timely cadence delay s input) :
    Beating cadence (linkMachine.step s input).1 := by
  have past := beating.past
  have sent := beating.sent
  cases input with
  | tick nowMs doneMs repeatMs =>
      obtain ⟨now, done, repeated, inTime⟩ := timely
      obtain ⟨beat, recent, stamped⟩ := tickStateMachine_beat (δ := δ) s.tmc done repeated
      exact beating.sends beat (by omega) recent (by omega) (by omega) (by omega)
  | request line startMs statusMs =>
      obtain ⟨start, status, inTime⟩ := timely
      obtain ⟨beat, stamped⟩ := tmcServeLine_beat (δ := δ) s.tmc line startMs statusMs
      have tick := beating.ticked
      exact beating.sends beat (by omega) (by omega) (by omega) (by omega) (by omega)
  | deliver fd nowMs writeOk =>
      cases wire : s.wire with
      | nil =>
          have still : (linkMachine.step s (.deliver fd nowMs writeOk)).1 = s := by
            simp only [linkMachine, wire]
          rw [still]
          exact beating
      | cons first rest =>
          have served : (linkMachine.step s (.deliver fd nowMs writeOk)).1 =
              { s with
                ctx := (serveLine fd s.ctx first.2 nowMs writeOk).ctx
                wire := rest
                clockMs := nowMs } := by
            simp only [linkMachine, wire]
          rw [served]
          refine beating.hears ticks fd first.2 timely writeOk
            (lineReport δ .tmc first.1 first.2).toList ?_ fun silent => ?_
          · rw [wire, reportStamps, List.filterMap_cons]
            cases lineReport δ .tmc first.1 first.2 <;> rfl
          · rw [lineReport_eq_none silent]
            rfl
  | control control =>
      cases control with
      | line fd text nowMs writeOk =>
          exact beating.hears ticks fd text timely writeOk [] rfl fun _ => rfl
      | runScheduler healthMs createdMs writeOk =>
          obtain ⟨now, created, _⟩ := timely
          have renewed := runScheduler_registry s.ctx healthMs createdMs writeOk
          refine beating.passes (now.trans created) ?_ ?_
          · exact congrArg (fun reg => (reg.get .tmc).lastUpdateMs) renewed
          · exact congrArg (fun reg => (reg.get .tmc).registered) renewed
      | sweepRequests nowMs => exact beating.passes timely rfl rfl
      | dropLinks fd => exact beating.passes le_rfl rfl rfl

/-- When the controller was heard at all, it was heard within the gap and the delay. -/
theorem Beating.fresh {cadence delay : ℤ} (noDelay : 0 ≤ delay) {s : TmcLink δ}
    (beating : Beating cadence s) {nowMs : ℤ} (inTime : nowMs ≤ s.tickMs + cadence)
    (arriving : ∀ sent ∈ s.wire, nowMs ≤ sent.1 + delay)
    (heard : 0 < (s.ctx.moduleRegistry.get .tmc).lastUpdateMs) :
    nowMs ≤ (s.ctx.moduleRegistry.get .tmc).lastUpdateMs + (cadence + 999 + delay) := by
  have steady := beating.steady
  have sent := beating.sent
  rw [heardAt, if_pos heard] at steady
  refine steady.fresh noDelay (by omega) fun stamp member => ?_
  obtain ⟨line, onWire, report⟩ := List.mem_filterMap.mp member
  rw [eq_of_lineReport report]
  exact arriving line onWire

/-- **A controller that beats is found healthy.** -/
theorem Beating.healthy {cadence delay : ℤ} (noDelay : 0 ≤ delay) (within : cadence + delay ≤ 2001)
    {s : TmcLink δ} (beating : Beating cadence s) {input : LinkInput}
    (timely : Timely cadence delay s input) : FoundHealthy s input := by
  cases input with
  | control control =>
      cases control with
      | runScheduler healthMs createdMs writeOk =>
          obtain ⟨now, _, inTime, arriving⟩ := timely
          obtain ⟨nonneg, registers⟩ := beating.known
          rw [FoundHealthy, runScheduler_registry]
          change (!moduleRegistryIsStale s.ctx.moduleRegistry.tmc healthMs moduleStaleMs) = true ↔ _
          rw [Bool.not_eq_true']
          have heard := beating.fresh noDelay inTime arriving
          by_cases reported : 0 < s.ctx.moduleRegistry.tmc.lastUpdateMs
          · have recent := heard reported
            refine iff_of_true ?_ reported.ne'
            have registered : s.ctx.moduleRegistry.tmc.registered = true := registers reported
            change healthMs ≤ s.ctx.moduleRegistry.tmc.lastUpdateMs + _ at recent
            rw [moduleRegistryIsStale, registered, if_neg (by simp), if_neg (not_le.mpr reported),
              decide_eq_false_iff_not, moduleStaleMs]
            omega
          · have never : s.ctx.moduleRegistry.tmc.lastUpdateMs = 0 :=
              le_antisymm (not_lt.mp reported) nonneg
            refine iff_of_false ?_ (not_not.mpr never)
            simp [moduleRegistryIsStale, never]
      | _ => trivial
  | _ => trivial

omit [CDouble δ] in
instance decidableTimely (cadence delay : ℤ) (s : TmcLink δ) :
    ∀ input, Decidable (Timely cadence delay s input)
  | .tick nowMs doneMs repeatMs => inferInstanceAs (Decidable (s.clockMs ≤ nowMs ∧
      nowMs ≤ doneMs ∧ doneMs ≤ repeatMs ∧ repeatMs ≤ s.tickMs + cadence))
  | .request _ startMs statusMs => inferInstanceAs (Decidable (s.clockMs ≤ startMs ∧
      startMs ≤ statusMs ∧ statusMs ≤ s.tickMs + cadence))
  | .deliver _ nowMs _ => inferInstanceAs (Decidable (s.clockMs ≤ nowMs))
  | .control (.runScheduler healthMs createdMs _) => inferInstanceAs (Decidable (
      s.clockMs ≤ healthMs ∧ healthMs ≤ createdMs ∧ healthMs ≤ s.tickMs + cadence ∧
        ∀ sent ∈ s.wire, healthMs ≤ sent.1 + delay))
  | .control (.line _ _ nowMs _) => inferInstanceAs (Decidable (s.clockMs ≤ nowMs))
  | .control (.sweepRequests nowMs) => inferInstanceAs (Decidable (s.clockMs ≤ nowMs))
  | .control (.dropLinks _) => isTrue trivial

end Link

end EquipmentControl
