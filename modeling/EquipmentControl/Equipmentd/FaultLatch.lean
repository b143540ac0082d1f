import EquipmentControl.Equipmentd.ControlRuns

/-!
# The fault latch

The router latches a fault when a module reports FAULT, and a positively acknowledged RESET of the
module clears the latch (`fault_latched` in `services/equipmentd/src/router.c` and `main.c`). The
scheduler is meant to send no START in between, but nothing reads the latch. It does stay set
until the RESET, and a START is sent exactly when the recorded states of the chambers and the job
ask for one (`latched_starts_iff`). `latched_chamber_started` is a chamber that left FAULT by
itself and is started with its latch set.
-/

set_option autoImplicit false

namespace EquipmentControl

open InputMachine

section Latch

variable {δ : Type}

/-- The fault latch of a module is set. -/
def Latched (id : ModuleId) (ctx : AppCtx δ) : Prop :=
  (ctx.moduleRegistry.get id).faultLatched = true

/-- No turn of the scheduler with a write that succeeds finds a START due. -/
def NoStartDue (ctx : AppCtx δ) : ControlInput → Prop
  | .runScheduler healthMs _ writeOk => writeOk = true → ¬ StartDue ctx healthMs
  | _ => True

variable [CDouble δ]

/-- A line positively acknowledges a RESET of a module. -/
def AcksReset (id : ModuleId) (ctx : AppCtx δ) : ControlInput → Prop
  | .line fd text _ _ => ∃ m ∈ (lineParse text : Option (Message δ)),
      ∃ i ∈ matchPending fd ctx m, (ctx.tracker i).type = .reset ∧
        (ctx.tracker i).dev = id.devId ∧ m.type ≠ .error ∧ m.ok = some 1
  | _ => False

/-- The scheduler sends no START. -/
def SendsNoStart (ctx : AppCtx δ) : ControlInput → Prop
  | .runScheduler healthMs createdMs writeOk =>
      (runScheduler ctx healthMs createdMs writeOk).2 = none
  | _ => True

/-! ## The latch stays set -/

/-- No event clears a latch. -/
theorem handleEvt_latched {reg : ModuleRegistry δ} {id : ModuleId}
    (latched : (reg.get id).faultLatched = true) (nowMs : ℤ) (m : Message δ) :
    ((handleEvt reg nowMs m).get id).faultLatched = true := by
  rcases handleEvt_cases reg nowMs m with
    same | ⟨target, dev, _, _, same | ⟨_, _, _, same⟩ | same⟩ <;> rw [same]
  · exact latched
  all_goals
    by_cases here : id = target
    · subst here
      rw [ModuleRegistry.get_modify_self]
      simp [identifyModule, recordStatus, recordTelemetry, moduleRegistryTouchStatus,
        moduleRegistryTouchTelemetry, latched]
    · rw [ModuleRegistry.get_modify_of_ne reg _ here]
      exact latched

/-- A line leaves a latch set unless it acknowledges a RESET of the module. -/
theorem serveLine_latched {ctx : AppCtx δ} {id : ModuleId} (latched : Latched id ctx) (fd : ℤ)
    (text : Bytes) (nowMs : ℤ) (writeOk : Bool)
    (noReset : ¬ AcksReset id ctx (.line fd text nowMs writeOk)) :
    Latched id (serveLine fd ctx text nowMs writeOk).ctx := by
  rw [Latched, (serveLine_frame fd ctx text nowMs writeOk).2]
  have step := handleOneLine_step fd ctx text nowMs writeOk
  generalize handleOneLine fd ctx text nowMs writeOk = result at step ⊢
  cases step with
  | replied out =>
      rw [replyTo_ctx]
      exact latched
  | registered m =>
      obtain ⟨_, _, attached⟩ := handleRegister_ctx fd ctx m writeOk
      rw [attached]
      exact latched
  | response m i parsed matched =>
      rcases handleResponse_ctx ctx m i writeOk with ⟨_, same⟩ | finished
      · rw [same]
        exact latched
      · rw [finished]
        refine (finishResponse_latch latched m i).resolve_right fun acks => ?_
        exact noReset ⟨m, parsed, i, matched, acks⟩
  | recorded m => exact handleEvt_latched latched nowMs m
  | _ => exact latched

/-- The scheduler's turn leaves every latch alone. -/
theorem runScheduler_latched {ctx : AppCtx δ} {id : ModuleId} (latched : Latched id ctx)
    (healthMs createdMs : ℤ) (writeOk : Bool) :
    Latched id (runScheduler ctx healthMs createdMs writeOk).1 := by
  have refreshed :
      ((refreshModuleHealth ctx.moduleRegistry healthMs).get id).faultLatched = true := by
    cases id <;> exact latched
  have turn := runScheduler_turn ctx healthMs createdMs writeOk
  generalize runScheduler ctx healthMs createdMs writeOk = after at turn ⊢
  cases turn <;> exact refreshed

/-- **A step leaves a latch set** unless it acknowledges a RESET of the module. -/
theorem controlMachine_latched {id : ModuleId} (ctx : AppCtx δ) (control : ControlInput)
    (latched : Latched id ctx) (noReset : ¬ AcksReset id ctx control) :
    Latched id (controlMachine.step ctx control).1 := by
  cases control with
  | line fd text nowMs writeOk => exact serveLine_latched latched fd text nowMs writeOk noReset
  | runScheduler healthMs createdMs writeOk =>
      exact runScheduler_latched latched healthMs createdMs writeOk
  | sweepRequests nowMs => exact latched
  | dropLinks fd => exact latched

/-! ## When a START is sent -/

theorem sendsNoStart_iff (ctx : AppCtx δ) (control : ControlInput) :
    SendsNoStart ctx control ↔ NoStartDue ctx control := by
  cases control with
  | runScheduler healthMs createdMs writeOk =>
      have sends := runScheduler_sends_iff ctx healthMs createdMs writeOk
      rw [SendsNoStart, NoStartDue, ← not_and, ← sends, not_not]
  | _ => rfl

/-- **With the fault of a module latched** and no RESET of it acknowledged, the latch stays set, and
the scheduler sends no START exactly when none of its turns finds one due. -/
theorem latched_starts_iff (id : ModuleId) (ctx : AppCtx δ) (latched : Latched id ctx)
    (controls : List ControlInput)
    (noReset : controlMachine.Along (fun s control => ¬ AcksReset id s control) ctx controls) :
    (∀ before, before <+: controls → Latched id (controlMachine.run ctx before)) ∧
      (controlMachine.Along SendsNoStart ctx controls ↔
        controlMachine.Along NoStartDue ctx controls) := by
  refine ⟨fun before isPrefix => ?_, Machine.along_congr sendsNoStart_iff⟩
  exact Machine.invariant_along controlMachine_latched latched (noReset.of_prefix isPrefix)

instance decidableAcksReset (id : ModuleId) (ctx : AppCtx δ) :
    ∀ control, Decidable (AcksReset id ctx control)
  | .line fd text _ _ => inferInstanceAs (Decidable (∃ m ∈ (lineParse text : Option (Message δ)),
      ∃ i ∈ matchPending fd ctx m, (ctx.tracker i).type = .reset ∧
        (ctx.tracker i).dev = id.devId ∧ m.type ≠ .error ∧ m.ok = some 1))
  | .runScheduler .. | .sweepRequests _ | .dropLinks _ => isFalse not_false

end Latch

/-- A process controller on descriptor 5, and a preclean chamber that reported FAULT and is now
recorded in a state. -/
def faultLatchedIn (state : String) : AppCtx ℚ where
  moduleRegistry :=
    { moduleRegistryInit with
      pmcPreclean := { chamberIn state with lastUpdateMs := 5, faultLatched := true } }
  pmcFd := 5
  tmcFd := -1
  tracker := requestTrackerInit
  nextSeq := 1000
  jobState := .idle

/-- While it is recorded in FAULT no START is due, whatever else is reset. -/
theorem latched_starts_fault :
    let controls := [.runScheduler 10 10 true, .line 7 (ascii "REQ RESET dev=2 seq=3\n") 20 true,
      .line 5 (ascii "RESP RESET dev=2 seq=3 ok=1\n") 30 true, .runScheduler 40 40 true]
    (∀ before, before <+: controls →
      Latched .pmcPreclean (controlMachine.run (faultLatchedIn "FAULT") before)) ∧
        (controlMachine.Along SendsNoStart (faultLatchedIn "FAULT") controls ↔
          controlMachine.Along NoStartDue (faultLatchedIn "FAULT") controls) :=
  latched_starts_iff .pmcPreclean _ (by rw [Latched]; rfl) _ (by decide)

/-- A chamber that left FAULT by itself is started with its latch set. -/
theorem latched_chamber_started :
    Latched .pmcPreclean (faultLatchedIn "IDLE") ∧
      controlMachine.Along (fun s control => ¬ AcksReset .pmcPreclean s control)
        (faultLatchedIn "IDLE") [.runScheduler 10 10 true] ∧
      controlMachine.outputs (faultLatchedIn "IDLE") [.runScheduler 10 10 true] =
        [some (5, ascii "REQ START dev=1 seq=1000\n")] ∧
      ¬ controlMachine.Along SendsNoStart (faultLatchedIn "IDLE") [.runScheduler 10 10 true] := by
  have sent : controlMachine.outputs (faultLatchedIn "IDLE") [.runScheduler 10 10 true] =
      [some (5, ascii "REQ START dev=1 seq=1000\n")] := by decide
  refine ⟨by rw [Latched]; rfl, ⟨not_false, trivial⟩, sent, ?_⟩
  rintro ⟨quiet, _⟩
  have silent : controlMachine.outputs (faultLatchedIn "IDLE") [.runScheduler 10 10 true] =
    [none] := congrArg (fun output => [output]) quiet
  cases silent.symm.trans sent

end EquipmentControl
