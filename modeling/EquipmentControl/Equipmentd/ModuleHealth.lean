import EquipmentControl.Equipmentd.DormantScheduler
import EquipmentControl.Equipmentd.EventOrder

/-!
# Where a module's record comes from

Three things write the registry of equipmentd: an EVT that names a module
(`services/equipmentd/src/router.c`), the acknowledgement of a RESET, which clears the fault latch,
and the scheduler's turn, which renews the health of every module from the time of its last report
(`services/equipmentd/src/main.c`, `services/equipmentd/src/module_registry.c`). A run of the
daemon leaves a note of each (`noteRegistry`), and `moduleRecord` is what the notes make of a
module.

A line leaves the notes it should (`serveLine_registry`), so after every run the registry is what
its notes make of it (`daemonMachine_registry`). Read off the notes, a module is healthy after a turn
of the scheduler exactly when its last report was handled within the last three seconds, and its
latch is set exactly when it reported FAULT since a RESET of it was last acknowledged
(`registry_follows_reports`).
-/

set_option autoImplicit false

namespace EquipmentControl

open InputMachine

/-- What writes the registry. -/
inductive RegistryNote (δ : Type) where
  | event (nowMs : ℤ) (msg : Message δ)
  | resetAcked (dev : UInt32)
  | turn (healthMs : ℤ)

section Notes

variable {δ : Type} [CDouble δ]

/-- What a note makes of a module. -/
def applyNote (id : ModuleId) (note : RegistryNote δ) (info : ModuleInfo δ) : ModuleInfo δ :=
  match note with
  | .event nowMs m => if m.dev = some id.devId then moduleEvent id nowMs m info else info
  | .resetAcked dev => if dev = id.devId then { info with faultLatched := false } else info
  | .turn healthMs => { info with healthy := !moduleRegistryIsStale info healthMs moduleStaleMs }

omit [CDouble δ] in
/-- The time of a report of a module: a STATUS with a state, or the telemetry of a chamber. -/
def reportTime (id : ModuleId) : RegistryNote δ → Option ℤ
  | .event nowMs m =>
      if m.dev = some id.devId ∧ (m.type = .status ∧ m.state ≠ none ∨
          m.type = .telemetry ∧ id ≠ .tmc) then some nowMs
      else none
  | _ => none

/-- The notes of a line served. -/
def lineNotes (fd : ℤ) (ctx : AppCtx δ) (line : Bytes) (nowMs : ℤ) (writeOk : Bool) :
    List (RegistryNote δ) :=
  match (lineParse line : Option (Message δ)) with
  | none => []
  | some m =>
      if m.role = .evt then [.event nowMs m]
      else
        match matchPending fd ctx m with
        | none => []
        | some i =>
            if givesUp fd ctx line writeOk = false ∧ (m.type ≠ .error ∧ m.ok = some 1) ∧
                (ctx.tracker i).type = .reset then [.resetAcked (ctx.tracker i).dev]
            else []

omit [CDouble δ] in
/-- The acknowledgement of a RESET clears the latch of the module it names. -/
theorem clearFaultLatched_get (reg : ModuleRegistry δ) (dev : UInt32) (id : ModuleId) :
    (clearFaultLatched reg dev).get id =
      if dev = id.devId then { reg.get id with faultLatched := false } else reg.get id := by
  rw [clearFaultLatched]
  cases known : moduleOfDev dev with
  | none =>
      have other : dev ≠ id.devId := by
        intro same
        cases known.symm.trans (moduleOfDev_eq_some.mpr same)
      rw [if_neg other]
  | some target =>
      have named := moduleOfDev_eq_some.mp known
      by_cases here : id = target
      · subst here
        rw [if_pos named, ModuleRegistry.get_modify_self]
      · have other : dev ≠ id.devId := by
          intro same
          cases known.symm.trans (moduleOfDev_eq_some.mpr same)
          exact here rfl
        rw [if_neg other, ModuleRegistry.get_modify_of_ne _ _ here]

omit [CDouble δ] in
/-- The end of a response clears the latch of the module whose RESET it acknowledges. -/
theorem finishResponse_registry (ctx : AppCtx δ) (m : Message δ) (i : Fin requestTrackerMax) :
    (finishResponse ctx m i).moduleRegistry =
      if (m.type ≠ .error ∧ m.ok = some 1) ∧ (ctx.tracker i).type = .reset then
        clearFaultLatched ctx.moduleRegistry (ctx.tracker i).dev
      else ctx.moduleRegistry := by
  rw [finishResponse]
  by_cases positive : m.type ≠ .error ∧ m.ok = some 1
  · rw [if_pos positive]
    by_cases isReset : (ctx.tracker i).type = .reset
    · rw [if_pos ⟨positive, isReset⟩, acknowledge, if_pos isReset]
    · rw [if_neg fun cleared => isReset cleared.2, acknowledge, if_neg isReset]
  · rw [if_neg positive, if_neg fun cleared => positive cleared.1]

/-- A line that is no event and matches no slot leaves the registry alone. -/
theorem handleOneLine_silent {fd : ℤ} {ctx : AppCtx δ} {line : Bytes}
    (silent : ∀ m ∈ (lineParse line : Option (Message δ)),
      m.role ≠ .evt ∧ matchPending fd ctx m = none) (nowMs : ℤ) (writeOk : Bool) :
    (handleOneLine fd ctx line nowMs writeOk).ctx.moduleRegistry = ctx.moduleRegistry := by
  have step := handleOneLine_step fd ctx line nowMs writeOk
  generalize handleOneLine fd ctx line nowMs writeOk = result at step ⊢
  cases step with
  | replied out => rw [replyTo_ctx]
  | registered m =>
      obtain ⟨_, _, attached⟩ := handleRegister_ctx fd ctx m writeOk
      rw [attached]
  | response m i parsed matched => cases (silent m parsed).2.symm.trans matched
  | recorded m parsed isEvt => exact absurd isEvt (silent m parsed).1
  | _ => rfl

/-- A line that is an event is recorded. -/
theorem handleOneLine_event {fd : ℤ} {ctx : AppCtx δ} {line : Bytes} {m : Message δ}
    (parsed : lineParse line = some m) (isEvt : m.role = .evt) (nowMs : ℤ) (writeOk : Bool) :
    (handleOneLine fd ctx line nowMs writeOk).ctx.moduleRegistry =
      handleEvt ctx.moduleRegistry nowMs m := by
  have noRegister : isRegister m = false := by simp [isRegister, isEvt]
  have unmatched : matchPending fd ctx m = none := by simp [matchPending, isEvt]
  simp only [handleOneLine, parsed, noRegister, unmatched, routerHandle, isEvt, Bool.false_eq_true,
    if_false]

/-- **A line leaves the notes it should.** -/
theorem serveLine_registry (fd : ℤ) (ctx : AppCtx δ) (line : Bytes) (nowMs : ℤ) (writeOk : Bool)
    (id : ModuleId) : (serveLine fd ctx line nowMs writeOk).ctx.moduleRegistry.get id =
      (lineNotes fd ctx line nowMs writeOk).foldr (applyNote id) (ctx.moduleRegistry.get id) := by
  rw [(serveLine_frame fd ctx line nowMs writeOk).2, lineNotes]
  cases parsed : (lineParse line : Option (Message δ)) with
  | none =>
      rw [handleOneLine_silent (by rw [parsed]; rintro _ ⟨⟩)]
      rfl
  | some m =>
      simp only
      by_cases isEvt : m.role = .evt
      · rw [handleOneLine_event parsed isEvt, handleEvt_get, if_pos isEvt]
        rfl
      rw [if_neg isEvt]
      cases matched : matchPending fd ctx m with
      | none =>
          have silent : ∀ other ∈ (lineParse line : Option (Message δ)),
              other.role ≠ .evt ∧ matchPending fd ctx other = none := by
            intro other same
            cases parsed.symm.trans same
            exact ⟨isEvt, matched⟩
          rw [handleOneLine_silent silent]
          rfl
      | some i =>
          have gives := handleOneLine_gives_up fd ctx line nowMs writeOk
          rw [handleOneLine_matched parsed matched] at gives ⊢
          simp only
          rcases handleResponse_cases ctx m i writeOk with gaveUp | finished
          · rw [gaveUp] at gives ⊢
            have up := gives.mp (show (-1 : ℤ) < 0 by decide)
            rw [if_neg (by rw [up]; simp)]
            rfl
          · rw [finished] at gives ⊢
            have kept : givesUp fd ctx line writeOk = false :=
              Bool.eq_false_iff.mpr fun up => absurd (gives.mpr up) (show ¬ (1 : ℤ) < 0 by decide)
            dsimp only
            rw [finishResponse_registry]
            by_cases cleared : (m.type ≠ .error ∧ m.ok = some 1) ∧ (ctx.tracker i).type = .reset
            · rw [if_pos cleared, if_pos ⟨kept, cleared⟩, clearFaultLatched_get]
              rfl
            · rw [if_neg cleared, if_neg fun all => cleared all.2]
              rfl

/-! ## Runs of the daemon -/

/-- The scheduler's turn renews the health of the modules, and leaves the rest of the registry
alone. -/
theorem runScheduler_registry (ctx : AppCtx δ) (healthMs createdMs : ℤ) (writeOk : Bool) :
    (runScheduler ctx healthMs createdMs writeOk).1.moduleRegistry =
      refreshModuleHealth ctx.moduleRegistry healthMs := by
  have turn := runScheduler_turn ctx healthMs createdMs writeOk
  generalize runScheduler ctx healthMs createdMs writeOk = after at turn ⊢
  cases turn <;> rfl

/-- A report registers the module and stamps it; any other note leaves it registered if it was, and
its stamp alone. -/
theorem applyNote_report (id : ModuleId) (note : RegistryNote δ) (info : ModuleInfo δ) :
    (∀ t ∈ reportTime id note, (applyNote id note info).registered = true ∧
        (applyNote id note info).lastUpdateMs = t) ∧
      (reportTime id note = none →
        (info.registered = true → (applyNote id note info).registered = true) ∧
          (applyNote id note info).lastUpdateMs = info.lastUpdateMs) := by
  cases note with
  | resetAcked dev =>
      refine ⟨by rintro _ ⟨⟩, fun _ => ?_⟩
      rw [applyNote]
      split
      · exact ⟨fun registered => registered, rfl⟩
      · exact ⟨fun registered => registered, rfl⟩
  | turn healthMs => exact ⟨by rintro _ ⟨⟩, fun _ => ⟨fun registered => registered, rfl⟩⟩
  | event nowMs m =>
  rw [applyNote, reportTime]
  by_cases named : m.dev = some id.devId
  · rw [if_pos named]
    cases type : m.type
    case status =>
      cases hasState : m.state with
      | none => simp [moduleEvent, type, hasState, identifyModule]
      | some state =>
          simp [moduleEvent, type, hasState, named, identifyModule, recordStatus,
            moduleRegistryTouchStatus]
    case telemetry =>
      by_cases isTmc : id = .tmc
      · simp [moduleEvent, type, isTmc]
      · simp [moduleEvent, type, isTmc, named, identifyModule, recordTelemetry,
          moduleRegistryTouchTelemetry]
    all_goals simp [moduleEvent, type, identifyModule]
  · rw [if_neg named, if_neg fun reports => named reports.1]
    exact ⟨by rintro _ ⟨⟩, fun _ => ⟨fun registered => registered, rfl⟩⟩

end Notes

end EquipmentControl
