import EquipmentControl.Equipmentd.Router
import EquipmentControl.Library.Machine

/-!
# What the registry records of a module's state

The scheduler reads `has_state` and `current_state` of a module. The router is meant to keep
them at the last state the module reported: `Recorded` says so, together with the time of the
last change of state. No event writes either of the two fields, so a module's state is recorded
exactly when the module never reported one (`recorded_iff_no_reports`).
-/

set_option autoImplicit false

namespace EquipmentControl

open InputMachine

/-- One call of `router_handle` on the registry. -/
structure RouterCall (δ : Type) where
  nowMs : ℤ
  pmcFd : ℤ
  tmcFd : ℤ
  msg : Message δ

section Recording

variable {δ : Type} [CDouble δ]

/-- The router as a machine on the registry. -/
def routerMachine : Machine (ModuleRegistry δ) (RouterCall δ) (RouterResult δ) where
  step reg call := routerHandle reg call.pmcFd call.tmcFd call.nowMs call.msg

/-- The registry after a sequence of calls. -/
def registryAfter (calls : List (RouterCall δ)) : ModuleRegistry δ :=
  routerMachine.run moduleRegistryInit calls

/-- The states a module reported by EVT STATUS, with their arrival times, in order. -/
def stateReports (id : ModuleId) (calls : List (RouterCall δ)) : List (ℤ × CString 31) :=
  calls.filterMap fun call =>
    if call.msg.role = .evt ∧ call.msg.type = .status ∧ call.msg.dev = some id.devId then
      call.msg.state.map fun state => (call.nowMs, state)
    else none

/-- The time of the most recent report whose state differs from the one before it, in a list
with the most recent report first. The first report counts as a change. -/
def lastChangeOfRecent : List (ℤ × CString 31) → Option ℤ
  | [] => none
  | [(nowMs, _)] => some nowMs
  | (nowMs, state) :: (before, old) :: rest =>
      if state ≠ old then some nowMs else lastChangeOfRecent ((before, old) :: rest)

def lastChange (reports : List (ℤ × CString 31)) : Option ℤ := lastChangeOfRecent reports.reverse

/-- The registry holds the last state a module reported and the time of its last change, or
no state when none was reported. -/
structure Recorded (id : ModuleId) (calls : List (RouterCall δ)) : Prop where
  reported : ∀ last ∈ (stateReports id calls).getLast?,
    ((registryAfter calls).get id).hasState = true ∧
      ((registryAfter calls).get id).currentState = last.2 ∧
      lastChange (stateReports id calls) = some ((registryAfter calls).get id).lastStateChangeMs
  silent : stateReports id calls = [] → ((registryAfter calls).get id).hasState = false

/-- After any sequence of calls no module has a state. -/
theorem registryAfter_hasState (id : ModuleId) (calls : List (RouterCall δ)) :
    ((registryAfter calls).get id).hasState = false := by
  refine Machine.invariant (M := routerMachine)
    (I := fun reg : ModuleRegistry δ => (reg.get id).hasState = false) ?_ ?_ calls
  · intro reg call none
    exact (routerHandle_hasState reg call.pmcFd call.tmcFd call.nowMs call.msg id).trans none
  · cases id <;> rfl

/-- **A module's state is recorded exactly when the module reported none.** -/
theorem recorded_iff_no_reports (id : ModuleId) (calls : List (RouterCall δ)) :
    Recorded id calls ↔ stateReports id calls = [] := by
  have never := registryAfter_hasState id calls
  constructor
  · intro recorded
    by_contra some
    have last := List.getLast?_eq_some_getLast some
    have := (recorded.reported _ last).1
    rw [never] at this
    cases this
  · intro none
    refine ⟨fun last member => ?_, fun _ => never⟩
    rw [none] at member
    cases member

end Recording

/-- The preclean chamber reports that it is idle. -/
def idleReport : RouterCall ℚ where
  nowMs := 5
  pmcFd := 4
  tmcFd := -1
  msg := { role := .evt, type := .status, dev := some 1, state := some (strncpy 31 (ascii "IDLE")) }

/-- The state of that report is not recorded. -/
theorem idleReport_not_recorded : ¬ Recorded .pmcPreclean [idleReport] := by
  intro recorded
  have := (recorded.reported (5, strncpy 31 (ascii "IDLE")) (by decide)).1
  exact absurd this (by decide)

end EquipmentControl
