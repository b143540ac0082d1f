import EquipmentControl.Equipmentd.RecordedState
import EquipmentControl.Library.Interleaving

/-!
# The order of events

The registry is three records that do not depend on each other. `moduleEvent` is what an EVT writes
about the module it names, from that module's record alone, and `routerMachine_get` says that a call
of the router does this to the module of its device number and nothing to the others. A module with
the calls of its device number is thus a machine of its own (`moduleMachine`).

So the events of different device numbers may be handled in any order: the calls of a run leave each
module as the stream of its device number does (`registry_get_of_interleaving`), and two
interleavings of the same streams leave the same registry (`registry_order_independent`).
-/

set_option autoImplicit false

namespace EquipmentControl

open InputMachine

section Events

variable {δ : Type} [CDouble δ]

/-! ## One module at a time -/

/-- What an EVT writes about the module it names. -/
def moduleEvent (id : ModuleId) (nowMs : ℤ) (m : Message δ) (info : ModuleInfo δ) : ModuleInfo δ :=
  match m.type with
  | .register => identifyModule id id.devId info
  | .status =>
      m.state.elim (identifyModule id id.devId info) fun state =>
        recordStatus nowMs state (identifyModule id id.devId info)
  | .telemetry =>
      if id = .tmc then info else recordTelemetry nowMs m (identifyModule id id.devId info)
  | _ => info

/-- An event with the device number of a module writes its record. -/
theorem handleEvt_of_module (reg : ModuleRegistry δ) (nowMs : ℤ) {m : Message δ} {id : ModuleId}
    (named : m.dev = some id.devId) :
    handleEvt reg nowMs m = reg.modify id fun info => moduleEvent id nowMs m info := by
  have known : moduleOfDev id.devId = some id := moduleOfDev_eq_some.mpr rfl
  have same := reg.modify_id id
  cases type : m.type
  case status =>
    cases hasState : m.state with
    | none => simp only [handleEvt, moduleEvent, named, known, type, hasState, Option.elim]
    | some state => simp only [handleEvt, moduleEvent, named, known, type, hasState, Option.elim]
  case telemetry =>
    by_cases isTmc : id = .tmc
    · simp only [handleEvt, moduleEvent, named, known, type, if_pos isTmc, same]
    · simp only [handleEvt, moduleEvent, named, known, type, if_neg isTmc]
  all_goals simp only [handleEvt, moduleEvent, named, known, type, same]

/-- **An event writes the record of the module it names, from that record alone.** -/
theorem handleEvt_get (reg : ModuleRegistry δ) (nowMs : ℤ) (m : Message δ) (id : ModuleId) :
    (handleEvt reg nowMs m).get id =
      if m.dev = some id.devId then moduleEvent id nowMs m (reg.get id) else reg.get id := by
  by_cases own : m.dev = some id.devId
  · rw [if_pos own, handleEvt_of_module reg nowMs own, ModuleRegistry.get_modify_self]
  rw [if_neg own]
  cases hasDev : m.dev with
  | none => rw [handleEvt, hasDev]
  | some dev =>
      cases known : moduleOfDev dev with
      | none => simp only [handleEvt, hasDev, known]
      | some other =>
          have named : m.dev = some other.devId := by rw [hasDev, moduleOfDev_eq_some.mp known]
          rw [handleEvt_of_module reg nowMs named]
          exact reg.get_modify_of_ne _ fun same => own (by rw [named, same])

/-! ## Modules as machines -/

/-- A module on the calls with its device number. -/
def moduleMachine (id : ModuleId) : Machine (ModuleInfo δ) (RouterCall δ) Unit where
  step info call :=
    (if call.msg.role = .evt then moduleEvent id call.nowMs call.msg info else info, ())

/-- A call of the router is a step of the module of its device number, and of no other. -/
theorem routerMachine_get (reg : ModuleRegistry δ) (call : RouterCall δ) (id : ModuleId) :
    (routerMachine.step reg call).1.get id =
      if call.msg.dev = some id.devId then ((moduleMachine id).step (reg.get id) call).1
      else reg.get id := by
  change (routerHandle reg _ _ _ call.msg).1.get id = if _ then (if _ then _ else _) else _
  rw [routerHandle]
  cases call.msg.role with
  | evt => exact handleEvt_get reg call.nowMs call.msg id
  | _ => exact (ite_self (reg.get id)).symm

/-- **The registry keeps what is said of no module.** -/
theorem routerMachine_unknown (reg : ModuleRegistry δ) {call : RouterCall δ}
    (unknown : ∀ id : ModuleId, call.msg.dev ≠ some id.devId) :
    (routerMachine.step reg call).1 = reg := by
  refine ModuleRegistry.ext_get fun id => ?_
  rw [routerMachine_get, if_neg (unknown id)]

/-! ## Interleavings -/

/-- The device number a call names, if it names one. -/
def RouterCall.device (call : RouterCall δ) : Option UInt32 := call.msg.dev

/-- **After any interleaving a module is what its own stream leaves of it.** -/
theorem registry_get_of_interleaving {streams : Option UInt32 → List (RouterCall δ)}
    {calls : List (RouterCall δ)} (keyed : Keyed RouterCall.device streams)
    (merged : Interleaving streams calls) (reg : ModuleRegistry δ) (id : ModuleId) :
    (routerMachine.run reg calls).get id =
      (moduleMachine id).run (reg.get id) (streams (some id.devId)) := by
  refine Machine.run_part_of_interleaving (fun reg : ModuleRegistry δ => reg.get id)
    keyed merged ?_ ?_ reg
  · intro reg call own
    exact (routerMachine_get reg call id).trans (if_pos own)
  · intro reg call other
    exact (routerMachine_get reg call id).trans (if_neg other)

/-- Two runs that show the same of each device leave the same registry. -/
theorem registry_eq_of_projections {first second : List (RouterCall δ)}
    (same : ∀ dev, projection RouterCall.device dev first = projection RouterCall.device dev second)
    (reg : ModuleRegistry δ) : routerMachine.run reg first = routerMachine.run reg second := by
  have keyed := keyed_projection RouterCall.device second
  have one := (interleaving_iff keyed).mpr same
  have two := (interleaving_iff keyed).mpr fun dev => rfl
  refine ModuleRegistry.ext_get fun id => ?_
  rw [registry_get_of_interleaving keyed one, registry_get_of_interleaving keyed two]

/-- **Events are independent of the order between devices.** For streams of messages with their
handling times, one for each device number and one for the messages without, every two
interleavings that keep the order of each stream leave the same registry, and a message for another
device number than 1, 2 and 100 leaves the registry as it was. -/
theorem registry_order_independent {streams : Option UInt32 → List (RouterCall δ)}
    {first second : List (RouterCall δ)} (keyed : Keyed RouterCall.device streams)
    (one : Interleaving streams first) (two : Interleaving streams second)
    (reg : ModuleRegistry δ) :
    routerMachine.run reg first = routerMachine.run reg second ∧
      ∀ dev, dev ≠ some 1 → dev ≠ some 2 → dev ≠ some 100 →
        ∀ call ∈ streams dev, ∀ before, (routerMachine.step before call).1 = before := by
  constructor
  · refine registry_eq_of_projections (fun dev => ?_) reg
    rw [one.projection_eq keyed, two.projection_eq keyed]
  · intro dev notPreclean notDeposition notTmc call member before
    refine routerMachine_unknown before fun id named => ?_
    have names : dev = some id.devId := (keyed dev call member).symm.trans named
    cases id with
    | tmc => exact notTmc names
    | pmcPreclean => exact notPreclean names
    | pmcDeposition => exact notDeposition names

end Events

/-- The transfer module registers. -/
def tmcRegisters : RouterCall ℚ where
  nowMs := 7
  pmcFd := 4
  tmcFd := 5
  msg := { role := .evt, type := .register, dev := some 100 }

/-- A device that is no module reports its temperature. -/
def strangerReport : RouterCall ℚ where
  nowMs := 6
  pmcFd := 4
  tmcFd := 5
  msg := { role := .evt, type := .telemetry, dev := some 7, temp := some 30 }

/-- The report of the chamber and the registration of the transfer module, in both orders. -/
theorem registry_order_independent_reports :
    let calls := [idleReport, tmcRegisters, strangerReport]
    routerMachine.run moduleRegistryInit calls =
        routerMachine.run moduleRegistryInit [tmcRegisters, idleReport, strangerReport] ∧
      ∀ dev, dev ≠ some 1 → dev ≠ some 2 → dev ≠ some 100 →
        ∀ call ∈ projection RouterCall.device dev calls,
          ∀ before, (routerMachine.step before call).1 = before := by
  intro calls
  have keyed := keyed_projection RouterCall.device calls
  have differ : tmcRegisters.device ≠ idleReport.device := by decide
  refine registry_order_independent keyed ((interleaving_iff keyed).mpr fun dev => rfl)
    ((interleaving_iff keyed).mpr fun dev => ?_) moduleRegistryInit
  exact projection_swap differ dev [strangerReport]

end EquipmentControl
