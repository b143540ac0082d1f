import EquipmentControl.Equipmentd.ModuleRegistry

/-!
# The router

`routerHandle` (`services/equipmentd/src/router.c`) answers requests, or tells its caller to
forward them, and records the events of the modules in the registry. The device manager it is
passed is not used by the source and is left out.
-/

set_option autoImplicit false

namespace EquipmentControl

/-- The results 0, 1 (with the response) and 2 of `router_handle`. -/
inductive RouterResult (δ : Type) where
  | noResponse
  | respond (out : Message δ)
  | forward

section Router

variable {δ : Type}

def respBase (m : Message δ) : Message δ :=
  { role := .resp, type := m.type, dev := m.dev, seq := m.seq, ok := some 1 }

def makeError (m : Message δ) (code : Int32) (text : Bytes) : Message δ :=
  { respBase m with type := .error, ok := some 0, code := some code, msg := some (strncpy 127 text) }

/-- `resolve_controller_fd`: the descriptor, or its negative result. -/
def resolveControllerFd (m : Message δ) (pmcFd tmcFd : ℤ) : Except ℤ ℤ :=
  match m.dev with
  | none => .error (-1)
  | some dev =>
      if dev = 100 then
        if tmcFd < 0 then .error (-2) else .ok tmcFd
      else if dev = 1 ∨ dev = 2 then
        if pmcFd < 0 then .error (-3) else .ok pmcFd
      else .error (-4)

/-- A link is the target exactly when it is attached. -/
theorem link_ok_iff {fd rc target : ℤ} :
    (if fd < 0 then (.error rc : Except ℤ ℤ) else .ok fd) = .ok target ↔
      0 ≤ target ∧ target = fd := by
  split
  · rename_i lost
    refine iff_of_false (fun same => by cases same) ?_
    rintro ⟨there, rfl⟩
    exact absurd there (not_le.mpr lost)
  · rename_i attached
    constructor
    · rintro ⟨⟩
      exact ⟨not_lt.mp attached, rfl⟩
    · rintro ⟨_, rfl⟩
      rfl

/-- A request of a forwarded type goes to the controller of its device, if that is attached. -/
theorem resolveControllerFd_ok_iff {m : Message δ} {dev : UInt32} (hasDev : m.dev = some dev)
    (pmcFd tmcFd target : ℤ) :
    resolveControllerFd m pmcFd tmcFd = .ok target ↔
      0 ≤ target ∧ ((dev = 1 ∨ dev = 2) ∧ target = pmcFd ∨ dev = 100 ∧ target = tmcFd) := by
  simp only [resolveControllerFd, hasDev]
  by_cases isTmc : dev = 100
  · subst isTmc
    have notPmc : ¬ ((100 : UInt32) = 1 ∨ (100 : UInt32) = 2) := by decide
    rw [if_pos rfl, link_ok_iff]
    simp only [notPmc, false_and, true_and, false_or]
  rw [if_neg isTmc]
  by_cases isPmc : dev = 1 ∨ dev = 2
  · rw [if_pos isPmc, link_ok_iff]
    simp only [isPmc, isTmc, false_and, true_and, or_false]
  · rw [if_neg isPmc]
    simp only [isPmc, isTmc, false_and, or_false, and_false, reduceCtorEq]

/-- The request types that are forwarded to a controller. -/
def isForwarded : MsgType → Bool
  | .status | .reset | .fault | .start | .stop => true
  | _ => false

/-- `handle_req`. -/
def handleReq (pmcFd tmcFd : ℤ) (m : Message δ) : RouterResult δ :=
  if m.seq = none then .respond (makeError m 400 (ascii "MISSING_SEQ"))
  else if m.type = .ping then .respond (respBase m)
  else if isForwarded m.type then
    if m.dev = none then .respond (makeError m 400 (ascii "MISSING_DEV"))
    else
      match resolveControllerFd m pmcFd tmcFd with
      | .ok _ => .forward
      | .error rc =>
          if rc = -2 then .respond (makeError m 503 (ascii "TMC_NOT_CONNECTED"))
          else if rc = -3 then .respond (makeError m 503 (ascii "PMC_NOT_CONNECTED"))
          else .respond (makeError m 404 (ascii "UNKNOWN_DEV"))
  else .respond (makeError m 404 (ascii "UNKNOWN_TYPE"))

/-- What every event that names a module writes about it. -/
def identifyModule (id : ModuleId) (dev : UInt32) (target : ModuleInfo δ) : ModuleInfo δ :=
  { target with
    registered := true
    type := if id = .tmc then .tmc else .pmc
    dev := dev.toInt32
    name := strncpy 31 id.moduleName }

/-- The states in which a module is busy. -/
def busyStates : List Bytes := [ascii "PROCESSING", ascii "READY", ascii "TRANSFERRING"]

/-- The part of a STATUS event that carries a state. -/
def recordStatus (nowMs : ℤ) (state : CString 31) (target : ModuleInfo δ) : ModuleInfo δ :=
  moduleRegistryTouchStatus
    { target with
      busy := decide (state.bytes ∈ busyStates)
      faultLatched := target.faultLatched || decide (state.bytes = ascii "FAULT") }
    nowMs state

variable [CDouble δ]

/-- The telemetry of an event; an absent key is copied as zero. -/
def recordTelemetry (nowMs : ℤ) (m : Message δ) (target : ModuleInfo δ) : ModuleInfo δ :=
  moduleRegistryTouchTelemetry
    { target with
      temp := m.temp.getD (CDouble.literal 0)
      pressure := m.pressure.getD (CDouble.literal 0)
      flow := m.flow.getD (CDouble.literal 0)
      hasTelemetry := true }
    nowMs

/-- `handle_evt`, which always returns 0. -/
def handleEvt (reg : ModuleRegistry δ) (nowMs : ℤ) (m : Message δ) : ModuleRegistry δ :=
  match m.dev with
  | none => reg
  | some dev =>
      match moduleOfDev dev with
      | none => reg
      | some id =>
          match m.type with
          | .register => reg.modify id (identifyModule id dev)
          | .status =>
              reg.modify id fun target =>
                match m.state with
                | none => identifyModule id dev target
                | some state => recordStatus nowMs state (identifyModule id dev target)
          | .telemetry =>
              -- Only the chambers report telemetry; the transfer module is not looked up.
              if id = .tmc then reg
              else reg.modify id fun target =>
                recordTelemetry nowMs m (identifyModule id dev target)
          | _ => reg

/-- `router_handle`: the registry it leaves, and its result. -/
def routerHandle (reg : ModuleRegistry δ) (pmcFd tmcFd nowMs : ℤ) (m : Message δ) :
    ModuleRegistry δ × RouterResult δ :=
  match m.role with
  | .req => (reg, handleReq pmcFd tmcFd m)
  | .evt => (handleEvt reg nowMs m, .noResponse)
  | _ => (reg, .noResponse)

/-- An event changes at most the module it names. -/
theorem handleEvt_cases (reg : ModuleRegistry δ) (nowMs : ℤ) (m : Message δ) :
    handleEvt reg nowMs m = reg ∨
      ∃ id dev, m.dev = some dev ∧ moduleOfDev dev = some id ∧
        (handleEvt reg nowMs m = reg.modify id (identifyModule id dev) ∨
          (∃ state, m.type = .status ∧ m.state = some state ∧ handleEvt reg nowMs m =
            reg.modify id fun target => recordStatus nowMs state (identifyModule id dev target)) ∨
          handleEvt reg nowMs m =
            reg.modify id fun target => recordTelemetry nowMs m (identifyModule id dev target)) := by
  cases hasDev : m.dev with
  | none => exact .inl (by rw [handleEvt, hasDev])
  | some dev =>
  cases known : moduleOfDev dev with
  | none => exact .inl (by simp only [handleEvt, hasDev, known])
  | some id =>
      cases type : m.type
      case register =>
        exact .inr ⟨id, dev, rfl, known, .inl (by simp only [handleEvt, hasDev, known, type])⟩
      case status =>
        refine .inr ⟨id, dev, rfl, known, ?_⟩
        cases hasState : m.state with
        | none => exact .inl (by simp only [handleEvt, hasDev, known, type, hasState])
        | some state =>
            refine .inr (.inl ⟨state, rfl, rfl, ?_⟩)
            simp only [handleEvt, hasDev, known, type, hasState]
      case telemetry =>
        by_cases isTmc : id = .tmc
        · exact .inl (by simp only [handleEvt, hasDev, known, type, if_pos isTmc])
        · refine .inr ⟨id, dev, rfl, known, .inr (.inr ?_)⟩
          simp only [handleEvt, hasDev, known, type, if_neg isTmc]
      all_goals exact .inl (by simp only [handleEvt, hasDev, known, type])

/-- A field that none of the three records writes is kept by every event. -/
theorem handleEvt_field {τ : Type} (field : ModuleInfo δ → τ)
    (identify : ∀ id dev target, field (identifyModule id dev target) = field target)
    (status : ∀ nowMs state target, field (recordStatus nowMs state target) = field target)
    (telemetry : ∀ nowMs m target, field (recordTelemetry nowMs m target) = field target)
    (reg : ModuleRegistry δ) (nowMs : ℤ) (m : Message δ) (id : ModuleId) :
    field ((handleEvt reg nowMs m).get id) = field (reg.get id) := by
  rcases handleEvt_cases reg nowMs m with same | ⟨target, dev, _, _, same | ⟨_, _, _, same⟩ | same⟩
  · rw [same]
  all_goals rw [same]
  · exact reg.get_modify_field target id fun info => identify _ _ info
  · exact reg.get_modify_field target id fun info => by rw [status, identify]
  · exact reg.get_modify_field target id fun info => by rw [telemetry, identify]

/-- No event writes `has_state`. -/
theorem handleEvt_hasState (reg : ModuleRegistry δ) (nowMs : ℤ) (m : Message δ) (id : ModuleId) :
    ((handleEvt reg nowMs m).get id).hasState = (reg.get id).hasState :=
  handleEvt_field ModuleInfo.hasState (fun _ _ _ => rfl) (fun _ _ _ => rfl)
    (fun _ _ _ => rfl) reg nowMs m id

theorem routerHandle_hasState (reg : ModuleRegistry δ) (pmcFd tmcFd nowMs : ℤ) (m : Message δ)
    (id : ModuleId) :
    ((routerHandle reg pmcFd tmcFd nowMs m).1.get id).hasState = (reg.get id).hasState := by
  rw [routerHandle]
  cases m.role with
  | evt => exact handleEvt_hasState reg nowMs m id
  | _ => rfl

end Router

end EquipmentControl
