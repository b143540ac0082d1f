import EquipmentControl.Protocol.Message

/-!
# The module registry

What equipmentd records about the transfer module and the two process chambers
(`services/equipmentd/src/module_registry.c`). The members of `module_registry_t` are
addressed by `ModuleId`. Clock values are milliseconds.
-/

set_option autoImplicit false

namespace EquipmentControl

inductive ModuleType where
  | unknown | tmc | pmc
deriving DecidableEq, Repr

/-- `module_info_t`. -/
structure ModuleInfo (δ : Type) where
  registered : Bool
  type : ModuleType
  dev : Int32
  busy : Bool
  name : CString 31
  currentState : CString 31
  hasState : Bool
  temp : δ
  pressure : δ
  flow : δ
  hasTelemetry : Bool
  lastUpdateMs : ℤ
  lastStatusMs : ℤ
  lastTelemetryMs : ℤ
  lastStateChangeMs : ℤ
  healthy : Bool
  faultLatched : Bool

/-- The members of `module_registry_t`. -/
inductive ModuleId where
  | tmc | pmcPreclean | pmcDeposition
deriving DecidableEq, Repr

/-- `module_registry_t`. -/
structure ModuleRegistry (δ : Type) where
  tmc : ModuleInfo δ
  pmcPreclean : ModuleInfo δ
  pmcDeposition : ModuleInfo δ

section Registry

variable {δ : Type}

def ModuleRegistry.get (reg : ModuleRegistry δ) : ModuleId → ModuleInfo δ
  | .tmc => reg.tmc
  | .pmcPreclean => reg.pmcPreclean
  | .pmcDeposition => reg.pmcDeposition

def ModuleRegistry.modify (reg : ModuleRegistry δ) (id : ModuleId)
    (f : ModuleInfo δ → ModuleInfo δ) : ModuleRegistry δ :=
  match id with
  | .tmc => { reg with tmc := f reg.tmc }
  | .pmcPreclean => { reg with pmcPreclean := f reg.pmcPreclean }
  | .pmcDeposition => { reg with pmcDeposition := f reg.pmcDeposition }

@[simp] theorem ModuleRegistry.get_modify_self (reg : ModuleRegistry δ) (id : ModuleId)
    (f : ModuleInfo δ → ModuleInfo δ) : (reg.modify id f).get id = f (reg.get id) := by
  cases id <;> rfl

theorem ModuleRegistry.get_modify_of_ne (reg : ModuleRegistry δ) {id other : ModuleId}
    (f : ModuleInfo δ → ModuleInfo δ) (differs : other ≠ id) :
    (reg.modify id f).get other = reg.get other := by
  cases id <;> cases other <;> first | rfl | exact absurd rfl differs

theorem ModuleRegistry.modify_id (reg : ModuleRegistry δ) (id : ModuleId) :
    reg.modify id (fun info => info) = reg := by
  cases id <;> rfl

/-- A registry is what it holds of each module. -/
theorem ModuleRegistry.ext_get {reg other : ModuleRegistry δ}
    (same : ∀ id, reg.get id = other.get id) : reg = other := by
  cases reg
  cases other
  congr
  · exact same .tmc
  · exact same .pmcPreclean
  · exact same .pmcDeposition

/-- An update that keeps a field of the module it touches keeps it in every module. -/
theorem ModuleRegistry.get_modify_field {τ : Type} (reg : ModuleRegistry δ) (id other : ModuleId)
    {f : ModuleInfo δ → ModuleInfo δ} {field : ModuleInfo δ → τ}
    (kept : ∀ info, field (f info) = field info) :
    field ((reg.modify id f).get other) = field (reg.get other) := by
  by_cases same : other = id
  · rw [same, get_modify_self, kept]
  · rw [get_modify_of_ne reg f same]

/-- The device number of a module. -/
def ModuleId.devId : ModuleId → UInt32
  | .tmc => 100
  | .pmcPreclean => 1
  | .pmcDeposition => 2

def ModuleId.moduleName : ModuleId → Bytes
  | .tmc => ascii "tmc"
  | .pmcPreclean => ascii "pmc_preclean"
  | .pmcDeposition => ascii "pmc_deposition"

/-- The module with a device number. -/
def moduleOfDev (dev : UInt32) : Option ModuleId :=
  if dev = 100 then some .tmc
  else if dev = 1 then some .pmcPreclean
  else if dev = 2 then some .pmcDeposition
  else none

theorem moduleOfDev_eq_some {dev : UInt32} {id : ModuleId} :
    moduleOfDev dev = some id ↔ dev = id.devId := by
  constructor
  · intro found
    rw [moduleOfDev] at found
    split at found
    · cases found; assumption
    split at found
    · cases found; assumption
    split at found
    · cases found; assumption
    · cases found
  · rintro rfl
    cases id <;> rfl

/-- A zeroed `module_info_t`. -/
def ModuleInfo.zero [CDouble δ] : ModuleInfo δ where
  registered := false
  type := .unknown
  dev := 0
  busy := false
  name := .empty 31
  currentState := .empty 31
  hasState := false
  temp := CDouble.literal 0
  pressure := CDouble.literal 0
  flow := CDouble.literal 0
  hasTelemetry := false
  lastUpdateMs := 0
  lastStatusMs := 0
  lastTelemetryMs := 0
  lastStateChangeMs := 0
  healthy := false
  faultLatched := false

/-- `module_registry_init`. -/
def moduleRegistryInit [CDouble δ] : ModuleRegistry δ := ⟨.zero, .zero, .zero⟩

/-- `module_registry_touch_status`. -/
def moduleRegistryTouchStatus (m : ModuleInfo δ) (nowMs : ℤ) (newState : CString 31) :
    ModuleInfo δ :=
  { m with
    lastStateChangeMs :=
      if m.hasState then
        if m.currentState ≠ newState then nowMs else m.lastStateChangeMs
      else nowMs
    lastUpdateMs := nowMs
    lastStatusMs := nowMs
    healthy := true }

/-- `module_registry_touch_telemetry`. -/
def moduleRegistryTouchTelemetry (m : ModuleInfo δ) (nowMs : ℤ) : ModuleInfo δ :=
  { m with
    lastUpdateMs := nowMs
    lastTelemetryMs := nowMs
    healthy := true }

/-- `module_registry_is_stale`. -/
def moduleRegistryIsStale (m : ModuleInfo δ) (nowMs staleMs : ℤ) : Bool :=
  if !m.registered then true
  else if m.lastUpdateMs ≤ 0 then true
  else decide (nowMs - m.lastUpdateMs > staleMs)

end Registry

end EquipmentControl
