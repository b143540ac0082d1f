import EquipmentControl.Library.SlotTable
import EquipmentControl.Protocol.Message

/-!
# The request tracker

The sixteen slots in which equipmentd remembers forwarded requests until they are answered
or time out (`services/equipmentd/src/request_tracker.c`). A pointer into the table is the
index of its slot.
-/

set_option autoImplicit false

namespace EquipmentControl

open SlotTable

/-- `pending_request_t`. -/
structure PendingRequest where
  valid : Bool
  clientFd : ℤ
  seq : UInt32
  dev : UInt32
  type : MsgType
  fromScheduler : Bool
  createdMs : ℤ
deriving DecidableEq

/-- A zeroed slot. -/
def PendingRequest.zero : PendingRequest := ⟨false, 0, 0, 0, .ping, false, 0⟩

abbrev requestTrackerMax : ℕ := 16

abbrev RequestTracker := Fin requestTrackerMax → PendingRequest

def requestTrackerInit : RequestTracker := fun _ => .zero

/-- The first free slot, zeroed and marked valid. -/
def requestTrackerAlloc (t : RequestTracker) : Option (Fin requestTrackerMax × RequestTracker) :=
  (firstIndex (fun r => !r.valid) t).map fun i =>
    (i, Function.update t i { PendingRequest.zero with valid := true })

/-- The first valid slot with a sequence number and a device. -/
def requestTrackerFind (t : RequestTracker) (seq dev : UInt32) : Option (Fin requestTrackerMax) :=
  firstIndex (fun r => r.valid && decide (r.seq = seq) && decide (r.dev = dev)) t

def requestTrackerRemove (t : RequestTracker) (i : Fin requestTrackerMax) : RequestTracker :=
  Function.update t i .zero

def requestTimeoutMs : ℤ := 10000

def requestTrackerSweepTimeouts (t : RequestTracker) (nowMs : ℤ) : RequestTracker := fun i =>
  if (t i).valid && decide (nowMs - (t i).createdMs > requestTimeoutMs) then .zero else t i

/-! ## What the operations do -/

theorem requestTrackerAlloc_some {t allocated : RequestTracker} {i : Fin requestTrackerMax}
    (found : requestTrackerAlloc t = some (i, allocated)) :
    (t i).valid = false ∧
      allocated = Function.update t i { PendingRequest.zero with valid := true } := by
  obtain ⟨j, first, same⟩ := Option.map_eq_some_iff.mp found
  cases same
  exact ⟨by simpa using firstIndex_meets first, rfl⟩

/-- A slot is found exactly when one is free. -/
theorem requestTrackerAlloc_ne_none_iff {t : RequestTracker} :
    requestTrackerAlloc t ≠ none ↔ ∃ i, (t i).valid = false := by
  rw [requestTrackerAlloc, ne_eq, Option.map_eq_none_iff, firstIndex, List.find?_eq_none]
  simp

/-- An empty table has a free slot. -/
theorem requestTrackerAlloc_ne_none {t : RequestTracker} (empty : ∀ i, (t i).valid = false) :
    requestTrackerAlloc t ≠ none :=
  requestTrackerAlloc_ne_none_iff.mpr ⟨0, empty 0⟩

theorem requestTrackerFind_some {t : RequestTracker} {seq dev : UInt32}
    {i : Fin requestTrackerMax} (found : requestTrackerFind t seq dev = some i) :
    (t i).valid = true ∧ (t i).seq = seq ∧ (t i).dev = dev := by
  have := firstIndex_meets found
  simp only [Bool.and_eq_true, decide_eq_true_eq] at this
  exact ⟨this.1.1, this.1.2, this.2⟩

@[simp] theorem requestTrackerRemove_self (t : RequestTracker) (i : Fin requestTrackerMax) :
    (requestTrackerRemove t i i).valid = false := by
  rw [requestTrackerRemove, Function.update_self]
  rfl

theorem requestTrackerRemove_valid {t : RequestTracker} {i j : Fin requestTrackerMax}
    (valid : (requestTrackerRemove t i j).valid = true) :
    j ≠ i ∧ requestTrackerRemove t i j = t j :=
  occupied_clear (fun r : PendingRequest => r.valid = true) Bool.false_ne_true valid

/-- A sweep finds that a slot has waited too long. -/
def PendingRequest.Overdue (slot : PendingRequest) (nowMs : ℤ) : Prop :=
  nowMs - slot.createdMs > requestTimeoutMs

instance (slot : PendingRequest) (nowMs : ℤ) : Decidable (slot.Overdue nowMs) :=
  inferInstanceAs (Decidable (nowMs - slot.createdMs > requestTimeoutMs))

/-- A sweep frees the slots that are overdue. -/
theorem requestTrackerSweep_freed {t : RequestTracker} {nowMs : ℤ} {i : Fin requestTrackerMax}
    (valid : (t i).valid = true) :
    (requestTrackerSweepTimeouts t nowMs i).valid = false ↔ (t i).Overdue nowMs := by
  rw [requestTrackerSweepTimeouts, valid, Bool.true_and, PendingRequest.Overdue]
  by_cases overdue : nowMs - (t i).createdMs > requestTimeoutMs
  · simp [overdue, PendingRequest.zero]
  · simp [overdue, valid]

theorem requestTrackerSweep_valid {t : RequestTracker} {nowMs : ℤ} {i : Fin requestTrackerMax}
    (valid : (requestTrackerSweepTimeouts t nowMs i).valid = true) :
    requestTrackerSweepTimeouts t nowMs i = t i := by
  rw [requestTrackerSweepTimeouts] at valid ⊢
  split at valid
  · cases valid
  · rename_i kept
    rw [if_neg kept]

end EquipmentControl
