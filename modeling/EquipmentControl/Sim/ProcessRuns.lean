import Mathlib.Algebra.Order.Group.Defs
import Mathlib.Algebra.Order.Ring.Rat
import Mathlib.Order.Interval.Set.Defs
import Mathlib.Tactic.NormNum
import EquipmentControl.Sim.DeviceRuns

/-!
# The simulated process

After every turn of the simulator both actuators are on exactly when the machine is processing
(`simLoop_follows`). `processModelApplyState` leaves the actuators alone in BOOTING and RECOVERING,
but the tick of a turn leaves both states before the process sees them.

With exact rationals, the pressure and the flow stay between their bounds and the temperature does
not fall below the ambient one: each of them moves by a step and is held at the bound it moves
towards (`processModelUpdate_inRange`).

Both hold in every run from start-up, on messages (`process_every_turn`) and on the lines that
carry them (`process_every_line_turn`).
-/

set_option autoImplicit false

namespace EquipmentControl

open InputMachine

/-! ## A step held at a bound -/

section Held

variable {α : Type*} [AddCommGroup α] [LinearOrder α] [IsOrderedAddMonoid α]
  {low high value step : α}

/-- A value of an interval that falls by a step and is held at the lower bound stays in it. -/
theorem max_sub_mem_Icc (within : value ∈ Set.Icc low high) (falls : 0 ≤ step) :
    max (value - step) low ∈ Set.Icc low high := by
  refine ⟨le_max_right _ _, max_le ?_ (within.1.trans within.2)⟩
  exact (sub_le_self value falls).trans within.2

/-- A value of an interval that rises by a step and is held at the upper bound stays in it. -/
theorem min_add_mem_Icc (within : value ∈ Set.Icc low high) (rises : 0 ≤ step) :
    min (value + step) high ∈ Set.Icc low high := by
  refine ⟨le_min ?_ (within.1.trans within.2), min_le_right _ _⟩
  exact within.1.trans (le_add_of_nonneg_right rises)

end Held

/-! ## The actuators -/

section Actuators

variable {δ : Type}

/-- Both actuators are on when the machine is processing, and off otherwise. -/
structure ProcessModel.Follows (model : ProcessModel δ) (state : SimState) : Prop where
  heater : model.heaterOn = decide (state = .processing)
  pump : model.pumpOn = decide (state = .processing)

/-- A settled state sets both actuators, whatever they were. -/
theorem processModelApplyState_follows (model : ProcessModel δ) {state : SimState}
    (settled : state.Settled) : (processModelApplyState model state).Follows state := by
  rcases settled with rfl | rfl | rfl | rfl
  all_goals exact ⟨rfl, rfl⟩

/-- Handling messages leaves the process alone. -/
theorem simHandleMessages_model (ctx : SimCtx δ) (messages : List (Message δ)) :
    (simHandleMessages ctx messages).1.model = ctx.model := by
  induction messages generalizing ctx with
  | nil => rfl
  | cons m messages ih =>
      rw [simHandleMessages, ih, simHandleMessage]
      split <;> rfl

variable [CDouble δ]

/-- The simulator from turn to turn, on the messages that have arrived. -/
def simLoop : Machine (SimCtx δ) (List (Message δ)) (List (Message δ)) := ⟨simIteration⟩

/-- The simulator from turn to turn, on the lines that have arrived. -/
def simLineLoop : Machine (SimCtx δ) (List Bytes) (List Bytes) := ⟨simTurn⟩

/-- A run on lines is the run on the messages they carry. -/
theorem simLineLoop_run (ctx : SimCtx δ) (turns : List (List Bytes)) :
    simLineLoop.run ctx turns =
      simLoop.run ctx (turns.map fun lines => lines.filterMap lineParse) := by
  induction turns generalizing ctx with
  | nil => rfl
  | cons lines turns ih =>
      have turned : (simTurn ctx lines).1 = (simIteration ctx (lines.filterMap lineParse)).1 := by
        rw [simTurn_iteration]
      rw [Machine.run_cons, ih]
      exact congrArg (fun next => simLoop.run next _) turned

/-- What a turn leaves of the process. -/
theorem simIteration_model (ctx : SimCtx δ) (messages : List (Message δ)) :
    (simIteration ctx messages).1.model = processModelUpdate
      (processModelApplyState ctx.model (simIteration ctx messages).1.fsm.state) := by
  rw [← simHandleMessages_model ctx messages]
  rfl

/-- **A turn from a settled state settles, and sets the actuators for the state it ends in.** -/
theorem simIteration_follows {ctx : SimCtx δ} (settled : ctx.fsm.state.Settled)
    (messages : List (Message δ)) :
    (simIteration ctx messages).1.fsm.state.Settled ∧
      (simIteration ctx messages).1.model.Follows (simIteration ctx messages).1.fsm.state := by
  have ended : (simIteration ctx messages).1.fsm.state.Settled :=
    ((simHandleMessages_batch ctx messages).tick settled).settled
  have applied := processModelApplyState_follows ctx.model ended
  rw [simIteration_model]
  exact ⟨ended, applied.heater, applied.pump⟩

/-- In every run the state is settled and the actuators follow it. -/
theorem simLoop_follows (devId : Int32) (turns : List (List (Message δ))) :
    let ctx := simLoop.run (simStart devId).1 turns
    ctx.fsm.state.Settled ∧ ctx.model.Follows ctx.fsm.state := by
  refine Machine.invariant (M := simLoop)
    (I := fun ctx : SimCtx δ => ctx.fsm.state.Settled ∧ ctx.model.Follows ctx.fsm.state)
    (fun ctx messages before => simIteration_follows before.1 messages) ?_ turns
  exact ⟨.inl rfl, rfl, rfl⟩

end Actuators

/-! ## The process values -/

/-- Held from below, an exact value is the greater of itself and the bound. -/
theorem atLeast_eq_max (bound value : ℚ) : atLeast bound value = max value bound := by
  change (if decide (value < bound) = true then bound else value) = max value bound
  by_cases below : value < bound
  · rw [if_pos (decide_eq_true below), max_eq_right below.le]
  · rw [if_neg (by simpa using below), max_eq_left (not_lt.mp below)]

/-- Held from above, it is the lesser. -/
theorem atMost_eq_min (bound value : ℚ) : atMost bound value = min value bound := by
  change (if decide (bound < value) = true then bound else value) = min value bound
  by_cases above : bound < value
  · rw [if_pos (decide_eq_true above), min_eq_right above.le]
  · rw [if_neg (by simpa using above), min_eq_left (not_lt.mp above)]

/-- The bounds of the process values. -/
structure ProcessModel.InRange (model : ProcessModel ℚ) : Prop where
  pressure : model.pressure ∈ Set.Icc (1 / 10) 1
  flow : model.flow ∈ Set.Icc 0 100
  temp : 25 ≤ model.temp

theorem processModelInit_inRange : (processModelInit : ProcessModel ℚ).InRange where
  pressure := ⟨show (1 / 10 : ℚ) ≤ 1 by norm_num, le_refl (1 : ℚ)⟩
  flow := ⟨le_refl (0 : ℚ), show (0 : ℚ) ≤ 100 by norm_num⟩
  temp := le_refl (25 : ℚ)

/-- The actuators are no process values. -/
theorem processModelApplyState_inRange {model : ProcessModel ℚ} (inRange : model.InRange)
    (state : SimState) : (processModelApplyState model state).InRange := by
  cases state
  all_goals exact ⟨inRange.pressure, inRange.flow, inRange.temp⟩

/-- **One second of the process keeps its bounds**, whatever the actuators do. -/
theorem processModelUpdate_inRange {model : ProcessModel ℚ} (inRange : model.InRange) :
    (processModelUpdate model).InRange where
  pressure := by
    rw [processModelUpdate]
    dsimp only
    split
    · rw [atLeast_eq_max]
      exact max_sub_mem_Icc inRange.pressure (show (0 : ℚ) ≤ 1 / 20 by norm_num)
    · rw [atMost_eq_min]
      exact min_add_mem_Icc inRange.pressure (show (0 : ℚ) ≤ 1 / 20 by norm_num)
  flow := by
    rw [processModelUpdate]
    dsimp only
    split
    · rw [atMost_eq_min]
      exact min_add_mem_Icc inRange.flow (show (0 : ℚ) ≤ 2 by norm_num)
    · rw [atLeast_eq_max]
      exact max_sub_mem_Icc inRange.flow (show (0 : ℚ) ≤ 2 by norm_num)
  temp := by
    rw [processModelUpdate]
    dsimp only
    split
    · exact inRange.temp.trans (le_add_of_nonneg_right (show (0 : ℚ) ≤ 3 / 2 by norm_num))
    · rw [atLeast_eq_max]
      exact le_max_right _ _

/-- In every run the process values are within their bounds. -/
theorem simLoop_inRange (devId : Int32) (turns : List (List (Message ℚ))) :
    (simLoop.run (simStart devId).1 turns).model.InRange := by
  refine Machine.invariant (M := simLoop) (I := fun ctx : SimCtx ℚ => ctx.model.InRange)
    ?_ processModelInit_inRange turns
  intro ctx messages before
  change (simIteration ctx messages).1.model.InRange
  rw [simIteration_model]
  exact processModelUpdate_inRange (processModelApplyState_inRange before _)

/-! ## Every turn -/

/-- **After every turn of every run from start-up**, on any messages, both actuators are on exactly
when the machine is processing, and the process values are within their bounds. -/
theorem process_every_turn (devId : Int32) (turns : List (List (Message ℚ))) :
    let ctx := simLoop.run (simStart devId).1 turns
    ctx.model.Follows ctx.fsm.state ∧ ctx.model.InRange :=
  ⟨(simLoop_follows devId turns).2, simLoop_inRange devId turns⟩

/-- The same of the turns on lines. -/
theorem process_every_line_turn (devId : Int32) (turns : List (List Bytes)) :
    let ctx : SimCtx ℚ := simLineLoop.run (simStart devId).1 turns
    ctx.model.Follows ctx.fsm.state ∧ ctx.model.InRange := by
  rw [simLineLoop_run]
  exact ⟨(simLoop_follows devId _).2, simLoop_inRange devId _⟩

end EquipmentControl
