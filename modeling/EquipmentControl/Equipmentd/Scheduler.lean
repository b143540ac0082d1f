import EquipmentControl.Equipmentd.ModuleRegistry

/-!
# The scheduler

`schedulerTick` (`services/equipmentd/src/scheduler.c`) looks at the registry and the job
state, moves the job state and may ask for a START of the preclean chamber (dev 1) or the
deposition chamber (dev 2).

The switch makes one of the moves of `JobMove` (`schedulerSwitch_move`), and a tick stays,
fails the job, or makes a move (`schedulerTick_cases`). `remainingStarts` lists the STARTs a job
state can still lead to before the next RESET; a tick takes the START it issues off that list
(`schedulerTick_remaining`).
-/

set_option autoImplicit false

namespace EquipmentControl

inductive JobState where
  | idle | precleanSent | precleanRunning | precleanDone | depositionSent | depositionRunning
  | stopped | complete | error
deriving DecidableEq, Repr

/-- `scheduler_action_t`. -/
structure SchedulerAction where
  shouldSend : Bool
  seq : UInt32
  dev : Int32
deriving DecidableEq, Repr

/-- The action set at the start of every tick. -/
def SchedulerAction.nothing : SchedulerAction := ⟨false, 0, -1⟩

/-- What a tick leaves in `*next_seq`, `*job_state` and `*action`. -/
structure TickResult where
  nextSeq : UInt32
  job : JobState
  action : SchedulerAction
deriving DecidableEq, Repr

section Scheduler

variable {δ : Type}

def isState (m : ModuleInfo δ) (s : Bytes) : Bool := m.hasState && decide (m.currentState.bytes = s)

def isUsable (m : ModuleInfo δ) (s : Bytes) : Bool :=
  m.registered && m.healthy && m.hasState && decide (m.currentState.bytes = s)

def isDone (m : ModuleInfo δ) : Bool :=
  m.registered && m.healthy && m.hasState && decide (m.currentState.bytes = ascii "DONE")

def isIdleUsable (m : ModuleInfo δ) : Bool :=
  m.registered && m.healthy && m.hasState && decide (m.currentState.bytes = ascii "IDLE")

/-- A branch that issues a START and moves to `job`. -/
def sendStart (dev : Int32) (nextSeq : UInt32) (job : JobState) : TickResult :=
  ⟨nextSeq + 1, job, ⟨true, nextSeq, dev⟩⟩

/-- The `switch` on the job state. -/
def schedulerSwitch (reg : ModuleRegistry δ) (nextSeq : UInt32) (job : JobState) : TickResult :=
  match job with
  | .idle =>
      if isDone reg.pmcPreclean && isDone reg.pmcDeposition then ⟨nextSeq, .complete, .nothing⟩
      else if isDone reg.pmcPreclean && isIdleUsable reg.pmcDeposition then
        sendStart 2 nextSeq .depositionSent
      else if isIdleUsable reg.pmcPreclean then sendStart 1 nextSeq .precleanSent
      else ⟨nextSeq, .idle, .nothing⟩
  | .precleanSent =>
      if isState reg.pmcPreclean (ascii "PROCESSING") then ⟨nextSeq, .precleanRunning, .nothing⟩
      else if isState reg.pmcPreclean (ascii "DONE") then ⟨nextSeq, .precleanDone, .nothing⟩
      else ⟨nextSeq, .precleanSent, .nothing⟩
  | .precleanRunning =>
      if isState reg.pmcPreclean (ascii "DONE") then ⟨nextSeq, .precleanDone, .nothing⟩
      else ⟨nextSeq, .precleanRunning, .nothing⟩
  | .precleanDone =>
      if isUsable reg.pmcDeposition (ascii "IDLE") then sendStart 2 nextSeq .depositionSent
      else ⟨nextSeq, .precleanDone, .nothing⟩
  | .depositionSent =>
      if isState reg.pmcDeposition (ascii "PROCESSING") then
        ⟨nextSeq, .depositionRunning, .nothing⟩
      else if isState reg.pmcDeposition (ascii "DONE") then ⟨nextSeq, .complete, .nothing⟩
      else ⟨nextSeq, .depositionSent, .nothing⟩
  | .depositionRunning =>
      if isState reg.pmcDeposition (ascii "DONE") then ⟨nextSeq, .complete, .nothing⟩
      else ⟨nextSeq, .depositionRunning, .nothing⟩
  | .stopped => ⟨nextSeq, .stopped, .nothing⟩
  | .complete => ⟨nextSeq, .complete, .nothing⟩
  | .error => ⟨nextSeq, .error, .nothing⟩

/-- A chamber is registered but its health has run out while the job waits for it. -/
def precleanLost (reg : ModuleRegistry δ) (job : JobState) : Bool :=
  (job = .precleanSent || job = .precleanRunning) &&
    reg.pmcPreclean.registered && !reg.pmcPreclean.healthy

def depositionLost (reg : ModuleRegistry δ) (job : JobState) : Bool :=
  (job = .depositionSent || job = .depositionRunning) &&
    reg.pmcDeposition.registered && !reg.pmcDeposition.healthy

/-- `scheduler_tick`. -/
def schedulerTick (reg : ModuleRegistry δ) (pendingValid : Bool) (nextSeq : UInt32)
    (job : JobState) : TickResult :=
  if pendingValid then ⟨nextSeq, job, .nothing⟩
  else if precleanLost reg job then ⟨nextSeq, .error, .nothing⟩
  else if depositionLost reg job then ⟨nextSeq, .error, .nothing⟩
  else if isState reg.pmcPreclean (ascii "FAULT") || isState reg.pmcDeposition (ascii "FAULT") then
    ⟨nextSeq, .error, .nothing⟩
  -- The source makes the two health checks a second time, after the FAULT check.
  else if precleanLost reg job then ⟨nextSeq, .error, .nothing⟩
  else if depositionLost reg job then ⟨nextSeq, .error, .nothing⟩
  else schedulerSwitch reg nextSeq job

/-! ## What a tick can do -/

/-- The STARTs, by device, that a job state can still lead to before the next RESET. -/
def remainingStarts : JobState → List Int32
  | .idle => [1, 2]
  | .precleanSent | .precleanRunning | .precleanDone => [2]
  | .depositionSent | .depositionRunning | .stopped | .complete | .error => []

/-- The device a tick issues a START for. -/
def startOf (action : SchedulerAction) : Option Int32 :=
  if action.shouldSend then some action.dev else none

/-- The chamber a START is for. -/
def startTarget (reg : ModuleRegistry δ) (dev : Int32) : ModuleInfo δ :=
  if dev = 1 then reg.pmcPreclean else reg.pmcDeposition

theorem isState_of_isDone {m : ModuleInfo δ} (done : isDone m = true) :
    isState m (ascii "DONE") = true := by
  simp only [isDone, Bool.and_eq_true] at done
  simp only [isState, Bool.and_eq_true]
  exact ⟨done.1.2, done.2⟩

/-- The moves of the job: the state before, the START issued, and the state after. -/
inductive JobMove (reg : ModuleRegistry δ) : JobState → Option Int32 → JobState → Prop where
  | stay (job : JobState) : JobMove reg job none job
  | alreadyDone : isDone reg.pmcPreclean = true → isDone reg.pmcDeposition = true →
      JobMove reg .idle none .complete
  | skipPreclean : isDone reg.pmcPreclean = true → isIdleUsable reg.pmcDeposition = true →
      JobMove reg .idle (some 2) .depositionSent
  | startPreclean : isIdleUsable reg.pmcPreclean = true →
      JobMove reg .idle (some 1) .precleanSent
  | precleanProcessing : JobMove reg .precleanSent none .precleanRunning
  | precleanFinished {job : JobState} : job = .precleanSent ∨ job = .precleanRunning →
      isState reg.pmcPreclean (ascii "DONE") = true → JobMove reg job none .precleanDone
  | startDeposition : isIdleUsable reg.pmcDeposition = true →
      JobMove reg .precleanDone (some 2) .depositionSent
  | depositionProcessing : JobMove reg .depositionSent none .depositionRunning
  | depositionFinished {job : JobState} : job = .depositionSent ∨ job = .depositionRunning →
      JobMove reg job none .complete

/-- The switch makes one of the moves. -/
theorem schedulerSwitch_move (reg : ModuleRegistry δ) (nextSeq : UInt32) (job : JobState) :
    JobMove reg job (startOf (schedulerSwitch reg nextSeq job).action)
      (schedulerSwitch reg nextSeq job).job := by
  cases job <;> rw [schedulerSwitch]
  case idle =>
    split
    · rename_i both
      rw [Bool.and_eq_true] at both
      exact .alreadyDone both.1 both.2
    split
    · rename_i both
      rw [Bool.and_eq_true] at both
      exact .skipPreclean both.1 both.2
    split
    · exact .startPreclean ‹_›
    · exact .stay _
  case precleanSent =>
    split
    · exact .precleanProcessing
    split
    · exact .precleanFinished (.inl rfl) ‹_›
    · exact .stay _
  case precleanRunning =>
    split
    · exact .precleanFinished (.inr rfl) ‹_›
    · exact .stay _
  case precleanDone =>
    split
    · exact .startDeposition ‹_›
    · exact .stay _
  case depositionSent =>
    split
    · exact .depositionProcessing
    split
    · exact .depositionFinished (.inl rfl)
    · exact .stay _
  case depositionRunning =>
    split
    · exact .depositionFinished (.inr rfl)
    · exact .stay _
  all_goals exact .stay _

/-- A tick leaves the job state alone, moves it to `JOB_ERROR`, or makes a move with no request
pending and neither chamber recorded in FAULT. -/
theorem schedulerTick_cases (reg : ModuleRegistry δ) (pendingValid : Bool) (nextSeq : UInt32)
    (job : JobState) :
    (startOf (schedulerTick reg pendingValid nextSeq job).action = none ∧
      ((schedulerTick reg pendingValid nextSeq job).job = job ∨
        (schedulerTick reg pendingValid nextSeq job).job = .error)) ∨
    (pendingValid = false ∧ isState reg.pmcPreclean (ascii "FAULT") = false ∧
      isState reg.pmcDeposition (ascii "FAULT") = false ∧
      JobMove reg job (startOf (schedulerTick reg pendingValid nextSeq job).action)
        (schedulerTick reg pendingValid nextSeq job).job) := by
  have move := schedulerSwitch_move reg nextSeq job
  rw [schedulerTick]
  cases pendingValid with
  | true => exact .inl ⟨rfl, .inl rfl⟩
  | false =>
      rw [if_neg (by decide)]
      split
      · exact .inl ⟨rfl, .inr rfl⟩
      split
      · exact .inl ⟨rfl, .inr rfl⟩
      split
      · exact .inl ⟨rfl, .inr rfl⟩
      rename_i noFault
      rw [Bool.not_eq_true, Bool.or_eq_false_iff] at noFault
      exact .inr ⟨rfl, noFault.1, noFault.2, move⟩

/-- A tick asks for nothing, or for a START with the next sequence number. -/
theorem schedulerTick_action (reg : ModuleRegistry δ) (pendingValid : Bool) (nextSeq : UInt32)
    (job : JobState) :
    (schedulerTick reg pendingValid nextSeq job).action = .nothing ∨
      ∃ dev, (schedulerTick reg pendingValid nextSeq job).action = ⟨true, nextSeq, dev⟩ := by
  have switch : (schedulerSwitch reg nextSeq job).action = .nothing ∨
      ∃ dev, (schedulerSwitch reg nextSeq job).action = ⟨true, nextSeq, dev⟩ := by
    cases job <;> rw [schedulerSwitch]
    all_goals repeat' split
    all_goals first | exact .inl rfl | exact .inr ⟨_, rfl⟩
  rw [schedulerTick]
  repeat' split
  all_goals first | exact .inl rfl | exact switch

/-- A move takes the START it issues off the remaining ones. -/
theorem JobMove.remaining {reg : ModuleRegistry δ} {job next : JobState} {start : Option Int32}
    (move : JobMove reg job start next) :
    (start.toList ++ remainingStarts next).Sublist (remainingStarts job) := by
  cases move with
  | stay => exact List.Sublist.refl _
  | alreadyDone => exact List.nil_sublist _
  | skipPreclean => decide
  | startPreclean => decide
  | precleanProcessing => decide
  | precleanFinished waiting => rcases waiting with rfl | rfl <;> decide
  | startDeposition => decide
  | depositionProcessing => decide
  | depositionFinished => exact List.nil_sublist _

/-- **A tick takes the START it issues off the remaining ones.** -/
theorem schedulerTick_remaining (reg : ModuleRegistry δ) (pendingValid : Bool) (nextSeq : UInt32)
    (job : JobState) :
    ((startOf (schedulerTick reg pendingValid nextSeq job).action).toList ++
      remainingStarts (schedulerTick reg pendingValid nextSeq job).job).Sublist
        (remainingStarts job) := by
  rcases schedulerTick_cases reg pendingValid nextSeq job with
    ⟨quiet, same | failed⟩ | ⟨_, _, _, move⟩
  · rw [quiet, same]
    exact List.Sublist.refl _
  · rw [quiet, failed]
    exact List.nil_sublist _
  · exact move.remaining

/-- A START goes to an idle usable chamber, and one for the deposition chamber is issued when
preclean is done or has been found done. -/
theorem JobMove.start {reg : ModuleRegistry δ} {job next : JobState} {dev : Int32}
    (move : JobMove reg job (some dev) next) :
    (dev = 1 ∨ dev = 2) ∧ isIdleUsable (startTarget reg dev) = true ∧
      (dev = 2 → isDone reg.pmcPreclean = true ∨ job = .precleanDone) := by
  cases move with
  | skipPreclean done usable => exact ⟨.inr rfl, usable, fun _ => .inl done⟩
  | startPreclean usable => exact ⟨.inl rfl, usable, fun two => absurd two (by decide)⟩
  | startDeposition usable => exact ⟨.inr rfl, usable, fun _ => .inr rfl⟩

/-- The job states and recorded chamber states at which a START is issued. -/
def StartReady (reg : ModuleRegistry δ) : JobState → Prop
  | .idle => isIdleUsable reg.pmcPreclean = true ∨
      isDone reg.pmcPreclean = true ∧ isIdleUsable reg.pmcDeposition = true
  | .precleanDone => isIdleUsable reg.pmcDeposition = true
  | _ => False

/-- A chamber is not recorded IDLE and DONE at once. -/
theorem isDone_of_isIdleUsable {m : ModuleInfo δ} (idle : isIdleUsable m = true) :
    isDone m = false := by
  simp only [isIdleUsable, Bool.and_eq_true, decide_eq_true_eq] at idle
  rw [isDone, idle.2, decide_eq_false (by decide), Bool.and_false]

theorem StartReady.switch {reg : ModuleRegistry δ} {job : JobState} (ready : StartReady reg job)
    (nextSeq : UInt32) : startOf (schedulerSwitch reg nextSeq job).action ≠ none := by
  cases job
  case idle =>
    simp only [schedulerSwitch]
    rcases ready with preclean | ⟨done, deposition⟩
    · simp [isDone_of_isIdleUsable preclean, preclean, sendStart, startOf]
    · simp [done, isDone_of_isIdleUsable deposition, deposition, sendStart, startOf]
  case precleanDone =>
    have usable : isUsable reg.pmcDeposition (ascii "IDLE") = true := ready
    simp [schedulerSwitch, usable, sendStart, startOf]
  all_goals exact ready.elim

/-- **When a tick issues a START**: nothing is pending, neither chamber is recorded in FAULT, and
the chambers are ready for it. -/
theorem schedulerTick_start_iff (reg : ModuleRegistry δ) (pendingValid : Bool) (nextSeq : UInt32)
    (job : JobState) :
    startOf (schedulerTick reg pendingValid nextSeq job).action ≠ none ↔
      pendingValid = false ∧ isState reg.pmcPreclean (ascii "FAULT") = false ∧
        isState reg.pmcDeposition (ascii "FAULT") = false ∧ StartReady reg job := by
  constructor
  · intro starts
    obtain ⟨dev, issued⟩ := Option.ne_none_iff_exists'.mp starts
    rcases schedulerTick_cases reg pendingValid nextSeq job with
      ⟨quiet, _⟩ | ⟨free, preclean, deposition, move⟩
    · exact absurd quiet starts
    · refine ⟨free, preclean, deposition, ?_⟩
      rw [issued] at move
      generalize (schedulerTick reg pendingValid nextSeq job).job = next at move
      cases move with
      | skipPreclean done usable => exact .inr ⟨done, usable⟩
      | startPreclean usable => exact .inl usable
      | startDeposition usable => exact usable
  · rintro ⟨rfl, preclean, deposition, ready⟩
    have waits : precleanLost reg job = false ∧ depositionLost reg job = false := by
      cases job
      case idle => exact ⟨rfl, rfl⟩
      case precleanDone => exact ⟨rfl, rfl⟩
      all_goals exact ready.elim
    simp only [schedulerTick, waits.1, waits.2, preclean, deposition, Bool.or_self,
      Bool.false_eq_true, if_false]
    exact ready.switch nextSeq

/-- `JOB_PRECLEAN_DONE` is entered from a waiting state, when preclean is recorded DONE. -/
theorem JobMove.into_precleanDone {reg : ModuleRegistry δ} {job : JobState} {start : Option Int32}
    (move : JobMove reg job start .precleanDone) :
    job = .precleanDone ∨ (job ≠ .idle ∧ isState reg.pmcPreclean (ascii "DONE") = true) := by
  cases move with
  | stay => exact .inl rfl
  | precleanFinished waiting done =>
      refine .inr ⟨?_, done⟩
      rcases waiting with rfl | rfl <;> decide

end Scheduler

end EquipmentControl
