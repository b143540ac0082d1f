import EquipmentControl.Equipmentd.Control
import EquipmentControl.Library.Machine

/-!
# Runs of the job

The job state moves at scheduler ticks, with whatever the registry and the tracker hold then,
and when a STOP, RESET or FAULT is acknowledged. Between two RESETs the STARTs of a run are a
sublist of preclean, deposition, and none comes after the job has ended
(`starts_between_resets`). Every START of a run is guarded, and one for the deposition chamber
comes after preclean was found done (`start_guarded`).
-/

set_option autoImplicit false

namespace EquipmentControl

open InputMachine

/-- What moves the job: a tick with the registry and the pending flag it sees, or the positive
acknowledgement of a request of some type. -/
inductive JobInput (δ : Type) where
  | tick (reg : ModuleRegistry δ) (pendingValid : Bool)
  | acked (type : MsgType)

/-- `next_seq` and `job_state`. -/
structure JobCtx where
  nextSeq : UInt32
  job : JobState

section Runs

variable {δ : Type}

/-- The job as a machine that emits the device of every START it issues. -/
def jobMachine : Machine JobCtx (JobInput δ) (Option Int32) where
  step s
    | .tick reg pendingValid =>
        let tick := schedulerTick reg pendingValid s.nextSeq s.job
        (⟨tick.nextSeq, tick.job⟩, startOf tick.action)
    | .acked type => (⟨s.nextSeq, ackedJob type s.job⟩, none)

/-- The devices of the STARTs a run issues, in order. -/
def starts (s : JobCtx) (inputs : List (JobInput δ)) : List Int32 :=
  (jobMachine.outputs s inputs).flatMap Option.toList

/-- The job has stopped, completed or failed. -/
def JobState.Ended (job : JobState) : Prop := job = .stopped ∨ job = .complete ∨ job = .error

theorem JobState.Ended.remainingStarts {job : JobState} (ended : job.Ended) :
    remainingStarts job = [] := by
  rcases ended with rfl | rfl | rfl <;> rfl

/-- Every acknowledgement but that of a RESET leaves no more STARTs than before. -/
theorem ackedJob_remaining {type : MsgType} (noReset : type ≠ .reset) (job : JobState) :
    (remainingStarts (ackedJob type job)).Sublist (remainingStarts job) := by
  cases type
  case reset => exact absurd rfl noReset
  case stop => exact List.nil_sublist _
  case fault => exact List.nil_sublist _
  all_goals exact List.Sublist.refl _

/-- One step without a RESET takes the START it issues off the remaining ones. -/
theorem jobMachine_remaining (s : JobCtx) {input : JobInput δ} (noReset : input ≠ .acked .reset) :
    ((jobMachine.step s input).2.toList ++ remainingStarts (jobMachine.step s input).1.job).Sublist
      (remainingStarts s.job) := by
  cases input with
  | tick reg pendingValid => exact schedulerTick_remaining reg pendingValid s.nextSeq s.job
  | acked type => exact ackedJob_remaining (fun same => noReset (by rw [same])) s.job

/-- A run without a RESET takes the STARTs it issues off the remaining ones. -/
theorem starts_remaining (s : JobCtx) (inputs : List (JobInput δ))
    (noReset : .acked .reset ∉ inputs) :
    (starts s inputs ++ remainingStarts (jobMachine.run s inputs).job).Sublist
      (remainingStarts s.job) := by
  induction inputs generalizing s with
  | nil => exact List.Sublist.refl _
  | cons input rest ih =>
      have first := jobMachine_remaining s fun same => noReset (same ▸ List.mem_cons_self)
      have later : (starts (jobMachine.step s input).1 rest ++
          remainingStarts (jobMachine.run (jobMachine.step s input).1 rest).job).Sublist
            (remainingStarts (jobMachine.step s input).1.job) := by
        apply ih
        intro member
        exact noReset (List.mem_cons_of_mem input member)
      have split : starts s (input :: rest) =
          (jobMachine.step s input).2.toList ++ starts (jobMachine.step s input).1 rest := by
        rw [starts, Machine.outputs_cons, List.flatMap_cons]
        rfl
      rw [split, List.append_assoc, Machine.run_cons]
      exact (later.append_left _).trans first

/-- Every job state leaves a sublist of preclean, deposition to start. -/
theorem remainingStarts_sublist (job : JobState) : (remainingStarts job).Sublist [1, 2] := by
  cases job <;> decide

/-- **Between two acknowledged RESETs**, or from the start of the run, each chamber is started at
most once, preclean before deposition, and none once the job has stopped, completed or
failed. -/
theorem starts_between_resets (nextSeq : UInt32) (before segment : List (JobInput δ))
    (noReset : .acked .reset ∉ segment) :
    (starts (jobMachine.run ⟨nextSeq, .idle⟩ before) segment).Sublist [1, 2] ∧
      ∀ passed rest, segment = passed ++ rest →
        (jobMachine.run ⟨nextSeq, .idle⟩ (before ++ passed)).job.Ended →
          starts (jobMachine.run ⟨nextSeq, .idle⟩ (before ++ passed)) rest = [] := by
  constructor
  · have all := starts_remaining (jobMachine.run ⟨nextSeq, .idle⟩ before) segment noReset
    exact ((List.sublist_append_left _ _).trans all).trans (remainingStarts_sublist _)
  · rintro passed rest rfl ended
    have all := starts_remaining (jobMachine.run ⟨nextSeq, .idle⟩ (before ++ passed))
      rest fun member => noReset (List.mem_append_right passed member)
    rw [ended.remainingStarts, List.sublist_nil, List.append_eq_nil_iff] at all
    exact all.1

/-- A chamber recorded healthy in a state. -/
def chamberIn (state : String) : ModuleInfo ℚ :=
  { ModuleInfo.zero with
    registered := true
    healthy := true
    hasState := true
    currentState := strncpy 31 (ascii state) }

/-- A registry with the two chambers in given states. -/
def chambersIn (preclean deposition : String) : ModuleRegistry ℚ where
  tmc := .zero
  pmcPreclean := chamberIn preclean
  pmcDeposition := chamberIn deposition

/-- A whole job, after a run that was stopped and reset. -/
theorem starts_between_resets_job :
    let before := [.tick (chambersIn "IDLE" "IDLE") false, .acked .stop, .acked .reset]
    let segment := [.tick (chambersIn "IDLE" "IDLE") false, .tick (chambersIn "DONE" "IDLE") false,
      .tick (chambersIn "DONE" "IDLE") false, .tick (chambersIn "DONE" "DONE") false]
    (starts (jobMachine.run ⟨1000, .idle⟩ before) segment).Sublist [1, 2] ∧
      ∀ passed rest, segment = passed ++ rest →
        (jobMachine.run ⟨1000, .idle⟩ (before ++ passed)).job.Ended →
          starts (jobMachine.run ⟨1000, .idle⟩ (before ++ passed)) rest = [] :=
  starts_between_resets 1000 _ _ (by simp)

/-! ## Deposition after preclean -/

/-- Some tick of a run saw preclean DONE, with the job not idle then or at any later point. -/
def PrecleanDoneSinceIdle (start : JobCtx) (inputs : List (JobInput δ)) : Prop :=
  ∃ earlier reg pendingValid later, inputs = earlier ++ .tick reg pendingValid :: later ∧
    isState reg.pmcPreclean (ascii "DONE") = true ∧
    (jobMachine.run start earlier).job ≠ .idle ∧
    ∀ part, part <+: later →
      (jobMachine.run start (earlier ++ .tick reg pendingValid :: part)).job ≠ .idle

/-- A step to a state that is not idle keeps what was found. -/
theorem PrecleanDoneSinceIdle.concat {start : JobCtx} {inputs : List (JobInput δ)}
    (found : PrecleanDoneSinceIdle start inputs) {input : JobInput δ}
    (busy : (jobMachine.run start (inputs ++ [input])).job ≠ .idle) :
    PrecleanDoneSinceIdle start (inputs ++ [input]) := by
  obtain ⟨earlier, reg, pendingValid, later, rfl, done, before, after⟩ := found
  refine ⟨earlier, reg, pendingValid, later ++ [input], by simp, done, before, ?_⟩
  intro part isPrefix
  rcases List.prefix_concat_iff.mp isPrefix with rfl | shorter
  · simpa using busy
  · exact after part shorter

/-- **`JOB_PRECLEAN_DONE` is reached only after preclean was found done.** -/
theorem precleanDone_found (start : JobCtx) (idle : start.job = .idle)
    (inputs : List (JobInput δ)) (reached : (jobMachine.run start inputs).job = .precleanDone) :
    PrecleanDoneSinceIdle start inputs := by
  induction inputs using List.reverseRecOn with
  | nil =>
      rw [Machine.run_nil, idle] at reached
      cases reached
  | append_singleton inputs input ih =>
      have busy : (jobMachine.run start (inputs ++ [input])).job ≠ .idle := by
        rw [reached]
        decide
      have carry : (jobMachine.run start inputs).job = .precleanDone →
          PrecleanDoneSinceIdle start (inputs ++ [input]) := by
        intro same
        exact (ih same).concat busy
      have moved := reached
      rw [Machine.run_concat] at moved
      cases input with
      | acked type =>
          apply carry
          cases type
          case stop => cases moved
          case reset => cases moved
          case fault => cases moved
          all_goals exact moved
      | tick reg pendingValid =>
          rcases schedulerTick_cases reg pendingValid (jobMachine.run start inputs).nextSeq
            (jobMachine.run start inputs).job with ⟨_, same | failed⟩ | ⟨_, _, _, move⟩
          · exact carry (same.symm.trans moved)
          · cases failed.symm.trans moved
          · have into : (schedulerTick reg pendingValid (jobMachine.run start inputs).nextSeq
                (jobMachine.run start inputs).job).job = .precleanDone := moved
            rw [into] at move
            rcases move.into_precleanDone with same | ⟨notIdle, done⟩
            · exact carry same
            · refine ⟨inputs, reg, pendingValid, [], rfl, done, notIdle, ?_⟩
              intro part isPrefix
              rw [List.prefix_nil.mp isPrefix]
              exact busy

/-- **Every START of a run is guarded**: nothing is pending, neither chamber is recorded in FAULT,
the target chamber is registered, healthy and recorded IDLE, and a START of the deposition
chamber finds preclean DONE, or found it DONE since the job was last idle. -/
theorem start_guarded (nextSeq : UInt32) (before : List (JobInput δ)) (reg : ModuleRegistry δ)
    (pendingValid : Bool) (dev : Int32)
    (issued : (jobMachine.step (jobMachine.run ⟨nextSeq, .idle⟩ before)
      (.tick reg pendingValid)).2 = some dev) :
    pendingValid = false ∧ isState reg.pmcPreclean (ascii "FAULT") = false ∧
      isState reg.pmcDeposition (ascii "FAULT") = false ∧ (dev = 1 ∨ dev = 2) ∧
      isIdleUsable (startTarget reg dev) = true ∧
      (dev = 2 → isState reg.pmcPreclean (ascii "DONE") = true ∨
        PrecleanDoneSinceIdle ⟨nextSeq, .idle⟩ before) := by
  rcases schedulerTick_cases reg pendingValid (jobMachine.run ⟨nextSeq, .idle⟩ before).nextSeq
    (jobMachine.run ⟨nextSeq, .idle⟩ before).job with ⟨quiet, _⟩ | ⟨free, preclean, deposition, move⟩
  · cases quiet.symm.trans issued
  · have same : startOf (schedulerTick reg pendingValid
        (jobMachine.run ⟨nextSeq, .idle⟩ before).nextSeq
        (jobMachine.run ⟨nextSeq, .idle⟩ before).job).action = some dev := issued
    rw [same] at move
    obtain ⟨target, usable, order⟩ := move.start
    refine ⟨free, preclean, deposition, target, usable, ?_⟩
    intro two
    rcases order two with done | reached
    · exact .inl (isState_of_isDone done)
    · exact .inr (precleanDone_found ⟨nextSeq, .idle⟩ rfl before reached)

/-- The START of the deposition chamber in a job whose preclean was seen DONE one tick before. -/
theorem start_guarded_deposition :
    let before := [.tick (chambersIn "IDLE" "IDLE") false, .tick (chambersIn "DONE" "IDLE") false]
    false = false ∧ isState (chambersIn "IDLE" "IDLE").pmcPreclean (ascii "FAULT") = false ∧
      isState (chambersIn "IDLE" "IDLE").pmcDeposition (ascii "FAULT") = false ∧
      ((2 : Int32) = 1 ∨ (2 : Int32) = 2) ∧
      isIdleUsable (startTarget (chambersIn "IDLE" "IDLE") 2) = true ∧
      ((2 : Int32) = 2 → isState (chambersIn "IDLE" "IDLE").pmcPreclean (ascii "DONE") = true ∨
        PrecleanDoneSinceIdle ⟨1000, .idle⟩ before) :=
  start_guarded 1000 _ (chambersIn "IDLE" "IDLE") false 2 (by decide)

end Runs

end EquipmentControl
