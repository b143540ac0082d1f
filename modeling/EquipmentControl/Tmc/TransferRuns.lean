import EquipmentControl.Library.Machine
import EquipmentControl.Tmc.Transfer

/-!
# Runs of the transfer controller

Requests and ticks in any order, with the accepted requests recorded beside the state.

The timer runs exactly while a transfer does, and then holds the time of the START accepted last,
with at most STATUS requests accepted after it (`TransferInvariant`). So a transfer completes only
in a tick two seconds after that START, FAULT is left only by an accepted RESET, and every request
is answered once (`transfer_correct`).
-/

set_option autoImplicit false

namespace EquipmentControl

open InputMachine

/-- A call of the controller: a request, with the readings of the clock for the start of a transfer
and for the STATUS event, or a tick. -/
inductive TmcInput (δ : Type) where
  | request (req : Message δ) (startMs statusMs : ℤ)
  | tick (nowMs doneMs repeatMs : ℤ)

/-- An accepted request, with the reading of the clock for the start of a transfer. -/
structure AcceptedReq where
  type : MsgType
  startMs : ℤ
deriving DecidableEq

section Runs

variable (δ : Type) [CDouble δ]

/-- The responses among the lines sent. -/
def responses (sent : List Bytes) : List (Message δ) :=
  (sent.filterMap lineParse).filter fun out => decide (out.role = .resp)

variable {δ}

/-- A request is accepted when a response other than an error is sent for it. -/
def noteAccepted (ctx : TmcCtx) (input : TmcInput δ) (history : List AcceptedReq) :
    List AcceptedReq :=
  match input with
  | .request req startMs statusMs =>
      if (responses δ (handleReqMessage ctx req startMs statusMs true true).sent).any
          fun resp => decide (resp.type ≠ .error) then ⟨req.type, startMs⟩ :: history
      else history
  | .tick .. => history

/-- The controller with its accepted requests, the last one first. Sends succeed; the outputs are
the lines sent. -/
def tmcMachine : Machine (TmcCtx × List AcceptedReq) (TmcInput δ) (List Bytes) :=
  Machine.withRecord
    { step := fun ctx input =>
        match input with
        | .request req startMs statusMs =>
            let handled := handleReqMessage ctx req startMs statusMs true true
            (handled.ctx, handled.sent)
        | .tick nowMs doneMs repeatMs => tickStateMachine δ ctx nowMs doneMs repeatMs true true }
    noteAccepted

variable (δ) in
/-- The state in which `main` enters its loop. -/
def tmcEnter (statusMs : ℤ) : TmcCtx × List AcceptedReq := ((tmcStart δ statusMs).1, [])

/-- The clock reads more than 0 when a transfer starts. -/
def TmcInput.PositiveClock : TmcInput δ → Prop
  | .request _ startMs _ => 0 < startMs
  | .tick .. => True

/-- A tick that comes two seconds or more after the START accepted last, with no other START, STOP
or FAULT accepted since. -/
def CompletesTransfer (history : List AcceptedReq) : TmcInput δ → Prop
  | .request .. => False
  | .tick nowMs _ _ => ∃ later startMs older, history = later ++ ⟨.start, startMs⟩ :: older ∧
      (∀ accepted ∈ later, accepted.type = .status) ∧ 2000 ≤ nowMs - startMs

/-- A RESET was accepted between two histories. -/
def ResetAccepted (before after : List AcceptedReq) : Prop :=
  ∃ added, after = added ++ before ∧ ∃ accepted ∈ added, accepted.type = .reset

variable (δ) in
/-- What is promised of a state of the controller and of what can happen in it. -/
structure TransferCorrect (s : TmcCtx × List AcceptedReq) : Prop where
  timer : 0 < s.1.transferStartedMs ↔ s.1.state = .transferring
  completes : ∀ input : TmcInput δ, s.1.state ≠ .done →
    (tmcMachine.step s input).1.1.state = .done → CompletesTransfer s.2 input
  latched : ∀ later : List (TmcInput δ), s.1.state = .fault →
    (tmcMachine.run s later).1.state = .fault ∨ ResetAccepted s.2 (tmcMachine.run s later).2
  answered : ∀ (req : Message δ) (startMs statusMs : ℤ), req.role = .req → ∃ resp,
    responses δ (tmcMachine.step s (.request req startMs statusMs)).2 = [resp] ∧
      resp.dev = req.dev ∧ resp.seq = req.seq ∧
      (resp.type = .error →
        (tmcMachine.step s (.request req startMs statusMs)).1.1.state = s.1.state ∧
        (tmcMachine.step s (.request req startMs statusMs)).1.1.transferStartedMs =
          s.1.transferStartedMs)

/-! ## The responses to a request -/

/-- A message that is read back from its line. -/
structure Readable (m : Message δ) : Prop where
  plain : Plain m
  role : m.role ≠ .unknown
  type : m.type ≠ .unknown

/-- Lines that were sent are read as the messages they were formatted from. -/
theorem responses_lines (messages : List (Message δ)) (readable : ∀ m ∈ messages, Readable m) :
    responses δ (messages.map fun m => lineText m ++ [10]) =
      messages.filter fun m => decide (m.role = .resp) := by
  have read : (messages.map fun m => lineText m ++ [10]).filterMap lineParse = messages := by
    rw [List.filterMap_map]
    refine (List.filterMap_congr fun m member => ?_).trans List.filterMap_some
    obtain ⟨plain, role, type⟩ := readable m member
    rw [Function.comp_apply, plain.lineParse_lineText role type]
  rw [responses, read]

omit [CDouble δ] in
theorem clean_tmcState (state : TmcState) : Clean (strncpy 31 (tmcStateToString state)).bytes := by
  cases state <;> decide

/-- A response that goes with no move is readable, and repeats the request. -/
structure AnswersTo (req resp : Message δ) : Prop extends Readable resp where
  isResp : resp.role = .resp
  dev : resp.dev = req.dev
  seq : resp.seq = req.seq

omit [CDouble δ] in
theorem Unmoved.answers {req resp : Message δ} (unmoved : Unmoved req resp) :
    AnswersTo req resp := by
  cases unmoved with
  | status state isStatus =>
      refine ⟨⟨⟨rfl, rfl, rfl, ?_, by rintro _ ⟨⟩⟩, ?_, ?_⟩, rfl, rfl, rfl⟩
      · rintro _ ⟨⟩
        exact clean_tmcState state
      · exact show MsgRole.resp ≠ .unknown by decide
      · exact show MsgType.status ≠ .unknown by decide
  | refused code text clean =>
      refine ⟨⟨⟨rfl, rfl, rfl, by rintro _ ⟨⟩, ?_⟩, ?_, ?_⟩, rfl, rfl, rfl⟩
      · rintro _ ⟨⟩
        exact clean
      · exact show MsgRole.resp ≠ .unknown by decide
      · exact show MsgType.error ≠ .unknown by decide

/-- A command with a move is known, and is no error. -/
theorem TmcMove.known {before after : TmcState} {startMs timer : ℤ} {type : MsgType}
    (move : TmcMove before startMs type after timer) : type ≠ .unknown ∧ type ≠ .error := by
  cases move <;> decide

omit [CDouble δ] in
theorem TmcMove.answers {before after : TmcState} {startMs timer : ℤ} {req : Message δ}
    (move : TmcMove before startMs req.type after timer) :
    AnswersTo req (tmcSimpleResp req true 0 []) where
  plain := ⟨rfl, rfl, rfl, by rintro _ ⟨⟩, by rintro _ ⟨⟩⟩
  role := show MsgRole.resp ≠ .unknown by decide
  type := move.known.1
  isResp := rfl
  dev := rfl
  seq := rfl

omit [CDouble δ] in
theorem readable_statusEvt (state : TmcState) : Readable (tmcStatusEvt state : Message δ) where
  plain := by
    refine ⟨rfl, rfl, rfl, ?_, by rintro _ ⟨⟩⟩
    rintro _ ⟨⟩
    exact clean_tmcState state
  role := show MsgRole.evt ≠ .unknown by decide
  type := show MsgType.status ≠ .unknown by decide

/-- **A request is answered by exactly one response.** -/
theorem TmcReqStep.responds {ctx : TmcCtx} {req : Message δ} {startMs statusMs : ℤ}
    {result : TmcResult} (step : TmcReqStep ctx req startMs statusMs result) :
    ∃ resp, responses δ result.sent = [resp] ∧ AnswersTo req resp ∧
      ((result.ctx = ctx ∧ (resp.type ≠ .error → req.type = .status)) ∨
        resp.type ≠ .error ∧ ∃ state timer, TmcMove ctx.state startMs req.type state timer ∧
          result.ctx = ⟨state, timer, statusMs⟩) := by
  cases step with
  | unmoved resp unmoved =>
      have answers := unmoved.answers
      refine ⟨resp, ?_, answers, .inl ⟨rfl, fun positive => ?_⟩⟩
      · refine (responses_lines [resp] ?_).trans ?_
        · rintro _ (_ | ⟨_, ⟨⟩⟩)
          exact answers.toReadable
        · simp [answers.isResp]
      · cases unmoved with
        | status _ isStatus => exact isStatus
        | refused => exact absurd rfl positive
  | accepted state timer move =>
      refine ⟨_, ?_, move.answers, .inr ⟨move.known.2, state, timer, move, rfl⟩⟩
      refine (responses_lines [tmcSimpleResp req true 0 [], tmcStatusEvt state] ?_).trans rfl
      intro m member
      rcases List.mem_cons.mp member with rfl | member
      · exact move.answers.toReadable
      · rw [List.mem_singleton.mp member]
        exact readable_statusEvt state

/-! ## The invariant -/

/-- The timer runs exactly while a transfer does, and then since the START accepted last, after
which at most STATUS requests were accepted. -/
structure TransferInvariant (s : TmcCtx × List AcceptedReq) : Prop where
  timer : 0 < s.1.transferStartedMs ↔ s.1.state = .transferring
  started : s.1.state = .transferring → ∃ later older,
    s.2 = later ++ ⟨.start, s.1.transferStartedMs⟩ :: older ∧
      ∀ accepted ∈ later, accepted.type = .status

/-- What a call does to the context and the accepted requests. -/
inductive TmcStep (s : TmcCtx × List AcceptedReq) : TmcInput δ → TmcCtx × List AcceptedReq → Prop
    where
  | kept (input : TmcInput δ) (statusMs : ℤ) :
      TmcStep s input ({ s.1 with lastStatusSentMs := statusMs }, s.2)
  | reported (req : Message δ) (startMs statusMs : ℤ) : req.type = .status →
      TmcStep s (.request req startMs statusMs) (s.1, ⟨.status, startMs⟩ :: s.2)
  | moved (req : Message δ) (startMs statusMs timer : ℤ) (state : TmcState) :
      TmcMove s.1.state startMs req.type state timer →
      TmcStep s (.request req startMs statusMs)
        (⟨state, timer, statusMs⟩, ⟨req.type, startMs⟩ :: s.2)
  | completed (nowMs doneMs repeatMs statusMs : ℤ) : s.1.state = .transferring →
      2000 ≤ nowMs - s.1.transferStartedMs →
      TmcStep s (.tick nowMs doneMs repeatMs) (⟨.done, 0, statusMs⟩, s.2)

/-- A tick completes the transfer whose time has come, or leaves all but the time of the last STATUS
event alone. -/
theorem tickStateMachine_cases (ctx : TmcCtx) (nowMs doneMs repeatMs : ℤ) :
    ∃ statusMs, (ctx.state = .transferring ∧ 2000 ≤ nowMs - ctx.transferStartedMs ∧
        (tickStateMachine δ ctx nowMs doneMs repeatMs true true).1 = ⟨.done, 0, statusMs⟩) ∨
      (tickStateMachine δ ctx nowMs doneMs repeatMs true true).1 =
        { ctx with lastStatusSentMs := statusMs } := by
  simp only [tickStateMachine, sendStatusEvt_sent]
  by_cases due : ctx.state = .transferring ∧ 0 < ctx.transferStartedMs ∧
      2000 ≤ nowMs - ctx.transferStartedMs
  · simp only [if_pos due]
    split
    · exact ⟨repeatMs, .inl ⟨due.1, due.2.2, rfl⟩⟩
    · exact ⟨doneMs, .inl ⟨due.1, due.2.2, rfl⟩⟩
  · simp only [if_neg due]
    split
    · exact ⟨repeatMs, .inr rfl⟩
    · exact ⟨ctx.lastStatusSentMs, .inr rfl⟩

/-- The one response of a request tells whether it is accepted. -/
theorem noteAccepted_of_responds {ctx : TmcCtx} {req resp : Message δ} {startMs statusMs : ℤ}
    (responds : responses δ (handleReqMessage ctx req startMs statusMs true true).sent = [resp])
    (history : List AcceptedReq) :
    noteAccepted ctx (.request req startMs statusMs) history =
      if resp.type ≠ .error then ⟨req.type, startMs⟩ :: history else history := by
  simp [noteAccepted, responds]

/-- **Everything a call can do.** -/
theorem tmcMachine_step (s : TmcCtx × List AcceptedReq) (input : TmcInput δ) :
    TmcStep s input (tmcMachine.step s input).1 := by
  cases input with
  | tick nowMs doneMs repeatMs =>
      change TmcStep s _ ((tickStateMachine δ s.1 nowMs doneMs repeatMs true true).1, s.2)
      obtain ⟨statusMs, ⟨transferring, due, after⟩ | after⟩ :=
        tickStateMachine_cases (δ := δ) s.1 nowMs doneMs repeatMs
      · rw [after]
        exact .completed nowMs doneMs repeatMs statusMs transferring due
      · rw [after]
        exact .kept _ statusMs
  | request req startMs statusMs =>
      change TmcStep s _ ((handleReqMessage s.1 req startMs statusMs true true).ctx,
        noteAccepted s.1 (.request req startMs statusMs) s.2)
      by_cases isReq : req.role = .req
      · obtain ⟨resp, responds, _, ⟨kept, positive⟩ | ⟨accepted, state, timer, move, after⟩⟩ :=
          (handleReqMessage_step s.1 req isReq startMs statusMs).responds
        · rw [noteAccepted_of_responds responds, kept]
          split
          · rename_i accepted
            have isStatus := positive accepted
            rw [isStatus]
            exact .reported req startMs statusMs isStatus
          · exact .kept _ s.1.lastStatusSentMs
        · rw [noteAccepted_of_responds responds, if_pos accepted, after]
          exact .moved req startMs statusMs timer state move
      · have ignored : handleReqMessage s.1 req startMs statusMs true true = ⟨s.1, 0, []⟩ := by
          rw [handleReqMessage, if_pos isReq]
        have unheard : noteAccepted s.1 (.request req startMs statusMs) s.2 = s.2 := by
          rw [noteAccepted, ignored]
          rfl
        rw [unheard, ignored]
        exact .kept _ s.1.lastStatusSentMs

/-- The timer is armed by a START only, and cleared by every other move. -/
theorem TmcMove.timer {before after : TmcState} {startMs timer : ℤ} {type : MsgType}
    (move : TmcMove before startMs type after timer) :
    type = .start ∧ after = .transferring ∧ timer = startMs ∨
      after ≠ .transferring ∧ timer = 0 := by
  cases move with
  | start => exact .inl ⟨rfl, rfl, rfl⟩
  | stop => exact .inr ⟨by decide, rfl⟩
  | fault => exact .inr ⟨by decide, rfl⟩
  | reset => exact .inr ⟨by decide, rfl⟩

/-- No command leads to DONE, and out of FAULT only a RESET leads. -/
theorem TmcMove.target {before after : TmcState} {startMs timer : ℤ} {type : MsgType}
    (move : TmcMove before startMs type after timer) :
    after ≠ .done ∧ (before = .fault → after = .fault ∨ type = .reset) := by
  cases move with
  | start ready =>
      refine ⟨by decide, fun fault => ?_⟩
      rw [fault] at ready
      rcases ready with ready | ready <;> cases ready
  | stop moving => exact ⟨by decide, fun fault => by cases fault.symm.trans moving⟩
  | fault => exact ⟨by decide, fun _ => .inl rfl⟩
  | reset => exact ⟨by decide, fun _ => .inr rfl⟩

/-- A state without a transfer, whose timer is cleared. -/
theorem TransferInvariant.of_stopped {s : TmcCtx × List AcceptedReq}
    (stopped : s.1.state ≠ .transferring) (cleared : s.1.transferStartedMs = 0) :
    TransferInvariant s where
  timer := iff_of_false (by rw [cleared]; exact lt_irrefl 0) stopped
  started transferring := absurd transferring stopped

/-- **A call keeps the timer right**, as long as the clock is positive. -/
theorem TransferInvariant.step (s : TmcCtx × List AcceptedReq) (input : TmcInput δ)
    (invariant : TransferInvariant s) (positive : input.PositiveClock) :
    TransferInvariant (tmcMachine.step s input).1 := by
  have step := tmcMachine_step s input
  generalize (tmcMachine.step s input).1 = after at step ⊢
  cases step with
  | kept input statusMs => exact ⟨invariant.timer, invariant.started⟩
  | reported req startMs statusMs isStatus =>
      refine ⟨invariant.timer, fun transferring => ?_⟩
      obtain ⟨later, older, history, quiet⟩ := invariant.started transferring
      refine ⟨⟨.status, startMs⟩ :: later, older, by rw [history]; rfl, ?_⟩
      intro accepted member
      rcases List.mem_cons.mp member with rfl | old
      · rfl
      · exact quiet accepted old
  | moved req startMs statusMs timer state move =>
      rcases move.timer with ⟨isStart, rfl, rfl⟩ | ⟨stopped, rfl⟩
      · refine ⟨iff_of_true positive rfl, fun _ => ⟨[], s.2, by rw [isStart]; rfl, ?_⟩⟩
        rintro _ ⟨⟩
      · exact .of_stopped stopped rfl
  | completed => exact .of_stopped (show TmcState.done ≠ .transferring by decide) rfl

/-! ## What follows -/

/-- **A transfer completes on time.** -/
theorem TransferInvariant.completes {s : TmcCtx × List AcceptedReq}
    (invariant : TransferInvariant s) (input : TmcInput δ) (notYet : s.1.state ≠ .done)
    (done : (tmcMachine.step s input).1.1.state = .done) : CompletesTransfer s.2 input := by
  have step := tmcMachine_step s input
  generalize (tmcMachine.step s input).1 = after at step done
  cases step with
  | kept => exact absurd done notYet
  | reported => exact absurd done notYet
  | moved req startMs statusMs timer state move =>
      exact absurd done move.target.1
  | completed nowMs doneMs repeatMs statusMs transferring due =>
      obtain ⟨later, older, history, quiet⟩ := invariant.started transferring
      exact ⟨later, s.1.transferStartedMs, older, history, quiet, due⟩

/-- A call leaves FAULT only by accepting a RESET. -/
theorem tmcMachine_fault (s : TmcCtx × List AcceptedReq) (input : TmcInput δ)
    (fault : s.1.state = .fault) :
    (tmcMachine.step s input).1.1.state = .fault ∨
      ResetAccepted s.2 (tmcMachine.step s input).1.2 := by
  have step := tmcMachine_step s input
  generalize (tmcMachine.step s input).1 = after at step ⊢
  cases step with
  | kept => exact .inl fault
  | reported => exact .inl fault
  | moved req startMs statusMs timer state move =>
      rcases move.target.2 fault with still | isReset
      · exact .inl still
      · exact .inr ⟨[⟨req.type, startMs⟩], rfl, _, List.mem_singleton_self _, isReset⟩
  | completed _ _ _ _ transferring => cases fault.symm.trans transferring

/-- A call forgets no accepted request. -/
theorem tmcMachine_history (s : TmcCtx × List AcceptedReq) (input : TmcInput δ) :
    ∃ added, (tmcMachine.step s input).1.2 = added ++ s.2 := by
  have step := tmcMachine_step s input
  generalize (tmcMachine.step s input).1 = after at step ⊢
  cases step with
  | kept => exact ⟨[], rfl⟩
  | reported => exact ⟨[_], rfl⟩
  | moved => exact ⟨[_], rfl⟩
  | completed => exact ⟨[], rfl⟩

/-- A run forgets no accepted request. -/
theorem run_history (s : TmcCtx × List AcceptedReq) (later : List (TmcInput δ)) :
    ∃ added, (tmcMachine.run s later).2 = added ++ s.2 := by
  refine Machine.invariant
    (I := fun (after : TmcCtx × List AcceptedReq) => ∃ added, after.2 = added ++ s.2)
    ?_ ⟨[], rfl⟩ later
  rintro after input ⟨added, history⟩
  obtain ⟨more, next⟩ := tmcMachine_history after input
  exact ⟨more ++ added, by rw [next, history, List.append_assoc]⟩

/-- **A run leaves FAULT only by accepting a RESET.** -/
theorem run_latched (s : TmcCtx × List AcceptedReq) (later : List (TmcInput δ))
    (fault : s.1.state = .fault) :
    (tmcMachine.run s later).1.state = .fault ∨ ResetAccepted s.2 (tmcMachine.run s later).2 := by
  induction later generalizing s with
  | nil => exact .inl fault
  | cons input later ih =>
      rw [Machine.run_cons]
      rcases tmcMachine_fault s input fault with still | ⟨added, history, reset⟩
      · rcases ih _ still with kept | ⟨added, history, reset⟩
        · exact .inl kept
        · obtain ⟨more, next⟩ := tmcMachine_history s input
          refine .inr ⟨added ++ more, by rw [history, next, List.append_assoc], ?_⟩
          obtain ⟨accepted, member, isReset⟩ := reset
          exact ⟨accepted, List.mem_append_left more member, isReset⟩
      · obtain ⟨more, after⟩ := run_history (tmcMachine.step s input).1 later
        refine .inr ⟨more ++ added, by rw [after, history, List.append_assoc], ?_⟩
        obtain ⟨accepted, member, isReset⟩ := reset
        exact ⟨accepted, List.mem_append_right more member, isReset⟩

theorem tmcEnter_eq (statusMs : ℤ) : tmcEnter δ statusMs = (⟨.idle, 0, statusMs⟩, []) := by
  simp only [tmcEnter, tmcStart, sendStatusEvt_sent]

/-- **In every run of the transfer controller** whose clock is positive the timer runs exactly while
a transfer does, a transfer completes only in a tick two seconds or more after the START accepted
last, FAULT is left only by an accepted RESET, and every request is answered by one response, an
error only if it changes nothing. -/
theorem transfer_correct (statusMs : ℤ) (inputs : List (TmcInput δ))
    (positive : ∀ input ∈ inputs, input.PositiveClock) :
    TransferCorrect δ (tmcMachine.run (tmcEnter δ statusMs) inputs) := by
  have start : TransferInvariant (tmcEnter δ statusMs) := by
    rw [tmcEnter_eq]
    exact .of_stopped (show TmcState.idle ≠ .transferring by decide) rfl
  have invariant : TransferInvariant (tmcMachine.run (tmcEnter δ statusMs) inputs) :=
    Machine.invariant_along (P := fun _ input => input.PositiveClock)
      (fun s input holds allowed => holds.step s input allowed) start
      (Machine.along_of_forall positive)
  generalize tmcMachine.run (tmcEnter δ statusMs) inputs = s at invariant
  refine ⟨invariant.timer, invariant.completes, fun later => run_latched s later, ?_⟩
  intro req startMs statusMs isReq
  obtain ⟨resp, responds, answers, unmoved | ⟨accepted, _⟩⟩ :=
    (handleReqMessage_step s.1 req isReq startMs statusMs).responds
  · refine ⟨resp, responds, answers.dev, answers.seq, fun _ => ?_⟩
    change (handleReqMessage s.1 req startMs statusMs true true).ctx.state = _ ∧
      (handleReqMessage s.1 req startMs statusMs true true).ctx.transferStartedMs = _
    rw [unmoved.1]
    exact ⟨rfl, rfl⟩
  · exact ⟨resp, responds, answers.dev, answers.seq, fun error => absurd error accepted⟩

end Runs

/-- A START at one second, a tick two seconds later, and a STOP that comes too late. -/
def oneTransfer : List (TmcInput ℚ) :=
  [.request { role := .req, type := .start, seq := some 5 } 1000 1001, .tick 3000 3001 3002,
    .request { role := .req, type := .stop, seq := some 6 } 3100 3101]

/-- For that run the theorem applies. -/
theorem transfer_correct_once :
    TransferCorrect ℚ (tmcMachine.run (tmcEnter ℚ 1) oneTransfer) := by
  refine transfer_correct 1 oneTransfer ?_
  intro input member
  rcases List.mem_cons.mp member with rfl | member
  · exact show (0 : ℤ) < 1000 by decide
  rcases List.mem_cons.mp member with rfl | member
  · trivial
  rw [List.mem_singleton.mp member]
  exact show (0 : ℤ) < 3100 by decide

/-- The transfer has completed and the STOP is refused. -/
example : (tmcMachine.run (tmcEnter ℚ 1) oneTransfer).1.state = .done := by decide

end EquipmentControl
