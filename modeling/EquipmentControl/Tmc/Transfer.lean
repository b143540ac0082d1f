import EquipmentControl.Protocol.RoundTrip

/-!
# The transfer controller

The state machine of `nodes/tmc/src/main.c`: requests, the tick that ends a transfer and repeats the
status, and the start-up. The clock readings and the outcomes of sends are inputs; the socket and
the session are left out.

A request whose answers are sent either leaves the context alone, as a STATUS and everything that is
refused does, or makes the one move of its command and reports it (`handleReqMessage_step`).
-/

set_option autoImplicit false

namespace EquipmentControl

inductive TmcState where
  | idle | transferring | done | fault
deriving DecidableEq, Repr

/-- `tmc_ctx_t`. -/
structure TmcCtx where
  state : TmcState
  transferStartedMs : ℤ
  lastStatusSentMs : ℤ
deriving DecidableEq

/-- What a call leaves: the context, its result, and the lines it sent. -/
structure TmcResult where
  ctx : TmcCtx
  ret : ℤ
  sent : List Bytes

/-- `TMC_DEV_ID`. -/
def tmcDevId : UInt32 := 100

/-- `tmc_state_to_string`. -/
def tmcStateToString : TmcState → Bytes
  | .idle => ascii "IDLE"
  | .transferring => ascii "TRANSFERRING"
  | .done => ascii "DONE"
  | .fault => ascii "FAULT"

section Transfer

variable {δ : Type}

/-- The message of `send_register_req`. -/
def tmcRegisterReq : Message δ :=
  { role := .req, type := .register, dev := some tmcDevId, seq := some 1 }

/-- The message of `send_status_evt`. -/
def tmcStatusEvt (state : TmcState) : Message δ :=
  { role := .evt, type := .status, dev := some tmcDevId
    state := some (strncpy 31 (tmcStateToString state)) }

/-- The message of `send_simple_resp`. -/
def tmcSimpleResp (req : Message δ) (ok : Bool) (code : Int32) (text : Bytes) : Message δ :=
  if ok then
    { role := .resp, type := req.type, dev := req.dev, seq := req.seq, ok := some 1 }
  else
    { role := .resp, type := .error, dev := req.dev, seq := req.seq, ok := some 0
      code := some code, msg := some (strncpy 127 text) }

/-- The message of `send_status_resp`. -/
def tmcStatusResp (req : Message δ) (state : TmcState) : Message δ :=
  { role := .resp, type := .status, dev := req.dev, seq := req.seq, ok := some 1
    state := some (strncpy 31 (tmcStateToString state)) }

variable [CDouble δ]

/-- `send_message`: the line sent, or `none` when formatting or sending fails. -/
def tmcSendMessage (m : Message δ) (sendOk : Bool) : Option Bytes :=
  match lineFormat m 1024 with
  | none => none
  | some line => if sendOk then some line else none

variable (δ) in
/-- `send_status_evt`. -/
def sendStatusEvt (ctx : TmcCtx) (statusMs : ℤ) (sendOk : Bool) : TmcResult :=
  match tmcSendMessage (tmcStatusEvt ctx.state : Message δ) sendOk with
  | none => ⟨ctx, -1, []⟩
  | some line => ⟨{ ctx with lastStatusSentMs := statusMs }, 0, [line]⟩

/-- A response that leaves the context alone, sent by `send_simple_resp` or `send_status_resp`. -/
def sendResp (ctx : TmcCtx) (resp : Message δ) (sendOk : Bool) : TmcResult :=
  match tmcSendMessage resp sendOk with
  | none => ⟨ctx, -1, []⟩
  | some line => ⟨ctx, 0, [line]⟩

/-- The end of every command that is accepted: a positive response and a STATUS event. -/
def reportAccepted (ctx : TmcCtx) (req : Message δ) (statusMs : ℤ) (respOk evtOk : Bool) :
    TmcResult :=
  let responded := sendResp ctx (tmcSimpleResp req true 0 []) respOk
  if responded.ret ≠ 0 then ⟨responded.ctx, -1, responded.sent⟩
  else
    let reported := sendStatusEvt δ responded.ctx statusMs evtOk
    if reported.ret ≠ 0 then ⟨reported.ctx, -1, responded.sent ++ reported.sent⟩
    else ⟨reported.ctx, 1, responded.sent ++ reported.sent⟩

/-- A command that the state does not allow. -/
def refuseTransition (ctx : TmcCtx) (req : Message δ) (respOk : Bool) : TmcResult :=
  sendResp ctx (tmcSimpleResp req false 409 (ascii "INVALID_STATE_TRANSITION")) respOk

/-- `handle_req_message`. The clock is read when a transfer starts and when a STATUS event was
sent. -/
def handleReqMessage (ctx : TmcCtx) (req : Message δ) (startMs statusMs : ℤ)
    (respOk evtOk : Bool) : TmcResult :=
  if req.role ≠ .req then ⟨ctx, 0, []⟩
  else
    match req.type with
    | .status => sendResp ctx (tmcStatusResp req ctx.state) respOk
    | .start =>
        if ctx.state = .idle ∨ ctx.state = .done then
          reportAccepted { ctx with state := .transferring, transferStartedMs := startMs } req
            statusMs respOk evtOk
        else refuseTransition ctx req respOk
    | .stop =>
        if ctx.state = .transferring then
          reportAccepted { ctx with state := .idle, transferStartedMs := 0 } req statusMs respOk
            evtOk
        else refuseTransition ctx req respOk
    | .fault =>
        reportAccepted { ctx with state := .fault, transferStartedMs := 0 } req statusMs respOk evtOk
    | .reset =>
        if ctx.state = .fault then
          reportAccepted { ctx with state := .idle, transferStartedMs := 0 } req statusMs respOk
            evtOk
        else refuseTransition ctx req respOk
    | _ => sendResp ctx (tmcSimpleResp req false 404 (ascii "UNKNOWN_TYPE")) respOk

variable (δ) in
/-- `tick_state_machine`. The clock is read at its start and after each STATUS event. -/
def tickStateMachine (ctx : TmcCtx) (nowMs doneMs repeatMs : ℤ) (doneOk repeatOk : Bool) :
    TmcCtx × List Bytes :=
  let completed : TmcResult :=
    if ctx.state = .transferring ∧ 0 < ctx.transferStartedMs ∧
        2000 ≤ nowMs - ctx.transferStartedMs then
      sendStatusEvt δ { ctx with state := .done, transferStartedMs := 0 } doneMs doneOk
    else ⟨ctx, 0, []⟩
  if 1000 ≤ nowMs - completed.ctx.lastStatusSentMs then
    let repeated := sendStatusEvt δ completed.ctx repeatMs repeatOk
    (repeated.ctx, completed.sent ++ repeated.sent)
  else (completed.ctx, completed.sent)

variable (δ) in
/-- What `main` has sent when it enters its loop. -/
def tmcStart (statusMs : ℤ) : TmcCtx × List Bytes :=
  let reported := sendStatusEvt δ ⟨.idle, 0, 0⟩ statusMs true
  (reported.ctx, (tmcSendMessage (tmcRegisterReq : Message δ) true).toList ++ reported.sent)

variable (δ) in
/-- The body of the loop that pops lines: the acknowledgement of the REGISTER and messages for other
devices are passed over. -/
def tmcServeLine (ctx : TmcCtx) (line : Bytes) (startMs statusMs : ℤ) (respOk evtOk : Bool) :
    TmcResult :=
  match (lineParse line : Option (Message δ)) with
  | none => ⟨ctx, 0, []⟩
  | some m =>
      if m.role = .resp ∧ m.type = .register ∧ m.ok = some 1 then ⟨ctx, 0, []⟩
      else if m.dev ≠ none ∧ m.dev ≠ some tmcDevId then ⟨ctx, 0, []⟩
      else handleReqMessage ctx m startMs statusMs respOk evtOk

/-! ## Requests whose answers are sent -/

/-- A message without telemetry is sent as its complete line. -/
theorem tmcSendMessage_line {m : Message δ} (bare : NoTelemetry m) :
    tmcSendMessage m true = some (lineText m ++ [10]) := by
  have short := lineText_length_le bare.temp bare.pressure bare.flow
  rw [tmcSendMessage, lineFormat_eq, if_neg (by omega)]
  rfl

theorem sendStatusEvt_sent (ctx : TmcCtx) (statusMs : ℤ) :
    sendStatusEvt δ ctx statusMs true =
      ⟨{ ctx with lastStatusSentMs := statusMs }, 0,
        [lineText (tmcStatusEvt ctx.state : Message δ) ++ [10]]⟩ := by
  rw [sendStatusEvt, tmcSendMessage_line ⟨rfl, rfl, rfl⟩]

theorem sendResp_sent (ctx : TmcCtx) (resp : Message δ) (bare : NoTelemetry resp) :
    sendResp ctx resp true = ⟨ctx, 0, [lineText resp ++ [10]]⟩ := by
  rw [sendResp, tmcSendMessage_line bare]

theorem reportAccepted_sent (ctx : TmcCtx) (req : Message δ) (statusMs : ℤ) :
    reportAccepted ctx req statusMs true true =
      ⟨{ ctx with lastStatusSentMs := statusMs }, 1,
        [lineText (tmcSimpleResp req true 0 []) ++ [10],
          lineText (tmcStatusEvt ctx.state : Message δ) ++ [10]]⟩ := by
  rw [reportAccepted, sendResp_sent ctx (tmcSimpleResp req true 0 []) ⟨rfl, rfl, rfl⟩,
    sendStatusEvt_sent]
  rfl

/-- The move an accepted command makes, with the timer it leaves. -/
inductive TmcMove (state : TmcState) (startMs : ℤ) : MsgType → TmcState → ℤ → Prop where
  | start : state = .idle ∨ state = .done → TmcMove state startMs .start .transferring startMs
  | stop : state = .transferring → TmcMove state startMs .stop .idle 0
  | fault : TmcMove state startMs .fault .fault 0
  | reset : state = .fault → TmcMove state startMs .reset .idle 0

/-- A response that goes with no move: a positive one to a STATUS, or an error. -/
inductive Unmoved (req : Message δ) : Message δ → Prop where
  | status (state : TmcState) : req.type = .status → Unmoved req (tmcStatusResp req state)
  | refused (code : Int32) (text : Bytes) : Clean (strncpy 127 text).bytes →
      Unmoved req (tmcSimpleResp req false code text)

/-- What a request does when its answers are sent: it leaves the context alone and is answered, or
is accepted and makes its move. -/
inductive TmcReqStep (ctx : TmcCtx) (req : Message δ) (startMs statusMs : ℤ) :
    TmcResult → Prop where
  | unmoved (resp : Message δ) : Unmoved req resp →
      TmcReqStep ctx req startMs statusMs ⟨ctx, 0, [lineText resp ++ [10]]⟩
  | accepted (state : TmcState) (timer : ℤ) : TmcMove ctx.state startMs req.type state timer →
      TmcReqStep ctx req startMs statusMs ⟨⟨state, timer, statusMs⟩, 1,
        [lineText (tmcSimpleResp req true 0 []) ++ [10],
          lineText (tmcStatusEvt state : Message δ) ++ [10]]⟩

/-- **Everything a request can do** once its answers are sent. -/
theorem handleReqMessage_step (ctx : TmcCtx) (req : Message δ) (isReq : req.role = .req)
    (startMs statusMs : ℤ) :
    TmcReqStep ctx req startMs statusMs (handleReqMessage ctx req startMs statusMs true true) := by
  have refuses : ∀ code text, Clean (strncpy 127 text).bytes → TmcReqStep ctx req startMs statusMs
      (sendResp ctx (tmcSimpleResp req false code text) true) := by
    intro code text clean
    rw [sendResp_sent ctx (tmcSimpleResp req false code text) ⟨rfl, rfl, rfl⟩]
    exact .unmoved _ (.refused code text clean)
  have transition := refuses 409 (ascii "INVALID_STATE_TRANSITION") (by decide)
  rw [handleReqMessage, if_neg (not_not.mpr isReq)]
  split
  · rename_i isStatus
    rw [sendResp_sent ctx (tmcStatusResp req ctx.state) ⟨rfl, rfl, rfl⟩]
    exact .unmoved _ (.status ctx.state isStatus)
  · rename_i isStart
    split
    · rename_i ready
      rw [reportAccepted_sent]
      exact .accepted .transferring startMs (isStart ▸ .start ready)
    · exact transition
  · rename_i isStop
    split
    · rename_i moving
      rw [reportAccepted_sent]
      exact .accepted .idle 0 (isStop ▸ .stop moving)
    · exact transition
  · rename_i isFault
    rw [reportAccepted_sent]
    exact .accepted .fault 0 (isFault ▸ .fault)
  · rename_i isReset
    split
    · rename_i fault
      rw [reportAccepted_sent]
      exact .accepted .idle 0 (isReset ▸ .reset fault)
    · exact transition
  · exact refuses 404 (ascii "UNKNOWN_TYPE") (by decide)

/-- A line is passed over, or its message is handled as a request. -/
theorem tmcServeLine_cases (ctx : TmcCtx) (line : Bytes) (startMs statusMs : ℤ)
    (respOk evtOk : Bool) :
    tmcServeLine δ ctx line startMs statusMs respOk evtOk = ⟨ctx, 0, []⟩ ∨
      ∃ m : Message δ, lineParse line = some m ∧ (m.dev = none ∨ m.dev = some tmcDevId) ∧
        tmcServeLine δ ctx line startMs statusMs respOk evtOk =
          handleReqMessage ctx m startMs statusMs respOk evtOk := by
  rw [tmcServeLine]
  cases parsed : (lineParse line : Option (Message δ)) with
  | none => exact .inl rfl
  | some m =>
      simp only
      split
      · exact .inl rfl
      split
      · exact .inl rfl
      · rename_i here
        refine .inr ⟨m, rfl, ?_, rfl⟩
        rwa [not_and_or, not_not, not_not] at here

end Transfer

end EquipmentControl
