import EquipmentControl.Equipmentd.RequestTracker
import EquipmentControl.Equipmentd.Router
import EquipmentControl.Equipmentd.Scheduler
import EquipmentControl.Protocol.LineCodec

/-!
# Handling a line and running the scheduler

`handleOneLine` and `runScheduler` (`services/equipmentd/src/main.c`). Each makes at most one
`write`; whether it succeeds is an input, and so are the clock readings. A write that succeeds
writes the whole line. Log output is left out.
-/

set_option autoImplicit false

namespace EquipmentControl

/-- `app_ctx_t`. -/
structure AppCtx (δ : Type) where
  moduleRegistry : ModuleRegistry δ
  pmcFd : ℤ
  tmcFd : ℤ
  tracker : RequestTracker
  nextSeq : UInt32
  jobState : JobState

/-- The size of the buffer `wbuf` that `main` passes down. -/
def wbufSize : ℕ := 512

/-- What a call leaves: the context, its result, and the descriptor and line it wrote. -/
structure LineResult (δ : Type) where
  ctx : AppCtx δ
  ret : ℤ
  wrote : Option (ℤ × Bytes)

section Control

variable {δ : Type}

def trackerHasPending (t : RequestTracker) : Bool :=
  (List.finRange requestTrackerMax).any fun i => (t i).valid

def resolveTargetFd (ctx : AppCtx δ) (dev : UInt32) : ℤ :=
  if dev = 100 then ctx.tmcFd
  else if dev = 1 ∨ dev = 2 then ctx.pmcFd
  else -1

def isControllerFd (ctx : AppCtx δ) (fd : ℤ) : Bool :=
  decide (fd = ctx.pmcFd) || decide (fd = ctx.tmcFd)

def makeParseError : Message δ where
  role := .resp
  type := .error
  ok := some 0
  code := some 400
  msg := some (strncpy 127 (ascii "PARSE_ERROR"))

/-- A REQ REGISTER without a device, or of the transfer module. -/
def isRegister (m : Message δ) : Bool :=
  decide (m.role = .req) && decide (m.type = .register) &&
    (decide (m.dev = none) || decide (m.dev = some 100))

/-- The answer to such a REGISTER. -/
def registerReply (m : Message δ) : Message δ :=
  { role := .resp, type := .register, dev := m.dev, seq := m.seq, ok := some 1 }

/-- The job state after a positively acknowledged request of a type. -/
def ackedJob (type : MsgType) (job : JobState) : JobState :=
  match type with
  | .stop => .stopped
  | .reset => .idle
  | .fault => .error
  | _ => job

/-- The module of an acknowledged RESET loses its fault latch. -/
def clearFaultLatched (reg : ModuleRegistry δ) (dev : UInt32) : ModuleRegistry δ :=
  match moduleOfDev dev with
  | none => reg
  | some id => reg.modify id fun target => { target with faultLatched := false }

/-- The `switch` on the type of the acknowledged request. -/
def acknowledge (ctx : AppCtx δ) (req : PendingRequest) : AppCtx δ :=
  { ctx with
    jobState := ackedJob req.type ctx.jobState
    moduleRegistry :=
      if req.type = .reset then clearFaultLatched ctx.moduleRegistry req.dev
      else ctx.moduleRegistry }

/-- The slot a RESP from a controller matches. -/
def matchPending (fd : ℤ) (ctx : AppCtx δ) (m : Message δ) : Option (Fin requestTrackerMax) :=
  if isControllerFd ctx fd && decide (m.role = .resp) then
    match m.seq, m.dev with
    | some seq, some dev => requestTrackerFind ctx.tracker seq dev
    | _, _ => none
  else none

/-- After the relay: the acknowledged job state, and the slot is freed. -/
def finishResponse (ctx : AppCtx δ) (m : Message δ) (i : Fin requestTrackerMax) : AppCtx δ :=
  let acked := if m.type ≠ .error ∧ m.ok = some 1 then acknowledge ctx (ctx.tracker i) else ctx
  { acked with tracker := requestTrackerRemove acked.tracker i }

@[simp] theorem acknowledge_pmcFd (ctx : AppCtx δ) (req : PendingRequest) :
    (acknowledge ctx req).pmcFd = ctx.pmcFd := rfl

@[simp] theorem acknowledge_tmcFd (ctx : AppCtx δ) (req : PendingRequest) :
    (acknowledge ctx req).tmcFd = ctx.tmcFd := rfl

@[simp] theorem acknowledge_tracker (ctx : AppCtx δ) (req : PendingRequest) :
    (acknowledge ctx req).tracker = ctx.tracker := rfl

theorem finishResponse_tracker (ctx : AppCtx δ) (m : Message δ) (i : Fin requestTrackerMax) :
    (finishResponse ctx m i).tracker = requestTrackerRemove ctx.tracker i := by
  simp only [finishResponse]
  split <;> simp

theorem finishResponse_fds (ctx : AppCtx δ) (m : Message δ) (i : Fin requestTrackerMax) :
    (finishResponse ctx m i).pmcFd = ctx.pmcFd ∧ (finishResponse ctx m i).tmcFd = ctx.tmcFd := by
  simp only [finishResponse]
  split <;> simp

/-- The end of a response clears the fault latch of a module only for a RESET of it that is
positively acknowledged. -/
theorem finishResponse_latch {ctx : AppCtx δ} {id : ModuleId}
    (latched : (ctx.moduleRegistry.get id).faultLatched = true) (m : Message δ)
    (i : Fin requestTrackerMax) :
    ((finishResponse ctx m i).moduleRegistry.get id).faultLatched = true ∨
      ((ctx.tracker i).type = .reset ∧ (ctx.tracker i).dev = id.devId ∧
        m.type ≠ .error ∧ m.ok = some 1) := by
  rw [finishResponse]
  split
  · rename_i positive
    simp only [acknowledge]
    split
    · rename_i isReset
      rw [clearFaultLatched]
      split
      · exact .inl latched
      · rename_i target known
        by_cases here : id = target
        · subst here
          exact .inr ⟨isReset, moduleOfDev_eq_some.mp known, positive⟩
        · rw [ModuleRegistry.get_modify_of_ne _ _ here]
          exact .inl latched
    · exact .inl latched
  · exact .inl latched

variable [CDouble δ]

/-- `line_format` followed by `write`: the line written, or `none` when either fails. -/
def sendLine (m : Message δ) (cap : ℕ) (writeOk : Bool) : Option Bytes :=
  match lineFormat m cap with
  | none => none
  | some line => if writeOk then some line else none

/-- Write `out` to the connection the line came from. -/
def replyTo (fd : ℤ) (ctx : AppCtx δ) (out : Message δ) (writeOk : Bool) : LineResult δ :=
  match sendLine out wbufSize writeOk with
  | none => ⟨ctx, -1, none⟩
  | some line => ⟨ctx, 1, some (fd, line)⟩

/-- A controller registers: its descriptor is kept before the answer is written. -/
def handleRegister (fd : ℤ) (ctx : AppCtx δ) (m : Message δ) (writeOk : Bool) : LineResult δ :=
  replyTo fd (if m.dev = some 100 then { ctx with tmcFd := fd } else { ctx with pmcFd := fd })
    (registerReply m) writeOk

/-- A RESP that matches slot `i` is relayed to the client of the slot, if it has one. -/
def handleResponse (ctx : AppCtx δ) (m : Message δ) (i : Fin requestTrackerMax)
    (writeOk : Bool) : LineResult δ :=
  if 0 ≤ (ctx.tracker i).clientFd then
    match sendLine m wbufSize writeOk with
    | none => ⟨ctx, -1, none⟩
    | some line => ⟨finishResponse ctx m i, 1, some ((ctx.tracker i).clientFd, line)⟩
  else ⟨finishResponse ctx m i, 1, none⟩

/-- The slot of a request forwarded for a client. -/
def clientRequest (fd : ℤ) (seq dev : UInt32) (type : MsgType) (nowMs : ℤ) : PendingRequest where
  valid := true
  clientFd := fd
  seq := seq
  dev := dev
  type := type
  fromScheduler := false
  createdMs := nowMs

/-- Forward a request to the controller of its device, remembering it when it has a sequence
number. -/
def forwardRequest (fd : ℤ) (ctx : AppCtx δ) (m : Message δ) (nowMs : ℤ) (writeOk : Bool) :
    LineResult δ :=
  match m.dev with
  | none => ⟨ctx, -1, none⟩
  | some dev =>
      let target := resolveTargetFd ctx dev
      if target < 0 then ⟨ctx, -1, none⟩
      else
        match m.seq with
        | none =>
            match sendLine m wbufSize writeOk with
            | none => ⟨ctx, -1, none⟩
            | some line => ⟨ctx, 0, some (target, line)⟩
        | some seq =>
            match requestTrackerAlloc ctx.tracker with
            | none => ⟨ctx, -1, none⟩
            | some (i, allocated) =>
                let saved := Function.update allocated i (clientRequest fd seq dev m.type nowMs)
                match sendLine m wbufSize writeOk with
                | none => ⟨{ ctx with tracker := requestTrackerRemove saved i }, -1, none⟩
                | some line => ⟨{ ctx with tracker := saved }, 0, some (target, line)⟩

/-- `handle_one_line` on a line received on descriptor `fd`. -/
def handleOneLine (fd : ℤ) (ctx : AppCtx δ) (line : Bytes) (nowMs : ℤ) (writeOk : Bool) :
    LineResult δ :=
  match (lineParse line : Option (Message δ)) with
  | none => replyTo fd ctx makeParseError writeOk
  | some m =>
      if isRegister m then handleRegister fd ctx m writeOk
      else
        match matchPending fd ctx m with
        | some i => handleResponse ctx m i writeOk
        | none =>
            let routed := routerHandle ctx.moduleRegistry ctx.pmcFd ctx.tmcFd nowMs m
            let ctx := { ctx with moduleRegistry := routed.1 }
            match routed.2 with
            | .forward => forwardRequest fd ctx m nowMs writeOk
            | .noResponse => ⟨ctx, 0, none⟩
            | .respond out => replyTo fd ctx out writeOk

/-! ## What a response does -/

@[simp] theorem replyTo_ctx (fd : ℤ) (ctx : AppCtx δ) (out : Message δ) (writeOk : Bool) :
    (replyTo fd ctx out writeOk).ctx = ctx := by
  rw [replyTo]
  split <;> rfl

/-- A REGISTER attaches a link and leaves the rest of the context alone. -/
theorem handleRegister_ctx (fd : ℤ) (ctx : AppCtx δ) (m : Message δ) (writeOk : Bool) :
    ∃ pmcFd tmcFd, (handleRegister fd ctx m writeOk).ctx =
      { ctx with pmcFd := pmcFd, tmcFd := tmcFd } := by
  rw [handleRegister, replyTo_ctx]
  split
  · exact ⟨ctx.pmcFd, fd, rfl⟩
  · exact ⟨fd, ctx.tmcFd, rfl⟩

/-- A response is given up and leaves the context alone, or finishes with the slot it matched. -/
theorem handleResponse_ctx (ctx : AppCtx δ) (m : Message δ) (i : Fin requestTrackerMax)
    (writeOk : Bool) :
    ((handleResponse ctx m i writeOk).ret < 0 ∧ (handleResponse ctx m i writeOk).ctx = ctx) ∨
      (handleResponse ctx m i writeOk).ctx = finishResponse ctx m i := by
  rw [handleResponse]
  split
  · split
    · exact .inl ⟨show (-1 : ℤ) < 0 by decide, rfl⟩
    · exact .inr rfl
  · exact .inr rfl

/-- What a response writes goes to the client of its slot. -/
theorem handleResponse_wrote {ctx : AppCtx δ} {m : Message δ} {i : Fin requestTrackerMax}
    {writeOk : Bool} {fd : ℤ} {text : Bytes}
    (wrote : (handleResponse ctx m i writeOk).wrote = some (fd, text)) :
    0 ≤ (ctx.tracker i).clientFd ∧ fd = (ctx.tracker i).clientFd := by
  rw [handleResponse] at wrote
  split at wrote
  · rename_i client
    split at wrote
    · cases wrote
    · cases wrote
      exact ⟨client, rfl⟩
  · cases wrote

/-! ## The scheduler's turn -/

def moduleStaleMs : ℤ := 3000

/-- `refresh_module_health`. -/
def refreshModuleHealth (reg : ModuleRegistry δ) (nowMs : ℤ) : ModuleRegistry δ where
  tmc := { reg.tmc with healthy := !moduleRegistryIsStale reg.tmc nowMs moduleStaleMs }
  pmcPreclean :=
    { reg.pmcPreclean with
      healthy := !moduleRegistryIsStale reg.pmcPreclean nowMs moduleStaleMs }
  pmcDeposition :=
    { reg.pmcDeposition with
      healthy := !moduleRegistryIsStale reg.pmcDeposition nowMs moduleStaleMs }

/-- The START the scheduler sends. -/
def schedulerRequest (action : SchedulerAction) : Message δ :=
  { role := .req, type := .start, dev := some action.dev.toUInt32, seq := some action.seq }

/-- The slot of a START of the scheduler. -/
def schedulerSlot (action : SchedulerAction) (nowMs : ℤ) : PendingRequest where
  valid := true
  clientFd := -1
  seq := action.seq
  dev := action.dev.toUInt32
  type := .start
  fromScheduler := true
  createdMs := nowMs

/-- `run_scheduler`: the context it leaves, and the descriptor and START it wrote. The clock is
read once for the health of the modules and once for the slot. -/
def runScheduler (ctx : AppCtx δ) (healthMs createdMs : ℤ) (writeOk : Bool) :
    AppCtx δ × Option (ℤ × Bytes) :=
  let ctx := { ctx with moduleRegistry := refreshModuleHealth ctx.moduleRegistry healthMs }
  if ctx.pmcFd < 0 then (ctx, none)
  else
    let tick := schedulerTick ctx.moduleRegistry (trackerHasPending ctx.tracker) ctx.nextSeq
      ctx.jobState
    let ctx := { ctx with nextSeq := tick.nextSeq, jobState := tick.job }
    if !tick.action.shouldSend then (ctx, none)
    else
      match requestTrackerAlloc ctx.tracker with
      | none => (ctx, none)
      | some (i, allocated) =>
          let saved := Function.update allocated i (schedulerSlot tick.action createdMs)
          match sendLine (schedulerRequest tick.action : Message δ) 256 writeOk with
          | none => ({ ctx with tracker := requestTrackerRemove saved i }, none)
          | some line => ({ ctx with tracker := saved }, some (ctx.pmcFd, line))

/-- The action of the scheduler's turn. -/
def schedulerAction (ctx : AppCtx δ) (healthMs : ℤ) : SchedulerAction :=
  (schedulerTick (refreshModuleHealth ctx.moduleRegistry healthMs) (trackerHasPending ctx.tracker)
    ctx.nextSeq ctx.jobState).action

end Control

end EquipmentControl
