import EquipmentControl.Equipmentd.Control

/-!
# Serving one line

The body of the inner loop of `handle_client_event` (`services/equipmentd/src/main.c`): a line
that `handleOneLine` gives up on closes the connection it came from, and a controller link on
that connection is dropped.

`handleOneLine_gives_up` says when that happens. A controller's response that cannot be written
to the client is such a case: the failure of the client is answered by closing the controller,
unless nothing was written at all (`relay_failure_hidden_iff`).
-/

set_option autoImplicit false

namespace EquipmentControl

section Serving

variable {δ : Type}

/-- The controller links on a descriptor that is closed are reset. -/
def dropLinks (ctx : AppCtx δ) (fd : ℤ) : AppCtx δ :=
  { ctx with
    pmcFd := if fd = ctx.pmcFd then -1 else ctx.pmcFd
    tmcFd := if fd = ctx.tmcFd then -1 else ctx.tmcFd }

/-- What serving a line leaves: the context, whether the connection is still open, and the
descriptor and line that were written. -/
structure Served (δ : Type) where
  ctx : AppCtx δ
  isOpen : Bool
  wrote : Option (ℤ × Bytes)

/-- A response matches a slot only on a controller's connection, by its sequence number and
device. -/
theorem matchPending_some {fd : ℤ} {ctx : AppCtx δ} {m : Message δ} {i : Fin requestTrackerMax}
    (matched : matchPending fd ctx m = some i) :
    isControllerFd ctx fd = true ∧ m.role = .resp ∧ ∃ seq dev, m.seq = some seq ∧
      m.dev = some dev ∧ requestTrackerFind ctx.tracker seq dev = some i := by
  rw [matchPending] at matched
  split at matched
  · rename_i controller
    simp only [Bool.and_eq_true, decide_eq_true_eq] at controller
    cases hasSeq : m.seq <;> cases hasDev : m.dev <;> simp only [hasSeq, hasDev] at matched
    case some.some seq dev => exact ⟨controller.1, controller.2, seq, dev, rfl, rfl, matched⟩
    all_goals cases matched
  · cases matched

theorem isRegister_of_resp {m : Message δ} (role : m.role = .resp) : isRegister m = false := by
  simp [isRegister, role]

/-- The controller the router resolves is the target the caller resolves. -/
theorem resolveTargetFd_of_controller {ctx : AppCtx δ} {m : Message δ} {dev : UInt32} {fd : ℤ}
    (hasDev : m.dev = some dev) (resolved : resolveControllerFd m ctx.pmcFd ctx.tmcFd = .ok fd) :
    resolveTargetFd ctx dev = fd ∧ 0 ≤ fd := by
  obtain ⟨there, ⟨isPmc, rfl⟩ | ⟨isTmc, rfl⟩⟩ := (resolveControllerFd_ok_iff hasDev _ _ _).mp resolved
  · have notTmc : dev ≠ 100 := by
      rintro rfl
      exact absurd isPmc (by decide)
    exact ⟨by rw [resolveTargetFd, if_neg notTmc, if_pos isPmc], there⟩
  · exact ⟨by rw [resolveTargetFd, if_pos isTmc], there⟩

variable [CDouble δ]

/-- `handle_one_line`, and what the loop of `handle_client_event` makes of its result. -/
def serveLine (fd : ℤ) (ctx : AppCtx δ) (line : Bytes) (nowMs : ℤ) (writeOk : Bool) : Served δ :=
  let result := handleOneLine fd ctx line nowMs writeOk
  if result.ret < 0 then ⟨dropLinks result.ctx fd, false, result.wrote⟩
  else ⟨result.ctx, true, result.wrote⟩

/-! ## When a line is given up -/

/-- A message does not fit into `wbuf`, or its write fails. -/
def sendFails (m : Message δ) (writeOk : Bool) : Bool :=
  decide (510 < (lineText m).length) || !writeOk

theorem sendLine_wbuf (m : Message δ) (writeOk : Bool) :
    sendLine m wbufSize writeOk =
      if sendFails m writeOk then none else some (lineText m ++ [10]) := by
  rw [sendLine, lineFormat_eq, sendFails, wbufSize]
  by_cases long : 510 < (lineText m).length
  · rw [if_pos (show 512 < 8 ∨ 512 < (lineText m).length + 2 by omega), decide_eq_true long]
    rfl
  · simp only [if_neg (show ¬(512 < 8 ∨ 512 < (lineText m).length + 2) by omega), long]
    cases writeOk <;> rfl

/-- `handle_one_line` gives up on the connection of a line. -/
def givesUp (fd : ℤ) (ctx : AppCtx δ) (line : Bytes) (writeOk : Bool) : Bool :=
  match (lineParse line : Option (Message δ)) with
  | none => sendFails (makeParseError : Message δ) writeOk
  | some m =>
      if isRegister m then sendFails (registerReply m) writeOk
      else
        match matchPending fd ctx m with
        | some i => decide (0 ≤ (ctx.tracker i).clientFd) && sendFails m writeOk
        | none =>
            match (routerHandle ctx.moduleRegistry ctx.pmcFd ctx.tmcFd 0 m).2 with
            | .forward => (requestTrackerAlloc ctx.tracker).isNone || sendFails m writeOk
            | .noResponse => false
            | .respond out => sendFails out writeOk

/-- The clock does not decide how a message is routed. -/
theorem routerHandle_result (reg : ModuleRegistry δ) (pmcFd tmcFd nowMs other : ℤ)
    (m : Message δ) :
    (routerHandle reg pmcFd tmcFd nowMs m).2 = (routerHandle reg pmcFd tmcFd other m).2 := by
  rw [routerHandle, routerHandle]
  cases m.role <;> rfl

theorem replyTo_ret (fd : ℤ) (ctx : AppCtx δ) (out : Message δ) (writeOk : Bool) :
    (replyTo fd ctx out writeOk).ret < 0 ↔ sendFails out writeOk = true := by
  rw [replyTo, sendLine_wbuf]
  cases sendFails out writeOk <;> simp

theorem handleResponse_ret (ctx : AppCtx δ) (m : Message δ) (i : Fin requestTrackerMax)
    (writeOk : Bool) :
    (handleResponse ctx m i writeOk).ret < 0 ↔
      0 ≤ (ctx.tracker i).clientFd ∧ sendFails m writeOk = true := by
  rw [handleResponse, sendLine_wbuf]
  by_cases client : 0 ≤ (ctx.tracker i).clientFd
  · rw [if_pos client]
    cases sendFails m writeOk <;> simp [client]
  · rw [if_neg client]
    simp [client]

/-- What the router forwards has a sequence number, and a device whose controller is there. -/
theorem routerHandle_forward {reg : ModuleRegistry δ} {pmcFd tmcFd nowMs : ℤ} {m : Message δ}
    (forward : (routerHandle reg pmcFd tmcFd nowMs m).2 = .forward) :
    m.role = .req ∧ isForwarded m.type = true ∧ (∃ seq, m.seq = some seq) ∧
      ∃ dev fd, m.dev = some dev ∧ resolveControllerFd m pmcFd tmcFd = .ok fd := by
  rw [routerHandle] at forward
  cases role : m.role <;> rw [role] at forward
  case req =>
    simp only [handleReq] at forward
    split at forward
    · cases forward
    rename_i hasSeq
    split at forward
    · cases forward
    split at forward
    · rename_i forwarded
      split at forward
      · cases forward
      rename_i hasDev
      obtain ⟨seq, seqEq⟩ := Option.ne_none_iff_exists'.mp hasSeq
      obtain ⟨dev, devEq⟩ := Option.ne_none_iff_exists'.mp hasDev
      split at forward
      · rename_i fd resolved
        exact ⟨rfl, forwarded, ⟨seq, seqEq⟩, dev, fd, devEq, resolved⟩
      · split at forward
        · cases forward
        split at forward <;> cases forward
    · cases forward
  all_goals cases forward

/-- **What forwarding does** once the controller is known: nothing without a free slot, and a slot
taken for the request or freed again, as its write succeeds or fails. -/
theorem forwardRequest_eq (fd : ℤ) {ctx : AppCtx δ} {m : Message δ} (nowMs : ℤ) (writeOk : Bool)
    {seq dev : UInt32} {target : ℤ} (hasSeq : m.seq = some seq) (hasDev : m.dev = some dev)
    (resolved : resolveTargetFd ctx dev = target) (there : 0 ≤ target) :
    forwardRequest fd ctx m nowMs writeOk =
      match requestTrackerAlloc ctx.tracker with
      | none => ⟨ctx, -1, none⟩
      | some (i, _) =>
          if sendFails m writeOk then
            ⟨{ ctx with tracker := requestTrackerRemove ctx.tracker i }, -1, none⟩
          else
            ⟨{ ctx with tracker :=
                Function.update ctx.tracker i (clientRequest fd seq dev m.type nowMs) },
              0, some (target, lineText m ++ [10])⟩ := by
  simp only [forwardRequest, hasDev, hasSeq, resolved, if_neg (not_lt.mpr there), sendLine_wbuf]
  cases alloc : requestTrackerAlloc ctx.tracker with
  | none => rfl
  | some slot =>
      obtain ⟨_, same⟩ := requestTrackerAlloc_some (i := slot.1) alloc
      simp only [same, Function.update_idem, requestTrackerRemove]
      cases sendFails m writeOk <;> rfl

/-- A request the router forwards is given up when no slot is free or it cannot be written. -/
theorem forwardRequest_ret (fd : ℤ) {ctx : AppCtx δ} {m : Message δ} (nowMs : ℤ) (writeOk : Bool)
    {seq dev : UInt32} {target : ℤ} (hasSeq : m.seq = some seq) (hasDev : m.dev = some dev)
    (resolved : resolveTargetFd ctx dev = target) (there : 0 ≤ target) :
    (forwardRequest fd ctx m nowMs writeOk).ret < 0 ↔
      requestTrackerAlloc ctx.tracker = none ∨ sendFails m writeOk = true := by
  rw [forwardRequest_eq fd nowMs writeOk hasSeq hasDev resolved there]
  cases requestTrackerAlloc ctx.tracker with
  | none => simp
  | some slot => cases sendFails m writeOk <;> simp

/-- A request that is forwarded holds its slot. -/
theorem forwardRequest_taken (fd : ℤ) {ctx : AppCtx δ} {m : Message δ} (nowMs : ℤ)
    {seq dev : UInt32} {target : ℤ} {i : Fin requestTrackerMax} {allocated : RequestTracker}
    (hasSeq : m.seq = some seq) (hasDev : m.dev = some dev)
    (resolved : resolveTargetFd ctx dev = target) (there : 0 ≤ target)
    (alloc : requestTrackerAlloc ctx.tracker = some (i, allocated))
    (fits : sendFails m true = false) :
    (forwardRequest fd ctx m nowMs true).ctx.tracker =
      Function.update ctx.tracker i (clientRequest fd seq dev m.type nowMs) := by
  simp only [forwardRequest_eq fd nowMs true hasSeq hasDev resolved there, alloc, fits,
    Bool.false_eq_true, if_false]

/-- **When a line is given up.** -/
theorem handleOneLine_gives_up (fd : ℤ) (ctx : AppCtx δ) (line : Bytes) (nowMs : ℤ)
    (writeOk : Bool) :
    (handleOneLine fd ctx line nowMs writeOk).ret < 0 ↔ givesUp fd ctx line writeOk = true := by
  rw [handleOneLine, givesUp]
  cases (lineParse line : Option (Message δ)) with
  | none => exact replyTo_ret fd ctx _ writeOk
  | some m =>
  simp only
  by_cases registers : isRegister m = true
  · rw [if_pos registers, if_pos registers, handleRegister]
    exact replyTo_ret fd _ _ writeOk
  rw [if_neg registers, if_neg registers]
  cases matchPending fd ctx m with
  | some i =>
      rw [handleResponse_ret, Bool.and_eq_true, decide_eq_true_eq]
  | none =>
      simp only [routerHandle_result _ _ _ nowMs 0]
      cases routed : (routerHandle ctx.moduleRegistry ctx.pmcFd ctx.tmcFd 0 m).2 with
      | noResponse => simp
      | respond out => exact replyTo_ret fd _ out writeOk
      | forward =>
          obtain ⟨_, _, ⟨seq, hasSeq⟩, dev, target, hasDev, resolved⟩ := routerHandle_forward routed
          obtain ⟨same, there⟩ := resolveTargetFd_of_controller hasDev resolved
          simp only [Bool.or_eq_true, Option.isNone_iff_eq_none]
          exact forwardRequest_ret fd nowMs writeOk hasSeq hasDev same there

theorem serveLine_isOpen (fd : ℤ) (ctx : AppCtx δ) (line : Bytes) (nowMs : ℤ) (writeOk : Bool) :
    (serveLine fd ctx line nowMs writeOk).isOpen = !givesUp fd ctx line writeOk := by
  have gives := handleOneLine_gives_up fd ctx line nowMs writeOk
  rw [serveLine]
  split
  · rename_i failed
    rw [gives.mp failed]
    rfl
  · rename_i kept
    rw [Bool.eq_false_iff.mpr fun up => kept (gives.mpr up)]
    rfl

/-- Serving a line leaves the tracker that handling it leaves. -/
theorem serveLine_tracker (fd : ℤ) (ctx : AppCtx δ) (line : Bytes) (nowMs : ℤ) (writeOk : Bool) :
    (serveLine fd ctx line nowMs writeOk).ctx.tracker =
      (handleOneLine fd ctx line nowMs writeOk).ctx.tracker := by
  rw [serveLine]
  split <;> rfl

theorem serveLine_wrote (fd : ℤ) (ctx : AppCtx δ) (line : Bytes) (nowMs : ℤ) (writeOk : Bool) :
    (serveLine fd ctx line nowMs writeOk).wrote =
      (handleOneLine fd ctx line nowMs writeOk).wrote := by
  rw [serveLine]
  split <;> rfl

/-! ## A response whose client cannot be written to -/

/-- Two outcomes agree on the job, the registry, the tracker, the controller links and on
whether the connection is open. -/
structure SameControl (first second : Served δ) : Prop where
  jobState : first.ctx.jobState = second.ctx.jobState
  moduleRegistry : first.ctx.moduleRegistry = second.ctx.moduleRegistry
  tracker : first.ctx.tracker = second.ctx.tracker
  pmcFd : first.ctx.pmcFd = second.ctx.pmcFd
  tmcFd : first.ctx.tmcFd = second.ctx.tmcFd
  isOpen : first.isOpen = second.isOpen

/-- A response that matches slot `i` is handled as its response. -/
theorem handleOneLine_matched {fd : ℤ} {ctx : AppCtx δ} {line : Bytes} {m : Message δ}
    {i : Fin requestTrackerMax} (parsed : lineParse line = some m)
    (matched : matchPending fd ctx m = some i) (nowMs : ℤ) (writeOk : Bool) :
    handleOneLine fd ctx line nowMs writeOk = handleResponse ctx m i writeOk := by
  have noRegister := isRegister_of_resp (matchPending_some matched).2.1
  rw [handleOneLine, parsed]
  simp only [noRegister, Bool.false_eq_true, if_false, matched]

/-- **A failed relay stays hidden exactly when nothing could be written to the client anyway**: the
complete text of the response is longer than the 510 bytes that fit into `wbuf` with a newline and
a NUL. Every shorter response that a client fails to take costs the controller its connection. -/
theorem relay_failure_hidden_iff (fd : ℤ) (ctx : AppCtx δ) (line : Bytes) (nowMs : ℤ)
    (m : Message δ) (i : Fin requestTrackerMax) (parsed : lineParse line = some m)
    (matched : matchPending fd ctx m = some i) (client : 0 ≤ (ctx.tracker i).clientFd) :
    SameControl (serveLine fd ctx line nowMs true) (serveLine fd ctx line nowMs false) ↔
      510 < (lineText m).length := by
  have gives : ∀ writeOk, givesUp fd ctx line writeOk = sendFails m writeOk := by
    intro writeOk
    rw [Bool.eq_iff_iff, ← handleOneLine_gives_up fd ctx line nowMs writeOk,
      handleOneLine_matched parsed matched, handleResponse_ret]
    exact and_iff_right client
  constructor
  · intro same
    have agree := same.isOpen
    rw [serveLine_isOpen, serveLine_isOpen, gives, gives] at agree
    simpa [sendFails] using agree
  · intro long
    have stuck : ∀ writeOk, sendFails m writeOk = true := by
      intro writeOk
      simp [sendFails, long]
    have unmoved : ∀ writeOk,
        serveLine fd ctx line nowMs writeOk = ⟨dropLinks ctx fd, false, none⟩ := by
      intro writeOk
      rw [serveLine, handleOneLine_matched parsed matched, handleResponse, if_pos client,
        sendLine_wbuf, if_pos (stuck writeOk)]
      rfl
    rw [unmoved, unmoved]
    exact ⟨rfl, rfl, rfl, rfl, rfl, rfl⟩

end Serving

/-- A process controller on descriptor 5, and a STOP for module 1 from the client on
descriptor 7. -/
def stopPending : AppCtx ℚ where
  moduleRegistry := moduleRegistryInit
  pmcFd := 5
  tmcFd := -1
  tracker := Function.update requestTrackerInit 0 (clientRequest 7 21 1 .stop 0)
  nextSeq := 1000
  jobState := .precleanRunning

/-- The response to it. -/
def stopAnswer : Message ℚ :=
  { role := .resp, type := .stop, dev := some 1, seq := some 21, ok := some 1 }

/-- For that response the theorem decides: its text is short. -/
theorem relay_failure_hidden_stop :
    SameControl (serveLine 5 stopPending (ascii "RESP STOP dev=1 seq=21 ok=1\n") 9 true)
        (serveLine 5 stopPending (ascii "RESP STOP dev=1 seq=21 ok=1\n") 9 false) ↔
      510 < (lineText stopAnswer).length :=
  relay_failure_hidden_iff 5 stopPending _ 9 stopAnswer 0 (by decide) (by decide) (by decide)

/-- When the client cannot be written to, the job is not stopped and the controller is gone. -/
theorem stop_relay_failure_visible :
    ¬ SameControl (serveLine 5 stopPending (ascii "RESP STOP dev=1 seq=21 ok=1\n") 9 true)
        (serveLine 5 stopPending (ascii "RESP STOP dev=1 seq=21 ok=1\n") 9 false) := by
  intro same
  exact absurd same.jobState (by decide)

end EquipmentControl
