import EquipmentControl.Equipmentd.LineSteps

/-!
# Which controller may acknowledge a request

A request is forwarded to the controller of its device (`resolve_target_fd`), and a response is
looked at only if it comes from a controller (`is_controller_fd`), by its sequence number and
device. That it comes from the controller the request went to is not checked.

A line does something for a pending request exactly when it frees its slot: a response that frees
no slot writes nothing and leaves the context alone (`response_idle`). So a request is
acknowledged by its own controller only, unless a response with its sequence number and device
arrives from the other one (`acknowledged_by_own_controller_iff`).
-/

set_option autoImplicit false

namespace EquipmentControl

section ResponseOrigin

variable {δ : Type} [CDouble δ]

/-- A line acknowledges the request in slot `i`: the request is pending, and the call frees its
slot. -/
structure Acknowledges (fd : ℤ) (ctx : AppCtx δ) (line : Bytes) (nowMs : ℤ) (writeOk : Bool)
    (i : Fin requestTrackerMax) : Prop where
  pending : (ctx.tracker i).valid = true
  freed : ((handleOneLine fd ctx line nowMs writeOk).ctx.tracker i).valid = false

/-- A response with the sequence number and the device of the request in slot `i`, on the connection
of a controller that is not the one of the device. Its client, if it has one, can be told. -/
structure ForeignResponse (fd : ℤ) (ctx : AppCtx δ) (line : Bytes) (writeOk : Bool)
    (m : Message δ) (seq dev : UInt32) (i : Fin requestTrackerMax) : Prop where
  parsed : lineParse line = some m
  role : m.role = .resp
  hasSeq : m.seq = some seq
  hasDev : m.dev = some dev
  found : requestTrackerFind ctx.tracker seq dev = some i
  controller : isControllerFd ctx fd = true
  foreign : fd ≠ resolveTargetFd ctx dev
  told : 0 ≤ (ctx.tracker i).clientFd → sendFails m writeOk = false

/-- A response from a controller that is found frees its slot when its client can be told. -/
theorem acknowledges_of_found {fd : ℤ} {ctx : AppCtx δ} {line : Bytes} {m : Message δ}
    {seq dev : UInt32} {i : Fin requestTrackerMax} {writeOk : Bool}
    (parsed : lineParse line = some m) (role : m.role = .resp) (hasSeq : m.seq = some seq)
    (hasDev : m.dev = some dev) (found : requestTrackerFind ctx.tracker seq dev = some i)
    (controller : isControllerFd ctx fd = true)
    (told : 0 ≤ (ctx.tracker i).clientFd → sendFails m writeOk = false) (nowMs : ℤ) :
    Acknowledges fd ctx line nowMs writeOk i := by
  have matched : matchPending fd ctx m = some i := by
    simp only [matchPending, controller, role, decide_true, Bool.and_self, if_true, hasSeq, hasDev,
      found]
  refine ⟨(requestTrackerFind_some found).1, ?_⟩
  rw [handleOneLine_matched parsed matched]
  rcases handleResponse_cases ctx m i writeOk with gaveUp | finished
  · have failed : (handleResponse ctx m i writeOk).ret < 0 := by
      rw [gaveUp]
      exact show (-1 : ℤ) < 0 by decide
    obtain ⟨client, fails⟩ := (handleResponse_ret ctx m i writeOk).mp failed
    rw [told client] at fails
    cases fails
  · rw [finished, finishResponse_tracker]
    exact requestTrackerRemove_self _ _

/-- **A response that acknowledges nothing does nothing**: it writes nothing and leaves the context
alone. -/
theorem response_idle {fd : ℤ} {ctx : AppCtx δ} {line : Bytes} {m : Message δ}
    (parsed : lineParse line = some m) (role : m.role = .resp) (nowMs : ℤ) (writeOk : Bool)
    (nothing : ∀ i, ¬ Acknowledges fd ctx line nowMs writeOk i) :
    (handleOneLine fd ctx line nowMs writeOk).ctx = ctx ∧
      (handleOneLine fd ctx line nowMs writeOk).wrote = none := by
  cases matched : matchPending fd ctx m with
  | some i =>
      obtain ⟨controller, _, seq, dev, hasSeq, hasDev, found⟩ := matchPending_some matched
      have handled := handleOneLine_matched parsed matched nowMs writeOk
      rcases handleResponse_cases ctx m i writeOk with gaveUp | finished
      · rw [handled, gaveUp]
        exact ⟨rfl, rfl⟩
      · refine absurd ⟨(requestTrackerFind_some found).1, ?_⟩ (nothing i)
        rw [handled, finished, finishResponse_tracker]
        exact requestTrackerRemove_self _ _
  | none =>
      have noRegister := isRegister_of_resp role
      simp only [handleOneLine, parsed, noRegister, Bool.false_eq_true, if_false, matched,
        routerHandle, role, and_self]

/-- **A request is acknowledged by the controller of its device only, exactly when no response for
it comes from the other controller.** -/
theorem acknowledged_by_own_controller_iff (fd : ℤ) (ctx : AppCtx δ) (line : Bytes) (nowMs : ℤ)
    (writeOk : Bool) :
    (∀ i, Acknowledges fd ctx line nowMs writeOk i →
      fd = resolveTargetFd ctx (ctx.tracker i).dev) ↔
      ¬ ∃ (m : Message δ) (seq dev : UInt32) (i : Fin requestTrackerMax),
        ForeignResponse fd ctx line writeOk m seq dev i := by
  constructor
  · rintro own ⟨m, seq, dev, i, response⟩
    have acked := acknowledges_of_found response.parsed response.role response.hasSeq
      response.hasDev response.found response.controller response.told nowMs
    have same := own i acked
    rw [(requestTrackerFind_some response.found).2.2] at same
    exact response.foreign same
  · intro noForeign i acked
    obtain ⟨m, parsed, matched, relayed⟩ := handleOneLine_freed acked.pending acked.freed
    obtain ⟨controller, role, seq, dev, hasSeq, hasDev, found⟩ := matchPending_some matched
    rw [(requestTrackerFind_some found).2.2]
    by_contra foreign
    refine noForeign ⟨m, seq, dev, i, parsed, role, hasSeq, hasDev, found, controller, foreign, ?_⟩
    intro client
    have kept : ¬ (handleResponse ctx m i writeOk).ret < 0 := by
      intro failed
      have wrote := relayed client
      rw [handleOneLine_matched parsed matched] at wrote
      rcases handleResponse_cases ctx m i writeOk with gaveUp | finished
      · rw [gaveUp] at wrote
        cases wrote
      · rw [finished] at failed
        cases failed
    rw [handleResponse_ret] at kept
    exact Bool.eq_false_iff.mpr fun fails => kept ⟨client, fails⟩

end ResponseOrigin

/-- A STOP of module 1 is pending with the process controller on descriptor 5; the transfer
controller is on descriptor 6. -/
def stopPendingBoth : AppCtx ℚ := { stopPending with tmcFd := 6 }

/-- The transfer controller acknowledges it: the client is told, and the job is stopped. -/
theorem foreign_stop_acknowledged :
    ¬ ∀ (fd : ℤ) (ctx : AppCtx ℚ) (line : Bytes) (nowMs : ℤ) (writeOk : Bool),
      ctx.pmcFd ≠ ctx.tmcFd → ∀ i, Acknowledges fd ctx line nowMs writeOk i →
        fd = resolveTargetFd ctx (ctx.tracker i).dev := by
  intro own
  have acked : Acknowledges 6 stopPendingBoth (ascii "RESP STOP dev=1 seq=21 ok=1\n") 9 true 0 :=
    ⟨by decide, by decide⟩
  exact absurd (own 6 stopPendingBoth _ 9 true (by decide) 0 acked) (by decide)

end EquipmentControl
