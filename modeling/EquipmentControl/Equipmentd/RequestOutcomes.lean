import EquipmentControl.Equipmentd.LineSteps
import EquipmentControl.Protocol.KeyValues

/-!
# What becomes of a request

A request that `handle_one_line` accepts is answered at once, or passed on to the controller of its
device and remembered (`services/equipmentd/src/main.c`, `router.c`).

A request that is to be passed on is lost, and its sender closed, when the tracker is full or its
encoding is longer than 510 bytes; a controller that asks for its own module gets its request back
(`request_outcome_iff`). The controller is that of the numeral in the last `dev=` only as long as
`strtoul` and the cast to 32 bits leave it a different number from 1, 2 and 100
(`device_not_aliased_iff`).
-/

set_option autoImplicit false

namespace EquipmentControl

open DecimalText TokenText

section Requests

variable {δ : Type}

/-- The controller link of a device. -/
def ControllerOf (ctx : AppCtx δ) (dev : UInt32) (target : ℤ) : Prop :=
  (dev = 1 ∨ dev = 2) ∧ target = ctx.pmcFd ∨ dev = 100 ∧ target = ctx.tmcFd

theorem Forwardable.controllerOf {ctx : AppCtx δ} {m : Message δ} {seq dev : UInt32} {target : ℤ}
    (forwardable : Forwardable ctx m seq dev target) : ControllerOf ctx dev target :=
  ((resolveControllerFd_ok_iff forwardable.hasDev _ _ _).mp forwardable.controller).2

/-- A response that echoes the device and the sequence number of a request, and no more of it. -/
structure Echoes (m out : Message δ) : Prop where
  role : out.role = .resp
  dev : out.dev = m.dev
  seq : out.seq = m.seq
  temp : out.temp = none
  pressure : out.pressure = none
  flow : out.flow = none

theorem respBase_echoes (m : Message δ) : Echoes m (respBase m) := ⟨rfl, rfl, rfl, rfl, rfl, rfl⟩

theorem makeError_echoes (m : Message δ) (code : Int32) (text : Bytes) :
    Echoes m (makeError m code text) := ⟨rfl, rfl, rfl, rfl, rfl, rfl⟩

theorem registerReply_echoes (m : Message δ) : Echoes m (registerReply m) :=
  ⟨rfl, rfl, rfl, rfl, rfl, rfl⟩

/-- What the router makes of a request: a response that echoes it, or a verdict to forward it to
the controller of its device. -/
inductive ReqVerdict (ctx : AppCtx δ) (m : Message δ) : RouterResult δ → Prop where
  | respond (out : Message δ) : Echoes m out →
      (∀ seq dev target, ¬ Forwardable ctx m seq dev target) → ReqVerdict ctx m (.respond out)
  | forward (seq dev : UInt32) (target : ℤ) : Forwardable ctx m seq dev target →
      ReqVerdict ctx m .forward

/-- **Every request is answered or forwarded by the router.** -/
theorem handleReq_verdict (ctx : AppCtx δ) (m : Message δ) (role : m.role = .req) :
    ReqVerdict ctx m (handleReq ctx.pmcFd ctx.tmcFd m) := by
  rw [handleReq]
  split
  · rename_i noSeq
    refine .respond _ (makeError_echoes m _ _) fun seq dev target forwardable => ?_
    cases noSeq.symm.trans forwardable.hasSeq
  rename_i hasSeq
  obtain ⟨seq, hasSeq⟩ := Option.ne_none_iff_exists'.mp hasSeq
  split
  · rename_i isPing
    refine .respond _ (respBase_echoes m) fun _ _ _ forwardable => ?_
    have type := forwardable.type
    rw [isPing] at type
    cases type
  split
  · rename_i type
    split
    · rename_i noDev
      refine .respond _ (makeError_echoes m _ _) fun _ _ _ forwardable => ?_
      cases noDev.symm.trans forwardable.hasDev
    rename_i hasDev
    obtain ⟨dev, hasDev⟩ := Option.ne_none_iff_exists'.mp hasDev
    split
    · rename_i target controller
      exact .forward seq dev target ⟨role, type, hasSeq, hasDev, controller⟩
    · rename_i rc refused
      have unforwardable : ∀ seq dev target, ¬ Forwardable ctx m seq dev target := by
        intro seq dev target forwardable
        cases refused.symm.trans forwardable.controller
      split
      · exact .respond _ (makeError_echoes m _ _) unforwardable
      split <;> exact .respond _ (makeError_echoes m _ _) unforwardable
  · rename_i other
    exact .respond _ (makeError_echoes m _ _) fun _ _ _ forwardable => other forwardable.type

variable [CDouble δ]

/-- A response that echoes a request fits into `wbuf`. -/
theorem Echoes.fits {m out : Message δ} (echoes : Echoes m out) : (lineText out).length ≤ 510 :=
  (lineText_length_le echoes.temp echoes.pressure echoes.flow).trans (by decide)

/-- What `handle_one_line` makes of a request: it is answered, or forwarded to the controller of
its device. -/
inductive RequestStep (fd : ℤ) (ctx : AppCtx δ) (m : Message δ) (nowMs : ℤ) (writeOk : Bool) :
    LineResult δ → Prop where
  | answered (after : AppCtx δ) (out : Message δ) : Echoes m out →
      (∀ seq dev target, ¬ Forwardable ctx m seq dev target) →
      RequestStep fd ctx m nowMs writeOk (replyTo fd after out writeOk)
  | forwarded (seq dev : UInt32) (target : ℤ) : Forwardable ctx m seq dev target →
      RequestStep fd ctx m nowMs writeOk (forwardRequest fd ctx m nowMs writeOk)

/-- A request that registers no controller is left to the router. -/
theorem handleOneLine_routed {fd : ℤ} {ctx : AppCtx δ} {line : Bytes} {m : Message δ}
    (parsed : lineParse line = some m) (role : m.role = .req) (noRegister : isRegister m = false)
    (nowMs : ℤ) (writeOk : Bool) :
    handleOneLine fd ctx line nowMs writeOk =
      match handleReq ctx.pmcFd ctx.tmcFd m with
      | .forward => forwardRequest fd ctx m nowMs writeOk
      | .noResponse => ⟨ctx, 0, none⟩
      | .respond out => replyTo fd ctx out writeOk := by
  have unmatched : matchPending fd ctx m = none := by simp [matchPending, role]
  cases decision : handleReq ctx.pmcFd ctx.tmcFd m <;>
    simp only [handleOneLine, parsed, noRegister, Bool.false_eq_true, if_false, unmatched,
      routerHandle, role, decision]

omit [CDouble δ] in
theorem not_isRegister_of_isForwarded {m : Message δ} (type : isForwarded m.type = true) :
    isRegister m = false := by
  have noRegister : m.type ≠ .register := by
    intro registers
    rw [registers] at type
    cases type
  simp [isRegister, noRegister]

/-- **Every accepted request is answered or forwarded.** -/
theorem handleOneLine_request (fd : ℤ) (ctx : AppCtx δ) {line : Bytes} {m : Message δ}
    (parsed : lineParse line = some m) (role : m.role = .req) (nowMs : ℤ) (writeOk : Bool) :
    RequestStep fd ctx m nowMs writeOk (handleOneLine fd ctx line nowMs writeOk) := by
  cases registers : isRegister m with
  | true =>
      simp only [handleOneLine, parsed, if_pos registers, handleRegister]
      refine .answered _ _ (registerReply_echoes m) fun _ _ _ forwardable => ?_
      cases registers.symm.trans (not_isRegister_of_isForwarded forwardable.type)
  | false =>
      rw [handleOneLine_routed parsed role registers]
      have verdict := handleReq_verdict ctx m role
      generalize handleReq ctx.pmcFd ctx.tmcFd m = result at verdict ⊢
      cases verdict with
      | respond out echoes unforwardable => exact .answered ctx out echoes unforwardable
      | forward seq dev target forwardable => exact .forwarded seq dev target forwardable

/-! ## Answered or passed on -/

/-- One RESP that echoes the device and the sequence number of a request is written to its sender,
and nothing else. -/
def Answered (fd : ℤ) (m : Message δ) (result : LineResult δ) : Prop :=
  ∃ out : Message δ, out.role = .resp ∧ out.dev = m.dev ∧ out.seq = m.seq ∧
    result.wrote = some (fd, lineText out ++ [10])

/-- One encoding of a request is written to the controller of its device, which is not its sender,
and one free slot records it. -/
structure PassedOn (fd : ℤ) (ctx : AppCtx δ) (m : Message δ) (nowMs : ℤ) (result : LineResult δ)
    (seq dev : UInt32) (target : ℤ) (i : Fin requestTrackerMax) : Prop where
  hasSeq : m.seq = some seq
  hasDev : m.dev = some dev
  controller : ControllerOf ctx dev target
  other : target ≠ fd
  wrote : result.wrote = some (target, lineText m ++ [10])
  free : (ctx.tracker i).valid = false
  tracker : result.ctx.tracker =
    Function.update ctx.tracker i (clientRequest fd seq dev m.type nowMs)

/-- A request keeps the connection of its sender, and is either answered or passed on. -/
structure Handled (fd : ℤ) (ctx : AppCtx δ) (m : Message δ) (nowMs : ℤ) (result : LineResult δ) :
    Prop where
  kept : 0 ≤ result.ret
  once : Xor (Answered fd m result)
    (∃ seq dev target i, PassedOn fd ctx m nowMs result seq dev target i)

/-- Only a failed write keeps an answer from its sender. -/
theorem Echoes.replyTo_eq {m out : Message δ} (echoes : Echoes m out) (fd : ℤ) (ctx : AppCtx δ)
    (writeOk : Bool) :
    replyTo fd ctx out writeOk =
      if writeOk then ⟨ctx, 1, some (fd, lineText out ++ [10])⟩ else ⟨ctx, -1, none⟩ := by
  have fits := echoes.fits
  rw [replyTo, sendLine_wbuf, sendFails, decide_eq_false (by omega)]
  cases writeOk <;> rfl

/-- Whoever is sent a request is not sent a response. -/
theorem wrote_ne_of_role {m out : Message δ} (role : m.role = .req) (isResp : out.role = .resp)
    (target fd : ℤ) :
    some (target, lineText m ++ [10]) ≠ some (fd, lineText out ++ [10]) := by
  intro same
  obtain ⟨_, text⟩ := Prod.mk.inj (Option.some.inj same)
  have roles := (lineText_head_injective (List.append_cancel_right text)).1
  rw [role, isResp] at roles
  cases roles

/-- An answer goes to the sender, and a request is passed on to another connection. -/
theorem Answered.not_passedOn {fd : ℤ} {ctx : AppCtx δ} {m : Message δ} {nowMs : ℤ}
    {result : LineResult δ} (answered : Answered fd m result) :
    ¬ ∃ seq dev target i, PassedOn fd ctx m nowMs result seq dev target i := by
  rintro ⟨seq, dev, target, i, passed⟩
  obtain ⟨out, _, _, _, wrote⟩ := answered
  rw [passed.wrote, Option.some.injEq, Prod.mk.injEq] at wrote
  exact passed.other wrote.1

/-- Forwarding a request keeps its sender and passes it on exactly when a slot is free for it, its
encoding fits and its sender is not the controller. -/
theorem Forwardable.handled_iff {ctx : AppCtx δ} {m : Message δ} {seq dev : UInt32} {target : ℤ}
    (forwardable : Forwardable ctx m seq dev target) (fd nowMs : ℤ) :
    Handled fd ctx m nowMs (forwardRequest fd ctx m nowMs true) ↔
      (∃ i, (ctx.tracker i).valid = false) ∧ (lineText m).length ≤ 510 ∧ target ≠ fd := by
  obtain ⟨resolved, there⟩ :=
    resolveTargetFd_of_controller forwardable.hasDev forwardable.controller
  rw [forwardRequest_eq fd nowMs true forwardable.hasSeq forwardable.hasDev resolved there]
  have lost : ¬ (0 : ℤ) ≤ -1 := by decide
  cases alloc : requestTrackerAlloc ctx.tracker with
  | none =>
      refine iff_of_false (fun handled => lost handled.kept) ?_
      rintro ⟨free, _⟩
      exact requestTrackerAlloc_ne_none_iff.mpr free alloc
  | some slot =>
  obtain ⟨free, _⟩ := requestTrackerAlloc_some (i := slot.1) alloc
  cases fails : sendFails m true with
  | true =>
      refine iff_of_false (fun handled => lost handled.kept) ?_
      rintro ⟨_, fits, _⟩
      simp [sendFails] at fails
      omega
  | false =>
      have fits : (lineText m).length ≤ 510 := by simpa [sendFails] using fails
      -- What was written is no answer, since it is the request itself.
      have unanswered : ¬ Answered fd m
          ⟨{ ctx with tracker :=
            Function.update ctx.tracker slot.1 (clientRequest fd seq dev m.type nowMs) },
          0, some (target, lineText m ++ [10])⟩ := by
        rintro ⟨out, isResp, _, _, wrote⟩
        exact wrote_ne_of_role forwardable.role isResp _ _ wrote
      constructor
      · intro handled
        rcases handled.once with ⟨answered, _⟩ | ⟨⟨_, _, _, _, passed⟩, _⟩
        · exact absurd answered unanswered
        · refine ⟨⟨slot.1, free⟩, fits, ?_⟩
          obtain ⟨same, _⟩ := Prod.mk.inj (Option.some.inj passed.wrote)
          exact same ▸ passed.other
      · rintro ⟨_, _, other⟩
        refine ⟨le_refl _, .inr ⟨⟨seq, dev, target, slot.1, ?_⟩, unanswered⟩⟩
        exact ⟨forwardable.hasSeq, forwardable.hasDev, forwardable.controllerOf, other, rfl, free,
          rfl⟩

/-- **A request is answered or passed on**, once all writes succeed, exactly when it need not be
passed on, or there is a free slot for it, its encoding fits into `wbuf`, and its sender is not the
controller itself. -/
theorem request_outcome_iff (ctx : AppCtx δ) (fd : ℤ) (line : Bytes) (m : Message δ)
    (parsed : lineParse line = some m) (role : m.role = .req) (nowMs : ℤ) :
    Handled fd ctx m nowMs (handleOneLine fd ctx line nowMs true) ↔
      ∀ seq dev target, Forwardable ctx m seq dev target →
        (∃ i, (ctx.tracker i).valid = false) ∧ (lineText m).length ≤ 510 ∧ target ≠ fd := by
  have step := handleOneLine_request fd ctx parsed role nowMs true
  generalize handleOneLine fd ctx line nowMs true = result at step ⊢
  cases step with
  | answered after out echoes unforwardable =>
      rw [echoes.replyTo_eq fd after, if_pos rfl]
      refine iff_of_true ⟨show (0 : ℤ) ≤ 1 by decide, .inl ?_⟩ fun seq dev target forwardable =>
        absurd forwardable (unforwardable seq dev target)
      have answered : Answered fd m ⟨after, 1, some (fd, lineText out ++ [10])⟩ :=
        ⟨out, echoes.role, echoes.dev, echoes.seq, rfl⟩
      exact ⟨answered, answered.not_passedOn⟩
  | forwarded seq dev target forwardable =>
      rw [forwardable.handled_iff]
      constructor
      · intro passable other otherDev otherTarget again
        have same : otherTarget = target := by
          have := again.controller.symm.trans forwardable.controller
          cases this
          rfl
        exact same ▸ passable
      · intro all
        exact all seq dev target forwardable

/-! ## The controller of a numeral -/

/-- The numerals that name a module. -/
def NamesModule (n : ℕ) : Prop := n = 1 ∨ n = 2 ∨ n = 100

instance (n : ℕ) : Decidable (NamesModule n) := inferInstanceAs (Decidable (_ ∨ _ ∨ _))

/-- A request for the module of a numeral is forwarded to the controller of that module only, and
answered by UNKNOWN_DEV when the numeral names none. -/
structure NotAliased (fd : ℤ) (ctx : AppCtx δ) (m : Message δ) (n : ℕ)
    (result : Bool → LineResult δ) : Prop where
  forwarded : ∀ writeOk target, (result writeOk).wrote = some (target, lineText m ++ [10]) →
    (n = 1 ∨ n = 2) ∧ target = ctx.pmcFd ∨ n = 100 ∧ target = ctx.tmcFd
  rejected : ¬ NamesModule n → (result true).ctx.tracker = ctx.tracker ∧ (result true).wrote =
    some (fd, lineText (makeError m 404 (ascii "UNKNOWN_DEV")) ++ [10])

omit [CDouble δ] in
/-- A device number that names no module is unknown to the router. -/
theorem handleReq_unknown {m : Message δ} {dev : UInt32} (type : isForwarded m.type = true)
    (hasSeq : m.seq ≠ none) (hasDev : m.dev = some dev) (unknown : ¬ NamesModule dev.toNat)
    (pmcFd tmcFd : ℤ) :
    handleReq pmcFd tmcFd m = .respond (makeError m 404 (ascii "UNKNOWN_DEV")) := by
  have noPing : m.type ≠ .ping := by
    intro isPing
    rw [isPing] at type
    cases type
  have noTmc : dev ≠ 100 := by
    rintro rfl
    exact unknown (.inr (.inr rfl))
  have noPmc : ¬ (dev = 1 ∨ dev = 2) := by
    rintro (rfl | rfl)
    · exact unknown (.inl rfl)
    · exact unknown (.inr (.inl rfl))
  rw [handleReq, if_neg hasSeq, if_neg noPing, if_pos type, if_neg (by rw [hasDev]; simp)]
  simp only [resolveControllerFd, hasDev, if_neg noTmc, if_neg noPmc]
  rfl

/-- A request that is forwarded is written to the controller, or not at all. -/
theorem Forwardable.wrote {ctx : AppCtx δ} {m : Message δ} {seq dev : UInt32} {target : ℤ}
    (forwardable : Forwardable ctx m seq dev target) (fd nowMs : ℤ) (writeOk : Bool) :
    (forwardRequest fd ctx m nowMs writeOk).wrote = none ∨
      (forwardRequest fd ctx m nowMs writeOk).wrote = some (target, lineText m ++ [10]) := by
  obtain ⟨resolved, there⟩ :=
    resolveTargetFd_of_controller forwardable.hasDev forwardable.controller
  rw [forwardRequest_eq fd nowMs writeOk forwardable.hasSeq forwardable.hasDev resolved there]
  cases requestTrackerAlloc ctx.tracker with
  | none => exact .inl rfl
  | some slot =>
      cases sendFails m writeOk with
      | true => exact .inl rfl
      | false => exact .inr rfl

omit [CDouble δ] in
/-- A request of a forwarded type for a module is forwardable when both controllers are attached. -/
theorem exists_forwardable {ctx : AppCtx δ} {m : Message δ} {dev : UInt32} (role : m.role = .req)
    (type : isForwarded m.type = true) (hasSeq : m.seq ≠ none) (hasDev : m.dev = some dev)
    (known : NamesModule dev.toNat) (pmc : 0 ≤ ctx.pmcFd) (tmc : 0 ≤ ctx.tmcFd) :
    ∃ seq target, Forwardable ctx m seq dev target := by
  obtain ⟨seq, hasSeq⟩ := Option.ne_none_iff_exists'.mp hasSeq
  have there : ∃ target, 0 ≤ target ∧ ControllerOf ctx dev target := by
    rcases known with one | two | transfer
    · exact ⟨ctx.pmcFd, pmc, .inl ⟨.inl (UInt32.toNat_inj.mp one), rfl⟩⟩
    · exact ⟨ctx.pmcFd, pmc, .inl ⟨.inr (UInt32.toNat_inj.mp two), rfl⟩⟩
    · exact ⟨ctx.tmcFd, tmc, .inr ⟨UInt32.toNat_inj.mp transfer, rfl⟩⟩
  obtain ⟨target, there, controller⟩ := there
  have resolved := (resolveControllerFd_ok_iff hasDev _ _ _).mpr ⟨there, controller⟩
  exact ⟨seq, target, role, type, hasSeq, hasDev, resolved⟩

/-- A line with a forwardable request writes the request to the controller, or nothing. -/
theorem handleOneLine_forwardable (fd : ℤ) {ctx : AppCtx δ} {line : Bytes} {m : Message δ}
    {seq dev : UInt32} {target : ℤ} (parsed : lineParse line = some m)
    (forwardable : Forwardable ctx m seq dev target) (nowMs : ℤ) (writeOk : Bool) :
    (handleOneLine fd ctx line nowMs writeOk).wrote = none ∨
      (handleOneLine fd ctx line nowMs writeOk).wrote = some (target, lineText m ++ [10]) := by
  have step := handleOneLine_request fd ctx parsed forwardable.role nowMs writeOk
  generalize handleOneLine fd ctx line nowMs writeOk = result at step ⊢
  cases step with
  | answered after out echoes unforwardable => exact absurd forwardable (unforwardable _ _ _)
  | forwarded _ _ other again =>
      cases again.controller.symm.trans forwardable.controller
      exact again.wrote fd nowMs writeOk

/-- A request whose device number names a module goes to no other module exactly when the numeral
names it too. -/
theorem Forwardable.notAliased_iff {fd : ℤ} {ctx : AppCtx δ} {line : Bytes} {m : Message δ}
    {seq dev : UInt32} {target : ℤ} (parsed : lineParse line = some m)
    (forwardable : Forwardable ctx m seq dev target) {n : ℕ}
    (same : NamesModule n → n = dev.toNat) (nowMs : ℤ) :
    NotAliased fd ctx m n (handleOneLine fd ctx line nowMs) ↔ NamesModule n := by
  have sends := handleOneLine_forwardable fd parsed forwardable nowMs
  constructor
  · intro unaliased
    by_contra unknown
    have wrote := (unaliased.rejected unknown).2
    rcases sends true with silent | passed
    · cases silent.symm.trans wrote
    · exact wrote_ne_of_role forwardable.role rfl _ _ (passed.symm.trans wrote)
  · intro known
    refine ⟨fun writeOk other wrote => ?_, fun unknown => absurd known unknown⟩
    rcases sends writeOk with silent | passed
    · cases silent.symm.trans wrote
    · obtain ⟨here, _⟩ := Prod.mk.inj (Option.some.inj (passed.symm.trans wrote))
      rw [same known, ← here]
      rcases forwardable.controllerOf with ⟨rfl | rfl, link⟩ | ⟨rfl, link⟩
      · exact .inl ⟨.inl rfl, link⟩
      · exact .inl ⟨.inr rfl, link⟩
      · exact .inr ⟨rfl, link⟩

/-- A request whose device number names no module is answered by UNKNOWN_DEV. -/
theorem notAliased_of_unknown {fd : ℤ} {ctx : AppCtx δ} {line : Bytes} {m : Message δ}
    {dev : UInt32} (parsed : lineParse line = some m) (role : m.role = .req)
    (type : isForwarded m.type = true) (hasSeq : m.seq ≠ none) (hasDev : m.dev = some dev)
    (unknown : ¬ NamesModule dev.toNat) (n : ℕ) (nowMs : ℤ) :
    NotAliased fd ctx m n (handleOneLine fd ctx line nowMs) := by
  have echoes := makeError_echoes m 404 (ascii "UNKNOWN_DEV")
  have routed : ∀ writeOk, handleOneLine fd ctx line nowMs writeOk =
      if writeOk then
        ⟨ctx, 1, some (fd, lineText (makeError m 404 (ascii "UNKNOWN_DEV")) ++ [10])⟩
      else ⟨ctx, -1, none⟩ := by
    intro writeOk
    rw [handleOneLine_routed parsed role (not_isRegister_of_isForwarded type),
      handleReq_unknown type hasSeq hasDev unknown, ← echoes.replyTo_eq]
  refine ⟨fun writeOk target wrote => ?_, fun _ => by rw [routed]; exact ⟨rfl, rfl⟩⟩
  rw [routed] at wrote
  cases writeOk with
  | false => cases wrote
  | true => exact absurd wrote.symm (wrote_ne_of_role role echoes.role _ _)

/-- **No device is taken for another** exactly when the numeral fits into 32 bits, or overflows
`unsigned long`, or is not cut to the number of a module. -/
theorem device_not_aliased_iff (ctx : AppCtx δ) (fd : ℤ) (line : Bytes) (m : Message δ)
    (digits : Bytes) (parsed : lineParse line = some m) (role : m.role = .req)
    (type : isForwarded m.type = true) (hasSeq : m.seq ≠ none)
    (lastDev : lastValue (ascii "dev") (keyTokens line) = some digits)
    (numeral : ∀ b ∈ digits, isDigit b = true) (pmc : 0 ≤ ctx.pmcFd) (tmc : 0 ≤ ctx.tmcFd)
    (nowMs : ℤ) :
    NotAliased fd ctx m (digitsValue digits) (handleOneLine fd ctx line nowMs) ↔
      digitsValue digits < 2 ^ 32 ∨ 2 ^ 64 ≤ digitsValue digits ∨
        ¬ NamesModule (digitsValue digits % 2 ^ 32) := by
  have hasDev : m.dev = some (UInt32.ofNat (min (digitsValue digits) (2 ^ 64 - 1))) := by
    rw [lineParse_dev parsed, lastDev, Option.map_some, strtoul_digits numeral]
  generalize digitsValue digits = n at hasDev ⊢
  have cut : (UInt32.ofNat (min n (2 ^ 64 - 1))).toNat = min n (2 ^ 64 - 1) % 2 ^ 32 := rfl
  by_cases known : NamesModule (UInt32.ofNat (min n (2 ^ 64 - 1))).toNat
  · obtain ⟨seq, target, forwardable⟩ :=
      exists_forwardable role type hasSeq hasDev known pmc tmc
    have same : NamesModule n → n = (UInt32.ofNat (min n (2 ^ 64 - 1))).toNat := by
      rw [cut, NamesModule]
      omega
    rw [forwardable.notAliased_iff parsed same]
    rw [cut] at known
    simp only [NamesModule] at known ⊢
    omega
  · refine iff_of_true (notAliased_of_unknown parsed role type hasSeq hasDev known n nowMs) ?_
    rw [cut] at known
    simp only [NamesModule] at known ⊢
    omega

end Requests

/-- A process controller on descriptor 5 and a transfer controller on 6. -/
def bothAttached (tracker : RequestTracker) : AppCtx ℚ where
  moduleRegistry := moduleRegistryInit
  pmcFd := 5
  tmcFd := 6
  tracker := tracker
  nextSeq := 1000
  jobState := .idle

/-- A request for module 1. -/
def moduleRequest (type : MsgType) : Message ℚ :=
  { role := .req, type := type, dev := some 1, seq := some 7 }

/-- For a client's STATUS and an empty tracker the theorem decides. -/
theorem request_outcome_status :
    Handled 8 (bothAttached requestTrackerInit) (moduleRequest .status) 40
        (handleOneLine 8 (bothAttached requestTrackerInit) (ascii "REQ STATUS dev=1 seq=7\n") 40
          true) ↔
      ∀ seq dev target,
        Forwardable (bothAttached requestTrackerInit) (moduleRequest .status) seq dev target →
        (∃ i, (requestTrackerInit i).valid = false) ∧
          (lineText (moduleRequest .status)).length ≤ 510 ∧ target ≠ 8 :=
  request_outcome_iff _ 8 _ (moduleRequest .status) (by decide) rfl 40

/-- With sixteen requests pending, the next one is lost with its connection. -/
theorem full_tracker_loses_request :
    let full : AppCtx ℚ := bothAttached fun _ => clientRequest 7 21 1 .status 0
    lineParse (ascii "REQ STATUS dev=1 seq=7\n") = some (moduleRequest .status) ∧
      (handleOneLine 8 full (ascii "REQ STATUS dev=1 seq=7\n") 40 true).ret = -1 ∧
      ¬ Handled 8 full (moduleRequest .status) 40
        (handleOneLine 8 full (ascii "REQ STATUS dev=1 seq=7\n") 40 true) :=
  ⟨by decide, by decide, fun handled => absurd handled.kept (by decide)⟩

/-- The numeral 1 names module 1. -/
theorem device_not_aliased_one :
    NotAliased 8 (bothAttached requestTrackerInit) (moduleRequest .start)
        (digitsValue (ascii "1"))
        (handleOneLine 8 (bothAttached requestTrackerInit) (ascii "REQ START dev=1 seq=7\n") 40) ↔
      digitsValue (ascii "1") < 2 ^ 32 ∨ 2 ^ 64 ≤ digitsValue (ascii "1") ∨
        ¬ NamesModule (digitsValue (ascii "1") % 2 ^ 32) :=
  device_not_aliased_iff _ 8 _ (moduleRequest .start) (ascii "1") (by decide) rfl rfl (by decide)
    (by decide) (List.all_eq_true.mp rfl) (by decide) (by decide) 40

/-- A START of module 4294967297 starts module 1. -/
theorem wide_device_aliased :
    let line := ascii "REQ START dev=4294967297 seq=7\n"
    lineParse line = some (moduleRequest .start) ∧
      lastValue (ascii "dev") (keyTokens line) = some (ascii "4294967297") ∧
      digitsValue (ascii "4294967297") = 4294967297 ∧
      ¬ NotAliased 8 (bothAttached requestTrackerInit) (moduleRequest .start) 4294967297
        (handleOneLine 8 (bothAttached requestTrackerInit) line 40) := by
  refine ⟨by decide, by decide, by decide, fun unaliased => ?_⟩
  rcases unaliased.forwarded true 5 (by decide) with ⟨known, _⟩ | ⟨known, _⟩
  · omega
  · omega

end EquipmentControl
