import EquipmentControl.Equipmentd.Serving
import EquipmentControl.Protocol.RoundTrip

/-!
# Branches of a line and of the scheduler's turn

Everything `handle_one_line` and `run_scheduler` can do (`services/equipmentd/src/main.c`), with
what is known in each branch (`handleOneLine_step`, `runScheduler_turn`). What they do to the
request tracker and to the controller descriptors, and what the runs of equipmentd preserve, is
read off these two.
-/

set_option autoImplicit false

namespace EquipmentControl

section Lines

variable {δ : Type}

/-- A request that the router forwards to the controller on `target`. -/
structure Forwardable (ctx : AppCtx δ) (m : Message δ) (seq dev : UInt32) (target : ℤ) : Prop where
  role : m.role = .req
  type : isForwarded m.type = true
  hasSeq : m.seq = some seq
  hasDev : m.dev = some dev
  controller : resolveControllerFd m ctx.pmcFd ctx.tmcFd = .ok target

/-- A request is forwarded for a module only. -/
theorem Forwardable.dev {ctx : AppCtx δ} {m : Message δ} {seq dev : UInt32} {target : ℤ}
    (forwardable : Forwardable ctx m seq dev target) : dev = 1 ∨ dev = 2 ∨ dev = 100 := by
  rcases ((resolveControllerFd_ok_iff forwardable.hasDev _ _ _).mp forwardable.controller).2 with
    ⟨one | two, _⟩ | ⟨isTmc, _⟩
  · exact .inl one
  · exact .inr (.inl two)
  · exact .inr (.inr isTmc)

variable [CDouble δ]

/-- The branches of `handle_one_line`. -/
inductive LineStep (fd : ℤ) (ctx : AppCtx δ) (line : Bytes) (nowMs : ℤ) (writeOk : Bool) :
    LineResult δ → Prop where
  | replied (out : Message δ) : LineStep fd ctx line nowMs writeOk (replyTo fd ctx out writeOk)
  | registered (m : Message δ) : lineParse line = some m → isRegister m = true →
      LineStep fd ctx line nowMs writeOk (handleRegister fd ctx m writeOk)
  | response (m : Message δ) (i : Fin requestTrackerMax) : lineParse line = some m →
      matchPending fd ctx m = some i →
      LineStep fd ctx line nowMs writeOk (handleResponse ctx m i writeOk)
  | recorded (m : Message δ) : lineParse line = some m → m.role = .evt →
      LineStep fd ctx line nowMs writeOk
        ⟨{ ctx with moduleRegistry := handleEvt ctx.moduleRegistry nowMs m }, 0, none⟩
  | ignored : LineStep fd ctx line nowMs writeOk ⟨ctx, 0, none⟩
  | crowdedOut (m : Message δ) (seq dev : UInt32) (target : ℤ) : lineParse line = some m →
      Forwardable ctx m seq dev target → requestTrackerAlloc ctx.tracker = none →
      LineStep fd ctx line nowMs writeOk ⟨ctx, -1, none⟩
  | rolledBack (m : Message δ) (seq dev : UInt32) (target : ℤ) (i : Fin requestTrackerMax) :
      lineParse line = some m → Forwardable ctx m seq dev target →
      (ctx.tracker i).valid = false → LineStep fd ctx line nowMs writeOk
        ⟨{ ctx with tracker := requestTrackerRemove ctx.tracker i }, -1, none⟩
  | forwarded (m : Message δ) (seq dev : UInt32) (target : ℤ) (i : Fin requestTrackerMax) :
      lineParse line = some m → Forwardable ctx m seq dev target →
      (ctx.tracker i).valid = false → LineStep fd ctx line nowMs writeOk
        ⟨{ ctx with tracker :=
            Function.update ctx.tracker i (clientRequest fd seq dev m.type nowMs) },
          0, some (target, lineText m ++ [10])⟩

/-- Forwarding a request. -/
theorem forwardRequest_step {fd : ℤ} {ctx : AppCtx δ} {line : Bytes} {m : Message δ}
    {seq dev : UInt32} {target : ℤ} (parsed : lineParse line = some m)
    (forwardable : Forwardable ctx m seq dev target) (nowMs : ℤ) (writeOk : Bool) :
    LineStep fd ctx line nowMs writeOk (forwardRequest fd ctx m nowMs writeOk) := by
  obtain ⟨resolved, there⟩ :=
    resolveTargetFd_of_controller forwardable.hasDev forwardable.controller
  rw [forwardRequest_eq fd nowMs writeOk forwardable.hasSeq forwardable.hasDev resolved there]
  cases alloc : requestTrackerAlloc ctx.tracker with
  | none => exact .crowdedOut m seq dev target parsed forwardable alloc
  | some slot =>
  obtain ⟨free, _⟩ := requestTrackerAlloc_some (i := slot.1) alloc
  cases sendFails m writeOk with
  | true => exact .rolledBack m seq dev target slot.1 parsed forwardable free
  | false => exact .forwarded m seq dev target slot.1 parsed forwardable free

/-- **Everything a line can do.** -/
theorem handleOneLine_step (fd : ℤ) (ctx : AppCtx δ) (line : Bytes) (nowMs : ℤ) (writeOk : Bool) :
    LineStep fd ctx line nowMs writeOk (handleOneLine fd ctx line nowMs writeOk) := by
  rw [handleOneLine]
  cases parsed : (lineParse line : Option (Message δ)) with
  | none => exact .replied _
  | some m =>
  simp only
  by_cases registers : isRegister m = true
  · rw [if_pos registers]
    exact .registered m parsed registers
  rw [if_neg registers]
  cases matched : matchPending fd ctx m with
  | some i => exact .response m i parsed matched
  | none =>
  simp only
  cases role : m.role with
  | evt =>
      simp only [routerHandle, role]
      exact .recorded m parsed role
  | resp =>
      simp only [routerHandle, role]
      exact .ignored
  | unknown =>
      simp only [routerHandle, role]
      exact .ignored
  | req =>
  have kept : (routerHandle ctx.moduleRegistry ctx.pmcFd ctx.tmcFd nowMs m).1 =
      ctx.moduleRegistry := by
    rw [routerHandle, role]
  rw [kept]
  cases routed : (routerHandle ctx.moduleRegistry ctx.pmcFd ctx.tmcFd nowMs m).2 with
  | noResponse => exact .ignored
  | respond out => exact .replied out
  | forward =>
      obtain ⟨_, type, ⟨seq, hasSeq⟩, dev, target, hasDev, controller⟩ :=
        routerHandle_forward routed
      exact forwardRequest_step parsed ⟨role, type, hasSeq, hasDev, controller⟩ nowMs writeOk

/-- What forwarding does to the tracker, with the result of the call: nothing, a slot freed again,
or a slot taken for the request. -/
inductive TrackerStep (fd : ℤ) (before : RequestTracker) : ℤ → RequestTracker → Prop where
  | same (ret : ℤ) : TrackerStep fd before ret before
  | freed (ret : ℤ) (i : Fin requestTrackerMax) :
      TrackerStep fd before ret (requestTrackerRemove before i)
  | taken (i : Fin requestTrackerMax) (seq dev : UInt32) (type : MsgType) (nowMs : ℤ) :
      (before i).valid = false →
      TrackerStep fd before 0 (Function.update before i (clientRequest fd seq dev type nowMs))

/-- **What a line can do to the tracker**: nothing, one slot freed, or one free slot taken for a
request of the connection. -/
theorem handleOneLine_tracker (fd : ℤ) (ctx : AppCtx δ) (line : Bytes) (nowMs : ℤ)
    (writeOk : Bool) :
    TrackerStep fd ctx.tracker (handleOneLine fd ctx line nowMs writeOk).ret
      (handleOneLine fd ctx line nowMs writeOk).ctx.tracker := by
  have step := handleOneLine_step fd ctx line nowMs writeOk
  generalize handleOneLine fd ctx line nowMs writeOk = result at step ⊢
  cases step with
  | replied out =>
      rw [replyTo_ctx]
      exact .same _
  | registered m =>
      obtain ⟨_, _, attached⟩ := handleRegister_ctx fd ctx m writeOk
      rw [attached]
      exact .same _
  | response m i =>
      rcases handleResponse_ctx ctx m i writeOk with ⟨_, same⟩ | finished
      · rw [same]
        exact .same _
      · rw [finished, finishResponse_tracker]
        exact .freed _ i
  | rolledBack m seq dev target i => exact .freed _ i
  | forwarded m seq dev target i parsed forwardable free =>
      exact .taken i seq dev m.type nowMs free
  | _ => exact .same _

/-- A slot that is valid afterwards is unchanged, or was free and holds a request of the
connection. -/
theorem TrackerStep.slot {fd ret : ℤ} {before after : RequestTracker}
    (step : TrackerStep fd before ret after) {i : Fin requestTrackerMax}
    (valid : (after i).valid = true) :
    after i = before i ∨ ret = 0 ∧ (before i).valid = false ∧ (after i).clientFd = fd := by
  cases step with
  | same => exact .inl rfl
  | freed _ j => exact .inl (requestTrackerRemove_valid valid).2
  | taken j seq dev type nowMs free =>
      by_cases here : i = j
      · subst here
        rw [Function.update_self]
        exact .inr ⟨rfl, free, rfl⟩
      · exact .inl (Function.update_of_ne here _ _)

variable (δ) in
/-- The line is a REQ REGISTER without a device. -/
def RegistersPmc (line : Bytes) : Prop :=
  ∃ m : Message δ, lineParse line = some m ∧ m.role = .req ∧ m.type = .register ∧ m.dev = none

variable (δ) in
/-- The line is a REQ REGISTER of the transfer module. -/
def RegistersTmc (line : Bytes) : Prop :=
  ∃ m : Message δ, lineParse line = some m ∧ m.role = .req ∧ m.type = .register ∧ m.dev = some 100

/-- What a line can do to the controller descriptors: nothing, or attach its own connection. -/
structure LinkStep (fd : ℤ) (line : Bytes) (before after : AppCtx δ) : Prop where
  pmc : after.pmcFd = before.pmcFd ∨ (after.pmcFd = fd ∧ RegistersPmc δ line)
  tmc : after.tmcFd = before.tmcFd ∨ (after.tmcFd = fd ∧ RegistersTmc δ line)

/-- **A line attaches a controller link only if it is the matching REGISTER.** -/
theorem handleOneLine_links (fd : ℤ) (ctx : AppCtx δ) (line : Bytes) (nowMs : ℤ)
    (writeOk : Bool) : LinkStep fd line ctx (handleOneLine fd ctx line nowMs writeOk).ctx := by
  have step := handleOneLine_step fd ctx line nowMs writeOk
  generalize handleOneLine fd ctx line nowMs writeOk = result at step ⊢
  cases step with
  | replied out =>
      rw [replyTo_ctx]
      exact ⟨.inl rfl, .inl rfl⟩
  | registered m parsed registers =>
      simp only [isRegister, Bool.and_eq_true, Bool.or_eq_true, decide_eq_true_eq] at registers
      obtain ⟨⟨role, type⟩, noDev | isTmc⟩ := registers
      · rw [handleRegister, replyTo_ctx, if_neg (by rw [noDev]; decide)]
        exact ⟨.inr ⟨rfl, m, parsed, role, type, noDev⟩, .inl rfl⟩
      · rw [handleRegister, replyTo_ctx, if_pos isTmc]
        exact ⟨.inl rfl, .inr ⟨rfl, m, parsed, role, type, isTmc⟩⟩
  | response m i =>
      rcases handleResponse_ctx ctx m i writeOk with ⟨_, unchanged⟩ | finished
      · rw [unchanged]
        exact ⟨.inl rfl, .inl rfl⟩
      · rw [finished]
        exact ⟨.inl (finishResponse_fds ctx m i).1, .inl (finishResponse_fds ctx m i).2⟩
  | _ => exact ⟨.inl rfl, .inl rfl⟩

/-- A slot that is valid after a line is unchanged, or was free and holds the request of the line,
which was written to its controller. -/
theorem handleOneLine_slot {fd : ℤ} {ctx : AppCtx δ} {line : Bytes} {nowMs : ℤ} {writeOk : Bool}
    {i : Fin requestTrackerMax}
    (valid : ((handleOneLine fd ctx line nowMs writeOk).ctx.tracker i).valid = true) :
    (handleOneLine fd ctx line nowMs writeOk).ctx.tracker i = ctx.tracker i ∨
      ∃ m seq dev target, lineParse line = some m ∧ Forwardable ctx m seq dev target ∧
        (ctx.tracker i).valid = false ∧
        (handleOneLine fd ctx line nowMs writeOk).ctx.tracker i =
          clientRequest fd seq dev m.type nowMs ∧
        (handleOneLine fd ctx line nowMs writeOk).wrote ≠ none := by
  have step := handleOneLine_step fd ctx line nowMs writeOk
  generalize handleOneLine fd ctx line nowMs writeOk = result at step valid ⊢
  cases step with
  | replied out => exact .inl (by rw [replyTo_ctx])
  | registered m =>
      obtain ⟨_, _, attached⟩ := handleRegister_ctx fd ctx m writeOk
      exact .inl (by rw [attached])
  | response m j =>
      rcases handleResponse_ctx ctx m j writeOk with ⟨_, same⟩ | finished
      · exact .inl (by rw [same])
      · rw [finished, finishResponse_tracker] at valid ⊢
        exact .inl (requestTrackerRemove_valid valid).2
  | recorded m => exact .inl rfl
  | ignored => exact .inl rfl
  | crowdedOut m seq dev target => exact .inl rfl
  | rolledBack m seq dev target j => exact .inl (requestTrackerRemove_valid valid).2
  | forwarded m seq dev target j parsed forwardable free =>
      by_cases here : i = j
      · subst here
        exact .inr ⟨m, seq, dev, target, parsed, forwardable, free, Function.update_self ..,
          Option.some_ne_none _⟩
      · exact .inl (Function.update_of_ne here _ _)

/-- A response is given up, or finishes and has been relayed to the client of its slot, if that has
one. -/
theorem handleResponse_cases (ctx : AppCtx δ) (m : Message δ) (i : Fin requestTrackerMax)
    (writeOk : Bool) :
    handleResponse ctx m i writeOk = ⟨ctx, -1, none⟩ ∨
      handleResponse ctx m i writeOk = ⟨finishResponse ctx m i, 1,
        if 0 ≤ (ctx.tracker i).clientFd then
          some ((ctx.tracker i).clientFd, lineText m ++ [10])
        else none⟩ := by
  rw [handleResponse, sendLine_wbuf]
  by_cases client : 0 ≤ (ctx.tracker i).clientFd
  · simp only [if_pos client]
    cases sendFails m writeOk with
    | true => exact .inl rfl
    | false => exact .inr rfl
  · right
    rw [if_neg client, if_neg client]

/-- A slot that a line frees is the one its response matches, and the response is relayed to the
client of the slot, if it has one. -/
theorem handleOneLine_freed {fd : ℤ} {ctx : AppCtx δ} {line : Bytes} {nowMs : ℤ} {writeOk : Bool}
    {i : Fin requestTrackerMax} (valid : (ctx.tracker i).valid = true)
    (freed : ((handleOneLine fd ctx line nowMs writeOk).ctx.tracker i).valid = false) :
    ∃ m, lineParse line = some m ∧ matchPending fd ctx m = some i ∧
      (0 ≤ (ctx.tracker i).clientFd → (handleOneLine fd ctx line nowMs writeOk).wrote =
        some ((ctx.tracker i).clientFd, lineText m ++ [10])) := by
  have same : (handleOneLine fd ctx line nowMs writeOk).ctx.tracker i ≠ ctx.tracker i := by
    intro same
    rw [same, valid] at freed
    cases freed
  have other : ∀ j, (ctx.tracker j).valid = false → i ≠ j := by
    rintro j free rfl
    cases free.symm.trans valid
  have step := handleOneLine_step fd ctx line nowMs writeOk
  generalize handleOneLine fd ctx line nowMs writeOk = result at step same ⊢
  cases step with
  | replied out => exact absurd (by rw [replyTo_ctx]) same
  | registered m =>
      obtain ⟨_, _, attached⟩ := handleRegister_ctx fd ctx m writeOk
      exact absurd (by rw [attached]) same
  | response m j parsed matched =>
      rcases handleResponse_cases ctx m j writeOk with gaveUp | finished
      · exact absurd (by rw [gaveUp]) same
      rw [finished] at same ⊢
      rw [finishResponse_tracker] at same
      have here : i = j := by
        by_contra other
        exact same (Function.update_of_ne other _ _)
      subst here
      exact ⟨m, parsed, matched, fun client => if_pos client⟩
  | recorded => exact absurd rfl same
  | ignored => exact absurd rfl same
  | crowdedOut => exact absurd rfl same
  | rolledBack m seq dev target j _ _ free =>
      exact absurd (Function.update_of_ne (other j free) _ _) same
  | forwarded m seq dev target j _ _ free =>
      exact absurd (Function.update_of_ne (other j free) _ _) same

/-- A line of a connection is served as it is handled, but for the controller links. -/
theorem serveLine_frame (fd : ℤ) (ctx : AppCtx δ) (line : Bytes) (nowMs : ℤ) (writeOk : Bool) :
    (serveLine fd ctx line nowMs writeOk).ctx.jobState =
        (handleOneLine fd ctx line nowMs writeOk).ctx.jobState ∧
      (serveLine fd ctx line nowMs writeOk).ctx.moduleRegistry =
        (handleOneLine fd ctx line nowMs writeOk).ctx.moduleRegistry := by
  rw [serveLine]
  split <;> exact ⟨rfl, rfl⟩

/-! ## The scheduler's turn -/

/-- The tick of the scheduler's turn. -/
def turnTick (ctx : AppCtx δ) (healthMs : ℤ) : TickResult :=
  schedulerTick (refreshModuleHealth ctx.moduleRegistry healthMs) (trackerHasPending ctx.tracker)
    ctx.nextSeq ctx.jobState

omit [CDouble δ] in
theorem trackerHasPending_eq_false {t : RequestTracker} :
    trackerHasPending t = false ↔ ∀ i, (t i).valid = false := by
  rw [trackerHasPending, List.any_eq_false]
  simp

/-- What a START of the scheduler goes with: a controller, no pending request, and a move of the job
that issues it. -/
structure StartsJob (ctx : AppCtx δ) (healthMs : ℤ) (dev : Int32) : Prop where
  attached : 0 ≤ ctx.pmcFd
  idle : ∀ i, (ctx.tracker i).valid = false
  action : (turnTick ctx healthMs).action = ⟨true, ctx.nextSeq, dev⟩
  move : JobMove (refreshModuleHealth ctx.moduleRegistry healthMs) ctx.jobState (some dev)
    (turnTick ctx healthMs).job

/-- The context after the tick of a turn. -/
def afterTick (ctx : AppCtx δ) (healthMs : ℤ) : AppCtx δ :=
  { ctx with
    moduleRegistry := refreshModuleHealth ctx.moduleRegistry healthMs
    nextSeq := (turnTick ctx healthMs).nextSeq
    jobState := (turnTick ctx healthMs).job }

/-- The branches of `run_scheduler`. -/
inductive SchedulerTurn (ctx : AppCtx δ) (healthMs createdMs : ℤ) (writeOk : Bool) :
    AppCtx δ × Option (ℤ × Bytes) → Prop where
  | detached : ctx.pmcFd < 0 → SchedulerTurn ctx healthMs createdMs writeOk
      ({ ctx with moduleRegistry := refreshModuleHealth ctx.moduleRegistry healthMs }, none)
  | ticked : 0 ≤ ctx.pmcFd → startOf (turnTick ctx healthMs).action = none →
      SchedulerTurn ctx healthMs createdMs writeOk (afterTick ctx healthMs, none)
  | unsent (dev : Int32) (i : Fin requestTrackerMax) : StartsJob ctx healthMs dev →
      writeOk = false → SchedulerTurn ctx healthMs createdMs writeOk
        ({ afterTick ctx healthMs with tracker := requestTrackerRemove ctx.tracker i }, none)
  | sent (dev : Int32) (i : Fin requestTrackerMax) : StartsJob ctx healthMs dev →
      writeOk = true → SchedulerTurn ctx healthMs createdMs writeOk
        ({ afterTick ctx healthMs with
            tracker := Function.update ctx.tracker i
              (schedulerSlot (turnTick ctx healthMs).action createdMs) },
          some (ctx.pmcFd, lineText (schedulerRequest (turnTick ctx healthMs).action : Message δ) ++
            [10]))

/-- The scheduler's START always fits into its buffer. -/
theorem sendLine_start (action : SchedulerAction) (writeOk : Bool) :
    sendLine (schedulerRequest action : Message δ) 256 writeOk =
      if writeOk then some (lineText (schedulerRequest action : Message δ) ++ [10]) else none := by
  have short : (lineText (schedulerRequest action : Message δ)).length ≤ 246 :=
    lineText_length_le rfl rfl rfl
  rw [sendLine, lineFormat_eq, if_neg (by omega)]

omit [CDouble δ] in
/-- A tick of an attached daemon that asks for a START starts a job. -/
theorem turnTick_start {ctx : AppCtx δ} {healthMs : ℤ} (attached : 0 ≤ ctx.pmcFd)
    (sends : (turnTick ctx healthMs).action.shouldSend = true) :
    StartsJob ctx healthMs (turnTick ctx healthMs).action.dev := by
  have start : startOf (turnTick ctx healthMs).action =
      some (turnTick ctx healthMs).action.dev := if_pos sends
  rcases schedulerTick_cases (refreshModuleHealth ctx.moduleRegistry healthMs)
    (trackerHasPending ctx.tracker) ctx.nextSeq ctx.jobState with ⟨quiet, _⟩ | ⟨free, _, _, move⟩
  · cases start.symm.trans quiet
  · have moves : JobMove _ ctx.jobState (startOf (turnTick ctx healthMs).action)
        (turnTick ctx healthMs).job := move
    rw [start] at moves
    refine ⟨attached, trackerHasPending_eq_false.mp free, ?_, moves⟩
    rcases schedulerTick_action (refreshModuleHealth ctx.moduleRegistry healthMs)
      (trackerHasPending ctx.tracker) ctx.nextSeq ctx.jobState with nothing | ⟨dev, same⟩
    · rw [turnTick, nothing] at sends
      cases sends
    · rw [turnTick, same]

/-- **Everything the scheduler's turn can do.** A START that is due finds a free slot. -/
theorem runScheduler_turn (ctx : AppCtx δ) (healthMs createdMs : ℤ) (writeOk : Bool) :
    SchedulerTurn ctx healthMs createdMs writeOk (runScheduler ctx healthMs createdMs writeOk) := by
  simp only [runScheduler, sendLine_start]
  by_cases lost : ctx.pmcFd < 0
  · rw [if_pos lost]
    exact .detached lost
  rw [if_neg lost, ← turnTick]
  cases sends : (turnTick ctx healthMs).action.shouldSend with
  | false => exact .ticked (not_lt.mp lost) (by rw [startOf, sends]; rfl)
  | true =>
  have starts := turnTick_start (not_lt.mp lost) sends
  cases alloc : requestTrackerAlloc ctx.tracker with
  | none => exact absurd alloc (requestTrackerAlloc_ne_none starts.idle)
  | some slot =>
  obtain ⟨_, same⟩ := requestTrackerAlloc_some (i := slot.1) alloc
  simp only [same, Function.update_idem, requestTrackerRemove]
  cases written : writeOk with
  | false => exact .unsent _ slot.1 starts rfl
  | true => exact .sent _ slot.1 starts rfl

/-- The scheduler's turn is due to send a START. -/
structure StartDue (ctx : AppCtx δ) (healthMs : ℤ) : Prop where
  attached : 0 ≤ ctx.pmcFd
  idle : ∀ i, (ctx.tracker i).valid = false
  preclean : isState ctx.moduleRegistry.pmcPreclean (ascii "FAULT") = false
  deposition : isState ctx.moduleRegistry.pmcDeposition (ascii "FAULT") = false
  ready : StartReady (refreshModuleHealth ctx.moduleRegistry healthMs) ctx.jobState

/-- The scheduler's turn sends a START exactly when one is due and can be written. -/
theorem runScheduler_sends_iff (ctx : AppCtx δ) (healthMs createdMs : ℤ) (writeOk : Bool) :
    (runScheduler ctx healthMs createdMs writeOk).2 ≠ none ↔
      writeOk = true ∧ StartDue ctx healthMs := by
  have issued := schedulerTick_start_iff (refreshModuleHealth ctx.moduleRegistry healthMs)
    (trackerHasPending ctx.tracker) ctx.nextSeq ctx.jobState
  rw [← turnTick, trackerHasPending_eq_false] at issued
  have turn := runScheduler_turn ctx healthMs createdMs writeOk
  generalize runScheduler ctx healthMs createdMs writeOk = after at turn ⊢
  cases turn with
  | detached lost =>
      refine iff_of_false (fun sends => sends rfl) ?_
      rintro ⟨_, due⟩
      exact absurd due.attached (not_le.mpr lost)
  | ticked _ quiet =>
      refine iff_of_false (fun sends => sends rfl) ?_
      rintro ⟨_, due⟩
      exact issued.mpr ⟨due.idle, due.preclean, due.deposition, due.ready⟩ quiet
  | unsent dev i _ failed =>
      refine iff_of_false (fun sends => sends rfl) ?_
      rintro ⟨written, _⟩
      cases failed.symm.trans written
  | sent dev i starts written =>
      refine iff_of_true (by simp) ⟨written, ?_⟩
      obtain ⟨idle, preclean, deposition, ready⟩ := issued.mp (by rw [startOf, starts.action]; simp)
      exact ⟨starts.attached, idle, preclean, deposition, ready⟩

/-- The scheduler's turn leaves the controller descriptors alone. -/
theorem runScheduler_fds (ctx : AppCtx δ) (healthMs createdMs : ℤ) (writeOk : Bool) :
    (runScheduler ctx healthMs createdMs writeOk).1.pmcFd = ctx.pmcFd ∧
      (runScheduler ctx healthMs createdMs writeOk).1.tmcFd = ctx.tmcFd := by
  have turn := runScheduler_turn ctx healthMs createdMs writeOk
  generalize runScheduler ctx healthMs createdMs writeOk = after at turn ⊢
  cases turn <;> exact ⟨rfl, rfl⟩

/-- What the scheduler's turn does to the tracker, with what it writes: nothing, a free slot
cleared, or a free slot taken for a START while nothing is pending. -/
inductive SchedulerStep (before : RequestTracker) (action : SchedulerAction) :
    RequestTracker → Option (ℤ × Bytes) → Prop where
  | same : SchedulerStep before action before none
  | freed (i : Fin requestTrackerMax) : (before i).valid = false →
      SchedulerStep before action (requestTrackerRemove before i) none
  | taken (i : Fin requestTrackerMax) (createdMs pmcFd : ℤ) (line : Bytes) :
      (before i).valid = false → trackerHasPending before = false →
      SchedulerStep before action (Function.update before i (schedulerSlot action createdMs))
        (some (pmcFd, line))

/-- A slot that is valid afterwards is unchanged, or has no client. -/
theorem SchedulerStep.slot {before after : RequestTracker} {action : SchedulerAction}
    {wrote : Option (ℤ × Bytes)} (step : SchedulerStep before action after wrote)
    {i : Fin requestTrackerMax} (valid : (after i).valid = true) :
    after i = before i ∨ (after i).clientFd = -1 := by
  cases step with
  | same => exact .inl rfl
  | freed j => exact .inl (requestTrackerRemove_valid valid).2
  | taken j createdMs pmcFd line free nothing =>
      by_cases here : i = j
      · subst here
        rw [Function.update_self]
        exact .inr rfl
      · exact .inl (Function.update_of_ne here _ _)

/-- **What the scheduler's turn can do to the tracker.** -/
theorem runScheduler_tracker (ctx : AppCtx δ) (healthMs createdMs : ℤ) (writeOk : Bool) :
    SchedulerStep ctx.tracker (schedulerAction ctx healthMs)
      (runScheduler ctx healthMs createdMs writeOk).1.tracker
      (runScheduler ctx healthMs createdMs writeOk).2 := by
  have turn := runScheduler_turn ctx healthMs createdMs writeOk
  generalize runScheduler ctx healthMs createdMs writeOk = after at turn ⊢
  cases turn with
  | detached => exact .same
  | ticked => exact .same
  | unsent dev i starts => exact .freed i (starts.idle i)
  | sent dev i starts =>
      exact .taken i createdMs ctx.pmcFd _ (starts.idle i)
        (trackerHasPending_eq_false.mpr starts.idle)

/-- A turn that writes starts a job. -/
theorem runScheduler_wrote {ctx : AppCtx δ} {healthMs createdMs : ℤ} {writeOk : Bool}
    (wrote : (runScheduler ctx healthMs createdMs writeOk).2 ≠ none) :
    ∃ dev, StartsJob ctx healthMs dev := by
  have turn := runScheduler_turn ctx healthMs createdMs writeOk
  generalize runScheduler ctx healthMs createdMs writeOk = after at turn wrote
  cases turn with
  | sent dev i starts => exact ⟨dev, starts⟩
  | _ => exact absurd rfl wrote

/-- A slot that is valid after the scheduler's turn is unchanged, or holds its START, which was
written. -/
theorem runScheduler_slot {ctx : AppCtx δ} {healthMs createdMs : ℤ} {writeOk : Bool}
    {i : Fin requestTrackerMax}
    (valid : ((runScheduler ctx healthMs createdMs writeOk).1.tracker i).valid = true) :
    (runScheduler ctx healthMs createdMs writeOk).1.tracker i = ctx.tracker i ∨
      ∃ dev, StartsJob ctx healthMs dev ∧
        (runScheduler ctx healthMs createdMs writeOk).1.tracker i =
          schedulerSlot ⟨true, ctx.nextSeq, dev⟩ createdMs ∧
        (runScheduler ctx healthMs createdMs writeOk).2 ≠ none := by
  have turn := runScheduler_turn ctx healthMs createdMs writeOk
  generalize runScheduler ctx healthMs createdMs writeOk = after at turn valid ⊢
  cases turn with
  | detached => exact .inl rfl
  | ticked => exact .inl rfl
  | unsent dev j => exact .inl (requestTrackerRemove_valid valid).2
  | sent dev j starts =>
      rw [starts.action]
      by_cases here : i = j
      · subst here
        exact .inr ⟨dev, starts, Function.update_self ..,
          Option.some_ne_none _⟩
      · exact .inl (Function.update_of_ne here _ _)

/-- The scheduler's turn frees no slot. -/
theorem runScheduler_kept {ctx : AppCtx δ} {i : Fin requestTrackerMax}
    (valid : (ctx.tracker i).valid = true) (healthMs createdMs : ℤ) (writeOk : Bool) :
    (runScheduler ctx healthMs createdMs writeOk).1.tracker i = ctx.tracker i := by
  have turn := runScheduler_turn ctx healthMs createdMs writeOk
  generalize runScheduler ctx healthMs createdMs writeOk = after at turn ⊢
  cases turn with
  | detached => rfl
  | ticked => rfl
  | unsent dev j starts => cases (starts.idle i).symm.trans valid
  | sent dev j starts => cases (starts.idle i).symm.trans valid

end Lines

end EquipmentControl
