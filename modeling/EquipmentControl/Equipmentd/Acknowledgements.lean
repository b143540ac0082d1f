import EquipmentControl.Equipmentd.ControlRuns
import EquipmentControl.Equipmentd.Relay

/-!
# Which answer changes the job

A positive answer to a STOP, a RESET or a FAULT moves the job, and one to a RESET clears the fault
latch of its module. equipmentd goes by the type it stored in the slot that the answer matches, and
answers are matched by sequence number and device alone.

The controllers answer every request once, in any order; writes may fail, requests time out and
connections end. An answer changes the job and the latches only for the request it answers, along
every run in which no request is sent while one of another type with the same sequence number and
device is open, where one of the two is a STOP, a RESET or a FAULT (`answers_steer_rightly`). In
`status_answer_stops` the answer to a STATUS stops the job.
-/

set_option autoImplicit false

namespace EquipmentControl

open InputMachine

/-- A request that a controller has yet to answer. -/
structure SentRequest where
  seq : UInt32
  dev : UInt32
  type : MsgType
deriving DecidableEq

def SentRequest.key (r : SentRequest) : UInt32 × UInt32 := (r.seq, r.dev)

/-- Anything that happens to the context, or the answer to a request on a connection. -/
inductive AnswerInput where
  | control (input : ControlInput)
  | answer (request : SentRequest) (fd : ℤ) (text : Bytes) (nowMs : ℤ) (writeOk : Bool)

/-- The types of request whose acknowledgement changes the job. -/
def Steering (type : MsgType) : Prop := type = .stop ∨ type = .reset ∨ type = .fault

instance (type : MsgType) : Decidable (Steering type) :=
  inferInstanceAs (Decidable (type = .stop ∨ type = .reset ∨ type = .fault))

/-- A slot whose request steers has the type of every unanswered request it can be matched by. -/
def SlotsAgree (t : RequestTracker) (requests : List SentRequest) : Prop :=
  ∀ request ∈ requests, ∀ i, (t i).valid = true → (t i).key = request.key →
    Steering (t i).type → (t i).type = request.type

section Acknowledgements

variable {δ : Type}

/-- The answer of a controller to a request: a positive one repeats the type of the request, a
negative one is an ERROR. -/
structure Answers (request : SentRequest) (m : Message δ) : Prop where
  role : m.role = .resp
  seq : m.seq = some request.seq
  dev : m.dev = some request.dev
  outcome : m.type = request.type ∧ m.ok = some 1 ∨ m.type = .error ∧ m.ok = some 0

/-- The request that a response answers positively. -/
def acknowledged (request : SentRequest) (m : Message δ) : Option SentRequest :=
  if m.type ≠ .error ∧ m.ok = some 1 then some request else none

theorem eq_of_acknowledged {request r : SentRequest} {m : Message δ}
    (acked : r ∈ acknowledged request m) : r = request := by
  rw [acknowledged] at acked
  split at acked
  · exact (Option.some.inj acked).symm
  · cases acked

/-- The job and the latches change only for the acknowledged request. -/
structure SteersFor (before after : AppCtx δ) (acked : Option SentRequest) : Prop where
  stopped : after.jobState = .stopped → before.jobState = .stopped ∨ ∃ r ∈ acked, r.type = .stop
  idle : after.jobState = .idle → before.jobState = .idle ∨ ∃ r ∈ acked, r.type = .reset
  error : after.jobState = .error → before.jobState = .error ∨ ∃ r ∈ acked, r.type = .fault
  latch : ∀ id, (before.moduleRegistry.get id).faultLatched = true →
    (after.moduleRegistry.get id).faultLatched = true ∨
      ∃ r ∈ acked, r.type = .reset ∧ r.dev = id.devId

/-- The request of a slot. -/
def PendingRequest.request (slot : PendingRequest) : SentRequest := ⟨slot.seq, slot.dev, slot.type⟩

theorem SteersFor.of_same {before after : AppCtx δ} (job : after.jobState = before.jobState)
    (registry : after.moduleRegistry = before.moduleRegistry) (acked : Option SentRequest) :
    SteersFor before after acked where
  stopped now := .inl (job.symm.trans now)
  idle now := .inl (job.symm.trans now)
  error now := .inl (job.symm.trans now)
  latch id latched := .inl (by rw [registry]; exact latched)

/-- The end of a response changes the job and the latches for the request of its slot. -/
theorem finishResponse_steers (ctx : AppCtx δ) (m : Message δ) (i : Fin requestTrackerMax) :
    SteersFor ctx (finishResponse ctx m i) (acknowledged (ctx.tracker i).request m) := by
  rw [acknowledged]
  by_cases positive : m.type ≠ .error ∧ m.ok = some 1
  · have job : (finishResponse ctx m i).jobState = ackedJob (ctx.tracker i).type ctx.jobState := by
      rw [finishResponse, if_pos positive]
      rfl
    rw [if_pos positive]
    constructor
    case latch =>
      intro id latched
      refine (finishResponse_latch latched m i).imp_right ?_
      rintro ⟨isReset, dev, _⟩
      exact ⟨_, rfl, isReset, dev⟩
    all_goals
      intro now
      rw [job] at now
      cases type : (ctx.tracker i).type <;> rw [type] at now
      all_goals first
        | exact .inl now
        | exact .inr ⟨_, rfl, type⟩
        | cases now
  · rw [if_neg positive, finishResponse, if_neg positive]
    exact SteersFor.of_same (by rfl) (by rfl) _

/-- What is changed for the request of a slot is changed for a request the slot agrees with. -/
theorem SteersFor.agree {before after : AppCtx δ} {m : Message δ} {slot : PendingRequest}
    {request : SentRequest} (steers : SteersFor before after (acknowledged slot.request m))
    (dev : slot.dev = request.dev) (agrees : Steering slot.type → slot.type = request.type) :
    SteersFor before after (acknowledged request m) := by
  rw [acknowledged] at steers ⊢
  split at steers
  · rename_i positive
    rw [if_pos positive]
    have typed : ∀ type, Steering type → (∃ r ∈ some slot.request, r.type = type) →
        ∃ r ∈ some request, r.type = type := by
      rintro type steering ⟨r, slotRequest, rfl⟩
      cases slotRequest
      exact ⟨request, rfl, (agrees steering).symm⟩
    refine ⟨fun now => (steers.stopped now).imp_right (typed _ (.inl rfl)),
      fun now => (steers.idle now).imp_right (typed _ (.inr (.inl rfl))),
      fun now => (steers.error now).imp_right (typed _ (.inr (.inr rfl))), ?_⟩
    intro id latched
    refine (steers.latch id latched).imp_right ?_
    rintro ⟨r, slotRequest, isReset, same⟩
    cases slotRequest
    have type : slot.type = request.type := agrees (.inr (.inl isReset))
    exact ⟨request, rfl, type.symm.trans isReset, dev.symm.trans same⟩
  · rename_i negative
    rw [if_neg negative]
    exact steers

variable [CDouble δ]

/-- The request that a step sends to a controller. -/
def sentRequest (ctx : AppCtx δ) : ControlInput → Option SentRequest
  | .line fd text nowMs writeOk =>
      if (serveLine fd ctx text nowMs writeOk).wrote = none then none
      else
        match (lineParse text : Option (Message δ)), forwardedLine fd ctx text with
        | some m, some request => some ⟨request.seq, request.dev, m.type⟩
        | _, _ => none
  | .runScheduler healthMs createdMs writeOk =>
      (runScheduler ctx healthMs createdMs writeOk).2.map fun _ =>
        ⟨(schedulerAction ctx healthMs).seq, (schedulerAction ctx healthMs).dev.toUInt32, .start⟩
  | _ => none

/-- The requests that are sent and not answered yet. -/
def noteSent (ctx : AppCtx δ) (input : AnswerInput) (waiting : List SentRequest) :
    List SentRequest :=
  match input with
  | .control input => (sentRequest ctx input).toList ++ waiting
  | .answer request .. => waiting.erase request

def AnswerInput.toControl : AnswerInput → ControlInput
  | .control input => input
  | .answer _ fd text nowMs writeOk => .line fd text nowMs writeOk

/-- The context and the requests not answered yet. -/
def answerMachine : Machine (AppCtx δ × List SentRequest) AnswerInput (Option (ℤ × Bytes)) :=
  Machine.withRecord { step := fun ctx input => controlMachine.step ctx input.toControl } noteSent

/-- What is assumed of the controllers: they respond only to requests not answered yet. -/
def AnswersOnce (s : AppCtx δ × List SentRequest) : AnswerInput → Prop
  | .control (.line fd text _ _) => isControllerFd s.1 fd = true →
      ∀ m ∈ (lineParse text : Option (Message δ)), m.role ≠ .resp
  | .control _ => True
  | .answer request _ text _ _ => request ∈ s.2 ∧
      ∃ m ∈ (lineParse text : Option (Message δ)), Answers request m

/-- No line sends a request with the sequence number and device of an open one of another type,
where one of the two steers. -/
def NoTypeClash (s : AppCtx δ × List SentRequest) : AnswerInput → Prop
  | .control (.line fd text nowMs writeOk) =>
      ∀ request ∈ sentRequest s.1 (.line fd text nowMs writeOk),
        (∀ i, (s.1.tracker i).valid = true → (s.1.tracker i).key = request.key →
          Steering (s.1.tracker i).type → (s.1.tracker i).type = request.type) ∧
        (Steering request.type → ∀ other ∈ s.2, other.key = request.key →
          other.type = request.type)
  | _ => True

/-- Handling a response changes the job and the latches only for the request it positively
answers. -/
def SteersRightly (s : AppCtx δ × List SentRequest) : AnswerInput → Prop
  | .control (.line fd text nowMs writeOk) =>
      (∃ m ∈ (lineParse text : Option (Message δ)), m.role = .resp) →
        SteersFor s.1 (serveLine fd s.1 text nowMs writeOk).ctx none
  | .control _ => True
  | .answer request fd text nowMs writeOk => ∀ m ∈ (lineParse text : Option (Message δ)),
      SteersFor s.1 (serveLine fd s.1 text nowMs writeOk).ctx (acknowledged request m)

/-! ## One step -/

/-- A request the router forwards and that is written is the request the line sends. -/
theorem sentRequest_of_forwardable {fd : ℤ} {ctx : AppCtx δ} {text : Bytes} {m : Message δ}
    {seq dev : UInt32} {target nowMs : ℤ} {writeOk : Bool} (parsed : lineParse text = some m)
    (forwardable : Forwardable ctx m seq dev target)
    (written : (handleOneLine fd ctx text nowMs writeOk).wrote ≠ none) :
    sentRequest ctx (.line fd text nowMs writeOk) = some ⟨seq, dev, m.type⟩ := by
  have routed : (routerHandle ctx.moduleRegistry ctx.pmcFd ctx.tmcFd 0 m).2 = .forward := by
    have noPing : m.type ≠ .ping := by
      intro ping
      exact absurd forwardable.type (by rw [ping]; decide)
    simp [routerHandle, handleReq, forwardable.role, forwardable.hasSeq, noPing, forwardable.type,
      forwardable.hasDev, forwardable.controller]
  have noRegister : isRegister m = false := by
    have other : m.type ≠ .register := by
      intro register
      exact absurd forwardable.type (by rw [register]; decide)
    simp [isRegister, other]
  have unmatched : matchPending fd ctx m = none := by
    simp [matchPending, forwardable.role]
  have forwarded : forwardedLine fd ctx text =
      some ⟨some fd, seq, dev, resolveTargetFd ctx dev⟩ := by
    simp only [forwardedLine, parsed, noRegister, unmatched, routed, forwardable.hasSeq,
      forwardable.hasDev, Bool.false_eq_true, if_false]
  rw [← serveLine_wrote] at written
  simp only [sentRequest, if_neg written, parsed, forwarded]

/-- A line that sends no request and the answers keep the slots in agreement. -/
theorem SlotsAgree.sublist {t after : RequestTracker} {requests rest : List SentRequest}
    (agree : SlotsAgree t requests) (fewer : rest.Sublist requests)
    (same : ∀ i, (after i).valid = true → after i = t i) : SlotsAgree after rest := by
  intro request member i valid
  have unchanged := same i valid
  rw [unchanged] at valid ⊢
  exact agree request (fewer.subset member) i valid

/-- A line keeps the slots in agreement with the requests, its own among them. -/
theorem serveLine_agree {s : AppCtx δ × List SentRequest} (agree : SlotsAgree s.1.tracker s.2)
    {fd : ℤ} {text : Bytes} {nowMs : ℤ} {writeOk : Bool}
    (fresh : NoTypeClash s (.control (.line fd text nowMs writeOk))) :
    SlotsAgree (serveLine fd s.1 text nowMs writeOk).ctx.tracker
      ((sentRequest s.1 (.line fd text nowMs writeOk)).toList ++ s.2) := by
  rw [serveLine_tracker]
  intro request member i valid key steering
  rcases handleOneLine_slot valid with same | ⟨m, seq, dev, _, parsed, forwardable, _, taken, written⟩
  · -- The slot was there before the line.
    rw [same] at valid key steering ⊢
    rcases List.mem_append.mp member with own | old
    · exact (fresh request (Option.mem_toList.mp own)).1 i valid key steering
    · exact agree request old i valid key steering
  · -- The slot was taken for the request of the line.
    have sent := sentRequest_of_forwardable parsed forwardable written
    rw [taken] at key steering ⊢
    rcases List.mem_append.mp member with own | old
    · cases sent.symm.trans (Option.mem_toList.mp own)
      rfl
    · exact ((fresh _ sent).2 steering request old key.symm).symm

/-- A response keeps the slots in agreement with what is left of the requests. -/
theorem serveLine_answered {s : AppCtx δ × List SentRequest} (agree : SlotsAgree s.1.tracker s.2)
    {fd : ℤ} {text : Bytes} {m : Message δ} (parsed : lineParse text = some m)
    (role : m.role = .resp) (nowMs : ℤ) (writeOk : Bool) (request : SentRequest) :
    SlotsAgree (serveLine fd s.1 text nowMs writeOk).ctx.tracker (s.2.erase request) := by
  rw [serveLine_tracker]
  refine agree.sublist List.erase_sublist fun i valid => ?_
  rcases handleOneLine_slot valid with same | ⟨other, _, _, _, otherParsed, forwardable, _⟩
  · exact same
  · cases parsed.symm.trans otherParsed
    cases role.symm.trans forwardable.role

/-- The scheduler's turn keeps the slots in agreement: a START does not steer, and no other slot is
taken when it is sent. -/
theorem runScheduler_agree {s : AppCtx δ × List SentRequest} (agree : SlotsAgree s.1.tracker s.2)
    (healthMs createdMs : ℤ) (writeOk : Bool) :
    SlotsAgree (runScheduler s.1 healthMs createdMs writeOk).1.tracker
      ((sentRequest s.1 (.runScheduler healthMs createdMs writeOk)).toList ++ s.2) := by
  intro request member i valid key steering
  rcases runScheduler_slot valid with same | ⟨dev, starts, taken, _⟩
  · rw [same] at valid key steering ⊢
    rcases List.mem_append.mp member with own | old
    · obtain ⟨wrote, written, _⟩ := Option.map_eq_some_iff.mp (Option.mem_toList.mp own)
      obtain ⟨dev, starts⟩ := runScheduler_wrote (by rw [written]; exact Option.some_ne_none wrote)
      cases (starts.idle i).symm.trans valid
    · exact agree request old i valid key steering
  · rw [taken] at steering
    exact absurd (show Steering .start from steering) (by decide)

/-- What a response changes, it changes as the response of the slot it matches. -/
theorem serveLine_steers {fd : ℤ} {ctx : AppCtx δ} {text : Bytes} {m : Message δ}
    (parsed : lineParse text = some m) (role : m.role = .resp) (nowMs : ℤ) (writeOk : Bool)
    {acked : Option SentRequest}
    (matched : ∀ i, matchPending fd ctx m = some i → SteersFor ctx (finishResponse ctx m i) acked) :
    SteersFor ctx (serveLine fd ctx text nowMs writeOk).ctx acked := by
  obtain ⟨job, registry⟩ := serveLine_frame fd ctx text nowMs writeOk
  suffices steers : SteersFor ctx (handleOneLine fd ctx text nowMs writeOk).ctx acked by
    exact ⟨by rw [job]; exact steers.stopped, by rw [job]; exact steers.idle,
      by rw [job]; exact steers.error, by rw [registry]; exact steers.latch⟩
  cases found : matchPending fd ctx m with
  | some i =>
      rw [handleOneLine_matched parsed found]
      rcases handleResponse_ctx ctx m i writeOk with ⟨_, same⟩ | finished
      · rw [same]
        exact .of_same rfl rfl _
      · rw [finished]
        exact matched i found
  | none =>
      have routed : routerHandle ctx.moduleRegistry ctx.pmcFd ctx.tmcFd nowMs m =
          (ctx.moduleRegistry, .noResponse) := by rw [routerHandle, role]
      simp only [handleOneLine, parsed, isRegister_of_resp role, Bool.false_eq_true, if_false,
        found, routed]
      exact .of_same rfl rfl _

/-- **One step** keeps the slots in agreement, and a response steers rightly. -/
theorem answerMachine_agree (s : AppCtx δ × List SentRequest) (input : AnswerInput)
    (agree : SlotsAgree s.1.tracker s.2) (allowed : AnswersOnce s input)
    (fresh : NoTypeClash s input) :
    SlotsAgree (answerMachine.step s input).1.1.tracker (answerMachine.step s input).1.2 ∧
      SteersRightly s input := by
  cases input with
  | answer request fd text nowMs writeOk =>
      obtain ⟨waits, m, parsed, answers⟩ := allowed
      refine ⟨serveLine_answered agree parsed answers.role nowMs writeOk request, ?_⟩
      intro other otherParsed
      cases parsed.symm.trans otherParsed
      refine serveLine_steers parsed answers.role nowMs writeOk fun i matched => ?_
      obtain ⟨_, _, seq, dev, hasSeq, hasDev, found⟩ := matchPending_some matched
      obtain ⟨valid, rfl, rfl⟩ := requestTrackerFind_some found
      have sameSeq := Option.some.inj (hasSeq.symm.trans answers.seq)
      have sameDev := Option.some.inj (hasDev.symm.trans answers.dev)
      exact (finishResponse_steers s.1 m i).agree sameDev
        (agree request waits i valid (Prod.ext sameSeq sameDev))
  | control input =>
  cases input with
  | line fd text nowMs writeOk =>
      refine ⟨serveLine_agree agree fresh, ?_⟩
      rintro ⟨m, parsed, role⟩
      refine serveLine_steers parsed role nowMs writeOk fun i matched => ?_
      obtain ⟨controller, _⟩ := matchPending_some matched
      exact absurd role (allowed controller m parsed)
  | runScheduler healthMs createdMs writeOk =>
      exact ⟨runScheduler_agree agree healthMs createdMs writeOk, trivial⟩
  | sweepRequests nowMs =>
      exact ⟨agree.sublist (List.Sublist.refl _) fun i => requestTrackerSweep_valid, trivial⟩
  | dropLinks fd => exact ⟨agree, trivial⟩

/-- **Every answer changes the job and the latches only for the request it positively answers**,
along every run in which no line sends a request that clashes in its type with an open one. -/
theorem answers_steer_rightly (ctx : AppCtx δ) (inputs : List AnswerInput)
    (along : answerMachine.Along (fun s input => AnswersOnce s input ∧ NoTypeClash s input)
      (ctx, []) inputs) : answerMachine.Along SteersRightly (ctx, []) inputs := by
  refine Machine.along_of_invariant (I := fun s => SlotsAgree s.1.tracker s.2) ?_ ?_ ?_ along
  · intro s input agree holds
    exact (answerMachine_agree s input agree holds.1 holds.2).1
  · intro s input agree holds
    exact (answerMachine_agree s input agree holds.1 holds.2).2
  · intro request member
    cases member

instance (request : SentRequest) (m : Message δ) : Decidable (Answers request m) :=
  decidable_of_iff (m.role = .resp ∧ m.seq = some request.seq ∧ m.dev = some request.dev ∧
      (m.type = request.type ∧ m.ok = some 1 ∨ m.type = .error ∧ m.ok = some 0))
    ⟨fun ⟨role, seq, dev, outcome⟩ => ⟨role, seq, dev, outcome⟩,
      fun ⟨role, seq, dev, outcome⟩ => ⟨role, seq, dev, outcome⟩⟩

instance decidableAnswersOnce (s : AppCtx δ × List SentRequest) :
    ∀ input, Decidable (AnswersOnce s input)
  | .control (.line fd text _ _) => inferInstanceAs (Decidable (isControllerFd s.1 fd = true →
      ∀ m ∈ (lineParse text : Option (Message δ)), m.role ≠ .resp))
  | .answer request _ text _ _ => inferInstanceAs (Decidable (request ∈ s.2 ∧
      ∃ m ∈ (lineParse text : Option (Message δ)), Answers request m))
  | .control (.runScheduler ..) | .control (.sweepRequests _) | .control (.dropLinks _) =>
      isTrue trivial

instance decidableNoTypeClash (s : AppCtx δ × List SentRequest) :
    ∀ input, Decidable (NoTypeClash s input)
  | .control (.line fd text nowMs writeOk) => inferInstanceAs (Decidable (
      ∀ request ∈ sentRequest s.1 (.line fd text nowMs writeOk),
        (∀ i, (s.1.tracker i).valid = true → (s.1.tracker i).key = request.key →
          Steering (s.1.tracker i).type → (s.1.tracker i).type = request.type) ∧
        (Steering request.type → ∀ other ∈ s.2, other.key = request.key →
          other.type = request.type)))
  | .control (.runScheduler ..) | .control (.sweepRequests _) | .control (.dropLinks _)
  | .answer .. => isTrue trivial

end Acknowledgements

/-- A process controller on descriptor 5, a client on 7 that asks for a STOP, and one on 8 that asks
for the status, with the given sequence numbers. -/
def stopAndStatus (stop status : String) : List AnswerInput :=
  [.control (.line 5 (ascii "REQ REGISTER seq=1\n") 0 true),
    .control (.line 7 (ascii s!"REQ STOP dev=1 seq={stop}\n") 1 true),
    .control (.line 8 (ascii s!"REQ STATUS dev=1 seq={status}\n") 2 true)]

/-- With different numbers each answer changes what it should, the later request answered first. -/
theorem answers_steer_rightly_two :
    answerMachine.Along SteersRightly (freshCtx, []) (stopAndStatus "3" "4" ++
      [.answer ⟨4, 1, .status⟩ 5 (ascii "RESP STATUS dev=1 seq=4 ok=1\n") 3 true,
        .answer ⟨3, 1, .stop⟩ 5 (ascii "RESP STOP dev=1 seq=3 ok=1\n") 4 true]) :=
  answers_steer_rightly freshCtx _ (by decide)

/-- With the same number the answer to the STATUS stops the job. -/
theorem status_answer_stops :
    let answered := [.answer ⟨3, 1, .status⟩ 5 (ascii "RESP STATUS dev=1 seq=3 ok=1\n") 3 true]
    answerMachine.Along AnswersOnce (freshCtx, []) (stopAndStatus "3" "3" ++ answered) ∧
      (answerMachine.run (freshCtx, []) (stopAndStatus "3" "3" ++ answered)).1.jobState = .stopped ∧
      ¬ answerMachine.Along SteersRightly (freshCtx, []) (stopAndStatus "3" "3" ++ answered) := by
  refine ⟨by decide, by decide, fun along => ?_⟩
  obtain ⟨_, steers, _⟩ := Machine.along_append.mp along
  rcases (steers _ (by rfl)).stopped (by decide) with before | ⟨r, answered, isStop⟩
  · exact absurd before (by decide)
  · rw [eq_of_acknowledged answered] at isStop
    cases isStop

end EquipmentControl
