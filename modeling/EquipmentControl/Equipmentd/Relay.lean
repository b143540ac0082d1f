import EquipmentControl.Equipmentd.LineSteps
import EquipmentControl.Library.Machine

/-!
# Whose answer is relayed to whom

Client connections and the scheduler send requests, and the controllers answer every forwarded
request once, in any order, repeating its sequence number and device. No write fails, no
connection ends and nothing times out.

The tracker finds the request of an answer by sequence number and device alone. Every answer
reaches its client along every run in which no request is forwarded while another requester's with
the same sequence number and device is pending (`answers_reach_clients`). Clients number their
requests themselves, and `crossed_answers` is a run in which two of them chose the same number.
-/

set_option autoImplicit false

namespace EquipmentControl

open InputMachine

/-- A request a controller has yet to answer. Those of the scheduler have no client. -/
structure ForwardedRequest where
  client : Option ℤ
  seq : UInt32
  dev : UInt32
  target : ℤ
deriving DecidableEq

/-- What a response is matched by. -/
def ForwardedRequest.key (r : ForwardedRequest) : UInt32 × UInt32 := (r.seq, r.dev)

def PendingRequest.key (r : PendingRequest) : UInt32 × UInt32 := (r.seq, r.dev)

/-- A line from a connection, the scheduler's turn, or the answer to a forwarded request. -/
inductive RelayInput where
  | line (fd : ℤ) (text : Bytes) (nowMs : ℤ)
  | runScheduler (healthMs createdMs : ℤ)
  | answer (request : ForwardedRequest) (text : Bytes) (nowMs : ℤ)

/-! ## Requests and their slots -/

/-- A valid slot with the key of a request not answered yet names the client of that request, if
it names one at all. -/
def Tracked (t : RequestTracker) (requests : List ForwardedRequest) : Prop :=
  ∀ request ∈ requests, ∀ i, (t i).valid = true → (t i).key = request.key → 0 ≤ (t i).clientFd →
    request.client = some (t i).clientFd

namespace Tracked

variable {t : RequestTracker} {requests : List ForwardedRequest} {request : ForwardedRequest}
  {i : Fin requestTrackerMax}

/-- A slot is taken for a request, with whose key there is no request and no slot of another
client. -/
theorem take (tracked : Tracked t requests) {taken : PendingRequest}
    (client : 0 ≤ taken.clientFd → request.client = some taken.clientFd)
    (slots : ∀ j, (t j).valid = true → (t j).key = request.key → 0 ≤ (t j).clientFd →
      request.client = some (t j).clientFd)
    (others : ∀ other ∈ requests, taken.key = other.key → 0 ≤ taken.clientFd →
      other.client = some taken.clientFd) :
    Tracked (Function.update t i taken) (request :: requests) := by
  intro other member j valid key there
  by_cases here : j = i
  · subst here
    rw [Function.update_self] at key there ⊢
    rcases List.mem_cons.mp member with rfl | old
    · exact client there
    · exact others other old key there
  · rw [Function.update_of_ne here] at valid key there ⊢
    rcases List.mem_cons.mp member with rfl | old
    · exact slots j valid key there
    · exact tracked other old j valid key there

/-- A slot is freed. -/
theorem free (tracked : Tracked t requests) : Tracked (requestTrackerRemove t i) requests := by
  intro request member j valid
  have same := (requestTrackerRemove_valid valid).2
  rw [same] at valid ⊢
  exact tracked request member j valid

/-- A request is answered. -/
theorem answered (tracked : Tracked t requests) : Tracked t (requests.erase request) := by
  intro other member
  exact tracked other (List.mem_of_mem_erase member)

end Tracked

section Relay

variable {δ : Type} [CDouble δ]

/-- The request a line makes `handle_one_line` forward. -/
def forwardedLine (fd : ℤ) (ctx : AppCtx δ) (text : Bytes) : Option ForwardedRequest :=
  match (lineParse text : Option (Message δ)) with
  | none => none
  | some m =>
      if isRegister m then none
      else
        match matchPending fd ctx m with
        | some _ => none
        | none =>
            match (routerHandle ctx.moduleRegistry ctx.pmcFd ctx.tmcFd 0 m).2, m.seq, m.dev with
            | .forward, some seq, some dev => some ⟨some fd, seq, dev, resolveTargetFd ctx dev⟩
            | _, _, _ => none

/-- The request of the scheduler's turn. -/
def scheduledRequest (ctx : AppCtx δ) (healthMs createdMs : ℤ) : Option ForwardedRequest :=
  (runScheduler ctx healthMs createdMs true).2.map fun wrote =>
    ⟨none, (schedulerAction ctx healthMs).seq, (schedulerAction ctx healthMs).dev.toUInt32, wrote.1⟩

/-- The requests that are forwarded and not answered yet. -/
def noteForwarded (ctx : AppCtx δ) (input : RelayInput) (waiting : List ForwardedRequest) :
    List ForwardedRequest :=
  match input with
  | .line fd text _ => (forwardedLine fd ctx text).toList ++ waiting
  | .runScheduler healthMs createdMs => (scheduledRequest ctx healthMs createdMs).toList ++ waiting
  | .answer request _ _ => waiting.erase request

/-- The context and the requests not answered yet. Outputs are the descriptors and lines
written. -/
def relayMachine : Machine (AppCtx δ × List ForwardedRequest) RelayInput (Option (ℤ × Bytes)) :=
  Machine.withRecord
    { step := fun ctx input =>
        match input with
        | .line fd text nowMs =>
            let result := handleOneLine fd ctx text nowMs true
            (result.ctx, result.wrote)
        | .runScheduler healthMs createdMs => runScheduler ctx healthMs createdMs true
        | .answer request text nowMs =>
            let result := handleOneLine request.target ctx text nowMs true
            (result.ctx, result.wrote) }
    noteForwarded

/-- What is assumed of the connections and the controllers: no connection is given up, and a
controller responds only to a request not answered yet, repeating its sequence number and
device. -/
def Environment (s : AppCtx δ × List ForwardedRequest) : RelayInput → Prop
  | .line fd text _ => givesUp fd s.1 text true = false ∧
      (isControllerFd s.1 fd = true →
        ∀ m ∈ (lineParse text : Option (Message δ)), m.role ≠ .resp)
  | .runScheduler _ _ => True
  | .answer request text _ => request ∈ s.2 ∧ givesUp request.target s.1 text true = false ∧
      ∃ m ∈ (lineParse text : Option (Message δ)), m.role = .resp ∧ m.seq = some request.seq ∧
        m.dev = some request.dev

/-- No line makes a request with the sequence number and device of a pending one of another
client or of the scheduler. -/
def NoClash (s : AppCtx δ × List ForwardedRequest) : RelayInput → Prop
  | .line fd text _ => ∀ request ∈ forwardedLine fd s.1 text,
      (∀ i, (s.1.tracker i).valid = true → (s.1.tracker i).key = request.key →
        0 ≤ (s.1.tracker i).clientFd → (s.1.tracker i).clientFd = fd) ∧
      ∀ other ∈ s.2, other.key = request.key → other.client = some fd
  | _ => True

/-- What is written for an answer is written to the client of its request; for a request of the
scheduler nothing is written. -/
def AnswersClient (s : AppCtx δ × List ForwardedRequest) (input : RelayInput) : Prop :=
  match input with
  | .answer request _ _ => ∀ wrote ∈ (relayMachine.step s input).2, request.client = some wrote.1
  | _ => True

instance decidableEnvironment (s : AppCtx δ × List ForwardedRequest) :
    ∀ input, Decidable (Environment s input)
  | .line fd text _ => inferInstanceAs (Decidable (givesUp fd s.1 text true = false ∧
      (isControllerFd s.1 fd = true →
        ∀ m ∈ (lineParse text : Option (Message δ)), m.role ≠ .resp)))
  | .runScheduler _ _ => isTrue trivial
  | .answer request text _ => inferInstanceAs (Decidable (request ∈ s.2 ∧
      givesUp request.target s.1 text true = false ∧
        ∃ m ∈ (lineParse text : Option (Message δ)), m.role = .resp ∧ m.seq = some request.seq ∧
          m.dev = some request.dev))

instance decidableNoClash (s : AppCtx δ × List ForwardedRequest) :
    ∀ input, Decidable (NoClash s input)
  | .line fd text _ => inferInstanceAs (Decidable (∀ request ∈ forwardedLine fd s.1 text,
      (∀ i, (s.1.tracker i).valid = true → (s.1.tracker i).key = request.key →
        0 ≤ (s.1.tracker i).clientFd → (s.1.tracker i).clientFd = fd) ∧
      ∀ other ∈ s.2, other.key = request.key → other.client = some fd))
  | .runScheduler _ _ | .answer .. => isTrue trivial

instance decidableAnswersClient (s : AppCtx δ × List ForwardedRequest) :
    ∀ input, Decidable (AnswersClient s input)
  | .answer request text nowMs => inferInstanceAs (Decidable (∀ wrote ∈
      (relayMachine.step s (.answer request text nowMs)).2, request.client = some wrote.1))
  | .line .. | .runScheduler _ _ => isTrue trivial

/-! ## One input -/

/-- A line that forwards a request takes a free slot for it. -/
theorem handleOneLine_forwarded {fd : ℤ} {ctx : AppCtx δ} {text : Bytes}
    {request : ForwardedRequest} (forwarded : forwardedLine fd ctx text = some request)
    (kept : givesUp fd ctx text true = false) (nowMs : ℤ) :
    request.client = some fd ∧ ∃ i type, (ctx.tracker i).valid = false ∧
      (handleOneLine fd ctx text nowMs true).ctx.tracker =
        Function.update ctx.tracker i (clientRequest fd request.seq request.dev type nowMs) := by
  rw [forwardedLine] at forwarded
  rw [givesUp] at kept
  cases parsed : (lineParse text : Option (Message δ)) with
  | none =>
      rw [parsed] at forwarded
      cases forwarded
  | some m =>
  simp only [parsed] at forwarded kept
  split at forwarded
  · cases forwarded
  rename_i noRegister
  rw [if_neg noRegister] at kept
  split at forwarded
  · cases forwarded
  rename_i unmatched
  simp only [unmatched] at kept
  split at forwarded
  · rename_i seq dev routed hasSeq hasDev
    cases forwarded
    simp only [routed, Bool.or_eq_false_iff, Option.isNone_eq_false_iff] at kept
    obtain ⟨room, fits⟩ := kept
    obtain ⟨⟨i, allocated⟩, alloc⟩ := Option.isSome_iff_exists.mp room
    obtain ⟨_, _, _, _, target, known, resolved⟩ := routerHandle_forward routed
    rw [hasDev] at known
    cases known
    obtain ⟨same, there⟩ := resolveTargetFd_of_controller hasDev resolved
    refine ⟨rfl, i, m.type, (requestTrackerAlloc_some alloc).1, ?_⟩
    simp only [handleOneLine, parsed, if_neg noRegister, unmatched,
      routerHandle_result _ _ _ nowMs 0, routed]
    exact forwardRequest_taken fd nowMs hasSeq hasDev same there alloc fits
  · cases forwarded

/-- A line that neither forwards a request nor answers one leaves the tracker alone. -/
theorem handleOneLine_unforwarded {fd : ℤ} {ctx : AppCtx δ} {text : Bytes}
    (unforwarded : forwardedLine fd ctx text = none)
    (unmatched : ∀ m ∈ (lineParse text : Option (Message δ)), matchPending fd ctx m = none)
    (nowMs : ℤ) (writeOk : Bool) :
    (handleOneLine fd ctx text nowMs writeOk).ctx.tracker = ctx.tracker := by
  rw [forwardedLine] at unforwarded
  rw [handleOneLine]
  cases parsed : (lineParse text : Option (Message δ)) with
  | none => exact congrArg AppCtx.tracker (replyTo_ctx fd ctx _ writeOk)
  | some m =>
  simp only [parsed, unmatched m parsed] at unforwarded ⊢
  split
  · obtain ⟨_, _, attached⟩ := handleRegister_ctx fd ctx m writeOk
    rw [attached]
  rename_i noRegister
  rw [if_neg noRegister] at unforwarded
  simp only [routerHandle_result _ _ _ nowMs 0]
  cases routed : (routerHandle ctx.moduleRegistry ctx.pmcFd ctx.tmcFd 0 m).2 with
  | noResponse => rfl
  | respond out => rw [replyTo_ctx]
  | forward =>
      obtain ⟨_, _, ⟨seq, hasSeq⟩, dev, _, hasDev, _⟩ := routerHandle_forward routed
      simp only [routed, hasSeq, hasDev] at unforwarded
      cases unforwarded

/-- A response that matches no slot does nothing to the tracker and writes nothing. -/
theorem handleOneLine_unmatched {fd : ℤ} {ctx : AppCtx δ} {text : Bytes} {m : Message δ}
    (parsed : lineParse text = some m) (role : m.role = .resp)
    (unmatched : matchPending fd ctx m = none) (nowMs : ℤ) (writeOk : Bool) :
    (handleOneLine fd ctx text nowMs writeOk).ctx.tracker = ctx.tracker ∧
      (handleOneLine fd ctx text nowMs writeOk).wrote = none := by
  have routed : (routerHandle ctx.moduleRegistry ctx.pmcFd ctx.tmcFd nowMs m) =
      (ctx.moduleRegistry, .noResponse) := by rw [routerHandle, role]
  simp only [handleOneLine, parsed, isRegister_of_resp role, Bool.false_eq_true, if_false,
    unmatched, routed, and_self]

/-- **The answer to an open request** goes to its client, and its slot is freed. -/
theorem handleOneLine_answer {ctx : AppCtx δ} {requests : List ForwardedRequest}
    (tracked : Tracked ctx.tracker requests) {request : ForwardedRequest}
    (member : request ∈ requests) {text : Bytes} {m : Message δ}
    (parsed : lineParse text = some m) (role : m.role = .resp) (hasSeq : m.seq = some request.seq)
    (hasDev : m.dev = some request.dev) (kept : givesUp request.target ctx text true = false)
    (nowMs : ℤ) :
    Tracked (handleOneLine request.target ctx text nowMs true).ctx.tracker
        (requests.erase request) ∧
      ∀ wrote ∈ (handleOneLine request.target ctx text nowMs true).wrote,
        request.client = some wrote.1 := by
  cases matched : matchPending request.target ctx m with
  | none =>
      obtain ⟨same, silent⟩ := handleOneLine_unmatched parsed role matched nowMs true
      rw [same, silent]
      exact ⟨tracked.answered, fun _ wrote => absurd wrote (by simp)⟩
  | some i =>
      obtain ⟨_, _, seq, dev, seqEq, devEq, found⟩ := matchPending_some matched
      rw [hasSeq] at seqEq
      rw [hasDev] at devEq
      cases seqEq
      cases devEq
      obtain ⟨valid, seq, dev⟩ := requestTrackerFind_some found
      have stays := (handleOneLine_gives_up request.target ctx text nowMs true).not.mpr
        (by rw [kept]; decide)
      rw [handleOneLine_matched parsed matched] at stays ⊢
      have finished := (handleResponse_ctx ctx m i true).resolve_left fun failed => stays failed.1
      rw [finished, finishResponse_tracker]
      refine ⟨tracked.answered.free, ?_⟩
      intro wrote written
      obtain ⟨there, same⟩ := handleResponse_wrote written
      rw [same]
      exact tracked request member i valid (Prod.ext seq dev) there

/-- The scheduler's turn takes a slot for the request it sends. -/
theorem runScheduler_tracked {ctx : AppCtx δ} {requests : List ForwardedRequest}
    (tracked : Tracked ctx.tracker requests) (healthMs createdMs : ℤ) :
    Tracked (runScheduler ctx healthMs createdMs true).1.tracker
      ((scheduledRequest ctx healthMs createdMs).toList ++ requests) := by
  have step := runScheduler_tracker ctx healthMs createdMs true
  rw [scheduledRequest]
  generalize (runScheduler ctx healthMs createdMs true).1.tracker = after at step ⊢
  generalize (runScheduler ctx healthMs createdMs true).2 = wrote at step ⊢
  cases step with
  | same => exact tracked
  | freed i => exact tracked.free
  | taken i createdMs pmcFd line unused nothing =>
      have noClient : ¬ 0 ≤ (schedulerSlot (schedulerAction ctx healthMs) createdMs).clientFd :=
        show ¬ (0 : ℤ) ≤ -1 by decide
      refine tracked.take (fun there => absurd there noClient) (fun j valid => ?_)
        fun _ _ _ there => absurd there noClient
      rw [trackerHasPending, List.any_eq_false] at nothing
      exact absurd valid (nothing j (List.mem_finRange j))

/-- A line that is no answer takes a slot for the request it makes. -/
theorem handleOneLine_tracked {s : AppCtx δ × List ForwardedRequest}
    (tracked : Tracked s.1.tracker s.2) {fd : ℤ} {text : Bytes} {nowMs : ℤ}
    (allowed : Environment s (.line fd text nowMs)) (fresh : NoClash s (.line fd text nowMs)) :
    Tracked (handleOneLine fd s.1 text nowMs true).ctx.tracker
      ((forwardedLine fd s.1 text).toList ++ s.2) := by
  obtain ⟨kept, noAnswer⟩ := allowed
  cases forwarded : forwardedLine fd s.1 text with
  | some request =>
      obtain ⟨client, i, type, free, after⟩ := handleOneLine_forwarded forwarded kept nowMs
      obtain ⟨slots, others⟩ := fresh request forwarded
      rw [after]
      refine tracked.take (fun _ => client) (fun j valid key there => ?_)
        fun other member key _ => others other member key.symm
      rw [client, slots j valid key there]
  | none =>
      have unmatched : ∀ m ∈ (lineParse text : Option (Message δ)),
          matchPending fd s.1 m = none := by
        intro m parsed
        cases matched : matchPending fd s.1 m with
        | none => rfl
        | some i =>
            obtain ⟨controller, role, _⟩ := matchPending_some matched
            exact absurd role (noAnswer controller m parsed)
      rw [handleOneLine_unforwarded forwarded unmatched]
      exact tracked

/-- **One input keeps the requests tracked**, and an answer reaches its client. -/
theorem relayMachine_tracked (s : AppCtx δ × List ForwardedRequest) (input : RelayInput)
    (tracked : Tracked s.1.tracker s.2) (allowed : Environment s input) (fresh : NoClash s input) :
    Tracked (relayMachine.step s input).1.1.tracker (relayMachine.step s input).1.2 ∧
      AnswersClient s input := by
  cases input with
  | line fd text nowMs => exact ⟨handleOneLine_tracked tracked allowed fresh, trivial⟩
  | runScheduler healthMs createdMs =>
      exact ⟨runScheduler_tracked tracked healthMs createdMs, trivial⟩
  | answer request text nowMs =>
      obtain ⟨member, kept, m, parsed, role, hasSeq, hasDev⟩ := allowed
      exact handleOneLine_answer tracked member parsed role hasSeq hasDev kept nowMs

/-- **Every answer reaches its client** along every run in which no request is forwarded while
another requester's with the same sequence number and device is pending. -/
theorem answers_reach_clients (ctx : AppCtx δ) (inputs : List RelayInput)
    (along : relayMachine.Along (fun s input => Environment s input ∧ NoClash s input)
      (ctx, []) inputs) : relayMachine.Along AnswersClient (ctx, []) inputs := by
  refine Machine.along_of_invariant (I := fun s => Tracked s.1.tracker s.2) ?_ ?_ ?_ along
  · intro s input tracked holds
    exact (relayMachine_tracked s input tracked holds.1 holds.2).1
  · intro s input tracked holds
    exact (relayMachine_tracked s input tracked holds.1 holds.2).2
  · intro request member
    cases member

end Relay

/-- equipmentd before any connection. -/
def freshCtx : AppCtx ℚ where
  moduleRegistry := moduleRegistryInit
  pmcFd := -1
  tmcFd := -1
  tracker := requestTrackerInit
  nextSeq := 1000
  jobState := .idle

/-- A process controller on descriptor 5, and two clients on 7 and 8 that ask with the given
sequence numbers. -/
def twoClients (first second : String) : List RelayInput :=
  [.line 5 (ascii "REQ REGISTER seq=1\n") 0, .line 7 (ascii s!"REQ STATUS dev=1 seq={first}\n") 1,
    .line 8 (ascii s!"REQ STATUS dev=1 seq={second}\n") 2]

/-- With different numbers the answers reach their clients, the later request answered first. -/
theorem answers_reach_clients_two :
    relayMachine.Along AnswersClient (freshCtx, []) (twoClients "3" "4" ++
      [.answer ⟨some 8, 4, 1, 5⟩ (ascii "RESP STATUS dev=1 seq=4 ok=1\n") 3,
        .answer ⟨some 7, 3, 1, 5⟩ (ascii "RESP STATUS dev=1 seq=3 ok=1\n") 4]) :=
  answers_reach_clients freshCtx _ (by decide)

/-- With the same number the answer to the client on 8 goes to the client on 7. -/
theorem crossed_answers :
    relayMachine.Along Environment (freshCtx, []) (twoClients "3" "3" ++
        [.answer ⟨some 8, 3, 1, 5⟩ (ascii "RESP STATUS dev=1 seq=3 ok=1\n") 3]) ∧
      ¬ relayMachine.Along AnswersClient (freshCtx, []) (twoClients "3" "3" ++
        [.answer ⟨some 8, 3, 1, 5⟩ (ascii "RESP STATUS dev=1 seq=3 ok=1\n") 3]) := by
  constructor <;> decide

end EquipmentControl
