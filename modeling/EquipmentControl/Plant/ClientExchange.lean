import EquipmentControl.Equipmentd.DormantScheduler
import EquipmentControl.Equipmentd.Relay
import EquipmentControl.Plant.RequestConservation

/-!
# What equipmentd owes its clients

The slots of the request tracker are what equipmentd owes: one answer each, to the client of the slot
(`pendingKeys`). A line of a client is answered at once or takes a slot (`clientLine_served`), and a
response of the controller frees a slot with its sequence number and device and goes to the client of
that slot (`controllerLine_served`).

No write fails here, and the transfer module is not connected.
-/

set_option autoImplicit false

namespace EquipmentControl

open InputMachine

/-! ## The slots as a multiset -/

/-- The client of a slot, with the sequence number and the device of its request. -/
def slotKeys (slot : PendingRequest) : Multiset (ℤ × RequestKey) :=
  if slot.valid then {(slot.clientFd, some slot.seq, some slot.dev)} else 0

/-- The requests in the tracker. -/
def pendingKeys (t : RequestTracker) : Multiset (ℤ × RequestKey) := ∑ i, slotKeys (t i)

theorem slotKeys_free {slot : PendingRequest} (free : slot.valid = false) : slotKeys slot = 0 := by
  rw [slotKeys, free]
  rfl

theorem slotKeys_valid {slot : PendingRequest} (valid : slot.valid = true) :
    slotKeys slot = {(slot.clientFd, some slot.seq, some slot.dev)} := if_pos valid

theorem pendingKeys_init : pendingKeys requestTrackerInit = 0 :=
  Finset.sum_eq_zero fun _ _ => slotKeys_free rfl

/-- A free slot is taken. -/
theorem pendingKeys_taken {t : RequestTracker} {i : Fin requestTrackerMax}
    (free : (t i).valid = false) (slot : PendingRequest) :
    pendingKeys (Function.update t i slot) = pendingKeys t + slotKeys slot := by
  refine (add_zero _).symm.trans (sum_moved i (fun j differs => ?_) ?_)
  · rw [Function.update_of_ne differs]
  · rw [Function.update_self, slotKeys_free free, zero_add, add_zero]

/-- A slot is freed. -/
theorem pendingKeys_freed (t : RequestTracker) (i : Fin requestTrackerMax) :
    pendingKeys (requestTrackerRemove t i) + slotKeys (t i) = pendingKeys t := by
  refine (sum_moved i (fun j differs => ?_) ?_).trans (add_zero _)
  · rw [requestTrackerRemove, Function.update_of_ne differs]
  · rw [requestTrackerRemove, Function.update_self, slotKeys_free rfl, zero_add,
      add_zero]

theorem mem_pendingKeys {t : RequestTracker} {key : ℤ × RequestKey} :
    key ∈ pendingKeys t ↔ ∃ i, (t i).valid = true ∧
      key = ((t i).clientFd, some (t i).seq, some (t i).dev) := by
  rw [pendingKeys, Multiset.mem_sum]
  refine exists_congr fun i => ?_
  cases valid : (t i).valid with
  | false => simp [slotKeys_free valid]
  | true => simp [slotKeys_valid valid]

section Exchange

variable {δ : Type} [CDouble δ]

/-- What equipmentd is asked in a line of a client: a line that it cannot parse is answered too. -/
def clientKeys (δ : Type) [CDouble δ] (fd : ℤ) (text : Bytes) : Multiset (ℤ × RequestKey) :=
  (lineParse text : Option (Message δ)).elim {(fd, none, none)} fun m =>
    if m.role = .req then {(fd, m.seq, m.dev)} else 0

/-- The answers among the lines written, with the descriptors they were written to. -/
def replyKeys (δ : Type) [CDouble δ] (sent : List (ℤ × Bytes)) : Multiset (ℤ × RequestKey) :=
  (sent.map fun out => (lineKeys δ .resp out.2).map (Prod.mk out.1)).sum

theorem clientKeys_some {fd : ℤ} {text : Bytes} {m : Message δ} (parsed : lineParse text = some m) :
    clientKeys δ fd text = if m.role = .req then {(fd, m.seq, m.dev)} else 0 := by
  rw [clientKeys, parsed]
  rfl

@[simp] theorem replyKeys_nil : replyKeys δ [] = 0 := rfl

/-! ## Answers of equipmentd itself -/

/-- An answer that equipmentd gives itself, which is parsed as it was formatted. -/
structure RouterAnswer (m out : Message δ) : Prop extends RespondsTo m out where
  plain : Plain out
  type : out.type = .error ∨ out.type = .ping

omit [CDouble δ] in
theorem plain_makeError (m : Message δ) (code : Int32) {text : Bytes} (clean : Clean text) :
    Plain (makeError m code text) where
  temp := rfl
  pressure := rfl
  flow := rfl
  state := by rintro _ ⟨⟩
  msg := by
    rintro _ ⟨⟩
    exact clean_strncpy clean

omit [CDouble δ] in
/-- What the router answers a request. -/
theorem handleReq_answer {pmcFd tmcFd : ℤ} {m out : Message δ}
    (responds : handleReq pmcFd tmcFd m = .respond out) : RouterAnswer m out := by
  have refused : ∀ (code : Int32) (text : Bytes), Clean text →
      RouterAnswer m (makeError m code text) := fun code text clean =>
    ⟨⟨rfl, rfl, rfl⟩, plain_makeError m code clean, .inl rfl⟩
  rw [handleReq] at responds
  split at responds
  · cases responds
    exact refused 400 _ (by decide)
  split at responds
  · rename_i isPing
    cases responds
    exact ⟨⟨rfl, rfl, rfl⟩, ⟨rfl, rfl, rfl, by rintro _ ⟨⟩, by rintro _ ⟨⟩⟩, .inr isPing⟩
  split at responds
  · split at responds
    · cases responds
      exact refused 400 _ (by decide)
    split at responds
    · cases responds
    split at responds
    · cases responds
      exact refused 503 _ (by decide)
    split at responds
    · cases responds
      exact refused 503 _ (by decide)
    · cases responds
      exact refused 404 _ (by decide)
  · cases responds
    exact refused 404 _ (by decide)

omit [CDouble δ] in
/-- Every request is answered or forwarded. -/
theorem handleReq_ne_noResponse (pmcFd tmcFd : ℤ) (m : Message δ) :
    handleReq pmcFd tmcFd m ≠ .noResponse := by
  rw [handleReq]
  repeat' split
  all_goals rintro ⟨⟩

/-- A message without telemetry fits. -/
theorem sendFails_bare {m : Message δ} (bare : NoTelemetry m) : sendFails m true = false := by
  have short := lineText_length_le bare.temp bare.pressure bare.flow
  rw [sendFails, decide_eq_false (by omega)]
  rfl

/-- A plain answer fits, and goes out. -/
theorem replyTo_plain {out : Message δ} (plain : Plain out) (fd : ℤ) (ctx : AppCtx δ) :
    replyTo fd ctx out true = ⟨ctx, 1, some (fd, lineText out ++ [10])⟩ := by
  rw [replyTo, sendLine_wbuf, sendFails_bare plain.noTelemetry]
  rfl

/-- The answer that equipmentd gives a client has the key of its request. -/
theorem plain_reply {out : Message δ} (plain : Plain out) (role : out.role = .resp)
    (known : out.type = .error ∨ out.type = .ping) (fd : ℤ) :
    replyKeys δ [(fd, lineText out ++ [10])] = {(fd, out.seq, out.dev)} := by
  have type : out.type ≠ .unknown ∧ out.type ≠ .register := by
    rcases known with isError | isPing
    · rw [isError]
      decide
    · rw [isPing]
      decide
  rw [replyKeys, List.map_singleton, List.sum_singleton, plain.lineKeys_resp role type,
    Multiset.map_singleton]

/-! ## A line of a client -/

/-- What equipmentd does with a line of a client: nothing, an answer, or a slot is taken and the
request goes to the controller. -/
inductive ClientServed (fd : ℤ) (ctx : AppCtx δ) (text : Bytes) (nowMs : ℤ) : Served δ → Prop where
  | silent (reg : ModuleRegistry δ) : clientKeys δ fd text = 0 →
      ClientServed fd ctx text nowMs ⟨{ ctx with moduleRegistry := reg }, true, none⟩
  | replied (out : Message δ) : replyKeys δ [(fd, lineText out ++ [10])] = clientKeys δ fd text →
      ClientServed fd ctx text nowMs ⟨ctx, true, some (fd, lineText out ++ [10])⟩
  | forwarded (m : Message δ) (seq dev : UInt32) (i : Fin requestTrackerMax) :
      lineParse text = some m → m.role = .req → isForwarded m.type = true → m.seq = some seq →
      m.dev = some dev → 0 ≤ ctx.pmcFd → (ctx.tracker i).valid = false →
      ClientServed fd ctx text nowMs
        ⟨{ ctx with tracker :=
            Function.update ctx.tracker i (clientRequest fd seq dev m.type nowMs) }, true,
          some (ctx.pmcFd, lineText m ++ [10])⟩

/-- A client sends no REGISTER of a controller, and requests without telemetry. -/
def ClientLine (δ : Type) [CDouble δ] (text : Bytes) : Prop :=
  10 ∉ text.dropLast ∧ ∀ m ∈ (lineParse text : Option (Message δ)),
    isRegister m = false ∧ (m.role = .req → NoTelemetry m)

/-- A request that is forwarded to the process controller. -/
theorem clientLine_forwarded (fd : ℤ) {ctx : AppCtx δ} {m : Message δ} (bare : NoTelemetry m)
    (noTmc : ctx.tmcFd < 0)
    (room : requestTrackerAlloc ctx.tracker ≠ none)
    (routed : (routerHandle ctx.moduleRegistry ctx.pmcFd ctx.tmcFd 0 m).2 = .forward) (nowMs : ℤ) :
    ∃ seq dev i, m.role = .req ∧ isForwarded m.type = true ∧ m.seq = some seq ∧
      m.dev = some dev ∧ 0 ≤ ctx.pmcFd ∧ (ctx.tracker i).valid = false ∧
      forwardRequest fd ctx m nowMs true =
        ⟨{ ctx with tracker :=
            Function.update ctx.tracker i (clientRequest fd seq dev m.type nowMs) }, 0,
          some (ctx.pmcFd, lineText m ++ [10])⟩ := by
  obtain ⟨role, type, ⟨seq, hasSeq⟩, dev, target, hasDev, controller⟩ := routerHandle_forward routed
  obtain ⟨same, there⟩ := resolveTargetFd_of_controller hasDev controller
  have isPmc : target = ctx.pmcFd := by
    rcases ((resolveControllerFd_ok_iff hasDev _ _ _).mp controller).2 with ⟨_, isPmc⟩ | ⟨_, isTmc⟩
    · exact isPmc
    · exact absurd there (not_le.mpr (isTmc ▸ noTmc))
  obtain ⟨⟨i, allocated⟩, alloc⟩ := Option.ne_none_iff_exists'.mp room
  refine ⟨seq, dev, i, role, type, hasSeq, hasDev, isPmc ▸ there,
    (requestTrackerAlloc_some alloc).1, ?_⟩
  rw [forwardRequest_eq fd nowMs true hasSeq hasDev same there, alloc, ← isPmc]
  simp only [sendFails_bare bare, Bool.false_eq_true, if_false]

/-- **What equipmentd does with a line of a client.** -/
theorem clientLine_served {fd : ℤ} {ctx : AppCtx δ} {text : Bytes} (line : ClientLine δ text)
    (client : isControllerFd ctx fd = false) (noTmc : ctx.tmcFd < 0)
    (room : requestTrackerAlloc ctx.tracker ≠ none) (nowMs : ℤ) :
    ClientServed fd ctx text nowMs (serveLine fd ctx text nowMs true) := by
  rw [serveLine, handleOneLine]
  cases parsed : (lineParse text : Option (Message δ)) with
  | none =>
      have plain : Plain (makeParseError : Message δ) :=
        ⟨rfl, rfl, rfl, by rintro _ ⟨⟩, by rintro _ ⟨⟩; exact clean_strncpy (by decide)⟩
      simp only [replyTo_plain plain]
      refine .replied makeParseError ?_
      rw [plain_reply plain rfl (.inl rfl), clientKeys, parsed]
      rfl
  | some m =>
  obtain ⟨noRegister, bare⟩ := line.2 m parsed
  have unmatched : matchPending fd ctx m = none := by
    rw [matchPending, client]
    rfl
  simp only [noRegister, Bool.false_eq_true, if_false, unmatched]
  have quiet : ∀ role, m.role = role → role ≠ .req → clientKeys δ fd text = 0 := by
    intro role isRole other
    rw [clientKeys_some parsed, if_neg]
    rw [isRole]
    exact other
  cases role : m.role with
  | req =>
      have kept : (routerHandle ctx.moduleRegistry ctx.pmcFd ctx.tmcFd nowMs m).1 =
          ctx.moduleRegistry := by
        rw [routerHandle, role]
      rw [kept, routerHandle_result _ _ _ nowMs 0]
      cases routed : (routerHandle ctx.moduleRegistry ctx.pmcFd ctx.tmcFd 0 m).2 with
      | noResponse =>
          rw [routerHandle, role] at routed
          exact absurd routed (handleReq_ne_noResponse _ _ m)
      | respond out =>
          rw [routerHandle, role] at routed
          have answer := handleReq_answer routed
          simp only [replyTo_plain answer.plain]
          refine .replied out ?_
          rw [plain_reply answer.plain answer.role answer.type, clientKeys_some parsed, if_pos role,
            answer.seq, answer.dev]
      | forward =>
          obtain ⟨seq, dev, i, _, type, hasSeq, hasDev, there, free, forwards⟩ :=
            clientLine_forwarded fd (bare role) noTmc room routed nowMs
          rw [forwards]
          exact .forwarded m seq dev i parsed role type hasSeq hasDev there free
  | evt =>
      simp only [routerHandle, role]
      exact .silent _ (quiet .evt role (by decide))
  | resp =>
      simp only [routerHandle, role]
      exact .silent _ (quiet .resp role (by decide))
  | unknown =>
      simp only [routerHandle, role]
      exact .silent _ (quiet .unknown role (by decide))

/-! ## A line of the process controller -/

/-- A line that the process controller sends: its registration, an event, or an answer. -/
def ControllerLine (δ : Type) [CDouble δ] (line : Bytes) : Prop :=
  ∀ m ∈ (lineParse line : Option (Message δ)),
    (isRegister m = true ∧ m.dev = none) ∨ m.role = .evt ∨
      (m.role = .resp ∧ m.type ≠ .register ∧ NoTelemetry m ∧ 10 ∉ line.dropLast)

/-- What equipmentd does with a line of the process controller: the controller is attached, an event
is recorded, or an answer goes to the client of a slot, which is freed. -/
inductive ControllerServed (fd : ℤ) (ctx : AppCtx δ) (line : Bytes) : Served δ → Prop where
  | attached (out : Message δ) : out.type = .register → lineKeys δ .resp line = 0 →
      10 ∉ (lineText out ++ [10]).dropLast → lineParse (lineText out ++ [10]) = some out →
      ControllerServed fd ctx line ⟨{ ctx with pmcFd := fd }, true, some (fd, lineText out ++ [10])⟩
  | recorded (reg : ModuleRegistry δ) : lineKeys δ .resp line = 0 →
      ControllerServed fd ctx line ⟨{ ctx with moduleRegistry := reg }, true, none⟩
  | relayed (m : Message δ) (i : Fin requestTrackerMax) : (ctx.tracker i).valid = true →
      lineKeys δ .resp line = {(some (ctx.tracker i).seq, some (ctx.tracker i).dev)} →
      replyKeys δ [((ctx.tracker i).clientFd, lineText m ++ [10])] = slotKeys (ctx.tracker i) →
      ControllerServed fd ctx line ⟨finishResponse ctx m i, true,
        some ((ctx.tracker i).clientFd, lineText m ++ [10])⟩

/-- A slot with a sequence number and a device is found. -/
theorem requestTrackerFind_of_valid {t : RequestTracker} {i : Fin requestTrackerMax}
    (valid : (t i).valid = true) :
    ∃ j, requestTrackerFind t (t i).seq (t i).dev = some j := by
  refine Option.isSome_iff_exists.mp (List.find?_isSome.mpr ⟨i, List.mem_finRange i, ?_⟩)
  simp [valid]

/-- An answer of the process controller that is owed. -/
theorem controllerLine_relayed {fd : ℤ} {ctx : AppCtx δ} {line : Bytes} {m : Message δ}
    (parsed : lineParse line = some m) (role : m.role = .resp) (type : m.type ≠ .register)
    (bare : NoTelemetry m) (newline : 10 ∉ line.dropLast)
    (owed : lineKeys δ .resp line ≤ (pendingKeys ctx.tracker).map Prod.snd)
    (controller : (∃ i, (ctx.tracker i).valid = true) → isControllerFd ctx fd = true)
    (clients : ∀ i, (ctx.tracker i).valid = true → 0 ≤ (ctx.tracker i).clientFd) (nowMs : ℤ) :
    ControllerServed fd ctx line (serveLine fd ctx line nowMs true) := by
  have key : lineKeys δ .resp line = {(m.seq, m.dev)} := by
    rw [lineKeys_some .resp parsed, if_pos ⟨role, type⟩]
  rw [key, Multiset.singleton_le, Multiset.mem_map] at owed
  obtain ⟨pending, member, same⟩ := owed
  obtain ⟨i, valid, rfl⟩ := mem_pendingKeys.mp member
  obtain ⟨hasSeq, hasDev⟩ : some (ctx.tracker i).seq = m.seq ∧ some (ctx.tracker i).dev = m.dev :=
    Prod.ext_iff.mp same
  obtain ⟨j, found⟩ := requestTrackerFind_of_valid valid
  obtain ⟨validJ, seqJ, devJ⟩ := requestTrackerFind_some found
  have matched : matchPending fd ctx m = some j := by
    simp only [matchPending, controller ⟨i, valid⟩, role, decide_true, Bool.and_self, if_true,
      ← hasSeq, ← hasDev, found]
  have finished : handleResponse ctx m j true = ⟨finishResponse ctx m j, 1,
      some ((ctx.tracker j).clientFd, lineText m ++ [10])⟩ := by
    rw [handleResponse, if_pos (clients j validJ), sendLine_wbuf, sendFails_bare bare]
    rfl
  rw [serveLine, handleOneLine_matched parsed matched, finished]
  have owner : lineKeys δ .resp line = {(some (ctx.tracker j).seq, some (ctx.tracker j).dev)} := by
    rw [key, seqJ, devJ, ← hasSeq, ← hasDev]
  refine .relayed m j validJ owner ?_
  rw [replyKeys, List.map_singleton, List.sum_singleton, passed_keys parsed newline bare .resp, owner,
    Multiset.map_singleton, slotKeys_valid validJ]

/-- **What equipmentd does with a line of the process controller**, when the answers it owes include
those of the line. -/
theorem controllerLine_served {fd : ℤ} {ctx : AppCtx δ} {line : Bytes}
    (isLine : ControllerLine δ line) (accepted : (lineParse line : Option (Message δ)).isSome)
    (owed : lineKeys δ .resp line ≤ (pendingKeys ctx.tracker).map Prod.snd)
    (controller : (∃ i, (ctx.tracker i).valid = true) → isControllerFd ctx fd = true)
    (clients : ∀ i, (ctx.tracker i).valid = true → 0 ≤ (ctx.tracker i).clientFd) (nowMs : ℤ) :
    ControllerServed fd ctx line (serveLine fd ctx line nowMs true) := by
  obtain ⟨m, parsed⟩ := Option.isSome_iff_exists.mp accepted
  rcases isLine m parsed with ⟨registers, noDev⟩ | isEvt | ⟨role, type, bare, newline⟩
  · have plain : Plain (registerReply m) :=
      ⟨rfl, rfl, rfl, by rintro _ ⟨⟩, by rintro _ ⟨⟩⟩
    have isReq : m.role = .req := by
      simp only [isRegister, Bool.and_eq_true, decide_eq_true_eq] at registers
      exact registers.1.1
    have noKey : lineKeys δ .resp line = 0 := by
      rw [lineKeys_some .resp parsed, isReq]
      rfl
    rw [serveLine, handleOneLine, parsed]
    simp only [registers, if_true, handleRegister, noDev, reduceCtorEq, if_false,
      replyTo_plain plain]
    refine .attached (registerReply m) rfl noKey ?_
      (plain.lineParse_lineText (show MsgRole.resp ≠ .unknown by decide)
        (show MsgType.register ≠ .unknown by decide))
    rw [List.dropLast_concat]
    intro member
    exact absurd (plain.not_isCrlf member) (by decide)
  · have noKey : lineKeys δ .resp line = 0 := by
      rw [lineKeys_some .resp parsed, isEvt]
      rfl
    have noRegister : isRegister m = false := by rw [isRegister, isEvt]; rfl
    have unmatched : matchPending fd ctx m = none := by
      cases matched : matchPending fd ctx m with
      | none => rfl
      | some i => cases isEvt.symm.trans (matchPending_some matched).2.1
    rw [serveLine, handleOneLine, parsed]
    simp only [noRegister, Bool.false_eq_true, if_false, unmatched, routerHandle, isEvt]
    exact .recorded _ noKey
  · exact controllerLine_relayed parsed role type bare newline owed controller clients nowMs

end Exchange

end EquipmentControl
