import EquipmentControl.Library.Machine
import EquipmentControl.Sim.Simulator

/-!
# Runs of the simulator

A turn of the loop as a step on the messages that have arrived (`simIteration`,
`simTurn_iteration`), and what its runs look like from outside: the commands each turn accepted,
the state it ended in, and the state last reported by an EVT STATUS.

Between two turns the machine is idle, processing, done or at fault, and has reported so. The
counter of a processing machine counts the quiet turns since the START was accepted (`Counted`),
which makes DONE come five turns after it (`done_five_turns_after_start`).
-/

set_option autoImplicit false

namespace EquipmentControl

open InputMachine

/-! ## Commands -/

/-- The state an accepted command leads to. -/
def SimCmd.target : SimCmd → SimState
  | .start => .ready
  | .stop => .idle
  | .reset => .recovering
  | .fault => .fault
  | .none => .idle

/-- A command is refused and changes nothing, or accepted and leads to its target. -/
theorem fsmHandleCommand_cases (fsm : Fsm) (cmd : SimCmd) :
    ((fsmHandleCommand fsm cmd).2 ≠ 0 ∧ (fsmHandleCommand fsm cmd).1 = fsm) ∨
      ((fsmHandleCommand fsm cmd).2 = 0 ∧
        (fsmHandleCommand fsm cmd).1 = ⟨cmd.target, 0⟩) := by
  cases cmd
  case none => exact .inl ⟨show (-1 : ℤ) ≠ 0 by decide, rfl⟩
  case fault => exact .inr ⟨rfl, rfl⟩
  all_goals
    rw [fsmHandleCommand]
    split
    · exact .inr ⟨rfl, rfl⟩
    · exact .inl ⟨show (-2 : ℤ) ≠ 0 by decide, rfl⟩

/-- A state the machine can be in between two turns. -/
def SimState.Settled (state : SimState) : Prop :=
  state = .idle ∨ state = .processing ∨ state = .done ∨ state = .fault

section Runs

variable {δ : Type}

/-! ## Turns on messages -/

/-- The command of a message is accepted. -/
def acceptedCommand (ctx : SimCtx δ) (m : Message δ) : Option SimCmd :=
  if m.role = .req ∧ (fsmHandleCommand ctx.fsm (simCmdFromMessage m)).2 = 0 then
    some (simCmdFromMessage m)
  else none

/-- Handle messages in order: what is left, the responses, and the commands accepted. -/
def simHandleMessages (ctx : SimCtx δ) :
    List (Message δ) → SimCtx δ × List (Message δ) × List SimCmd
  | [] => (ctx, [], [])
  | m :: messages =>
      let handled := simHandleMessage ctx m
      let rest := simHandleMessages handled.1 messages
      (rest.1, handled.2.toList ++ rest.2.1, (acceptedCommand ctx m).toList ++ rest.2.2)

/-- What handling messages does to the state machine: no accepted command leaves it alone, and the
last of several leaves it in its target. -/
structure Batch (before : Fsm) (accepted : List SimCmd) (after : Fsm) : Prop where
  quiet : accepted = [] → after = before
  moved : accepted ≠ [] → after.state = .ready ∧ .start ∈ accepted ∨ after.state = .idle ∨
    after.state = .recovering ∨ after.state = .fault

theorem Batch.refl (fsm : Fsm) : Batch fsm [] fsm := ⟨fun _ => rfl, fun some => absurd rfl some⟩

/-- An accepted command before the rest. -/
theorem Batch.cons {cmd : SimCmd} {accepted : List SimCmd} {after : Fsm}
    (rest : Batch ⟨cmd.target, 0⟩ accepted after) (before : Fsm) :
    Batch before (cmd :: accepted) after where
  quiet none := by cases none
  moved _ := by
    by_cases last : accepted = []
    · rw [rest.quiet last, last]
      cases cmd <;> simp [SimCmd.target]
    · rcases rest.moved last with ⟨ready, start⟩ | other
      · exact .inl ⟨ready, List.mem_cons_of_mem _ start⟩
      · exact .inr other

/-- A message leaves the machine alone, or its command is accepted. -/
theorem simHandleMessage_fsm (ctx : SimCtx δ) (m : Message δ) :
    (acceptedCommand ctx m = none ∧ (simHandleMessage ctx m).1.fsm = ctx.fsm) ∨
      ∃ cmd, acceptedCommand ctx m = some cmd ∧
        (simHandleMessage ctx m).1.fsm = ⟨cmd.target, 0⟩ := by
  rw [acceptedCommand, simHandleMessage]
  by_cases isReq : m.role = .req
  · rw [if_neg (not_not.mpr isReq)]
    rcases fsmHandleCommand_cases ctx.fsm (simCmdFromMessage m) with
      ⟨refused, same⟩ | ⟨accepted, target⟩
    · exact .inl ⟨if_neg fun both => refused both.2, same⟩
    · exact .inr ⟨_, if_pos ⟨isReq, accepted⟩, target⟩
  · rw [if_pos isReq]
    exact .inl ⟨if_neg fun both => isReq both.1, rfl⟩

/-- **Handling any list of messages.** -/
theorem simHandleMessages_batch (ctx : SimCtx δ) (messages : List (Message δ)) :
    Batch ctx.fsm (simHandleMessages ctx messages).2.2 (simHandleMessages ctx messages).1.fsm := by
  induction messages generalizing ctx with
  | nil => exact .refl ctx.fsm
  | cons m messages ih =>
      have rest := ih (simHandleMessage ctx m).1
      rw [simHandleMessages]
      rcases simHandleMessage_fsm ctx m with ⟨none, same⟩ | ⟨cmd, some, target⟩
      · rw [same] at rest
        rw [none]
        exact rest
      · rw [target] at rest
        rw [some]
        exact rest.cons ctx.fsm

/-- Handling messages touches the state machine only. -/
theorem simHandleMessages_frame (ctx : SimCtx δ) (messages : List (Message δ)) :
    (simHandleMessages ctx messages).1.lastState = ctx.lastState ∧
      ∀ m ∈ (simHandleMessages ctx messages).2.1, m.role = .resp := by
  induction messages generalizing ctx with
  | nil => exact ⟨rfl, fun m member => absurd member List.not_mem_nil⟩
  | cons m messages ih =>
      obtain ⟨kept, responses⟩ := ih (simHandleMessage ctx m).1
      constructor
      · rw [simHandleMessages, kept, simHandleMessage]
        split <;> rfl
      · intro out member
        rcases List.mem_append.mp member with first | later
        · rw [simHandleMessage] at first
          split at first
          · cases first
          · cases Option.mem_some_iff.mp (Option.mem_toList.mp first)
            rw [simResponse]
            split <;> rfl
        · exact responses out later

variable [CDouble δ]

/-- The rest of a turn, with the messages it sends. -/
def simReport (ctx : SimCtx δ) : List (Message δ) :=
  let fsm := fsmTick ctx.fsm
  let model := processModelUpdate (processModelApplyState ctx.model fsm.state)
  (if fsm.state ≠ ctx.lastState then [telemetryBuildStatusEvt ctx.devId fsm.state] else []) ++
    [telemetryBuildTelemetryEvt ctx.devId model]

/-- A turn of the loop on the messages that have arrived: what is left, and what is sent. -/
def simIteration (ctx : SimCtx δ) (messages : List (Message δ)) : SimCtx δ × List (Message δ) :=
  let handled := simHandleMessages ctx messages
  ((simTick handled.1).1, handled.2.1 ++ simReport handled.1)

/-- Serving lines is handling the messages they carry. -/
theorem simServeLines_messages (ctx : SimCtx δ) (lines : List Bytes) :
    simServeLines ctx lines =
      ((simHandleMessages ctx (lines.filterMap lineParse)).1,
        (simHandleMessages ctx (lines.filterMap lineParse)).2.1.flatMap simSend) := by
  induction lines generalizing ctx with
  | nil => rfl
  | cons line lines ih =>
      cases parsed : (lineParse line : Option (Message δ)) with
      | none =>
          rw [List.filterMap_cons_none parsed, ← ih ctx, simServeLines, simServeLine, parsed]
          simp
      | some m =>
          rw [List.filterMap_cons_some parsed, simServeLines, simServeLine, parsed]
          simp only [ih, simHandleMessages, List.flatMap_append]

/-- **A turn on lines is a turn on the messages they carry**, sent as lines. -/
theorem simTurn_iteration (ctx : SimCtx δ) (lines : List Bytes) :
    simTurn ctx lines =
      ((simIteration ctx (lines.filterMap lineParse)).1,
        (simIteration ctx (lines.filterMap lineParse)).2.flatMap simSend) := by
  rw [simTurn, simServeLines_messages, simIteration]
  simp only [simTick, simReport, List.flatMap_append]
  split <;> simp

/-! ## What a run shows -/

/-- A turn as seen from outside: the commands it accepted and the state it ended in. -/
structure TurnRecord where
  accepted : List SimCmd
  ended : SimState
deriving DecidableEq

/-- The turns of a run, the most recent first, and the state in the last STATUS event sent. -/
structure SimHistory where
  turns : List TurnRecord
  reported : Option (CString 31)

omit [CDouble δ] in
/-- The state of a STATUS event. -/
def statusState (m : Message δ) : Option (CString 31) :=
  if m.role = .evt ∧ m.type = .status then m.state else none

omit [CDouble δ] in
/-- The state in the last STATUS event sent, given the one before. -/
def lastReported (sent : List (Message δ)) (before : Option (CString 31)) : Option (CString 31) :=
  (sent.filterMap statusState).getLast?.or before

def noteTurn (ctx : SimCtx δ) (messages : List (Message δ)) (history : SimHistory) : SimHistory where
  turns := ⟨(simHandleMessages ctx messages).2.2, (simIteration ctx messages).1.fsm.state⟩ ::
    history.turns
  reported := lastReported (simIteration ctx messages).2 history.reported

/-- The simulator from turn to turn, with the history of its run. -/
def simMachine : Machine (SimCtx δ × SimHistory) (List (Message δ)) (List (Message δ)) :=
  Machine.withRecord ⟨simIteration⟩ noteTurn

/-- The state in which `main` enters its loop, after the STATUS event it sends there. -/
def simEnter (devId : Int32) : SimCtx δ × SimHistory :=
  let entered : SimCtx δ := (simStart devId).1
  (entered, ⟨[], lastReported [telemetryBuildStatusEvt (δ := δ) devId entered.fsm.state] none⟩)

/-! ## The invariant -/

/-- The counter of a processing machine counts the quiet turns since a START was accepted. -/
def Counted (fsm : Fsm) (turns : List TurnRecord) : Prop :=
  fsm.state = .processing → fsm.processingTicks ≤ 4 ∧ ∃ accepted older, .start ∈ accepted ∧
    turns = List.replicate fsm.processingTicks ⟨[], .processing⟩ ++
      ⟨accepted, .processing⟩ :: older

/-- What holds between two turns. -/
structure BetweenTurns (s : SimCtx δ × SimHistory) : Prop where
  settled : s.1.fsm.state.Settled
  lastState : s.1.lastState = s.1.fsm.state
  reported : s.2.reported = some (strncpy 31 (fsmStateToString s.1.fsm.state))
  counted : Counted s.1.fsm s.2.turns

/-- The last STATUS event of a turn reports the state the turn ended in, when it changed. -/
theorem lastReported_iteration (ctx : SimCtx δ) (messages : List (Message δ))
    (before : Option (CString 31)) :
    lastReported (simIteration ctx messages).2 before =
      if (simIteration ctx messages).1.fsm.state ≠ ctx.lastState then
        some (strncpy 31 (fsmStateToString (simIteration ctx messages).1.fsm.state))
      else before := by
  obtain ⟨kept, responses⟩ := simHandleMessages_frame ctx messages
  have silent : (simHandleMessages ctx messages).2.1.filterMap statusState = [] := by
    rw [List.filterMap_eq_nil_iff]
    intro m member
    rw [statusState, responses m member]
    exact if_neg fun both => by cases both.1
  have ended : (simIteration ctx messages).1.fsm.state =
      (fsmTick (simHandleMessages ctx messages).1.fsm).state := rfl
  rw [ended, lastReported, simIteration, List.filterMap_append, silent, List.nil_append, simReport,
    kept]
  split <;> rfl

/-- **What holds when the loop is entered.** -/
theorem BetweenTurns.enter (devId : Int32) : BetweenTurns (simEnter (δ := δ) devId) where
  settled := .inl rfl
  lastState := rfl
  reported := rfl
  counted processing := by cases processing

/-- What a turn does to a settled machine: nothing, one more quiet turn of processing or the last
of them, a START, or another command. -/
inductive TurnMove (before : Fsm) : List SimCmd → Fsm → Prop where
  | rests : before.state ≠ .processing → before.state.Settled → TurnMove before [] before
  | counts : before.state = .processing → before.processingTicks < 4 →
      TurnMove before [] ⟨.processing, before.processingTicks + 1⟩
  | finishes : before.state = .processing → 4 ≤ before.processingTicks →
      TurnMove before [] ⟨.done, 0⟩
  | starts {accepted : List SimCmd} : .start ∈ accepted → TurnMove before accepted ⟨.processing, 0⟩
  | other {accepted : List SimCmd} {after : Fsm} : after.state = .idle ∨ after.state = .fault →
      TurnMove before accepted after

/-- **Everything a turn can do.** -/
theorem Batch.tick {before after : Fsm} {accepted : List SimCmd}
    (batch : Batch before accepted after) (settled : before.state.Settled) :
    TurnMove before accepted (fsmTick after) := by
  by_cases quiet : accepted = []
  · rw [batch.quiet quiet, quiet, fsmTick]
    rcases id settled with idle | processing | done | fault
    · rw [idle]
      exact .rests (by rw [idle]; decide) settled
    · rw [processing]
      simp only
      split
      · exact .finishes processing (by omega)
      · exact .counts processing (by omega)
    · rw [done]
      exact .rests (by rw [done]; decide) settled
    · rw [fault]
      exact .rests (by rw [fault]; decide) settled
  · rw [fsmTick]
    rcases batch.moved quiet with ⟨ready, start⟩ | idle | recovering | fault
    · rw [ready]
      exact .starts start
    · rw [idle]
      exact .other (.inl idle)
    · rw [recovering]
      exact .other (.inl rfl)
    · rw [fault]
      exact .other (.inr fault)

theorem TurnMove.settled {before after : Fsm} {accepted : List SimCmd}
    (move : TurnMove before accepted after) : after.state.Settled := by
  cases move with
  | rests _ settled => exact settled
  | counts => exact .inr (.inl rfl)
  | finishes => exact .inr (.inr (.inl rfl))
  | starts => exact .inr (.inl rfl)
  | other ended =>
      rcases ended with idle | fault
      · exact .inl idle
      · exact .inr (.inr (.inr fault))

/-- **A turn keeps the counter right.** -/
theorem TurnMove.counted {before after : Fsm} {accepted : List SimCmd} {turns : List TurnRecord}
    (move : TurnMove before accepted after) (counted : Counted before turns) :
    Counted after (⟨accepted, after.state⟩ :: turns) := by
  intro processing
  rw [processing]
  cases move with
  | rests idle => exact absurd processing idle
  | counts was early =>
      obtain ⟨_, first, older, start, turnsEq⟩ := counted was
      refine ⟨early, first, older, start, ?_⟩
      rw [turnsEq]
      rfl
  | finishes => cases processing
  | starts start => exact ⟨Nat.zero_le 4, accepted, turns, start, rfl⟩
  | other ended =>
      rw [processing] at ended
      rcases ended with idle | fault
      · cases idle
      · cases fault

/-- A turn that newly ends in DONE is the fifth quiet one after a turn that accepted a START. -/
theorem TurnMove.done {before after : Fsm} {accepted : List SimCmd} {turns : List TurnRecord}
    (move : TurnMove before accepted after) (counted : Counted before turns)
    (notYet : before.state ≠ .done) (done : after.state = .done) :
    ∃ first older, .start ∈ first ∧ (⟨accepted, .done⟩ : TurnRecord) :: turns =
      ⟨[], .done⟩ :: List.replicate 4 ⟨[], .processing⟩ ++ ⟨first, .processing⟩ :: older := by
  cases move with
  | rests => exact absurd done notYet
  | counts => cases done
  | finishes was last =>
      obtain ⟨bound, first, older, start, turnsEq⟩ := counted was
      refine ⟨first, older, start, ?_⟩
      rw [turnsEq, Nat.le_antisymm bound last]
      rfl
  | starts => cases done
  | other ended =>
      rw [done] at ended
      rcases ended with idle | fault
      · cases idle
      · cases fault

/-- **A turn keeps what holds between turns.** -/
theorem BetweenTurns.turn (s : SimCtx δ × SimHistory) (messages : List (Message δ))
    (before : BetweenTurns s) : BetweenTurns (simMachine.step s messages).1 := by
  have move := (simHandleMessages_batch s.1 messages).tick before.settled
  refine ⟨move.settled, rfl, ?_, move.counted before.counted⟩
  change lastReported (simIteration s.1 messages).2 s.2.reported = _
  rw [lastReported_iteration, before.lastState, before.reported]
  split
  · rfl
  · rename_i same
    rw [not_not] at same
    rw [← same]
    rfl

/-- **In every run of the simulator** the state after every turn is IDLE, PROCESSING, DONE or FAULT
and the one last reported, and a turn newly ends in DONE only as the fifth turn after one that
accepted a START, all five before it ending in PROCESSING and none but the first of them accepting
a command. -/
theorem done_five_turns_after_start (devId : Int32) (inputs : List (List (Message δ))) :
    let s := simMachine.run (simEnter devId) inputs
    s.1.fsm.state.Settled ∧
      s.2.reported = some (strncpy 31 (fsmStateToString s.1.fsm.state)) ∧
      ∀ messages, s.1.fsm.state ≠ .done →
        (simMachine.step s messages).1.1.fsm.state = .done →
          ∃ accepted older, .start ∈ accepted ∧ (simMachine.step s messages).1.2.turns =
            ⟨[], .done⟩ :: List.replicate 4 ⟨[], .processing⟩ ++
              ⟨accepted, .processing⟩ :: older := by
  intro s
  have between : BetweenTurns s := Machine.invariant BetweenTurns.turn (.enter devId) inputs
  refine ⟨between.settled, between.reported, ?_⟩
  intro messages notYet done
  have move := (simHandleMessages_batch s.1 messages).tick between.settled
  have turns : (simMachine.step s messages).1.2.turns =
      ⟨(simHandleMessages s.1 messages).2.2, .done⟩ :: s.2.turns := by
    rw [← done]
    rfl
  rw [turns]
  exact move.done between.counted notYet done

end Runs

end EquipmentControl
