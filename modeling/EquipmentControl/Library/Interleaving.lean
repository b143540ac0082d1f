import Mathlib.Logic.Function.Basic
import EquipmentControl.Library.Machine

/-!
# Interleavings of streams

`Interleaving streams events`: `events` takes the head of one stream after another, in any order,
until none has an event left.

When the streams hold the events of one key each (`Keyed`), the interleavings are the lists that
have the streams for their projections (`interleaving_iff`): only the order between different keys
is open.

A part of a machine's state may be a machine of its own, moved by the inputs of one key and left
alone by the others. A run then moves it as its own inputs do (`Machine.run_part`), so every
interleaving of keyed streams moves it as the stream of its key does
(`Machine.run_part_of_interleaving`).
-/

set_option autoImplicit false

namespace InputMachine

universe u v

/-! ## Streams by key -/

section Streams

variable {κ : Type u} {ε : Type v} [DecidableEq κ]

/-- The events of the streams in some order that keeps the order of each stream. -/
inductive Interleaving : (κ → List ε) → List ε → Prop where
  | done {streams : κ → List ε} : (∀ k, streams k = []) → Interleaving streams []
  | next {streams : κ → List ε} {k : κ} {e : ε} {later events : List ε} :
      streams k = e :: later → Interleaving (Function.update streams k later) events →
        Interleaving streams (e :: events)

/-- Every stream holds events of its own key. -/
def Keyed (key : ε → κ) (streams : κ → List ε) : Prop := ∀ k, ∀ e ∈ streams k, key e = k

/-- The events of one key, in order. -/
def projection (key : ε → κ) (k : κ) (events : List ε) : List ε :=
  events.filter fun e => key e = k

variable {key : ε → κ} {streams : κ → List ε} {e : ε} {events later : List ε}

theorem projection_cons_own (e : ε) (events : List ε) :
    projection key (key e) (e :: events) = e :: projection key (key e) events :=
  List.filter_cons_of_pos (decide_eq_true rfl)

theorem projection_cons_other {k : κ} (other : key e ≠ k) :
    projection key k (e :: events) = projection key k events :=
  List.filter_cons_of_neg (by simpa using other)

/-- Neighbours with different keys may change places. -/
theorem projection_swap {f : ε} (differ : key e ≠ key f) (k : κ) (events : List ε) :
    projection key k (e :: f :: events) = projection key k (f :: e :: events) := by
  by_cases own : key e = k
  · subst own
    rw [projection_cons_own, projection_cons_other (Ne.symm differ),
      projection_cons_other (Ne.symm differ), projection_cons_own]
  · rw [projection_cons_other own]
    by_cases its : key f = k
    · subst its
      rw [projection_cons_own, projection_cons_own, projection_cons_other own]
    · rw [projection_cons_other its, projection_cons_other its, projection_cons_other own]

theorem keyed_projection (key : ε → κ) (events : List ε) :
    Keyed key fun k => projection key k events := by
  intro k e member
  simpa using (List.mem_filter.mp member).2

/-- The streams that are left when the head of one is taken. -/
theorem Keyed.tail (keyed : Keyed key streams) {k : κ} (head : streams k = e :: later) :
    Keyed key (Function.update streams k later) := by
  intro j f member
  by_cases same : j = k
  · subst same
    rw [Function.update_self] at member
    exact keyed j f (by rw [head]; exact List.mem_cons_of_mem e member)
  · rw [Function.update_of_ne same] at member
    exact keyed j f member

/-- An interleaving shows each stream as it was. -/
theorem Interleaving.projection_eq (merged : Interleaving streams events)
    (keyed : Keyed key streams) (k : κ) : projection key k events = streams k := by
  induction merged with
  | done empty => exact (empty k).symm
  | @next streams taken e later events head _ ih =>
      have own : key e = taken := keyed taken e (by rw [head]; exact List.mem_cons_self)
      have rest := ih (keyed.tail head)
      subst own
      by_cases same : key e = k
      · subst same
        rw [projection_cons_own, rest, Function.update_self, head]
      · rw [projection_cons_other same, rest, Function.update_of_ne (Ne.symm same)]

/-- A list is an interleaving of its projections. -/
theorem interleaving_of_projections (same : ∀ k, projection key k events = streams k) :
    Interleaving streams events := by
  induction events generalizing streams with
  | nil => exact .done fun k => (same k).symm
  | cons e events ih =>
      have head : streams (key e) = e :: projection key (key e) events := by
        rw [← same, projection_cons_own]
      refine .next head (ih fun k => ?_)
      by_cases own : k = key e
      · subst own
        rw [Function.update_self]
      · rw [Function.update_of_ne own, ← same, projection_cons_other (Ne.symm own)]

/-- **The interleavings of keyed streams** are the lists that have them for projections. -/
theorem interleaving_iff (keyed : Keyed key streams) :
    Interleaving streams events ↔ ∀ k, projection key k events = streams k :=
  ⟨fun merged => merged.projection_eq keyed, interleaving_of_projections⟩

end Streams

/-! ## Parts of a state -/

namespace Machine

variable {σ τ ι ο ω κ : Type*} [DecidableEq κ] {M : Machine σ ι ο} {N : Machine τ ι ω}
  (part : σ → τ) {key : ι → κ} {k : κ}

/-- **A part of the state that is a machine of its own**, on the inputs of one key, moves in a run
as it does on these. -/
theorem run_part (own : ∀ s i, key i = k → part (M.step s i).1 = (N.step (part s) i).1)
    (frame : ∀ s i, key i ≠ k → part (M.step s i).1 = part s) (s : σ) (inputs : List ι) :
    part (M.run s inputs) = N.run (part s) (projection key k inputs) := by
  induction inputs generalizing s with
  | nil => rfl
  | cons i inputs ih =>
      rw [run_cons, ih]
      by_cases its : key i = k
      · rw [own s i its, ← its, projection_cons_own, run_cons]
      · rw [frame s i its, projection_cons_other its]

/-- **Every interleaving** moves the part of a key as the stream of that key does. -/
theorem run_part_of_interleaving {streams : κ → List ι} {inputs : List ι}
    (keyed : Keyed key streams) (merged : Interleaving streams inputs)
    (own : ∀ s i, key i = k → part (M.step s i).1 = (N.step (part s) i).1)
    (frame : ∀ s i, key i ≠ k → part (M.step s i).1 = part s) (s : σ) :
    part (M.run s inputs) = N.run (part s) (streams k) := by
  rw [run_part part own frame, merged.projection_eq keyed]

end Machine

end InputMachine
