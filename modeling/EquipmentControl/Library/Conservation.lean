import EquipmentControl.Library.Machine
import Mathlib.Algebra.BigOperators.Group.Finset.Basic

/-!
# Conserved quantities

States, inputs and outputs of a machine are weighed in a commutative monoid. A step is balanced when
what the state weighs after it, with what left, is what it weighed before, with what entered. Along a
run of balanced steps the same equation holds for the run (`balanced_run`), so that whatever entered
has left once the state weighs what it weighed at the start (`balanced_drained`).

With multisets for weights nothing is lost and nothing doubled.
-/

set_option autoImplicit false

namespace InputMachine

namespace Machine

variable {σ ι ο A : Type*} [AddCommMonoid A] {M : Machine σ ι ο}

/-- What a step takes in, it keeps or gives out. -/
def Balanced (M : Machine σ ι ο) (weight : σ → A) (enters : ι → A) (leaves : ο → A) (s : σ)
    (i : ι) : Prop :=
  weight (M.step s i).1 + leaves (M.step s i).2 = weight s + enters i

variable {weight : σ → A} {enters : ι → A} {leaves : ο → A}

/-- **What a run of balanced steps takes in, it keeps or gives out.** -/
theorem balanced_run {s : σ} {inputs : List ι}
    (along : M.Along (M.Balanced weight enters leaves) s inputs) :
    weight (M.run s inputs) + ((M.outputs s inputs).map leaves).sum =
      weight s + (inputs.map enters).sum := by
  induction inputs generalizing s with
  | nil => rfl
  | cons i rest ih =>
      obtain ⟨first, others⟩ := along
      calc weight (M.run s (i :: rest)) + ((M.outputs s (i :: rest)).map leaves).sum
          = (weight (M.run (M.step s i).1 rest) +
              ((M.outputs (M.step s i).1 rest).map leaves).sum) + leaves (M.step s i).2 := by
            rw [run_cons, outputs_cons, List.map_cons, List.sum_cons, add_assoc,
              add_comm (leaves (M.step s i).2)]
        _ = (weight (M.step s i).1 + leaves (M.step s i).2) + (rest.map enters).sum := by
            rw [ih others, add_right_comm]
        _ = weight s + ((i :: rest).map enters).sum := by
            rw [show weight (M.step s i).1 + leaves (M.step s i).2 = weight s + enters i from first,
              add_assoc, List.map_cons, List.sum_cons]

/-- **A run that starts and ends empty gives out what it took in.** -/
theorem balanced_drained {s : σ} {inputs : List ι}
    (along : M.Along (M.Balanced weight enters leaves) s inputs) (empty : weight s = 0)
    (drained : weight (M.run s inputs) = 0) :
    ((M.outputs s inputs).map leaves).sum = (inputs.map enters).sum := by
  have balance := balanced_run along
  rwa [empty, drained, zero_add, zero_add] at balance

end Machine

/-- A sum whose terms change at one index moves by what that term moves by. -/
theorem sum_moved {κ A : Type*} [Fintype κ] [DecidableEq κ] [AddCommMonoid A] {f g : κ → A} (i : κ)
    (others : ∀ j, j ≠ i → f j = g j) {x y : A} (here : f i + x = g i + y) :
    ∑ j, f j + x = ∑ j, g j + y := by
  have rest : ∑ j ∈ Finset.univ.erase i, f j = ∑ j ∈ Finset.univ.erase i, g j :=
    Finset.sum_congr rfl fun j member => others j (Finset.ne_of_mem_erase member)
  rw [← Finset.add_sum_erase _ f (Finset.mem_univ i), ← Finset.add_sum_erase _ g (Finset.mem_univ i),
    rest, add_right_comm, here, add_right_comm]

end InputMachine
