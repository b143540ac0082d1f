import Mathlib.Algebra.Order.Monoid.Unbundled.Basic
import Mathlib.Data.List.Chain

/-!
# Heartbeats and a watchdog

A sender beats again and again, a channel carries the beats in order, and a watchdog remembers when
it heard one last. The stamps of a state are the time of the beat heard last, if there is one, and
the times at which the beats on their way were sent.

As long as the sender lets at most `gap` go by between two beats, the stamps are never further apart
than that (`Steady.send`, `Steady.of_append`, `Steady.notice`). When a beat takes no longer than
`delay`, the watchdog has heard one within `gap + delay` (`Steady.fresh`).
-/

set_option autoImplicit false

namespace Heartbeat

universe u

/-- Stamps at most `gap` apart, of which the last one is not before the last beat sent. -/
structure Steady {τ : Type u} [Add τ] [LE τ] (gap sent : τ) (stamps : List τ) : Prop where
  chain : stamps.IsChain fun first second => second ≤ first + gap
  newest : ∀ last ∈ stamps.getLast?, sent ≤ last

variable {τ : Type u} [AddCommMonoid τ] [Preorder τ] {gap sent : τ} {stamps : List τ}

/-- **A beat in time.** -/
theorem Steady.send [AddRightMono τ] (steady : Steady gap sent stamps) {stamp : τ}
    (inTime : stamp ≤ sent + gap) : Steady gap stamp (stamps ++ [stamp]) where
  chain := by
    refine List.isChain_append.mpr ⟨steady.chain, .singleton stamp, ?_⟩
    rintro last isLast _ ⟨⟩
    exact inTime.trans (add_le_add_left (steady.newest last isLast) gap)
  newest := by
    intro last isLast
    rw [List.getLast?_concat] at isLast
    cases isLast
    exact le_refl stamp

/-- The oldest stamp is forgotten. -/
theorem Steady.tail {first : τ} (steady : Steady gap sent (first :: stamps)) :
    Steady gap sent stamps where
  chain := steady.chain.tail
  newest last isLast := by
    cases stamps with
    | nil => cases isLast
    | cons second rest =>
        refine steady.newest last ?_
        rw [List.getLast?_cons_cons]
        exact isLast

/-- Any number of them is forgotten. -/
theorem Steady.of_append {older : List τ} (steady : Steady gap sent (older ++ stamps)) :
    Steady gap sent stamps := by
  induction older with
  | nil => exact steady
  | cons first older ih => exact ih steady.tail

/-- **A beat is heard** when those on their way were sent before. -/
theorem Steady.notice [AddLeftMono τ] (steady : Steady gap sent stamps) {now : τ}
    (noGap : 0 ≤ gap) (late : sent ≤ now) (older : ∀ stamp ∈ stamps, stamp ≤ now) :
    Steady gap sent (now :: stamps) where
  chain := by
    refine List.isChain_cons.mpr ⟨fun first isFirst => ?_, steady.chain⟩
    exact (older first (List.mem_of_mem_head? isFirst)).trans (le_add_of_nonneg_right noGap)
  newest last isLast := by
    cases stamps with
    | nil =>
        cases isLast
        exact late
    | cons first rest =>
        refine steady.newest last ?_
        rwa [List.getLast?_cons_cons] at isLast

/-- **The watchdog has heard a beat** within the gap and the delay. -/
theorem Steady.fresh [AddLeftMono τ] [AddRightMono τ] {heard now delay : τ}
    (steady : Steady gap sent (heard :: stamps)) (noDelay : 0 ≤ delay)
    (beating : now ≤ sent + gap) (arriving : ∀ stamp ∈ stamps, now ≤ stamp + delay) :
    now ≤ heard + (gap + delay) := by
  rw [← add_assoc]
  cases stamps with
  | nil =>
      have last : sent ≤ heard := steady.newest heard rfl
      exact (beating.trans (add_le_add_left last gap)).trans (le_add_of_nonneg_right noDelay)
  | cons first rest =>
      have near : first ≤ heard + gap := (List.isChain_cons_cons.mp steady.chain).1
      exact (arriving first List.mem_cons_self).trans (add_le_add_left near delay)

end Heartbeat
