import Mathlib.Data.List.Basic

/-!
# Runs of deterministic machines

A machine moves on each input and answers with an output. A run is a list of inputs.
`M.Along P s inputs` says that every step of the run from `s` meets the condition `P` on
the state before the step and the input.

The rules: a run over a concatenation is a run after a run (`run_append`,
`along_append`); what every step meeting `P` preserves is preserved by every run meeting
`P` (`invariant_along`), and what an invariant implies of each step holds along the run
(`along_of_invariant`).

`withRecord` adds a record of the run to the state, which the machine does not read.

`invariant_iff_along` is for a property that a step keeps exactly when it meets a condition, and
`run_simulated` for a machine whose every step is a step of another one or none at all. A machine
whose steps show which inputs of another one they stand for, and what those answer, refines it along
a run when it does so step by step (`run_refines`), and two machines on the same inputs stay related
when every input keeps them so (`run_lockstep`). `Reaches` is refinement by a program that fails
exactly when a step of its log does not meet a condition (`run_reaches`).
-/

set_option autoImplicit false

namespace InputMachine

universe u v w

/-- A deterministic machine with states `σ`, inputs `ι` and outputs `ο`. -/
structure Machine (σ : Type u) (ι : Type v) (ο : Type w) where
  step : σ → ι → σ × ο

namespace Machine

variable {σ : Type u} {ι : Type v} {ο : Type w} (M : Machine σ ι ο)

/-- The state after a list of inputs. -/
def run : σ → List ι → σ
  | s, [] => s
  | s, i :: rest => run (M.step s i).1 rest

/-- The outputs of a list of inputs, in order. -/
def outputs : σ → List ι → List ο
  | _, [] => []
  | s, i :: rest => (M.step s i).2 :: outputs (M.step s i).1 rest

/-- Every step of the run meets the condition `P`. -/
def Along (P : σ → ι → Prop) : σ → List ι → Prop
  | _, [] => True
  | s, i :: rest => P s i ∧ Along P (M.step s i).1 rest

instance decidableAlong (P : σ → ι → Prop) [∀ s i, Decidable (P s i)] :
    ∀ (s : σ) (inputs : List ι), Decidable (M.Along P s inputs)
  | _, [] => isTrue trivial
  | s, i :: rest =>
      have := decidableAlong P (M.step s i).1 rest
      inferInstanceAs (Decidable (P s i ∧ M.Along P (M.step s i).1 rest))

@[simp] theorem run_nil (s : σ) : M.run s [] = s := rfl

@[simp] theorem run_cons (s : σ) (i : ι) (rest : List ι) :
    M.run s (i :: rest) = M.run (M.step s i).1 rest := rfl

@[simp] theorem outputs_cons (s : σ) (i : ι) (rest : List ι) :
    M.outputs s (i :: rest) = (M.step s i).2 :: M.outputs (M.step s i).1 rest := rfl

theorem run_append (s : σ) (first second : List ι) :
    M.run s (first ++ second) = M.run (M.run s first) second := by
  induction first generalizing s with
  | nil => rfl
  | cons i first ih => exact ih _

theorem run_concat (s : σ) (inputs : List ι) (i : ι) :
    M.run s (inputs ++ [i]) = (M.step (M.run s inputs) i).1 := M.run_append s inputs [i]

theorem outputs_append (s : σ) (first second : List ι) :
    M.outputs s (first ++ second) = M.outputs s first ++ M.outputs (M.run s first) second := by
  induction first generalizing s with
  | nil => rfl
  | cons i first ih => exact congrArg (_ :: ·) (ih _)

variable {M} {P Q : σ → ι → Prop}

theorem along_append {s : σ} {first second : List ι} :
    M.Along P s (first ++ second) ↔ M.Along P s first ∧ M.Along P (M.run s first) second := by
  induction first generalizing s with
  | nil => simp [Along]
  | cons i first ih => simp [Along, ih, and_assoc]

theorem Along.of_prefix {s : σ} {inputs before : List ι} (along : M.Along P s inputs)
    (isPrefix : before <+: inputs) : M.Along P s before := by
  obtain ⟨after, rfl⟩ := isPrefix
  exact (along_append.mp along).1

/-- A condition on the inputs alone. -/
theorem along_of_forall {R : ι → Prop} {inputs : List ι} (all : ∀ i ∈ inputs, R i) {s : σ} :
    M.Along (fun _ i => R i) s inputs := by
  induction inputs generalizing s with
  | nil => trivial
  | cons i rest ih =>
      exact ⟨all i List.mem_cons_self, ih fun j member => all j (List.mem_cons_of_mem i member)⟩

/-- Conditions that agree on every step agree along every run. -/
theorem along_congr (same : ∀ s i, P s i ↔ Q s i) {s : σ} {inputs : List ι} :
    M.Along P s inputs ↔ M.Along Q s inputs := by
  induction inputs generalizing s with
  | nil => rfl
  | cons i rest ih => exact and_congr (same s i) ih

/-- **Invariance along a run**: what every step meeting `P` preserves, every run meeting `P`
preserves. -/
theorem invariant_along {I : σ → Prop} (preserved : ∀ s i, I s → P s i → I (M.step s i).1)
    {s : σ} {inputs : List ι} (holds : I s) (along : M.Along P s inputs) :
    I (M.run s inputs) := by
  induction inputs generalizing s with
  | nil => exact holds
  | cons i rest ih => exact ih (preserved s i holds along.1) along.2

/-- An invariant of every step holds in every state of every run. -/
theorem invariant {I : σ → Prop} (preserved : ∀ s i, I s → I (M.step s i).1) {s : σ}
    (holds : I s) (inputs : List ι) : I (M.run s inputs) := by
  induction inputs generalizing s with
  | nil => exact holds
  | cons i rest ih => exact ih (preserved s i holds)

/-- What an invariant and the condition on a step imply of that step holds along the run. -/
theorem along_of_invariant {I : σ → Prop}
    (preserved : ∀ s i, I s → P s i → I (M.step s i).1) (implies : ∀ s i, I s → P s i → Q s i)
    {s : σ} {inputs : List ι} (holds : I s) (along : M.Along P s inputs) :
    M.Along Q s inputs := by
  induction inputs generalizing s with
  | nil => trivial
  | cons i rest ih =>
      exact ⟨implies s i holds along.1, ih (preserved s i holds along.1) along.2⟩

/-- **A property that a step keeps exactly when it meets `Q`** holds in every state of a run
exactly when every step meets `Q`. -/
theorem invariant_iff_along {I K : σ → Prop} (preserved : ∀ s i, I s → P s i → I (M.step s i).1)
    (kept : ∀ s i, I s → P s i → K s → (K (M.step s i).1 ↔ Q s i)) {s : σ} {inputs : List ι}
    (start : I s) (holds : K s) (along : M.Along P s inputs) :
    (∀ before, before <+: inputs → K (M.run s before)) ↔ M.Along Q s inputs := by
  induction inputs generalizing s with
  | nil =>
      refine iff_of_true (fun before isPrefix => ?_) trivial
      rw [List.prefix_nil.mp isPrefix]
      exact holds
  | cons i rest ih =>
      have later := ih (preserved s i start along.1)
      constructor
      · intro all
        have next : K (M.step s i).1 := all [i] (List.prefix_append [i] rest)
        refine ⟨(kept s i start along.1 holds).mp next, (later next along.2).mp ?_⟩
        intro before isPrefix
        exact all (i :: before) (List.cons_prefix_cons.mpr ⟨rfl, isPrefix⟩)
      · rintro ⟨first, others⟩ before isPrefix
        have next := (kept s i start along.1 holds).mpr first
        rcases List.prefix_cons_iff.mp isPrefix with rfl | ⟨shorter, rfl, inRest⟩
        · exact holds
        · exact (later next along.2).mpr others shorter inRest

/-! ## Simulation -/

/-- **A run is simulated step by step**: when every step of a machine `N` is a step of `M` on the
abstraction of its state, or leaves that alone and shows nothing, a run of `N` is a run of `M` that
shows the same. -/
theorem run_simulated {κ : Type*} {θ : Type*} {ω : Type*} {β : Type*} {N : Machine κ θ ω}
    (abstraction : κ → σ) (shows : ω → List β) (shown : ο → List β)
    (simulated : ∀ k i,
      (abstraction (N.step k i).1 = abstraction k ∧ shows (N.step k i).2 = []) ∨
        ∃ j, (M.step (abstraction k) j).1 = abstraction (N.step k i).1 ∧
          shown (M.step (abstraction k) j).2 = shows (N.step k i).2)
    (k : κ) (inputs : List θ) :
    ∃ js, M.run (abstraction k) js = abstraction (N.run k inputs) ∧
      (M.outputs (abstraction k) js).flatMap shown = (N.outputs k inputs).flatMap shows := by
  induction inputs generalizing k with
  | nil => exact ⟨[], rfl, rfl⟩
  | cons i rest ih =>
      obtain ⟨js, reached, same⟩ := ih (N.step k i).1
      rw [run_cons, outputs_cons, List.flatMap_cons]
      rcases simulated k i with ⟨still, silent⟩ | ⟨j, moved, shownStep⟩
      · rw [still] at reached same
        exact ⟨js, reached, by rw [same, silent, List.nil_append]⟩
      · refine ⟨j :: js, ?_, ?_⟩
        · rw [run_cons, moved, reached]
        · rw [outputs_cons, List.flatMap_cons, moved, same, shownStep]

/-- A list of inputs with what the machine answers: a log that a run of it leaves. -/
def Logs (M : Machine σ ι ο) (s : σ) (log : List (ι × ο)) : Prop :=
  log.map Prod.snd = M.outputs s (log.map Prod.fst)

theorem Logs.append {s : σ} {first second : List (ι × ο)} (before : M.Logs s first)
    (after : M.Logs (M.run s (first.map Prod.fst)) second) : M.Logs s (first ++ second) := by
  rw [Logs, List.map_append, List.map_append, outputs_append, before, after]

/-- **Refinement through logs**: when every step of a machine `N` shows a log that `M` leaves from
the related state to a related one, so does every run. -/
theorem run_refines {κ : Type*} {θ : Type*} {N : Machine κ θ (List (ι × ο))} {C : κ → θ → Prop}
    {R : κ → σ → Prop}
    (refined : ∀ k s i, R k s → C k i →
      R (N.step k i).1 (M.run s ((N.step k i).2.map Prod.fst)) ∧ M.Logs s (N.step k i).2)
    {k : κ} {s : σ} (related : R k s) {inputs : List θ} (along : N.Along C k inputs) :
    R (N.run k inputs) (M.run s ((N.outputs k inputs).flatten.map Prod.fst)) ∧
      M.Logs s (N.outputs k inputs).flatten := by
  induction inputs generalizing k s with
  | nil => exact ⟨related, rfl⟩
  | cons i rest ih =>
      obtain ⟨next, answers⟩ := refined k s i related along.1
      obtain ⟨last, more⟩ := ih next along.2
      rw [outputs_cons, List.flatten_cons, List.map_append, run_append]
      exact ⟨last, answers.append more⟩

/-- **Two machines in step**: what every input keeps of two states and answers of two outputs holds
of their runs. -/
theorem run_lockstep {κ : Type*} {ω : Type*} {N : Machine κ ι ω} {R : κ → σ → Prop} {C : ι → Prop}
    {Q : ω → ο → Prop}
    (stepped : ∀ k s i, R k s → C i →
      R (N.step k i).1 (M.step s i).1 ∧ Q (N.step k i).2 (M.step s i).2)
    {k : κ} {s : σ} (related : R k s) {inputs : List ι} (all : ∀ i ∈ inputs, C i) :
    R (N.run k inputs) (M.run s inputs) ∧
      List.Forall₂ Q (N.outputs k inputs) (M.outputs s inputs) := by
  induction inputs generalizing k s with
  | nil => exact ⟨related, .nil⟩
  | cons i rest ih =>
      obtain ⟨next, answers⟩ := stepped k s i related (all i List.mem_cons_self)
      obtain ⟨last, more⟩ := ih next fun j member => all j (List.mem_cons_of_mem i member)
      exact ⟨last, .cons answers more⟩

/-! ## Programs that may fail -/

/-- Where a program that may fail is with a log: as long as every step of the log meets `Q` it is in
a state related to that of `M`, and after one that does not it has failed. -/
inductive Reaches (M : Machine σ ι ο) (Q : σ → ι → Prop) {κ : Type*} (R : κ → σ → Prop) (s : σ) :
    Option κ × List (ι × ο) → Prop where
  | related {k : κ} {log : List (ι × ο)} : R k (M.run s (log.map Prod.fst)) →
      M.Along Q s (log.map Prod.fst) → Reaches M Q R s (some k, log)
  | failed {log : List (ι × ο)} : ¬ M.Along Q s (log.map Prod.fst) → Reaches M Q R s (none, log)

section Reaches

variable {κ : Type*} {R : κ → σ → Prop} {s : σ}

theorem Reaches.ne_none_iff {k : Option κ} {log : List (ι × ο)}
    (reaches : M.Reaches Q R s (k, log)) :
    k ≠ none ↔ M.Along Q s (log.map Prod.fst) := by
  cases reaches with
  | related _ along => exact iff_of_true (Option.some_ne_none _) along
  | failed broken => exact iff_of_false (fun some => some rfl) broken

theorem Reaches.related_of_some {k : κ} {log : List (ι × ο)}
    (reaches : M.Reaches Q R s (some k, log)) : R k (M.run s (log.map Prod.fst)) := by
  cases reaches with
  | related related _ => exact related

/-- Steps in front. -/
theorem Reaches.append {log : List (ι × ο)} {result : Option κ × List (ι × ο)}
    (along : M.Along Q s (log.map Prod.fst))
    (reaches : M.Reaches Q R (M.run s (log.map Prod.fst)) result) :
    M.Reaches Q R s (result.1, log ++ result.2) := by
  cases reaches with
  | related next later =>
      refine .related ?_ ?_
      · rw [List.map_append, run_append]
        exact next
      · rw [List.map_append]
        exact along_append.mpr ⟨along, later⟩
  | failed broken =>
      refine .failed fun all => broken ?_
      rw [List.map_append] at all
      exact (along_append.mp all).2

/-- The program as a part of another one. -/
theorem Reaches.map {μ : Type*} {T : μ → σ → Prop} {result : Option κ × List (ι × ο)}
    (reaches : M.Reaches Q R s result) (f : κ → μ) (implies : ∀ k t, R k t → T (f k) t) :
    M.Reaches Q T s (result.1.map f, result.2) := by
  cases reaches with
  | related next along => exact .related (implies _ _ next) along
  | failed broken => exact .failed broken

/-- **Refinement until a failure**: when every step of a program reaches what its log says, and it
stays where it is once it has failed, so does every run. -/
theorem run_reaches {θ : Type*} {N : Machine (Option κ) θ (List (ι × ο))} {C : κ → θ → Prop}
    (stays : ∀ i, N.step none i = (none, []))
    (stepped : ∀ k s i, R k s → C k i →
      M.Reaches Q R s (N.step (some k) i) ∧ M.Logs s (N.step (some k) i).2)
    {k : κ} (related : R k s) {inputs : List θ}
    (along : N.Along (fun k i => ∀ t, k = some t → C t i) (some k) inputs) :
    M.Reaches Q R s (N.run (some k) inputs, (N.outputs (some k) inputs).flatten) ∧
      M.Logs s (N.outputs (some k) inputs).flatten := by
  have idle : ∀ inputs, N.run none inputs = none ∧ (N.outputs none inputs).flatten = [] := by
    intro inputs
    induction inputs with
    | nil => exact ⟨rfl, rfl⟩
    | cons i rest ih =>
        rw [run_cons, outputs_cons, stays]
        exact ih
  induction inputs generalizing k s with
  | nil => exact ⟨.related related trivial, rfl⟩
  | cons i rest ih =>
      obtain ⟨reaches, answers⟩ := stepped k s i related (along.1 k rfl)
      have later := along.2
      rw [run_cons, outputs_cons, List.flatten_cons]
      generalize N.step (some k) i = result at reaches answers later ⊢
      cases reaches with
      | related next kept =>
          obtain ⟨further, more⟩ := ih next later
          exact ⟨further.append kept, answers.append more⟩
      | failed broken =>
          dsimp only at answers ⊢
          rw [(idle rest).1, (idle rest).2, List.append_nil]
          exact ⟨.failed broken, answers⟩

end Reaches

/-! ## Records of a run -/

/-- The machine together with a record of its run. -/
def withRecord {ρ : Type*} (M : Machine σ ι ο) (record : σ → ι → ρ → ρ) :
    Machine (σ × ρ) ι ο where
  step s i := (((M.step s.1 i).1, record s.1 i s.2), (M.step s.1 i).2)

/-- The machine does not read the record. -/
theorem withRecord_run {ρ : Type*} (record : σ → ι → ρ → ρ) (s : σ × ρ) (inputs : List ι) :
    ((M.withRecord record).run s inputs).1 = M.run s.1 inputs := by
  induction inputs generalizing s with
  | nil => rfl
  | cons i rest ih => exact ih _

theorem withRecord_along {ρ : Type*} (record : σ → ι → ρ → ρ) {s : σ × ρ} {inputs : List ι} :
    (M.withRecord record).Along (fun t i => P t.1 i) s inputs ↔ M.Along P s.1 inputs := by
  induction inputs generalizing s with
  | nil => rfl
  | cons i rest ih => exact and_congr_right fun _ => ih

theorem withRecord_outputs {ρ : Type*} (record : σ → ι → ρ → ρ) (s : σ × ρ) (inputs : List ι) :
    (M.withRecord record).outputs s inputs = M.outputs s.1 inputs := by
  induction inputs generalizing s with
  | nil => rfl
  | cons i rest ih => exact congrArg (_ :: ·) (ih _)

end Machine

end InputMachine
