import Mathlib.Data.List.Basic

/-!
# Finite runs of a step function

Runs of a deterministic step function over a list of operations, with the induction rules of every
invariant proof: a preserved invariant holds at the end, a relation each step establishes holds at
every step, and a measure that certain steps raise bounds their number.
-/

namespace TradingBot.Misc

variable {σ ι : Type} {step : σ → ι → σ} {P C : σ → ι → σ → Prop} {I : σ → Prop}

/-- The state after a list of operations, executed from left to right. -/
def run (step : σ → ι → σ) (s : σ) (ops : List ι) : σ := ops.foldl step s

/-- `P` holds at every step of the run: of the state before, the operation and the state after. -/
def EachStep (step : σ → ι → σ) (P : σ → ι → σ → Prop) : σ → List ι → Prop
  | _, [] => True
  | s, op :: ops => P s op (step s op) ∧ EachStep step P (step s op) ops

instance EachStep.decidable (step : σ → ι → σ) (P : σ → ι → σ → Prop)
    [∀ s op s', Decidable (P s op s')] : ∀ s ops, Decidable (EachStep step P s ops)
  | _, [] => inferInstanceAs (Decidable True)
  | s, op :: ops =>
    haveI := EachStep.decidable step P (step s op) ops
    inferInstanceAs (Decidable (P s op (step s op) ∧ EachStep step P (step s op) ops))

@[simp] theorem run_nil (step : σ → ι → σ) (s : σ) : run step s [] = s := rfl

@[simp] theorem run_cons (step : σ → ι → σ) (s : σ) (op : ι) (ops : List ι) :
    run step s (op :: ops) = run step (step s op) ops := rfl

theorem run_append (step : σ → ι → σ) (s : σ) (before after : List ι) :
    run step s (before ++ after) = run step (run step s before) after := List.foldl_append

theorem eachStep_append {before after : List ι} :
    ∀ {s : σ}, EachStep step P s (before ++ after) ↔
      EachStep step P s before ∧ EachStep step P (run step s before) after := by
  induction before with
  | nil => exact ⟨fun h => ⟨trivial, h⟩, And.right⟩
  | cons op ops ih =>
    intro s
    rw [List.cons_append, EachStep, EachStep, ih, run_cons, and_assoc]

theorem run_invariant (preserve : ∀ s op, I s → C s op (step s op) → I (step s op)) :
    ∀ (ops : List ι) (s : σ), I s → EachStep step C s ops → I (run step s ops) := by
  intro ops
  induction ops with
  | nil => intro s h _; exact h
  | cons op ops ih =>
    intro s h hc
    exact ih _ (preserve s op h hc.1) hc.2

theorem eachStep_of_invariant (preserve : ∀ s op, I s → C s op (step s op) → I (step s op))
    (establish : ∀ s op, I s → C s op (step s op) → P s op (step s op)) :
    ∀ (ops : List ι) (s : σ), I s → EachStep step C s ops → EachStep step P s ops := by
  intro ops
  induction ops with
  | nil => intro s _ _; trivial
  | cons op ops ih =>
    intro s h hc
    exact ⟨establish s op h hc.1, ih _ (preserve s op h hc.1) hc.2⟩

theorem eachStep_true (step : σ → ι → σ) :
    ∀ (ops : List ι) (s : σ), EachStep step (fun _ _ _ => True) s ops := by
  intro ops
  induction ops with
  | nil => intro s; trivial
  | cons op ops ih => intro s; exact ⟨trivial, ih _⟩

theorem eachStep_of_mem :
    ∀ (ops : List ι) (s : σ), (∀ op ∈ ops, ∀ s s', P s op s') → EachStep step P s ops := by
  intro ops
  induction ops with
  | nil => intro s _; trivial
  | cons op ops ih =>
    intro s h
    exact ⟨h op List.mem_cons_self s _, ih _ fun op' hop' => h op' (List.mem_cons_of_mem op hop')⟩

/-- Where a step keeps `P` exactly when it meets `C`, `P` holds all along exactly when every step
meets `C`. -/
theorem eachStep_iff {P : σ → Prop} (preserve : ∀ s op, I s → I (step s op))
    (exact_step : ∀ s op, I s → P s → (P (step s op) ↔ C s op (step s op))) :
    ∀ (ops : List ι) (s : σ), I s → P s →
      (EachStep step (fun _ _ s' => P s') s ops ↔ EachStep step C s ops) := by
  intro ops
  induction ops with
  | nil => exact fun s _ _ => Iff.rfl
  | cons op ops ih =>
    intro s hI hP
    have hstep := exact_step s op hI hP
    constructor
    · rintro ⟨hnext, hrest⟩
      exact ⟨hstep.1 hnext, (ih _ (preserve s op hI) hnext).1 hrest⟩
    · rintro ⟨hcondition, hrest⟩
      have hnext := hstep.2 hcondition
      exact ⟨hnext, (ih _ (preserve s op hI) hnext).2 hrest⟩

/-- How many steps of the run meet `P`. -/
def countSteps (step : σ → ι → σ) (P : σ → ι → σ → Bool) : σ → List ι → Nat
  | _, [] => 0
  | s, op :: ops => (P s op (step s op)).toNat + countSteps step P (step s op) ops

theorem countSteps_le {P : σ → ι → σ → Bool} {m : σ → Nat} (preserve : ∀ s op, I s → I (step s op))
    (grows : ∀ s op, I s → m s + (P s op (step s op)).toNat ≤ m (step s op)) :
    ∀ (ops : List ι) (s : σ), I s → m s + countSteps step P s ops ≤ m (run step s ops) := by
  intro ops
  induction ops with
  | nil => intro s _; exact Nat.le_refl _
  | cons op ops ih =>
    intro s h
    have hstep := grows s op h
    have hrest := ih (step s op) (preserve s op h)
    rw [run_cons, countSteps]
    omega

end TradingBot.Misc
