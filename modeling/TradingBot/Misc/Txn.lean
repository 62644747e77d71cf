import Mathlib.Order.Defs.Unbundled

/-!
# Computations that raise and keep what they wrote

`Txn σ ε α` is a computation on a state `σ` that returns an `α` or raises an `ε` and keeps the
writes made before; `atomically` is the caller that rolls back. `Keeps` says that a computation
moves the state along a relation whichever way it ends; its rules follow the shape of a program.
-/

namespace TradingBot.Misc

/-- A computation on `σ` that returns `α` or raises `ε`, and its writes in either case. -/
def Txn (σ ε α : Type) : Type := σ → Except ε α × σ

namespace Txn

variable {σ ε α β : Type} {m : Txn σ ε α} {f : α → Txn σ ε β}

/-- Sequencing: an exception of the first part skips the second. -/
protected def bind (m : Txn σ ε α) (f : α → Txn σ ε β) : Txn σ ε β := fun s =>
  match m s with
  | (.ok a, s') => f a s'
  | (.error e, s') => (.error e, s')

instance : Monad (Txn σ ε) where
  pure a := fun s => (.ok a, s)
  bind := Txn.bind

/-- Raise `e`. -/
def raise (e : ε) : Txn σ ε α := fun s => (.error e, s)

/-- Run `m`; on an exception continue with the handler in the state `m` left behind. -/
def handle (m : Txn σ ε α) (h : ε → Txn σ ε α) : Txn σ ε α := fun s =>
  match m s with
  | (.ok a, s') => (.ok a, s')
  | (.error e, s') => h e s'

def read (f : σ → α) : Txn σ ε α := fun s => (.ok (f s), s)

def modify (f : σ → σ) : Txn σ ε Unit := fun s => (.ok (), f s)

def lift (r : Except ε α) : Txn σ ε α := fun s => (r, s)

def each (f : α → Txn σ ε Unit) : List α → Txn σ ε Unit
  | [] => pure ()
  | a :: as => f a >>= fun _ => each f as

def atomically (m : Txn σ ε α) (s : σ) : σ :=
  match m s with
  | (.ok _, s') => s'
  | (.error _, _) => s

@[simp] theorem pure_apply (a : α) (s : σ) : (pure a : Txn σ ε α) s = (.ok a, s) := rfl
@[simp] theorem raise_apply (e : ε) (s : σ) : (raise e : Txn σ ε α) s = (.error e, s) := rfl
@[simp] theorem modify_apply (f : σ → σ) (s : σ) :
    (modify f : Txn σ ε Unit) s = (.ok (), f s) := rfl
@[simp] theorem lift_apply (r : Except ε α) (s : σ) : (lift r : Txn σ ε α) s = (r, s) := rfl

theorem bind_apply (m : Txn σ ε α) (f : α → Txn σ ε β) (s : σ) :
    (m >>= f) s = match m s with
      | (.ok a, s') => f a s'
      | (.error e, s') => (.error e, s') := rfl

theorem bind_assoc {γ : Type} (m : Txn σ ε α) (f : α → Txn σ ε β) (g : β → Txn σ ε γ) :
    (m >>= f) >>= g = m >>= fun a => f a >>= g := by
  funext s
  simp only [bind_apply]
  rcases m s with ⟨r, s'⟩
  cases r <;> rfl

theorem snd_bind_pure (m : Txn σ ε α) (b : β) (s : σ) :
    ((m >>= fun _ => (pure b : Txn σ ε β)) s).2 = (m s).2 := by
  rw [bind_apply]
  rcases m s with ⟨r, s'⟩
  cases r <;> rfl

@[simp] theorem bind_raise (e : ε) (f : α → Txn σ ε β) : (raise e >>= f) = raise e := rfl

@[simp] theorem bind_read (g : σ → α) (f : α → Txn σ ε β) (s : σ) :
    (read g >>= f) s = f (g s) s := rfl

theorem bind_ok {s s' : σ} {b : β} :
    (m >>= f) s = (.ok b, s') ↔ ∃ a s1, m s = (.ok a, s1) ∧ f a s1 = (.ok b, s') := by
  rw [bind_apply]
  rcases hm : m s with ⟨r, s1⟩
  cases r with
  | ok a =>
    constructor
    · intro h
      exact ⟨a, s1, rfl, h⟩
    · rintro ⟨a', s1', h, hf⟩
      cases h
      exact hf
  | error e =>
    constructor
    · intro h
      cases h
    · rintro ⟨a', s1', h, _⟩
      cases h

/-- Whichever way it ends, `m` moves the state along `R`. -/
def Keeps (R : σ → σ → Prop) (m : Txn σ ε α) : Prop := ∀ s, R s (m s).2

section Rules

variable {R : σ → σ → Prop} [IsPreorder σ R]

theorem keeps_pure (a : α) : Keeps R (pure a : Txn σ ε α) := fun s => refl_of R s

theorem keeps_raise (e : ε) : Keeps R (raise e : Txn σ ε α) := fun s => refl_of R s

theorem keeps_read (f : σ → α) : Keeps R (read f : Txn σ ε α) := fun s => refl_of R s

theorem rel_bind {s : σ} (hm : R s (m s).2) (hf : ∀ a, Keeps R (f a)) : R s ((m >>= f) s).2 := by
  rw [bind_apply]
  rcases hs : m s with ⟨r, s'⟩
  rw [hs] at hm
  cases r with
  | ok a => exact trans_of R hm (hf a s')
  | error e => exact hm

theorem keeps_bind (hm : Keeps R m)
    (hf : ∀ a, Keeps R (f a)) : Keeps R (m >>= f) := fun s => rel_bind (hm s) hf

omit [IsPreorder σ R] in
theorem keeps_bind_read {f : σ → α} {k : α → Txn σ ε β}
    (hk : ∀ s, R s (k (f s) s).2) : Keeps R (read f >>= k) := fun s => hk s

omit [IsPreorder σ R] in
theorem keeps_ite {c : Prop} [Decidable c] {m' : Txn σ ε α} (hm : Keeps R m)
    (hm' : Keeps R m') : Keeps R (if c then m else m') := by
  split
  · exact hm
  · exact hm'

theorem keeps_handle {h : ε → Txn σ ε α} (hm : Keeps R m)
    (hh : ∀ e, Keeps R (h e)) : Keeps R (handle m h) := by
  intro s
  have hs' := hm s
  unfold handle
  rcases hs : m s with ⟨r, s'⟩
  rw [hs] at hs'
  cases r with
  | ok a => exact hs'
  | error e => exact trans_of R hs' (hh e s')

theorem keeps_each {f : α → Txn σ ε Unit} {as : List α} (hf : ∀ a ∈ as, Keeps R (f a)) :
    Keeps R (each f as) := by
  induction as with
  | nil => exact keeps_pure ()
  | cons a as ih =>
    refine keeps_bind (hf a List.mem_cons_self) fun _ => ih fun b hb => ?_
    exact hf b (List.mem_cons_of_mem a hb)

end Rules

end Txn

end TradingBot.Misc
