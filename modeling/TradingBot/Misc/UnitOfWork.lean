import Mathlib.Data.List.Forall2
import Mathlib.Order.Defs.Unbundled

/-!
# A unit of work with manual flush

An identity map over rows of a table without automatic flush: each row is the version of the
database (`stored`, absent for a row only added) and the in-memory object (`live`). A query
evaluates its condition on the stored versions and returns the objects; writes go to the objects;
`flush` makes the stored versions equal to them.

`Step E` is what such work can do to a row when every write moves it along `E`: the object moves
along `E`, and the stored version is untouched or a point the object passed through.
-/

namespace TradingBot.Misc

/-- One row of the identity map: its flushed version, if any, and the in-memory object. -/
structure Tracked (ρ : Type) where
  stored : Option ρ
  live : ρ
  deriving DecidableEq, Repr

namespace UnitOfWork

variable {ρ : Type}

/-- The identity map of a transaction that has read the rows and changed nothing yet. -/
def load (rows : List ρ) : List (Tracked ρ) := rows.map (fun r => ⟨some r, r⟩)

def live (w : List (Tracked ρ)) : List ρ := w.map Tracked.live

def stored (w : List (Tracked ρ)) : List ρ := w.filterMap Tracked.stored

def flush (w : List (Tracked ρ)) : List (Tracked ρ) := w.map (fun t => ⟨some t.live, t.live⟩)

def select (p : ρ → Bool) (w : List (Tracked ρ)) : List ρ :=
  (w.filter (fun t => t.stored.any p)).map Tracked.live

def insert (r : ρ) (w : List (Tracked ρ)) : List (Tracked ρ) := w ++ [⟨none, r⟩]

/-- Change the objects that `hit` selects in memory. -/
def update (hit : ρ → Bool) (f : ρ → ρ) (w : List (Tracked ρ)) : List (Tracked ρ) :=
  w.map (fun t => if hit t.live then { t with live := f t.live } else t)

@[simp] theorem live_load (rows : List ρ) : live (load rows) = rows := by
  simp [live, load, Function.comp_def]

@[simp] theorem stored_load (rows : List ρ) : stored (load rows) = rows := by
  simp [stored, load, List.filterMap_map]

@[simp] theorem live_flush (w : List (Tracked ρ)) : live (flush w) = live w := by
  simp [live, flush, Function.comp_def]

@[simp] theorem flush_load (rows : List ρ) : flush (load rows) = load rows := by
  simp [flush, load, Function.comp_def]

theorem load_live_flush (w : List (Tracked ρ)) : load (live w) = flush w := by
  simp [load, live, flush, Function.comp_def]

theorem live_insert (r : ρ) (w : List (Tracked ρ)) : live (insert r w) = live w ++ [r] := by
  simp [live, insert]

theorem live_update (hit : ρ → Bool) (f : ρ → ρ) (w : List (Tracked ρ)) :
    live (update hit f w) = (live w).map (fun r => if hit r then f r else r) := by
  simp only [live, update, List.map_map]
  apply List.map_congr_left
  intro t _
  simp only [Function.comp_apply]
  split <;> rfl

theorem mem_select {p : ρ → Bool} {w : List (Tracked ρ)} {r : ρ} :
    r ∈ select p w ↔ ∃ t ∈ w, t.live = r ∧ ∃ old, t.stored = some old ∧ p old = true := by
  simp only [select, List.mem_map, List.mem_filter, Option.any_eq_true]
  constructor
  · rintro ⟨t, ⟨ht, old, hs, hp⟩, rfl⟩
    exact ⟨t, ht, rfl, old, hs, hp⟩
  · rintro ⟨t, ht, rfl, old, hs, hp⟩
    exact ⟨t, ⟨ht, old, hs, hp⟩, rfl⟩

theorem select_flush (p : ρ → Bool) (w : List (Tracked ρ)) :
    select p (flush w) = (live w).filter p := by
  induction w with
  | nil => rfl
  | cons t w ih =>
    simp only [select, flush, live, List.map_cons, List.filter_cons, Option.any_some] at ih ⊢
    split <;> simp [ih]

theorem select_load (p : ρ → Bool) (rows : List ρ) : select p (load rows) = rows.filter p := by
  have h := select_flush p (load rows)
  rwa [flush_load, live_load] at h

theorem forall₂_exists_after {α β : Type} {E : α → β → Prop} {l : List α} {l' : List β}
    (h : List.Forall₂ E l l') : ∀ a ∈ l, ∃ b ∈ l', E a b := by
  induction h with
  | nil => simp
  | cons hab _ ih =>
    intro a ha
    rcases List.mem_cons.mp ha with rfl | ha
    · exact ⟨_, List.mem_cons_self, hab⟩
    · obtain ⟨b, hb, he⟩ := ih a ha
      exact ⟨b, List.mem_cons_of_mem _ hb, he⟩

theorem forall₂_exists_before {α β : Type} {E : α → β → Prop} {l : List α} {l' : List β}
    (h : List.Forall₂ E l l') : ∀ b ∈ l', ∃ a ∈ l, E a b := forall₂_exists_after h.flip

theorem pairwise_of_forall₂ {E R S : ρ → ρ → Prop} {l l' : List ρ} (h : List.Forall₂ E l l')
    (hS : ∀ a b a' b', E a a' → E b b' → R a b → S a' b') (hl : l.Pairwise R) :
    l'.Pairwise S := by
  induction h with
  | nil => exact .nil
  | cons hab htail ih =>
    obtain ⟨hhead, hrest⟩ := List.pairwise_cons.mp hl
    refine List.pairwise_cons.mpr ⟨fun b' hb' => ?_, ih hrest⟩
    obtain ⟨b, hb, he⟩ := forall₂_exists_before htail b' hb'
    exact hS _ _ _ _ hab he (hhead b hb)

theorem forall₂_trans {R S T : ρ → ρ → Prop} (trans : ∀ a b c, R a b → S b c → T a c) :
    ∀ {l l' l'' : List ρ}, List.Forall₂ R l l' → List.Forall₂ S l' l'' → List.Forall₂ T l l''
  | _, _, _, .nil, .nil => .nil
  | _, _, _, .cons h t, .cons h' t' => .cons (trans _ _ _ h h') (forall₂_trans trans t t')

/-- What work on one row can do when each write moves the object along `E`. -/
def Step (E : ρ → ρ → Prop) (t t' : Tracked ρ) : Prop :=
  E t.live t'.live ∧
    (t'.stored = t.stored ∨ ∃ r, t'.stored = some r ∧ E t.live r ∧ E r t'.live)

/-- Every row moves by `Step E`; none is added or removed. -/
def Moves (E : ρ → ρ → Prop) : List (Tracked ρ) → List (Tracked ρ) → Prop :=
  List.Forall₂ (Step E)

section Moves

variable {E : ρ → ρ → Prop}

instance [IsPreorder ρ E] : IsPreorder (Tracked ρ) (Step E) where
  refl t := ⟨refl_of E t.live, .inl rfl⟩
  trans t t' t'' h h' := by
    obtain ⟨hl, hs⟩ := h
    obtain ⟨hl', hs'⟩ := h'
    refine ⟨trans_of E hl hl', ?_⟩
    rcases hs' with hs' | ⟨r, hr, h1, h2⟩
    · rcases hs with hs | ⟨r, hr, h1, h2⟩
      · exact .inl (hs'.trans hs)
      · exact .inr ⟨r, hs'.trans hr, h1, trans_of E h2 hl'⟩
    · exact .inr ⟨r, hr, trans_of E hl h1, h2⟩

theorem moves_refl [IsPreorder ρ E] : ∀ w : List (Tracked ρ), Moves E w w
  | [] => .nil
  | t :: w => .cons (refl_of (Step E) t) (moves_refl w)

theorem moves_trans [IsPreorder ρ E] {a b c : List (Tracked ρ)} (h : Moves E a b)
    (h' : Moves E b c) : Moves E a c :=
  forall₂_trans (R := Step E) (S := Step E) (T := Step E) (fun _ _ _ => trans_of (Step E)) h h'

instance [IsPreorder ρ E] : IsPreorder (List (Tracked ρ)) (Moves E) where
  refl := moves_refl
  trans _ _ _ := moves_trans

theorem moves_flush [IsPreorder ρ E] : ∀ w : List (Tracked ρ), Moves E w (flush w)
  | [] => .nil
  | t :: w =>
    .cons ⟨refl_of E _, .inr ⟨t.live, rfl, refl_of E _, refl_of E _⟩⟩ (moves_flush w)

theorem moves_update [IsPreorder ρ E] (hit : ρ → Bool) (f : ρ → ρ) :
    ∀ w : List (Tracked ρ), (∀ r ∈ live w, hit r = true → E r (f r)) → Moves E w (update hit f w)
  | [], _ => .nil
  | t :: w, h => by
    refine .cons ?_ (moves_update hit f w fun r hr => h r (List.mem_cons_of_mem _ hr))
    dsimp only
    split
    · exact ⟨h t.live List.mem_cons_self ‹_›, .inl rfl⟩
    · exact refl_of (Step E) t

theorem Moves.exists_before {w w' : List (Tracked ρ)} (h : Moves E w w') {t' : Tracked ρ}
    (ht : t' ∈ w') : ∃ t ∈ w, Step E t t' := forall₂_exists_before h t' ht

theorem Moves.mono {E' : ρ → ρ → Prop} (hE : ∀ a b, E a b → E' a b) {w w' : List (Tracked ρ)}
    (h : Moves E w w') : Moves E' w w' := by
  refine List.Forall₂.imp (fun t t' hstep => ⟨hE _ _ hstep.1, ?_⟩) h
  rcases hstep.2 with hsame | ⟨r, hr, h1, h2⟩
  · exact .inl hsame
  · exact .inr ⟨r, hr, hE _ _ h1, hE _ _ h2⟩

theorem Moves.live_forall₂ {w w' : List (Tracked ρ)} (h : Moves E w w') :
    List.Forall₂ E (live w) (live w') := by
  induction h with
  | nil => exact .nil
  | cons hstep _ ih => exact .cons hstep.1 ih

end Moves

theorem countP_le_of_forall₂ {E : ρ → ρ → Prop} {p : ρ → Bool}
    (back : ∀ a b, E a b → p b = true → p a = true) :
    ∀ {l l' : List ρ}, List.Forall₂ E l l' → l'.countP p ≤ l.countP p
  | _, _, .nil => Nat.le_refl _
  | _, _, .cons (a := a) (b := b) h t => by
    have ih := countP_le_of_forall₂ back t
    simp only [List.countP_cons]
    by_cases hb : p b = true
    · simp only [hb, back a b h hb, if_true]
      omega
    · simp only [hb, Bool.false_eq_true, if_false]
      omega

end UnitOfWork

end TradingBot.Misc
