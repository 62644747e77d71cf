import TradingBot.Misc.Run
import TradingBot.Offer.Model

/-!
# Pending markers of uncertain trade forwards

`src/core/trade_forward_pending.py` for one idempotency key: a forward that ended uncertain is
retained as a marker in Redis; a reconciliation reads it, replays its payload against the home
server, writes it back with one more attempt and removes it after a definite answer. Each Redis
command is one step, and the commands of any number of calls interleave. A marker does not expire,
so the `expire` of a marking that finds one has no effect.

Where no two reconciliations are between read and write at once and each write finds the marker that
was read, the replays send its first payload, at most six times, and a removed marker comes back
only after a later forward. The write is unconditional: overlapping reconciliations break all three.
-/

namespace TradingBot.Trades.ForwardPending

open TradingBot TradingBot.Misc

/-- `RECONCILE_MAX_ATTEMPTS`. -/
def reconcileMaxAttempts : Nat := 6

/-- The retained body; `P` is the type of the payloads. -/
structure Marker (P : Type) where
  homeServer : Server
  payload : P
  createdAt : Int
  attempts : Nat
  deriving DecidableEq, Repr

def serializePending {P : Type} (payload : P) (homeServer : Server) (createdAt : Int) : Marker P :=
  { homeServer, payload, createdAt, attempts := 0 }

inductive Stage where
  | read
  | sent
  | answered (statusCode : Nat)
  deriving DecidableEq, Repr

/-- A call between two of its commands; a replay keeps the marker it read and which one that was. -/
inductive Call (P : Type) where
  | forwarded (homeServer : Server) (payload : P)
  | replaying (stage : Stage) (pending : Marker P) (number : Nat)
  | clearing
  | returned
  deriving DecidableEq, Repr

def Call.isReplaying {P : Type} : Call P → Bool
  | .replaying .. => true
  | _ => false

def Call.isForwarded {P : Type} : Call P → Bool
  | .forwarded .. => true
  | _ => false

inductive Event where
  | uncertain
  | removed
  deriving DecidableEq, Repr

/-- The key and the calls under way, with the payloads of the forwards that made a marker (oldest
first), the replays sent and the events (newest first). -/
structure Pending (P : Type) where
  marker : Option (Marker P)
  calls : List (Call P)
  retained : List P
  replays : List (Nat × P)
  history : List Event

def Pending.empty {P : Type} : Pending P := ⟨none, [], [], [], []⟩

/-- The next command of a call. `done` is false where Redis answers with an error. -/
inductive Operation (P : Type) where
  | forwardEnds (homeServer : Server) (payload : P)
  | mark (call : Nat) (now : Int) (done : Bool)
  | readPending
  | send (call : Nat)
  | answer (call : Nat) (statusCode : Nat)
  | raise (call : Nat)
  | writeBack (call : Nat) (done : Bool)
  | clearAnswered (call : Nat) (done : Bool)
  | clear
  deriving DecidableEq, Repr

variable {P : Type} {calls : List (Call P)} {call : Nat} {now next : Call P} {s : Pending P}
  {pending : Marker P}

namespace Pending

def number (s : Pending P) : Nat := s.retained.length - 1

def setCall (s : Pending P) (call : Nat) (next : Call P) : Pending P :=
  { s with calls := s.calls.set call next }

/-- `set` with `nx` (line 58). -/
def setAbsent (s : Pending P) (marker : Marker P) : Pending P :=
  match s.marker with
  | some _ => s
  | none =>
    { s with
      marker := some marker
      retained := s.retained ++ [marker.payload] }

/-- `get` and the checks before the replay (lines 152-172). -/
def readPending (s : Pending P) : Pending P :=
  match s.marker with
  | none => s
  | some pending =>
    if reconcileMaxAttempts ≤ pending.attempts then s
    else { s with calls := s.calls ++ [.replaying .read pending s.number] }

/-- The payload goes to `forward_trade_to_home_server`. -/
def send (s : Pending P) (call : Nat) (pending : Marker P) (number : Nat) : Pending P :=
  { s.setCall call (.replaying .sent pending number) with
    replays := (number, pending.payload) :: s.replays }

/-- `set` with one more attempt; a definite answer removes (lines 175-189). -/
def writeBack (s : Pending P) (call : Nat) (pending : Marker P) (statusCode : Nat)
    (done : Bool) : Pending P :=
  { s.setCall call (if 500 ≤ statusCode then .returned else .clearing) with
    marker := if done then some { pending with attempts := pending.attempts + 1 } else s.marker }

/-- `delete` after a definite answer (line 191). -/
def clearAnswered (s : Pending P) (call : Nat) (done : Bool) : Pending P :=
  if done then
    { s.setCall call .returned with
      marker := none
      history := if s.marker.isSome then .removed :: s.history else s.history }
  else s.setCall call .returned

/-- One command. A call that is not where the command belongs does nothing. -/
def step (s : Pending P) : Operation P → Pending P
  | .forwardEnds homeServer payload =>
    { s with
      calls := s.calls ++ [.forwarded homeServer payload]
      history := .uncertain :: s.history }
  | .mark call now done =>
    match s.calls[call]? with
    | some (.forwarded homeServer payload) =>
      if done then (s.setCall call .returned).setAbsent (serializePending payload homeServer now)
      else s.setCall call .returned
    | _ => s
  | .readPending => s.readPending
  | .send call =>
    match s.calls[call]? with
    | some (.replaying .read pending number) => s.send call pending number
    | _ => s
  | .answer call statusCode =>
    match s.calls[call]? with
    | some (.replaying .sent pending number) =>
      s.setCall call (.replaying (.answered statusCode) pending number)
    | _ => s
  | .raise call =>
    -- the forward raises something else than the errors that it turns into an answer
    match s.calls[call]? with
    | some (.replaying .sent _ _) => s.setCall call .returned
    | _ => s
  | .writeBack call done =>
    match s.calls[call]? with
    | some (.replaying (.answered statusCode) pending _) => s.writeBack call pending statusCode done
    | _ => s
  | .clearAnswered call done =>
    match s.calls[call]? with
    | some .clearing => s.clearAnswered call done
    | _ => s
  | .clear => { s with marker := none }

def replaysOf (s : Pending P) (number : Nat) : Nat :=
  s.replays.countP fun replay => replay.1 == number

end Pending

/-- After every removal by a definite answer, a forward ended uncertain. -/
def ReturnedByForward (history : List Event) : Prop :=
  ∀ before after, history = after ++ .removed :: before → Event.uncertain ∈ after

/-- Replays send the payload first retained in their marker, at most six times, and a marker there
after a removal is due to a later forward. -/
structure Kept (s : Pending P) : Prop where
  payloads : ∀ number payload, (number, payload) ∈ s.replays → s.retained[number]? = some payload
  bounded : ∀ number, s.replaysOf number ≤ reconcileMaxAttempts
  returns : s.marker.isSome → ReturnedByForward s.history

/-- A reconciliation reads the marker only when no other is between its read and its write; its
write finds the marker as read and does not fail; a replay's forward answers; and no marker is
removed while an uncertain forward waits to be marked. -/
def Undisturbed (s : Pending P) (operation : Operation P) (_ : Pending P) : Prop :=
  match operation with
  | .readPending =>
    (∀ pending, s.marker = some pending → reconcileMaxAttempts ≤ pending.attempts) ∨
      ∀ call ∈ s.calls, call.isReplaying = false
  | .raise call => ∀ pending number, s.calls[call]? ≠ some (.replaying .sent pending number)
  | .writeBack call done =>
    ∀ statusCode pending number,
      s.calls[call]? = some (.replaying (.answered statusCode) pending number) →
        done = true ∧ s.marker = some pending
  | .clearAnswered call done =>
    s.calls[call]? = some .clearing → done = true → s.marker.isSome →
      ∀ other ∈ s.calls, other.isForwarded = false
  | _ => True

def Single (calls : List (Call P)) : Prop :=
  ∀ (i j : Nat) (a b : Call P), calls[i]? = some a → calls[j]? = some b →
    a.isReplaying = true → b.isReplaying = true → i = j

theorem Single.set (h : Single calls)
    (hnow : calls[call]? = some now) (hnext : next.isReplaying = true → now.isReplaying = true) :
    Single (calls.set call next) := by
  -- a replaying call of the new list is one of the old list, at the same place
  have hold : ∀ (i : Nat) (a : Call P), (calls.set call next)[i]? = some a → a.isReplaying = true →
      ∃ b, calls[i]? = some b ∧ b.isReplaying = true := by
    intro i a hi ha
    rw [List.getElem?_set] at hi
    split at hi
    · next heq =>
      split at hi
      · cases hi
        exact ⟨now, heq ▸ hnow, hnext ha⟩
      · cases hi
    · exact ⟨a, hi, ha⟩
  intro i j a b hi hj ha hb
  obtain ⟨a', hi', ha'⟩ := hold i a hi ha
  obtain ⟨b', hj', hb'⟩ := hold j b hj hb
  exact h i j a' b' hi' hj' ha' hb'

theorem Single.append (h : Single calls)
    (hnext : next.isReplaying = true → ∀ call ∈ calls, call.isReplaying = false) :
    Single (calls ++ [next]) := by
  intro i j a b hi hj ha hb
  rw [List.getElem?_append] at hi hj
  split at hi
  · next hilt =>
    split at hj
    · exact h i j a b hi hj ha hb
    · next hjge =>
      rw [List.getElem?_singleton] at hj
      split at hj
      · cases hj
        have hfalse := hnext hb a (List.mem_of_getElem? hi)
        rw [hfalse] at ha
        cases ha
      · cases hj
  · next hige =>
    rw [List.getElem?_singleton] at hi
    split at hi
    · next hizero =>
      cases hi
      split at hj
      · have hfalse := hnext ha b (List.mem_of_getElem? hj)
        rw [hfalse] at hb
        cases hb
      · rw [List.getElem?_singleton] at hj
        split at hj
        · omega
        · cases hj
    · cases hi

theorem Single.eq_of_mem_set (h : Single calls)
    {other : Call P} (hnow : calls[call]? = some now) (hreplaying : now.isReplaying = true)
    (hother : other ∈ calls.set call next) (hor : other.isReplaying = true) : other = next := by
  obtain ⟨i, hi⟩ := List.mem_iff_getElem?.1 hother
  rw [List.getElem?_set] at hi
  split at hi
  · split at hi
    · exact (Option.some.inj hi).symm
    · cases hi
  · next hne => exact absurd (h call i now other hnow hi hreplaying hor) hne

/-! ## The invariant -/

/-- What a replay knows of its marker: the payload, that an attempt is left, and that it counts the
replays sent. -/
def ReplaySound (s : Pending P) (stage : Stage) (pending : Marker P) (number : Nat) : Prop :=
  s.retained[number]? = some pending.payload ∧ pending.attempts < reconcileMaxAttempts ∧
    s.replaysOf number ≤ pending.attempts + if stage = .read then 0 else 1

/-- The stored marker has the payload first retained and counts its replays, but for one not written
yet. -/
structure Sound (s : Pending P) : Prop where
  payloads : ∀ number payload, (number, payload) ∈ s.replays → s.retained[number]? = some payload
  bounded : ∀ number, s.replaysOf number ≤ reconcileMaxAttempts
  stored : ∀ marker, s.marker = some marker →
    s.retained[s.number]? = some marker.payload ∧ marker.attempts ≤ reconcileMaxAttempts
  counted : ∀ marker, s.marker = some marker →
    (∀ stage pending, .replaying stage pending s.number ∈ s.calls → stage = .read) →
      s.replaysOf s.number ≤ marker.attempts
  single : Single s.calls
  replaying : ∀ stage pending number, .replaying stage pending number ∈ s.calls →
    ReplaySound s stage pending number
  returns : (s.marker.isSome = true ∨ ∃ call ∈ s.calls, call.isForwarded = true) →
    ReturnedByForward s.history

theorem sound_empty : Sound (Pending.empty (P := P)) where
  payloads := fun _ _ h => by cases h
  bounded := fun _ => Nat.zero_le _
  stored := fun _ h => by cases h
  counted := fun _ h => by cases h
  single := fun _ _ _ _ h => by cases h
  replaying := fun _ _ _ h => by cases h
  returns := by
    rintro - before after h
    cases after <;> cases h

theorem Sound.kept (h : Sound s) : Kept s :=
  ⟨h.payloads, h.bounded, fun hsome => h.returns (.inl hsome)⟩

theorem returnedByForward_uncertain (history : List Event) :
    ReturnedByForward (.uncertain :: history) := by
  intro before after h
  cases after with
  | nil => cases h
  | cons event after =>
    rw [List.cons_append, List.cons.injEq] at h
    rw [← h.1]
    exact List.mem_cons_self

theorem Sound.replaysOf_length (h : Sound s) :
    s.replaysOf s.retained.length = 0 := by
  refine List.countP_eq_zero.2 fun replay hreplay heq => ?_
  have hfound := h.payloads replay.1 replay.2 hreplay
  have hlt : replay.1 < s.retained.length := (List.getElem?_eq_some_iff.1 hfound).1
  rw [eq_of_beq heq] at hlt
  exact Nat.lt_irrefl _ hlt

theorem mem_set_of_ne {other : Call P}
    (hnow : calls[call]? = some now) (hother : other ∈ calls) (hne : other ≠ now) :
    other ∈ calls.set call next := by
  obtain ⟨i, hi⟩ := List.mem_iff_getElem?.1 hother
  refine List.mem_iff_getElem?.2 ⟨i, ?_⟩
  rw [List.getElem?_set_ne, hi]
  rintro rfl
  exact hne (Option.some.inj (hi.symm.trans hnow))

theorem Sound.withCalls (h : Sound s) (calls : List (Call P)) (hsingle : Single calls)
    (hreplaying : ∀ stage pending number, .replaying stage pending number ∈ calls →
      ReplaySound s stage pending number)
    (hsent : ∀ stage pending, .replaying stage pending s.number ∈ s.calls → stage ≠ .read →
      ∃ stage', stage' ≠ .read ∧ .replaying stage' pending s.number ∈ calls)
    (hforwarded : ∀ call ∈ calls, call.isForwarded = true → call ∈ s.calls) :
    Sound { s with calls } where
  payloads := h.payloads
  bounded := h.bounded
  stored := h.stored
  counted := by
    intro marker hmarker hread
    refine h.counted marker hmarker fun stage pending hmem => ?_
    by_contra hne
    obtain ⟨stage', hne', hmem'⟩ := hsent stage pending hmem hne
    exact hne' (hread stage' pending hmem')
  single := hsingle
  replaying := hreplaying
  returns := by
    rintro (hsome | ⟨call, hcall, hf⟩)
    · exact h.returns (.inl hsome)
    · exact h.returns (.inr ⟨call, hforwarded call hcall hf, hf⟩)

theorem Sound.setReturned (h : Sound s)
    (hnow : s.calls[call]? = some now) (hidle : now.isReplaying = false) :
    Sound (s.setCall call .returned) := by
  refine h.withCalls _ (h.single.set hnow fun hf => by cases hf) ?_ ?_ ?_
  · intro stage pending number hmem
    rcases List.mem_or_eq_of_mem_set hmem with hold | hnew
    · exact h.replaying stage pending number hold
    · cases hnew
  · intro stage pending hmem hne
    refine ⟨stage, hne, mem_set_of_ne hnow hmem ?_⟩
    rintro rfl
    cases hidle
  · intro other hother hf
    rcases List.mem_or_eq_of_mem_set hother with hold | rfl
    · exact hold
    · cases hf

theorem Sound.clear (h : Sound s) : Sound { s with marker := none } where
  payloads := h.payloads
  bounded := h.bounded
  stored := fun _ hmarker => by cases hmarker
  counted := fun _ hmarker => by cases hmarker
  single := h.single
  replaying := h.replaying
  returns := by
    rintro (hsome | hforwarded)
    · cases hsome
    · exact h.returns (.inr hforwarded)

theorem Sound.forwardEnds (h : Sound s) (homeServer : Server) (payload : P) :
    Sound (s.step (.forwardEnds homeServer payload)) where
  payloads := h.payloads
  bounded := h.bounded
  stored := h.stored
  counted := fun marker hmarker hread =>
    h.counted marker hmarker fun stage pending hmem =>
      hread stage pending (List.mem_append_left _ hmem)
  single := h.single.append fun hf => by cases hf
  replaying := by
    intro stage pending number hmem
    rcases List.mem_append.1 hmem with hold | hnew
    · exact h.replaying stage pending number hold
    · cases List.mem_singleton.1 hnew
  returns := fun _ => returnedByForward_uncertain s.history

theorem Sound.setAbsent (h : Sound s) (payload : P) (homeServer : Server) (now : Int)
    (hreturns : ReturnedByForward s.history) :
    Sound (s.setAbsent (serializePending payload homeServer now)) := by
  unfold Pending.setAbsent
  cases hmarker : s.marker with
  | some _ => exact h
  | none =>
    have hnumber : (s.retained ++ [payload]).length - 1 = s.retained.length := by simp
    have hkept : ∀ (number : Nat) (p : P), s.retained[number]? = some p →
        (s.retained ++ [payload])[number]? = some p := by
      intro number p hfound
      rw [List.getElem?_append_left (List.getElem?_eq_some_iff.1 hfound).1, hfound]
    refine ⟨fun number p hmem => hkept number p (h.payloads number p hmem), h.bounded, ?_, ?_,
      h.single, ?_, fun _ => hreturns⟩
    · intro marker heq
      cases heq
      refine ⟨?_, Nat.zero_le _⟩
      simp only [Pending.number, serializePending, hnumber]
      simp
    · intro marker heq _
      cases heq
      simp only [Pending.number, serializePending, hnumber]
      exact Nat.le_of_eq h.replaysOf_length
    · intro stage pending number hmem
      obtain ⟨hpayload, hattempts, hreplays⟩ := h.replaying stage pending number hmem
      exact ⟨hkept number _ hpayload, hattempts, hreplays⟩

theorem Sound.mark (h : Sound s) (call : Nat) (now : Int) (done : Bool) :
    Sound (s.step (.mark call now done)) := by
  simp only [Pending.step]
  split
  · next homeServer payload hnow =>
    have hreturned := h.setReturned hnow rfl
    split
    · exact hreturned.setAbsent payload homeServer now
        (h.returns (.inr ⟨_, List.mem_of_getElem? hnow, rfl⟩))
    · exact hreturned
  · exact h

theorem Sound.readPending (h : Sound s)
    (halone : (∀ pending, s.marker = some pending → reconcileMaxAttempts ≤ pending.attempts) ∨
      ∀ call ∈ s.calls, call.isReplaying = false) :
    Sound s.readPending := by
  unfold Pending.readPending
  cases hmarker : s.marker with
  | none => exact h
  | some pending =>
    dsimp only
    split
    · exact h
    · next hleft =>
      have hidle : ∀ call ∈ s.calls, call.isReplaying = false := by
        rcases halone with hexhausted | hidle
        · exact absurd (hexhausted pending hmarker) hleft
        · exact hidle
      have hnone : ∀ stage marker number, .replaying stage marker number ∉ s.calls :=
        fun stage marker number hmem => by cases hidle _ hmem
      rw [← hmarker]
      refine h.withCalls _ (h.single.append fun _ => hidle) ?_ ?_ ?_
      · intro stage marker number hmem
        rcases List.mem_append.1 hmem with hold | hnew
        · exact absurd hold (hnone _ _ _)
        · cases List.mem_singleton.1 hnew
          exact ⟨(h.stored _ hmarker).1, Nat.lt_of_not_le hleft,
            h.counted _ hmarker fun stage marker hmem => absurd hmem (hnone _ _ _)⟩
      · exact fun stage marker hmem => absurd hmem (hnone _ _ _)
      · intro call hcall hforwarded
        rcases List.mem_append.1 hcall with hold | hnew
        · exact hold
        · cases List.mem_singleton.1 hnew
          cases hforwarded

theorem replaysOf_send (s : Pending P) (call : Nat) (pending : Marker P) (number other : Nat) :
    (s.send call pending number).replaysOf other =
      s.replaysOf other + if number = other then 1 else 0 := by
  simp [Pending.replaysOf, Pending.send, Pending.setCall, List.countP_cons]

variable {number : Nat}

theorem Sound.send (h : Sound s) (hnow : s.calls[call]? = some (.replaying .read pending number)) :
    Sound (s.send call pending number) := by
  obtain ⟨hpayload, hattempts, hreplays⟩ := h.replaying _ _ _ (List.mem_of_getElem? hnow)
  have hreplays : s.replaysOf number ≤ pending.attempts := hreplays
  have honly : ∀ stage marker other,
      .replaying stage marker other ∈ s.calls.set call (.replaying .sent pending number) →
        stage = .sent ∧ marker = pending ∧ other = number := by
    intro stage marker other hmem
    cases h.single.eq_of_mem_set hnow rfl hmem rfl
    exact ⟨rfl, rfl, rfl⟩
  have hset : Call.replaying .sent pending number ∈
      s.calls.set call (.replaying .sent pending number) :=
    List.mem_set (List.getElem?_eq_some_iff.1 hnow).1 _
  refine ⟨?_, ?_, h.stored, ?_, h.single.set hnow fun _ => rfl, ?_, ?_⟩
  · intro other payload hmem
    rcases List.mem_cons.1 hmem with heq | hold
    · cases heq
      exact hpayload
    · exact h.payloads other payload hold
  · intro other
    have hbound := h.bounded other
    rw [replaysOf_send]
    split
    · next heq =>
      rw [← heq]
      omega
    · exact hbound
  · intro marker hmarker hread
    have hne : number ≠ s.number := by
      rintro rfl
      cases hread _ _ hset
    have hcounted := h.counted marker hmarker fun stage other hmem => by
      by_contra hstage
      obtain ⟨-, -, heq⟩ := honly stage other s.number
        (mem_set_of_ne hnow hmem fun heq => hstage (by cases heq; rfl))
      exact hne heq.symm
    have hsame := replaysOf_send s call pending number s.number
    rw [if_neg hne] at hsame
    exact Nat.le_trans (Nat.le_of_eq hsame) hcounted
  · intro stage marker other hmem
    obtain ⟨rfl, rfl, rfl⟩ := honly stage marker other hmem
    refine ⟨hpayload, hattempts, ?_⟩
    rw [replaysOf_send, if_pos rfl]
    exact Nat.succ_le_succ hreplays
  · rintro (hsome | ⟨other, hother, hf⟩)
    · exact h.returns (.inl hsome)
    · rcases List.mem_or_eq_of_mem_set hother with hold | rfl
      · exact h.returns (.inr ⟨other, hold, hf⟩)
      · cases hf

theorem Sound.answer (h : Sound s)
    (hnow : s.calls[call]? = some (.replaying .sent pending number)) (statusCode : Nat) :
    Sound (s.setCall call (.replaying (.answered statusCode) pending number)) := by
  have hset : Call.replaying (.answered statusCode) pending number ∈
      s.calls.set call (.replaying (.answered statusCode) pending number) :=
    List.mem_set (List.getElem?_eq_some_iff.1 hnow).1 _
  refine h.withCalls _ (h.single.set hnow fun _ => rfl) ?_ ?_ ?_
  · intro stage marker other hmem
    cases h.single.eq_of_mem_set hnow rfl hmem rfl
    exact h.replaying .sent pending number (List.mem_of_getElem? hnow)
  · intro stage marker hmem hne
    by_cases heq : Call.replaying stage marker s.number = .replaying .sent pending number
    · cases heq
      exact ⟨_, by simp, hset⟩
    · exact ⟨stage, hne, mem_set_of_ne hnow hmem heq⟩
  · intro other hother hf
    rcases List.mem_or_eq_of_mem_set hother with hold | rfl
    · exact hold
    · cases hf

theorem Sound.writeBack (h : Sound s) {statusCode : Nat}
    (hnow : s.calls[call]? = some (.replaying (.answered statusCode) pending number))
    (hfound : s.marker = some pending) :
    Sound (s.writeBack call pending statusCode true) := by
  obtain ⟨hpayload, hattempts, hreplays⟩ := h.replaying _ _ _ (List.mem_of_getElem? hnow)
  have hreplays : s.replaysOf number ≤ pending.attempts + 1 := hreplays
  have hnext : (if 500 ≤ statusCode then Call.returned else .clearing : Call P).isReplaying =
      false := by
    split <;> rfl
  have hnone : ∀ stage marker other, .replaying stage marker other ∉
      s.calls.set call (if 500 ≤ statusCode then Call.returned else .clearing) := by
    intro stage marker other hmem
    rw [← h.single.eq_of_mem_set hnow rfl hmem rfl] at hnext
    cases hnext
  refine ⟨h.payloads, h.bounded, ?_, ?_, h.single.set hnow fun hf => ?_, ?_, ?_⟩
  · intro marker hmarker
    cases hmarker
    exact ⟨(h.stored _ hfound).1, hattempts⟩
  · intro marker hmarker _
    cases hmarker
    by_cases heq : number = s.number
    · rw [heq] at hreplays
      exact hreplays
    · have hcounted := h.counted _ hfound fun stage marker hmem => by
        refine absurd (mem_set_of_ne hnow hmem ?_) (hnone stage marker s.number)
        intro hcall
        cases hcall
        exact heq rfl
      exact Nat.le_succ_of_le hcounted
  · rw [hnext] at hf
    cases hf
  · exact fun stage marker other hmem => absurd hmem (hnone stage marker other)
  · exact fun _ => h.returns (.inl (by rw [hfound]; rfl))

theorem Sound.clearAnswered (h : Sound s) (hnow : s.calls[call]? = some .clearing) (done : Bool)
    (hwaiting : done = true → s.marker.isSome → ∀ other ∈ s.calls, other.isForwarded = false) :
    Sound (s.clearAnswered call done) := by
  have hreturned := h.setReturned hnow rfl
  unfold Pending.clearAnswered
  split
  · next hdone =>
    refine ⟨h.payloads, h.bounded, fun _ hmarker => absurd hmarker (by simp),
      fun _ hmarker => absurd hmarker (by simp), hreturned.single, hreturned.replaying, ?_⟩
    rintro (hsome | ⟨other, hother, hf⟩)
    · cases hsome
    · -- a forward that waits to be marked keeps the history as it is
      have hold : other ∈ s.calls := by
        rcases List.mem_or_eq_of_mem_set hother with hold | rfl
        · exact hold
        · cases hf
      have habsent : s.marker.isSome = false := by
        by_contra hsome
        rw [hwaiting hdone ((Bool.eq_false_or_eq_true _).resolve_right hsome) other hold] at hf
        cases hf
      rw [if_neg (by simp [habsent])]
      exact h.returns (.inr ⟨other, hold, hf⟩)
  · exact hreturned

theorem Sound.step (h : Sound s) (operation : Operation P)
    (hundisturbed : Undisturbed s operation (s.step operation)) : Sound (s.step operation) := by
  cases operation with
  | forwardEnds homeServer payload => exact h.forwardEnds homeServer payload
  | mark call now done => exact h.mark call now done
  | readPending => exact h.readPending hundisturbed
  | send call =>
    simp only [Pending.step]
    split
    · next hnow => exact h.send hnow
    · exact h
  | answer call statusCode =>
    simp only [Pending.step]
    split
    · next hnow => exact h.answer hnow statusCode
    · exact h
  | raise call =>
    simp only [Pending.step]
    split
    · next hnow => exact absurd hnow (hundisturbed _ _)
    · exact h
  | writeBack call done =>
    simp only [Pending.step]
    split
    · next hnow =>
      obtain ⟨rfl, hfound⟩ := hundisturbed _ _ _ hnow
      exact h.writeBack hnow hfound
    · exact h
  | clearAnswered call done =>
    simp only [Pending.step]
    split
    · next hnow => exact h.clearAnswered hnow done (hundisturbed hnow)
    · exact h
  | clear => exact h.clear

/-- In every run of undisturbed steps the replays of a marker send the payload first retained, are
at most six, and a removed marker comes back only after a later uncertain forward. -/
theorem replays_kept (operations : List (Operation P))
    (hundisturbed : EachStep Pending.step Undisturbed .empty operations) :
    Kept (run Pending.step .empty operations) :=
  (run_invariant (I := Sound) (fun _ operation h hstep => h.step operation hstep) operations .empty
    sound_empty hundisturbed).kept

/-- A reconciliation from its read to its write, as call `call`. -/
def replayed (call statusCode : Nat) : List (Operation Nat) :=
  [.readPending, .send call, .answer call statusCode, .writeBack call true]

def marked : List (Operation Nat) := [.forwardEnds .iran 7, .mark 0 0 true]

def reconciled : List (Operation Nat) :=
  marked ++ replayed 1 504 ++ replayed 2 200 ++
    [.clearAnswered 2 true, .forwardEnds .iran 8, .mark 3 1 true]

theorem reconciled_kept : Kept (run Pending.step .empty reconciled) := by
  refine replays_kept reconciled ?_
  simp [reconciled, marked, replayed, EachStep, Undisturbed, Pending.step, Pending.empty,
    Pending.setCall, Pending.setAbsent, Pending.readPending, Pending.send, Pending.writeBack,
    serializePending, Call.isReplaying, Call.isForwarded, reconcileMaxAttempts]

/-- Two reconciliations read the marker and send it; the first one is answered and removes it. -/
def overlapping : List (Operation Nat) :=
  marked ++ [.readPending, .readPending, .send 1, .send 2, .answer 2 504, .answer 1 200,
    .writeBack 1 true, .clearAnswered 1 true]

/-- The second one, which ended before the removal, writes the marker back. -/
def writtenLate : List (Operation Nat) := overlapping ++ [.writeBack 2 true]

/-- A later forward is marked in between: the write puts the old payload into its marker. -/
def rewritten : List (Operation Nat) :=
  overlapping ++ [.forwardEnds .iran 8, .mark 3 1 true, .writeBack 2 true, .readPending, .send 4]

def seventh : List (Operation Nat) :=
  marked ++ [1, 2, 3, 4, 5].flatMap (fun call => replayed call 504) ++
    [.readPending, .readPending, .send 6, .send 7]

/-- A replay with another marker's payload, seven replays of one marker, and a marker back with no
forward. -/
theorem overlapping_replays :
    (¬ ∀ number payload, (number, payload) ∈ (run Pending.step .empty rewritten).replays →
      (run Pending.step .empty rewritten).retained[number]? = some payload) ∧
    (¬ ∀ number, (run Pending.step .empty seventh).replaysOf number ≤ reconcileMaxAttempts) ∧
    ¬ ((run Pending.step .empty writtenLate).marker.isSome →
      ReturnedByForward (run Pending.step .empty writtenLate).history) := by
  refine ⟨fun h => ?_, fun h => ?_, fun h => ?_⟩
  · have hother := h 1 7 (by decide)
    revert hother
    decide
  · have hseven := h 0
    revert hseven
    decide
  · have hnone := h (by decide) [.uncertain] [] (by decide)
    cases hnone

end TradingBot.Trades.ForwardPending
