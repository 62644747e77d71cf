import TradingBot.Misc.Run
import TradingBot.Misc.Table
import TradingBot.Telegram.Contract

/-!
# The feeder of offer edits

`InMemoryOfferEditFeeder` (telegram_delivery_queue_contract.py:1422): the pending edit of each
offer, with newer versions merged in, and the order in which edits leave. Within the lowest rank the
newest offers go first; an edit is stale after five minutes, and after twenty fresh ones a stale one
gets its turn.

Times are whole microseconds. `pops`, what left, the latest first, is read by no operation.
-/

namespace TradingBot.Telegram

open Misc

/-- The feeder's own actions, and others by their value (`TelegramDeliveryAction`,
telegram_delivery_queue_contract.py:63). -/
inductive EditAction where
  | partialOffer
  | tradedOffer
  | expiredOffer
  | cancelledOffer
  | otherActiveOffer
  | overtimeChannel
  | finalTailChannel
  | reconciliation
  | other (value : String)
  deriving DecidableEq, Repr

namespace EditAction

/-- `feeder_internal_rank(TelegramFeederKind.OFFER_EDIT, action)` (line 348), or its error. -/
def internalRank : EditAction → Except String Nat
  | partialOffer => .ok 0
  | tradedOffer => .ok 1
  | expiredOffer => .ok 2
  | cancelledOffer => .ok 3
  | otherActiveOffer | overtimeChannel | finalTailChannel => .ok 4
  | reconciliation => .ok 5
  | other value => .error ("action_not_allowed_for_feeder:offer_edit:" ++ value)

def isTerminal (action : EditAction) : Bool :=
  action ∈ [tradedOffer, expiredOffer, cancelledOffer]

end EditAction

/-- `TelegramOfferEditItem` (line 1404), ranked by its action. -/
structure EditItem where
  offerId : String
  sourceVersion : Int
  action : EditAction
  rank : Nat
  offerCreatedAt : Int
  firstEnqueuedAt : Int
  createdSequence : Nat
  channelMessageId : Option Int
  deriving DecidableEq, Repr

namespace EditItem

/-- `is_stale`: the edit has waited for `EDIT_STALE_AFTER_SECONDS`. -/
def isStale (item : EditItem) (now : Int) : Bool := 300000000 ≤ now - item.firstEnqueuedAt

/-- The order of `_newest_key`: the newest offer first, then the edit that was there first. -/
def newer (first second : EditItem) : Bool :=
  second.offerCreatedAt < first.offerCreatedAt ||
    (first.offerCreatedAt = second.offerCreatedAt &&
      first.createdSequence < second.createdSequence)

end EditItem

/-- An edit that left: its rank, whether it was stale, and whether a stale one of the rank waited. -/
structure EditPop where
  rank : Nat
  stale : Bool
  staleWaiting : Bool
  deriving DecidableEq, Repr

/-- `InMemoryOfferEditFeeder`. -/
structure EditFeeder where
  items : AList (fun _ : String => EditItem) := ∅
  nextSequence : Nat := 1
  freshSinceStaleByRank : AList (fun _ : Nat => Nat) := ∅
  pops : List EditPop := []

namespace EditFeeder

variable (feeder : EditFeeder)

def enqueue (offerId : String) (sourceVersion : Int) (action : EditAction)
    (offerCreatedAt enqueuedAt : Int) (channelMessageId : Option Int) :
    Except String (EditItem × Bool × EditFeeder) := do
  let rank ← action.internalRank
  match feeder.items.lookup offerId with
  | some existing =>
    if sourceVersion < existing.sourceVersion then return (existing, false, feeder)
    if existing.action.isTerminal ∧ action = .partialOffer then
      throw "terminal_offer_edit_cannot_revert_to_partial"
    let changed := existing.sourceVersion ≠ sourceVersion ∨ existing.action ≠ action ∨
      existing.channelMessageId ≠ channelMessageId
    let item := { existing with sourceVersion, action, rank, channelMessageId }
    return (item, changed, { feeder with items := feeder.items.insert offerId item })
  | none =>
    let item : EditItem :=
      { offerId, sourceVersion, action, rank, offerCreatedAt, channelMessageId
        firstEnqueuedAt := enqueuedAt
        createdSequence := feeder.nextSequence }
    return (item, true, { feeder with
      items := feeder.items.insert offerId item
      nextSequence := feeder.nextSequence + 1 })

def eligible : List EditItem :=
  (feeder.items.entries.map (·.2)).filter (·.channelMessageId.isSome)

def ofRank (rank : Nat) : List EditItem :=
  feeder.eligible.filter (·.rank = rank)

/-- `self._fresh_since_stale_by_rank.get(rank, 0)`. -/
def freshCount (rank : Nat) : Nat :=
  (feeder.freshSinceStaleByRank.lookup rank).getD 0

def release (item : EditItem) (rank count : Nat) (pop : EditPop) :
    EditFeeder :=
  { feeder with
    items := feeder.items.erase item.offerId
    freshSinceStaleByRank := feeder.freshSinceStaleByRank.insert rank count
    pops := pop :: feeder.pops }

def popNext (now : Int) : Option EditItem × EditFeeder :=
  match (feeder.eligible.map (·.rank)).min? with
  | none => (none, feeder)
  | some rank =>
    let fresh := (feeder.ofRank rank).filter fun item => !item.isStale now
    let stale := (feeder.ofRank rank).filter fun item => item.isStale now
    let freshCount := feeder.freshCount rank
    if stale ≠ [] ∧ (fresh = [] ∨ 20 ≤ freshCount) then
      match firstBy EditItem.newer stale with
      | some selected => (some selected, feeder.release selected rank 0 ⟨rank, true, true⟩)
      | none => (none, feeder)
    else
      match firstBy EditItem.newer fresh with
      | some selected =>
        (some selected, feeder.release selected rank (freshCount + 1)
          ⟨rank, false, stale ≠ []⟩)
      | none => (none, feeder)

end EditFeeder

inductive FeederCommand where
  | enqueue (offerId : String) (sourceVersion : Int) (action : EditAction)
      (offerCreatedAt enqueuedAt : Int) (channelMessageId : Option Int)
  | pop (now : Int)
  deriving DecidableEq, Repr

namespace EditFeeder

def step (feeder : EditFeeder) : FeederCommand → EditFeeder
  | .enqueue offerId sourceVersion action offerCreatedAt enqueuedAt channelMessageId =>
    match feeder.enqueue offerId sourceVersion action offerCreatedAt enqueuedAt channelMessageId with
    | .ok (_, _, feeder') => feeder'
    | .error _ => feeder
  | .pop now => (feeder.popNext now).2

/-- The fresh edits of a rank that left while a stale one waited, since the last stale one left. -/
def freshWhileWaiting (rank : Nat) : List EditPop → Nat
  | [] => 0
  | pop :: pops =>
    if pop.rank = rank then
      if pop.stale then 0 else freshWhileWaiting rank pops + pop.staleWaiting.toNat
    else freshWhileWaiting rank pops

/-- What a step that keeps an offer's edit pending makes of it. -/
def EditKept (R : EditItem → EditItem → Prop) (feeder : EditFeeder) (_ : FeederCommand)
    (feeder' : EditFeeder) : Prop :=
  ∀ offerId item item', feeder.items.lookup offerId = some item →
    feeder'.items.lookup offerId = some item' → R item item'

/-- The pending version does not decrease, nor does a final edit become one of a partial trade. -/
def Replaces (item item' : EditItem) : Prop :=
  item.sourceVersion ≤ item'.sourceVersion ∧
    (item.action.isTerminal = true → item'.action ≠ .partialOffer)

theorem replaces_refl (item : EditItem) : Replaces item item := by
  refine ⟨Int.le_refl _, ?_⟩
  intro hterminal hhalf
  rw [hhalf] at hterminal
  cases hterminal

/-- Edits are held under their offer, and a rank's count is at least the fresh edits that went
before a waiting stale one. -/
structure Ordered (feeder : EditFeeder) : Prop where
  key : ∀ entry ∈ feeder.items.entries, entry.2.offerId = entry.1
  counted : ∀ rank, freshWhileWaiting rank feeder.pops ≤ feeder.freshCount rank
  bounded : ∀ rank, freshWhileWaiting rank feeder.pops ≤ 20

variable {feeder : EditFeeder}

theorem enqueue_cases (hkey : ∀ entry ∈ feeder.items.entries,
      entry.2.offerId = entry.1) (offerId : String) (sourceVersion : Int) (action : EditAction)
    (offerCreatedAt enqueuedAt : Int) (channelMessageId : Option Int) :
    feeder.step (.enqueue offerId sourceVersion action offerCreatedAt enqueuedAt
        channelMessageId) = feeder ∨
      ∃ item nextSequence, item.offerId = offerId ∧
        (∀ existing, feeder.items.lookup offerId = some existing → Replaces existing item) ∧
        feeder.step (.enqueue offerId sourceVersion action offerCreatedAt enqueuedAt
          channelMessageId) =
          { feeder with items := feeder.items.insert offerId item, nextSequence } := by
  dsimp only [step, enqueue]
  cases action.internalRank with
  | error error => exact .inl rfl
  | ok rank =>
    cases hexisting : feeder.items.lookup offerId with
    | none =>
      refine .inr ⟨_, _, rfl, ?_, rfl⟩
      intro existing hnone
      cases hnone
    | some existing =>
      dsimp only [bind, Except.bind]
      by_cases hversion : sourceVersion < existing.sourceVersion
      · rw [if_pos hversion]
        exact .inl rfl
      · rw [if_neg hversion]
        by_cases hterminal : existing.action.isTerminal = true ∧ action = .partialOffer
        · rw [if_pos hterminal]
          exact .inl rfl
        · rw [if_neg hterminal]
          have hoffer : existing.offerId = offerId :=
            hkey ⟨offerId, existing⟩ (lookup_eq_some_iff.mp hexisting)
          refine .inr ⟨{ existing with sourceVersion, action, rank, channelMessageId }, _, hoffer,
            ?_, rfl⟩
          intro existing' hsome
          cases hsome
          exact ⟨not_lt.mp hversion, fun hend hhalf => hterminal ⟨hend, hhalf⟩⟩

/-- One pending edit leaves: a stale one, and the count starts anew, or a fresh one, and a stale one
was waiting only while the count was below twenty. -/
theorem popNext_cases (feeder : EditFeeder) (now : Int) :
    (feeder.popNext now).2 = feeder ∨ ∃ item rank count pop,
      (feeder.popNext now).2 = feeder.release item rank count pop ∧ pop.rank = rank ∧
      (pop.stale = true ∨ (pop.stale = false ∧ count = feeder.freshCount rank + 1 ∧
        (pop.staleWaiting = true → feeder.freshCount rank < 20))) := by
  unfold popNext
  cases (feeder.eligible.map (·.rank)).min? with
  | none => exact .inl rfl
  | some rank =>
    dsimp only
    by_cases hstale : (feeder.ofRank rank).filter (fun item => item.isStale now) ≠ [] ∧
      ((feeder.ofRank rank).filter (fun item => !item.isStale now) = [] ∨
        20 ≤ feeder.freshCount rank)
    · rw [if_pos hstale]
      cases firstBy EditItem.newer ((feeder.ofRank rank).filter fun item => item.isStale now) with
      | none => exact .inl rfl
      | some item => exact .inr ⟨item, rank, 0, _, rfl, rfl, .inl rfl⟩
    · rw [if_neg hstale]
      cases hfresh : firstBy EditItem.newer
          ((feeder.ofRank rank).filter fun item => !item.isStale now) with
      | none => exact .inl rfl
      | some item =>
        refine .inr ⟨item, rank, _, _, rfl, rfl, .inr ⟨rfl, rfl, ?_⟩⟩
        intro hwaiting
        have hsome : (feeder.ofRank rank).filter (fun item => item.isStale now) ≠ [] :=
          of_decide_eq_true hwaiting
        exact not_le.mp fun hcount => hstale ⟨hsome, .inr hcount⟩

theorem freshCount_release (feeder : EditFeeder) (item : EditItem) (rank count other : Nat)
    (pop : EditPop) : (feeder.release item rank count pop).freshCount other =
      if other = rank then count else feeder.freshCount other := by
  unfold freshCount release
  rw [lookup_insert]
  split <;> rfl

theorem Ordered.popNext (h : Ordered feeder) (now : Int) :
    Ordered (feeder.popNext now).2 := by
  obtain hsame | ⟨item, rank, count, pop, hrelease, hrank, hpop⟩ := popNext_cases feeder now
  · rw [hsame]
    exact h
  · rw [hrelease]
    have hwaiting : ∀ other, freshWhileWaiting other (pop :: feeder.pops) ≤
        (if other = rank then count else feeder.freshCount other) ∧
        freshWhileWaiting other (pop :: feeder.pops) ≤ 20 := by
      intro other
      have hcounted := h.counted other
      have hbounded := h.bounded other
      unfold freshWhileWaiting
      by_cases hother : other = rank
      · rw [if_pos hother, if_pos (hrank.trans hother.symm)]
        subst hother
        obtain hstale | ⟨hfresh, hcount, hlow⟩ := hpop
        · rw [if_pos hstale]
          omega
        · rw [if_neg (by rw [hfresh]; exact Bool.false_ne_true)]
          cases hwait : pop.staleWaiting with
          | false =>
            rw [Bool.toNat_false]
            omega
          | true =>
            have hcount20 := hlow hwait
            rw [Bool.toNat_true]
            omega
      · rw [if_neg hother, if_neg fun heq => hother (heq.symm.trans hrank)]
        exact ⟨hcounted, hbounded⟩
    refine ⟨?_, ?_, fun other => (hwaiting other).2⟩
    · intro entry hentry
      exact h.key entry ((List.kerase_sublist item.offerId feeder.items.entries).subset hentry)
    · intro other
      rw [freshCount_release]
      exact (hwaiting other).1

theorem Ordered.enqueue (h : Ordered feeder) {offerId : String}
    {item : EditItem} (hitem : item.offerId = offerId) (nextSequence : Nat) :
    Ordered { feeder with items := feeder.items.insert offerId item, nextSequence } := by
  refine ⟨?_, h.counted, h.bounded⟩
  intro entry hentry
  rw [AList.entries_insert] at hentry
  obtain hnew | hold := List.mem_cons.mp hentry
  · rw [hnew]
    exact hitem
  · exact h.key entry ((List.kerase_sublist offerId feeder.items.entries).subset hold)

theorem Ordered.step (h : Ordered feeder) (command : FeederCommand) :
    Ordered (feeder.step command) := by
  cases command with
  | pop now => exact h.popNext now
  | enqueue offerId sourceVersion action offerCreatedAt enqueuedAt channelMessageId =>
    obtain hsame | ⟨item, nextSequence, hitem, -, hfeeder⟩ := enqueue_cases h.key offerId
      sourceVersion action offerCreatedAt enqueuedAt channelMessageId
    · rw [hsame]
      exact h
    · rw [hfeeder]
      exact h.enqueue hitem nextSequence

theorem editKept_step (h : Ordered feeder) (command : FeederCommand) :
    EditKept Replaces feeder command (feeder.step command) := by
  intro pending item item' hitem hitem'
  have hunchanged : feeder.items.lookup pending = some item' → Replaces item item' := by
    intro hsame
    rw [hitem] at hsame
    cases hsame
    exact replaces_refl item
  cases command with
  | pop now =>
    obtain hsame | ⟨gone, rank, count, pop, hrelease, -⟩ := popNext_cases feeder now
    · rw [step, hsame] at hitem'
      exact hunchanged hitem'
    · rw [step, hrelease] at hitem'
      change (feeder.items.erase gone.offerId).lookup pending = some item' at hitem'
      by_cases hgone : pending = gone.offerId
      · rw [hgone, AList.lookup_erase] at hitem'
        cases hitem'
      · rw [AList.lookup_erase_ne hgone] at hitem'
        exact hunchanged hitem'
  | enqueue offerId sourceVersion action offerCreatedAt enqueuedAt channelMessageId =>
    obtain hsame | ⟨new, nextSequence, -, hreplaces, hfeeder⟩ := enqueue_cases h.key offerId
      sourceVersion action offerCreatedAt enqueuedAt channelMessageId
    · rw [hsame] at hitem'
      exact hunchanged hitem'
    · rw [hfeeder] at hitem'
      change (feeder.items.insert offerId new).lookup pending = some item' at hitem'
      rw [lookup_insert] at hitem'
      by_cases hoffer : pending = offerId
      · rw [if_pos hoffer] at hitem'
        cases hitem'
        rw [hoffer] at hitem
        exact hreplaces item hitem
      · rw [if_neg hoffer] at hitem'
        exact hunchanged hitem'

theorem ordered_empty : Ordered {} := by
  refine ⟨?_, fun rank => Nat.zero_le _, fun rank => Nat.zero_le _⟩
  intro entry hentry
  cases hentry

theorem nodup_offerIds (h : Ordered feeder) :
    (feeder.items.entries.map (·.2.offerId)).Nodup := by
  have hkeys : feeder.items.entries.map (·.2.offerId) = feeder.items.keys :=
    List.map_congr_left h.key
  rw [hkeys]
  exact feeder.items.nodupKeys

/-- After any operations the feeder holds at most one pending edit of each offer; the version of a
pending edit never decreases, a final edit is not replaced by one of a partial trade; and of each
rank at most twenty fresh edits left between two stale ones while a stale one was waiting. -/
theorem edit_feeder_order (commands : List FeederCommand) :
    ((run step {} commands).items.entries.map (·.2.offerId)).Nodup ∧
      EachStep step (EditKept Replaces) {} commands ∧
      ∀ rank, freshWhileWaiting rank (run step {} commands).pops ≤ 20 := by
  have hpreserve : ∀ (feeder : EditFeeder) (command : FeederCommand), Ordered feeder → True →
      Ordered (feeder.step command) := fun _ command h _ => h.step command
  have hordered : Ordered (run step {} commands) :=
    run_invariant hpreserve commands _ ordered_empty (eachStep_true step commands _)
  refine ⟨nodup_offerIds hordered, ?_, hordered.bounded⟩
  exact eachStep_of_invariant hpreserve (fun _ command h _ => editKept_step h command) commands _
    ordered_empty (eachStep_true step commands _)

/-- An edit of a traded offer is replaced by one of the still active offer, of the same version. -/
theorem terminal_edit_replaced :
    ¬ EachStep step (EditKept fun item item' =>
        item.action.isTerminal = true → item'.action.isTerminal = true) {}
      [.enqueue "1" 1 .tradedOffer 0 0 (some 7), .enqueue "1" 1 .otherActiveOffer 0 0 (some 7)] := by
  intro h
  exact absurd (h.2.1 "1" _ _ rfl rfl rfl) (by decide)

end EditFeeder

end TradingBot.Telegram
