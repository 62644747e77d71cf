import Mathlib.Data.List.Sort
import TradingBot.Misc.Locks
import TradingBot.Misc.Rows
import TradingBot.Misc.Run
import TradingBot.Offer.Expiry

/-!
# The end of an outage

`src/core/services/cross_server_recovery_service.py`: after an outage the active offers of a server
from before the cutoff are expired in batches, and the gate on the publication of active offers is
cleared when there are none. A call is a transaction whose statements interleave with others. The
count of the candidates sees what is committed; the selection skips rows locked by others, which
keep their committed status until those end.

No path of the source makes an offer active again, and no new offer is from before the cutoff.
-/

namespace TradingBot.OutageRecovery

open TradingBot.Misc

/-- `SyncRecoveryHealthSnapshot`. -/
structure SyncRecoveryHealthSnapshot where
  unsyncedChangeLogCount : Int
  outboundQueue : Int
  retryQueue : Int
  redisOk : Bool
  deriving DecidableEq, Repr

def SyncRecoveryHealthSnapshot.clean (health : SyncRecoveryHealthSnapshot) : Bool :=
  health.redisOk && health.unsyncedChangeLogCount = 0 && health.outboundQueue = 0 &&
    health.retryQueue = 0

structure RecoveryCall where
  outageClass : String
  serverMode : Server
  dryRun : Bool
  limit : Int
  health : SyncRecoveryHealthSnapshot
  now : Int
  deriving DecidableEq, Repr

structure RecoveryReport where
  status : String
  candidateCount : Nat
  candidates : List Offer
  expiredOffers : List Offer
  expiredCount : Nat
  ownerNotificationCount : Nat
  operatorAction : String
  gateCleared : Bool
  deriving DecidableEq, Repr

inductive CallStage where
  | begun (call : RecoveryCall)
  | prepared (call : RecoveryCall)
  | counted (call : RecoveryCall) (total : Nat)
  | selected (call : RecoveryCall) (total : Nat) (candidates : List Offer)
  | returned (report : RecoveryReport)
  | raised (error : String)
  | closed
  deriving DecidableEq, Repr

def CallStage.call? : CallStage → Option RecoveryCall
  | .begun call | .prepared call | .counted call _ | .selected call _ _ => some call
  | .returned _ | .raised _ | .closed => none

/-- Committed offers, locks of their rows, notifications, the gate and the calls by transaction. -/
structure RecoveryState where
  offers : List Offer
  locks : Locks Nat
  notifications : List (Nat × String)
  gate : Option String
  calls : Nat → Option CallStage

inductive RecoveryOp where
  | start (txn : Nat) (call : RecoveryCall)
  | next (txn : Nat)
  | lock (txn offerId : Nat)
  | finish (txn : Nat) (statuses : List (Nat × OfferStatus))
  | create (offer : Offer)
  | setGate (payload : Option String)

def isCandidate (cutoff : Int) (mode : Server) (offer : Offer) : Bool :=
  offer.status = .active && offer.homeServer = serverName mode && offer.createdAt.any (· ≤ cutoff)

/-- `count_recovery_active_offer_candidates` (line 213). -/
def countCandidates (cutoff : Int) (mode : Server) (offers : List Offer) : Nat :=
  offers.countP (isCandidate cutoff mode)

/-- `ORDER BY created_at, id`. -/
def candidateBefore (a b : Offer) : Prop :=
  a.createdAt.getD 0 < b.createdAt.getD 0 ∨ a.createdAt.getD 0 = b.createdAt.getD 0 ∧ a.id ≤ b.id

instance : DecidableRel candidateBefore := fun _ _ => inferInstanceAs (Decidable (_ ∨ _))

def isFree (locks : Locks Nat) (txn : Nat) (offer : Offer) : Bool :=
  locks offer.id = none || locks offer.id = some txn

/-- `load_recovery_active_offer_candidates` (line 234): locked rows are skipped before the limit counts. -/
def loadCandidates (cutoff : Int) (s : RecoveryState) (txn : Nat) (call : RecoveryCall) : List Offer :=
  (((s.offers.filter (isCandidate cutoff call.serverMode)).insertionSort candidateBefore).filter
    (isFree s.locks txn)).take (if call.limit < 1 then 1 else call.limit.toNat)

/-- `_normalize_outage_class`. -/
def outageClassValid (outageClass : String) : Bool :=
  (pyStrip outageClass).toLower ∈ ["medium", "long"]

/-- `_owner_notification_message`, after its fixed text. -/
def ownerNotificationMessage (offer : Offer) : String :=
  if offer.offerPublicId = "" then toString offer.id else offer.offerPublicId

/-- `_add_owner_notifications`. -/
def ownerNotifications (offers : List Offer) : List (Nat × String) :=
  offers.filterMap fun offer =>
    match offer.userId with
    | none | some 0 => none
    | some (user + 1) => some (user + 1, ownerNotificationMessage offer)

def recoveryExpiry (mode : Server) : OfferExpiryCommand where
  reason := recoveryFinalizationReason
  sourceSurface := .system
  sourceServer := some (serverName mode)

def writeOffers (expired : List Offer) (offers : List Offer) : List Offer :=
  offers.map fun row => (expired.find? fun offer => offer.id = row.id).getD row

def setCall (s : RecoveryState) (txn : Nat) (stage : CallStage) : RecoveryState :=
  { s with calls := Function.update s.calls txn (some stage) }

def plainReport (total : Nat) (candidates : List Offer) (status action : String) (cleared : Bool) :
    RecoveryReport :=
  ⟨status, total, candidates, [], 0, 0, action, cleared⟩

/-- `finalize_outage_recovery` after the selection (lines 338-395). -/
def decideCall (s : RecoveryState) (txn : Nat) (call : RecoveryCall) (total : Nat)
    (candidates : List Offer) : RecoveryState :=
  if call.health.clean = false then
    setCall s txn (.returned (plainReport total candidates "gated" "wait_for_sync_health_clean" false))
  else if call.dryRun then
    setCall s txn (.returned
      (if candidates = [] then
        plainReport total candidates "ready_to_clear_gate" "rerun_with_repair_to_clear_gate" false
      else plainReport total candidates "would_finalize" "rerun_with_repair" false))
  else if candidates = [] then
    setCall { s with gate := none } txn
      (.returned (plainReport total candidates "recovered" "active_publication_gate_cleared"
        s.gate.isSome))
  else
    match candidates.mapM fun offer =>
        applyOfferExpiry call.serverMode offer (recoveryExpiry call.serverMode) call.now false with
    | .error _ => setCall s txn (.raised "offer is not active")
    | .ok expired =>
      let more := candidates.length < total
      setCall
        { s with
          offers := writeOffers expired s.offers
          locks := s.locks.release txn
          notifications := s.notifications ++ ownerNotifications expired }
        txn
        (.returned
          { status := if more then "partial_finalized_pending_sync" else "finalized_pending_sync"
            candidateCount := total
            candidates := candidates
            expiredOffers := expired
            expiredCount := expired.length
            ownerNotificationCount := (ownerNotifications expired).length
            operatorAction :=
              if more then "rerun_to_process_remaining_candidates"
              else "rerun_after_expiry_sync_health_clean"
            gateCleared := false })

def nextStatement (cutoff : Int) (s : RecoveryState) (txn : Nat) : CallStage → RecoveryState
  | .begun call =>
    setCall s txn (if outageClassValid call.outageClass then .prepared call
      else .raised "outage_class must be 'medium' or 'long'")
  | .prepared call => setCall s txn (.counted call (countCandidates cutoff call.serverMode s.offers))
  | .counted call total =>
    let candidates := loadCandidates cutoff s txn call
    setCall { s with locks := s.locks.take txn (candidates.map Offer.id) } txn
      (.selected call total candidates)
  | .selected call total candidates => decideCall s txn call total candidates
  -- the session is closed, and what was not committed is rolled back
  | .returned _ | .raised _ | .closed => setCall { s with locks := s.locks.release txn } txn .closed

def otherWrite (locks : Locks Nat) (txn : Nat) (statuses : List (Nat × OfferStatus)) (offer : Offer) :
    Offer :=
  if locks offer.id = some txn then
    match statuses.find? fun entry => entry.1 = offer.id with
    | some (_, .completed) => { offer with status := .completed }
    | some (_, .cancelled) => { offer with status := .cancelled }
    | some (_, .expired) => { offer with status := .expired }
    | some (_, .active) | none => offer
  else offer

def RecoveryState.step (cutoff : Int) (s : RecoveryState) : RecoveryOp → RecoveryState
  | .start txn call =>
    match s.calls txn with
    | some _ => s
    | none => setCall s txn (.begun call)
  | .next txn =>
    match s.calls txn with
    | some stage => nextStatement cutoff s txn stage
    | none => s
  | .lock txn offerId =>
    -- a lock that another transaction has is waited for
    if s.calls txn = none ∧ s.locks.canTake txn [offerId] then
      { s with locks := s.locks.take txn [offerId] }
    else s
  | .finish txn statuses =>
    match s.calls txn with
    | some _ => s
    | none =>
      { s with
        offers := s.offers.map (otherWrite s.locks txn statuses)
        locks := s.locks.release txn }
  | .create offer =>
    if offer.createdAt.any (· ≤ cutoff) ∨ ∃ row ∈ s.offers, row.id = offer.id then s
    else { s with offers := s.offers ++ [offer] }
  | .setGate payload => { s with gate := payload }

section Candidates

variable {cutoff : Int} {mode : Server} {offer : Offer} {s : RecoveryState}

theorem isCandidate_active (h : isCandidate cutoff mode offer = true) : offer.status = .active := by
  simp only [isCandidate, Bool.and_eq_true, decide_eq_true_eq] at h
  exact h.1.1

theorem otherWrite_candidate {locks : Locks Nat} {txn : Nat} {statuses : List (Nat × OfferStatus)}
    (h : isCandidate cutoff mode (otherWrite locks txn statuses offer) = true) :
    otherWrite locks txn statuses offer = offer := by
  have hactive := isCandidate_active h
  unfold otherWrite at hactive ⊢
  split at hactive
  · split at hactive
    · cases hactive
    · cases hactive
    · cases hactive
    · simp_all
    · simp_all
  · rw [if_neg ‹_›]

theorem mapM_expiry {call : RecoveryCall} (candidates : List Offer) :
    ∀ {expired : List Offer},
      (candidates.mapM fun offer => applyOfferExpiry call.serverMode offer
        (recoveryExpiry call.serverMode) call.now false) = .ok expired →
      ∀ offer ∈ expired, offer.status = .expired := by
  induction candidates with
  | nil =>
    intro expired h offer hoffer
    cases h
    cases hoffer
  | cons head tail ih =>
    intro expired h offer hoffer
    rw [List.mapM_cons] at h
    cases hhead : applyOfferExpiry call.serverMode head (recoveryExpiry call.serverMode) call.now
        false with
    | error failure =>
      rw [hhead] at h
      cases h
    | ok first =>
      cases hrest : tail.mapM fun offer => applyOfferExpiry call.serverMode offer
          (recoveryExpiry call.serverMode) call.now false with
      | error failure =>
        rw [hhead, hrest] at h
        cases h
      | ok rest =>
        rw [hhead, hrest] at h
        cases h
        rcases List.mem_cons.mp hoffer with rfl | hmem
        · exact (applyOfferExpiry_ok hhead).1
        · exact ih hrest offer hmem

theorem writeOffers_candidate {expired offers : List Offer}
    (hexpired : ∀ offer ∈ expired, offer.status = .expired) (hoffer : offer ∈ writeOffers expired offers)
    (h : isCandidate cutoff mode offer = true) : offer ∈ offers := by
  obtain ⟨row, hrow, rfl⟩ := List.mem_map.mp hoffer
  cases hfound : expired.find? fun offer => offer.id = row.id with
  | none => exact hrow
  | some new =>
    rw [hfound, Option.getD_some] at h
    have hstatus := hexpired new (List.mem_of_find?_eq_some hfound)
    rw [isCandidate_active h] at hstatus
    cases hstatus

theorem setCall_calls (txn : Nat) (stage : CallStage) :
    (setCall s txn stage).calls = Function.update s.calls txn (some stage) := rfl

theorem decideCall_candidate {txn : Nat} {call : RecoveryCall} {total : Nat} {candidates : List Offer}
    (hoffer : offer ∈ (decideCall s txn call total candidates).offers)
    (h : isCandidate cutoff mode offer = true) : offer ∈ s.offers := by
  unfold decideCall at hoffer
  split at hoffer
  · exact hoffer
  · split at hoffer
    · exact hoffer
    · split at hoffer
      · exact hoffer
      · split at hoffer
        · exact hoffer
        · exact writeOffers_candidate (mapM_expiry candidates ‹_›) hoffer h

theorem step_candidate (op : RecoveryOp) (hoffer : offer ∈ (s.step cutoff op).offers)
    (h : isCandidate cutoff mode offer = true) : offer ∈ s.offers := by
  cases op with
  | start txn call =>
    simp only [RecoveryState.step] at hoffer
    split at hoffer
    · exact hoffer
    · exact hoffer
  | next txn =>
    simp only [RecoveryState.step] at hoffer
    split at hoffer
    · rename_i stage _
      cases stage with
      | begun call | prepared call | counted call _ | returned _ | raised _ | closed => exact hoffer
      | selected call total candidates => exact decideCall_candidate hoffer h
    · exact hoffer
  | lock txn offerId =>
    simp only [RecoveryState.step] at hoffer
    split at hoffer
    · exact hoffer
    · exact hoffer
  | finish txn statuses =>
    simp only [RecoveryState.step] at hoffer
    split at hoffer
    · exact hoffer
    · obtain ⟨row, hrow, rfl⟩ := List.mem_map.mp hoffer
      rw [otherWrite_candidate h]
      exact hrow
  | create new =>
    simp only [RecoveryState.step] at hoffer
    split at hoffer
    · exact hoffer
    · rename_i hlater
      rcases List.mem_append.mp hoffer with hold | hnew
      · exact hold
      · rw [List.mem_singleton.mp hnew] at h
        simp only [isCandidate, Bool.and_eq_true] at h
        exact absurd (.inl h.2) hlater
  | setGate payload => exact hoffer

end Candidates

/-! ## Selections -/

section Selections

variable {cutoff : Int} {s : RecoveryState} {txn : Nat} {call : RecoveryCall} {total : Nat}
  {candidates : List Offer}

theorem loadCandidates_eq_nil (h : loadCandidates cutoff s txn call = []) {offer : Offer}
    (hoffer : offer ∈ s.offers) (hcandidate : isCandidate cutoff call.serverMode offer = true) :
    isFree s.locks txn offer = false := by
  have hlimit : (if call.limit < 1 then 1 else call.limit.toNat) ≠ 0 := by
    split <;> omega
  rw [loadCandidates, List.take_eq_nil_iff] at h
  have hnone := h.resolve_left hlimit
  rw [List.filter_eq_nil_iff] at hnone
  have hmem : offer ∈ (s.offers.filter (isCandidate cutoff call.serverMode)).insertionSort
      candidateBefore := by
    rw [(List.perm_insertionSort _ _).mem_iff]
    exact List.mem_filter.mpr ⟨hoffer, hcandidate⟩
  exact Bool.eq_false_iff.mpr (hnone offer hmem)

theorem setCall_selected {stage : CallStage} {other : Nat}
    (h : (setCall s other stage).calls txn = some (.selected call total candidates)) :
    (other = txn ∧ stage = .selected call total candidates) ∨
      (other ≠ txn ∧ s.calls txn = some (.selected call total candidates)) := by
  rw [setCall_calls] at h
  by_cases hother : other = txn
  · subst hother
    rw [Function.update_self] at h
    exact .inl ⟨rfl, Option.some.inj h⟩
  · rw [Function.update_of_ne (Ne.symm hother)] at h
    exact .inr ⟨hother, h⟩

theorem decideCall_calls (other : Nat) (call : RecoveryCall) (total : Nat) (candidates : List Offer) :
    ∃ stage, stage.call? = none ∧
      (decideCall s other call total candidates).calls = Function.update s.calls other (some stage) := by
  unfold decideCall
  split
  · exact ⟨_, rfl, rfl⟩
  · split
    · exact ⟨_, rfl, rfl⟩
    · split
      · exact ⟨_, rfl, rfl⟩
      · split
        · exact ⟨_, rfl, rfl⟩
        · exact ⟨_, rfl, rfl⟩

theorem step_selected (op : RecoveryOp)
    (h : (s.step cutoff op).calls txn = some (.selected call total candidates)) :
    s.calls txn = some (.selected call total candidates) ∨
      (op = .next txn ∧ s.calls txn = some (.counted call total) ∧
        candidates = loadCandidates cutoff s txn call ∧ (s.step cutoff op).offers = s.offers) := by
  cases op with
  | start other new =>
    simp only [RecoveryState.step] at h
    split at h
    · exact .inl h
    · rcases setCall_selected h with ⟨-, hstage⟩ | ⟨-, hbefore⟩
      · cases hstage
      · exact .inl hbefore
  | next other =>
    simp only [RecoveryState.step] at h ⊢
    cases hother : s.calls other with
    | none =>
      rw [hother] at h
      exact .inl h
    | some stage =>
      rw [hother] at h
      cases stage with
      | begun new =>
        rcases setCall_selected h with ⟨-, hstage⟩ | ⟨-, hbefore⟩
        · split at hstage <;> cases hstage
        · exact .inl hbefore
      | prepared new =>
        rcases setCall_selected h with ⟨-, hstage⟩ | ⟨-, hbefore⟩
        · cases hstage
        · exact .inl hbefore
      | counted new count =>
        rcases setCall_selected h with ⟨rfl, hstage⟩ | ⟨-, hbefore⟩
        · cases hstage
          exact .inr ⟨rfl, hother, rfl, rfl⟩
        · exact .inl hbefore
      | selected new count rows =>
        obtain ⟨stage, hended, hcalls⟩ := decideCall_calls (s := s) other new count rows
        have hdecided : (decideCall s other new count rows).calls txn =
            some (.selected call total candidates) := h
        rw [hcalls] at hdecided
        by_cases heq : other = txn
        · subst heq
          rw [Function.update_self] at hdecided
          cases hdecided
          cases hended
        · rw [Function.update_of_ne (Ne.symm heq)] at hdecided
          exact .inl hdecided
      | returned report | raised error | closed =>
        rcases setCall_selected h with ⟨-, hstage⟩ | ⟨-, hbefore⟩
        · cases hstage
        · exact .inl hbefore
  | lock other offerId =>
    simp only [RecoveryState.step] at h
    split at h
    · exact .inl h
    · exact .inl h
  | finish other statuses =>
    simp only [RecoveryState.step] at h
    split at h
    · exact .inl h
    · exact .inl h
  | create offer =>
    simp only [RecoveryState.step] at h
    split at h
    · exact .inl h
    · exact .inl h
  | setGate payload => exact .inl h

theorem next_clears (hgate : s.gate ≠ none) (hcleared : (s.step cutoff (.next txn)).gate = none) :
    ∃ call total, s.calls txn = some (.selected call total []) ∧ call.health.clean = true ∧
      call.dryRun = false := by
  simp only [RecoveryState.step] at hcleared
  cases hstage : s.calls txn with
  | none =>
    rw [hstage] at hcleared
    exact absurd hcleared hgate
  | some stage =>
    rw [hstage] at hcleared
    cases stage with
    | begun call | prepared call | counted call _ | returned _ | raised _ | closed =>
      exact absurd hcleared hgate
    | selected call total candidates =>
      simp only [nextStatement, decideCall] at hcleared
      split at hcleared
      · exact absurd hcleared hgate
      · rename_i hclean
        split at hcleared
        · exact absurd hcleared hgate
        · rename_i hrepair
          split at hcleared
          · rename_i hempty
            subst hempty
            exact ⟨call, total, rfl, Bool.eq_true_of_not_eq_false hclean, Bool.eq_false_iff.mpr hrepair⟩
          · split at hcleared
            · exact absurd hcleared hgate
            · exact absurd hcleared hgate

end Selections

/-- A call that clears the gate has read a clean health, and there is no candidate then. -/
def ClearsRecovered (cutoff : Int) (s : RecoveryState) (op : RecoveryOp) (s' : RecoveryState) : Prop :=
  ∀ txn, op = .next txn → s.gate ≠ none → s'.gate = none →
    ∃ call, (s.calls txn).bind CallStage.call? = some call ∧ call.health.clean = true ∧
      ∀ offer ∈ s.offers, isCandidate cutoff call.serverMode offer = false

/-- No selection in repair mode after a clean health is made where others have locked every
candidate. -/
def SelectsUnlocked (cutoff : Int) (s : RecoveryState) (op : RecoveryOp) (_ : RecoveryState) : Prop :=
  ∀ txn call total, op = .next txn → s.calls txn = some (.counted call total) →
    call.health.clean = true → call.dryRun = false →
    (∃ offer ∈ s.offers, isCandidate cutoff call.serverMode offer = true) →
    ∃ offer ∈ s.offers, isCandidate cutoff call.serverMode offer = true ∧ isFree s.locks txn offer = true

def NothingMissed (cutoff : Int) (s : RecoveryState) : Prop :=
  ∀ txn call total, s.calls txn = some (.selected call total []) → call.health.clean = true →
    call.dryRun = false → ∀ offer ∈ s.offers, isCandidate cutoff call.serverMode offer = false

theorem nothingMissed_step {cutoff : Int} (s : RecoveryState) (op : RecoveryOp)
    (h : NothingMissed cutoff s) (hselects : SelectsUnlocked cutoff s op (s.step cutoff op)) :
    NothingMissed cutoff (s.step cutoff op) := by
  intro txn call total hcall hclean hrepair offer hoffer
  rcases step_selected op hcall with hbefore | ⟨hop, hcounted, hempty, hoffers⟩
  · by_contra hcandidate
    have htrue : isCandidate cutoff call.serverMode offer = true :=
      Bool.eq_true_of_not_eq_false hcandidate
    exact hcandidate
      (h txn call total hbefore hclean hrepair offer (step_candidate op hoffer htrue))
  · rw [hoffers] at hoffer
    by_contra hcandidate
    have htrue : isCandidate cutoff call.serverMode offer = true :=
      Bool.eq_true_of_not_eq_false hcandidate
    obtain ⟨found, hfound, hcand, hfree⟩ :=
      hselects txn call total hop hcounted hclean hrepair ⟨offer, hoffer, htrue⟩
    rw [loadCandidates_eq_nil hempty.symm hfound hcand] at hfree
    cases hfree

/-- In every run whose selections are not made where every candidate is locked by others, a call
clears the gate only after a clean health, and only when no active offer of its server from before
the cutoff is left. -/
theorem gate_cleared_after_recovery (cutoff : Int) (s : RecoveryState) (ops : List RecoveryOp)
    (hstart : ∀ txn, s.calls txn = none)
    (hselects : EachStep (RecoveryState.step cutoff) (SelectsUnlocked cutoff) s ops) :
    EachStep (RecoveryState.step cutoff) (ClearsRecovered cutoff) s ops := by
  refine eachStep_of_invariant (I := NothingMissed cutoff) (C := SelectsUnlocked cutoff)
    nothingMissed_step ?_ ops s ?_ hselects
  · rintro s op hmissed - txn rfl hgate hcleared
    obtain ⟨call, total, hcall, hclean, hrepair⟩ := next_clears hgate hcleared
    refine ⟨call, ?_, hclean, hmissed txn call total hcall hclean hrepair⟩
    rw [hcall]
    rfl
  · intro txn call total hcall
    rw [hstart txn] at hcall
    cases hcall

def selectsFree (s : RecoveryState) : RecoveryOp → Bool
  | .next txn =>
    match s.calls txn with
    | some (.counted _ _) => s.offers.all (isFree s.locks txn)
    | _ => true
  | _ => true

theorem selectsUnlocked_of_selectsFree {cutoff : Int} {s s' : RecoveryState} {op : RecoveryOp}
    (h : selectsFree s op = true) : SelectsUnlocked cutoff s op s' := by
  rintro txn call total rfl hcounted - - ⟨offer, hoffer, hcandidate⟩
  rw [selectsFree, hcounted] at h
  exact ⟨offer, hoffer, hcandidate, List.all_eq_true.mp h offer hoffer⟩

def staleOffer : Offer :=
  { id := 5, offerPublicId := "ofr_5", userId := some 3, homeServer := "foreign", offerType := .sell,
    commodityId := 1, quantity := 10, price := 100000, remainingQuantity := some 10,
    isWholesale := false, lotSizes := none, overtimeMinutesSnapshot := 0,
    overtimeTradeCommitted := false, status := .active, expireReason := none, expiredAt := none,
    expiredByUserId := none, expiredByActorUserId := none, expireSourceSurface := none,
    expireSourceServer := none, createdAt := some 1000 }

/-- The foreign server after an outage, with one stale offer and the gate set. -/
def afterOutage : RecoveryState :=
  { offers := [staleOffer], locks := fun _ => none, notifications := [], gate := some "enabled",
    calls := fun _ => none }

def repairCall : RecoveryCall := ⟨"long", .foreign, false, 100, ⟨0, 0, 0, true⟩, 5000⟩

def twoRepairs : List RecoveryOp :=
  [.start 0 repairCall, .next 0, .next 0, .next 0, .next 0, .next 0,
    .start 1 repairCall, .next 1, .next 1, .next 1, .next 1]

theorem twoRepairs_clear :
    (run (RecoveryState.step 2000) afterOutage twoRepairs).gate = none ∧
      EachStep (RecoveryState.step 2000) (ClearsRecovered 2000) afterOutage twoRepairs := by
  have hfree : EachStep (RecoveryState.step 2000) (fun s op _ => selectsFree s op = true) afterOutage
      twoRepairs := by decide +kernel
  refine ⟨by decide +kernel, gate_cleared_after_recovery 2000 afterOutage twoRepairs (fun _ => rfl) ?_⟩
  exact eachStep_of_invariant (I := fun _ => True) (C := fun s op _ => selectsFree s op = true)
    (fun _ _ _ _ => trivial) (fun _ _ _ h => selectsUnlocked_of_selectsFree h) twoRepairs afterOutage
    trivial hfree

/-- The one stale offer is locked by another transaction: the call counts it, selects nothing and
clears the gate. -/
theorem locked_offer_clears_gate :
    ¬ EachStep (RecoveryState.step 2000) (ClearsRecovered 2000) afterOutage
      [.lock 7 5, .start 0 repairCall, .next 0, .next 0, .next 0, .next 0] := by
  rintro ⟨-, -, -, -, -, hclears, -⟩
  obtain ⟨call, hcall, -, hnone⟩ := hclears 0 rfl (by decide +kernel) (by decide +kernel)
  have hrepair : some repairCall = some call := by
    rw [← hcall]
    decide +kernel
  cases hrepair
  exact absurd (hnone staleOffer (by decide +kernel)) (by decide)

end TradingBot.OutageRecovery
