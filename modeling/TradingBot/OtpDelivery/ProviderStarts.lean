import TradingBot.OtpDelivery.Evolution
import TradingBot.OtpDelivery.Store

/-!
# Provider attempts of the SMS fallback

A request starts one provider attempt at most, and none after its code was consumed or it was
cancelled.

A claim hands out the code under the mobile number. A cancellation deletes that code before it
writes the status: when another request is created in between, the first is still pending and a
claim of it hands out the other's code. Where pending requests are claimed while the number's key
names them, each claim hands out the code of its request.
-/

namespace TradingBot.OtpDelivery

open TradingBot.Misc

/-- A consumed or cancelled request is not pending, and a claim past the mark has the SMS fields of
its request. -/
structure HistorySound (s : System) : Prop where
  endedNext : ∀ id, id ∈ s.consumed ∨ id ∈ s.cancelled → id < s.nextRequest
  ended : ∀ id, id ∈ s.consumed ∨ id ∈ s.cancelled → ∀ hash, s.hash? id = some hash →
    hash.status ≠ .pending
  startedNext : ∀ entry ∈ s.started, entry.1 < s.nextRequest
  started : ∀ entry ∈ s.started, ∀ hash, s.hash? entry.1 = some hash → hash.status = .pending →
    Begun entry.2 hash
  once : ∀ entry ∈ s.started, ∀ other ∈ s.started, entry.1 = other.1 → entry = other

theorem HistorySound.evolve {s s' : System} (h : HistorySound s)
    (hnext : s.nextRequest ≤ s'.nextRequest)
    (hevolves : ∀ id, id < s.nextRequest → Evolves (s.hash? id) (s'.hash? id))
    (hstarted : s'.started = s.started) (hconsumed : s'.consumed = s.consumed)
    (hcancelled : s'.cancelled = s.cancelled) : HistorySound s' where
  endedNext := by
    rw [hconsumed, hcancelled]
    intro id hended
    exact (h.endedNext id hended).trans_le hnext
  ended := by
    rw [hconsumed, hcancelled]
    intro id hended hash' hhash' hpending
    obtain ⟨hash, hhash, hold, -⟩ :=
      hevolves id (h.endedNext id hended) hash' hhash' hpending
    exact h.ended id hended hash hhash hold
  startedNext := by
    rw [hstarted]
    intro entry hentry
    exact (h.startedNext entry hentry).trans_le hnext
  started := by
    rw [hstarted]
    intro entry hentry hash' hhash' hpending
    obtain ⟨hash, hhash, hold, hbegun⟩ :=
      hevolves entry.1 (h.startedNext entry hentry) hash' hhash' hpending
    exact hbegun entry.2 (h.started entry hentry hash hhash hold)
  once := by
    rw [hstarted]
    exact h.once

theorem HistorySound.addEnded {s s' : System} (h : HistorySound s) {id : Nat}
    (hid : id < s.nextRequest) (hover : ∀ hash, s.hash? id = some hash → hash.status ≠ .pending)
    (hhash : ∀ other, s'.hash? other = s.hash? other) (hnext : s'.nextRequest = s.nextRequest)
    (hstarted : s'.started = s.started)
    (hended : ∀ other, other ∈ s'.consumed ∨ other ∈ s'.cancelled →
      (other ∈ s.consumed ∨ other ∈ s.cancelled) ∨ other = id) : HistorySound s' where
  endedNext := by
    intro other hother
    rw [hnext]
    rcases hended other hother with hold | rfl
    · exact h.endedNext other hold
    · exact hid
  ended := by
    intro other hother
    rw [hhash]
    rcases hended other hother with hold | rfl
    · exact h.ended other hold
    · exact hover
  startedNext := by
    rw [hstarted, hnext]
    exact h.startedNext
  started := by
    rw [hstarted]
    intro entry hentry
    rw [hhash]
    exact h.started entry hentry
  once := by
    rw [hstarted]
    exact h.once

theorem HistorySound.addStarted {s : System} (h : HistorySound s) {id claimId : Nat}
    (hid : id < s.nextRequest) {hash : RequestHash} (hhash : s.hash? id = some hash)
    (hpending : hash.status = .pending) (hopen : hash.smsDeliveryStatus = some .pending)
    (hclaim : hash.smsClaimId = some claimId) (hstarted : hash.smsProviderStartedAt.isSome = true) :
    HistorySound (s.addStarted id claimId) where
  endedNext := h.endedNext
  ended := h.ended
  startedNext := by
    intro entry hentry
    rcases List.mem_append.mp hentry with hold | hnew
    · exact h.startedNext entry hold
    · exact List.mem_singleton.mp hnew ▸ hid
  started := by
    intro entry hentry
    rcases List.mem_append.mp hentry with hold | hnew
    · exact h.started entry hold
    · rw [List.mem_singleton.mp hnew]
      intro hash' hhash' _
      rw [System.hash?_addStarted, hhash, Option.some.injEq] at hhash'
      subst hhash'
      refine ⟨?_, fun _ => ⟨hclaim, hstarted⟩⟩
      rw [hopen]
      decide
  once := by
    -- an older mark of the request is of the claim that has its SMS fields
    have hsame : ∀ entry ∈ s.started, entry.1 = id → entry = (id, claimId) := by
      rintro ⟨request, other⟩ hentry rfl
      have hother := ((h.started _ hentry hash hhash hpending).2 hopen).1
      rw [hclaim, Option.some.injEq] at hother
      rw [hother]
    intro entry hentry other hother heq
    rcases List.mem_append.mp hentry with hold | hnew <;>
      rcases List.mem_append.mp hother with hold' | hnew'
    · exact h.once entry hold other hold' heq
    · rw [List.mem_singleton.mp hnew'] at heq ⊢
      exact hsame entry hold heq
    · rw [List.mem_singleton.mp hnew] at heq ⊢
      exact (hsame other hold' heq.symm).symm
    · rw [List.mem_singleton.mp hnew, List.mem_singleton.mp hnew']

/-! ## The history along a step -/

def System.history (s : System) : List (Nat × Nat) × List Nat × List Nat × Nat :=
  (s.started, s.consumed, s.cancelled, s.nextRequest)

section History

variable {s : System}

theorem HistorySound.of_eq {s' : System} (h : HistorySound s) (hhistory : s'.history = s.history)
    (hevolves : ∀ id, Evolves (s.hash? id) (s'.hash? id)) : HistorySound s' := by
  simp only [System.history, Prod.mk.injEq] at hhistory
  obtain ⟨hstarted, hconsumed, hcancelled, hnext⟩ := hhistory
  exact h.evolve (Nat.le_of_eq hnext.symm) (fun id _ => hevolves id) hstarted hconsumed hcancelled

theorem HistorySound.create (h : HistorySound s) (mobile otpCode : String)
    (ttlSeconds createdAt : Int) :
    HistorySound (createOtpDeliveryState s mobile otpCode ttlSeconds createdAt) := by
  refine h.evolve ?_ (fun id hid => create_evolves s id mobile otpCode ttlSeconds createdAt hid)
    ?_ ?_ ?_
  · unfold createOtpDeliveryState
    dsimp only
    split_ifs <;> exact Nat.le_succ _
  all_goals
    unfold createOtpDeliveryState
    dsimp only
    split_ifs <;> rfl

theorem claim_history (contract : Contract) (requireDue : Bool) (claimedAt leaseSeconds : Int) :
    (claimSmsDelivery s contract requireDue claimedAt leaseSeconds).history = s.history := by
  unfold claimSmsDelivery
  dsimp only
  split
  case isTrue => rfl
  case isFalse =>
    split
    case h_1 => rfl
    case h_2 =>
      split
      case isTrue => rfl
      case isFalse =>
        split
        case h_1 => rfl
        case h_2 => rfl
        case h_3 => rfl
        case h_4 =>
          split
          case h_1 => rfl
          case h_2 => split_ifs <;> rfl

theorem HistorySound.mark (h : HistorySound s) (hstore : StoreSound s) (claimId : Nat)
    (startedAt : Int) : HistorySound (markProviderStarted s claimId startedAt) := by
  unfold markProviderStarted
  split
  case h_1 => exact h
  case h_2 claim hclaim =>
    split
    case h_1 => exact h
    case h_2 hash hhash =>
      split_ifs with hpending hopen hheld
      · exact h
      · exact h
      · exact h
      · have hwritten : HistorySound (s.writeHash claim.requestId fun hash =>
            { hash with smsProviderStartedAt := some startedAt }) := by
          refine h.of_eq rfl fun id => ?_
          refine evolves_writeHash s claim.requestId _ (fun hash' _ hpending' => ?_) id
          exact ⟨hpending', fun other hbegun => ⟨hbegun.1, fun hopen' =>
            ⟨(hbegun.2 hopen').1, rfl⟩⟩⟩
        have hget : (s.writeHash claim.requestId fun hash =>
            { hash with smsProviderStartedAt := some startedAt }).hash? claim.requestId =
              some { hash with smsProviderStartedAt := some startedAt } := by
          have hmodify := Keys.get_modify s.requests claim.requestId claim.requestId s.now
            fun hash => { hash with smsProviderStartedAt := some startedAt }
          rw [if_pos rfl] at hmodify
          exact hmodify.trans (congrArg _ hhash)
        exact hwritten.addStarted (hstore.claims claim (List.mem_of_find?_eq_some hclaim)) hget
          (not_not.mp hpending) (not_not.mp hopen) (not_not.mp hheld) rfl

theorem consumeRequest_over (s : System) (id : Nat) (hash : RequestHash)
    (h : (consumeRequest s (some id)).hash? id = some hash) : hash.status ≠ .pending := by
  unfold consumeRequest at h
  dsimp only at h
  split at h
  case h_1 hnone =>
    rw [System.hash?_removeDue, hnone] at h
    cases h
  case h_2 old hold =>
    split_ifs at h with hpending
    · have hmodify := Keys.get_modify s.requests id id s.now
        fun hash => { hash with status := .consumed }
      rw [if_pos rfl] at hmodify
      have hnew := (hmodify.symm.trans h)
      obtain ⟨_, -, rfl⟩ := Option.map_eq_some_iff.mp hnew
      exact fun heq => by cases heq
    · rw [System.hash?_removeDue, hold, Option.some.injEq] at h
      exact h ▸ hpending

theorem consumeRequest_history (s : System) (requestId : Option Nat) :
    (consumeRequest s requestId).history = s.history := by
  unfold consumeRequest
  split
  case h_1 => rfl
  case h_2 =>
    split
    case h_1 => rfl
    case h_2 => split_ifs <;> rfl

theorem HistorySound.consume (h : HistorySound s) (hstore : StoreSound s)
    (mobile expectedCode : String) : HistorySound (consumeOtpCode s mobile expectedCode) := by
  unfold consumeOtpCode
  split
  case h_1 => exact h
  case h_2 stored hstored =>
    split_ifs
    · exact h
    · obtain ⟨entry, hentry, rfl⟩ := Keys.get_eq_some.mp hstored
      have hnamed := hstore.current_eq hentry
      have hid : entry.value.request < s.nextRequest :=
        hstore.issuedNext _ (hstore.issued mobile entry (Keys.entry_eq_some.mp hentry).1)
      have hhistory := consumeRequest_history (deleteKeys s mobile) (some entry.value.request)
      have hover := consumeRequest_over (deleteKeys s mobile) entry.value.request
      have hevolves := fun id =>
        consumeRequest_evolves (deleteKeys s mobile) id (some entry.value.request)
      rw [hnamed]
      have hconsumed : HistorySound
          (consumeRequest (deleteKeys s mobile) (some entry.value.request)) :=
        h.of_eq hhistory hevolves
      simp only [System.history, Prod.mk.injEq] at hhistory
      refine hconsumed.addEnded (hid.trans_eq hhistory.2.2.2.symm) hover (fun _ => rfl) rfl rfl ?_
      rintro other (hother | hother)
      · rcases List.mem_append.mp hother with hold | hnew
        · exact .inl (.inl (hhistory.2.1 ▸ hold))
        · exact .inr (List.mem_singleton.mp hnew)
      · exact .inl (.inr hother)

theorem writeExpired_over (s : System) (id : Nat) (hash : RequestHash)
    (h : (writeExpired s id).hash? id = some hash) : hash.status ≠ .pending := by
  unfold writeExpired at h
  split at h
  case h_1 =>
    have hmodify := Keys.get_modify s.requests id id s.now
      fun hash => { hash with status := .expired }
    rw [if_pos rfl] at hmodify
    obtain ⟨_, -, rfl⟩ := Option.map_eq_some_iff.mp (hmodify.symm.trans h)
    exact fun heq => by cases heq
  case h_2 =>
    have hset : (s.requests.set id { status := .expired } none).get s.now id =
        some { status := .expired } := Keys.get_set_self rfl
    cases hset.symm.trans h
    decide

theorem HistorySound.cancelStep (h : HistorySound s) (hstore : StoreSound s) (number : Nat) :
    HistorySound (cancelStep s number) := by
  unfold OtpDelivery.cancelStep
  split
  case h_1 => exact h
  case h_2 cancel hcancel =>
    split
    case h_1 => split <;> exact h.of_eq rfl fun _ => Evolves.refl _
    case h_2 =>
      split
      case h_1 => exact h.of_eq rfl fun _ => Evolves.refl _
      case h_2 => split <;> exact h.of_eq rfl fun _ => Evolves.refl _
    case h_3 => exact h.of_eq rfl fun _ => Evolves.refl _
    case h_4 requestId hstage =>
      have hid : requestId < s.nextRequest :=
        hstore.cancels number cancel requestId hcancel (by rw [hstage]; rfl)
      have hhistory : (writeExpired s requestId).history = s.history := by
        unfold writeExpired
        split <;> rfl
      have hwritten : HistorySound (writeExpired s requestId) :=
        h.of_eq hhistory fun id => writeExpired_evolves s id requestId
      simp only [System.history, Prod.mk.injEq] at hhistory
      refine hwritten.addEnded (hid.trans_eq hhistory.2.2.2.symm) (writeExpired_over s requestId)
        (fun _ => rfl) rfl rfl ?_
      rintro other (hother | hother)
      · exact .inl (.inl hother)
      · rcases List.mem_append.mp hother with hold | hnew
        · exact .inl (.inr (hhistory.2.2.1 ▸ hold))
        · exact .inr (List.mem_singleton.mp hnew)
    case h_5 => exact h.of_eq rfl fun _ => Evolves.refl _
    case h_6 => exact h

theorem HistorySound.step (h : HistorySound s) (hstore : StoreSound s) (operation : Operation) :
    HistorySound (step s operation) := by
  cases operation with
  | tick milliseconds =>
    exact h.evolve (Nat.le_refl _) (fun id hid => step_evolves s id (.tick milliseconds) hid)
      rfl rfl rfl
  | create mobile otpCode ttlSeconds createdAt =>
    exact h.create mobile otpCode ttlSeconds createdAt
  | load requestId =>
    refine h.of_eq ?_ fun id => loadContract_evolves s id requestId
    simp only [OtpDelivery.step, loadContract]
    split <;> rfl
  | arm requestId recoveryAt =>
    refine h.of_eq ?_ fun id => arm_evolves s id requestId recoveryAt
    simp only [OtpDelivery.step, armSmsFallback]
    split
    · rfl
    · split_ifs <;> rfl
  | schedule requestId sentAt fallbackAt =>
    refine h.of_eq ?_ fun id => schedule_evolves s id requestId sentAt fallbackAt
    simp only [OtpDelivery.step, scheduleSmsFallback]
    split
    · rfl
    · split_ifs <;> rfl
  | claim contract requireDue claimedAt leaseSeconds =>
    exact h.of_eq (claim_history contract requireDue claimedAt leaseSeconds)
      fun id => claim_evolves s id contract requireDue claimedAt leaseSeconds
  | markStarted claimId startedAt => exact h.mark hstore claimId startedAt
  | record claimId outcome completedAt =>
    refine h.of_eq ?_ fun id => record_evolves s id claimId outcome completedAt
    simp only [OtpDelivery.step, recordSmsResult]
    split
    · rfl
    · split
      · rfl
      · split
        · rfl
        · split_ifs <;> rfl
  | isolate requestId reason =>
    refine h.of_eq ?_ fun id => isolate_evolves s id requestId reason
    simp only [OtpDelivery.step, isolateFallbackState]
    split
    · rfl
    · split_ifs <;> rfl
  | dropDue requestId => exact h.of_eq rfl fun _ => Evolves.refl _
  | consume mobile expectedCode => exact h.consume hstore mobile expectedCode
  | beginCancel number mobile =>
    simp only [OtpDelivery.step, beginCancel]
    split_ifs
    · exact h.of_eq rfl fun _ => Evolves.refl _
    · exact h
  | cancelStep number => exact h.cancelStep hstore number

end History

/-- A pending request is claimed while the number has no code, or while its key names this request. -/
def ClaimsCurrent (before : System) (operation : Operation) (_after : System) : Prop :=
  match operation with
  | .claim contract _ _ _ =>
    (before.hash? contract.otpRequestId).any (·.status = .pending) = true →
      (before.codes.get before.now contract.mobile).isSome = true →
        before.current.get before.now contract.mobile = some contract.otpRequestId
  | _ => True

def ClaimsOwn (s : System) : Prop :=
  ∀ claim ∈ s.claims, ⟨claim.requestId, claim.mobileNumber, claim.otpCode⟩ ∈ s.issued

theorem ClaimsOwn.create {s : System} (h : ClaimsOwn s) (mobile otpCode : String)
    (ttlSeconds createdAt : Int) :
    ClaimsOwn (createOtpDeliveryState s mobile otpCode ttlSeconds createdAt) := by
  unfold createOtpDeliveryState
  dsimp only
  split_ifs
  · exact h
  · exact fun claim hclaim => List.mem_append_left _ (h claim hclaim)

theorem ClaimsOwn.claim {s : System} (h : ClaimsOwn s) (hstore : StoreSound s)
    {contract : Contract} {requireDue : Bool} {claimedAt leaseSeconds : Int} {after : System}
    (hcurrent : ClaimsCurrent s (.claim contract requireDue claimedAt leaseSeconds) after) :
    ClaimsOwn (claimSmsDelivery s contract requireDue claimedAt leaseSeconds) := by
  unfold claimSmsDelivery
  dsimp only
  split
  case isTrue => exact h
  case isFalse =>
    split
    case h_1 => exact h
    case h_2 hash hhash =>
      split
      case isTrue => exact h
      case isFalse hpending =>
        split
        case h_1 => exact h
        case h_2 => exact h
        case h_3 => exact h
        case h_4 =>
          split
          case h_1 => exact h
          case h_2 stored hstored =>
            split_ifs
            · exact h
            · exact h
            · intro claim hclaim
              rcases List.mem_append.mp hclaim with hold | hnew
              · exact h claim hold
              · -- the code is of the request that the key names, and that is this one
                have hcode : s.codes.get s.now contract.mobile = some stored.value := by
                  rw [Keys.get, hstored, Option.map_some]
                have hsame : some stored.value.request = some contract.otpRequestId :=
                  (hstore.current_eq hstored).symm.trans
                    (hcurrent (by rw [hhash]; simpa using hpending) (by rw [hcode]; rfl))
                have hissued :=
                  hstore.issued contract.mobile stored (Keys.entry_eq_some.mp hstored).1
                rw [Option.some.inj hsame] at hissued
                rw [List.mem_singleton.mp hnew]
                exact hissued

theorem claims_step (s : System) (operation : Operation)
    (hcreate : ∀ mobile otpCode ttlSeconds createdAt,
      operation ≠ .create mobile otpCode ttlSeconds createdAt)
    (hclaim : ∀ contract requireDue claimedAt leaseSeconds,
      operation ≠ .claim contract requireDue claimedAt leaseSeconds) :
    (step s operation).claims = s.claims ∧ (step s operation).issued = s.issued := by
  cases operation with
  | create => exact absurd rfl (hcreate _ _ _ _)
  | claim => exact absurd rfl (hclaim _ _ _ _)
  | tick milliseconds => exact ⟨rfl, rfl⟩
  | dropDue requestId => exact ⟨rfl, rfl⟩
  | load requestId => simp only [step, loadContract]; split <;> exact ⟨rfl, rfl⟩
  | arm requestId recoveryAt =>
    simp only [step, armSmsFallback]
    repeat' split
    all_goals exact ⟨rfl, rfl⟩
  | schedule requestId sentAt fallbackAt =>
    simp only [step, scheduleSmsFallback]
    repeat' split
    all_goals exact ⟨rfl, rfl⟩
  | markStarted claimId startedAt =>
    simp only [step, markProviderStarted]
    repeat' split
    all_goals exact ⟨rfl, rfl⟩
  | record claimId outcome completedAt =>
    simp only [step, recordSmsResult]
    repeat' split
    all_goals exact ⟨rfl, rfl⟩
  | isolate requestId reason =>
    simp only [step, isolateFallbackState]
    repeat' split
    all_goals exact ⟨rfl, rfl⟩
  | consume mobile expectedCode =>
    simp only [step, consumeOtpCode, consumeRequest]
    repeat' split
    all_goals exact ⟨rfl, rfl⟩
  | beginCancel number mobile =>
    simp only [step, beginCancel]
    repeat' split
    all_goals exact ⟨rfl, rfl⟩
  | cancelStep number =>
    simp only [step, cancelStep, writeExpired]
    repeat' split
    all_goals exact ⟨rfl, rfl⟩

/-! ## Every interleaving -/

structure Sound (s : System) : Prop where
  store : StoreSound s
  history : HistorySound s
  claims : ClaimsOwn s

theorem sound_empty : Sound System.empty where
  store :=
    { current := fun _ => rfl
      issued := fun _ _ hstored => by cases hstored
      issuedNext := fun _ hissue => by cases hissue
      issuedOnce := List.nodup_nil
      contracts := fun _ hcontract => by cases hcontract
      hashes := fun _ _ _ hstored => by cases hstored
      claims := fun _ hclaim => by cases hclaim
      cancels := fun _ _ _ hcancel => by cases hcancel }
  history :=
    { endedNext := fun _ hended => by rcases hended with hended | hended <;> cases hended
      ended := fun _ hended => by rcases hended with hended | hended <;> cases hended
      startedNext := fun _ hentry => by cases hentry
      started := fun _ hentry => by cases hentry
      once := fun _ hentry => by cases hentry }
  claims := fun _ hclaim => by cases hclaim

theorem Sound.step {s : System} (h : Sound s) (operation : Operation)
    (hcurrent : ClaimsCurrent s operation (step s operation)) : Sound (step s operation) := by
  refine ⟨h.store.step operation, h.history.step h.store operation, ?_⟩
  by_cases hcreate : ∃ mobile otpCode ttlSeconds createdAt,
      operation = .create mobile otpCode ttlSeconds createdAt
  · obtain ⟨mobile, otpCode, ttlSeconds, createdAt, rfl⟩ := hcreate
    exact h.claims.create mobile otpCode ttlSeconds createdAt
  · by_cases hclaim : ∃ contract requireDue claimedAt leaseSeconds,
        operation = .claim contract requireDue claimedAt leaseSeconds
    · obtain ⟨contract, requireDue, claimedAt, leaseSeconds, rfl⟩ := hclaim
      exact h.claims.claim h.store hcurrent
    · obtain ⟨hclaims, hissued⟩ := claims_step s operation
        (fun mobile otpCode ttlSeconds createdAt heq =>
          hcreate ⟨mobile, otpCode, ttlSeconds, createdAt, heq⟩)
        (fun contract requireDue claimedAt leaseSeconds heq =>
          hclaim ⟨contract, requireDue, claimedAt, leaseSeconds, heq⟩)
      unfold ClaimsOwn
      rw [hclaims, hissued]
      exact h.claims

structure DeliveryKept (before : System) (_operation : Operation) (after : System) : Prop where
  /-- One claim of a request passes the mark. -/
  once : ∀ entry ∈ after.started, ∀ other ∈ after.started, entry.1 = other.1 → entry = other
  /-- A claim that passes the mark is of a request that was neither consumed nor cancelled. -/
  inTime : ∀ entry, after.started = before.started ++ [entry] →
    entry.1 ∉ before.consumed ∧ entry.1 ∉ before.cancelled
  /-- A request has one code, and its claims have that code. -/
  oneCode : UniqueKey (fun issue : Issue => some issue.requestId) after.issued
  ownCode : ClaimsOwn after

theorem mark_started (s : System) (claimId : Nat) (startedAt : Int) :
    (markProviderStarted s claimId startedAt).started = s.started ∨
      ∃ requestId hash, s.hash? requestId = some hash ∧ hash.status = .pending ∧
        (markProviderStarted s claimId startedAt).started =
          s.started ++ [(requestId, claimId)] := by
  unfold markProviderStarted
  split
  case h_1 => exact .inl rfl
  case h_2 claim _ =>
    split
    case h_1 => exact .inl rfl
    case h_2 hash hhash =>
      split_ifs with hpending
      · exact .inl rfl
      · exact .inl rfl
      · exact .inl rfl
      · exact .inr ⟨claim.requestId, hash, hhash, not_not.mp hpending, rfl⟩

theorem started_step (s : System) (operation : Operation)
    (hmark : ∀ claimId startedAt, operation ≠ .markStarted claimId startedAt) :
    (step s operation).started = s.started := by
  cases operation with
  | markStarted claimId startedAt => exact absurd rfl (hmark _ _)
  | claim contract requireDue claimedAt leaseSeconds =>
    exact congrArg Prod.fst (claim_history contract requireDue claimedAt leaseSeconds)
  | consume mobile expectedCode =>
    simp only [step, consumeOtpCode, consumeRequest]
    repeat' split
    all_goals rfl
  | cancelStep number =>
    simp only [step, cancelStep, writeExpired]
    repeat' split
    all_goals rfl
  | tick milliseconds => rfl
  | dropDue requestId => rfl
  | _ =>
    simp only [step, createOtpDeliveryState, loadContract, armSmsFallback, scheduleSmsFallback,
      recordSmsResult, isolateFallbackState, beginCancel]
    repeat' split
    all_goals rfl

theorem started_pending {s : System} {operation : Operation} {entry : Nat × Nat}
    (h : (step s operation).started = s.started ++ [entry]) :
    ∃ hash, s.hash? entry.1 = some hash ∧ hash.status = .pending := by
  have hgrown : (step s operation).started ≠ s.started := by
    rw [h]
    exact fun heq => List.cons_ne_nil _ _ (List.append_right_eq_self.mp heq)
  by_cases hmark : ∃ claimId startedAt, operation = .markStarted claimId startedAt
  · obtain ⟨claimId, startedAt, rfl⟩ := hmark
    rcases mark_started s claimId startedAt with hsame | ⟨requestId, hash, hhash, hpending, hnew⟩
    · exact absurd hsame hgrown
    · have hentry := List.append_cancel_left (hnew.symm.trans h)
      cases hentry
      exact ⟨hash, hhash, hpending⟩
  · exact absurd (started_step s operation fun claimId startedAt heq =>
      hmark ⟨claimId, startedAt, heq⟩) hgrown

theorem Sound.kept {s : System} (h : Sound s) (operation : Operation)
    (hcurrent : ClaimsCurrent s operation (OtpDelivery.step s operation)) :
    DeliveryKept s operation (OtpDelivery.step s operation) := by
  have hafter := h.step operation hcurrent
  refine ⟨hafter.history.once, ?_, hafter.store.issuedOnce, hafter.claims⟩
  intro entry hentry
  obtain ⟨hash, hhash, hpending⟩ := started_pending hentry
  exact ⟨fun hconsumed => h.history.ended entry.1 (.inl hconsumed) hash hhash hpending,
    fun hcancelled => h.history.ended entry.1 (.inr hcancelled) hash hhash hpending⟩

/-- In every interleaving in which pending requests are claimed while the number's key names them,
each step keeps one provider attempt per request, none after its end, and the codes of the
claims. -/
theorem deliveries_kept (operations : List Operation)
    (hcurrent : EachStep step ClaimsCurrent System.empty operations) :
    EachStep step DeliveryKept System.empty operations :=
  eachStep_of_invariant (I := Sound) (C := ClaimsCurrent)
    (fun _ operation h hstep => h.step operation hstep)
    (fun _ operation h hstep => h.kept operation hstep) operations System.empty sound_empty hcurrent

section Examples

def firstContract : Contract := ⟨0, "09121234567", 0, 120000000⟩

def deliveredRun : List Operation :=
  [.create "09121234567" "11111" 120 0, .arm 0 40000000, .tick 40000,
    .claim firstContract true 40000000 30, .markStarted 0 40100000,
    .record 0 .accepted 40200000, .consume "09121234567" "11111", .markStarted 0 40300000]

/-- The claim has the code of the request, and one attempt was started. -/
theorem delivered_in_time :
    EachStep step DeliveryKept System.empty deliveredRun ∧
      (run step System.empty deliveredRun).claims.map (·.otpCode) = ["11111"] ∧
      (run step System.empty deliveredRun).started = [(0, 0)] := by
  refine ⟨deliveries_kept deliveredRun ?_, ?_, ?_⟩
  · refine ⟨trivial, trivial, trivial, ?_, trivial, trivial, trivial, trivial, trivial⟩
    intro _ _
    decide
  · decide
  · decide

/-- The first request's keys are deleted when a second is created; the first, still pending, is
claimed. -/
def halfCancelledRun : List Operation :=
  [.create "09121234567" "11111" 120 0, .beginCancel 0 "09121234567", .cancelStep 0, .cancelStep 0,
    .cancelStep 0, .create "09121234567" "22222" 120 1000000, .claim firstContract false 2000000 30]

/-- The claim of the first request hands out the code of the second one. -/
theorem claim_with_foreign_code :
    ¬ EachStep step DeliveryKept System.empty halfCancelledRun := by
  intro h
  have hown := h.2.2.2.2.2.2.1.ownCode ⟨0, 0, "09121234567", "22222", 32000000⟩ (by decide)
  revert hown
  decide

end Examples

end TradingBot.OtpDelivery
