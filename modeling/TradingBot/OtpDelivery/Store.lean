import TradingBot.Misc.Table
import TradingBot.Misc.Unique
import TradingBot.OtpDelivery.Model

/-!
# Codes and the keys of the mobile numbers

The code of a mobile number and the key of its current request are written and deleted together, so
the code is of the request that the key names.
-/

namespace TradingBot.OtpDelivery

open TradingBot.Misc

def CancelStage.request : CancelStage → Option Nat
  | .deleteKeys loaded => loaded
  | .writeStatus requestId | .removeDue requestId => some requestId
  | .readKey | .readHash _ | .done => none

/-- The code and the key of a number are of one request and one lifetime, a code is the one its
request was issued with, and ids in use were drawn. -/
structure StoreSound (s : System) : Prop where
  current : ∀ mobile, (s.current mobile).map (fun stored => (stored.value, stored.expiresAt)) =
    (s.codes mobile).map (fun stored => (stored.value.request, stored.expiresAt))
  issued : ∀ mobile stored, s.codes mobile = some stored →
    ⟨stored.value.request, mobile, stored.value.code⟩ ∈ s.issued
  issuedNext : ∀ issue ∈ s.issued, issue.requestId < s.nextRequest
  issuedOnce : UniqueKey (fun issue : Issue => some issue.requestId) s.issued
  contracts : ∀ contract ∈ s.contracts, contract.otpRequestId < s.nextRequest
  hashes : ∀ id stored contract, s.requests id = some stored →
    stored.value.contract = some contract → contract ∈ s.contracts
  claims : ∀ claim ∈ s.claims, claim.requestId < s.nextRequest
  cancels : ∀ number cancel id, s.cancels number = some cancel → cancel.stage.request = some id →
    id < s.nextRequest

theorem StoreSound.current_eq {s : System} (h : StoreSound s) {mobile : String}
    {stored : Stored StoredCode} (hstored : s.codes.entry s.now mobile = some stored) :
    s.current.get s.now mobile = some stored.value.request := by
  obtain ⟨hkey, hlive⟩ := Keys.entry_eq_some.mp hstored
  have hcurrent := h.current mobile
  rw [hkey, Option.map_some, Option.map_eq_some_iff] at hcurrent
  obtain ⟨named, hnamed, heq⟩ := hcurrent
  obtain ⟨hvalue, hexpires⟩ := Prod.mk.inj heq
  refine Keys.get_eq_some.mpr ⟨named, Keys.entry_eq_some.mpr ⟨hnamed, ?_⟩, hvalue⟩
  unfold Stored.live at hlive ⊢
  rw [hexpires]
  exact hlive

section Store

variable {s : System} {write : RequestHash → RequestHash}

theorem StoreSound.contract_of_hash (h : StoreSound s) {id : Nat} {hash : RequestHash}
    {contract : Contract} (hhash : s.hash? id = some hash)
    (hcontract : hash.contract = some contract) : contract ∈ s.contracts := by
  obtain ⟨stored, hstored, rfl⟩ := Keys.get_eq_some.mp hhash
  exact h.hashes id stored contract (Keys.entry_eq_some.mp hstored).1 hcontract

theorem StoreSound.writeHash (h : StoreSound s) (requestId : Nat)
    (hkeep : ∀ hash, (write hash).contract = hash.contract) :
    StoreSound (s.writeHash requestId write) :=
  { h with
    hashes := by
      intro id stored contract hstored hcontract
      rcases update_eq_some hstored with ⟨rfl, hnew⟩ | ⟨-, hold⟩
      · obtain ⟨old, hold, rfl⟩ := Option.map_eq_some_iff.mp hnew
        rw [hkeep] at hcontract
        exact h.hashes id old contract hold hcontract
      · exact h.hashes id stored contract hold hcontract }

theorem StoreSound.deleteKeys (h : StoreSound s) (mobile : String) :
    StoreSound (deleteKeys s mobile) :=
  { h with
    current := by
      intro other
      unfold OtpDelivery.deleteKeys Keys.del
      by_cases heq : other = mobile
      · rw [heq]
        simp only [Function.update_self, Option.map_none]
      · simp only [Function.update_of_ne heq]
        exact h.current other
    issued := by
      intro other stored hstored
      rcases update_eq_some hstored with ⟨-, hnone⟩ | ⟨-, hold⟩
      · cases hnone
      · exact h.issued other stored hold }

theorem StoreSound.setCancel (h : StoreSound s) (number : Nat) (cancel : Cancel)
    (stage : CancelStage) (hstage : ∀ id, stage.request = some id → id < s.nextRequest) :
    StoreSound (setCancel s number cancel stage) :=
  { h with
    cancels := by
      intro other cancel' id hcancel hid
      rcases update_eq_some hcancel with ⟨-, hnew⟩ | ⟨-, hold⟩
      · cases hnew
        exact hstage id hid
      · exact h.cancels other cancel' id hold hid }

theorem StoreSound.writeExpired (h : StoreSound s) (requestId : Nat) :
    StoreSound (writeExpired s requestId) := by
  unfold OtpDelivery.writeExpired
  split
  case h_1 => exact h.writeHash requestId fun _ => rfl
  case h_2 =>
    exact
      { h with
        hashes := by
          intro id stored contract hstored hcontract
          rcases update_eq_some hstored with ⟨-, hnew⟩ | ⟨-, hold⟩
          · cases hnew
            cases hcontract
          · exact h.hashes id stored contract hold hcontract }

theorem StoreSound.create (h : StoreSound s) (mobile otpCode : String)
    (ttlSeconds createdAt : Int) :
    StoreSound (createOtpDeliveryState s mobile otpCode ttlSeconds createdAt) := by
  have hbuilt : StoreSound { s with
      nextRequest := s.nextRequest + 1
      contracts := s.contracts ++ [buildContract s mobile ttlSeconds createdAt] } :=
    { h with
      issuedNext := fun issue hissue => Nat.lt_succ_of_lt (h.issuedNext issue hissue)
      contracts := by
        intro contract hcontract
        rcases List.mem_append.mp hcontract with hold | hnew
        · exact Nat.lt_succ_of_lt (h.contracts contract hold)
        · rw [List.mem_singleton.mp hnew]
          exact Nat.lt_succ_self _
      hashes := fun id stored contract hstored hcontract =>
        List.mem_append_left _ (h.hashes id stored contract hstored hcontract)
      claims := fun claim hclaim => Nat.lt_succ_of_lt (h.claims claim hclaim)
      cancels := fun number cancel id hcancel hid =>
        Nat.lt_succ_of_lt (h.cancels number cancel id hcancel hid) }
  unfold createOtpDeliveryState
  dsimp only
  split_ifs
  · exact hbuilt
  · exact
      { hbuilt with
        current := by
          intro other
          unfold Keys.set
          by_cases heq : other = mobile
          · rw [heq]
            simp only [Function.update_self, Option.map_some]
          · simp only [Function.update_of_ne heq]
            exact h.current other
        issued := by
          intro other stored hstored
          rcases update_eq_some hstored with ⟨rfl, hnew⟩ | ⟨-, hold⟩
          · cases hnew
            exact List.mem_append_right _ List.mem_cons_self
          · exact List.mem_append_left _ (h.issued other stored hold)
        issuedNext := by
          intro issue hissue
          rcases List.mem_append.mp hissue with hold | hnew
          · exact Nat.lt_succ_of_lt (h.issuedNext issue hold)
          · rw [List.mem_singleton.mp hnew]
            exact Nat.lt_succ_self _
        issuedOnce := by
          refine h.issuedOnce.append fun value hvalue other hother heq => ?_
          have hlt := h.issuedNext other hother
          rw [Option.some.inj (heq.trans hvalue.symm)] at hlt
          exact lt_irrefl _ hlt
        hashes := by
          intro id stored contract hstored hcontract
          rcases update_eq_some hstored with ⟨-, hnew⟩ | ⟨-, hold⟩
          · cases hnew
            cases hcontract
            exact List.mem_append_right _ List.mem_cons_self
          · exact List.mem_append_left _ (h.hashes id stored contract hold hcontract) }

theorem StoreSound.removeDue (h : StoreSound s) (requestId : Nat) :
    StoreSound (s.removeDue requestId) :=
  { h with }

theorem StoreSound.addDue (h : StoreSound s) (requestId : Nat) (score : Int) :
    StoreSound (s.addDue requestId score) :=
  { h with }

theorem StoreSound.writeHash_removeDue (h : StoreSound s) (requestId other : Nat)
    (hkeep : ∀ hash, (write hash).contract = hash.contract) :
    StoreSound ((s.writeHash requestId write).removeDue other) :=
  (h.writeHash requestId hkeep).removeDue other

theorem StoreSound.writeHash_addDue (h : StoreSound s) (requestId other : Nat) (score : Int)
    (hkeep : ∀ hash, (write hash).contract = hash.contract) :
    StoreSound ((s.writeHash requestId write).addDue other score) :=
  (h.writeHash requestId hkeep).addDue other score

theorem StoreSound.addStarted (h : StoreSound s) (requestId claimId : Nat) :
    StoreSound (s.addStarted requestId claimId) :=
  { h with }

theorem StoreSound.addClaim (h : StoreSound s) {claim : OTPDeliveryClaim}
    (hclaim : claim.requestId < s.nextRequest) : StoreSound (s.addClaim claim) :=
  { h with
    claims := by
      intro other hother
      rcases List.mem_append.mp hother with hold | hnew
      · exact h.claims other hold
      · exact List.mem_singleton.mp hnew ▸ hclaim }

theorem StoreSound.grantClaim (h : StoreSound s) {contract : Contract}
    (hcontract : contract ∈ s.contracts) (code : String) (claimedAt leaseUntil : Int) :
    StoreSound (grantClaim s contract code claimedAt leaseUntil) := by
  unfold OtpDelivery.grantClaim
  refine StoreSound.addClaim (h.writeHash_addDue _ _ _ ?_) (h.contracts contract hcontract)
  exact fun _ => rfl

theorem StoreSound.claim (h : StoreSound s) (contract : Contract) (requireDue : Bool)
    (claimedAt leaseSeconds : Int) :
    StoreSound (claimSmsDelivery s contract requireDue claimedAt leaseSeconds) := by
  unfold claimSmsDelivery
  dsimp only
  split
  case isTrue => exact h
  case isFalse hcontract =>
    split
    case h_1 => exact h.removeDue _
    case h_2 =>
      split
      case isTrue => exact h.removeDue _
      case isFalse =>
        split
        case h_1 => exact h
        case h_2 => exact h.writeHash_removeDue _ _ fun _ => rfl
        case h_3 => exact h.removeDue _
        case h_4 =>
          split
          case h_1 => exact h.writeHash_removeDue _ _ fun _ => rfl
          case h_2 stored _ =>
            split_ifs
            · exact h.writeHash_removeDue _ _ fun _ => rfl
            · exact h
            · exact h.grantClaim (not_not.mp hcontract) _ _ _

theorem StoreSound.consumeRequest (h : StoreSound s) (requestId : Option Nat) :
    StoreSound (consumeRequest s requestId) := by
  unfold OtpDelivery.consumeRequest
  split
  case h_1 => exact h
  case h_2 =>
    split
    case h_1 => exact h.removeDue _
    case h_2 =>
      split_ifs
      · exact h.writeHash_removeDue _ _ fun _ => rfl
      · exact h.removeDue _

theorem StoreSound.cancelStep (h : StoreSound s) (number : Nat) :
    StoreSound (cancelStep s number) := by
  unfold OtpDelivery.cancelStep
  split
  case h_1 => exact h
  case h_2 cancel hcancel =>
    have hrequest : ∀ id, cancel.stage.request = some id → id < s.nextRequest :=
      fun id hid => h.cancels number cancel id hcancel hid
    split
    case h_1 =>
      split
      · exact h.setCancel number cancel _ fun _ hid => by cases hid
      · exact h.setCancel number cancel _ fun _ hid => by cases hid
    case h_2 =>
      split
      case h_1 => exact h.setCancel number cancel _ fun _ hid => by cases hid
      case h_2 hash hhash =>
        split
        case h_1 => exact h.setCancel number cancel _ fun _ hid => by cases hid
        case h_2 contract hcontract =>
          refine h.setCancel number cancel _ fun id hid => ?_
          cases hid
          exact h.contracts contract (h.contract_of_hash hhash hcontract)
    case h_3 loaded hstage =>
      rw [hstage] at hrequest
      refine (h.deleteKeys cancel.mobile).setCancel number cancel _ fun id hid => ?_
      cases loaded with
      | none => cases hid
      | some requestId => exact hrequest id hid
    case h_4 requestId hstage =>
      rw [hstage] at hrequest
      have hwritten := (h.writeExpired requestId).setCancel number cancel (.removeDue requestId)
        fun id hid => by
          unfold OtpDelivery.writeExpired
          split <;> exact hrequest id hid
      exact { hwritten with }
    case h_5 requestId _ =>
      exact (h.removeDue requestId).setCancel number cancel _ fun _ hid => by cases hid
    case h_6 => exact h

theorem StoreSound.step (h : StoreSound s) (operation : Operation) :
    StoreSound (step s operation) := by
  cases operation with
  | tick milliseconds => exact { h with }
  | create mobile otpCode ttlSeconds createdAt =>
    exact h.create mobile otpCode ttlSeconds createdAt
  | load requestId =>
    simp only [OtpDelivery.step, loadContract]
    split
    case h_1 => exact h
    case h_2 contract hcontract =>
      obtain ⟨hash, hhash, hsome⟩ := Option.bind_eq_some_iff.mp hcontract
      have hmem := h.contract_of_hash hhash hsome
      exact
        { h with
          contracts := by
            intro other hother
            rcases List.mem_append.mp hother with hold | hnew
            · exact h.contracts other hold
            · exact List.mem_singleton.mp hnew ▸ h.contracts contract hmem
          hashes := fun id stored other hstored hother =>
            List.mem_append_left _ (h.hashes id stored other hstored hother) }
  | arm requestId recoveryAt =>
    simp only [OtpDelivery.step, armSmsFallback]
    split
    · exact h
    · split_ifs
      · exact h
      · exact h
      · exact h.writeHash_addDue _ _ _ fun _ => rfl
  | schedule requestId sentAt fallbackAt =>
    simp only [OtpDelivery.step, scheduleSmsFallback]
    split
    · exact h
    · split_ifs
      · exact h
      · exact h
      · exact h.writeHash_addDue _ _ _ fun _ => rfl
  | claim contract requireDue claimedAt leaseSeconds =>
    exact h.claim contract requireDue claimedAt leaseSeconds
  | markStarted claimId startedAt =>
    simp only [OtpDelivery.step, markProviderStarted]
    split
    · exact h
    · split
      · exact h
      · split_ifs
        · exact h
        · exact h
        · exact h
        · refine StoreSound.addStarted (h.writeHash _ ?_) _ _
          exact fun _ => rfl
  | record claimId outcome completedAt =>
    simp only [OtpDelivery.step, recordSmsResult]
    split
    · exact h
    · split
      · exact h
      · split
        · exact h
        · split_ifs
          · exact h
          · exact h
          · exact h.writeHash_removeDue _ _ fun _ => rfl
  | isolate requestId reason =>
    simp only [OtpDelivery.step, isolateFallbackState]
    split
    · exact h.removeDue _
    · split_ifs
      · exact h.writeHash_removeDue _ _ fun _ => rfl
      · exact h.removeDue _
  | dropDue requestId => exact h.removeDue requestId
  | consume mobile expectedCode =>
    simp only [OtpDelivery.step, consumeOtpCode]
    split
    · exact h
    · split_ifs
      · exact h
      · exact { (h.deleteKeys mobile).consumeRequest _ with }
  | beginCancel number mobile =>
    simp only [OtpDelivery.step, beginCancel]
    split_ifs
    · exact h.setCancel number ⟨mobile, .readKey⟩ .readKey fun _ hid => by cases hid
    · exact h
  | cancelStep number => exact h.cancelStep number

end Store

end TradingBot.OtpDelivery
