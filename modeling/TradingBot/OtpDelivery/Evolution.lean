import TradingBot.OtpDelivery.Model

/-!
# How the hash of a request evolves

What every script and command leaves of a request: it does not become pending again, and a claim
that has passed the mark keeps the SMS fields from every later claim.
-/

namespace TradingBot.OtpDelivery

open TradingBot.Misc

def Begun (claimId : Nat) (hash : RequestHash) : Prop :=
  hash.smsDeliveryStatus ≠ some .notAttempted ∧
    (hash.smsDeliveryStatus = some .pending →
      hash.smsClaimId = some claimId ∧ hash.smsProviderStartedAt.isSome = true)

def Evolves (old new : Option RequestHash) : Prop :=
  ∀ hash', new = some hash' → hash'.status = .pending →
    ∃ hash, old = some hash ∧ hash.status = .pending ∧
      ∀ claimId, Begun claimId hash → Begun claimId hash'

theorem Evolves.refl (old : Option RequestHash) : Evolves old old :=
  fun hash hsome hpending => ⟨hash, hsome, hpending, fun _ hbegun => hbegun⟩

theorem evolves_writeHash (s : System) (requestId : Nat) (write : RequestHash → RequestHash)
    (h : ∀ hash, s.hash? requestId = some hash → (write hash).status = .pending →
      hash.status = .pending ∧ ∀ claimId, Begun claimId hash → Begun claimId (write hash))
    (id : Nat) : Evolves (s.hash? id) ((s.writeHash requestId write).hash? id) := by
  have hget : (s.writeHash requestId write).hash? id =
      if id = requestId then (s.hash? requestId).map write else s.hash? id :=
    Keys.get_modify s.requests requestId id s.now write
  rw [hget]
  split_ifs with hid
  · subst hid
    intro hash' hsome hpending
    obtain ⟨hash, hhash, rfl⟩ := Option.map_eq_some_iff.mp hsome
    obtain ⟨hold, hbegun⟩ := h hash hhash hpending
    exact ⟨hash, hhash, hold, hbegun⟩
  · exact Evolves.refl _

variable {write : RequestHash → RequestHash}

theorem evolves_of_kept (s : System) (requestId : Nat)
    (hstatus : ∀ hash, (write hash).status = hash.status)
    (hsms : ∀ hash, (write hash).smsDeliveryStatus = hash.smsDeliveryStatus)
    (hclaim : ∀ hash, (write hash).smsClaimId = hash.smsClaimId)
    (hstarted : ∀ hash, (write hash).smsProviderStartedAt = hash.smsProviderStartedAt) (id : Nat) :
    Evolves (s.hash? id) ((s.writeHash requestId write).hash? id) := by
  refine evolves_writeHash s requestId write (fun hash _ hpending => ?_) id
  rw [hstatus] at hpending
  refine ⟨hpending, fun claimId hbegun => ?_⟩
  unfold Begun
  rw [hsms, hclaim, hstarted]
  exact hbegun

theorem evolves_of_ended (s : System) (requestId : Nat)
    (hended : ∀ hash, (write hash).status ≠ .pending) (id : Nat) :
    Evolves (s.hash? id) ((s.writeHash requestId write).hash? id) :=
  evolves_writeHash s requestId write
    (fun hash _ hpending => absurd hpending (hended hash)) id

theorem evolves_of_finished (s : System) (requestId : Nat)
    (hstatus : ∀ hash, (write hash).status = hash.status) {finished : OTPDeliveryStatus}
    (hsms : ∀ hash, (write hash).smsDeliveryStatus = some finished)
    (hnew : finished ≠ .notAttempted) (hopen : finished ≠ .pending) (id : Nat) :
    Evolves (s.hash? id) ((s.writeHash requestId write).hash? id) := by
  refine evolves_writeHash s requestId write (fun hash _ hpending => ?_) id
  rw [hstatus] at hpending
  refine ⟨hpending, fun claimId _ => ?_⟩
  unfold Begun
  rw [hsms]
  exact ⟨fun heq => hnew (Option.some.inj heq), fun heq => absurd (Option.some.inj heq) hopen⟩

section Evolution

variable (s : System) (id : Nat)

theorem create_evolves (mobile otpCode : String) (ttlSeconds createdAt : Int)
    (hid : id < s.nextRequest) :
    Evolves (s.hash? id)
      ((createOtpDeliveryState s mobile otpCode ttlSeconds createdAt).hash? id) := by
  unfold createOtpDeliveryState
  dsimp only
  split_ifs
  · exact Evolves.refl _
  · change Evolves (s.hash? id) ((s.requests.set s.nextRequest _ _).get s.now id)
    rw [Keys.get_set_of_ne (Nat.ne_of_lt hid)]
    exact Evolves.refl _

theorem loadContract_evolves (requestId : Nat) :
    Evolves (s.hash? id) ((loadContract s requestId).hash? id) := by
  unfold loadContract
  split <;> exact Evolves.refl _

theorem arm_evolves (requestId : Nat) (recoveryAt : Int) :
    Evolves (s.hash? id) ((armSmsFallback s requestId recoveryAt).hash? id) := by
  unfold armSmsFallback
  split
  case h_1 => exact Evolves.refl _
  case h_2 =>
    split_ifs
    · exact Evolves.refl _
    · exact Evolves.refl _
    · rw [System.hash?_addDue]
      refine evolves_of_kept s requestId ?_ ?_ ?_ ?_ id
      all_goals exact fun _ => rfl

theorem schedule_evolves (requestId : Nat) (sentAt fallbackAt : Int) :
    Evolves (s.hash? id) ((scheduleSmsFallback s requestId sentAt fallbackAt).hash? id) := by
  unfold scheduleSmsFallback
  split
  case h_1 => exact Evolves.refl _
  case h_2 =>
    split_ifs
    · exact Evolves.refl _
    · exact Evolves.refl _
    · rw [System.hash?_addDue]
      refine evolves_of_kept s requestId ?_ ?_ ?_ ?_ id
      all_goals exact fun _ => rfl

theorem not_begun_of_free {hash : RequestHash} {score : Option Int} {claimedAt : Int}
    (h : claimGate hash score claimedAt = .free) (claimId : Nat) : ¬ Begun claimId hash := by
  rintro ⟨hattempted, hopen⟩
  unfold claimGate at h
  split_ifs at h with hpending hlease hscore hstarted
  exact hstarted (hopen hpending).2

theorem claim_evolves (contract : Contract) (requireDue : Bool) (claimedAt leaseSeconds : Int) :
    Evolves (s.hash? id)
      ((claimSmsDelivery s contract requireDue claimedAt leaseSeconds).hash? id) := by
  unfold claimSmsDelivery
  dsimp only
  split
  case isTrue => exact Evolves.refl _
  case isFalse =>
    split
    case h_1 => exact Evolves.refl _
    case h_2 hash hhash =>
      split
      case isTrue => exact Evolves.refl _
      case isFalse hpending =>
        split
        case h_1 => exact Evolves.refl _
        case h_2 =>
          rw [System.hash?_removeDue]
          refine evolves_of_finished s contract.otpRequestId ?_ ?_
            (by decide : OTPDeliveryStatus.ambiguous ≠ .notAttempted) (by decide) id
          all_goals exact fun _ => rfl
        case h_3 => exact Evolves.refl _
        case h_4 hfree =>
          split
          case h_1 =>
            rw [System.hash?_removeDue]
            refine evolves_of_ended s contract.otpRequestId ?_ id
            exact fun _ heq => by cases heq
          case h_2 =>
            split_ifs
            · rw [System.hash?_removeDue]
              refine evolves_of_finished s contract.otpRequestId ?_ ?_
                (by decide : OTPDeliveryStatus.cancelled ≠ .notAttempted) (by decide) id
              all_goals exact fun _ => rfl
            · exact Evolves.refl _
            · -- the claim takes over the SMS fields, which no claim had begun with
              rw [grantClaim, System.hash?_addClaim, System.hash?_addDue]
              refine evolves_writeHash s contract.otpRequestId _ ?_ id
              intro hash' hhash' _
              rw [hhash, Option.some.injEq] at hhash'
              subst hhash'
              exact ⟨not_not.mp hpending, fun claimId hbegun =>
                absurd hbegun (not_begun_of_free hfree claimId)⟩

theorem mark_evolves (claimId : Nat) (startedAt : Int) :
    Evolves (s.hash? id) ((markProviderStarted s claimId startedAt).hash? id) := by
  unfold markProviderStarted
  split
  case h_1 => exact Evolves.refl _
  case h_2 claim _ =>
    split
    case h_1 => exact Evolves.refl _
    case h_2 hash hhash =>
      split_ifs
      · exact Evolves.refl _
      · exact Evolves.refl _
      · exact Evolves.refl _
      · rw [System.hash?_addStarted]
        refine evolves_writeHash s claim.requestId _ ?_ id
        intro hash' _ hpending
        refine ⟨hpending, fun other hbegun => ⟨hbegun.1, fun hopen => ?_⟩⟩
        exact ⟨(hbegun.2 hopen).1, rfl⟩

theorem record_evolves (claimId : Nat) (outcome : OTPDeliveryStatus) (completedAt : Int) :
    Evolves (s.hash? id) ((recordSmsResult s claimId outcome completedAt).hash? id) := by
  unfold recordSmsResult
  split
  case h_1 => exact Evolves.refl _
  case h_2 claim _ =>
    split
    case isTrue => exact Evolves.refl _
    case isFalse houtcome =>
      split
      case h_1 => exact Evolves.refl _
      case h_2 =>
        split_ifs
        · exact Evolves.refl _
        · exact Evolves.refl _
        · have hnew : outcome ≠ .notAttempted := by
            rintro rfl
            exact houtcome (by decide)
          have hopen : outcome ≠ .pending := by
            rintro rfl
            exact houtcome (by decide)
          rw [System.hash?_removeDue]
          refine evolves_of_finished s claim.requestId ?_ ?_ hnew hopen id
          all_goals exact fun _ => rfl

theorem isolate_evolves (requestId : Nat) (reason : String) :
    Evolves (s.hash? id) ((isolateFallbackState s requestId reason).hash? id) := by
  unfold isolateFallbackState
  split
  case h_1 => exact Evolves.refl _
  case h_2 =>
    split_ifs
    · rw [System.hash?_removeDue]
      refine evolves_of_ended s requestId ?_ id
      exact fun _ heq => by cases heq
    · exact Evolves.refl _

theorem consumeRequest_evolves (requestId : Option Nat) :
    Evolves (s.hash? id) ((consumeRequest s requestId).hash? id) := by
  unfold consumeRequest
  split
  case h_1 => exact Evolves.refl _
  case h_2 requestId =>
    split
    case h_1 => exact Evolves.refl _
    case h_2 =>
      split_ifs
      · rw [System.hash?_removeDue]
        refine evolves_of_ended s requestId ?_ id
        exact fun _ heq => by cases heq
      · exact Evolves.refl _

theorem consume_evolves (mobile expectedCode : String) :
    Evolves (s.hash? id) ((consumeOtpCode s mobile expectedCode).hash? id) := by
  unfold consumeOtpCode
  split
  case h_1 => exact Evolves.refl _
  case h_2 =>
    split_ifs
    · exact Evolves.refl _
    · exact consumeRequest_evolves (deleteKeys s mobile) id _

theorem writeExpired_evolves (requestId : Nat) :
    Evolves (s.hash? id) ((writeExpired s requestId).hash? id) := by
  unfold writeExpired
  split
  case h_1 =>
    refine evolves_of_ended s requestId ?_ id
    exact fun _ heq => by cases heq
  case h_2 hnone =>
    change Evolves (s.hash? id) ((s.requests.set requestId _ none).get s.now id)
    by_cases hid : id = requestId
    · subst hid
      rw [Keys.get_set_self rfl]
      intro hash' hsome hpending
      cases hsome
      cases hpending
    · rw [Keys.get_set_of_ne hid]
      exact Evolves.refl _

theorem cancelStep_evolves (number : Nat) :
    Evolves (s.hash? id) ((cancelStep s number).hash? id) := by
  unfold cancelStep
  split
  case h_1 => exact Evolves.refl _
  case h_2 cancel _ =>
    split
    case h_1 => split <;> exact Evolves.refl _
    case h_2 =>
      split
      case h_1 => exact Evolves.refl _
      case h_2 => split <;> exact Evolves.refl _
    case h_3 => exact Evolves.refl _
    case h_4 requestId _ => exact writeExpired_evolves s id requestId
    case h_5 => exact Evolves.refl _
    case h_6 => exact Evolves.refl _

theorem step_evolves (operation : Operation) (hid : id < s.nextRequest) :
    Evolves (s.hash? id) ((step s operation).hash? id) := by
  cases operation with
  | tick milliseconds =>
    intro hash' hsome hpending
    have hnow := Keys.get_of_later hsome (Nat.le_add_right s.now milliseconds)
    exact ⟨hash', hnow, hpending, fun _ hbegun => hbegun⟩
  | create mobile otpCode ttlSeconds createdAt =>
    exact create_evolves s id mobile otpCode ttlSeconds createdAt hid
  | load requestId => exact loadContract_evolves s id requestId
  | arm requestId recoveryAt => exact arm_evolves s id requestId recoveryAt
  | schedule requestId sentAt fallbackAt => exact schedule_evolves s id requestId sentAt fallbackAt
  | claim contract requireDue claimedAt leaseSeconds =>
    exact claim_evolves s id contract requireDue claimedAt leaseSeconds
  | markStarted claimId startedAt => exact mark_evolves s id claimId startedAt
  | record claimId outcome completedAt => exact record_evolves s id claimId outcome completedAt
  | isolate requestId reason => exact isolate_evolves s id requestId reason
  | dropDue requestId => exact Evolves.refl _
  | consume mobile expectedCode => exact consume_evolves s id mobile expectedCode
  | beginCancel number mobile =>
    simp only [step, beginCancel]
    split_ifs <;> exact Evolves.refl _
  | cancelStep number => exact cancelStep_evolves s id number

end Evolution

end TradingBot.OtpDelivery
