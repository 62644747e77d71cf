import Mathlib

/-!
# The dedupe key of a delivery

`build_delivery_dedupe_key` (telegram_delivery_queue_contract.py:383): the parts of a delivery, each
behind its length and a colon, with a separator between them. The length says where a part ends, so
no text in a part can be taken for a border.
-/

namespace TradingBot.Telegram

/-- A part as it is written into the key: its length in decimal, a colon and the part itself. -/
def framed (part : List Char) : List Char :=
  Nat.toDigits 10 part.length ++ ':' :: part

/-- `separator.join` of the parts. -/
def joinFramed (separator : Char) : List (List Char) → List Char
  | [] => []
  | [part] => framed part
  | part :: next :: rest => framed part ++ separator :: joinFramed separator (next :: rest)

theorem framed_append_inj {first second rest rest' : List Char}
    (h : framed first ++ rest = framed second ++ rest') : first = second ∧ rest = rest' := by
  have hprefix : ∀ part rest : List Char,
      (framed part ++ rest).takeWhile Char.isDigit = Nat.toDigits 10 part.length := by
    intro part rest
    have hdigits : ∀ c ∈ Nat.toDigits 10 part.length, c.isDigit = true := fun c hc =>
      Nat.isDigit_of_mem_toDigits (by decide) (by decide) hc
    rw [framed, List.append_assoc, List.takeWhile_append_of_pos hdigits, List.cons_append,
      List.takeWhile_cons_of_neg (by decide), List.append_nil]
  have hdigits : Nat.toDigits 10 first.length = Nat.toDigits 10 second.length := by
    rw [← hprefix first rest, h, hprefix]
  have hlength : first.length = second.length := by
    rw [← Nat.ofDigitChars_ten_toDigits (n := first.length), hdigits,
      Nat.ofDigitChars_ten_toDigits]
  simp only [framed, List.append_assoc, hdigits, List.cons_append] at h
  exact List.append_inj (List.cons.inj (List.append_cancel_left h)).2 hlength

theorem joinFramed_injective {separator : Char} :
    ∀ {parts parts' : List (List Char)}, parts.length = parts'.length →
      joinFramed separator parts = joinFramed separator parts' → parts = parts' := by
  intro parts
  induction parts with
  | nil =>
    intro parts' hlength _
    exact (List.length_eq_zero_iff.mp hlength.symm).symm
  | cons part rest ih =>
    intro parts' hlength h
    obtain ⟨part', rest', rfl⟩ : ∃ part' rest', parts' = part' :: rest' :=
      List.exists_cons_of_length_pos (hlength ▸ Nat.succ_pos _)
    have hrests : rest.length = rest'.length := Nat.succ.inj hlength
    cases rest with
    | nil =>
      obtain rfl : rest' = [] := List.length_eq_zero_iff.mp hrests.symm
      have hframed : framed part ++ [] = framed part' ++ [] := by
        rw [List.append_nil, List.append_nil]
        exact h
      rw [(framed_append_inj hframed).1]
    | cons next rest =>
      obtain ⟨next', rest', rfl⟩ : ∃ next' rest'', rest' = next' :: rest'' :=
        List.exists_cons_of_length_pos (hrests ▸ Nat.succ_pos _)
      obtain ⟨hpart, hbehind⟩ := framed_append_inj h
      rw [hpart, ih hrests (List.cons.inj hbehind).2]

/-- `TelegramFeederKind` (line 49). -/
inductive FeederKind where
  | offerControl | offerEdit | trade | adminSystem | marketStatus | timedBot | direct
  deriving DecidableEq

def FeederKind.value : FeederKind → String
  | .offerControl => "offer_control"
  | .offerEdit => "offer_edit"
  | .trade => "trade"
  | .adminSystem => "admin_system"
  | .marketStatus => "market_status"
  | .timedBot => "timed_bot"
  | .direct => "direct"

/-- `TelegramDeliveryAction` (line 65). -/
inductive DeliveryAction where
  | callbackDeadline | otpDeadline | overtimeOwnerApproval | offerPublish | offerSuccess
  | offerValidationResponse | offerExpiryCallback | offerRepeatResponse | generalImmediate
  | preauthInteraction | preauthInteractionEdit | tradeResult | tradeResponse | tradeAlternative
  | tradeUnavailable | tradeNoncritical | partialOfferEdit | tradedOfferEdit | expiredOfferEdit
  | cancelledOfferEdit | otherActiveOfferEdit | overtimeChannelEdit | finalTailChannelEdit
  | invalidActionButtonEdit | reconciliationEdit | newUserMembership | accountStatus
  | channelMemberBan | channelMemberUnban | targetedAdminMessage | adminBroadcast
  | generalAnnouncement | marketTransition | marketStatusCorrection | noncriticalMarket
  | timedSecurity | delayedRestriction | temporaryCleanup | cosmeticCleanup
  deriving DecidableEq

def DeliveryAction.value : DeliveryAction → String
  | .callbackDeadline => "callback_deadline"
  | .otpDeadline => "otp_deadline"
  | .overtimeOwnerApproval => "overtime_owner_approval"
  | .offerPublish => "offer_publish"
  | .offerSuccess => "offer_success"
  | .offerValidationResponse => "offer_validation_response"
  | .offerExpiryCallback => "offer_expiry_callback"
  | .offerRepeatResponse => "offer_repeat_response"
  | .generalImmediate => "general_immediate"
  | .preauthInteraction => "preauth_interaction"
  | .preauthInteractionEdit => "preauth_interaction_edit"
  | .tradeResult => "trade_result"
  | .tradeResponse => "trade_response"
  | .tradeAlternative => "trade_alternative"
  | .tradeUnavailable => "trade_unavailable"
  | .tradeNoncritical => "trade_noncritical"
  | .partialOfferEdit => "partial_offer_edit"
  | .tradedOfferEdit => "traded_offer_edit"
  | .expiredOfferEdit => "expired_offer_edit"
  | .cancelledOfferEdit => "cancelled_offer_edit"
  | .otherActiveOfferEdit => "other_active_offer_edit"
  | .overtimeChannelEdit => "overtime_channel_edit"
  | .finalTailChannelEdit => "final_tail_channel_edit"
  | .invalidActionButtonEdit => "invalid_action_button_edit"
  | .reconciliationEdit => "reconciliation_edit"
  | .newUserMembership => "new_user_membership"
  | .accountStatus => "account_status"
  | .channelMemberBan => "channel_member_ban"
  | .channelMemberUnban => "channel_member_unban"
  | .targetedAdminMessage => "targeted_admin_message"
  | .adminBroadcast => "admin_broadcast"
  | .generalAnnouncement => "general_announcement"
  | .marketTransition => "market_transition"
  | .marketStatusCorrection => "market_status_correction"
  | .noncriticalMarket => "noncritical_market"
  | .timedSecurity => "timed_security"
  | .delayedRestriction => "delayed_restriction"
  | .temporaryCleanup => "temporary_cleanup"
  | .cosmeticCleanup => "cosmetic_cleanup"

@[ext]
structure LogicalDelivery where
  feeder : FeederKind
  sourceNaturalId : String
  sourceVersion : Int
  action : DeliveryAction
  destinationIdentity : String

def LogicalDelivery.parts (delivery : LogicalDelivery) : List String :=
  [delivery.feeder.value, delivery.sourceNaturalId, toString delivery.sourceVersion,
    delivery.action.value, delivery.destinationIdentity]

def buildDeliveryDedupeKey (delivery : LogicalDelivery) : String :=
  String.ofList (joinFramed (Char.ofNat 0x1f) (delivery.parts.map String.toList))

theorem FeederKind.value_injective : Function.Injective FeederKind.value := by
  intro first second h
  cases first <;> cases second <;> first | rfl | exact absurd h (by decide)

theorem DeliveryAction.ofNat_value_injective : ∀ i < 39, ∀ j < 39,
    (DeliveryAction.ofNat i).value = (DeliveryAction.ofNat j).value → i = j := by
  decide

theorem DeliveryAction.value_injective : Function.Injective DeliveryAction.value := by
  have hbound : ∀ action : DeliveryAction, action.ctorIdx < 39 := by
    intro action
    cases action <;> decide
  intro first second h
  rw [← DeliveryAction.ofNat_ctorIdx first, ← DeliveryAction.ofNat_ctorIdx second] at h ⊢
  rw [DeliveryAction.ofNat_value_injective _ (hbound first) _ (hbound second) h]

/-- Two deliveries that differ in a component have different dedupe keys. -/
theorem buildDeliveryDedupeKey_injective : Function.Injective buildDeliveryDedupeKey := by
  intro first second h
  have hjoined := String.ofList_injective h
  have hparts : first.parts.map String.toList = second.parts.map String.toList :=
    joinFramed_injective rfl hjoined
  have hparts : first.parts = second.parts :=
    (List.map_inj_right fun _ _ => String.toList_inj.mp).mp hparts
  simp only [LogicalDelivery.parts, List.cons.injEq, and_true] at hparts
  obtain ⟨hfeeder, hsource, hversion, haction, hdestination⟩ := hparts
  ext1
  · exact FeederKind.value_injective hfeeder
  · exact hsource
  · exact Int.repr_injective hversion
  · exact DeliveryAction.value_injective haction
  · exact hdestination

end TradingBot.Telegram
