import TradingBot.Offer.TradeService
import TradingBot.Misc.Run
import Mathlib.Algebra.BigOperators.Group.List.Basic

/-!
# Conservation of quantity over the trades of one offer

The row lock serialises the trade requests on an offer, so its life is a run: each request is
validated on the current row and, when accepted, applied to it. The run keeps the accepted
quantities beside the row.
-/

namespace TradingBot

open Misc

structure OfferBook where
  offer : Offer
  accepted : List Int
  deriving DecidableEq, Repr

/-- `validate_offer_trade_amount`, and on acceptance `_apply_offer_trade_mutation`. An exception
leaves the row. -/
def serveTradeRequest (book : OfferBook) (requested : Int) : OfferBook :=
  let check := book.offer.checkTradeAmount requested
  if check.valid then
    match applyOfferTradeMutation book.offer check.amount with
    | .ok (offer, _) => ⟨offer, book.accepted ++ [check.amount]⟩
    | .error _ => book
  else book

/-- An offer as created: `quantity > 0`, `remaining_quantity = quantity`, wholesale without lots or
retail with lots that `validate_lot_sizes` accepted. -/
structure NewOffer (settings : TradingSettings) (offer : Offer) : Prop where
  active : offer.status = .active
  positive : 0 < offer.quantity
  whole : offer.remainingQuantity = some offer.quantity
  lots : (offer.isWholesale = true ∧ offer.lotSizes = none) ∨
    (offer.isWholesale = false ∧ ∃ lots, offer.lotSizes = some lots ∧
      validateLotSizes settings offer.quantity lots = .accepted lots)

/-- The lots of a retail offer after some trades: absent, or positive, with the remainder as their
sum, and the original list without one lot equal to each trade. -/
def LotsAfter (original : List Int) (accepted : List Int) (remaining : Int)
    (current : Option (List Int)) : Prop :=
  current = none ∨ ∃ lots, current = some lots ∧ (∀ lot ∈ lots, 0 < lot) ∧ lots.sum = remaining ∧
    lots = accepted.foldl List.erase original ∧ (accepted ++ lots).Perm original

/-- What an offer's book keeps relative to the row it started from. -/
structure Conserved (created : Offer) (book : OfferBook) : Prop where
  sum : ∃ remaining, book.offer.remainingQuantity = some remaining ∧
    book.accepted.sum + remaining = created.quantity ∧ 0 ≤ remaining ∧
    (book.offer.status = .completed ↔ remaining = 0) ∧
    (created.isWholesale = false →
      LotsAfter (created.lotSizes.getD []) book.accepted remaining book.offer.lotSizes)

variable {x remaining : Int} {offer : Offer} {lots : List Int} {settings : TradingSettings}

theorem mem_sortedDescending {values : List Int} :
    x ∈ sortedDescending values ↔ x ∈ values := by simp [sortedDescending]

theorem mem_collectAmounts :
    ∀ {lots available : List Int}, x ∈ collectAmounts remaining available lots →
      x ∈ available ∨ x ∈ lots := by
  intro lots
  induction lots with
  | nil => intro available h; exact .inl h
  | cons lot rest ih =>
    intro available h
    simp only [collectAmounts] at h
    split at h
    · rcases ih h with h | h
      · exact .inl h
      · exact .inr (List.mem_cons_of_mem _ h)
    · rcases ih h with h | h
      · rcases List.mem_append.mp h with h | h
        · exact .inl h
        · exact .inr (by simp_all)
      · exact .inr (List.mem_cons_of_mem _ h)

theorem mem_collectAmounts_of_mem (lots : List Int) {available : List Int}
    (h : x ∈ available) : x ∈ collectAmounts remaining available lots := by
  induction lots generalizing available with
  | nil => exact h
  | cons lot rest ih =>
    unfold collectAmounts
    split
    · exact ih h
    · exact ih (List.mem_append_left _ h)

theorem ensureIntList_int (lots : List Int) :
    ensureIntList (lots.map .int) = some lots := by
  unfold ensureIntList
  induction lots with
  | nil => rfl
  | cons lot lots ih => simp [ensureInt, ih]

theorem getD_map_int (lots : Option (List Int)) :
    (lots.map (·.map NumberInput.int)).getD [] = (lots.getD []).map .int := by
  cases lots <;> rfl

/-- An accepted amount is positive and within the remainder, and is all of it or a lot of a retail
offer. -/
theorem checkTradeAmount_valid {requested : Int} (hr : offer.remainingQuantity = some remaining)
    (h : (offer.checkTradeAmount requested).valid = true) :
    (offer.checkTradeAmount requested).amount = requested ∧ 0 < requested ∧
      requested ≤ remaining ∧ (requested = remaining ∨
        (offer.isWholesale = false ∧ requested ∈ offer.lotSizes.getD [])) := by
  unfold Offer.checkTradeAmount validateOfferTradeAmount at h ⊢
  simp only [hr, Option.getD_some] at h ⊢
  split at h
  · simp at h
  · rename_i hpos
    split at h
    · simp at h
    · rename_i hle
      rw [if_neg hpos, if_neg hle]
      split at h
      · rename_i hmem
        rw [if_pos hmem]
        refine ⟨rfl, by omega, by omega, ?_⟩
        simp only [getAvailableTradeAmounts, Option.getD_some, getD_map_int, ensureIntList_int]
          at hmem
        split at hmem
        · simp at hmem
        · split at hmem
          · exact .inl (by simpa using hmem)
          · rename_i hretail
            rw [mem_sortedDescending] at hmem
            rcases mem_collectAmounts hmem with hx | hx
            · exact .inl (by simpa using hx)
            · exact .inr ⟨by simp_all, hx⟩
      · split at h <;> simp at h

theorem sum_erase (h : x ∈ lots) :
    (lots.erase x).sum = lots.sum - x := by
  have := (List.perm_cons_erase h).sum_eq
  simp only [List.sum_cons] at this
  omega

/-- `Conserved`, the columns a trade does not touch as created, and lots on a retail offer until it
completes. -/
structure BookInv (created : Offer) (book : OfferBook) : Prop where
  wholesale : book.offer.isWholesale = created.isWholesale
  conserved : ∃ remaining, book.offer.remainingQuantity = some remaining ∧
    book.accepted.sum + remaining = created.quantity ∧ 0 ≤ remaining ∧
    (book.offer.status = .completed ↔ remaining = 0) ∧
    (created.isWholesale = true → book.offer.lotSizes = none) ∧
    (created.isWholesale = false →
      (remaining = 0 ∧ book.offer.lotSizes = none) ∨
      ∃ lots, book.offer.lotSizes = some lots ∧ (∀ lot ∈ lots, 0 < lot) ∧ lots.sum = remaining ∧
        lots = book.accepted.foldl List.erase (created.lotSizes.getD []) ∧
        (book.accepted ++ lots).Perm (created.lotSizes.getD []))

theorem BookInv.toConserved {created : Offer} {book : OfferBook} (h : BookInv created book) :
    Conserved created book := by
  obtain ⟨remaining, hr, hsum, hnn, hst, -, hretail⟩ := h.conserved
  refine ⟨remaining, hr, hsum, hnn, hst, fun hw => ?_⟩
  rcases hretail hw with ⟨-, hnone⟩ | hlots
  · exact .inl hnone
  · exact .inr hlots

theorem applyOfferTradeMutation_whole (hr : offer.remainingQuantity = some remaining) :
    applyOfferTradeMutation offer remaining = .ok ({ offer with
      remainingQuantity := some 0, lotSizes := none, status := .completed },
      offer.lotSizes.isSome) := by
  simp [applyOfferTradeMutation, hr]

theorem applyOfferTradeMutation_lot {amount : Int}
    (hr : offer.remainingQuantity = some remaining) (hlots : offer.lotSizes = some lots)
    (hmem : amount ∈ lots) (hsum : lots.sum = remaining) (hlt : amount < remaining) :
    applyOfferTradeMutation offer amount = .ok ({ offer with
      remainingQuantity := some (remaining - amount), lotSizes := some (lots.erase amount) },
      true) := by
  have hne : lots.erase amount ≠ [] := by
    intro h
    have := sum_erase hmem
    rw [h, List.sum_nil] at this
    omega
  have hcons : ∃ lot rest, lots = lot :: rest := List.exists_cons_of_ne_nil (List.ne_nil_of_mem hmem)
  obtain ⟨lot, rest, rfl⟩ := hcons
  simp only [applyOfferTradeMutation, hr, hlots, hmem, if_true, hne, if_false]
  rw [if_neg (by omega), if_neg (by omega)]

theorem serveTradeRequest_inv {created : Offer} {book : OfferBook} (requested : Int)
    (h : BookInv created book) : BookInv created (serveTradeRequest book requested) := by
  obtain ⟨remaining, hr, hsum, hnn, hst, hwhole, hretail⟩ := h.conserved
  unfold serveTradeRequest
  dsimp only
  by_cases hv : (book.offer.checkTradeAmount requested).valid = true
  · obtain ⟨hamount, hpos, hle, hkind⟩ := checkTradeAmount_valid hr hv
    rw [if_pos hv, hamount]
    by_cases heq : requested = remaining
    · subst heq
      rw [applyOfferTradeMutation_whole hr]
      refine ⟨h.wholesale, 0, rfl, ?_, by omega, by simp, by simp, by simp⟩
      simp only [List.sum_append, List.sum_singleton]
      omega
    · obtain ⟨hretailRow, hmem⟩ := hkind.resolve_left heq
      have hw : created.isWholesale = false := h.wholesale ▸ hretailRow
      rcases hretail hw with ⟨hzero, -⟩ | ⟨lots, hlots, hposLots, hsumLots, hfold, hperm⟩
      · omega
      · rw [hlots, Option.getD_some] at hmem
        rw [applyOfferTradeMutation_lot hr hlots hmem hsumLots (by omega)]
        refine ⟨h.wholesale, remaining - requested, rfl, ?_, by omega, ?_, by simp [hw], ?_⟩
        · simp only [List.sum_append, List.sum_singleton]
          omega
        · constructor
          · intro hc
            have := hst.mp hc
            omega
          · omega
        · intro _
          refine .inr ⟨lots.erase requested, rfl, ?_, ?_, ?_, ?_⟩
          · intro lot hlot
            exact hposLots lot (List.mem_of_mem_erase hlot)
          · rw [sum_erase hmem, hsumLots]
          · rw [List.foldl_append, ← hfold]
            rfl
          · rw [List.append_assoc, List.singleton_append]
            exact ((List.perm_cons_erase hmem).symm.append_left _).trans hperm
  · rw [if_neg hv]
    exact h

/-- Lots that `validate_lot_sizes` accepts are at least the minimum and sum to the total. -/
theorem validateLotSizes_accepted {total : Int} {kept : List Int}
    (h : validateLotSizes settings total lots = .accepted kept) :
    kept = lots ∧ (∀ lot ∈ lots, settings.lotMinSize ≤ lot) ∧ lots.sum = total := by
  unfold validateLotSizes at h
  split at h
  · simp at h
  · split at h
    · simp at h
    · rename_i hfind
      have hall : ∀ lot ∈ lots, settings.lotMinSize ≤ lot := by
        intro lot hlot
        simpa using List.find?_eq_none.mp hfind lot hlot
      split at h
      · split at h <;> simp at h
      · rename_i hsum
        exact ⟨by simpa using h.symm, hall, by simpa using hsum⟩

theorem newOffer_inv (hmin : 0 < settings.lotMinSize)
    (h : NewOffer settings offer) : BookInv offer ⟨offer, []⟩ := by
  have hactive := h.active
  have hpos := h.positive
  refine ⟨rfl, offer.quantity, h.whole, by simp, by omega, ?_, ?_, ?_⟩
  · rw [hactive]
    constructor
    · intro hc; simp at hc
    · intro hz; omega
  · intro hw
    rcases h.lots with ⟨-, hnone⟩ | ⟨hretail, -⟩
    · exact hnone
    · simp [hw] at hretail
  · intro hw
    rcases h.lots with ⟨hwhole, -⟩ | ⟨-, lots, hlots, hok⟩
    · simp [hw] at hwhole
    · obtain ⟨-, hall, hsum⟩ := validateLotSizes_accepted hok
      refine .inr ⟨lots, hlots, fun lot hlot => ?_, hsum, by simp [hlots], by simp [hlots]⟩
      have := hall lot hlot
      omega

/-- With a minimum of zero or below, a zero lot passes the validation. -/
def zeroLotOffer : Offer where
  id := 1
  offerPublicId := "ofr_1"
  userId := some 7
  homeServer := "iran"
  offerType := .sell
  commodityId := 1
  quantity := 1
  price := 75800
  remainingQuantity := some 1
  isWholesale := false
  lotSizes := some [1, 0]
  overtimeMinutesSnapshot := 0
  overtimeTradeCommitted := false
  status := .active
  expireReason := none
  expiredAt := none
  expiredByUserId := none
  expiredByActorUserId := none
  expireSourceSurface := none
  expireSourceServer := none
  createdAt := some 0

theorem zeroLotOffer_new (hmin : settings.lotMinSize ≤ 0) :
    NewOffer settings zeroLotOffer := by
  refine ⟨rfl, by decide, rfl, .inr ⟨rfl, [1, 0], rfl, ?_⟩⟩
  have h1 : ¬ (1 : Int) < settings.lotMinSize := by omega
  have h0 : ¬ (0 : Int) < settings.lotMinSize := by omega
  simp [validateLotSizes, TradingSettings.lotMaxCount, List.find?, h1, h0, zeroLotOffer]

theorem zeroLotOffer_not_conserved : ¬ Conserved zeroLotOffer ⟨zeroLotOffer, []⟩ := by
  rintro ⟨remaining, -, -, -, -, hlots⟩
  rcases hlots rfl with hnone | ⟨lots, hlots, hpos, -⟩
  · simp [zeroLotOffer] at hnone
  · simp only [zeroLotOffer, Option.some.injEq] at hlots
    subst hlots
    simpa using hpos 0 (by simp)

/-- Every run of requests on every new offer conserves its quantity and its lots, exactly when the
configured minimum lot size is positive. -/
theorem conserved_iff_lotMinSize_pos (settings : TradingSettings) :
    (∀ offer, NewOffer settings offer → ∀ requests,
      Conserved offer (run serveTradeRequest ⟨offer, []⟩ requests)) ↔
      0 < settings.lotMinSize := by
  constructor
  · intro h
    by_contra hmin
    exact zeroLotOffer_not_conserved (h zeroLotOffer (zeroLotOffer_new (by omega)) [])
  · intro hmin offer hnew requests
    have hrun := run_invariant (C := fun _ _ _ => True)
      (fun book requested hinv _ => serveTradeRequest_inv requested hinv) requests ⟨offer, []⟩
      (newOffer_inv hmin hnew) (eachStep_true _ _ _)
    exact hrun.toConserved

/-- With `offer_min_quantity = 0` the zero lot of `[1, 0]` is accepted and stored. -/
theorem zero_lot_breaks_conservation :
    NewOffer { offerMinQuantity := 0 } zeroLotOffer ∧
      ¬ Conserved zeroLotOffer (run serveTradeRequest ⟨zeroLotOffer, []⟩ []) :=
  ⟨zeroLotOffer_new (by decide), zeroLotOffer_not_conserved⟩

end TradingBot
