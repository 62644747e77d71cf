import Mathlib.Data.Prod.Lex
import Mathlib.Data.List.MinMax
import Mathlib.Data.String.Basic
import Mathlib.Data.List.Sort
import TradingBot.Misc.Rows
import Mathlib.Algebra.GroupWithZero.Nat

/-!
# Trades of the coin groups

The linker of `src/core/market_intelligence/coin_group_trades.py`: a confirmation is traced to its
root offer along its replies, read for the agreed terms, superseded by stronger evidence on its
path, and counted against the offer's quantity. What the source's patterns read in texts is a
parameter.
-/

namespace TradingBot.Intelligence.CoinGroup

open TradingBot.Misc

abbrev Digest := List UInt8

abbrev Key := Int × Int

/-- `StagedCoinGroupMessage` (coin_group_staging.py:44). -/
structure Message where
  groupNumber : Int
  messageId : Int
  eventTimeUtc : String
  availableAtUtc : String
  text : String
  replyToMessageId : Option Int
  senderDigest : Option Digest
  revision : Int
  deriving DecidableEq

def Message.key (message : Message) : Key := (message.groupNumber, message.messageId)

inductive Settlement where
  | cash | today | tomorrow
  deriving DecidableEq

inductive Quality where
  | eligible | pendingReview | rejected
  deriving DecidableEq

/-- `ResolvedCoinGroupOffer` (coin_group_resolution.py:51); the parser reads positive quantities. -/
structure Offer where
  commodityCode : Option String
  price : Int
  quantity : Nat
  quantity_pos : 0 < quantity
  side : String
  settlementTerm : Settlement
  tradeForm : String
  isConditional : Bool
  qualityState : Quality
  resolutionReason : String

/-- `CoinGroupOfferRecord` (line 57). -/
structure OfferRecord where
  groupNumber : Int
  messageId : Int
  offererDigest : Option Digest
  offerEventTimeUtc : String
  offer : Offer

def OfferRecord.key (record : OfferRecord) : Key := (record.groupNumber, record.messageId)

inductive Signal where
  | reject | question | explicitTrade | accept | buyRequest | sellRequest | negotiation
  deriving DecidableEq

/-- What the patterns read in a text: `_signal`, the quantity of `_quantity_and_spans`,
`_negotiated_price_result` against the offer's price and commodity (price, seen, safe), the markers
of `coin_group_settlement_markers`, `_CUMULATIVE`; and `_age_seconds` in microseconds. -/
structure Reader where
  signal : String → Signal
  quantity : String → Option Nat
  quantity_pos : ∀ text count, quantity text = some count → 0 < count
  price : String → Int → Option String → Option Int × Bool × Bool
  markers : String → Bool × Bool
  cumulative : String → Bool
  age : String → String → Int

inductive ConfirmationKind where
  | ownerExplicitAggregateReplyTrade
  | reciprocalOffererConfirmation
  | counterpartyExplicitReplyTrade
  | reciprocalCounterpartyConfirmation
  deriving DecidableEq

/-- `LinkedCoinGroupTrade` (line 69). -/
structure LinkedTrade where
  groupNumber : Int
  rootOfferMessageId : Int
  confirmationMessageId : Int
  commodityCode : Option String
  price : Int
  quantity : Nat
  side : String
  settlementTerm : Settlement
  tradeForm : String
  eventTimeUtc : String
  availableAtUtc : String
  isConditional : Bool
  qualityState : Quality
  confirmationKind : ConfirmationKind
  isAggregate : Bool
  quantityWasNegotiated : Bool
  resolutionReason : String

def LinkedTrade.rootKey (trade : LinkedTrade) : Key :=
  (trade.groupNumber, trade.rootOfferMessageId)

/-- The loop body of `_message_map` (line 225). -/
def stage (values : List Message) (message : Message) : List Message :=
  match getRow Message.key message.key values with
  | none => values ++ [message]
  | some current =>
    if current.revision < message.revision then
      setRow Message.key message.key (fun _ => message) values
    else values

def messageMap (messages : List Message) : List Message := messages.foldl stage []

def offerAt (offers : List OfferRecord) (key : Key) : Option OfferRecord :=
  getRow OfferRecord.key key offers.reverse

def maxReplyDepth : Nat := 12

/-- The loop of `_root_offer` (line 235). -/
def rootWalk (staged : List Message) (offers : List OfferRecord) :
    Nat → List Int → Option OfferRecord → Message → Option OfferRecord
  | 0, _, _, _ => none
  | depth + 1, seen, oldest, current =>
    let oldest := (offerAt offers current.key).or oldest
    match current.replyToMessageId with
    | none => oldest
    | some parentId =>
      if parentId ∈ seen then none
      else
        match getRow Message.key (current.groupNumber, parentId) staged with
        | none => none
        | some parent => rootWalk staged offers depth (parentId :: seen) oldest parent

def rootOffer (staged : List Message) (offers : List OfferRecord) (message : Message) :
    Option OfferRecord :=
  rootWalk staged offers maxReplyDepth [] none message

/-- The loop of `_branch_from_root` (line 265): the path up to the root. -/
def branchWalk (staged : List Message) (rootId : Int) :
    Nat → List Int → Message → Option (List Message)
  | 0, _, _ => none
  | depth + 1, seen, current =>
    if current.messageId ∈ seen then none
    else if current.messageId = rootId then some [current]
    else
      match current.replyToMessageId with
      | none => none
      | some parentId =>
        match getRow Message.key (current.groupNumber, parentId) staged with
        | none => none
        | some parent =>
          (branchWalk staged rootId depth (current.messageId :: seen) parent).map (current :: ·)

def branchFromRoot (staged : List Message) (root : OfferRecord) (message : Message) :
    List Message :=
  ((branchWalk staged root.messageId maxReplyDepth [] message).getD []).reverse

def maxReplyAge : Int := 2 * 60 * 60 * 1000000

def appendGateReason (current gate : String) : String :=
  if current = "STRUCTURALLY_LINKED_CONFIRMED_TRADE" then gate
  else if gate ∈ current.splitOn ";" then current
  else current ++ ";" ++ gate

def confirmationKind (root : OfferRecord) (message : Message) (branch : List Message)
    (signal : Signal) : Option (ConfirmationKind × Option Digest) :=
  match branch.dropLast.getLast? with
  | none => none
  | some parent =>
    let directToRoot := parent.messageId = root.messageId
    let middle := branch.tail.dropLast
    if message.senderDigest = root.offererDigest then
      if directToRoot then
        if signal ≠ .explicitTrade then none
        else some (.ownerExplicitAggregateReplyTrade,
          middle.reverse.findSome? fun item =>
            if item.senderDigest ≠ root.offererDigest then item.senderDigest else none)
      else if signal ≠ .accept ∧ signal ≠ .explicitTrade then none
      else
        match middle.reverse.findSome? fun item =>
          if item.senderDigest ≠ root.offererDigest then item.senderDigest else none with
        | none => none
        | some counterparty => some (.reciprocalOffererConfirmation, some counterparty)
    else
      let priorTurn := middle.any fun item => item.senderDigest = message.senderDigest
      let kind := if signal = .explicitTrade then
          ConfirmationKind.counterpartyExplicitReplyTrade
        else .reciprocalCounterpartyConfirmation
      if directToRoot then
        if signal ≠ .explicitTrade then none else some (kind, message.senderDigest)
      else if (signal = .accept ∨ signal = .explicitTrade) ∧
          parent.senderDigest = root.offererDigest ∧ priorTurn then
        some (kind, message.senderDigest)
      else none

structure Terms where
  quantity : Option Nat
  price : Option Int
  priceIsSafe : Bool
  priceIsAmbiguous : Bool
  settlement : Settlement
  settlementChanged : Bool
  hasTerms : Bool

def Terms.read (reader : Reader) (offer : Offer) (terms : Terms) (text : String) : Option Terms :=
  let terms := match reader.quantity text with
    | some count => { terms with quantity := some count, hasTerms := true }
    | none => terms
  let (price, seen, safe) := reader.price text offer.price offer.commodityCode
  let terms := if seen then
      { terms with hasTerms := true, price, priceIsAmbiguous := price.isNone, priceIsSafe := safe }
    else terms
  let (cash, tomorrow) := reader.markers text
  if cash && tomorrow then none
  else if cash || tomorrow then
    let settlement := if cash then Settlement.cash else .tomorrow
    some { terms with
      hasTerms := true, settlement, settlementChanged := settlement ≠ offer.settlementTerm }
  else some terms

def baseQuality (offer : Offer) (isAggregate : Bool) (quantity : Nat) : Quality × String :=
  if offer.qualityState = .rejected then
    (.rejected, "ROOT_OFFER_REJECTED:" ++ offer.resolutionReason)
  else if offer.qualityState ≠ .eligible ∨ offer.commodityCode = none then
    (.pendingReview, "ROOT_OFFER_NOT_MODEL_ELIGIBLE:" ++ offer.resolutionReason)
  else if isAggregate ∧ offer.quantity < quantity then
    (.pendingReview, "AGGREGATE_QUANTITY_EXCEEDS_ROOT_OFFER")
  else (.eligible, "STRUCTURALLY_LINKED_CONFIRMED_TRADE")

def gatesOf (kind : ConfirmationKind) (terms : Terms) : List String :=
  (if kind = .counterpartyExplicitReplyTrade then
    ["COUNTERPARTY_DECLARATION_REQUIRES_OFFERER_CONFIRMATION"] else []) ++
  (if terms.priceIsSafe then [] else ["NEGOTIATED_PRICE_OUTSIDE_SAFE_RELATIVE_DELTA"]) ++
  (if terms.settlementChanged then ["NEGOTIATED_SETTLEMENT_REQUIRES_SAME_BOOK_VALIDATION"] else [])

def tradeFromConfirmation (reader : Reader) (staged : List Message) (root : OfferRecord)
    (message : Message) : Option (LinkedTrade × List Digest) := do
  let offer := root.offer
  let offerer ← root.offererDigest
  let _ ← message.senderDigest
  let age := reader.age message.eventTimeUtc root.offerEventTimeUtc
  guard (0 ≤ age ∧ age ≤ maxReplyAge)
  let signal := reader.signal message.text
  guard (signal ≠ .reject ∧ signal ≠ .question ∧ signal ≠ .negotiation)
  let branch := branchFromRoot staged root message
  guard (2 ≤ branch.length)
  let (kind, counterparty) ← confirmationKind root message branch signal
  let participants := offerer :: counterparty.toList
  let evidence := branch.tail.filter fun item => item.senderDigest.any (participants.contains ·)
  -- what a participant cancelled is not read, and is only revived by new terms
  let active := (evidence.reverse.takeWhile fun item => reader.signal item.text ≠ .reject).reverse
  let terms ← active.foldlM (fun terms item => Terms.read reader offer terms item.text)
    ⟨none, none, true, false, offer.settlementTerm, false, false⟩
  guard ¬(active.length < evidence.length ∧ terms.hasTerms = false)
  guard ¬terms.priceIsAmbiguous
  guard ¬(terms.quantity = none ∧ kind = .ownerExplicitAggregateReplyTrade)
  let quantity := terms.quantity.getD offer.quantity
  let isAggregate := kind = .ownerExplicitAggregateReplyTrade ∧ reader.cumulative message.text
  let (quality, reason) := baseQuality offer isAggregate quantity
  let gates := if quality = .rejected then [] else gatesOf kind terms
  pure ({
    groupNumber := root.groupNumber
    rootOfferMessageId := root.messageId
    confirmationMessageId := message.messageId
    commodityCode := offer.commodityCode
    price := terms.price.getD offer.price
    quantity
    side := offer.side
    settlementTerm := terms.settlement
    tradeForm := offer.tradeForm
    eventTimeUtc := message.eventTimeUtc
    availableAtUtc := message.availableAtUtc
    isConditional := offer.isConditional
    qualityState := if gates = [] then quality else .pendingReview
    confirmationKind := kind
    isAggregate
    quantityWasNegotiated := terms.quantity.isSome
    resolutionReason := gates.foldl appendGateReason reason }, participants)

/-- `_TradeCandidate` (line 92). -/
structure Candidate where
  trade : LinkedTrade
  branchIds : List Int
  participants : List Digest

def candidateOf (reader : Reader) (staged : List Message) (offers : List OfferRecord)
    (message : Message) : Option Candidate := do
  let _ ← message.replyToMessageId
  let root ← rootOffer staged offers message
  guard (message.messageId ≠ root.messageId)
  let (trade, participants) ← tradeFromConfirmation reader staged root message
  pure ⟨trade, (branchFromRoot staged root message).map (·.messageId), participants⟩

def candidates (reader : Reader) (messages : List Message) (offers : List OfferRecord) :
    List Candidate :=
  let staged := messageMap messages
  (staged.insertionSort fun a b =>
    toLex (a.eventTimeUtc, a.messageId) ≤ toLex (b.eventTimeUtc, b.messageId)).filterMap
      (candidateOf reader staged offers)

def authority : ConfirmationKind → Nat
  | .ownerExplicitAggregateReplyTrade => 3
  | .reciprocalOffererConfirmation => 3
  | .counterpartyExplicitReplyTrade => 2
  | .reciprocalCounterpartyConfirmation => 2

def LinkedTrade.rank (trade : LinkedTrade) : Nat ×ₗ String ×ₗ Int :=
  toLex (authority trade.confirmationKind,
    toLex (trade.eventTimeUtc, trade.confirmationMessageId))

def SamePath (candidate other : Candidate) : Prop :=
  other.trade.rootKey = candidate.trade.rootKey ∧
    (candidate.trade.confirmationMessageId ∈ other.branchIds ∨
      other.trade.confirmationMessageId ∈ candidate.branchIds)

instance (candidate other : Candidate) : Decidable (SamePath candidate other) :=
  inferInstanceAs (Decidable (_ ∧ _))

/-- The candidates no stronger evidence supersedes (line 547); none outranks itself, so comparing it
with itself makes no difference. -/
def selected (all : List Candidate) : List Candidate :=
  all.filter fun candidate => !all.any fun other =>
    SamePath candidate other ∧ candidate.trade.rank < other.trade.rank

/-- The loop of `_has_later_participant_rejection` (line 476). -/
def rejectionWalk (reader : Reader) (staged : List Message) (candidate : Candidate) :
    Nat → List Int → List Message → Bool
  | 0, _, _ => false
  | _ + 1, _, [] => false
  | fuel + 1, seen, message :: pending =>
    let age := reader.age message.eventTimeUtc candidate.trade.eventTimeUtc
    if message.messageId ∈ seen then rejectionWalk reader staged candidate fuel seen pending
    else if age < 0 ∨ maxReplyAge < age then
      rejectionWalk reader staged candidate fuel (message.messageId :: seen) pending
    else if message.senderDigest.any (candidate.participants.contains ·) ∧
        reader.signal message.text = .reject then true
    else
      rejectionWalk reader staged candidate fuel (message.messageId :: seen)
        ((staged.filter fun child => child.groupNumber = message.groupNumber ∧
          child.replyToMessageId = some message.messageId).reverse ++ pending)

/-- Line 476. Only its one parent puts a message on the stack, so the bound on the rounds is not
met. -/
def hasLaterParticipantRejection (reader : Reader) (staged : List Message)
    (candidate : Candidate) : Bool :=
  rejectionWalk reader staged candidate (2 * staged.length + 1) []
    (staged.filter fun child => child.groupNumber = candidate.trade.groupNumber ∧
      child.replyToMessageId = some candidate.trade.confirmationMessageId).reverse

def LinkedTrade.gated (trade : LinkedTrade) (gate : String) : LinkedTrade :=
  { trade with
    qualityState := if trade.qualityState = .rejected then .rejected else .pendingReview
    resolutionReason := appendGateReason trade.resolutionReason gate }

def LinkedTrade.Amends (trade : LinkedTrade) : Prop :=
  trade.quantityWasNegotiated ∧ (trade.confirmationKind = .reciprocalOffererConfirmation ∨
    trade.confirmationKind = .reciprocalCounterpartyConfirmation)

instance (trade : LinkedTrade) : Decidable trade.Amends := inferInstanceAs (Decidable (_ ∧ _))

def offeredQuantity (offers : List OfferRecord) (key : Key) : Nat :=
  ((offerAt offers key).map (·.offer.quantity)).getD 0

def fillLoop (offers : List OfferRecord) : (Key → Nat) → List LinkedTrade → List LinkedTrade
  | _, [] => []
  | filled, trade :: rest =>
    let offered := offeredQuantity offers trade.rootKey
    let already := filled trade.rootKey
    if trade.isAggregate then trade :: fillLoop offers filled rest
    else if (offered : Int) - already < trade.quantity ∧ ¬(already = 0 ∧ trade.Amends) then
      trade.gated "NON_AGGREGATE_FILL_EXCEEDS_REMAINING_ROOT_QUANTITY" ::
        fillLoop offers filled rest
    else
      trade :: fillLoop offers
        (Function.update filled trade.rootKey (already + trade.quantity)) rest

def confirmedTrade (reader : Reader) (staged : List Message) (candidate : Candidate) :
    LinkedTrade :=
  if hasLaterParticipantRejection reader staged candidate then
    candidate.trade.gated "PARTICIPANT_REJECTION_AFTER_CONFIRMATION"
  else candidate.trade

def inOrder (all : List Candidate) : List Candidate :=
  all.insertionSort fun a b =>
    toLex (a.trade.eventTimeUtc, a.trade.confirmationMessageId) ≤
      toLex (b.trade.eventTimeUtc, b.trade.confirmationMessageId)

def linkCoinGroupTrades (reader : Reader) (messages : List Message) (offers : List OfferRecord) :
    List LinkedTrade :=
  fillLoop offers (fun _ => 0) ((inOrder (selected (candidates reader messages offers))).map
    (confirmedTrade reader (messageMap messages)))

theorem nodup_messageMap (messages : List Message) :
    ((messageMap messages).map Message.key).Nodup := by
  refine List.foldlRecOn (motive := fun values => (values.map Message.key).Nodup) messages stage
    (b := []) List.nodup_nil fun values hvalues message _ => ?_
  rw [stage]
  cases hrow : getRow Message.key message.key values with
  | none => exact nodup_map_append_singleton hvalues (getRow_eq_none.mp hrow)
  | some current =>
    dsimp only
    split
    · rw [map_id_setRow fun _ _ => rfl]
      exact hvalues
    · exact hvalues

variable {reader : Reader} {staged messages : List Message} {offers : List OfferRecord}
  {root : OfferRecord} {message : Message} {trade : LinkedTrade} {candidate : Candidate}

section Paths

variable {rootId : Int} {depth : Nat} {seen : List Int} {current : Message} {path : List Message}

/-- The path up to a root, as `_branch_from_root` walks it. -/
def pathUp (staged : List Message) (rootId : Int) (message : Message) : Option (List Message) :=
  branchWalk staged rootId maxReplyDepth [] message

theorem branchWalk_succ :
    branchWalk staged rootId (depth + 1) seen current = some path ↔ current.messageId ∉ seen ∧
      (current.messageId = rootId ∧ path = [current] ∨
        current.messageId ≠ rootId ∧ ∃ parentId parent rest,
          current.replyToMessageId = some parentId ∧
          getRow Message.key (current.groupNumber, parentId) staged = some parent ∧
          branchWalk staged rootId depth (current.messageId :: seen) parent = some rest ∧
          path = current :: rest) := by
  rw [branchWalk]
  split
  · rename_i hseen
    simp [hseen]
  · rename_i hunseen
    split
    · rename_i hroot
      subst hroot
      simp [hunseen, eq_comm]
    · rename_i hroot
      cases hreply : current.replyToMessageId with
      | none => simp [hroot]
      | some parentId =>
        cases hparent : getRow Message.key (current.groupNumber, parentId) staged with
        | none => simp [hroot, hparent]
        | some parent => simp [hunseen, hroot, hparent, eq_comm]

theorem branchWalk_mono {depth' : Nat} {seen' : List Int}
    (h : branchWalk staged rootId depth seen current = some path)
    (hdepth : depth ≤ depth') (hseen : seen' ⊆ seen) :
    branchWalk staged rootId depth' seen' current = some path := by
  induction depth generalizing depth' seen seen' current path with
  | zero => cases h
  | succ depth ih =>
    obtain ⟨deeper, rfl⟩ := Nat.exists_eq_add_of_le' hdepth
    obtain ⟨hunseen, hcases⟩ := branchWalk_succ.mp h
    rw [← Nat.add_assoc]
    refine branchWalk_succ.mpr ⟨fun hmem => hunseen (hseen hmem), ?_⟩
    rcases hcases with hroot | ⟨hroot, parentId, parent, rest, hreply, hparent, hrest, hpath⟩
    · exact .inl hroot
    · exact .inr ⟨hroot, parentId, parent, rest, hreply, hparent,
        ih hrest (by omega) (List.cons_subset_cons _ hseen), hpath⟩

theorem pathUp_suffix_of_walk {message : Message}
    (h : branchWalk staged rootId depth seen current = some path)
    (hdepth : depth ≤ maxReplyDepth) (hmem : message ∈ path) :
    ∃ rest, pathUp staged rootId message = some rest ∧ rest <:+ path := by
  induction depth generalizing seen current path with
  | zero => cases h
  | succ depth ih =>
    have hwhole : pathUp staged rootId current = some path :=
      branchWalk_mono h hdepth (List.nil_subset _)
    obtain ⟨-, ⟨-, rfl⟩ | ⟨-, parentId, parent, rest, -, -, hrest, rfl⟩⟩ := branchWalk_succ.mp h
    · rw [List.mem_singleton.mp hmem]
      exact ⟨_, hwhole, List.suffix_rfl⟩
    · rcases List.mem_cons.mp hmem with rfl | hlater
      · exact ⟨_, hwhole, List.suffix_rfl⟩
      · obtain ⟨tail, htail, hsuffix⟩ := ih hrest (by omega) hlater
        exact ⟨tail, htail, hsuffix.trans (List.suffix_cons _ _)⟩

theorem mem_of_branchWalk (h : branchWalk staged rootId depth seen current = some path)
    (hstaged : current ∈ staged) :
    current ∈ path ∧ ∀ message ∈ path, message ∈ staged ∧
      message.groupNumber = current.groupNumber := by
  induction depth generalizing seen current path with
  | zero => cases h
  | succ depth ih =>
    obtain ⟨-, ⟨-, rfl⟩ | ⟨-, parentId, parent, rest, -, hparent, hrest, rfl⟩⟩ :=
      branchWalk_succ.mp h
    · simp [hstaged]
    · obtain ⟨hmem, hkey⟩ := getRow_eq_some hparent
      have hgroup : parent.groupNumber = current.groupNumber := congrArg Prod.fst hkey
      refine ⟨List.mem_cons_self, fun message hmessage => ?_⟩
      rcases List.mem_cons.mp hmessage with rfl | hlater
      · exact ⟨hstaged, rfl⟩
      · obtain ⟨hin, hsame⟩ := (ih hrest hmem).2 message hlater
        exact ⟨hin, hsame.trans hgroup⟩

end Paths

/-! ## Candidates -/

theorem rootWalk_spec {depth : Nat} {seen : List Int} {oldest : Option OfferRecord}
    {current : Message} (h : rootWalk staged offers depth seen oldest current = some root)
    (holdest : ∀ offer, oldest = some offer →
      offer.groupNumber = current.groupNumber ∧ offerAt offers offer.key = some offer) :
    root.groupNumber = current.groupNumber ∧ offerAt offers root.key = some root := by
  induction depth generalizing seen oldest current with
  | zero => cases h
  | succ depth ih =>
    have hnext : ∀ offer, (offerAt offers current.key).or oldest = some offer →
        offer.groupNumber = current.groupNumber ∧ offerAt offers offer.key = some offer := by
      intro offer hoffer
      rcases Option.or_eq_some_iff.mp hoffer with hat | ⟨-, hold⟩
      · have hkey : offer.key = current.key := (getRow_eq_some hat).2
        exact ⟨congrArg Prod.fst hkey, hkey ▸ hat⟩
      · exact holdest offer hold
    rw [rootWalk] at h
    cases hreply : current.replyToMessageId with
    | none =>
      rw [hreply] at h
      exact hnext root h
    | some parentId =>
      simp only [hreply] at h
      split at h
      · cases h
      · cases hparent : getRow Message.key (current.groupNumber, parentId) staged with
        | none =>
          rw [hparent] at h
          cases h
        | some parent =>
          rw [hparent] at h
          have hgroup : parent.groupNumber = current.groupNumber :=
            congrArg Prod.fst (getRow_eq_some hparent).2
          have hspec := ih h fun offer hoffer => by rw [hgroup]; exact hnext offer hoffer
          rw [hgroup] at hspec
          exact hspec

theorem Terms.read_quantity {offer : Offer} {terms next : Terms} {text : String}
    (h : terms.read reader offer text = some next) (hterms : ∀ q, terms.quantity = some q → 0 < q) :
    ∀ q, next.quantity = some q → 0 < q := by
  have hquantity : next.quantity = (reader.quantity text).or terms.quantity := by
    unfold Terms.read at h
    cases hread : reader.quantity text <;> simp only [hread] at h <;> split_ifs at h <;>
      cases h <;> simp
  intro q hq
  rw [hquantity] at hq
  rcases Option.or_eq_some_iff.mp hq with hnew | ⟨-, hold⟩
  · exact reader.quantity_pos text q hnew
  · exact hterms q hold

theorem Terms.foldlM_quantity {offer : Offer} {evidence : List Message} {terms last : Terms}
    (h : evidence.foldlM (fun terms item => Terms.read reader offer terms item.text) terms =
      some last)
    (hterms : ∀ q, terms.quantity = some q → 0 < q) : ∀ q, last.quantity = some q → 0 < q := by
  induction evidence generalizing terms with
  | nil =>
    cases h
    exact hterms
  | cons item evidence ih =>
    rw [List.foldlM_cons] at h
    obtain ⟨next, hnext, hrest⟩ := Option.bind_eq_some_iff.mp h
    exact ih hrest (read_quantity hnext hterms)

theorem tradeFromConfirmation_spec {participants : List Digest}
    (h : tradeFromConfirmation reader staged root message = some (trade, participants)) :
    trade.rootKey = root.key ∧ trade.confirmationMessageId = message.messageId ∧
      0 < trade.quantity ∧ branchFromRoot staged root message ≠ [] := by
  simp only [tradeFromConfirmation, Option.bind_eq_bind, Option.bind_eq_some_iff] at h
  obtain ⟨_, -, _, -, _, -, _, -, _, hlength, _, -, terms, hterms, _, -, _, -, _, -, hresult⟩ := h
  cases hresult
  refine ⟨rfl, rfl, ?_, ?_⟩
  · change 0 < terms.quantity.getD root.offer.quantity
    cases hquantity : terms.quantity with
    | none => exact root.offer.quantity_pos
    | some count =>
      exact Terms.foldlM_quantity hterms (fun _ hnone => by cases hnone) count hquantity
  · intro hnil
    rw [hnil] at hlength
    cases hlength

structure Traces (staged : List Message) (offers : List OfferRecord) (candidate : Candidate)
    (message : Message) (root : OfferRecord) (path : List Message) : Prop where
  mem : message ∈ staged
  offer : offerAt offers root.key = some root
  group : root.groupNumber = message.groupNumber
  rootKey : candidate.trade.rootKey = root.key
  confirmation : candidate.trade.confirmationMessageId = message.messageId
  quantity : 0 < candidate.trade.quantity
  walk : pathUp staged root.messageId message = some path
  branchIds : candidate.branchIds = path.reverse.map (·.messageId)

theorem traces_of_candidateOf
    (h : candidateOf reader staged offers message = some candidate) (hmem : message ∈ staged) :
    ∃ root path, Traces staged offers candidate message root path := by
  simp only [candidateOf, Option.bind_eq_bind, Option.bind_eq_some_iff] at h
  obtain ⟨-, -, root, hroot, -, -, ⟨trade, participants⟩, htrade, hresult⟩ := h
  cases hresult
  obtain ⟨hkey, hconfirmation, hquantity, hbranch⟩ := tradeFromConfirmation_spec htrade
  obtain ⟨hgroup, hoffer⟩ := rootWalk_spec hroot fun _ hnone => by cases hnone
  cases hpath : pathUp staged root.messageId message with
  | none =>
    rw [branchFromRoot, ← pathUp, hpath] at hbranch
    exact absurd rfl hbranch
  | some path =>
    refine ⟨root, path, hmem, hoffer, hgroup, hkey, hconfirmation, hquantity, hpath, ?_⟩
    rw [branchFromRoot, ← pathUp, hpath, Option.getD_some]

section Candidates

theorem exists_traces (h : candidate ∈ candidates reader messages offers) :
    ∃ message root path, Traces (messageMap messages) offers candidate message root path := by
  obtain ⟨message, hmem, hcandidate⟩ := List.mem_filterMap.mp h
  exact ⟨message, traces_of_candidateOf hcandidate ((List.perm_insertionSort _ _).mem_iff.mp hmem)⟩

def Above (first second : Candidate) : Prop :=
  first.trade.rootKey = second.trade.rootKey ∧
    first.trade.confirmationMessageId ∈ second.branchIds

theorem samePath_iff {first second : Candidate} :
    SamePath first second ↔ Above first second ∨ Above second first := by
  simp only [SamePath, Above]
  constructor
  · rintro ⟨hroot, hmem | hmem⟩
    · exact .inl ⟨hroot.symm, hmem⟩
    · exact .inr ⟨hroot, hmem⟩
  · rintro (⟨hroot, hmem⟩ | ⟨hroot, hmem⟩)
    · exact ⟨hroot.symm, .inl hmem⟩
    · exact ⟨hroot, .inr hmem⟩

theorem samePath_comm {first second : Candidate} :
    SamePath first second ↔ SamePath second first := by
  rw [samePath_iff, samePath_iff, or_comm]

variable {first second third : Candidate} {m₁ m₂ m₃ : Message} {root₁ root₂ root₃ : OfferRecord}
  {path₁ path₂ path₃ : List Message}

theorem above_iff (h₁ : Traces (messageMap messages) offers first m₁ root₁ path₁)
    (h₂ : Traces (messageMap messages) offers second m₂ root₂ path₂) :
    Above first second ↔ root₁ = root₂ ∧ path₁ <:+ path₂ := by
  have hroots : first.trade.rootKey = second.trade.rootKey ↔ root₁ = root₂ := by
    rw [h₁.rootKey, h₂.rootKey]
    constructor
    · intro hkey
      have hoffer := h₁.offer
      rw [hkey, h₂.offer] at hoffer
      exact (Option.some.inj hoffer).symm
    · rintro rfl
      rfl
  rw [Above, hroots, h₁.confirmation, h₂.branchIds]
  refine and_congr_right fun hroot => ?_
  subst hroot
  constructor
  · intro hid
    obtain ⟨message, hmessage, hsame⟩ := List.mem_map.mp hid
    rw [List.mem_reverse] at hmessage
    obtain ⟨hstaged, hgroup⟩ := (mem_of_branchWalk h₂.walk h₂.mem).2 message hmessage
    have hkey : message.key = m₁.key := by
      rw [Message.key, Message.key, hsame, hgroup, ← h₂.group, h₁.group]
    rw [List.inj_on_of_nodup_map (nodup_messageMap messages) hstaged h₁.mem hkey] at hmessage
    obtain ⟨rest, hrest, hsuffix⟩ := pathUp_suffix_of_walk h₂.walk le_rfl hmessage
    rw [h₁.walk] at hrest
    exact Option.some.inj hrest ▸ hsuffix
  · intro hsuffix
    refine List.mem_map_of_mem (List.mem_reverse.mpr (hsuffix.mem ?_))
    exact (mem_of_branchWalk h₁.walk h₁.mem).1

theorem above_trans (hfirst : first ∈ candidates reader messages offers)
    (hsecond : second ∈ candidates reader messages offers)
    (hthird : third ∈ candidates reader messages offers) (h : Above first second)
    (hnext : Above second third) : Above first third := by
  obtain ⟨m₁, root₁, path₁, h₁⟩ := exists_traces hfirst
  obtain ⟨m₂, root₂, path₂, h₂⟩ := exists_traces hsecond
  obtain ⟨m₃, root₃, path₃, h₃⟩ := exists_traces hthird
  rw [above_iff h₁ h₂] at h
  rw [above_iff h₂ h₃] at hnext
  exact (above_iff h₁ h₃).mpr ⟨h.1.trans hnext.1, h.2.trans hnext.2⟩

theorem samePath_of_above (hfirst : first ∈ candidates reader messages offers)
    (hsecond : second ∈ candidates reader messages offers)
    (hthird : third ∈ candidates reader messages offers) (h : Above first third)
    (hother : Above second third) : SamePath first second := by
  obtain ⟨m₁, root₁, path₁, h₁⟩ := exists_traces hfirst
  obtain ⟨m₂, root₂, path₂, h₂⟩ := exists_traces hsecond
  obtain ⟨m₃, root₃, path₃, h₃⟩ := exists_traces hthird
  rw [above_iff h₁ h₃] at h
  rw [above_iff h₂ h₃] at hother
  rw [samePath_iff, above_iff h₁ h₂, above_iff h₂ h₁]
  have hroot := h.1.trans hother.1.symm
  exact (List.suffix_or_suffix_of_suffix h.2 hother.2).imp (⟨hroot, ·⟩) (⟨hroot.symm, ·⟩)

end Candidates

/-! ## Returned trades -/

def LinkedTrade.evidence (trade : LinkedTrade) : Key × Int × (Nat ×ₗ String ×ₗ Int) :=
  (trade.rootKey, trade.confirmationMessageId, trade.rank)

theorem fillLoop_evidence (offers : List OfferRecord) (filled : Key → Nat)
    (trades : List LinkedTrade) :
    (fillLoop offers filled trades).map LinkedTrade.evidence =
      trades.map LinkedTrade.evidence := by
  induction trades generalizing filled with
  | nil => rfl
  | cons trade rest ih =>
    rw [fillLoop]
    split_ifs <;> exact congrArg (_ :: ·) (ih _)

section Returned

variable (reader messages offers) in
theorem link_evidence_perm :
    ((linkCoinGroupTrades reader messages offers).map LinkedTrade.evidence).Perm
      ((selected (candidates reader messages offers)).map (·.trade.evidence)) := by
  rw [linkCoinGroupTrades, fillLoop_evidence, List.map_map]
  have hsame : LinkedTrade.evidence ∘ confirmedTrade reader (messageMap messages) =
      (·.trade.evidence) := by
    funext candidate
    rw [Function.comp_apply, confirmedTrade]
    split <;> rfl
  rw [hsame]
  exact (List.perm_insertionSort _ _).map _

theorem exists_selected (h : trade ∈ linkCoinGroupTrades reader messages offers) :
    ∃ candidate ∈ selected (candidates reader messages offers),
      candidate.trade.evidence = trade.evidence :=
  List.mem_map.mp ((link_evidence_perm reader messages offers).mem_iff.mp (List.mem_map_of_mem h))

theorem exists_returned (h : candidate ∈ selected (candidates reader messages offers)) :
    ∃ trade ∈ linkCoinGroupTrades reader messages offers,
      trade.evidence = candidate.trade.evidence :=
  List.mem_map.mp ((link_evidence_perm reader messages offers).mem_iff.mpr
    (List.mem_map_of_mem (f := (·.trade.evidence)) h))

theorem mem_selected {all : List Candidate} :
    candidate ∈ selected all ↔ candidate ∈ all ∧
      ∀ other ∈ all, SamePath candidate other → other.trade.rank ≤ candidate.trade.rank := by
  simp [selected]

def replyPath (messages : List Message) (offers : List OfferRecord) (trade : LinkedTrade) :
    List Int :=
  match getRow Message.key (trade.groupNumber, trade.confirmationMessageId) (messageMap messages),
    offerAt offers trade.rootKey with
  | some message, some root =>
    (branchFromRoot (messageMap messages) root message).map (·.messageId)
  | _, _ => []

/-- The path of one trade leads through the confirmation of the other, of the same root. -/
def OnOneReplyPath (messages : List Message) (offers : List OfferRecord)
    (first second : LinkedTrade) : Prop :=
  first.rootKey = second.rootKey ∧
    (first.confirmationMessageId ∈ replyPath messages offers second ∨
      second.confirmationMessageId ∈ replyPath messages offers first)

instance (messages : List Message) (offers : List OfferRecord) (first second : LinkedTrade) :
    Decidable (OnOneReplyPath messages offers first second) :=
  inferInstanceAs (Decidable (_ ∧ _))

def LinkedTrade.confirmationKey (trade : LinkedTrade) : Key :=
  (trade.groupNumber, trade.confirmationMessageId)

theorem confirmationKey_eq {other : LinkedTrade} (h : trade.evidence = other.evidence) :
    trade.confirmationKey = other.confirmationKey :=
  congrArg (fun evidence => (evidence.1.1, evidence.2.1)) h

theorem Traces.confirmationKey
    {path : List Message} (h : Traces (messageMap messages) offers candidate message root path) :
    candidate.trade.confirmationKey = message.key := by
  rw [LinkedTrade.confirmationKey, Message.key, h.confirmation, ← h.group]
  exact congrArg (·, message.messageId) (congrArg Prod.fst h.rootKey)

theorem replyPath_eq (h : candidate ∈ candidates reader messages offers)
    (heq : candidate.trade.evidence = trade.evidence) :
    replyPath messages offers trade = candidate.branchIds := by
  obtain ⟨message, root, path, htraces⟩ := exists_traces h
  have hkey : trade.rootKey = root.key := (congrArg (·.1) heq).symm.trans htraces.rootKey
  have hconfirmation : (trade.groupNumber, trade.confirmationMessageId) = message.key := by
    rw [← htraces.confirmationKey]
    exact (confirmationKey_eq heq).symm
  have hwalk := htraces.walk
  rw [pathUp] at hwalk
  rw [replyPath, hkey, htraces.offer, hconfirmation,
    getRow_of_mem (nodup_messageMap messages) htraces.mem, htraces.branchIds]
  dsimp only
  rw [branchFromRoot, hwalk, Option.getD_some]

theorem onOneReplyPath_iff {first second : Candidate} {other : LinkedTrade}
    (hfirst : first ∈ candidates reader messages offers)
    (hsecond : second ∈ candidates reader messages offers)
    (htrade : first.trade.evidence = trade.evidence)
    (hother : second.trade.evidence = other.evidence) :
    OnOneReplyPath messages offers trade other ↔ SamePath first second := by
  have hroot : first.trade.rootKey = trade.rootKey := congrArg (·.1) htrade
  have hroot' : second.trade.rootKey = other.rootKey := congrArg (·.1) hother
  have hid : first.trade.confirmationMessageId = trade.confirmationMessageId :=
    congrArg (·.2.1) htrade
  have hid' : second.trade.confirmationMessageId = other.confirmationMessageId :=
    congrArg (·.2.1) hother
  rw [OnOneReplyPath, SamePath, replyPath_eq hfirst htrade, replyPath_eq hsecond hother, hroot,
    hroot', hid, hid', eq_comm]

theorem nodup_candidates :
    ((candidates reader messages offers).map (·.trade.confirmationKey)).Nodup := by
  have hsorted := ((List.perm_insertionSort (fun a b : Message =>
    toLex (a.eventTimeUtc, a.messageId) ≤ toLex (b.eventTimeUtc, b.messageId))
      (messageMap messages)).map Message.key).nodup_iff.mpr (nodup_messageMap messages)
  rw [List.Nodup, List.pairwise_map] at hsorted ⊢
  rw [candidates, List.pairwise_filterMap]
  refine hsorted.imp_of_mem fun {m₁ m₂} hm₁ hm₂ hne c₁ hc₁ c₂ hc₂ heq => hne ?_
  rw [(List.perm_insertionSort _ _).mem_iff] at hm₁ hm₂
  obtain ⟨root₁, path₁, h₁⟩ := traces_of_candidateOf hc₁ hm₁
  obtain ⟨root₂, path₂, h₂⟩ := traces_of_candidateOf hc₂ hm₂
  rw [← h₁.confirmationKey, ← h₂.confirmationKey, heq]

theorem not_samePath_of_selected {first second : Candidate}
    (hfirst : first ∈ selected (candidates reader messages offers))
    (hsecond : second ∈ selected (candidates reader messages offers))
    (hne : first.trade.confirmationKey ≠ second.trade.confirmationKey) :
    ¬SamePath first second := by
  intro hpath
  have hle := (mem_selected.mp hfirst).2 second (mem_selected.mp hsecond).1 hpath
  have hge := (mem_selected.mp hsecond).2 first (mem_selected.mp hfirst).1 (samePath_comm.mp hpath)
  have hrank : first.trade.rank = second.trade.rank := le_antisymm hge hle
  have hid : first.trade.confirmationMessageId = second.trade.confirmationMessageId :=
    congrArg (fun rank => (ofLex (ofLex rank).2).2) hrank
  have hgroup : first.trade.groupNumber = second.trade.groupNumber :=
    congrArg Prod.fst hpath.1.symm
  exact hne (Prod.ext hgroup hid)

end Returned

def eligibleFills (key : Key) (trades : List LinkedTrade) : List LinkedTrade :=
  trades.filter fun trade =>
    trade.rootKey = key ∧ trade.isAggregate = false ∧ trade.qualityState = .eligible

theorem eligibleFills_cons (key : Key) (trade : LinkedTrade) (trades : List LinkedTrade) :
    eligibleFills key (trade :: trades) =
      if trade.rootKey = key ∧ trade.isAggregate = false ∧ trade.qualityState = .eligible then
        trade :: eligibleFills key trades
      else eligibleFills key trades := by
  rw [eligibleFills, List.filter_cons]
  simp only [decide_eq_true_eq, eligibleFills]

/-- Fills stay within what is left of the offer, unless the first amends it and nothing follows. -/
theorem fillLoop_bound {key : Key} {offered : Nat} (hoffer : offeredQuantity offers key = offered)
    {trades : List LinkedTrade} (hpos : ∀ trade ∈ trades, 0 < trade.quantity) (filled : Key → Nat) :
    let fills := eligibleFills key (fillLoop offers filled trades)
    (filled key ≤ offered → filled key + (fills.map (·.quantity)).sum ≤ offered ∨
      filled key = 0 ∧ ∃ trade, fills = [trade] ∧ offered < trade.quantity ∧ trade.Amends) ∧
    (offered < filled key → fills = []) := by
  induction trades generalizing filled with
  | nil => simp [fillLoop, eligibleFills]
  | cons trade rest ih =>
    have ih := ih fun other hother => hpos other (List.mem_cons_of_mem _ hother)
    have hquantity := hpos trade List.mem_cons_self
    rw [fillLoop]
    dsimp only at ih ⊢
    by_cases hkey : trade.rootKey = key
    · subst hkey
      rw [hoffer]
      split_ifs with haggregate hover
      · rw [eligibleFills_cons, if_neg (by simp [haggregate])]
        exact ih filled
      · rw [eligibleFills_cons, if_neg]
        · exact ih filled
        · rintro ⟨-, -, hquality⟩
          rw [LinkedTrade.gated] at hquality
          dsimp only at hquality
          split_ifs at hquality
      · have hnext := ih (Function.update filled trade.rootKey
          (filled trade.rootKey + trade.quantity))
        rw [Function.update_self] at hnext
        rw [eligibleFills_cons]
        by_cases hroom : filled trade.rootKey + trade.quantity ≤ offered
        · have hrest := (hnext.1 hroom).resolve_right fun h => by omega
          refine ⟨fun _ => .inl ?_, fun h => by omega⟩
          split_ifs
          · rw [List.map_cons, List.sum_cons]
            omega
          · omega
        · obtain ⟨hzero, hamends⟩ : filled trade.rootKey = 0 ∧ trade.Amends := by
            by_contra hnot
            exact hover ⟨by omega, hnot⟩
          rw [hnext.2 (by omega)]
          refine ⟨fun _ => ?_, fun h => by omega⟩
          split_ifs
          · exact .inr ⟨hzero, trade, rfl, by omega, hamends⟩
          · exact .inl (by simp [hzero])
    · have hother : ∀ count, Function.update filled trade.rootKey count key = filled key := fun _ =>
        Function.update_of_ne (Ne.symm hkey) _ _
      split_ifs <;> rw [eligibleFills_cons, if_neg fun h => hkey h.1]
      · exact ih filled
      · exact ih filled
      · have hnext := ih (Function.update filled trade.rootKey
          (filled trade.rootKey + trade.quantity))
        rw [hother] at hnext
        exact hnext

/-- No two returned trades of one root lie on one reply path, and the eligible fills of an offer
stay within its quantity or are one confirmed amendment of it. -/
theorem linkCoinGroupTrades_sound (reader : Reader) (messages : List Message)
    (offers : List OfferRecord) :
    (linkCoinGroupTrades reader messages offers).Pairwise
      (fun first second => ¬OnOneReplyPath messages offers first second) ∧
    ∀ key, let fills := eligibleFills key (linkCoinGroupTrades reader messages offers)
      (fills.map (·.quantity)).sum ≤ offeredQuantity offers key ∨
        ∃ trade, fills = [trade] ∧ offeredQuantity offers key < trade.quantity ∧
          trade.Amends := by
  constructor
  · have hperm : ((linkCoinGroupTrades reader messages offers).map
          LinkedTrade.confirmationKey).Perm
        ((selected (candidates reader messages offers)).map (·.trade.confirmationKey)) := by
      have h := (link_evidence_perm reader messages offers).map fun evidence =>
        (evidence.1.1, evidence.2.1)
      rw [List.map_map, List.map_map] at h
      exact h
    have hnodup := hperm.nodup_iff.mpr (nodup_candidates.sublist (List.filter_sublist.map _))
    rw [List.Nodup, List.pairwise_map] at hnodup
    refine hnodup.imp_of_mem fun {trade other} htrade hother hne hpath => ?_
    obtain ⟨first, hfirst, heq⟩ := exists_selected htrade
    obtain ⟨second, hsecond, heq'⟩ := exists_selected hother
    refine not_samePath_of_selected hfirst hsecond ?_ ((onOneReplyPath_iff
      (mem_selected.mp hfirst).1 (mem_selected.mp hsecond).1 heq heq').mp hpath)
    rw [confirmationKey_eq heq, confirmationKey_eq heq']
    exact hne
  · intro key
    have hpos : ∀ trade ∈ (inOrder (selected (candidates reader messages offers))).map
        (confirmedTrade reader (messageMap messages)), 0 < trade.quantity := by
      intro trade htrade
      obtain ⟨candidate, hmem, rfl⟩ := List.mem_map.mp htrade
      rw [inOrder, (List.perm_insertionSort _ _).mem_iff] at hmem
      obtain ⟨message, root, path, htraces⟩ := exists_traces (mem_selected.mp hmem).1
      rw [confirmedTrade]
      split <;> exact htraces.quantity
    rcases (fillLoop_bound rfl hpos fun _ => 0).1 (Nat.zero_le _) with h | ⟨-, h⟩
    · exact .inl (by rw [Nat.zero_add] at h; exact h)
    · exact .inr h

/-! ## Lost fills -/

/-- Each linked confirmation that is not returned lies on the path of a returned one of higher rank. -/
def Covered (reader : Reader) (messages : List Message) (offers : List OfferRecord) : Prop :=
  ∀ candidate ∈ candidates reader messages offers,
    (∀ trade ∈ linkCoinGroupTrades reader messages offers,
      ¬(trade.rootKey = candidate.trade.rootKey ∧
        trade.confirmationMessageId = candidate.trade.confirmationMessageId)) →
    ∃ trade ∈ linkCoinGroupTrades reader messages offers,
      OnOneReplyPath messages offers trade candidate.trade ∧
        candidate.trade.rank < trade.rank

instance (reader : Reader) (messages : List Message) (offers : List OfferRecord) :
    Decidable (Covered reader messages offers) :=
  inferInstanceAs (Decidable (∀ candidate ∈ _, _ → _))

/-- The strongest confirmation on a path, where it stands above a weaker one, is also the strongest
of the paths that branch off below it. -/
def NoStrongerBranch (all : List Candidate) : Prop :=
  ∀ candidate ∈ all, ∀ upper ∈ all, Above upper candidate →
    candidate.trade.rank < upper.trade.rank →
    (∀ other ∈ all, SamePath candidate other → other.trade.rank ≤ upper.trade.rank) →
    ∀ sibling ∈ all, Above upper sibling → ¬SamePath candidate sibling →
      sibling.trade.rank ≤ upper.trade.rank

section Covered

theorem eq_of_confirmation {first second : Candidate}
    (hfirst : first ∈ candidates reader messages offers)
    (hsecond : second ∈ candidates reader messages offers)
    (hroot : first.trade.rootKey = second.trade.rootKey)
    (hid : first.trade.confirmationMessageId = second.trade.confirmationMessageId) :
    first = second := by
  have hgroup : first.trade.groupNumber = second.trade.groupNumber := congrArg Prod.fst hroot
  exact List.inj_on_of_nodup_map nodup_candidates hfirst hsecond (Prod.ext hgroup hid)

theorem covered_iff_selected : Covered reader messages offers ↔
    ∀ candidate ∈ candidates reader messages offers,
      candidate ∉ selected (candidates reader messages offers) →
      ∃ other ∈ selected (candidates reader messages offers),
        SamePath other candidate ∧ candidate.trade.rank < other.trade.rank := by
  refine forall₂_congr fun candidate hcandidate => imp_congr ?_ ?_
  · constructor
    · intro h hselected
      obtain ⟨trade, htrade, heq⟩ := exists_returned hselected
      exact h trade htrade ⟨congrArg (·.1) heq, congrArg (·.2.1) heq⟩
    · rintro h trade htrade ⟨hroot, hid⟩
      obtain ⟨other, hother, heq⟩ := exists_selected htrade
      refine h (eq_of_confirmation (mem_selected.mp hother).1 hcandidate ?_ ?_ ▸ hother)
      · exact (congrArg (·.1) heq).trans hroot
      · exact (congrArg (·.2.1) heq).trans hid
  · constructor
    · rintro ⟨trade, htrade, hpath, hrank⟩
      obtain ⟨other, hother, heq⟩ := exists_selected htrade
      have hsame : other.trade.rank = trade.rank := congrArg (·.2.2) heq
      exact ⟨other, hother,
        (onOneReplyPath_iff (mem_selected.mp hother).1 hcandidate heq rfl).mp hpath, hsame ▸ hrank⟩
    · rintro ⟨other, hother, hpath, hrank⟩
      obtain ⟨trade, htrade, heq⟩ := exists_returned hother
      have hsame : trade.rank = other.trade.rank := congrArg (·.2.2) heq
      exact ⟨trade, htrade,
        (onOneReplyPath_iff (mem_selected.mp hother).1 hcandidate heq.symm rfl).mpr hpath,
        hsame ▸ hrank⟩

theorem exists_strongest {all : List Candidate} {weaker : Candidate}
    (hmem : weaker ∈ all) (hpath : SamePath candidate weaker) :
    ∃ upper ∈ all, SamePath candidate upper ∧
      ∀ other ∈ all, SamePath candidate other → other.trade.rank ≤ upper.trade.rank := by
  cases hmax : (all.filter fun other => SamePath candidate other).argmax (·.trade.rank) with
  | none =>
    rw [List.argmax_eq_none, List.filter_eq_nil_iff] at hmax
    exact absurd (decide_eq_true hpath) (hmax weaker hmem)
  | some upper =>
    have hupper := List.mem_filter.mp (List.argmax_mem hmax)
    refine ⟨upper, hupper.1, of_decide_eq_true hupper.2, fun other hother hsame => ?_⟩
    exact List.le_of_mem_argmax (f := fun candidate : Candidate => candidate.trade.rank)
      (List.mem_filter.mpr ⟨hother, decide_eq_true hsame⟩) hmax

/-- No fill is lost iff no branch below the strongest confirmation of a path is stronger. -/
theorem covered_iff_noStrongerBranch (reader : Reader) (messages : List Message)
    (offers : List OfferRecord) :
    Covered reader messages offers ↔
      NoStrongerBranch (candidates reader messages offers) := by
  rw [covered_iff_selected]
  constructor
  · intro h candidate hcandidate upper hupper habove hrank hmax sibling hsibling hbelow hoff
    by_contra hstronger
    have hpath : SamePath candidate upper := samePath_iff.mpr (.inr habove)
    obtain ⟨other, hother, hsame, -⟩ := h candidate hcandidate fun hselected =>
      absurd ((mem_selected.mp hselected).2 upper hupper hpath) (not_le.mpr hrank)
    obtain ⟨hin, hbest⟩ := mem_selected.mp hother
    -- whatever is on the path of the candidate is on the path of what stands above it
    have hcommon : SamePath other upper := by
      rcases samePath_iff.mp hsame with hup | hdown
      · exact samePath_of_above hin hupper hcandidate hup habove
      · exact samePath_iff.mpr (.inr (above_trans hupper hcandidate hin habove hdown))
    have hequal : other.trade.rank = upper.trade.rank :=
      le_antisymm (hmax other hin (samePath_comm.mp hsame)) (hbest upper hupper hcommon)
    have hid : other.trade.confirmationMessageId = upper.trade.confirmationMessageId :=
      congrArg (fun rank => (ofLex (ofLex rank).2).2) hequal
    have heq := eq_of_confirmation hin hupper hcommon.1.symm hid
    exact hstronger (heq ▸ hbest sibling hsibling (heq ▸ samePath_iff.mpr (.inl hbelow)))
  · intro h candidate hcandidate hunselected
    obtain ⟨other, hother, hpath, hrank⟩ : ∃ other ∈ candidates reader messages offers,
        SamePath candidate other ∧ candidate.trade.rank < other.trade.rank := by
      by_contra hnone
      push Not at hnone
      exact hunselected (mem_selected.mpr ⟨hcandidate, hnone⟩)
    obtain ⟨upper, hupper, hsame, hmax⟩ := exists_strongest hother hpath
    have hstronger := hrank.trans_le (hmax other hother hpath)
    refine ⟨upper, mem_selected.mpr ⟨hupper, fun sibling hsibling hnext => ?_⟩,
      samePath_comm.mp hsame, hstronger⟩
    by_contra hlate
    have hoff : ¬SamePath candidate sibling := fun hon => hlate (hmax sibling hsibling hon)
    rcases samePath_iff.mp hsame with hdown | hup
    · rcases samePath_iff.mp hnext with hbelow | habove
      · exact hoff (samePath_iff.mpr (.inl (above_trans hcandidate hupper hsibling hdown hbelow)))
      · exact hoff (samePath_of_above hcandidate hsibling hupper hdown habove)
    · rcases samePath_iff.mp hnext with hbelow | habove
      · exact hlate (h candidate hcandidate upper hupper hup hstronger hmax sibling hsibling hbelow
          hoff)
      · exact hoff (samePath_iff.mpr (.inr (above_trans hsibling hupper hcandidate habove hup)))

end Covered

/-- A reader of threads of bare acceptances and of the word "bought", with times of one hour. -/
def plainReader : Reader where
  signal text := if text = "خریدم" then .explicitTrade else .accept
  quantity _ := none
  quantity_pos _ _ h := by cases h
  price _ _ _ := (none, false, true)
  markers _ := (false, false)
  cumulative _ := false
  age later earlier := 60000000 * (((later.toList.getD 15 '0').toNat : Int) -
    (earlier.toList.getD 15 '0').toNat)

def reply (id : Int) (time : String) (sender : UInt8) (parent : Option Int) (text : String) :
    Message :=
  ⟨1, id, time, time, text, parent, some [sender], 1⟩

def threadOffer : OfferRecord :=
  ⟨1, 1, some [1], "2026-01-01T10:01:00Z", ⟨some "EMAMI", 185000, 10, by decide, "SELL", .cash,
    "PHYSICAL", false, .eligible, "EXPLICIT_COMMODITY_ACCEPTED_WITHOUT_AUTHORITATIVE_CONFLICT"⟩⟩

/-- The owner accepts, the counterparty declares the purchase, the owner accepts another reply. -/
def thread : List Message :=
  [reply 1 "2026-01-01T10:01:00Z" 1 none "ف 10 تا 185000",
    reply 2 "2026-01-01T10:02:00Z" 2 (some 1) "ب",
    reply 3 "2026-01-01T10:03:00Z" 1 (some 2) "ب",
    reply 4 "2026-01-01T10:04:00Z" 2 (some 3) "خریدم",
    reply 5 "2026-01-01T10:05:00Z" 3 (some 3) "ب",
    reply 6 "2026-01-01T10:06:00Z" 1 (some 5) "ب"]

/-- The declaration gives way to the first acceptance and that one to an acceptance on another
branch: nothing on the path of the declaration is returned. -/
theorem not_covered_thread : ¬Covered plainReader thread [threadOffer] := by
  decide

end TradingBot.Intelligence.CoinGroup
