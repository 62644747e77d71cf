import Mathlib.Logic.Function.Basic
import TradingBot.Customers.TradeLimits
import TradingBot.Misc.Run
import TradingBot.Trades.Execute

/-!
# Concurrent trades of customers

The trades of customers in one database, with any number of transactions at a time: a trade reads
and locks the relations of its parties, checks their limits against the stored trades, and stores
its own at the commit, which frees the locks. Meanwhile owners invite customers, change limits and
end relations; a change of a locked relation waits.

`created_at` of a trade is the start of its transaction, while the limits are checked after the
locks. Trades accepted by the other server take no lock here and are left out.
-/

namespace TradingBot.Customers

open TradingBot.Misc

structure RelationRef where
  id : Nat
  ownerUserId : Nat
  deriving DecidableEq, Repr

inductive TradeStage where
  | begun
  | responderRead (responder : Option RelationRef)
  | relationsRead (responder source : Option RelationRef)
  | checked (responder source : Option RelationRef) (checkedAt : Int)
  deriving DecidableEq, Repr

structure TradeTransaction where
  startedAt : Int
  offerUserId : Nat
  responderUserId : Nat
  quantity : Nat
  stage : TradeStage
  deriving DecidableEq, Repr

/-- Users have the ids below `nextUserId`; a lock names a relation and the transaction that holds
it. -/
structure Database where
  now : Int
  nextUserId : Nat
  nextRelationId : Nat
  relations : List CustomerRelation
  trades : List StoredTrade
  transactions : Nat → Option TradeTransaction
  locks : List (Nat × Nat)

def Database.empty (now : Int) : Database where
  now := now
  nextUserId := 1
  nextRelationId := 1
  relations := []
  trades := []
  transactions := fun _ => none
  locks := []

inductive Operation where
  | tick (elapsed : Nat)
  | register
  | invite (ownerUserId : Nat) (limits : CustomerTradeLimits)
  | registerCustomer (relationId : Nat)
  | updateLimits (relationId : Nat) (limits : CustomerTradeLimits)
  | endRelation (relationId : Nat) (status : CustomerRelationStatus)
  | begin (transaction offerUserId responderUserId quantity : Nat)
  | readResponder (transaction : Nat)
  | readSource (transaction : Nat)
  | check (transaction : Nat)
  | commit (transaction : Nat)
  | abort (transaction : Nat)
  deriving DecidableEq, Repr

/-- `get_active_customer_relation_for_customer` (customer_relation_service.py:478). -/
def getActiveCustomerRelationForCustomer (relations : List CustomerRelation)
    (customerUserId : Nat) : Option CustomerRelation :=
  relations.find? fun relation =>
    relation.customerUserId = some customerUserId && relation.isActive

/-- `is_user_customer` (customer_relation_service.py:515). -/
def isUserCustomer (relations : List CustomerRelation) (userId : Nat) : Bool :=
  (getActiveCustomerRelationForCustomer relations userId).isSome

def CustomerRelation.ref (relation : CustomerRelation) : RelationRef :=
  ⟨relation.id, relation.ownerUserId⟩

/-- `trade_block_principal_user_id` (block_service.py:281). -/
def tradeBlockPrincipalUserId (userId : Nat) (relation : Option RelationRef) : Nat :=
  match relation with
  | none => userId
  | some relation => if relation.ownerUserId = 0 then userId else relation.ownerUserId

/-- The customers checked for, with their relations, in the order of the call (trades.py:3985). -/
def expectedRelations (trade : TradeTransaction) (responder source : Option RelationRef) :
    List (Nat × Nat) :=
  (responder.map fun relation => (trade.responderUserId, relation.id)).toList ++
    (source.map fun relation => (trade.offerUserId, relation.id)).toList

/-- The parties of the stored trades, from the offer to the responder (trades.py:4084). -/
def tradeLegs (trade : TradeTransaction) (responder source : Option RelationRef) :
    List (Nat × Nat) :=
  let nodes := Trades.buildTradeExecutionPlan trade.offerUserId
    (tradeBlockPrincipalUserId trade.offerUserId source)
    (tradeBlockPrincipalUserId trade.responderUserId responder) trade.responderUserId
  if 2 < nodes.length then nodes.zip nodes.tail else [(trade.offerUserId, trade.responderUserId)]

def storedLeg (trade : TradeTransaction) (leg : Nat × Nat) : StoredTrade where
  offerUserId := leg.1
  responderUserId := leg.2
  quantity := trade.quantity
  status := .completed
  createdAt := trade.startedAt

/-- `_validate_customer_trade_limit_bounds` (customer_relation_service.py:622). -/
def validLimitBounds (limits : CustomerTradeLimits) : Bool :=
  match limits.minTradeQuantity, limits.maxTradeQuantity with
  | some least, some most => least ≤ most
  | _, _ => true

namespace Database

variable (db : Database)

def advance (transaction : Nat) (trade : TradeTransaction) (stage : TradeStage) :
    Database :=
  { db with transactions :=
      Function.update db.transactions transaction (some { trade with stage := stage }) }

def finish (transaction : Nat) : Database :=
  { db with
    transactions := Function.update db.transactions transaction none
    locks := db.locks.filter fun lock => lock.2 ≠ transaction }

def isLocked (relationId : Nat) : Bool :=
  db.locks.any fun lock => lock.1 = relationId

def writeRelation (relationId : Nat) (write : CustomerRelation → CustomerRelation) :
    Database :=
  { db with relations := db.relations.map fun relation =>
      if relation.id = relationId then write relation else relation }

def begin (transaction offerUserId responderUserId quantity : Nat) : Database :=
  if (db.transactions transaction).isNone ∧ offerUserId ≠ responderUserId ∧
      offerUserId < db.nextUserId ∧ responderUserId < db.nextUserId then
    { db with
      transactions := Function.update db.transactions transaction
        (some ⟨db.now, offerUserId, responderUserId, quantity, .begun⟩) }
  else db

def readRelation (userId : Nat) : Option RelationRef :=
  (getActiveCustomerRelationForCustomer db.relations userId).map (·.ref)

def readResponder (transaction : Nat) : Database :=
  match db.transactions transaction with
  | some trade =>
    match trade.stage with
    | .begun => db.advance transaction trade (.responderRead (db.readRelation trade.responderUserId))
    | _ => db
  | none => db

def readSource (transaction : Nat) : Database :=
  match db.transactions transaction with
  | some trade =>
    match trade.stage with
    | .responderRead responder =>
      db.advance transaction trade (.relationsRead responder (db.readRelation trade.offerUserId))
    | _ => db
  | none => db

def check (zone : LocalZone) (db : Database) (transaction : Nat) : Database :=
  match db.transactions transaction with
  | some trade =>
    match trade.stage with
    | .relationsRead responder source =>
      let expected := expectedRelations trade responder source
      if expected.any fun item => db.isLocked item.2 then db
      else
        match enforceCustomerTradeLimitsForTrade zone db.relations db.trades trade.quantity db.now
          expected with
        | .error _ => db.finish transaction
        | .ok () =>
          { db.advance transaction trade (.checked responder source db.now) with
            locks := expected.map (fun item => (item.2, transaction)) ++ db.locks }
    | _ => db
  | none => db

def commit (transaction : Nat) : Database :=
  match db.transactions transaction with
  | some trade =>
    match trade.stage with
    | .checked responder source _ =>
      { db.finish transaction with
        trades := db.trades ++ (tradeLegs trade responder source).map (storedLeg trade) }
    | _ => db
  | none => db

/-- `activate_customer_relation_for_registration` (customer_relation_service.py:433) with its new
user. -/
def registerCustomer (relationId : Nat) : Database :=
  if db.isLocked relationId then db
  else if db.relations.any fun relation => relation.id = relationId && relation.status = .pending &&
      relation.deletedAt = none && relation.customerUserId = none then
    { db.writeRelation relationId fun relation =>
        { relation with customerUserId := some db.nextUserId, status := .active } with
      nextUserId := db.nextUserId + 1 }
  else db

/-- `create_or_reuse_owner_customer_relation` (customer_relation_service.py:641), by no customer. -/
def invite (ownerUserId : Nat) (limits : CustomerTradeLimits) : Database :=
  if ownerUserId < db.nextUserId ∧ isUserCustomer db.relations ownerUserId = false ∧
      validLimitBounds limits then
    { db with
      relations := db.relations ++
        [{ id := db.nextRelationId, ownerUserId := ownerUserId, limits := limits }]
      nextRelationId := db.nextRelationId + 1 }
  else db

/-- `update_owner_customer_relation` (customer_relation_service.py:972). The restriction in time, no
field of the request, may change as well. -/
def updateLimits (relationId : Nat) (limits : CustomerTradeLimits) : Database :=
  if db.isLocked relationId ∨ validLimitBounds limits = false then db
  else db.writeRelation relationId fun relation =>
    if relation.deletedAt = none ∧ (relation.status = .pending ∨ relation.status = .active) then
      { relation with limits := limits }
    else relation

def endRelation (relationId : Nat) (status : CustomerRelationStatus) : Database :=
  if db.isLocked relationId ∨ status = .pending ∨ status = .active then db
  else db.writeRelation relationId fun relation =>
    { relation with status := status, deletedAt := some db.now }

end Database

def step (zone : LocalZone) (db : Database) : Operation → Database
  | .tick elapsed => { db with now := db.now + elapsed }
  | .register => { db with nextUserId := db.nextUserId + 1 }
  | .invite ownerUserId limits => db.invite ownerUserId limits
  | .registerCustomer relationId => db.registerCustomer relationId
  | .updateLimits relationId limits => db.updateLimits relationId limits
  | .endRelation relationId status => db.endRelation relationId status
  | .begin transaction offerUserId responderUserId quantity =>
    db.begin transaction offerUserId responderUserId quantity
  | .readResponder transaction => db.readResponder transaction
  | .readSource transaction => db.readSource transaction
  | .check transaction => db.check zone transaction
  | .commit transaction => db.commit transaction
  | .abort transaction => db.finish transaction

def involves (userId : Nat) (leg : Nat × Nat) : Bool := leg.1 = userId || leg.2 = userId

theorem filter_map_storedLeg (zone : LocalZone) (trade : TradeTransaction) (customerUserId : Nat)
    (instant : Int) (legs : List (Nat × Nat)) :
    (legs.map (storedLeg trade)).filter
        (countsToDay customerUserId (customerTradeDayBounds zone instant)) =
      if zone.date trade.startedAt = zone.date instant then
        (legs.filter (involves customerUserId)).map (storedLeg trade)
      else [] := by
  have hcounts : ∀ leg, countsToDay customerUserId (customerTradeDayBounds zone instant)
      (storedLeg trade leg) = true ↔
        zone.date trade.startedAt = zone.date instant ∧ involves customerUserId leg = true := by
    intro leg
    rw [countsToDay_customerTradeDayBounds, involves, Bool.or_eq_true, decide_eq_true_eq,
      decide_eq_true_eq]
    exact and_iff_right rfl
  rw [List.filter_map]
  by_cases hday : zone.date trade.startedAt = zone.date instant
  · rw [if_pos hday]
    refine congrArg _ (List.filter_congr fun leg _ => ?_)
    exact Bool.eq_iff_iff.mpr ((hcounts leg).trans (and_iff_right hday))
  · rw [if_neg hday, List.map_eq_nil_iff, List.filter_eq_nil_iff]
    exact fun leg _ hleg => hday ((hcounts leg).mp hleg).1

theorem usage_append_legs (zone : LocalZone) (trades : List StoredTrade) (trade : TradeTransaction)
    (customerUserId : Nat) (instant : Int) (legs : List (Nat × Nat)) :
    loadCustomerDailyTradeUsage (trades ++ legs.map (storedLeg trade)) customerUserId
        (customerTradeDayBounds zone instant) =
      let usage := loadCustomerDailyTradeUsage trades customerUserId
        (customerTradeDayBounds zone instant)
      let added := if zone.date trade.startedAt = zone.date instant then
        (legs.filter (involves customerUserId)).length else 0
      ⟨usage.trades + added, usage.commodityVolume + added * trade.quantity⟩ := by
  have hsum : ∀ chosen : List (Nat × Nat),
      ((chosen.map (storedLeg trade)).map (·.quantity)).sum = chosen.length * trade.quantity := by
    intro chosen
    induction chosen with
    | nil => exact (Nat.zero_mul _).symm
    | cons leg chosen ih =>
      rw [List.map_cons, List.map_cons, List.sum_cons, ih, List.length_cons, Nat.succ_mul,
        Nat.add_comm]
      rfl
  unfold loadCustomerDailyTradeUsage
  rw [List.filter_append, filter_map_storedLeg]
  by_cases hday : zone.date trade.startedAt = zone.date instant
  · rw [if_pos hday, if_pos hday, List.length_append, List.length_map, List.map_append,
      List.sum_append, hsum]
  · rw [if_neg hday, if_neg hday, List.append_nil]
    dsimp only
    rw [Nat.zero_mul, Nat.add_zero, Nat.add_zero]

theorem buildTradeExecutionPlan_eq (offerUserId source responder ownerUserId : Nat) :
    Trades.buildTradeExecutionPlan offerUserId source responder ownerUserId =
      offerUserId :: ((if offerUserId = source then [] else [source]) ++
        (if source = responder then [] else [responder]) ++
        (if responder = ownerUserId then [] else [ownerUserId])) := by
  unfold Trades.buildTradeExecutionPlan
  rcases eq_or_ne responder ownerUserId with rfl | howner <;>
    rcases eq_or_ne source responder with rfl | hresponder <;>
    rcases eq_or_ne offerUserId source with rfl | hsource
  all_goals simp [*, Ne.symm]

theorem tradeLegs_cases (trade : TradeTransaction) (responder source : Option RelationRef) :
    let legs := tradeLegs trade responder source
    let sourceId := tradeBlockPrincipalUserId trade.offerUserId source
    let responderId := tradeBlockPrincipalUserId trade.responderUserId responder
    legs = [(trade.offerUserId, trade.responderUserId)] ∨
    (∃ middle, (middle = sourceId ∨ middle = responderId) ∧ middle ≠ trade.offerUserId ∧
      middle ≠ trade.responderUserId ∧
      legs = [(trade.offerUserId, middle), (middle, trade.responderUserId)]) ∨
    (sourceId ≠ trade.offerUserId ∧ responderId ≠ trade.responderUserId ∧
      legs = [(trade.offerUserId, sourceId), (sourceId, responderId),
        (responderId, trade.responderUserId)]) := by
  dsimp only [tradeLegs]
  rw [buildTradeExecutionPlan_eq]
  generalize tradeBlockPrincipalUserId trade.responderUserId responder = responderId
  generalize tradeBlockPrincipalUserId trade.offerUserId source = sourceId
  grind

variable {trade : TradeTransaction} {responder source : Option RelationRef} {userId : Nat}

theorem mem_tradeLegs {leg : Nat × Nat} (hleg : leg ∈ tradeLegs trade responder source)
    (huser : involves userId leg = true) :
    userId = trade.offerUserId ∨ userId = trade.responderUserId ∨
      userId = tradeBlockPrincipalUserId trade.offerUserId source ∨
      userId = tradeBlockPrincipalUserId trade.responderUserId responder := by
  have hcases := tradeLegs_cases trade responder source
  simp only [involves, Bool.or_eq_true, decide_eq_true_eq] at huser
  grind

theorem length_filter_involves
    (hparties : trade.offerUserId ≠ trade.responderUserId) (huser : userId = trade.offerUserId ∧
        userId ≠ tradeBlockPrincipalUserId trade.responderUserId responder ∨
      userId = trade.responderUserId ∧
        userId ≠ tradeBlockPrincipalUserId trade.offerUserId source) :
    ((tradeLegs trade responder source).filter (involves userId)).length = 1 := by
  obtain hlegs | ⟨middle, -, hoffer, hresponder, hlegs⟩ | ⟨hoffer, hresponder, hlegs⟩ :=
    tradeLegs_cases trade responder source
  · rw [hlegs]
    grind [involves]
  · rw [hlegs]
    grind [involves]
  · rw [hlegs]
    grind [involves]

end TradingBot.Customers
