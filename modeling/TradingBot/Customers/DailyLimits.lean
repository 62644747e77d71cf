import TradingBot.Customers.Trading
import TradingBot.Misc.Table

/-!
# Daily limits over concurrent trades

Whoever trades with a customer holds the lock of the customer's one relation from the check to the
commit. So what the check found is still so at the commit, and the limits hold of the day to which
the trade counts if they were checked for that day; midnight may lie between the start of the
transaction and the check.
-/

namespace TradingBot.Customers

open TradingBot.Misc

/-- Customers are new users when they register, and invite nobody while they are customers. -/
structure RelationsSound (db : Database) : Prop where
  idsBelow : ∀ relation ∈ db.relations, relation.id < db.nextRelationId
  idsUnique : ∀ relation ∈ db.relations, ∀ other ∈ db.relations, relation.id = other.id →
    relation = other
  ownersBelow : ∀ relation ∈ db.relations, relation.ownerUserId < db.nextUserId
  customersBelow : ∀ relation ∈ db.relations, ∀ customer,
    relation.customerUserId = some customer → customer < db.nextUserId
  customersUnique : ∀ relation ∈ db.relations, ∀ other ∈ db.relations, ∀ customer,
    relation.customerUserId = some customer → other.customerUserId = some customer →
    relation = other
  customersInviteNobody : ∀ relation ∈ db.relations, relation.isActive = true → ∀ customer,
    relation.customerUserId = some customer → ∀ other ∈ db.relations,
    other.ownerUserId ≠ customer

def ReadOf (db : Database) (userId : Nat) : Option RelationRef → Prop
  | none => ∀ relation ∈ db.relations, relation.isActive = true →
      relation.customerUserId ≠ some userId
  | some ref => ∃ relation ∈ db.relations, relation.ref = ref ∧
      relation.customerUserId = some userId

def CheckOf (zone : LocalZone) (db : Database) (quantity : Nat) (checkedAt : Int)
    (item : Nat × Nat) : Prop :=
  ∃ relation ∈ db.relations, relation.id = item.2 ∧ relation.isActive = true ∧
    relation.customerUserId = some item.1 ∧
    HasRoom zone db.trades item.1 relation.limits quantity checkedAt

def StageSound (zone : LocalZone) (db : Database) (trade : TradeTransaction) : TradeStage → Prop
  | .begun => True
  | .responderRead responder => ReadOf db trade.responderUserId responder
  | .relationsRead responder source =>
      ReadOf db trade.responderUserId responder ∧ ReadOf db trade.offerUserId source
  | .checked responder source checkedAt =>
      (ReadOf db trade.responderUserId responder ∧ ReadOf db trade.offerUserId source) ∧
      ∀ item ∈ expectedRelations trade responder source,
        CheckOf zone db trade.quantity checkedAt item

def lockedRelations (trade : TradeTransaction) : List (Nat × Nat) :=
  match trade.stage with
  | .checked responder source _ => expectedRelations trade responder source
  | _ => []

structure Sound (zone : LocalZone) (db : Database) : Prop where
  relations : RelationsSound db
  parties : ∀ transaction trade, db.transactions transaction = some trade →
    trade.offerUserId ≠ trade.responderUserId ∧ trade.offerUserId < db.nextUserId ∧
      trade.responderUserId < db.nextUserId
  stages : ∀ transaction trade, db.transactions transaction = some trade →
    StageSound zone db trade trade.stage
  locked : ∀ transaction trade, db.transactions transaction = some trade →
    ∀ item ∈ lockedRelations trade, (item.2, transaction) ∈ db.locks
  exclusive : ∀ relationId transaction other, (relationId, transaction) ∈ db.locks →
    (relationId, other) ∈ db.locks → transaction = other
  completed : ∀ trade ∈ db.trades, trade.status = .completed

theorem sound_empty (zone : LocalZone) (now : Int) : Sound zone (Database.empty now) where
  relations :=
    { idsBelow := fun _ hmem => absurd hmem List.not_mem_nil
      idsUnique := fun _ hmem => absurd hmem List.not_mem_nil
      ownersBelow := fun _ hmem => absurd hmem List.not_mem_nil
      customersBelow := fun _ hmem => absurd hmem List.not_mem_nil
      customersUnique := fun _ hmem => absurd hmem List.not_mem_nil
      customersInviteNobody := fun _ hmem => absurd hmem List.not_mem_nil }
  parties := by
    intro transaction trade htrade
    cases htrade
  stages := by
    intro transaction trade htrade
    cases htrade
  locked := by
    intro transaction trade htrade
    cases htrade
  exclusive := fun _ _ _ hlock => absurd hlock List.not_mem_nil
  completed := fun _ hmem => absurd hmem List.not_mem_nil

/-! ## Changes of the relations -/

/-- What a change of the relations leaves to transactions: rows keep owner and customer, no known
user becomes a customer, and locked rows stay. -/
structure RelationsEvolve (db db' : Database) : Prop where
  kept : ∀ relation ∈ db.relations, ∃ relation' ∈ db'.relations, relation'.ref = relation.ref ∧
    ∀ customer, relation.customerUserId = some customer → relation'.customerUserId = some customer
  active : ∀ relation' ∈ db'.relations, relation'.isActive = true → ∀ customer < db.nextUserId,
    relation'.customerUserId = some customer →
    ∃ relation ∈ db.relations, relation.isActive = true ∧ relation.customerUserId = some customer
  lockedKept : ∀ relation ∈ db.relations, db.isLocked relation.id = true →
    relation ∈ db'.relations
  trades : db'.trades = db.trades

variable {userId transaction : Nat} {ref : Option RelationRef} {checkedAt : Int} {item : Nat × Nat}
  {trade : TradeTransaction}

theorem ReadOf.evolve {db db' : Database} (hevolve : RelationsEvolve db db')
    (hknown : userId < db.nextUserId) (h : ReadOf db userId ref) :
    ReadOf db' userId ref := by
  cases ref with
  | none =>
    intro relation' hmem hactive hcustomer
    obtain ⟨relation, hrelation, hactive', hcustomer'⟩ :=
      hevolve.active relation' hmem hactive userId hknown hcustomer
    exact h relation hrelation hactive' hcustomer'
  | some ref =>
    obtain ⟨relation, hrelation, href, hcustomer⟩ := h
    obtain ⟨relation', hmem, href', hcustomer'⟩ := hevolve.kept relation hrelation
    exact ⟨relation', hmem, href'.trans href, hcustomer' userId hcustomer⟩

theorem isLocked_of_mem {db : Database} {relationId : Nat}
    (h : (relationId, transaction) ∈ db.locks) : db.isLocked relationId = true :=
  List.any_eq_true.mpr ⟨_, h, decide_eq_true rfl⟩

theorem CheckOf.evolve {zone : LocalZone} {db db' : Database} (hevolve : RelationsEvolve db db')
    {quantity : Nat} (hlocked : db.isLocked item.2 = true)
    (h : CheckOf zone db quantity checkedAt item) : CheckOf zone db' quantity checkedAt item := by
  obtain ⟨relation, hmem, hid, hactive, hcustomer, hroom⟩ := h
  refine ⟨relation, hevolve.lockedKept relation hmem (hid ▸ hlocked), hid, hactive, hcustomer, ?_⟩
  rw [hevolve.trades]
  exact hroom

theorem StageSound.evolve {zone : LocalZone} {db db' : Database} (hevolve : RelationsEvolve db db')
    (hoffer : trade.offerUserId < db.nextUserId)
    (hresponder : trade.responderUserId < db.nextUserId)
    (hlocked : ∀ item ∈ lockedRelations trade, db.isLocked item.2 = true)
    (h : StageSound zone db trade trade.stage) : StageSound zone db' trade trade.stage := by
  unfold lockedRelations at hlocked
  cases hstage : trade.stage with
  | begun => trivial
  | responderRead responder =>
    rw [hstage] at h
    exact ReadOf.evolve hevolve hresponder h
  | relationsRead responder source =>
    rw [hstage] at h
    exact ⟨ReadOf.evolve hevolve hresponder h.1, ReadOf.evolve hevolve hoffer h.2⟩
  | checked responder source checkedAt =>
    rw [hstage] at h hlocked
    refine ⟨⟨ReadOf.evolve hevolve hresponder h.1.1, ReadOf.evolve hevolve hoffer h.1.2⟩, ?_⟩
    exact fun item hitem => CheckOf.evolve hevolve (hlocked item hitem) (h.2 item hitem)

theorem Sound.evolve {zone : LocalZone} {db db' : Database} (h : Sound zone db)
    (hrelations : RelationsSound db') (hevolve : RelationsEvolve db db')
    (hknown : db.nextUserId ≤ db'.nextUserId) (htransactions : db'.transactions = db.transactions)
    (hlocks : db'.locks = db.locks) : Sound zone db' where
  relations := hrelations
  parties := by
    intro transaction trade htrade
    rw [htransactions] at htrade
    obtain ⟨hparties, hoffer, hresponder⟩ := h.parties transaction trade htrade
    exact ⟨hparties, Nat.lt_of_lt_of_le hoffer hknown, Nat.lt_of_lt_of_le hresponder hknown⟩
  stages := by
    intro transaction trade htrade
    rw [htransactions] at htrade
    obtain ⟨-, hoffer, hresponder⟩ := h.parties transaction trade htrade
    refine StageSound.evolve hevolve hoffer hresponder ?_ (h.stages transaction trade htrade)
    exact fun item hitem => isLocked_of_mem (h.locked transaction trade htrade item hitem)
  locked := by
    rw [htransactions, hlocks]
    exact h.locked
  exclusive := by
    rw [hlocks]
    exact h.exclusive
  completed := by
    rw [hevolve.trades]
    exact h.completed

structure RelationWrite (db db' : Database) (relationId : Nat)
    (write : CustomerRelation → CustomerRelation) : Prop where
  relations : db'.relations = (db.writeRelation relationId write).relations
  free : db.isLocked relationId = false
  known : db.nextUserId ≤ db'.nextUserId
  nextId : db'.nextRelationId = db.nextRelationId
  trades : db'.trades = db.trades
  id : ∀ relation, (write relation).id = relation.id
  owner : ∀ relation, (write relation).ownerUserId = relation.ownerUserId
  customerKept : ∀ relation ∈ db.relations, relation.id = relationId → ∀ customer,
    relation.customerUserId = some customer → (write relation).customerUserId = some customer
  customer : ∀ relation, ∀ customer, (write relation).customerUserId = some customer →
    relation.customerUserId = some customer ∨
      customer = db.nextUserId ∧ db.nextUserId < db'.nextUserId
  active : ∀ relation, (write relation).isActive = true →
    relation.isActive = true ∨ (write relation).customerUserId = some db.nextUserId

section Write

variable {db db' : Database} {relationId : Nat} {write : CustomerRelation → CustomerRelation}
  {relation' relation : CustomerRelation}

theorem RelationWrite.cases (h : RelationWrite db db' relationId write)
    (hmem : relation' ∈ db'.relations) :
    ∃ relation ∈ db.relations, relation'.id = relation.id ∧
      relation'.ownerUserId = relation.ownerUserId ∧
      relation' = if relation.id = relationId then write relation else relation := by
  rw [h.relations] at hmem
  obtain ⟨relation, hrelation, rfl⟩ := List.mem_map.mp hmem
  refine ⟨relation, hrelation, ?_, ?_, rfl⟩
  · split
    · exact h.id relation
    · rfl
  · split
    · exact h.owner relation
    · rfl

theorem RelationWrite.mem_of_ne (h : RelationWrite db db' relationId write)
    (hmem : relation ∈ db.relations) (hid : relation.id ≠ relationId) :
    relation ∈ db'.relations := by
  rw [h.relations]
  exact List.mem_map.mpr ⟨relation, hmem, if_neg hid⟩

theorem RelationWrite.mem_write (h : RelationWrite db db' relationId write)
    (hmem : relation ∈ db.relations) (hid : relation.id = relationId) :
    write relation ∈ db'.relations := by
  rw [h.relations]
  exact List.mem_map.mpr ⟨relation, hmem, if_pos hid⟩

theorem RelationWrite.evolve (h : RelationWrite db db' relationId write) :
    RelationsEvolve db db' where
  kept := by
    intro relation hmem
    by_cases hid : relation.id = relationId
    · refine ⟨write relation, h.mem_write hmem hid, ?_, h.customerKept relation hmem hid⟩
      rw [CustomerRelation.ref, h.id, h.owner, CustomerRelation.ref]
    · exact ⟨relation, h.mem_of_ne hmem hid, rfl, fun _ hcustomer => hcustomer⟩
  active := by
    intro relation' hmem hactive customer hknown hcustomer
    obtain ⟨relation, hrelation, -, -, hwrite⟩ := h.cases hmem
    subst hwrite
    split at hactive
    · rename_i hid
      rw [if_pos hid] at hcustomer
      have hold : relation.customerUserId = some customer := by
        rcases h.customer relation customer hcustomer with hold | ⟨hnew, -⟩
        · exact hold
        · omega
      rcases h.active relation hactive with hactive' | hfresh
      · exact ⟨relation, hrelation, hactive', hold⟩
      · rw [hfresh] at hcustomer
        cases hcustomer
        omega
    · rename_i hid
      rw [if_neg hid] at hcustomer
      exact ⟨relation, hrelation, hactive, hcustomer⟩
  lockedKept := by
    intro relation hmem hlocked
    refine h.mem_of_ne hmem ?_
    rintro rfl
    rw [h.free] at hlocked
    cases hlocked
  trades := h.trades

theorem RelationWrite.customer_cases (h : RelationWrite db db' relationId write)
    (hmem : relation' ∈ db'.relations) {customer : Nat}
    (hcustomer : relation'.customerUserId = some customer) :
    (∃ relation ∈ db.relations, relation'.id = relation.id ∧
      relation.customerUserId = some customer) ∨
    relation'.id = relationId ∧ customer = db.nextUserId ∧ db.nextUserId < db'.nextUserId := by
  obtain ⟨relation, hrelation, hid, -, hwrite⟩ := h.cases hmem
  by_cases hwritten : relation.id = relationId
  · rw [hwrite, if_pos hwritten] at hcustomer
    rcases h.customer relation customer hcustomer with hold | hnew
    · exact .inl ⟨relation, hrelation, hid, hold⟩
    · exact .inr ⟨hid.trans hwritten, hnew⟩
  · rw [hwrite, if_neg hwritten] at hcustomer
    exact .inl ⟨relation, hrelation, hid, hcustomer⟩

theorem RelationWrite.sound (h : RelationWrite db db' relationId write) (hsound : RelationsSound db) :
    RelationsSound db' := by
  have hids : ∀ relation ∈ db'.relations, ∀ other ∈ db'.relations, relation.id = other.id →
      relation = other := by
    intro relation' hmem other' hother hid
    obtain ⟨relation, hrelation, hid', -, hwrite⟩ := h.cases hmem
    obtain ⟨other, hother, hid'', -, hwrite'⟩ := h.cases hother
    have hsame : relation = other :=
      hsound.idsUnique relation hrelation other hother (by rw [← hid', hid, hid''])
    rw [hwrite, hwrite', hsame]
  have howners : ∀ relation ∈ db'.relations, ∃ old ∈ db.relations,
      relation.ownerUserId = old.ownerUserId := by
    intro relation hmem
    obtain ⟨old, hold, -, howner, -⟩ := h.cases hmem
    exact ⟨old, hold, howner⟩
  constructor
  · intro relation' hmem
    obtain ⟨relation, hrelation, hid, -, -⟩ := h.cases hmem
    rw [hid, h.nextId]
    exact hsound.idsBelow relation hrelation
  · exact hids
  · intro relation' hmem
    obtain ⟨old, hold, howner⟩ := howners relation' hmem
    rw [howner]
    exact Nat.lt_of_lt_of_le (hsound.ownersBelow old hold) h.known
  · intro relation' hmem customer hcustomer
    rcases h.customer_cases hmem hcustomer with ⟨relation, hrelation, -, hold⟩ | ⟨-, rfl, hnew⟩
    · exact Nat.lt_of_lt_of_le (hsound.customersBelow relation hrelation customer hold) h.known
    · exact hnew
  · intro relation' hmem other' hother customer hcustomer hcustomer'
    refine hids relation' hmem other' hother ?_
    rcases h.customer_cases hmem hcustomer with ⟨relation, hrelation, hid, hold⟩ | ⟨hid, hnew, -⟩ <;>
      rcases h.customer_cases hother hcustomer' with ⟨other, hother, hid', hold'⟩ | ⟨hid', hnew', -⟩
    · rw [hid, hid', hsound.customersUnique relation hrelation other hother customer hold hold']
    · have hbelow := hsound.customersBelow relation hrelation customer hold
      omega
    · have hbelow := hsound.customersBelow other hother customer hold'
      omega
    · rw [hid, hid']
  · intro relation' hmem hactive customer hcustomer other hother
    obtain ⟨old, hold, howner⟩ := howners other hother
    rw [howner]
    by_cases hknown : customer < db.nextUserId
    · obtain ⟨relation, hrelation, hactive', hcustomer'⟩ :=
        h.evolve.active relation' hmem hactive customer hknown hcustomer
      exact hsound.customersInviteNobody relation hrelation hactive' customer hcustomer' old hold
    · have hbelow := hsound.ownersBelow old hold
      omega

theorem RelationWrite.keepsSound (h : RelationWrite db db' relationId write) {zone : LocalZone}
    (hsound : Sound zone db) (htransactions : db'.transactions = db.transactions)
    (hlocks : db'.locks = db.locks) : Sound zone db' :=
  hsound.evolve (h.sound hsound.relations) h.evolve h.known htransactions hlocks

end Write

/-! ## The operations of owners and customers -/

section Operations

variable {zone : LocalZone} {db : Database}

theorem Sound.writeRelation (h : Sound zone db) {relationId : Nat}
    {write : CustomerRelation → CustomerRelation} (hfree : db.isLocked relationId = false)
    (hid : ∀ relation, (write relation).id = relation.id)
    (howner : ∀ relation, (write relation).ownerUserId = relation.ownerUserId)
    (hcustomer : ∀ relation, (write relation).customerUserId = relation.customerUserId)
    (hactive : ∀ relation, (write relation).isActive = true → relation.isActive = true) :
    Sound zone (db.writeRelation relationId write) := by
  have hwrite : RelationWrite db (db.writeRelation relationId write) relationId write :=
    { relations := rfl
      free := hfree
      known := Nat.le_refl _
      nextId := rfl
      trades := rfl
      id := hid
      owner := howner
      customerKept := fun relation _ _ _ hold => (hcustomer relation).trans hold
      customer := fun relation _ hnew => .inl ((hcustomer relation).symm.trans hnew)
      active := fun relation hnew => .inl (hactive relation hnew) }
  exact hwrite.keepsSound h rfl rfl

theorem Sound.updateLimits (h : Sound zone db) (relationId : Nat) (limits : CustomerTradeLimits) :
    Sound zone (db.updateLimits relationId limits) := by
  unfold Database.updateLimits
  split
  · exact h
  · rename_i hfree
    rw [not_or, Bool.not_eq_true] at hfree
    refine h.writeRelation hfree.1 ?_ ?_ ?_ ?_
    · intro relation
      split <;> rfl
    · intro relation
      split <;> rfl
    · intro relation
      split <;> rfl
    · intro relation hactive
      split at hactive <;> exact hactive

theorem Sound.endRelation (h : Sound zone db) (relationId : Nat) (status : CustomerRelationStatus) :
    Sound zone (db.endRelation relationId status) := by
  unfold Database.endRelation
  split
  · exact h
  · rename_i hended
    rw [not_or, Bool.not_eq_true] at hended
    refine h.writeRelation hended.1 (fun _ => rfl) (fun _ => rfl) (fun _ => rfl) ?_
    intro relation hactive
    rw [CustomerRelation.isActive, Bool.and_eq_true] at hactive
    cases of_decide_eq_true hactive.2

theorem Sound.registerCustomer (h : Sound zone db) (relationId : Nat) :
    Sound zone (db.registerCustomer relationId) := by
  unfold Database.registerCustomer
  split
  · exact h
  · rename_i hfree
    split
    · rename_i hpending
      obtain ⟨pending, hmem, hpending⟩ := List.any_eq_true.mp hpending
      simp only [Bool.and_eq_true, decide_eq_true_eq] at hpending
      obtain ⟨⟨⟨hid, -⟩, -⟩, hnobody⟩ := hpending
      have hwrite : RelationWrite db
          { db.writeRelation relationId fun relation =>
              { relation with customerUserId := some db.nextUserId, status := .active } with
            nextUserId := db.nextUserId + 1 } relationId fun relation =>
          { relation with customerUserId := some db.nextUserId, status := .active } :=
        { relations := rfl
          free := Bool.not_eq_true _ ▸ hfree
          known := Nat.le_succ _
          nextId := rfl
          trades := rfl
          id := fun _ => rfl
          owner := fun _ => rfl
          customerKept := by
            intro relation hrelation hid' customer hcustomer
            have hsame := h.relations.idsUnique relation hrelation pending hmem (hid'.trans hid.symm)
            rw [hsame, hnobody] at hcustomer
            cases hcustomer
          customer := by
            intro relation customer hcustomer
            exact .inr ⟨(Option.some.inj hcustomer).symm, Nat.lt_succ_self _⟩
          active := fun _ _ => .inr rfl }
      exact hwrite.keepsSound h rfl rfl
    · exact h

theorem Sound.invite (h : Sound zone db) (ownerUserId : Nat) (limits : CustomerTradeLimits) :
    Sound zone (db.invite ownerUserId limits) := by
  unfold Database.invite
  split
  · rename_i hinvite
    obtain ⟨hknown, hcustomer, -⟩ := hinvite
    have hnotCustomer : ∀ relation ∈ db.relations, relation.isActive = true →
        relation.customerUserId ≠ some ownerUserId := by
      intro relation hrelation hactive hself
      rw [isUserCustomer, getActiveCustomerRelationForCustomer, Option.isSome_eq_false_iff,
        Option.isNone_iff_eq_none, List.find?_eq_none] at hcustomer
      exact hcustomer relation hrelation (by rw [decide_eq_true hself, hactive]; rfl)
    -- the new relation has no customer yet
    have hold : ∀ relation ∈ db.relations ++
        [{ id := db.nextRelationId, ownerUserId := ownerUserId, limits := limits }],
        ∀ customer, relation.customerUserId = some customer → relation ∈ db.relations := by
      intro relation hmem customer hcustomer
      rcases List.mem_append.mp hmem with hold | hnew
      · exact hold
      · cases List.mem_singleton.mp hnew
        cases hcustomer
    refine h.evolve ?_ ?_ (Nat.le_refl _) rfl rfl
    · constructor
      · intro relation hmem
        rcases List.mem_append.mp hmem with hold | hnew
        · exact Nat.lt_succ_of_lt (h.relations.idsBelow relation hold)
        · cases List.mem_singleton.mp hnew
          exact Nat.lt_succ_self _
      · intro relation hmem other hother hid
        rcases List.mem_append.mp hmem with hold | hnew <;>
          rcases List.mem_append.mp hother with hold' | hnew'
        · exact h.relations.idsUnique relation hold other hold' hid
        · cases List.mem_singleton.mp hnew'
          exact absurd hid (Nat.ne_of_lt (h.relations.idsBelow relation hold))
        · cases List.mem_singleton.mp hnew
          exact absurd hid.symm (Nat.ne_of_lt (h.relations.idsBelow other hold'))
        · rw [List.mem_singleton.mp hnew, List.mem_singleton.mp hnew']
      · intro relation hmem
        rcases List.mem_append.mp hmem with hold | hnew
        · exact h.relations.ownersBelow relation hold
        · cases List.mem_singleton.mp hnew
          exact hknown
      · intro relation hmem customer hcustomer
        exact h.relations.customersBelow relation (hold relation hmem customer hcustomer) customer
          hcustomer
      · intro relation hmem other hother customer hcustomer hcustomer'
        exact h.relations.customersUnique relation (hold relation hmem customer hcustomer) other
          (hold other hother customer hcustomer') customer hcustomer hcustomer'
      · intro relation hmem hactive customer hcustomer other hother
        have hrelation := hold relation hmem customer hcustomer
        rcases List.mem_append.mp hother with hother | hnew
        · exact h.relations.customersInviteNobody relation hrelation hactive customer hcustomer other
            hother
        · cases List.mem_singleton.mp hnew
          intro hself
          exact hnotCustomer relation hrelation hactive (hcustomer.trans (congrArg some hself.symm))
    · exact {
        kept := fun relation hmem =>
          ⟨relation, List.mem_append_left _ hmem, rfl, fun _ hcustomer => hcustomer⟩
        active := fun relation hmem hactive customer _ hcustomer =>
          ⟨relation, hold relation hmem customer hcustomer, hactive, hcustomer⟩
        lockedKept := fun _ hmem _ => List.mem_append_left _ hmem
        trades := rfl }
  · exact h

theorem Sound.register (h : Sound zone db) :
    Sound zone { db with nextUserId := db.nextUserId + 1 } := by
  refine h.evolve ?_ ?_ (Nat.le_succ _) rfl rfl
  · exact {
      idsBelow := h.relations.idsBelow
      idsUnique := h.relations.idsUnique
      ownersBelow := fun relation hmem => Nat.lt_succ_of_lt (h.relations.ownersBelow relation hmem)
      customersBelow := fun relation hmem customer hcustomer =>
        Nat.lt_succ_of_lt (h.relations.customersBelow relation hmem customer hcustomer)
      customersUnique := h.relations.customersUnique
      customersInviteNobody := h.relations.customersInviteNobody }
  · exact {
      kept := fun relation hmem => ⟨relation, hmem, rfl, fun _ hcustomer => hcustomer⟩
      active := fun relation hmem hactive _ _ hcustomer => ⟨relation, hmem, hactive, hcustomer⟩
      lockedKept := fun _ hmem _ => hmem
      trades := rfl }

end Operations

/-! ## The steps of a trade -/

section Transactions

variable {zone : LocalZone} {db : Database} {responder source : Option RelationRef}
  {relation : CustomerRelation} {customer : Nat}

theorem Sound.update (h : Sound zone db) (transaction : Nat) (next : Option TradeTransaction)
    (locks : List (Nat × Nat)) (hnext : ∀ trade, next = some trade →
      (trade.offerUserId ≠ trade.responderUserId ∧ trade.offerUserId < db.nextUserId ∧
        trade.responderUserId < db.nextUserId) ∧
      StageSound zone db trade trade.stage ∧
      ∀ item ∈ lockedRelations trade, (item.2, transaction) ∈ locks)
    (hothers : ∀ lock ∈ db.locks, lock.2 ≠ transaction → lock ∈ locks)
    (hexclusive : ∀ relationId holder other, (relationId, holder) ∈ locks →
      (relationId, other) ∈ locks → holder = other) :
    Sound zone { db with
      transactions := Function.update db.transactions transaction next, locks := locks } where
  relations := ⟨h.relations.idsBelow, h.relations.idsUnique, h.relations.ownersBelow,
    h.relations.customersBelow, h.relations.customersUnique, h.relations.customersInviteNobody⟩
  parties := by
    intro other trade htrade
    rcases update_eq_some htrade with ⟨-, hown⟩ | ⟨-, hother⟩
    · exact (hnext trade hown).1
    · exact h.parties other trade hother
  stages := by
    intro other trade htrade
    rcases update_eq_some htrade with ⟨-, hown⟩ | ⟨-, hother⟩
    · exact (hnext trade hown).2.1
    · exact h.stages other trade hother
  locked := by
    intro other trade htrade item hitem
    rcases update_eq_some htrade with ⟨rfl, hown⟩ | ⟨hne, hother⟩
    · exact (hnext trade hown).2.2 item hitem
    · exact hothers _ (h.locked other trade hother item hitem) hne
  exclusive := hexclusive
  completed := h.completed

theorem Sound.tick (h : Sound zone db) (elapsed : Nat) :
    Sound zone { db with now := db.now + elapsed } where
  relations := ⟨h.relations.idsBelow, h.relations.idsUnique, h.relations.ownersBelow,
    h.relations.customersBelow, h.relations.customersUnique, h.relations.customersInviteNobody⟩
  parties := h.parties
  stages := h.stages
  locked := h.locked
  exclusive := h.exclusive
  completed := h.completed

theorem Sound.advance (h : Sound zone db)
    (htrade : db.transactions transaction = some trade) {stage : TradeStage}
    (hstage : StageSound zone db { trade with stage := stage } stage)
    (hunlocked : lockedRelations { trade with stage := stage } = []) :
    Sound zone (db.advance transaction trade stage) := by
  refine h.update transaction _ db.locks ?_ (fun _ hlock _ => hlock) h.exclusive
  intro next hnext
  cases hnext
  refine ⟨h.parties transaction trade htrade, hstage, ?_⟩
  rw [hunlocked]
  exact nofun

theorem Sound.finish (h : Sound zone db) (transaction : Nat) :
    Sound zone (db.finish transaction) := by
  refine h.update transaction none _ nofun ?_ ?_
  · intro lock hlock hother
    exact List.mem_filter.mpr ⟨hlock, decide_eq_true hother⟩
  · intro relationId holder other hholder hother
    exact h.exclusive relationId holder other (List.mem_of_mem_filter hholder)
      (List.mem_of_mem_filter hother)

theorem Sound.begin (h : Sound zone db) (transaction offerUserId responderUserId quantity : Nat) :
    Sound zone (db.begin transaction offerUserId responderUserId quantity) := by
  unfold Database.begin
  split
  · rename_i hbegin
    refine h.update transaction _ db.locks ?_ (fun _ hlock _ => hlock) h.exclusive
    intro trade htrade
    cases htrade
    exact ⟨hbegin.2, trivial, nofun⟩
  · exact h

theorem readOf_readRelation (db : Database) (userId : Nat) :
    ReadOf db userId (db.readRelation userId) := by
  unfold Database.readRelation getActiveCustomerRelationForCustomer
  cases hfind : db.relations.find? (fun relation =>
      relation.customerUserId = some userId && relation.isActive) with
  | none =>
    intro relation hmem hactive hcustomer
    rw [List.find?_eq_none] at hfind
    exact hfind relation hmem (by rw [decide_eq_true hcustomer, hactive]; rfl)
  | some relation =>
    have hfound := List.find?_some hfind
    rw [Bool.and_eq_true] at hfound
    exact ⟨relation, List.mem_of_find?_eq_some hfind, rfl, of_decide_eq_true hfound.1⟩

theorem Sound.readResponder (h : Sound zone db) (transaction : Nat) :
    Sound zone (db.readResponder transaction) := by
  unfold Database.readResponder
  split
  · rename_i trade htrade
    split
    · exact h.advance htrade (readOf_readRelation db trade.responderUserId) rfl
    · exact h
  · exact h

theorem Sound.readSource (h : Sound zone db) (transaction : Nat) :
    Sound zone (db.readSource transaction) := by
  unfold Database.readSource
  split
  · rename_i trade htrade
    split
    · rename_i responder hstage
      have hread := h.stages transaction trade htrade
      rw [hstage] at hread
      exact h.advance htrade ⟨hread, readOf_readRelation db trade.offerUserId⟩ rfl
    · exact h
  · exact h

theorem Sound.check (h : Sound zone db) (transaction : Nat) :
    Sound zone (db.check zone transaction) := by
  unfold Database.check
  split
  · rename_i trade htrade
    split
    · rename_i responder source hstage
      have hread := h.stages transaction trade htrade
      rw [hstage] at hread
      dsimp only
      split
      · exact h
      · rename_i hfree
        split
        · exact h.finish transaction
        · rename_i hcheck
          have hchecked := enforceCustomerTradeLimitsForTrade_ok hcheck
          have hunlocked : ∀ item ∈ expectedRelations trade responder source, ∀ holder,
              (item.2, holder) ∉ db.locks := by
            intro item hitem holder hlock
            exact hfree (List.any_eq_true.mpr ⟨item, hitem, isLocked_of_mem hlock⟩)
          refine h.update transaction _ _ ?_ (fun _ hlock _ => List.mem_append_right _ hlock) ?_
          · intro next hnext
            cases hnext
            refine ⟨h.parties transaction trade htrade, ⟨hread, ?_⟩, ?_⟩
            · exact fun item hitem => enforceRelation_ok (hchecked item hitem)
            · exact fun item hitem => List.mem_append_left _ (List.mem_map.mpr ⟨item, hitem, rfl⟩)
          · intro relationId holder other hholder hother
            rcases List.mem_append.mp hholder with hnew | hold <;>
              rcases List.mem_append.mp hother with hnew' | hold'
            · obtain ⟨item, -, hitem⟩ := List.mem_map.mp hnew
              obtain ⟨item', -, hitem'⟩ := List.mem_map.mp hnew'
              exact (congrArg Prod.snd hitem).symm.trans (congrArg Prod.snd hitem')
            · obtain ⟨item, hmem, hitem⟩ := List.mem_map.mp hnew
              cases hitem
              exact absurd hold' (hunlocked item hmem other)
            · obtain ⟨item, hmem, hitem⟩ := List.mem_map.mp hnew'
              cases hitem
              exact absurd hold (hunlocked item hmem holder)
            · exact h.exclusive relationId holder other hold hold'
    · exact h
  · exact h

/-! ## The commit of a trade -/

theorem mem_lockedRelations (hstage : trade.stage = .checked responder source checkedAt)
    (hitem : item ∈ expectedRelations trade responder source) :
    item ∈ lockedRelations trade := by
  rw [lockedRelations, hstage]
  exact hitem

theorem holdsLock (h : Sound zone db) (htrade : db.transactions transaction = some trade)
    (hstage : trade.stage = .checked responder source checkedAt)
    (hrelation : relation ∈ db.relations) (hactive : relation.isActive = true)
    (hcustomer : relation.customerUserId = some customer)
    (hparty : customer = trade.offerUserId ∨ customer = trade.responderUserId) :
    (customer, relation.id) ∈ expectedRelations trade responder source ∧
      (relation.id, transaction) ∈ db.locks := by
  have hchecked := h.stages transaction trade htrade
  rw [hstage] at hchecked
  obtain ⟨⟨hresponder, hsource⟩, -⟩ := hchecked
  have hexpected : (customer, relation.id) ∈ expectedRelations trade responder source := by
    rcases hparty with rfl | rfl
    · cases source with
      | none => exact absurd hcustomer (hsource relation hrelation hactive)
      | some ref =>
        obtain ⟨read, hread, href, hcustomer'⟩ := hsource
        have hsame := h.relations.customersUnique read hread relation hrelation _ hcustomer' hcustomer
        refine List.mem_append_right _ (List.mem_singleton.mpr ?_)
        rw [← href, hsame]
        rfl
    · cases responder with
      | none => exact absurd hcustomer (hresponder relation hrelation hactive)
      | some ref =>
        obtain ⟨read, hread, href, hcustomer'⟩ := hresponder
        have hsame := h.relations.customersUnique read hread relation hrelation _ hcustomer' hcustomer
        refine List.mem_append_left _ (List.mem_singleton.mpr ?_)
        rw [← href, hsame]
        rfl
  exact ⟨hexpected, h.locked transaction trade htrade _ (mem_lockedRelations hstage hexpected)⟩

theorem principal_ne (h : Sound zone db)
    (hread : ReadOf db userId ref) (hrelation : relation ∈ db.relations)
    (hactive : relation.isActive = true)
    (hcustomer : relation.customerUserId = some customer) (hother : customer ≠ userId) :
    customer ≠ tradeBlockPrincipalUserId userId ref := by
  unfold tradeBlockPrincipalUserId
  cases ref with
  | none => exact hother
  | some ref =>
    obtain ⟨read, hread, href, -⟩ := hread
    dsimp only
    split
    · exact hother
    · rw [← href]
      exact (h.relations.customersInviteNobody relation hrelation hactive customer hcustomer read
        hread).symm

theorem not_involved {other : Nat} {trade' : TradeTransaction}
    {responder' source' : Option RelationRef} {checkedAt' : Int}
    (h : Sound zone db) (htrade : db.transactions transaction = some trade)
    (hstage : trade.stage = .checked responder source checkedAt)
    (htrade' : db.transactions other = some trade')
    (hstage' : trade'.stage = .checked responder' source' checkedAt') (hother : other ≠ transaction)
    (hitem : item ∈ expectedRelations trade' responder' source') :
    (tradeLegs trade responder source).filter (involves item.1) = [] := by
  have hchecked' := h.stages other trade' htrade'
  rw [hstage'] at hchecked'
  obtain ⟨relation, hrelation, hid, hactive, hcustomer, -⟩ := hchecked'.2 item hitem
  have hchecked := h.stages transaction trade htrade
  rw [hstage] at hchecked
  have hnotParty : ¬ (item.1 = trade.offerUserId ∨ item.1 = trade.responderUserId) := by
    intro hparty
    have hlock := (holdsLock h htrade hstage hrelation hactive hcustomer hparty).2
    have hlock' := h.locked other trade' htrade' item (mem_lockedRelations hstage' hitem)
    rw [hid] at hlock
    exact hother (h.exclusive item.2 other transaction hlock' hlock)
  rw [not_or] at hnotParty
  rw [List.filter_eq_nil_iff]
  intro leg hleg hinvolved
  rcases mem_tradeLegs hleg hinvolved with hparty | hparty | hprincipal | hprincipal
  · exact hnotParty.1 hparty
  · exact hnotParty.2 hparty
  · exact principal_ne h hchecked.1.2 hrelation hactive hcustomer hnotParty.1 hprincipal
  · exact principal_ne h hchecked.1.1 hrelation hactive hcustomer hnotParty.2 hprincipal

theorem Sound.commit (h : Sound zone db) (transaction : Nat) :
    Sound zone (db.commit transaction) := by
  unfold Database.commit
  split
  · rename_i trade htrade
    split
    · rename_i responder source checkedAt hstage
      have hfinish := h.finish transaction
      refine ⟨⟨hfinish.relations.idsBelow, hfinish.relations.idsUnique,
        hfinish.relations.ownersBelow, hfinish.relations.customersBelow,
        hfinish.relations.customersUnique, hfinish.relations.customersInviteNobody⟩,
        hfinish.parties, ?_, hfinish.locked, hfinish.exclusive, ?_⟩
      · intro other trade' htrade'
        have hsound := hfinish.stages other trade' htrade'
        rcases update_eq_some htrade' with ⟨-, hnone⟩ | ⟨hother, htrade'⟩
        · cases hnone
        · cases hstage' : trade'.stage with
          | begun => trivial
          | responderRead responder' =>
            rw [hstage'] at hsound
            exact hsound
          | relationsRead responder' source' =>
            rw [hstage'] at hsound
            exact hsound
          | checked responder' source' checkedAt' =>
            rw [hstage'] at hsound
            refine ⟨hsound.1, fun item hitem => ?_⟩
            obtain ⟨relation, hrelation, hid, hactive, hcustomer, hroom⟩ := hsound.2 item hitem
            have hnone := not_involved h htrade hstage htrade' hstage' hother hitem
            have husage := usage_append_legs zone db.trades trade item.1 checkedAt'
              (tradeLegs trade responder source)
            rw [hnone, List.length_nil, ite_self] at husage
            dsimp only at husage
            rw [Nat.add_zero, Nat.zero_mul, Nat.add_zero] at husage
            refine ⟨relation, hrelation, hid, hactive, hcustomer, hroom.minimum, hroom.maximum, ?_,
              ?_⟩
            · rw [husage]
              exact hroom.dailyTrades
            · rw [husage]
              exact hroom.dailyVolume
      · intro stored hstored
        rcases List.mem_append.mp hstored with hold | hnew
        · exact h.completed stored hold
        · obtain ⟨leg, -, rfl⟩ := List.mem_map.mp hnew
          rfl
    · exact h
  · exact h

end Transactions

theorem sound_step (zone : LocalZone) (db : Database) (op : Operation) (h : Sound zone db) :
    Sound zone (step zone db op) := by
  cases op with
  | tick elapsed => exact h.tick elapsed
  | register => exact h.register
  | invite ownerUserId limits => exact h.invite ownerUserId limits
  | registerCustomer relationId => exact h.registerCustomer relationId
  | updateLimits relationId limits => exact h.updateLimits relationId limits
  | endRelation relationId status => exact h.endRelation relationId status
  | begin transaction offerUserId responderUserId quantity =>
    exact h.begin transaction offerUserId responderUserId quantity
  | readResponder transaction => exact h.readResponder transaction
  | readSource transaction => exact h.readSource transaction
  | check transaction => exact h.check transaction
  | commit transaction => exact h.commit transaction
  | abort transaction => exact h.finish transaction

/-! ## Accepted trades -/

/-- The accepted trade keeps its customer's limits: its quantity, and the number and volume of the
trades on its local day. -/
structure KeepsLimits (zone : LocalZone) (trades : List StoredTrade) (customerUserId : Nat)
    (limits : CustomerTradeLimits) (trade : TradeTransaction) : Prop where
  minimum : ∀ bound, limits.minTradeQuantity = some bound → bound ≤ trade.quantity
  maximum : ∀ bound, limits.maxTradeQuantity = some bound → trade.quantity ≤ bound
  dailyTrades : ∀ bound, limits.maxDailyTrades = some bound →
    (loadCustomerDailyTradeUsage trades customerUserId
      (customerTradeDayBounds zone trade.startedAt)).trades ≤ bound
  dailyVolume : ∀ bound, limits.maxDailyCommodityVolume = some bound →
    (loadCustomerDailyTradeUsage trades customerUserId
      (customerTradeDayBounds zone trade.startedAt)).commodityVolume ≤ bound

def acceptedTrade (db : Database) : Operation → Option (TradeTransaction × Int)
  | .commit transaction =>
    match db.transactions transaction with
    | some trade =>
      match trade.stage with
      | .checked _ _ checkedAt => some (trade, checkedAt)
      | _ => none
    | none => none
  | _ => none

/-- The trade that the operation accepts keeps the limits of the relations in force. -/
def AcceptedWithinLimits (zone : LocalZone) (db : Database) (op : Operation) (db' : Database) :
    Prop :=
  ∀ trade checkedAt, acceptedTrade db op = some (trade, checkedAt) →
    ∀ relation ∈ db'.relations, relation.isActive = true → ∀ customer,
      relation.customerUserId = some customer →
      customer = trade.offerUserId ∨ customer = trade.responderUserId →
      KeepsLimits zone db'.trades customer relation.limits trade

/-- The transaction of the accepted trade started on the local day its limits were checked on. -/
def CheckedOnItsDay (zone : LocalZone) (db : Database) (op : Operation) (_ : Database) : Prop :=
  match acceptedTrade db op with
  | some (trade, checkedAt) => zone.date trade.startedAt = zone.date checkedAt
  | none => True

instance (zone : LocalZone) (db : Database) (op : Operation) (db' : Database) :
    Decidable (CheckedOnItsDay zone db op db') :=
  match h : acceptedTrade db op with
  | some (trade, checkedAt) =>
    decidable_of_iff (zone.date trade.startedAt = zone.date checkedAt)
      (by rw [CheckedOnItsDay, h])
  | none => .isTrue (by rw [CheckedOnItsDay, h]; trivial)

theorem acceptedTrade_eq_some {db : Database} {op : Operation}
    (h : acceptedTrade db op = some (trade, checkedAt)) :
    ∃ transaction responder source, op = .commit transaction ∧
      db.transactions transaction = some trade ∧
      trade.stage = .checked responder source checkedAt := by
  unfold acceptedTrade at h
  split at h
  · rename_i transaction
    split at h
    · rename_i trade' htrade
      split at h
      · rename_i responder source checkedAt' hstage
        cases h
        exact ⟨transaction, responder, source, rfl, htrade, hstage⟩
      · cases h
    · cases h
  · cases h

theorem customerTradeDayBounds_congr {zone : LocalZone} {instant other : Int}
    (h : zone.date instant = zone.date other) :
    customerTradeDayBounds zone instant = customerTradeDayBounds zone other := by
  rw [customerTradeDayBounds, customerTradeDayBounds, h]

theorem acceptedWithinLimits_step (zone : LocalZone) (db : Database) (op : Operation)
    (h : Sound zone db) (hday : CheckedOnItsDay zone db op (step zone db op)) :
    AcceptedWithinLimits zone db op (step zone db op) := by
  intro trade checkedAt haccepted relation hrelation hactive customer hcustomer hparty
  have hdate : zone.date trade.startedAt = zone.date checkedAt := by
    rw [CheckedOnItsDay, haccepted] at hday
    exact hday
  obtain ⟨transaction, responder, source, rfl, htrade, hstage⟩ := acceptedTrade_eq_some haccepted
  have hstep : step zone db (.commit transaction) = { db.finish transaction with
      trades := db.trades ++ (tradeLegs trade responder source).map (storedLeg trade) } := by
    rw [step, Database.commit, htrade]
    dsimp only
    rw [hstage]
  rw [hstep] at hrelation ⊢
  have hrelation : relation ∈ db.relations := hrelation
  obtain ⟨hparties, -, -⟩ := h.parties transaction trade htrade
  have hchecked := h.stages transaction trade htrade
  rw [hstage] at hchecked
  obtain ⟨⟨hreadResponder, hreadSource⟩, hroom⟩ := hchecked
  have hexpected := (holdsLock h htrade hstage hrelation hactive hcustomer hparty).1
  obtain ⟨locked, hlocked, hid, -, -, hroom⟩ := hroom _ hexpected
  obtain rfl := h.relations.idsUnique locked hlocked relation hrelation hid
  -- the customer has one of the legs, on the day that was checked
  have hone : ((tradeLegs trade responder source).filter (involves customer)).length = 1 := by
    refine length_filter_involves hparties ?_
    rcases hparty with rfl | rfl
    · exact .inl ⟨rfl, principal_ne h hreadResponder hrelation hactive hcustomer hparties⟩
    · exact .inr ⟨rfl, principal_ne h hreadSource hrelation hactive hcustomer hparties.symm⟩
  have husage := usage_append_legs zone db.trades trade customer trade.startedAt
    (tradeLegs trade responder source)
  rw [if_pos rfl, hone, customerTradeDayBounds_congr hdate] at husage
  dsimp only at husage
  constructor
  · exact hroom.minimum
  · exact hroom.maximum
  · intro bound hbound
    rw [customerTradeDayBounds_congr hdate, husage]
    exact hroom.dailyTrades bound hbound
  · intro bound hbound
    rw [customerTradeDayBounds_congr hdate, husage, Nat.one_mul]
    exact hroom.dailyVolume bound hbound

/-- In every run whose trades are checked on the day of their start, each accepted trade keeps the
limits in force, and every trade counts to the day of its start only. -/
theorem daily_limits_kept (zone : LocalZone) (now : Int) (ops : List Operation)
    (hday : EachStep (step zone) (CheckedOnItsDay zone) (Database.empty now) ops) :
    EachStep (step zone) (AcceptedWithinLimits zone) (Database.empty now) ops ∧
    ∀ trade ∈ (run (step zone) (Database.empty now) ops).trades, ∀ customer,
      trade.offerUserId = customer ∨ trade.responderUserId = customer → ∀ instant,
      countsToDay customer (customerTradeDayBounds zone instant) trade = true ↔
        zone.date trade.createdAt = zone.date instant := by
  constructor
  · exact eachStep_of_invariant (fun db op h _ => sound_step zone db op h)
      (acceptedWithinLimits_step zone) ops _ (sound_empty zone now) hday
  · intro trade htrade customer hparty instant
    have hsound := run_invariant (fun db op h _ => sound_step zone db op h) ops _
      (sound_empty zone now) hday
    rw [countsToDay_customerTradeDayBounds]
    exact ⟨fun h => h.2.1, fun h => ⟨hsound.completed trade htrade, h, hparty⟩⟩

/-- Users 1 and 2 register, user 1 invites a customer with one trade a day, who becomes user 3. -/
def oneTradeADay : List Operation :=
  [.register, .register, .invite 1 { maxDailyTrades := some 1 }, .registerCustomer 1]

/-- A trade of the customer on an offer of user 2, with a wait before its check. -/
def customerTrade (wait : Nat) : List Operation :=
  [.begin 1 2 3 5, .tick wait, .readResponder 1, .readSource 1, .check 1, .commit 1]

/-- A trade on a day and one on the next. -/
theorem trades_on_two_days_kept :
    EachStep (step tehran) (CheckedOnItsDay tehran) (Database.empty 0)
      (oneTradeADay ++ customerTrade 0 ++ .tick 86400000000 :: customerTrade 2000000) ∧
    EachStep (step tehran) (AcceptedWithinLimits tehran) (Database.empty 0)
      (oneTradeADay ++ customerTrade 0 ++ .tick 86400000000 :: customerTrade 2000000) := by
  have hday : EachStep (step tehran) (CheckedOnItsDay tehran) (Database.empty 0)
      (oneTradeADay ++ customerTrade 0 ++ .tick 86400000000 :: customerTrade 2000000) := by
    decide
  exact ⟨hday, (daily_limits_kept tehran 0 _ hday).1⟩

/-- The second trade starts a second before midnight and is checked a second after it. -/
theorem trade_over_midnight_exceeds :
    ¬ EachStep (step tehran) (AcceptedWithinLimits tehran) (Database.empty 0)
      (oneTradeADay ++ customerTrade 0 ++ .tick 73799000000 :: customerTrade 2000000) := by
  intro h
  have hlast := h.2.2.2.2.2.2.2.2.2.2.2.2.2.2.2.2.1
  have hkept := hlast ⟨73799000000, 2, 3, 5, .checked (some ⟨1, 1⟩) none 73801000000⟩ 73801000000
    (by decide) ⟨1, 1, some 3, { maxDailyTrades := some 1 }, .active, none⟩ (by decide) (by decide) 3
    rfl (by decide)
  exact absurd (hkept.dailyTrades 1 rfl) (by decide)

end TradingBot.Customers
