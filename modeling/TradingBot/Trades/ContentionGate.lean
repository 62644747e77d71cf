import Mathlib.Data.List.Perm.Subperm
import Mathlib.Data.List.Nodup
import TradingBot.Misc.Run
import TradingBot.Misc.Table

/-!
# The contention gate of an offer

`core/services/trade_contention_gate.py`: a semaphore in Redis that lets so many requests for one
offer through at a time. The slots are the fields of one hash, whose one expiry every acquired slot
sets anew. A call that Redis does not answer lets its request through without a slot.

The state holds one key of Redis with the server's clock, in milliseconds, and every returned lease:
its token, whether and when it took a slot, and whether its release was run; no operation reads
these.
-/

namespace TradingBot.Trades

open TradingBot.Misc

inductive RedisValue where
  | hash (fields : List String)
  | other
  deriving DecidableEq, Repr

structure RedisKey where
  value : RedisValue
  expiresAt : Nat
  deriving DecidableEq, Repr

def fieldsOf : Option RedisKey → List String
  | some ⟨.hash fields, _⟩ => fields
  | _ => []

def visibleKey (now : Nat) (key : Option RedisKey) : Option RedisKey :=
  key.filter fun key => now ≤ key.expiresAt

/-- `_ACQUIRE_SEMAPHORE_SLOT_SCRIPT` (line 19). -/
def acquireSlot (now : Nat) (key : Option RedisKey) (token : String) (ttlMs maxInflight : Nat) :
    Bool × Option RedisKey :=
  if key.map (·.value) = some .other then (false, key)
  else if maxInflight ≤ (fieldsOf key).length then (false, key)
  else (true, some ⟨.hash ((fieldsOf key).insert token), now + ttlMs⟩)

/-- `_RELEASE_SEMAPHORE_SLOT_SCRIPT` (line 31). -/
def releaseSlot (key : Option RedisKey) (token : String) : Nat × Option RedisKey :=
  match key with
  | some ⟨.hash fields, expiresAt⟩ =>
    let removed := if token ∈ fields then 1 else 0
    if (fields.erase token).length = 0 then (removed, none)
    else (removed, some ⟨.hash (fields.erase token), expiresAt⟩)
  | key => (0, key)

/-- Line 83, of the milliseconds that `int` leaves. -/
def gateTtlMs (rawTtlMs : Int) : Nat := max 250 rawTtlMs.toNat

def gateMaxInflight (rawLimit : Int) : Nat := max 1 rawLimit.toNat

inductive Delivery where
  | answered
  | unreachable
  | answerLost
  deriving DecidableEq, Repr

/-- `TradeContentionLease` (line 45), with what was noted about it. -/
structure Lease where
  token : Option String
  acquired : Bool
  drawn : String
  granted : Bool
  askedAt : Nat
  released : Bool := false
  deriving DecidableEq, Repr

structure Gate where
  now : Nat := 0
  key : Option RedisKey := none
  leases : List Lease := []
  deriving DecidableEq, Repr

/-- The calls on the gate, and the clock. A holder that crashed makes no further calls. -/
inductive GateCommand where
  | acquire (token : String) (delivery : Delivery)
  | release (lease : Nat) (delivery : Delivery)
  | tick (ms : Nat)
  deriving DecidableEq, Repr

namespace Gate

def slots (gate : Gate) : List String := fieldsOf (visibleKey gate.now gate.key)

/-- `try_acquire_trade_contention_gate` (line 103) with its `uuid4` token. -/
def tryAcquire (ttlMs maxInflight : Nat) (gate : Gate) (token : String) (delivery : Delivery) :
    Lease × Gate :=
  let (taken, key) := acquireSlot gate.now (visibleKey gate.now gate.key) token ttlMs maxInflight
  let lease : Lease := match delivery with
    | .answered =>
      { token := if taken then some token else none
        acquired := taken
        drawn := token
        granted := taken
        askedAt := gate.now }
    | .unreachable =>
      { token := none, acquired := true, drawn := token, granted := false, askedAt := gate.now }
    | .answerLost =>
      { token := none, acquired := true, drawn := token, granted := taken, askedAt := gate.now }
  let key := if delivery = .unreachable then gate.key else key
  (lease, { gate with key, leases := gate.leases ++ [lease] })

def release (gate : Gate) (index : Nat) (delivery : Delivery) : Gate :=
  match gate.leases[index]? with
  | none => gate
  | some lease =>
    match lease.acquired, lease.token with
    | true, some token =>
      if delivery = .unreachable then
        { gate with leases := gate.leases.set index { lease with acquired := false } }
      else
        { gate with
          key := (releaseSlot (visibleKey gate.now gate.key) token).2
          leases := gate.leases.set index { lease with acquired := false, released := true } }
    | _, _ => gate

/-- One command, where every call has the same time to live and limit. -/
def step (rawTtlMs rawLimit : Int) (gate : Gate) : GateCommand → Gate
  | .acquire token delivery =>
    (gate.tryAcquire (gateTtlMs rawTtlMs) (gateMaxInflight rawLimit) token delivery).2
  | .release index delivery => gate.release index delivery
  | .tick ms => { gate with now := gate.now + ms }

/-- The fields that the key holds, whether or not it has expired. -/
def fields (gate : Gate) : List String := fieldsOf gate.key

def expiry (gate : Gate) : Nat := (gate.key.map (·.expiresAt)).getD 0

/-- The token that `uuid4` draws is none that it has drawn before. -/
def DrawsFresh (gate : Gate) : GateCommand → Gate → Prop
  | .acquire token _, _ => token ∉ gate.leases.map (·.drawn)
  | _, _ => True

instance (gate gate' : Gate) : (command : GateCommand) → Decidable (gate.DrawsFresh command gate')
  | .acquire token _ => inferInstanceAs (Decidable (token ∉ gate.leases.map (·.drawn)))
  | .release _ _ => inferInstanceAs (Decidable True)
  | .tick _ => inferInstanceAs (Decidable True)

def GrantedWithin (ttlMs : Nat) (leases : List Lease) (time : Nat) : Prop :=
  ∃ lease ∈ leases, lease.granted = true ∧ lease.askedAt ≤ time ∧ time ≤ lease.askedAt + ttlMs

/-- A lease younger than the time to live has its slot, and the key does not expire before it; a
slot belongs to a lease not released, since whose grant the time to live has never passed without a
grant; and while every slot is taken, so is the one granted last. -/
structure Accounted (ttlMs maxInflight : Nat) (gate : Gate) : Prop where
  hash : gate.key.map (·.value) ≠ some .other
  drawnOnce : (gate.leases.map (·.drawn)).Nodup
  past : ∀ lease ∈ gate.leases, lease.askedAt ≤ gate.now
  own : ∀ lease ∈ gate.leases, ∀ token, lease.token = some token → token = lease.drawn
  fits : gate.fields.length ≤ maxInflight
  distinct : gate.fields.Nodup
  kept : ∀ lease ∈ gate.leases, lease.granted = true → lease.released = false →
    gate.now ≤ lease.askedAt + ttlMs →
      lease.drawn ∈ gate.fields ∧ lease.askedAt + ttlMs ≤ gate.expiry
  held : ∀ token ∈ gate.fields, ∃ lease ∈ gate.leases, lease.drawn = token ∧
    lease.granted = true ∧ lease.released = false ∧
    ∀ time, lease.askedAt ≤ time → time ≤ gate.expiry → GrantedWithin ttlMs gate.leases time
  latest : maxInflight ≤ gate.fields.length → ∃ lease ∈ gate.leases, lease.drawn ∈ gate.fields ∧
    lease.granted = true ∧ lease.released = false ∧ gate.expiry = lease.askedAt + ttlMs

section Accounted

variable {ttlMs maxInflight now index : Nat} {gate : Gate} {lease : Lease} {key : Option RedisKey}
  {token : String}

theorem GrantedWithin.append {leases : List Lease} {time : Nat}
    (h : GrantedWithin ttlMs leases time) (lease : Lease) :
    GrantedWithin ttlMs (leases ++ [lease]) time := by
  obtain ⟨other, hother, hrest⟩ := h
  exact ⟨other, List.mem_append_left _ hother, hrest⟩

theorem accounted_empty (hlimit : 0 < maxInflight) : Accounted ttlMs maxInflight {} where
  hash := by decide
  drawnOnce := List.nodup_nil
  past := fun _ h => by cases h
  own := fun _ h => by cases h
  fits := Nat.zero_le _
  distinct := List.nodup_nil
  kept := fun _ h => by cases h
  held := fun _ h => by cases h
  latest := fun h => absurd hlimit (Nat.not_lt.mpr h)

theorem Accounted.tick (h : Accounted ttlMs maxInflight gate) (ms : Nat) :
    Accounted ttlMs maxInflight { gate with now := gate.now + ms } :=
  { h with
    past := fun lease hlease => Nat.le_add_right_of_le (h.past lease hlease)
    kept := fun lease hlease hgranted hreleased hyoung =>
      h.kept lease hlease hgranted hreleased (Nat.le_trans (Nat.le_add_right _ _) hyoung) }

theorem visibleKey_of_le {key : RedisKey} (h : now ≤ key.expiresAt) :
    visibleKey now (some key) = some key := by
  simp [visibleKey, h]

theorem visibleKey_of_lt {key : RedisKey} (h : key.expiresAt < now) :
    visibleKey now (some key) = none := by
  simp [visibleKey, h]

theorem Accounted.expire (h : Accounted ttlMs maxInflight gate) (hlimit : 0 < maxInflight) :
    Accounted ttlMs maxInflight { gate with key := visibleKey gate.now gate.key } := by
  cases hkey : gate.key with
  | none =>
    have hsame : { gate with key := visibleKey gate.now none } = gate := by
      cases gate
      cases hkey
      rfl
    rw [hsame]
    exact h
  | some key =>
    have hexpiry : gate.expiry = key.expiresAt := by
      rw [expiry, hkey]
      rfl
    by_cases hlive : gate.now ≤ key.expiresAt
    · rw [visibleKey_of_le hlive, ← hkey]
      exact h
    · rw [visibleKey_of_lt (Nat.not_le.mp hlive)]
      refine { h with
        hash := nofun
        fits := Nat.zero_le _
        distinct := List.nodup_nil
        kept := ?_
        held := fun _ h => by cases h
        latest := fun h => absurd hlimit (Nat.not_lt.mpr h) }
      intro lease hlease hgranted hreleased hyoung
      have hbound := (h.kept lease hlease hgranted hreleased hyoung).2
      rw [hexpiry] at hbound
      exact absurd (Nat.le_trans hyoung hbound) hlive

theorem Accounted.append (h : Accounted ttlMs maxInflight gate)
    (hfresh : lease.drawn ∉ gate.leases.map (·.drawn)) (hasked : lease.askedAt = gate.now)
    (htoken : ∀ token, lease.token = some token → token = lease.drawn) :
    ((gate.leases ++ [lease]).map (·.drawn)).Nodup ∧
      (∀ other ∈ gate.leases ++ [lease], other.askedAt ≤ gate.now) ∧
      ∀ other ∈ gate.leases ++ [lease], ∀ token, other.token = some token →
        token = other.drawn := by
  refine ⟨?_, ?_, ?_⟩
  · rw [List.map_append, List.map_singleton, List.nodup_append_comm]
    exact List.nodup_cons.mpr ⟨hfresh, h.drawnOnce⟩
  · rw [List.forall_mem_append, List.forall_mem_singleton]
    exact ⟨h.past, Nat.le_of_eq hasked⟩
  · rw [List.forall_mem_append, List.forall_mem_singleton]
    exact ⟨h.own, htoken⟩

theorem Accounted.addLease (h : Accounted ttlMs maxInflight gate)
    (hfresh : lease.drawn ∉ gate.leases.map (·.drawn)) (hasked : lease.askedAt = gate.now)
    (hgranted : lease.granted = false) (htoken : lease.token = none) :
    Accounted ttlMs maxInflight { gate with leases := gate.leases ++ [lease] } := by
  obtain ⟨hdrawnOnce, hpast, hown⟩ := h.append hfresh hasked (by rw [htoken]; exact nofun)
  refine { h with
    drawnOnce := hdrawnOnce, past := hpast, own := hown, kept := ?_, held := ?_, latest := ?_ }
  · rw [List.forall_mem_append, List.forall_mem_singleton]
    refine ⟨h.kept, fun hnot => ?_⟩
    rw [hgranted] at hnot
    cases hnot
  · intro token hfield
    obtain ⟨other, hother, hdrawn, hgranted', hreleased, hcovered⟩ := h.held token hfield
    refine ⟨other, List.mem_append_left _ hother, hdrawn, hgranted', hreleased, ?_⟩
    intro time hfrom huntil
    exact (hcovered time hfrom huntil).append lease
  · intro hfull
    obtain ⟨other, hother, hrest⟩ := h.latest hfull
    exact ⟨other, List.mem_append_left _ hother, hrest⟩

theorem Accounted.grant (h : Accounted ttlMs maxInflight gate) (lease : Lease)
    (hfresh : lease.drawn ∉ gate.leases.map (·.drawn)) (hasked : lease.askedAt = gate.now)
    (hgranted : lease.granted = true) (hreleased : lease.released = false)
    (htoken : ∀ token, lease.token = some token → token = lease.drawn)
    (hfree : gate.fields.length < maxInflight) (hlive : gate.fields ≠ [] → gate.now ≤ gate.expiry) :
    Accounted ttlMs maxInflight { gate with
      key := some ⟨.hash (gate.fields.insert lease.drawn), gate.now + ttlMs⟩
      leases := gate.leases ++ [lease] } := by
  obtain ⟨hdrawnOnce, hpast, hown⟩ := h.append hfresh hasked htoken
  have hnew : lease.drawn ∉ gate.fields := by
    intro hfield
    obtain ⟨other, hother, hdrawn, -⟩ := h.held _ hfield
    exact hfresh (hdrawn ▸ List.mem_map_of_mem hother)
  have hinsert : gate.fields.insert lease.drawn = lease.drawn :: gate.fields :=
    List.insert_of_not_mem hnew
  rw [hinsert]
  have hself : ∀ time, gate.now ≤ time → time ≤ gate.now + ttlMs →
      GrantedWithin ttlMs (gate.leases ++ [lease]) time := by
    intro time hfrom huntil
    refine ⟨lease, List.mem_append_right _ (List.mem_singleton_self _), hgranted, ?_, ?_⟩
    · rw [hasked]
      exact hfrom
    · rw [hasked]
      exact huntil
  refine {
    hash := nofun
    drawnOnce := hdrawnOnce
    past := hpast
    own := hown
    fits := hfree
    distinct := List.nodup_cons.mpr ⟨hnew, h.distinct⟩
    kept := ?_
    held := ?_
    latest := ?_ }
  · rw [List.forall_mem_append, List.forall_mem_singleton]
    refine ⟨?_, fun _ _ _ => ⟨List.mem_cons_self, ?_⟩⟩
    · intro other hother hgranted' hreleased' hyoung
      refine ⟨List.mem_cons_of_mem _ (h.kept other hother hgranted' hreleased' hyoung).1, ?_⟩
      exact Nat.add_le_add_right (h.past other hother) ttlMs
    · rw [hasked]
      exact Nat.le_refl _
  · intro token hfield
    obtain hlast | hfield := List.mem_cons.mp hfield
    · refine ⟨lease, List.mem_append_right _ (List.mem_singleton_self _), hlast.symm, hgranted,
        hreleased, ?_⟩
      intro time hfrom huntil
      exact hself time (hasked ▸ hfrom) huntil
    · obtain ⟨other, hother, hdrawn, hgranted', hreleased', hcovered⟩ := h.held token hfield
      refine ⟨other, List.mem_append_left _ hother, hdrawn, hgranted', hreleased', ?_⟩
      intro time hfrom huntil
      -- up to now the key was alive; from now on the new slot covers the time
      by_cases hnow : gate.now ≤ time
      · exact hself time hnow huntil
      · have hbefore : time ≤ gate.expiry :=
          Nat.le_trans (Nat.le_of_not_le hnow) (hlive (List.ne_nil_of_mem hfield))
        exact (hcovered time hfrom hbefore).append lease
  · intro _
    refine ⟨lease, List.mem_append_right _ (List.mem_singleton_self _), List.mem_cons_self,
      hgranted, hreleased, ?_⟩
    rw [hasked]
    rfl

theorem Accounted.set (h : Accounted ttlMs maxInflight gate)
    (new : Lease) (hlease : gate.leases[index]? = some lease)
    (hdrawn : new.drawn = lease.drawn) (hasked : new.askedAt = lease.askedAt)
    (htoken : new.token = lease.token) :
    ((gate.leases.set index new).map (·.drawn)).Nodup ∧
      (∀ other ∈ gate.leases.set index new, other.askedAt ≤ gate.now) ∧
      ∀ other ∈ gate.leases.set index new, ∀ token, other.token = some token →
        token = other.drawn := by
  have hmem : lease ∈ gate.leases := List.mem_of_getElem? hlease
  refine ⟨?_, ?_, ?_⟩
  · rw [map_set_of_key hlease hdrawn]
    exact h.drawnOnce
  · intro other hother
    obtain rfl | ⟨hold, -⟩ := (mem_set_of_key h.drawnOnce hlease).mp hother
    · rw [hasked]
      exact h.past lease hmem
    · exact h.past other hold
  · intro other hother token hsome
    obtain rfl | ⟨hold, -⟩ := (mem_set_of_key h.drawnOnce hlease).mp hother
    · rw [hdrawn]
      exact h.own lease hmem token (htoken ▸ hsome)
    · exact h.own other hold token hsome

theorem Accounted.grantedWithin_set (h : Accounted ttlMs maxInflight gate) {time : Nat}
    {new : Lease} (hlease : gate.leases[index]? = some lease)
    (hgranted : new.granted = lease.granted) (hasked : new.askedAt = lease.askedAt)
    (hwithin : GrantedWithin ttlMs gate.leases time) :
    GrantedWithin ttlMs (gate.leases.set index new) time := by
  obtain ⟨other, hother, hgranted', hfrom, huntil⟩ := hwithin
  by_cases hdrawn : other.drawn = lease.drawn
  · have hsame : other = lease :=
      List.inj_on_of_nodup_map h.drawnOnce hother (List.mem_of_getElem? hlease) hdrawn
    subst hsame
    refine ⟨new, (mem_set_of_key h.drawnOnce hlease).mpr (.inl rfl), ?_, ?_, ?_⟩
    · rw [hgranted]
      exact hgranted'
    · rw [hasked]
      exact hfrom
    · rw [hasked]
      exact huntil
  · exact ⟨other, (mem_set_of_key h.drawnOnce hlease).mpr (.inr ⟨hother, hdrawn⟩), hgranted', hfrom,
      huntil⟩

theorem Accounted.giveUp (h : Accounted ttlMs maxInflight gate)
    (hlease : gate.leases[index]? = some lease) :
    Accounted ttlMs maxInflight
      { gate with leases := gate.leases.set index { lease with acquired := false } } := by
  obtain ⟨hdrawnOnce, hpast, hown⟩ := h.set { lease with acquired := false } hlease rfl rfl rfl
  have hmem : lease ∈ gate.leases := List.mem_of_getElem? hlease
  -- every lease is there as before, or as the one given up
  have hthere : ∀ other ∈ gate.leases, ∃ other' ∈ gate.leases.set index { lease with
      acquired := false }, other'.drawn = other.drawn ∧ other'.granted = other.granted ∧
      other'.released = other.released ∧ other'.askedAt = other.askedAt := by
    intro other hother
    by_cases hdrawn : other.drawn = lease.drawn
    · have hsame : other = lease := List.inj_on_of_nodup_map h.drawnOnce hother hmem hdrawn
      subst hsame
      exact ⟨_, (mem_set_of_key h.drawnOnce hlease).mpr (.inl rfl), rfl, rfl, rfl, rfl⟩
    · exact ⟨other, (mem_set_of_key h.drawnOnce hlease).mpr (.inr ⟨hother, hdrawn⟩), rfl, rfl, rfl,
        rfl⟩
  refine { h with
    drawnOnce := hdrawnOnce, past := hpast, own := hown, kept := ?_, held := ?_, latest := ?_ }
  · intro other hother
    obtain rfl | ⟨hold, -⟩ := (mem_set_of_key h.drawnOnce hlease).mp hother
    · exact h.kept lease hmem
    · exact h.kept other hold
  · intro token hfield
    obtain ⟨other, hother, hdrawn, hgranted, hreleased, hcovered⟩ := h.held token hfield
    obtain ⟨other', hother', hdrawn', hgranted', hreleased', hasked'⟩ := hthere other hother
    refine ⟨other', hother', hdrawn'.trans hdrawn, hgranted'.trans hgranted,
      hreleased'.trans hreleased, ?_⟩
    intro time hfrom huntil
    exact h.grantedWithin_set hlease rfl rfl (hcovered time (hasked' ▸ hfrom) huntil)
  · intro hfull
    obtain ⟨other, hother, hfield, hgranted, hreleased, hexpiry⟩ := h.latest hfull
    obtain ⟨other', hother', hdrawn', hgranted', hreleased', hasked'⟩ := hthere other hother
    refine ⟨other', hother', hdrawn' ▸ hfield, hgranted'.trans hgranted,
      hreleased'.trans hreleased, ?_⟩
    rw [hasked']
    exact hexpiry

theorem fieldsOf_releaseSlot (key : Option RedisKey) (token : String) :
    fieldsOf (releaseSlot key token).2 = (fieldsOf key).erase token := by
  unfold releaseSlot
  split
  · dsimp only
    split
    · rename_i hempty
      exact (List.length_eq_zero_iff.mp hempty).symm
    · rfl
  · rename_i hnot
    have hnone : fieldsOf key = [] := by
      unfold fieldsOf
      split
      · exact absurd rfl (hnot _ _)
      · rfl
    rw [hnone]
    rfl

theorem expiresAt_releaseSlot (h : (fieldsOf key).erase token ≠ []) :
    (releaseSlot key token).2.map (·.expiresAt) = key.map (·.expiresAt) := by
  unfold releaseSlot
  split
  · dsimp only
    split
    · rename_i hempty
      exact absurd (List.length_eq_zero_iff.mp hempty) h
    · rfl
  · rfl

theorem value_releaseSlot (h : key.map (·.value) ≠ some .other) :
    (releaseSlot key token).2.map (·.value) ≠ some .other := by
  unfold releaseSlot
  split
  · dsimp only
    split
    · exact nofun
    · exact nofun
  · exact h

theorem Accounted.free (h : Accounted ttlMs maxInflight gate)
    (hlease : gate.leases[index]? = some lease) :
    Accounted ttlMs maxInflight { gate with
      key := (releaseSlot gate.key lease.drawn).2
      leases := gate.leases.set index { lease with acquired := false, released := true } } := by
  obtain ⟨hdrawnOnce, hpast, hown⟩ :=
    h.set { lease with acquired := false, released := true } hlease rfl rfl rfl
  have hfields : fieldsOf (releaseSlot gate.key lease.drawn).2 = gate.fields.erase lease.drawn :=
    fieldsOf_releaseSlot gate.key lease.drawn
  have hexpiry : ∀ token ∈ gate.fields.erase lease.drawn,
      ((releaseSlot gate.key lease.drawn).2.map (·.expiresAt)).getD 0 = gate.expiry := by
    intro token hfield
    rw [expiresAt_releaseSlot (List.ne_nil_of_mem hfield)]
    rfl
  have hother : ∀ other ∈ gate.leases, other.drawn ≠ lease.drawn →
      other ∈ gate.leases.set index { lease with acquired := false, released := true } :=
    fun other hother hne => (mem_set_of_key h.drawnOnce hlease).mpr (.inr ⟨hother, hne⟩)
  refine {
    hash := value_releaseSlot h.hash
    drawnOnce := hdrawnOnce
    past := hpast
    own := hown
    fits := ?_
    distinct := ?_
    kept := ?_
    held := ?_
    latest := ?_ }
  · change (fieldsOf _).length ≤ _
    rw [hfields]
    exact Nat.le_trans List.length_erase_le h.fits
  · change (fieldsOf _).Nodup
    rw [hfields]
    exact h.distinct.erase _
  · intro other hmem hgranted hreleased hyoung
    obtain rfl | ⟨hold, hne⟩ := (mem_set_of_key h.drawnOnce hlease).mp hmem
    · cases hreleased
    · obtain ⟨hfield, hbound⟩ := h.kept other hold hgranted hreleased hyoung
      have hleft : other.drawn ∈ gate.fields.erase lease.drawn :=
        (List.mem_erase_of_ne hne).mpr hfield
      refine ⟨?_, ?_⟩
      · change other.drawn ∈ fieldsOf _
        rw [hfields]
        exact hleft
      · change _ ≤ (Option.map _ _).getD 0
        rw [hexpiry _ hleft]
        exact hbound
  · intro token hfield
    change token ∈ fieldsOf _ at hfield
    rw [hfields] at hfield
    obtain ⟨hne, hfield'⟩ := (List.Nodup.mem_erase_iff h.distinct).mp hfield
    obtain ⟨other, hold, hdrawn, hgranted, hreleased, hcovered⟩ := h.held token hfield'
    refine ⟨other, hother other hold (hdrawn ▸ hne), hdrawn, hgranted, hreleased, ?_⟩
    intro time hfrom huntil
    change time ≤ (Option.map _ _).getD 0 at huntil
    rw [hexpiry _ hfield] at huntil
    exact h.grantedWithin_set hlease rfl rfl (hcovered time hfrom huntil)
  · intro hfull
    change _ ≤ (fieldsOf _).length at hfull
    rw [hfields] at hfull
    -- all slots are still taken, so the lease had none
    have habsent : lease.drawn ∉ gate.fields := by
      intro hfield
      have hlength := List.length_erase_of_mem hfield
      have hpositive := List.length_pos_of_mem hfield
      have hfits := h.fits
      omega
    rw [List.erase_of_not_mem habsent] at hfull hfields
    obtain ⟨other, hold, hfield, hgranted, hreleased, hlast⟩ := h.latest hfull
    refine ⟨other, hother other hold ?_, ?_, hgranted, hreleased, ?_⟩
    · intro hsame
      exact habsent (hsame ▸ hfield)
    · change other.drawn ∈ fieldsOf _
      rw [hfields]
      exact hfield
    · rw [List.erase_of_not_mem habsent] at hexpiry
      exact (hexpiry _ hfield).trans hlast

theorem acquireSlot_cases (now : Nat) (key : Option RedisKey) (token : String)
    (ttlMs maxInflight : Nat) :
    (acquireSlot now key token ttlMs maxInflight = (false, key) ∧
      (key.map (·.value) = some .other ∨ maxInflight ≤ (fieldsOf key).length)) ∨
    (acquireSlot now key token ttlMs maxInflight =
      (true, some ⟨.hash ((fieldsOf key).insert token), now + ttlMs⟩) ∧
      (fieldsOf key).length < maxInflight) := by
  unfold acquireSlot
  by_cases hother : key.map (·.value) = some .other
  · rw [if_pos hother]
    exact .inl ⟨rfl, .inl hother⟩
  · rw [if_neg hother]
    by_cases hfull : maxInflight ≤ (fieldsOf key).length
    · rw [if_pos hfull]
      exact .inl ⟨rfl, .inr hfull⟩
    · rw [if_neg hfull]
      exact .inr ⟨rfl, Nat.not_le.mp hfull⟩

theorem le_expiry_of_visible (h : fieldsOf (visibleKey now key) ≠ []) :
    now ≤ ((visibleKey now key).map (·.expiresAt)).getD 0 := by
  cases key with
  | none => exact absurd rfl h
  | some key =>
    by_cases hlive : now ≤ key.expiresAt
    · rw [visibleKey_of_le hlive]
      exact hlive
    · rw [visibleKey_of_lt (Nat.not_le.mp hlive)] at h
      exact absurd rfl h

theorem Accounted.tryAcquire (h : Accounted ttlMs maxInflight gate) (hlimit : 0 < maxInflight)
    (hfresh : token ∉ gate.leases.map (·.drawn)) (delivery : Delivery) :
    Accounted ttlMs maxInflight (gate.tryAcquire ttlMs maxInflight token delivery).2 := by
  unfold Gate.tryAcquire
  have hvisible := h.expire hlimit
  obtain ⟨hslot, -⟩ | ⟨hslot, hfree⟩ := acquireSlot_cases gate.now (visibleKey gate.now gate.key)
    token ttlMs maxInflight
  · rw [hslot]
    cases delivery with
    | unreachable => exact h.addLease hfresh rfl rfl rfl
    | answered => exact hvisible.addLease hfresh rfl rfl rfl
    | answerLost => exact hvisible.addLease hfresh rfl rfl rfl
  · rw [hslot]
    cases delivery with
    | unreachable => exact h.addLease hfresh rfl rfl rfl
    | answered =>
      exact hvisible.grant ⟨some token, true, token, true, gate.now, false⟩ hfresh rfl rfl rfl
        (fun _ hsome => (Option.some.inj hsome).symm) hfree le_expiry_of_visible
    | answerLost =>
      exact hvisible.grant ⟨none, true, token, true, gate.now, false⟩ hfresh rfl rfl rfl nofun hfree
        le_expiry_of_visible

/-- Releasing does nothing, or the lease is given up, with its slot where Redis was reached. -/
theorem release_cases (gate : Gate) (index : Nat) (delivery : Delivery) :
    gate.release index delivery = gate ∨ ∃ lease token, gate.leases[index]? = some lease ∧
      lease.token = some token ∧
      (gate.release index delivery =
        { gate with leases := gate.leases.set index { lease with acquired := false } } ∨
      gate.release index delivery = { gate with
        key := (releaseSlot (visibleKey gate.now gate.key) token).2
        leases := gate.leases.set index { lease with acquired := false, released := true } }) := by
  unfold release
  cases hlease : gate.leases[index]? with
  | none => exact .inl rfl
  | some lease =>
    dsimp only
    split
    · rename_i token hacquired htoken
      by_cases hdelivery : delivery = .unreachable
      · rw [if_pos hdelivery]
        exact .inr ⟨lease, token, rfl, htoken, .inl rfl⟩
      · rw [if_neg hdelivery]
        exact .inr ⟨lease, token, rfl, htoken, .inr rfl⟩
    · exact .inl rfl

theorem Accounted.release (h : Accounted ttlMs maxInflight gate) (hlimit : 0 < maxInflight)
    (index : Nat) (delivery : Delivery) :
    Accounted ttlMs maxInflight (gate.release index delivery) := by
  obtain hsame | ⟨lease, token, hlease, htoken, hgiven | hfreed⟩ :=
    release_cases gate index delivery
  · rw [hsame]
    exact h
  · rw [hgiven]
    exact h.giveUp hlease
  · have hown := h.own lease (List.mem_of_getElem? hlease) token htoken
    rw [hfreed, hown]
    exact (h.expire hlimit).free hlease

end Accounted

theorem gateMaxInflight_pos (rawLimit : Int) : 0 < gateMaxInflight rawLimit :=
  Nat.lt_of_lt_of_le Nat.zero_lt_one (Nat.le_max_left _ _)

section Runs

variable {rawTtlMs rawLimit : Int} {gate : Gate}

theorem Accounted.step (h : Accounted (gateTtlMs rawTtlMs) (gateMaxInflight rawLimit) gate)
    (command : GateCommand)
    (hfresh : gate.DrawsFresh command (gate.step rawTtlMs rawLimit command)) :
    Accounted (gateTtlMs rawTtlMs) (gateMaxInflight rawLimit)
      (gate.step rawTtlMs rawLimit command) := by
  cases command with
  | acquire token delivery => exact h.tryAcquire (gateMaxInflight_pos rawLimit) hfresh delivery
  | release index delivery => exact h.release (gateMaxInflight_pos rawLimit) index delivery
  | tick ms => exact h.tick ms

theorem accounted_run {commands : List GateCommand}
    (hfresh : EachStep (step rawTtlMs rawLimit) DrawsFresh {} commands) :
    Accounted (gateTtlMs rawTtlMs) (gateMaxInflight rawLimit)
      (run (step rawTtlMs rawLimit) {} commands) :=
  run_invariant (fun _ command h => h.step command) commands _
    (accounted_empty (gateMaxInflight_pos rawLimit)) hfresh

/-- The leases granted and not released that are younger than the time to live. -/
def youngLeases (ttlMs : Nat) (gate : Gate) : List Lease :=
  gate.leases.filter fun lease =>
    lease.granted && !lease.released && gate.now < lease.askedAt + ttlMs

/-- A released lease leaves every other lease the slot it has. -/
def ReleasesOwn (gate : Gate) : GateCommand → Gate → Prop
  | .release index _, gate' => ∀ other lease, other ≠ index → gate.leases[other]? = some lease →
      lease.drawn ∈ gate.slots → lease.drawn ∈ gate'.slots
  | _, _ => True

theorem length_youngLeases_le {ttlMs maxInflight : Nat} (h : Accounted ttlMs maxInflight gate) :
    (gate.youngLeases ttlMs).length ≤ maxInflight := by
  have hnodup : ((gate.youngLeases ttlMs).map (·.drawn)).Nodup :=
    h.drawnOnce.sublist (List.filter_sublist.map _)
  have hsubset : (gate.youngLeases ttlMs).map (·.drawn) ⊆ gate.fields := by
    intro token htoken
    obtain ⟨lease, hlease, rfl⟩ := List.mem_map.mp htoken
    obtain ⟨hmem, hyoung⟩ := List.mem_filter.mp hlease
    simp only [Bool.and_eq_true, Bool.not_eq_true', decide_eq_true_eq] at hyoung
    exact (h.kept lease hmem hyoung.1.1 hyoung.1.2 (Nat.le_of_lt hyoung.2)).1
  calc (gate.youngLeases ttlMs).length = ((gate.youngLeases ttlMs).map (·.drawn)).length :=
        (List.length_map _).symm
    _ ≤ gate.fields.length := (List.subperm_of_subset hnodup hsubset).length_le
    _ ≤ maxInflight := h.fits

theorem fieldsOf_visibleKey_releaseSlot (now : Nat) (key : Option RedisKey) (token : String) :
    fieldsOf (visibleKey now (releaseSlot (visibleKey now key) token).2) =
      (fieldsOf (visibleKey now key)).erase token := by
  have hfields := fieldsOf_releaseSlot (visibleKey now key) token
  by_cases hempty : (fieldsOf (visibleKey now key)).erase token = []
  · rw [hempty] at hfields ⊢
    cases hreleased : (releaseSlot (visibleKey now key) token).2 with
    | none => rfl
    | some rest =>
      rw [hreleased] at hfields
      by_cases hlive : now ≤ rest.expiresAt
      · rw [visibleKey_of_le hlive]
        exact hfields
      · rw [visibleKey_of_lt (Nat.not_le.mp hlive)]
        rfl
  · have hexpiry := expiresAt_releaseSlot hempty
    have hbefore : fieldsOf (visibleKey now key) ≠ [] := by
      intro hnone
      rw [hnone] at hempty
      exact hempty rfl
    have hlive := le_expiry_of_visible hbefore
    rw [← hexpiry] at hlive
    cases hreleased : (releaseSlot (visibleKey now key) token).2 with
    | none =>
      rw [hreleased] at hfields
      exact absurd hfields.symm hempty
    | some rest =>
      rw [hreleased] at hlive hfields
      rw [visibleKey_of_le hlive]
      exact hfields

theorem releasesOwn_step {ttlMs maxInflight : Nat} (h : Accounted ttlMs maxInflight gate)
    (command : GateCommand) :
    ReleasesOwn gate command (gate.step rawTtlMs rawLimit command) := by
  cases command with
  | acquire token delivery => trivial
  | tick ms => trivial
  | release index delivery =>
    intro other lease hne hlease hslot
    change lease.drawn ∈ (gate.release index delivery).slots
    obtain hsame | ⟨given, token, hgiven, htoken, hgave | hfreed⟩ :=
      release_cases gate index delivery
    · rw [hsame]
      exact hslot
    · rw [hgave]
      exact hslot
    · rw [hfreed]
      change lease.drawn ∈ fieldsOf (visibleKey gate.now _)
      rw [fieldsOf_visibleKey_releaseSlot]
      refine (List.mem_erase_of_ne ?_).mpr hslot
      rw [h.own given (List.mem_of_getElem? hgiven) token htoken]
      -- leases at different positions have drawn different tokens
      intro hdrawn
      have hpositions : (gate.leases.map (·.drawn))[other]? = (gate.leases.map (·.drawn))[index]? := by
        rw [List.getElem?_map, List.getElem?_map, hlease, hgiven]
        exact congrArg some hdrawn
      have hbound : other < (gate.leases.map (·.drawn)).length := by
        rw [List.length_map]
        exact (List.getElem?_eq_some_iff.mp hlease).1
      exact hne ((List.getElem?_inj hbound h.drawnOnce).mp hpositions)

/-- Whatever the calls, the failures of Redis and the time between them, the granted leases that
were not released and are younger than the time to live are never more than the limit, and a
released lease frees no other's slot. -/
theorem contention_gate_bounded (rawTtlMs rawLimit : Int) (commands : List GateCommand)
    (hfresh : EachStep (step rawTtlMs rawLimit) DrawsFresh {} commands) :
    ((run (step rawTtlMs rawLimit) {} commands).youngLeases (gateTtlMs rawTtlMs)).length ≤
        gateMaxInflight rawLimit ∧
      EachStep (step rawTtlMs rawLimit) ReleasesOwn {} commands := by
  refine ⟨length_youngLeases_le (accounted_run hfresh), ?_⟩
  exact eachStep_of_invariant (fun _ command h => h.step command)
    (fun _ command h _ => releasesOwn_step h command) commands _
    (accounted_empty (gateMaxInflight_pos rawLimit)) hfresh

def lateReleaseRun : List GateCommand :=
  [.acquire "1" .answered, .tick 300, .acquire "2" .answered, .acquire "3" .answered,
    .release 0 .answered, .acquire "4" .answered]

theorem late_release_bounded :
    ((run (step 250 2) {} lateReleaseRun).youngLeases 250).length ≤ 2 ∧
      EachStep (step 250 2) ReleasesOwn {} lateReleaseRun :=
  contention_gate_bounded 250 2 lateReleaseRun (by decide)

/-- The calls that acquire a slot are refused only in the states that meet the condition. -/
def RefusedOnlyIf (rawTtlMs rawLimit : Int) (condition : Gate → Prop) (gate : Gate) :
    GateCommand → Gate → Prop
  | .acquire token delivery, _ =>
    (gate.tryAcquire (gateTtlMs rawTtlMs) (gateMaxInflight rawLimit) token delivery).1.acquired =
      false → condition gate
  | _, _ => True

/-- The leases granted within the last time to live and not released. -/
def recentLeases (ttlMs : Nat) (gate : Gate) : List Lease :=
  gate.leases.filter fun lease =>
    lease.granted && !lease.released && gate.now ≤ lease.askedAt + ttlMs

/-- As many leases as the limit are granted and not released, the latest within the last time to
live, and since any of them was granted the time to live has never passed without a grant. -/
def KeptFull (ttlMs maxInflight : Nat) (gate : Gate) : Prop :=
  ∃ held : List Lease, held.Sublist gate.leases ∧ maxInflight ≤ held.length ∧
    (∀ lease ∈ held, lease.granted = true ∧ lease.released = false ∧
      ∀ time, lease.askedAt ≤ time → time ≤ gate.now → GrantedWithin ttlMs gate.leases time) ∧
    ∃ lease ∈ held, gate.now ≤ lease.askedAt + ttlMs

theorem keptFull_of_slots {ttlMs maxInflight : Nat} (h : Accounted ttlMs maxInflight gate)
    (hlimit : 0 < maxInflight) (hfull : maxInflight ≤ gate.slots.length) :
    KeptFull ttlMs maxInflight gate := by
  have hvisible := h.expire hlimit
  have hlive : gate.now ≤ ((visibleKey gate.now gate.key).map (·.expiresAt)).getD 0 :=
    le_expiry_of_visible (List.ne_nil_of_length_pos (Nat.lt_of_lt_of_le hlimit hfull))
  refine ⟨gate.leases.filter fun lease => lease.drawn ∈ gate.slots, List.filter_sublist, ?_, ?_, ?_⟩
  · have hsubset : gate.slots ⊆
        (gate.leases.filter fun lease => lease.drawn ∈ gate.slots).map (·.drawn) := by
      intro token hslot
      obtain ⟨lease, hlease, hdrawn, -⟩ := hvisible.held token hslot
      refine List.mem_map.mpr ⟨lease, List.mem_filter.mpr ⟨hlease, ?_⟩, hdrawn⟩
      rw [hdrawn]
      exact decide_eq_true hslot
    have hlength := (List.subperm_of_subset hvisible.distinct hsubset).length_le
    rw [List.length_map] at hlength
    exact Nat.le_trans hfull hlength
  · intro lease hlease
    obtain ⟨hmem, hslot⟩ := List.mem_filter.mp hlease
    obtain ⟨holder, hholder, hdrawn, hgranted, hreleased, hcovered⟩ :=
      hvisible.held lease.drawn (of_decide_eq_true hslot)
    have hsame : holder = lease := List.inj_on_of_nodup_map h.drawnOnce hholder hmem hdrawn
    subst hsame
    exact ⟨hgranted, hreleased, fun time hfrom huntil =>
      hcovered time hfrom (Nat.le_trans huntil hlive)⟩
  · obtain ⟨lease, hlease, hslot, -, -, hexpiry⟩ := hvisible.latest hfull
    refine ⟨lease, List.mem_filter.mpr ⟨hlease, decide_eq_true hslot⟩, ?_⟩
    rw [← hexpiry]
    exact hlive

theorem refusedOnlyIf_keptFull
    (h : Accounted (gateTtlMs rawTtlMs) (gateMaxInflight rawLimit) gate) (command : GateCommand) :
    RefusedOnlyIf rawTtlMs rawLimit (KeptFull (gateTtlMs rawTtlMs) (gateMaxInflight rawLimit)) gate
      command (gate.step rawTtlMs rawLimit command) := by
  have hlimit := gateMaxInflight_pos rawLimit
  cases command with
  | release index delivery => trivial
  | tick ms => trivial
  | acquire token delivery =>
    intro hrefused
    unfold tryAcquire at hrefused
    obtain ⟨-, hother | hfull⟩ | ⟨hslot, -⟩ := acquireSlot_cases gate.now
      (visibleKey gate.now gate.key) token (gateTtlMs rawTtlMs) (gateMaxInflight rawLimit)
    · exact absurd hother (h.expire hlimit).hash
    · exact keptFull_of_slots h hlimit hfull
    · rw [hslot] at hrefused
      cases delivery <;> cases hrefused

/-- An acquire is refused only while as many leases as the limit are granted and not released, the
latest within the last time to live, and each kept by grants that followed without a pause of the
time to live. -/
theorem contention_gate_refusal (rawTtlMs rawLimit : Int) (commands : List GateCommand)
    (hfresh : EachStep (step rawTtlMs rawLimit) DrawsFresh {} commands) :
    EachStep (step rawTtlMs rawLimit) (RefusedOnlyIf rawTtlMs rawLimit
      (KeptFull (gateTtlMs rawTtlMs) (gateMaxInflight rawLimit))) {} commands :=
  eachStep_of_invariant (fun _ command h => h.step command)
    (fun _ command h _ => refusedOnlyIf_keptFull h command) commands _
    (accounted_empty (gateMaxInflight_pos rawLimit)) hfresh

/-- The first holder crashed; the second slot is taken twice, each time before the key expires. -/
def crashedHolderRun : List GateCommand :=
  [.acquire "1" .answered, .tick 200, .acquire "2" .answered, .release 1 .answered, .tick 200,
    .acquire "3" .answered, .acquire "4" .answered]

theorem crashed_holder_refusal :
    EachStep (step 250 2) (RefusedOnlyIf 250 2 (KeptFull 250 2)) {} crashedHolderRun :=
  contention_gate_refusal 250 2 crashedHolderRun (by decide)

/-- The crashed holder's slot is taken 400 ms after its grant: the last call is refused with one
lease granted in the last 250 ms. -/
theorem crashed_holder_keeps_slot :
    EachStep (step 250 2) DrawsFresh {} crashedHolderRun ∧
      ¬ EachStep (step 250 2) (RefusedOnlyIf 250 2 fun gate =>
        2 ≤ (gate.recentLeases 250).length) {} crashedHolderRun := by
  refine ⟨by decide, ?_⟩
  intro h
  exact absurd (h.2.2.2.2.2.2.1 (by decide)) (by decide)

end Runs

end Gate

end TradingBot.Trades
