import Mathlib.Data.List.Nodup

/-!
# The selection of due requests

`select_due_otp_requests` (otp_delivery_state_service.py:514) pages through the sorted set of due
fallbacks and removes the entries it cannot use. The page offset counts the entries it keeps, so
what it removes must be what it read.
-/

namespace TradingBot.OtpDelivery.DueSelection

/-- The reader's result besides the status: an error of `OTP_DELIVERY_STATE_DECODE_ERRORS`, a state
whose mobile cannot be opened, or a deliverable one. -/
inductive Reading where
  | undecodable | targetless | deliverable
  deriving DecidableEq

structure StateHash where
  status : Option String
  reading : Reading
  terminalReason : Option String := none

/-- `UUID(text)` and `str(uuid)`. -/
structure UuidText (ι : Type) where
  parse : String → Option ι
  str : ι → String

variable {ι : Type} [DecidableEq ι]

/-- The sorted set of the fallbacks in its order, and the state hashes. Members that are no UTF-8,
on which the decoding raises, are left out. -/
structure Redis (ι : Type) where
  fallbackDue : List (String × Int)
  hashes : ι → Option StateHash

namespace Redis

/-- The members with a score of at most `now`, in score order. -/
def due (redis : Redis ι) (now : Int) : List String :=
  (redis.fallbackDue.filter fun entry => entry.2 ≤ now).map Prod.fst

def zrem (redis : Redis ι) (raw : String) : Redis ι :=
  { redis with fallbackDue := redis.fallbackDue.filter fun entry => entry.1 ≠ raw }

def status (redis : Redis ι) (requestId : ι) : Option String :=
  (redis.hashes requestId).bind StateHash.status

end Redis

/-- The hash part of `_ISOLATE_FALLBACK_STATE_SCRIPT`: only a pending state expires. -/
def Redis.expire (redis : Redis ι) (requestId : ι) (reason : String) : Redis ι :=
  { redis with hashes := fun id =>
      if id = requestId ∧ redis.status requestId = some "pending" then
        (redis.hashes id).map fun hash => ⟨some "expired", hash.reading, some reason⟩
      else redis.hashes id }

/-- `isolate_invalid_otp_fallback_state` (otp_delivery_state_service.py:488) for a safe reason: it
removes the text of the request id. -/
def isolateInvalidOtpFallbackState (uuid : UuidText ι) (redis : Redis ι) (requestId : ι)
    (reason : String) : Redis ι :=
  (redis.expire requestId reason).zrem (uuid.str requestId)

def readEntry (uuid : UuidText ι) (redis : Redis ι) (raw : String) : Except String ι × Redis ι :=
  match uuid.parse raw with
  | none => (.error "malformed_request_id", redis.zrem raw)
  | some requestId =>
    if redis.status requestId ≠ some "pending" then
      (.error "missing_or_terminal", redis.zrem raw)
    else match redis.hashes requestId with
    | none => (.error "missing_or_terminal", redis.zrem raw)
    | some hash =>
      match hash.reading with
      | .undecodable => (.error "invalid_contract",
          isolateInvalidOtpFallbackState uuid redis requestId "invalid_contract")
      | .targetless => (.error "invalid_delivery_target",
          isolateInvalidOtpFallbackState uuid redis requestId "invalid_delivery_target")
      | .deliverable => (.ok requestId, redis)

/-- The variables of the loop; `isolated` lists the counted reasons. -/
structure Scan (ι : Type) where
  redis : Redis ι
  requestIds : List ι := []
  isolated : List String := []
  retainedOffset : Nat := 0
  scanned : Nat := 0

def readPage (uuid : UuidText ι) (wanted : Nat) : List String → Scan ι → Scan ι
  | [], s => s
  | raw :: rest, s =>
    match readEntry uuid s.redis raw with
    | (.error reason, redis) =>
      readPage uuid wanted rest { s with redis, isolated := s.isolated ++ [reason] }
    | (.ok requestId, redis) =>
      let s' := { s with redis, requestIds := s.requestIds ++ [requestId] }
      if wanted ≤ s'.requestIds.length then s' else readPage uuid wanted rest s'

/-- The loop over the pages; `fuel` bounds the number of its rounds. -/
def selectLoop (uuid : UuidText ι) (now : Int) (wanted scanBudget : Nat) :
    Nat → Scan ι → Option (Scan ι)
  | 0, _ => none
  | fuel + 1, s =>
    if s.requestIds.length < wanted ∧ s.scanned < scanBudget then
      let chunkSize := min (max wanted 50) (scanBudget - s.scanned)
      let rawIds := ((s.redis.due now).drop s.retainedOffset).take chunkSize
      if rawIds = [] then some s
      else
        let read := readPage uuid wanted rawIds s
        let s' := { read with
          scanned := s.scanned + rawIds.length
          retainedOffset := s.retainedOffset + (read.requestIds.length - s.requestIds.length) }
        if rawIds.length < chunkSize then some s' else selectLoop uuid now wanted scanBudget fuel s'
    else some s

def wantedOf (limit : Int) : Nat := (max 1 limit).toNat

def scanBudgetOf (limit : Int) : Nat := max 500 (wantedOf limit * 5)

/-- `select_due_otp_requests`: every round but the last reads an entry, so one more than the budget
is never needed. -/
def selectDueOtpRequests (uuid : UuidText ι) (redis : Redis ι) (now limit : Int) :
    Option (Scan ι) :=
  selectLoop uuid now (wantedOf limit) (scanBudgetOf limit) (scanBudgetOf limit + 1)
    { redis := redis }

def validId (uuid : UuidText ι) (redis : Redis ι) (raw : String) : Option ι :=
  (uuid.parse raw).filter fun requestId => redis.status requestId = some "pending" ∧
    (redis.hashes requestId).map StateHash.reading = some .deliverable

def Corrupt (uuid : UuidText ι) (redis : Redis ι) (raw : String) (requestId : ι) : Prop :=
  uuid.parse raw = some requestId ∧ redis.status requestId = some "pending" ∧
    (redis.hashes requestId).map StateHash.reading ≠ some .deliverable

def needed (uuid : UuidText ι) (redis : Redis ι) : Nat → List String → List String
  | 0, _ => []
  | _, [] => []
  | wanted + 1, raw :: rest =>
    if (validId uuid redis raw).isSome then raw :: needed uuid redis wanted rest
    else raw :: needed uuid redis (wanted + 1) rest

/-- The first wanted requests are returned in order, each once, and up to the last of them exactly
the invalid entries are removed. -/
structure Selects (uuid : UuidText ι) (redis : Redis ι) (now : Int) (wanted : Nat)
    (result : Scan ι) : Prop where
  requestIds : result.requestIds = ((redis.due now).filterMap (validId uuid redis)).take wanted
  once : result.requestIds.Nodup
  removed : result.redis.due now =
    ((needed uuid redis wanted (redis.due now)).filter fun raw =>
      (validId uuid redis raw).isSome) ++
        (redis.due now).drop (needed uuid redis wanted (redis.due now)).length

/-- The first entry of a request with a corrupt state is written as `str` writes the id; the others
find it expired. -/
def FirstCanonical (uuid : UuidText ι) (redis : Redis ι) (entries : List String) : Prop :=
  ∀ raw requestId, Corrupt uuid redis raw requestId →
    entries.find? (fun entry => uuid.parse entry = some requestId) = some raw →
      raw = uuid.str requestId

/-- Up to the last wanted request, the first entry of each corrupt request is written as its id, and
no two valid ones name one request. -/
structure Canonical (uuid : UuidText ι) (redis : Redis ι) (now : Int) (wanted : Nat) : Prop where
  corrupt : FirstCanonical uuid redis (needed uuid redis wanted (redis.due now))
  distinct : ((needed uuid redis wanted (redis.due now)).filterMap (validId uuid redis)).Nodup

/-! ## One entry -/

section Entry

variable {uuid : UuidText ι} {start redis : Redis ι} {now : Int} {raw : String} {requestId : ι}

omit [DecidableEq ι] in
theorem due_zrem (redis : Redis ι) (now : Int) (raw : String) :
    (redis.zrem raw).due now = (redis.due now).filter fun member => member ≠ raw := by
  simp only [Redis.due, Redis.zrem, List.filter_map, List.filter_filter]
  congr 1
  apply List.filter_congr
  intro entry _
  simp [Bool.and_comm]

/-- The states are those of the start, but for undeliverable ones no longer pending. -/
def Follows (start redis : Redis ι) : Prop := ∀ id, redis.hashes id = start.hashes id ∨
  redis.status id ≠ some "pending" ∧ start.status id = some "pending" ∧
    (start.hashes id).map StateHash.reading ≠ some .deliverable

omit [DecidableEq ι] in
theorem Follows.validId_eq (h : Follows start redis) (raw : String) :
    validId uuid redis raw = validId uuid start raw := by
  unfold validId
  cases uuid.parse raw with
  | none => rfl
  | some id =>
    rcases h id with hsame | ⟨hdone, _, hreading⟩
    · simp [Option.filter, Redis.status, hsame]
    · simp [Option.filter, hdone, hreading]

omit [DecidableEq ι] in
theorem Follows.corrupt (h : Follows start redis) (hcorrupt : Corrupt uuid redis raw requestId) :
    Corrupt uuid start raw requestId := by
  obtain ⟨hparse, hpending, hreading⟩ := hcorrupt
  rcases h requestId with hsame | ⟨hdone, _⟩
  · exact ⟨hparse, by rwa [Redis.status, ← hsame], by rwa [← hsame]⟩
  · exact absurd hpending hdone

omit [DecidableEq ι] in
theorem Follows.refl (redis : Redis ι) : Follows redis redis := fun _ => .inl rfl

omit [DecidableEq ι] in
theorem Follows.trans {redis' : Redis ι} (h : Follows start redis) (h' : Follows redis redis') :
    Follows start redis' := by
  intro id
  rcases h' id with hsame' | ⟨hdone', hpending', hreading'⟩
  · rw [Redis.status, hsame']
    exact h id
  · rcases h id with hsame | ⟨hdone, _⟩
    · rw [Redis.status, hsame] at hpending'
      rw [hsame] at hreading'
      exact .inr ⟨hdone', hpending', hreading'⟩
    · exact absurd hpending' hdone

theorem status_expire (hpending : redis.status requestId = some "pending") (reason : String) :
    (redis.expire requestId reason).status requestId ≠ some "pending" := by
  simp only [Redis.expire, Redis.status] at hpending ⊢
  simp only [hpending, and_self, if_true]
  cases redis.hashes requestId <;> simp

theorem follows_expire (hpending : redis.status requestId = some "pending")
    (hreading : (redis.hashes requestId).map StateHash.reading ≠ some .deliverable)
    (reason : String) : Follows redis (redis.expire requestId reason) := by
  intro id
  by_cases hid : id = requestId
  · subst hid
    exact .inr ⟨status_expire hpending reason, hpending, hreading⟩
  · left
    simp [Redis.expire, hid]

theorem readEntry_valid (h : Follows start redis)
    (hvalid : validId uuid start raw = some requestId) :
    readEntry uuid redis raw = (.ok requestId, redis) := by
  rw [← h.validId_eq, validId, Option.filter_eq_some_iff] at hvalid
  obtain ⟨hparse, hid⟩ := hvalid
  obtain ⟨hpending, hreading⟩ := of_decide_eq_true hid
  obtain ⟨hash, hhash, hdeliverable⟩ := Option.map_eq_some_iff.mp hreading
  simp [readEntry, hparse, hpending, hhash, hdeliverable]

/-- An entry that cannot be used is removed, and no state that it names is corrupt any more. -/
theorem readEntry_invalid (h : Follows start redis) (hinvalid : validId uuid start raw = none)
    (hcanonical : ∀ id, Corrupt uuid redis raw id → raw = uuid.str id) :
    ∃ reason redis', readEntry uuid redis raw = (.error reason, redis') ∧
      redis'.due now = ((redis.due now).filter fun member => member ≠ raw) ∧
      Follows redis redis' ∧ ∀ id, ¬ Corrupt uuid redis' raw id := by
  rw [← h.validId_eq, validId, Option.filter_eq_none_iff] at hinvalid
  unfold readEntry
  cases hparse : uuid.parse raw with
  | none =>
    refine ⟨_, _, rfl, due_zrem redis now raw, Follows.refl redis, fun id hcorrupt => ?_⟩
    cases hparse.symm.trans hcorrupt.1
  | some id =>
    dsimp only
    have hnamed : ∀ redis' : Redis ι, redis'.status id ≠ some "pending" →
        ∀ other, ¬ Corrupt uuid redis' raw other := by
      rintro redis' hdone other ⟨hother, hpending, -⟩
      cases hparse.symm.trans hother
      exact hdone hpending
    by_cases hpending : redis.status id = some "pending"
    · rw [if_neg (not_not.mpr hpending)]
      have hreading : (redis.hashes id).map StateHash.reading ≠ some .deliverable := by
        intro hdeliverable
        exact hinvalid id hparse (decide_eq_true ⟨hpending, hdeliverable⟩)
      have hcorrupt : Corrupt uuid redis raw id := ⟨hparse, hpending, hreading⟩
      have hisolated : ∀ reason,
          (isolateInvalidOtpFallbackState uuid redis id reason).due now =
            ((redis.due now).filter fun member => member ≠ raw) ∧
          Follows redis (isolateInvalidOtpFallbackState uuid redis id reason) ∧
          ∀ other, ¬ Corrupt uuid (isolateInvalidOtpFallbackState uuid redis id reason) raw other := by
        intro reason
        refine ⟨?_, follows_expire hpending hreading reason,
          hnamed _ (status_expire hpending reason)⟩
        rw [isolateInvalidOtpFallbackState, due_zrem, ← hcanonical id hcorrupt]
        rfl
      cases hhash : redis.hashes id with
      | none =>
        rw [Redis.status, hhash] at hpending
        cases hpending
      | some hash =>
        dsimp only
        cases hread : hash.reading with
        | undecodable => exact ⟨_, _, rfl, hisolated _⟩
        | targetless => exact ⟨_, _, rfl, hisolated _⟩
        | deliverable => exact absurd (by rw [hhash, Option.map_some, hread]) hreading
    · rw [if_pos hpending]
      exact ⟨_, _, rfl, due_zrem redis now raw, Follows.refl redis, hnamed redis hpending⟩

omit [DecidableEq ι] in
theorem not_corrupt_of_valid (h : Follows start redis) (hvalid : (validId uuid start raw).isSome) :
    ∀ id, ¬ Corrupt uuid redis raw id := by
  rintro id ⟨hparse, -, hreading⟩
  obtain ⟨requestId, hfound⟩ := Option.isSome_iff_exists.mp hvalid
  rw [← h.validId_eq, validId, Option.filter_eq_some_iff] at hfound
  cases hparse.symm.trans hfound.1
  exact hreading (of_decide_eq_true hfound.2).2

end Entry

section First

variable {uuid : UuidText ι} {redis redis' : Redis ι} {entries rest : List String}

theorem FirstCanonical.left (h : FirstCanonical uuid redis (entries ++ rest)) :
    FirstCanonical uuid redis entries := by
  intro raw id hcorrupt hfirst
  refine h raw id hcorrupt ?_
  rw [List.find?_append, hfirst, Option.some_or]

/-- What is asked of all entries holds of the rest, once no state named before it is corrupt. -/
theorem FirstCanonical.right (h : FirstCanonical uuid redis (entries ++ rest))
    (hfollows : Follows redis redis')
    (hsettled : ∀ raw ∈ entries, ∀ id, ¬ Corrupt uuid redis' raw id) :
    FirstCanonical uuid redis' rest := by
  intro raw id hcorrupt hfirst
  refine h raw id (hfollows.corrupt hcorrupt) ?_
  have hnone : entries.find? (fun entry => uuid.parse entry = some id) = none := by
    refine List.find?_eq_none.mpr fun entry hentry hparse => ?_
    exact hsettled entry hentry id ⟨of_decide_eq_true hparse, hcorrupt.2⟩
  rw [List.find?_append, hnone, Option.none_or]
  exact hfirst

theorem FirstCanonical.tail {raw : String} (h : FirstCanonical uuid redis (raw :: rest))
    (hfollows : Follows redis redis') (hsettled : ∀ id, ¬ Corrupt uuid redis' raw id) :
    FirstCanonical uuid redis' rest := by
  rw [← List.singleton_append] at h
  refine h.right hfollows fun entry hentry => ?_
  rw [List.mem_singleton.mp hentry]
  exact hsettled

end First

section Needed

variable {uuid : UuidText ι} {start : Redis ι}

omit [DecidableEq ι]

theorem needed_zero (entries : List String) : needed uuid start 0 entries = [] := by
  cases entries <;> rfl

theorem needed_nil (wanted : Nat) : needed uuid start wanted [] = [] := by
  cases wanted <;> rfl

theorem needed_cons {raw : String} {found wanted : Nat} (hlt : found < wanted)
    (page : List String) : needed uuid start (wanted - found) (raw :: page) =
      raw :: needed uuid start (wanted - (found + (validId uuid start raw).toList.length)) page := by
  obtain ⟨more, rfl⟩ := Nat.exists_eq_add_of_lt hlt
  rw [Nat.sub_add_eq, Nat.add_assoc, Nat.add_sub_cancel_left, needed]
  cases validId uuid start raw <;> rfl

theorem needed_filterMap (entries : List String) : ∀ wanted,
    (needed uuid start wanted entries).filterMap (validId uuid start) =
      (entries.filterMap (validId uuid start)).take wanted := by
  induction entries with
  | nil => intro wanted; cases wanted <;> rfl
  | cons raw rest ih =>
    intro wanted
    cases wanted with
    | zero => rfl
    | succ wanted =>
      unfold needed
      cases hvalid : validId uuid start raw with
      | none => simp [hvalid, ih]
      | some id => simp [hvalid, ih]

theorem needed_length_le (entries : List String) : ∀ wanted,
    (needed uuid start wanted entries).length ≤ entries.length := by
  induction entries with
  | nil => intro wanted; cases wanted <;> exact Nat.le_refl _
  | cons raw rest ih =>
    intro wanted
    cases wanted with
    | zero => exact Nat.zero_le _
    | succ wanted =>
      unfold needed
      split <;> exact Nat.succ_le_succ (ih _)

theorem needed_append_of_lt (rest page : List String) : ∀ {wanted},
    (page.filterMap (validId uuid start)).length < wanted →
      needed uuid start wanted (page ++ rest) = page ++
        needed uuid start (wanted - (page.filterMap (validId uuid start)).length) rest := by
  induction page with
  | nil => intro wanted _; rfl
  | cons raw page ih =>
    intro wanted h
    cases wanted with
    | zero => cases h
    | succ wanted =>
      rw [List.cons_append, needed]
      cases hvalid : validId uuid start raw with
      | none =>
        rw [List.filterMap_cons_none hvalid] at h ⊢
        simp [ih h]
      | some id =>
        rw [List.filterMap_cons_some hvalid, List.length_cons] at h ⊢
        simp [ih (Nat.lt_of_succ_lt_succ h)]

theorem needed_append_of_le (rest page : List String) : ∀ {wanted},
    wanted ≤ (page.filterMap (validId uuid start)).length →
      needed uuid start wanted (page ++ rest) = needed uuid start wanted page := by
  induction page with
  | nil =>
    intro wanted h
    obtain rfl := Nat.le_zero.mp h
    rw [needed_zero, needed_zero]
  | cons raw page ih =>
    intro wanted h
    cases wanted with
    | zero => rfl
    | succ wanted =>
      rw [List.cons_append, needed, needed]
      cases hvalid : validId uuid start raw with
      | none =>
        rw [List.filterMap_cons_none hvalid] at h
        simp [ih h]
      | some id =>
        rw [List.filterMap_cons_some hvalid, List.length_cons] at h
        simp [ih (Nat.le_of_succ_le_succ h)]

end Needed

/-! ## One page and the loop -/

section Loop

variable {uuid : UuidText ι} {start : Redis ι} {now : Int} {wanted : Nat}

/-- A scan has read the needed entries of `entries`, which stood behind `kept` and before `rest`. -/
structure HasRead (uuid : UuidText ι) (start : Redis ι) (now : Int) (wanted : Nat)
    (kept entries rest : List String) (s s' : Scan ι) : Prop where
  follows : Follows s.redis s'.redis
  settled : ∀ raw ∈ needed uuid start (wanted - s.requestIds.length) entries, ∀ id,
    ¬ Corrupt uuid s'.redis raw id
  requestIds : s'.requestIds = s.requestIds ++
    (needed uuid start (wanted - s.requestIds.length) entries).filterMap (validId uuid start)
  due : s'.redis.due now = kept ++
    ((needed uuid start (wanted - s.requestIds.length) entries).filter
        (fun raw => (validId uuid start raw).isSome) ++
      (entries.drop (needed uuid start (wanted - s.requestIds.length) entries).length ++ rest))

theorem filter_ne_of_nodup {kept behind : List String} {raw : String}
    (h : (kept ++ raw :: behind).Nodup) :
    (kept ++ raw :: behind).filter (fun member => member ≠ raw) = kept ++ behind := by
  obtain ⟨_, hbehind, hapart⟩ := List.nodup_append.mp h
  rw [List.filter_append, List.filter_cons_of_neg (by simp)]
  congr 1
  · rw [List.filter_eq_self]
    exact fun member hmem => decide_eq_true (hapart member hmem raw List.mem_cons_self)
  · rw [List.filter_eq_self]
    exact fun member hmem => decide_eq_true fun heq =>
      (List.nodup_cons.mp hbehind).1 (heq ▸ hmem)

omit [DecidableEq ι] in
theorem HasRead.nothing {kept entries rest : List String} {s : Scan ι}
    (hnone : needed uuid start (wanted - s.requestIds.length) entries = [])
    (hdue : s.redis.due now = kept ++ (entries ++ rest)) :
    HasRead uuid start now wanted kept entries rest s s := by
  refine ⟨Follows.refl _, ?_, ?_, ?_⟩
  · rw [hnone]
    intro raw hraw
    cases hraw
  · simp [hnone]
  · simpa [hnone] using hdue

omit [DecidableEq ι] in
theorem HasRead.cons {kept page rest : List String} {raw : String} {s s' : Scan ι} (next : Scan ι)
    (hlt : s.requestIds.length < wanted) (hnext : Follows s.redis next.redis)
    (hsettled : ∀ id, ¬ Corrupt uuid next.redis raw id)
    (hids : next.requestIds = s.requestIds ++ (validId uuid start raw).toList)
    (h : HasRead uuid start now wanted
      (kept ++ [raw].filter fun raw => (validId uuid start raw).isSome) page rest next s') :
    HasRead uuid start now wanted kept (raw :: page) rest s s' := by
  obtain ⟨hend, hpast, hread, hdue⟩ := h
  have hmore : needed uuid start (wanted - s.requestIds.length) (raw :: page) =
      raw :: needed uuid start (wanted - next.requestIds.length) page := by
    rw [needed_cons hlt, hids, List.length_append]
  refine ⟨hnext.trans hend, ?_, ?_, ?_⟩
  · rw [hmore]
    intro entry hentry id hcorrupt
    rcases List.mem_cons.mp hentry with rfl | hentry
    · exact hsettled id (hend.corrupt hcorrupt)
    · exact hpast entry hentry id hcorrupt
  · rw [hread, hmore, hids]
    cases hvalid : validId uuid start raw <;> simp [hvalid]
  · rw [hdue, hmore]
    cases hvalid : validId uuid start raw <;> simp [hvalid]

theorem readPage_hasRead (rest page : List String) : ∀ {kept : List String} {s : Scan ι},
    Follows start s.redis → s.requestIds.length < wanted →
    s.redis.due now = kept ++ (page ++ rest) → (kept ++ (page ++ rest)).Nodup →
    FirstCanonical uuid s.redis (needed uuid start (wanted - s.requestIds.length) page) →
    HasRead uuid start now wanted kept page rest s (readPage uuid wanted page s) := by
  induction page with
  | nil =>
    intro kept s _ _ hdue _ _
    exact HasRead.nothing (needed_nil _) hdue
  | cons raw page ih =>
    intro kept s hfollows hlt hdue hnodup hcanonical
    rw [needed_cons hlt] at hcanonical
    unfold readPage
    cases hvalid : validId uuid start raw with
    | none =>
      rw [hvalid] at hcanonical
      obtain ⟨reason, redis', hread, hdue', hnext, hsettled⟩ :=
        @readEntry_invalid _ _ uuid start s.redis now raw hfollows hvalid fun id hcorrupt =>
          hcanonical raw id hcorrupt (List.find?_cons_of_pos (decide_eq_true hcorrupt.1))
      have hgone : redis'.due now = kept ++ (page ++ rest) := by
        rw [hdue', hdue]
        exact filter_ne_of_nodup hnodup
      have hnodup' : (kept ++ (page ++ rest)).Nodup := by
        rw [← hgone, hdue', hdue]
        exact hnodup.filter _
      rw [hread]
      -- the request ids stay, so that as many are wanted of what follows
      let next : Scan ι := ⟨redis', s.requestIds, s.isolated ++ [reason], s.retainedOffset, s.scanned⟩
      refine HasRead.cons next hlt hnext hsettled (by simp [next, hvalid]) ?_
      simpa [hvalid] using @ih kept next (hfollows.trans hnext) hlt hgone hnodup'
        (hcanonical.tail hnext hsettled)
    | some id =>
      rw [hvalid] at hcanonical
      have hsettled := not_corrupt_of_valid hfollows (Option.isSome_of_mem hvalid)
      let next : Scan ι := ⟨s.redis, s.requestIds ++ [id], s.isolated, s.retainedOffset, s.scanned⟩
      rw [readEntry_valid hfollows hvalid]
      dsimp only
      refine HasRead.cons next hlt (Follows.refl _) hsettled (by simp [next, hvalid]) ?_
      by_cases hfull : wanted ≤ next.requestIds.length
      · rw [if_pos hfull]
        refine .nothing ?_ (by simpa [next, hvalid] using hdue)
        rw [Nat.sub_eq_zero_of_le hfull, needed_zero]
      · rw [if_neg hfull]
        have hrest := @ih (kept ++ [raw]) next hfollows (Nat.lt_of_not_le hfull)
          (by simpa using hdue) (by simpa using hnodup) (by
            rw [List.length_append]
            exact hcanonical.tail (Follows.refl _) hsettled)
        simpa [hvalid] using hrest

section Pages

variable {kept page tail : List String} {s next s' : Scan ι}

omit [DecidableEq ι]

theorem needed_whole {wanted : Nat} (hfew : (page.filterMap (validId uuid start)).length < wanted) :
    needed uuid start wanted page = page := by
  have halone := needed_append_of_lt [] page hfew
  rw [List.append_nil] at halone
  rw [halone]
  cases wanted - (page.filterMap (validId uuid start)).length <;> exact List.append_nil page

/-- A page that holds the last wanted request is all that is read. -/
theorem HasRead.last (henough : wanted - s.requestIds.length ≤
      (page.filterMap (validId uuid start)).length)
    (h : HasRead uuid start now wanted kept page tail s s') :
    wanted ≤ s'.requestIds.length ∧ HasRead uuid start now wanted kept (page ++ tail) [] s s' := by
  obtain ⟨hend, hpast, hids, hkept⟩ := h
  have hsame := needed_append_of_le tail page henough
  refine ⟨?_, hend, ?_, ?_, ?_⟩
  · rw [hids, needed_filterMap, List.length_append, List.length_take]
    omega
  · rw [hsame]
    exact hpast
  · rw [hsame]
    exact hids
  · rw [hsame, List.append_nil, List.drop_append_of_le_length (needed_length_le _ _)]
    exact hkept

/-- What a page without the last wanted request leaves to the next round. -/
theorem HasRead.behind (hfew : (page.filterMap (validId uuid start)).length <
      wanted - s.requestIds.length) (h : HasRead uuid start now wanted kept page tail s next) :
    wanted - next.requestIds.length =
        wanted - s.requestIds.length - (page.filterMap (validId uuid start)).length ∧
      kept.length + (next.requestIds.length - s.requestIds.length) =
        (kept ++ page.filter fun raw => (validId uuid start raw).isSome).length ∧
      next.redis.due now =
        (kept ++ page.filter fun raw => (validId uuid start raw).isSome) ++ tail := by
  obtain ⟨-, -, hids, hkept⟩ := h
  rw [needed_whole hfew] at hids hkept
  refine ⟨?_, ?_, ?_⟩
  · rw [hids, List.length_append]
    omega
  · rw [hids, List.length_append, List.length_append, Nat.add_sub_cancel_left,
      List.length_filterMap_eq_countP, List.countP_eq_length_filter]
  · rw [List.drop_length, List.nil_append, ← List.append_assoc] at hkept
    exact hkept

theorem HasRead.trans (hfew : (page.filterMap (validId uuid start)).length <
      wanted - s.requestIds.length) (hpage : HasRead uuid start now wanted kept page tail s next)
    (htail : HasRead uuid start now wanted
      (kept ++ page.filter fun raw => (validId uuid start raw).isSome) tail [] next s') :
    HasRead uuid start now wanted kept (page ++ tail) [] s s' := by
  have hboth := needed_append_of_lt tail page hfew
  obtain ⟨hmore, -, -⟩ := hpage.behind hfew
  obtain ⟨hend, hpast, hids, -⟩ := hpage
  obtain ⟨hend', hpast', hids', hkept'⟩ := htail
  rw [needed_whole hfew] at hpast hids
  rw [hmore] at hpast' hids' hkept'
  refine ⟨hend.trans hend', ?_, ?_, ?_⟩
  · rw [hboth]
    intro raw hraw id hcorrupt
    rcases List.mem_append.mp hraw with hraw | hraw
    · exact hpast raw hraw id (hend'.corrupt hcorrupt)
    · exact hpast' raw hraw id hcorrupt
  · rw [hids', hboth, List.filterMap_append, ← List.append_assoc]
    exact congrArg (· ++ _) hids
  · rw [hkept', hboth, List.filter_append, List.length_append, ← List.drop_drop, List.drop_left]
    simp only [List.append_assoc]

theorem nodup_behind (h : (kept ++ (page ++ tail)).Nodup) (p : String → Bool) :
    ((kept ++ page.filter p) ++ tail).Nodup := by
  rw [List.append_assoc]
  refine h.sublist ((List.Sublist.refl kept).append ?_)
  exact List.filter_sublist.append (List.Sublist.refl tail)

end Pages

theorem selectLoop_full {scanBudget fuel : Nat} {s : Scan ι} (hfull : wanted ≤ s.requestIds.length)
    (hfuel : 0 < fuel) : selectLoop uuid now wanted scanBudget fuel s = some s := by
  obtain ⟨fuel, rfl⟩ := Nat.exists_eq_add_one.mpr hfuel
  rw [selectLoop, if_neg fun h => absurd h.1 (Nat.not_lt.mpr hfull)]

/-- The variables after a page, which the next round starts with. -/
def afterPage (uuid : UuidText ι) (wanted : Nat) (page : List String) (s : Scan ι) : Scan ι :=
  { readPage uuid wanted page s with
    retainedOffset := s.retainedOffset +
      ((readPage uuid wanted page s).requestIds.length - s.requestIds.length)
    scanned := s.scanned + page.length }

theorem afterPage_hasRead {kept page tail : List String} {s : Scan ι} (hfollows : Follows start s.redis)
    (hlt : s.requestIds.length < wanted) (hdue : s.redis.due now = kept ++ (page ++ tail))
    (hnodup : (kept ++ (page ++ tail)).Nodup)
    (hfirst : FirstCanonical uuid s.redis (needed uuid start (wanted - s.requestIds.length) page)) :
    HasRead uuid start now wanted kept page tail s (afterPage uuid wanted page s) := by
  obtain ⟨hend, hpast, hids, hkept⟩ := readPage_hasRead tail page hfollows hlt hdue hnodup hfirst
  exact ⟨hend, hpast, hids, hkept⟩

theorem selectLoop_page {scanBudget fuel chunk : Nat} {page : List String} {s : Scan ι}
    (hgo : s.requestIds.length < wanted ∧ s.scanned < scanBudget)
    (hchunk : min (max wanted 50) (scanBudget - s.scanned) = chunk)
    (hpage : ((s.redis.due now).drop s.retainedOffset).take chunk = page) (hsome : page ≠ []) :
    selectLoop uuid now wanted scanBudget (fuel + 1) s =
      if page.length < chunk then some (afterPage uuid wanted page s)
      else selectLoop uuid now wanted scanBudget fuel (afterPage uuid wanted page s) := by
  subst hchunk hpage
  rw [selectLoop, if_pos hgo]
  exact if_neg hsome

theorem selectLoop_hasRead {scanBudget : Nat} : ∀ (fuel : Nat) {kept entries : List String}
    {s : Scan ι}, entries.length < fuel → Follows start s.redis →
    s.scanned + entries.length ≤ scanBudget → s.retainedOffset = kept.length →
    s.redis.due now = kept ++ entries → (kept ++ entries).Nodup →
    FirstCanonical uuid s.redis (needed uuid start (wanted - s.requestIds.length) entries) →
    ∃ s', selectLoop uuid now wanted scanBudget fuel s = some s' ∧
      HasRead uuid start now wanted kept entries [] s s' := by
  intro fuel
  induction fuel with
  | zero => intro kept entries s h; cases h
  | succ fuel ih =>
    intro kept entries s hfuel hfollows hbudget hoffset hdue hnodup hcanonical
    by_cases hstop : wanted ≤ s.requestIds.length ∨ entries = []
    · -- a loop that stops here has read what is needed of nothing
      refine ⟨s, ?_, HasRead.nothing ?_ (by rw [List.append_nil]; exact hdue)⟩
      · rcases hstop with hfull | rfl
        · exact selectLoop_full hfull (Nat.succ_pos fuel)
        · simp [selectLoop, hdue, hoffset]
      · rcases hstop with hfull | rfl
        · rw [Nat.sub_eq_zero_of_le hfull, needed_zero]
        · exact needed_nil _
    · obtain ⟨hless, hsome⟩ := not_or.mp hstop
      have hlt := Nat.lt_of_not_le hless
      have hpos := List.length_pos_iff.mpr hsome
      generalize hchunk : min (max wanted 50) (scanBudget - s.scanned) = chunk
      have hsplit := List.take_append_drop chunk entries
      generalize hpage : entries.take chunk = page at hsplit
      generalize htail : entries.drop chunk = tail at hsplit
      subst hsplit
      have hpagepos : 0 < page.length := by
        rw [← hpage, List.length_take]
        omega
      rw [List.length_append] at hfuel hbudget
      rw [selectLoop_page ⟨hlt, by omega⟩ hchunk (by rw [hdue, hoffset, List.drop_left, hpage])
        (List.length_pos_iff.mp hpagepos)]
      by_cases henough : wanted - s.requestIds.length ≤
          (page.filterMap (validId uuid start)).length
      · -- the page ends with the last wanted request
        rw [needed_append_of_le tail page henough] at hcanonical
        obtain ⟨hfull, hlast⟩ :=
          (afterPage_hasRead hfollows hlt hdue hnodup hcanonical).last henough
        refine ⟨afterPage uuid wanted page s, ?_, hlast⟩
        split
        · rfl
        · exact selectLoop_full hfull (by omega)
      · -- the whole page is needed, and what follows is read by the next round
        have hfew := Nat.lt_of_not_le henough
        rw [needed_append_of_lt tail page hfew] at hcanonical
        have hwhole := @afterPage_hasRead _ _ uuid _ _ _ _ _ _ _ hfollows hlt hdue hnodup (by
          rw [needed_whole hfew]
          exact hcanonical.left)
        obtain ⟨hmore, hlength, hkept⟩ := hwhole.behind hfew
        by_cases hshort : page.length < chunk
        · rw [if_pos hshort]
          obtain rfl : tail = [] := by
            rw [← htail, List.drop_eq_nil_iff]
            rw [← hpage, List.length_take] at hshort
            omega
          refine ⟨afterPage uuid wanted page s, rfl, ?_⟩
          rw [List.append_nil]
          exact hwhole
        · rw [if_neg hshort]
          have hsettled := hwhole.settled
          rw [needed_whole hfew] at hsettled
          rw [← hoffset] at hlength
          obtain ⟨s', hloop, hbehind⟩ := ih (s := afterPage uuid wanted page s) (by omega)
            (hfollows.trans hwhole.follows)
            (by show s.scanned + page.length + tail.length ≤ scanBudget; omega) hlength hkept
            (nodup_behind hnodup _) (by
              rw [hmore]
              exact hcanonical.right hwhole.follows hsettled)
          exact ⟨s', hloop, hwhole.trans hfew hbehind⟩

theorem selectLoop_isSome {scanBudget : Nat} : ∀ (fuel : Nat) {s : Scan ι},
    scanBudget - s.scanned < fuel → (selectLoop uuid now wanted scanBudget fuel s).isSome := by
  intro fuel
  induction fuel with
  | zero => intro s h; cases h
  | succ fuel ih =>
    intro s hfuel
    unfold selectLoop
    by_cases hgo : s.requestIds.length < wanted ∧ s.scanned < scanBudget
    · rw [if_pos hgo]
      dsimp only
      split
      · rfl
      · rename_i hpage
        have hpos := List.length_pos_iff.mpr hpage
        split
        · rfl
        · apply ih
          show scanBudget - (s.scanned + _) < fuel
          omega
    · rw [if_neg hgo]
      rfl

end Loop

/-- The selection ends, and within its budget it selects what it should where the entries whose
states it isolates are written as their ids. -/
theorem selects_of_canonical (uuid : UuidText ι) (redis : Redis ι) (now limit : Int) :
    ∃ result, selectDueOtpRequests uuid redis now limit = some result ∧
      ((redis.fallbackDue.map Prod.fst).Nodup → (redis.due now).length ≤ scanBudgetOf limit →
        Canonical uuid redis now (wantedOf limit) →
          Selects uuid redis now (wantedOf limit) result) := by
  obtain ⟨result, hresult⟩ := Option.isSome_iff_exists.mp
    (@selectLoop_isSome ι _ uuid now (wantedOf limit) (scanBudgetOf limit) (scanBudgetOf limit + 1)
      { redis := redis } (Nat.lt_succ_of_le (Nat.sub_le _ _)))
  refine ⟨result, hresult, fun hmembers hbudget hcanonical => ?_⟩
  have hnodup : (redis.due now).Nodup := hmembers.sublist (List.filter_sublist.map Prod.fst)
  obtain ⟨s', hloop, hread⟩ := @selectLoop_hasRead ι _ uuid redis now (wantedOf limit) _
    (scanBudgetOf limit + 1) [] (redis.due now) { redis := redis } (Nat.lt_succ_of_le hbudget)
    (Follows.refl redis) (by simpa using hbudget) rfl rfl hnodup hcanonical.corrupt
  obtain rfl := Option.some.inj (hresult.symm.trans hloop)
  have hids : result.requestIds =
      (needed uuid redis (wantedOf limit) (redis.due now)).filterMap (validId uuid redis) :=
    hread.requestIds
  refine ⟨?_, ?_, ?_⟩
  · rw [hids, needed_filterMap]
  · rw [hids]
    exact hcanonical.distinct
  · simpa using hread.due

def sampleUuid : UuidText Unit where
  parse text := if text = "c0ffee00-0000-4000-8000-000000000000" ∨
    text = "C0FFEE00-0000-4000-8000-000000000000" then some () else none
  str _ := "c0ffee00-0000-4000-8000-000000000000"

/-- A due set with one malformed entry and one entry of the UUID, whose state is as given. -/
def sampleRedis (entry : String) (reading : Reading) : Redis Unit where
  fallbackDue := [("not-a-uuid", 3), (entry, 5)]
  hashes _ := some { status := some "pending", reading := reading }

theorem malformed_entry_removed : ∃ result,
    selectDueOtpRequests sampleUuid
      (sampleRedis "c0ffee00-0000-4000-8000-000000000000" .undecodable) 10 1 = some result ∧
    Selects sampleUuid (sampleRedis "c0ffee00-0000-4000-8000-000000000000" .undecodable) 10
      (wantedOf 1) result := by
  obtain ⟨result, hresult, hselects⟩ := selects_of_canonical sampleUuid
    (sampleRedis "c0ffee00-0000-4000-8000-000000000000" .undecodable) 10 1
  refine ⟨result, hresult, hselects (by decide) (by decide) ⟨?_, by decide⟩⟩
  intro raw requestId hcorrupt hfirst
  rcases List.mem_pair.mp (List.mem_of_find?_eq_some hfirst) with rfl | rfl
  · exact absurd hcorrupt.1 (by simp [sampleUuid])
  · rfl

/-- An undecodable state under an upper case UUID stays in the due set. -/
theorem uppercase_entry_stays : ¬ ∃ result,
    selectDueOtpRequests sampleUuid
      (sampleRedis "C0FFEE00-0000-4000-8000-000000000000" .undecodable) 10 1 = some result ∧
    Selects sampleUuid (sampleRedis "C0FFEE00-0000-4000-8000-000000000000" .undecodable) 10
      (wantedOf 1) result := by
  rintro ⟨result, hresult, hselects⟩
  have hstays : ((selectDueOtpRequests sampleUuid
      (sampleRedis "C0FFEE00-0000-4000-8000-000000000000" .undecodable) 10 1).map
        fun result => result.redis.due 10) =
      some ["C0FFEE00-0000-4000-8000-000000000000"] := by decide
  rw [hresult, Option.map_some, hselects.removed] at hstays
  exact absurd hstays (by decide)

end TradingBot.OtpDelivery.DueSelection
