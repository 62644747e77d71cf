import TradingBot.Sync.ChangeLog
import TradingBot.Misc.Run

/-!
# The senders of the change log

The sync worker (core/sync_worker.py), the fast lane of the offers (core/offer_priority_sync.py) and
the manual resync (`resync_from_changelog`, src/api/routers/sync.py) send rows of the change log to
the peer, at the same time and in any order, while transactions log further changes. Which queue the
worker polls next and what the peer answers is left to the run. A row is marked only for a request
it was in.
-/

namespace TradingBot.Sync

open TradingBot.Misc

inductive PeerReply where
  | networkError
  | raised
  | answered (response : PeerResponse)
  deriving DecidableEq, Repr

def PeerReply.response? : PeerReply → Option PeerResponse
  | .answered response => some response
  | _ => none

inductive Sender where
  | changeLog
  | retryQueue
  | offerPriority
  deriving DecidableEq, Repr

structure Request where
  sender : Sender
  item : SyncItem
  rows : List ChangeLogRow

structure Exchange where
  items : List SyncItem
  rows : List ChangeLogRow
  response : Option PeerResponse

structure ResyncSession where
  remaining : List ChangeLogRow
  synced : List Nat := []

/-- The next 50 entries (`batch_size`, sync.py:4646). -/
def ResyncSession.batch (session : ResyncSession) : List ChangeLogRow := session.remaining.take 50

/-- The senders of one server: the change log, the queue `sync:retry` with payloads of earlier
releases (`none` is no mapping), what is under way, and what was exchanged with the peer. -/
structure Outbox where
  rows : List ChangeLogRow
  retry : List (Option SyncItem) := []
  inFlight : List Request := []
  sessions : List ResyncSession := []
  exchanges : List Exchange := []

inductive SenderOperation where
  | logChange (row : ChangeLogRow)
  | sendNext (now : Int)
  | sendQueued
  | dispatchOffer (offerPublicId : Option String) (now : Int)
  | reply (index : Nat) (reply : PeerReply) (now : Int) (markerFails : Bool)
  | startResync (limit : Nat) (tableFilter : Option String) (target : Option Server)
  | resyncBatch (index : Nat) (reply : PeerReply)
  | commitResync (index : Nat)
  | abandonResync (index : Nat)

def SyncItem.isCopyOf (item : SyncItem) (row : ChangeLogRow) : Bool :=
  item.table == .text row.tableName && item.id.str == toString row.recordId &&
    item.operation == .text row.operation && item.hash == textValue row.hash &&
    item.changeLogId.coercePositiveInt.all (· == (row.id : Int))

/-- The rows a queued payload is a copy of; without a change-log id, the one unsynced row if there
is one. -/
def SyncItem.queuedRows (item : SyncItem) (rows : List ChangeLogRow) : List ChangeLogRow :=
  match item.changeLogId.coercePositiveInt with
  | some _ => rows.filter item.isCopyOf
  | none =>
    match rows.filter fun row => !row.synced && item.isCopyOf row with
    | [row] => [row]
    | _ => []

namespace Outbox

variable (config : SenderConfig)

variable (s : Outbox)

/-- A transaction commits a row of the change log (`log_change`, events.py:124). -/
def logChange (row : ChangeLogRow) : Outbox :=
  if row.synced = false ∧ row.id ∉ s.rows.map (·.id) then { s with rows := s.rows ++ [row] } else s

/-- `send_sync_item` (line 451), up to the answer. -/
def send (sender : Sender) (item : SyncItem) (rows : List ChangeLogRow) : Outbox :=
  { s with inFlight := s.inFlight ++ [{ sender, item, rows }] }

def sendRow (sender : Sender) (found : Option ChangeLogRow) : Outbox :=
  match found with
  | none => s
  | some row =>
    match changeLogEntryToSyncItem config row with
    | none => s
    | some item => s.send sender item [row]

def sendNext (now : Int) : Outbox :=
  if config.reaches none then
    s.sendRow config .changeLog (fetchNextUnsyncedChangeLogRow s.rows now)
  else s

/-- The worker takes a payload of `sync:retry`. -/
def sendQueued : Outbox :=
  match s.retry with
  | [] => s
  | none :: rest => { s with retry := rest }
  | some item :: rest =>
    if config.reaches none then
      { s with retry := rest }.send .retryQueue item (item.queuedRows s.rows)
    else { s with retry := rest ++ [some item] }

/-- `dispatch_offer_priority_sync_once` (offer_priority_sync.py:135), up to the answer. -/
def dispatchOffer (offerPublicId : Option String) (now : Int) : Outbox :=
  if config.offerPrioritySyncEnabled ∧ config.server = .iran ∧ config.reaches (some .foreign) then
    s.sendRow config .offerPriority (loadLatestPendingOfferRow config s.rows offerPublicId now)
  else s

/-- `requeue_if_needed` (line 439): what was taken from the change log stays there. -/
def requeue (request : Request) : Outbox :=
  match request.sender with
  | .retryQueue => { s with retry := s.retry ++ [some request.item] }
  | _ => s

def markDelivered (request : Request) (markerFails : Bool) : Outbox :=
  if markerFails then s.requeue request
  else { s with rows := markChangeLogDelivered s.rows request.item }

def recordFailure (request : Request) (response : PeerResponse) (now : Int) : Outbox :=
  match request.sender, peerRejectionReasonForItem response request.item with
  | .changeLog, some reason =>
    { s with rows := recordChangeLogDeliveryFailure s.rows request.item reason now }
  | _, _ => s

/-- The worker loop behind `send_sync_item` (line 597). -/
def workerReply (request : Request) (reply : PeerReply) (now : Int) (markerFails : Bool) : Outbox :=
  match reply with
  | .networkError => s.requeue request
  | .raised => s
  | .answered response =>
    match peerResponseIsSuccess response with
    | none => s
    | some true => s.markDelivered request markerFails
    | some false =>
      match terminalPolicyRejectionDetailForItem response request.item with
      | none => s
      | some (some _) => s.markDelivered request markerFails
      | some none => (s.recordFailure request response now).requeue request

/-- `dispatch_offer_priority_sync_once` behind `send_sync_item` (offer_priority_sync.py:194). -/
def offerPriorityReply (request : Request) (reply : PeerReply) (markerFails : Bool) :
    Outbox :=
  match reply with
  | .answered response =>
    if peerResponseIsSuccess response = some true then s.markDelivered request markerFails else s
  | _ => s

def close (index : Nat) (request : Request) (reply : PeerReply) : Outbox :=
  { s with
    inFlight := s.inFlight.eraseIdx index
    exchanges := s.exchanges ++
      [{ items := [request.item], rows := request.rows, response := reply.response? }] }

def onReply (index : Nat) (reply : PeerReply) (now : Int) (markerFails : Bool) :
    Outbox :=
  match s.inFlight[index]? with
  | none => s
  | some request =>
    match request.sender with
    | .offerPriority => (s.close index request reply).offerPriorityReply request reply markerFails
    | _ => (s.close index request reply).workerReply request reply now markerFails

/-- `resync_from_changelog` (sync.py:4606) reads its entries. -/
def startResync (limit : Nat) (tableFilter : Option String) (target : Option Server) :
    Outbox :=
  if config.reaches target then
    { s with
      sessions := s.sessions ++
        [{ remaining := resyncEntries s.rows limit tableFilter }] }
  else s

def sentEntries (batch : List ChangeLogRow) : List ChangeLogRow :=
  batch.filter fun row => (resyncItem config row).isSome

/-- A batch of a resync (sync.py:4652): an entry whose item cannot be built is not sent, but the
acknowledgement counts for all entries. -/
def resyncBatch (index : Nat) (reply : PeerReply) : Outbox :=
  match s.sessions[index]? with
  | none => s
  | some session =>
    let rest := { session with remaining := session.remaining.drop 50 }
    let items := session.batch.filterMap (resyncItem config)
    if items.isEmpty then { s with sessions := s.sessions.set index rest }
    else
      let acknowledged := reply.response?.any resyncAcknowledged
      let marked := if acknowledged then session.batch.map (·.id) else []
      { s with
        sessions := s.sessions.set index { rest with synced := rest.synced ++ marked }
        exchanges := s.exchanges ++
          [{ items := items
             rows := sentEntries config session.batch
             response := reply.response? }] }

/-- The commit at the end of a resync (sync.py:4750). -/
def commitResync (index : Nat) : Outbox :=
  match s.sessions[index]? with
  | none => s
  | some session =>
    if session.remaining.isEmpty then
      { s with
        rows := s.rows.map fun row =>
          if row.id ∈ session.synced then { row with synced := true } else row
        sessions := s.sessions.eraseIdx index }
    else s

def abandonResync (index : Nat) : Outbox :=
  { s with sessions := s.sessions.eraseIdx index }

def step (s : Outbox) : SenderOperation → Outbox
  | .logChange row => s.logChange row
  | .sendNext now => s.sendNext config now
  | .sendQueued => s.sendQueued config
  | .dispatchOffer offerPublicId now => s.dispatchOffer config offerPublicId now
  | .reply index reply now markerFails => s.onReply index reply now markerFails
  | .startResync limit tableFilter target => s.startResync config limit tableFilter target
  | .resyncBatch index reply => s.resyncBatch config index reply
  | .commitResync index => s.commitResync index
  | .abandonResync index => s.abandonResync index

end Outbox

def ErrorItem.Names (errorItem : ErrorItem) (row : ChangeLogRow) : Prop :=
  syncIdentityValueMatches errorItem.table (.text row.tableName) = true ∧
    syncIdentityValueMatches errorItem.recordId (.int row.recordId) = true

namespace Exchange

def Acknowledged (exchange : Exchange) : Prop :=
  ∃ response, exchange.response = some response ∧ peerResponseIsSuccess response = some true

/-- The peer refused the request for good, and named the row. -/
def Refused (exchange : Exchange) (row : ChangeLogRow) : Prop :=
  ∃ response errorItem, exchange.response = some response ∧
    singleItemPartialRejectionDetail response = some (some errorItem) ∧
    (terminalPolicyRejectionReason errorItem).isSome = true ∧ errorItem.Names row

/-- The request had a copy of the row, and the peer acknowledged it or refused the row for good. -/
def Settles (exchange : Exchange) (id : Nat) : Prop :=
  ∃ row ∈ exchange.rows, row.id = id ∧ (∃ item ∈ exchange.items, item.isCopyOf row = true) ∧
    (exchange.Acknowledged ∨ exchange.Refused row)

end Exchange

def RowSettled (exchanges : List Exchange) (id : Nat) : Prop :=
  ∃ exchange ∈ exchanges, exchange.Settles id

def marksItem (response : PeerResponse) (item : SyncItem) : Bool :=
  peerResponseIsSuccess response == some true ||
    (terminalPolicyRejectionDetailForItem response item).any Option.isSome

/-- A batch is acknowledged only if all of its entries are in the request, or none; a queued payload
that makes the worker mark rows is made of each row found. -/
def RowsSent (config : SenderConfig) (s : Outbox) : SenderOperation → Prop
  | .resyncBatch index reply =>
    ∀ session ∈ s.sessions[index]?, reply.response?.any resyncAcknowledged = true →
      (∃ row ∈ session.batch, (resyncItem config row).isSome = true) →
      ∀ row ∈ session.batch, (resyncItem config row).isSome = true
  | .reply index reply _ markerFails =>
    ∀ request ∈ s.inFlight[index]?, request.sender = .retryQueue → markerFails = false →
      reply.response?.any (marksItem · request.item) = true →
      ∀ row ∈ s.rows, row.synced = false → request.item.marks row = true →
        ∃ sent ∈ request.rows, sent.id = row.id
  | _ => True

instance RowsSent.decidable (config : SenderConfig) (s : Outbox) :
    ∀ op, Decidable (RowsSent config s op)
  | .resyncBatch index reply => inferInstanceAs (Decidable
      (∀ session ∈ s.sessions[index]?, reply.response?.any resyncAcknowledged = true →
        (∃ row ∈ session.batch, (resyncItem config row).isSome = true) →
        ∀ row ∈ session.batch, (resyncItem config row).isSome = true))
  | .reply index reply _ markerFails => inferInstanceAs (Decidable
      (∀ request ∈ s.inFlight[index]?, request.sender = .retryQueue → markerFails = false →
        reply.response?.any (marksItem · request.item) = true →
        ∀ row ∈ s.rows, row.synced = false → request.item.marks row = true →
          ∃ sent ∈ request.rows, sent.id = row.id))
  | .logChange _ | .sendNext _ | .sendQueued | .dispatchOffer _ _ | .startResync _ _ _
  | .commitResync _ | .abandonResync _ => inferInstanceAs (Decidable True)

/-! ## What the senders do to the rows -/

structure SameChange (row row' : ChangeLogRow) : Prop where
  id : row'.id = row.id
  tableName : row'.tableName = row.tableName
  recordId : row'.recordId = row.recordId
  data : row'.data = row.data

theorem SameChange.refl (row : ChangeLogRow) : SameChange row row := ⟨rfl, rfl, rfl, rfl⟩

/-- The rows keep their changes, and only rows with `p` are marked as synced. -/
def MarksOnly (p : ChangeLogRow → Prop) (rows rows' : List ChangeLogRow) : Prop :=
  ∃ update : ChangeLogRow → ChangeLogRow, rows' = rows.map update ∧
    ∀ row, SameChange row (update row) ∧
      ((update row).synced = true → row.synced = true ∨ row.synced = false ∧ p row)

theorem MarksOnly.refl (p : ChangeLogRow → Prop) (rows : List ChangeLogRow) :
    MarksOnly p rows rows :=
  ⟨id, (List.map_id rows).symm, fun row => ⟨.refl row, .inl⟩⟩

theorem MarksOnly.of_mem {p : ChangeLogRow → Prop} {rows rows' : List ChangeLogRow}
    (h : MarksOnly p rows rows') {row : ChangeLogRow} (hmem : row ∈ rows')
    (hsynced : row.synced = true) :
    ∃ old ∈ rows, SameChange old row ∧ (old.synced = true ∨ old.synced = false ∧ p old) := by
  obtain ⟨update, rfl, hupdate⟩ := h
  obtain ⟨old, hold, rfl⟩ := List.mem_map.mp hmem
  exact ⟨old, hold, (hupdate old).1, (hupdate old).2 hsynced⟩

theorem marksOnly_markChangeLogDelivered (rows : List ChangeLogRow) (item : SyncItem) :
    MarksOnly (fun row => item.marks row = true) rows (markChangeLogDelivered rows item) := by
  refine ⟨_, rfl, fun row => ?_⟩
  by_cases hmarks : (!row.synced && item.marks row) = true
  · rw [if_pos hmarks]
    rw [Bool.and_eq_true, Bool.not_eq_true'] at hmarks
    exact ⟨⟨rfl, rfl, rfl, rfl⟩, fun _ => .inr hmarks⟩
  · rw [if_neg hmarks]
    exact ⟨.refl row, .inl⟩

theorem marksOnly_recordChangeLogDeliveryFailure (p : ChangeLogRow → Prop)
    (rows : List ChangeLogRow) (item : SyncItem) (reason : String) (now : Int) :
    MarksOnly p rows (recordChangeLogDeliveryFailure rows item reason now) := by
  unfold recordChangeLogDeliveryFailure
  split
  · exact .refl p rows
  · refine ⟨_, rfl, fun row => ?_⟩
    split
    · exact ⟨⟨rfl, rfl, rfl, rfl⟩, .inl⟩
    · exact ⟨.refl row, .inl⟩

def MarksFor (item : SyncItem) (reply : PeerReply) (markerFails : Bool) (row : ChangeLogRow) :
    Prop :=
  markerFails = false ∧ item.marks row = true ∧
    ∃ response, reply = .answered response ∧ marksItem response item = true

/-- A reply changes nothing but the rows, and those as far as `p` goes, and `sync:retry`. -/
structure Outbox.Replied (p : ChangeLogRow → Prop) (s s' : Outbox) : Prop where
  rows : MarksOnly p s.rows s'.rows
  inFlight : s'.inFlight = s.inFlight
  sessions : s'.sessions = s.sessions
  exchanges : s'.exchanges = s.exchanges

namespace Outbox.Replied

variable {s : Outbox} {p : ChangeLogRow → Prop} {request : Request} {reply : PeerReply} {now : Int}
  {markerFails : Bool}

theorem refl : Replied p s s := ⟨.refl p s.rows, rfl, rfl, rfl⟩

theorem requeue {s' : Outbox} (h : Replied p s s') (request : Request) :
    Replied p s (s'.requeue request) := by
  unfold Outbox.requeue
  split
  · exact ⟨h.rows, h.inFlight, h.sessions, h.exchanges⟩
  · exact h

theorem markDelivered {response : PeerResponse} (hanswer : marksItem response request.item = true) :
    Replied (MarksFor request.item (.answered response) markerFails) s
      (s.markDelivered request markerFails) := by
  unfold Outbox.markDelivered
  split
  · exact refl.requeue request
  · next hworks =>
    obtain ⟨update, hrows, hupdate⟩ := marksOnly_markChangeLogDelivered s.rows request.item
    refine ⟨⟨update, hrows, fun row => ⟨(hupdate row).1, fun hsynced => ?_⟩⟩, rfl, rfl, rfl⟩
    refine ((hupdate row).2 hsynced).imp_right fun hmarks => ?_
    exact ⟨hmarks.1, Bool.eq_false_iff.mpr hworks, hmarks.2, response, rfl, hanswer⟩

theorem recordFailure (response : PeerResponse) :
    Replied p s (s.recordFailure request response now) := by
  unfold Outbox.recordFailure
  split
  · exact ⟨marksOnly_recordChangeLogDeliveryFailure .., rfl, rfl, rfl⟩
  · exact refl

theorem offerPriorityReply :
    Replied (MarksFor request.item reply markerFails) s
      (s.offerPriorityReply request reply markerFails) := by
  unfold Outbox.offerPriorityReply
  split
  · split
    · next hsuccess =>
      refine markDelivered ?_
      rw [marksItem, hsuccess]
      rfl
    · exact refl
  · exact refl

theorem workerReply :
    Replied (MarksFor request.item reply markerFails) s
      (s.workerReply request reply now markerFails) := by
  unfold Outbox.workerReply
  split
  · exact refl.requeue request
  · exact refl
  · next response =>
    split
    · exact refl
    · next hsuccess =>
      refine markDelivered ?_
      rw [marksItem, hsuccess]
      rfl
    · split
      · exact refl
      · next hterminal =>
        refine markDelivered ?_
        rw [marksItem, hterminal]
        exact Bool.or_true _
      · exact (recordFailure response).requeue request

theorem onReply {index : Nat} (hrequest : s.inFlight[index]? = some request) :
    Replied (MarksFor request.item reply markerFails) (s.close index request reply)
      (s.onReply index reply now markerFails) := by
  unfold Outbox.onReply
  rw [hrequest]
  dsimp only
  split
  · exact offerPriorityReply
  · exact workerReply

end Outbox.Replied

theorem marksOnly_commitResync (rows : List ChangeLogRow) (ids : List Nat) :
    MarksOnly (fun row => row.id ∈ ids) rows
      (rows.map fun row => if row.id ∈ ids then { row with synced := true } else row) := by
  refine ⟨_, rfl, fun row => ?_⟩
  by_cases hid : row.id ∈ ids
  · rw [if_pos hid]
    refine ⟨⟨rfl, rfl, rfl, rfl⟩, fun _ => ?_⟩
    cases hsynced : row.synced with
    | true => exact .inl rfl
    | false => exact .inr ⟨rfl, hid⟩
  · rw [if_neg hid]
    exact ⟨.refl row, .inl⟩

section Marks

variable {config : SenderConfig} {rows : List ChangeLogRow} {row : ChangeLogRow} {item : SyncItem}
  {response : PeerResponse}

theorem coercePositiveInt_id (row : ChangeLogRow) :
    (Value.int row.id).coercePositiveInt = some (row.id : Int) := by
  have hpositive : 0 < (row.id : Int) := Int.natCast_pos.mpr row.positive
  simp only [Value.coercePositiveInt, Value.toInt, if_pos hpositive]

theorem isCopyOf_of_buildSyncItem {data : Json} (h : buildSyncItem config row data = some item) :
    item.isCopyOf row = true ∧ item.changeLogId.coercePositiveInt = some (row.id : Int) := by
  unfold buildSyncItem at h
  dsimp only at h
  split at h
  · cases h
  · have hitem := Option.some.inj h
    subst hitem
    refine ⟨?_, coercePositiveInt_id row⟩
    simp only [SyncItem.isCopyOf, coercePositiveInt_id, beq_self_eq_true, Bool.and_self,
      Option.all_some, Value.str]

theorem isCopyOf_of_resyncItem (h : resyncItem config row = some item) :
    item.isCopyOf row = true ∧ item.changeLogId.coercePositiveInt = some (row.id : Int) := by
  unfold resyncItem at h
  split at h
  · obtain ⟨data, -, hbuild⟩ := Option.bind_eq_some_iff.mp h
    exact isCopyOf_of_buildSyncItem hbuild
  · exact isCopyOf_of_buildSyncItem h

theorem isCopyOf_of_mem_queuedRows (h : row ∈ item.queuedRows rows) : item.isCopyOf row = true := by
  unfold SyncItem.queuedRows at h
  split at h
  · exact (List.mem_filter.mp h).2
  · split at h
    · next sent hfound =>
      have hrow := List.mem_singleton.mp h
      have hmem : row ∈ rows.filter fun row => !row.synced && item.isCopyOf row := by
        rw [hfound, hrow]
        exact List.mem_singleton_self _
      exact (Bool.and_eq_true_iff.mp (List.mem_filter.mp hmem).2).2
    · cases h

theorem id_eq_of_marks {id : Int} (hid : item.changeLogId.coercePositiveInt = some id)
    (hmarks : item.marks row = true) : (row.id : Int) = id := by
  unfold SyncItem.marks at hmarks
  rw [hid] at hmarks
  split at hmarks
  · cases hmarks
  · exact eq_of_beq hmarks

theorem peerResponseIsSuccess_of_resyncAcknowledged (h : resyncAcknowledged response = true) :
    peerResponseIsSuccess response = some true := by
  unfold resyncAcknowledged at h
  split at h
  · next payload hbody =>
    simp only [Bool.and_eq_true, beq_iff_eq, decide_eq_true_eq] at h
    obtain ⟨⟨hcount, hcode⟩, hstatus⟩ := h
    have hhashable : payload.status.unhashable = false := by
      rcases hstatus with hstatus | hstatus <;> rw [hstatus] <;> rfl
    simp only [peerResponseIsSuccess, hcode, ne_eq, not_true_eq_false, if_false, hbody, hcount,
      hhashable, Bool.false_eq_true, hstatus, decide_true, beq_self_eq_true, Bool.and_self]
  · cases h

theorem names_of_terminalPolicyRejection {errorItem : ErrorItem}
    (h : terminalPolicyRejectionDetailForItem response item = some (some errorItem))
    (hcopy : item.isCopyOf row = true) :
    singleItemPartialRejectionDetail response = some (some errorItem) ∧
      (terminalPolicyRejectionReason errorItem).isSome = true ∧ errorItem.Names row := by
  unfold terminalPolicyRejectionDetailForItem at h
  split at h
  · cases h
  · cases h
  · next found hdetail =>
    split at h
    · next hmatches =>
      cases h
      simp only [Bool.and_eq_true] at hmatches
      obtain ⟨⟨hreason, htable⟩, hrecord⟩ := hmatches
      simp only [SyncItem.isCopyOf, Bool.and_eq_true, beq_iff_eq] at hcopy
      obtain ⟨⟨⟨⟨hname, hid⟩, -⟩, -⟩, -⟩ := hcopy
      rw [hname] at htable
      refine ⟨hdetail, hreason, htable, ?_⟩
      simp only [syncIdentityValueMatches, Bool.and_eq_true, beq_iff_eq,
        decide_eq_true_eq] at hrecord ⊢
      obtain ⟨⟨hgiven, -⟩, hshown⟩ := hrecord
      refine ⟨⟨hgiven, ?_⟩, hshown.trans hid⟩
      intro hnull
      cases hnull
    · cases h

end Marks

variable {id : Nat}

theorem RowSettled.append {exchanges : List Exchange} (h : RowSettled exchanges id)
    (more : List Exchange) : RowSettled (exchanges ++ more) id := by
  obtain ⟨exchange, hmem, hsettles⟩ := h
  exact ⟨exchange, List.mem_append_left _ hmem, hsettles⟩

theorem RowSettled.last {exchange : Exchange} (h : exchange.Settles id)
    (exchanges : List Exchange) : RowSettled (exchanges ++ [exchange]) id :=
  ⟨exchange, List.mem_append_right _ (List.mem_singleton_self _), h⟩

/-! ## Every mark is accounted for -/

/-- A synced row was so from the start or is settled, an item on its way is a copy of its rows, one
from the change log has its row's id, and a resync will mark only settled rows. -/
structure Outbox.Accounted (start : List ChangeLogRow) (s : Outbox) : Prop where
  rows : ∀ row ∈ s.rows, row.synced = true →
    (∃ old ∈ start, old.id = row.id ∧ old.synced = true) ∨ RowSettled s.exchanges row.id
  copies : ∀ request ∈ s.inFlight, ∀ row ∈ request.rows, request.item.isCopyOf row = true
  found : ∀ request ∈ s.inFlight, request.sender ≠ .retryQueue →
    ∃ row ∈ request.rows, request.item.changeLogId.coercePositiveInt = some (row.id : Int)
  sessions : ∀ session ∈ s.sessions, ∀ id ∈ session.synced, RowSettled s.exchanges id

namespace Outbox.Accounted

variable {config : SenderConfig} {start : List ChangeLogRow} {s : Outbox} {request : Request}
  {index : Nat} {response : PeerResponse} {markerFails : Bool}

theorem initial (rows : List ChangeLogRow) (retry : List (Option SyncItem)) :
    Accounted rows { rows, retry } where
  rows := fun row hmem hsynced => .inl ⟨row, hmem, rfl, hsynced⟩
  copies := fun _ hrequest => by cases hrequest
  found := fun _ hrequest => by cases hrequest
  sessions := fun _ hsession => by cases hsession

theorem updateRows (h : Accounted start s) {p : ChangeLogRow → Prop} {rows : List ChangeLogRow}
    (hrows : MarksOnly p s.rows rows)
    (hsettled : ∀ row ∈ s.rows, row.synced = false → p row → RowSettled s.exchanges row.id) :
    Accounted start { s with rows } where
  rows := fun row hmem hsynced => by
    obtain ⟨old, hold, hsame, hbefore | ⟨hunsynced, hmarked⟩⟩ := hrows.of_mem hmem hsynced
    · rw [hsame.id]
      exact h.rows old hold hbefore
    · rw [hsame.id]
      exact .inr (hsettled old hold hunsynced hmarked)
  copies := h.copies
  found := h.found
  sessions := h.sessions

theorem logChange (h : Accounted start s) (row : ChangeLogRow) :
    Accounted start (s.logChange row) := by
  unfold Outbox.logChange
  split
  · next hnew =>
    refine ⟨fun other hmem hsynced => ?_, h.copies, h.found, h.sessions⟩
    rcases List.mem_append.mp hmem with hmem | hmem
    · exact h.rows other hmem hsynced
    · rw [List.mem_singleton.mp hmem, hnew.1] at hsynced
      cases hsynced
  · exact h

theorem send (h : Accounted start s) {sender : Sender} {item : SyncItem} {rows : List ChangeLogRow}
    (hcopies : ∀ row ∈ rows, item.isCopyOf row = true) (hfound : sender ≠ .retryQueue →
      ∃ row ∈ rows, item.changeLogId.coercePositiveInt = some (row.id : Int)) :
    Accounted start (s.send sender item rows) where
  rows := h.rows
  copies := fun request hmem => by
    rcases List.mem_append.mp hmem with hmem | hmem
    · exact h.copies request hmem
    · rw [List.mem_singleton.mp hmem]
      exact hcopies
  found := fun request hmem => by
    rcases List.mem_append.mp hmem with hmem | hmem
    · exact h.found request hmem
    · rw [List.mem_singleton.mp hmem]
      exact hfound
  sessions := h.sessions

theorem sendRow (h : Accounted start s) (sender : Sender) (found : Option ChangeLogRow) :
    Accounted start (s.sendRow config sender found) := by
  unfold Outbox.sendRow
  split
  · exact h
  · next row =>
    split
    · exact h
    · next item hitem =>
      obtain ⟨hcopy, hid⟩ := isCopyOf_of_buildSyncItem hitem
      refine h.send ?_ fun _ => ⟨row, List.mem_singleton_self row, hid⟩
      intro sent hsent
      rw [List.mem_singleton.mp hsent]
      exact hcopy

theorem withRetry (h : Accounted start s) (retry : List (Option SyncItem)) :
    Accounted start { s with retry } :=
  ⟨h.rows, h.copies, h.found, h.sessions⟩

theorem sendQueued (h : Accounted start s) : Accounted start (s.sendQueued config) := by
  unfold Outbox.sendQueued
  split
  · exact h
  · exact h.withRetry _
  · next item rest _ =>
    split
    · exact (h.withRetry rest).send (fun row hrow => isCopyOf_of_mem_queuedRows hrow)
        fun hsender => absurd rfl hsender
    · exact h.withRetry _

theorem close (h : Accounted start s) (index : Nat) (request : Request) (reply : PeerReply) :
    Accounted start (s.close index request reply) where
  rows := fun row hmem hsynced => (h.rows row hmem hsynced).imp_right (·.append _)
  copies := fun request hmem => h.copies request (List.mem_of_mem_eraseIdx hmem)
  found := fun request hmem => h.found request (List.mem_of_mem_eraseIdx hmem)
  sessions := fun session hmem id hid => (h.sessions session hmem id hid).append _

theorem settled_close (h : Accounted start s) (hrequest : request ∈ s.inFlight)
    (hmarks : marksItem response request.item = true)
    {sent : ChangeLogRow} (hsent : sent ∈ request.rows) :
    RowSettled (s.close index request (.answered response)).exchanges sent.id := by
  have hcopy := h.copies request hrequest sent hsent
  refine RowSettled.last ⟨sent, hsent, rfl, ⟨request.item, List.mem_singleton_self _, hcopy⟩, ?_⟩ _
  rw [marksItem, Bool.or_eq_true, beq_iff_eq] at hmarks
  rcases hmarks with hsuccess | hterminal
  · exact .inl ⟨response, rfl, hsuccess⟩
  · obtain ⟨detail, hdetail, hsome⟩ := (Option.any_eq_true _ _).mp hterminal
    obtain ⟨errorItem, rfl⟩ := Option.isSome_iff_exists.mp hsome
    exact .inr ⟨response, errorItem, rfl, names_of_terminalPolicyRejection hdetail hcopy⟩

/-- The rows that a closed request marks are settled: by their id, or because the queued payload is
made of them. -/
theorem settled_of_marks (h : Accounted start s) (hrequest : s.inFlight[index]? = some request)
    {now : Int} (hsent : RowsSent config s (.reply index (.answered response) now markerFails))
    (hanswer : marksItem response request.item = true) (hworks : markerFails = false) :
    ∀ row ∈ s.rows, row.synced = false → request.item.marks row = true →
      RowSettled (s.close index request (.answered response)).exchanges row.id := by
  intro row hmem hunsynced hmarks
  have hin : request ∈ s.inFlight := List.mem_of_getElem? hrequest
  have hrow : ∃ sent ∈ request.rows, sent.id = row.id := by
    by_cases hqueued : request.sender = .retryQueue
    · exact hsent request hrequest hqueued hworks hanswer row hmem hunsynced hmarks
    · obtain ⟨sent, hfound, hid⟩ := h.found request hin hqueued
      exact ⟨sent, hfound, Int.ofNat.inj (id_eq_of_marks hid hmarks).symm⟩
  obtain ⟨sent, hfound, hid⟩ := hrow
  rw [← hid]
  exact h.settled_close hin hanswer hfound

theorem onReply (h : Accounted start s) {reply : PeerReply} {now : Int}
    (hsent : RowsSent config s (.reply index reply now markerFails)) :
    Accounted start (s.onReply index reply now markerFails) := by
  cases hrequest : s.inFlight[index]? with
  | none =>
    rw [Outbox.onReply, hrequest]
    exact h
  | some request =>
    have hreplied := @Replied.onReply s request reply now markerFails index hrequest
    have hmarked := (h.close index request reply).updateRows hreplied.rows (by
      rintro row hmem hunsynced ⟨hworks, hmarks, response, rfl, hanswer⟩
      exact h.settled_of_marks hrequest hsent hanswer hworks row hmem hunsynced hmarks)
    obtain ⟨hrows, hcopies, hfound, hsessions⟩ := hmarked
    refine ⟨?_, ?_, ?_, ?_⟩
    · rw [hreplied.exchanges]
      exact hrows
    · rw [hreplied.inFlight]
      exact hcopies
    · rw [hreplied.inFlight]
      exact hfound
    · rw [hreplied.sessions, hreplied.exchanges]
      exact hsessions

theorem startResync (h : Accounted start s) (limit : Nat) (tableFilter : Option String)
    (target : Option Server) :
    Accounted start (s.startResync config limit tableFilter target) := by
  unfold Outbox.startResync
  split
  · refine ⟨h.rows, h.copies, h.found, fun session hmem => ?_⟩
    rcases List.mem_append.mp hmem with hmem | hmem
    · exact h.sessions session hmem
    · rw [List.mem_singleton.mp hmem]
      intro id hid
      cases hid
  · exact h

theorem settled_resyncBatch {session : ResyncSession}
    (hacknowledged : resyncAcknowledged response = true) {row : ChangeLogRow}
    (hmem : row ∈ session.batch) (hitem : (resyncItem config row).isSome = true) :
    RowSettled (s.exchanges ++
      [{ items := session.batch.filterMap (resyncItem config)
         rows := sentEntries config session.batch
         response := some response }]) row.id := by
  obtain ⟨item, hitem'⟩ := Option.isSome_iff_exists.mp hitem
  refine RowSettled.last ⟨row, List.mem_filter.mpr ⟨hmem, hitem⟩, rfl, ?_, .inl ?_⟩ _
  · exact ⟨item, List.mem_filterMap.mpr ⟨row, hmem, hitem'⟩, (isCopyOf_of_resyncItem hitem').1⟩
  · exact ⟨response, rfl, peerResponseIsSuccess_of_resyncAcknowledged hacknowledged⟩

theorem resyncBatch (h : Accounted start s) {reply : PeerReply}
    (hsent : RowsSent config s (.resyncBatch index reply)) :
    Accounted start (s.resyncBatch config index reply) := by
  unfold Outbox.resyncBatch
  split
  · exact h
  · next session hsession =>
    have hin : session ∈ s.sessions := List.mem_of_getElem? hsession
    dsimp only
    split
    · refine ⟨h.rows, h.copies, h.found, fun other hmem => ?_⟩
      rcases List.mem_or_eq_of_mem_set hmem with hmem | hmem
      · exact h.sessions other hmem
      · subst hmem
        exact h.sessions session hin
    · next hitems =>
      refine ⟨fun row hmem hsynced => (h.rows row hmem hsynced).imp_right (·.append _), h.copies,
        h.found, fun other hmem id hid => ?_⟩
      rcases List.mem_or_eq_of_mem_set hmem with hmem | hmem
      · exact (h.sessions other hmem id hid).append _
      · subst hmem
        rcases List.mem_append.mp hid with hid | hid
        · exact (h.sessions session hin id hid).append _
        · split at hid
          · next hacknowledged =>
            -- an item was built, so all of them were
            obtain ⟨row, hrow, rfl⟩ := List.mem_map.mp hid
            obtain ⟨response, hresponse, hack⟩ := (Option.any_eq_true _ _).mp hacknowledged
            rw [hresponse]
            refine settled_resyncBatch hack hrow (hsent session hsession hacknowledged ?_ row hrow)
            obtain ⟨item, hitem⟩ := List.exists_mem_of_ne_nil _ (mt List.isEmpty_iff.mpr hitems)
            obtain ⟨built, hbuilt, hsome⟩ := List.mem_filterMap.mp hitem
            exact ⟨built, hbuilt, Option.isSome_of_eq_some hsome⟩
          · cases hid

theorem commitResync (h : Accounted start s) (index : Nat) :
    Accounted start (s.commitResync index) := by
  unfold Outbox.commitResync
  split
  · exact h
  · next session hsession =>
    split
    · have hmarked := h.updateRows (marksOnly_commitResync s.rows session.synced)
        fun row _ _ hid => h.sessions session (List.mem_of_getElem? hsession) row.id hid
      exact ⟨hmarked.rows, h.copies, h.found,
        fun other hmem => h.sessions other (List.mem_of_mem_eraseIdx hmem)⟩
    · exact h

theorem step (h : Accounted start s) (op : SenderOperation) (hsent : RowsSent config s op) :
    Accounted start (s.step config op) := by
  cases op with
  | logChange row => exact h.logChange row
  | sendNext now =>
    rw [Outbox.step, Outbox.sendNext]
    split
    · exact h.sendRow _ _
    · exact h
  | sendQueued => exact h.sendQueued
  | dispatchOffer offerPublicId now =>
    rw [Outbox.step, Outbox.dispatchOffer]
    split
    · exact h.sendRow _ _
    · exact h
  | reply => exact h.onReply hsent
  | startResync limit tableFilter target => exact h.startResync limit tableFilter target
  | resyncBatch index reply => exact h.resyncBatch hsent
  | commitResync index => exact h.commitResync index
  | abandonResync index =>
    exact ⟨h.rows, h.copies, h.found,
      fun session hmem => h.sessions session (List.mem_of_mem_eraseIdx hmem)⟩

end Outbox.Accounted

/-- In every run in which acknowledged batches and queued payloads hold the rows marked for them, a
synced row was so from the start, or a request with a copy of it was acknowledged, or the peer
refused it for good and named it. -/
theorem synced_only_when_settled (config : SenderConfig) (rows : List ChangeLogRow)
    (retry : List (Option SyncItem)) (ops : List SenderOperation)
    (hsent : EachStep (Outbox.step config) (fun s op _ => RowsSent config s op) { rows, retry } ops) :
    ∀ row ∈ (run (Outbox.step config) { rows, retry } ops).rows, row.synced = true →
      (∃ old ∈ rows, old.id = row.id ∧ old.synced = true) ∨
        RowSettled (run (Outbox.step config) { rows, retry } ops).exchanges row.id := by
  have haccounted := run_invariant (I := Outbox.Accounted rows)
    (fun s op h hc => h.step op hc) ops _ (Outbox.Accounted.initial rows retry) hsent
  exact haccounted.rows

def iranSenders : SenderConfig where
  server := .iran
  reaches := fun _ => true
  digest := fun _ => ""

def pendingRows : List ChangeLogRow :=
  [{ id := 1, operation := "INSERT", tableName := "offers", recordId := 7
     data := .obj [("home_server", .str "iran"), ("offer_public_id", .str "o-7")]
     timestamp := 0, hash := some "a" },
   { id := 2, operation := "UPDATE", tableName := "commodities", recordId := 3
     data := .str "not-json", timestamp := 0, hash := some "b" },
   { id := 3, operation := "INSERT", tableName := "notifications", recordId := 5
     data := .obj [], timestamp := 0, hash := some "c" }]

def successAnswer : PeerResponse where
  statusCode := 200
  body := .mapping { status := .text "success", processed := .int 1 }

def commodityRefused : PeerResponse where
  statusCode := 200
  body := .mapping
    { status := .text "partial"
      processed := .int 0
      errors := .int 1
      errorItems := .list [some
        { reason := .text "source_authority_forbidden:commodities"
          table := .text "commodities"
          recordId := .int 3 }] }

def queuedNotification : SyncItem where
  operation := .text "INSERT"
  table := .text "notifications"
  id := .int 5
  data := .obj []
  hash := .text "c"
  timestamp := 0
  changeLogId := .null

/-- The fast lane delivers the offer, the commodity is refused for good, the notification is queued. -/
def settlingRun : List SenderOperation :=
  [.dispatchOffer none 1, .sendNext 1, .reply 1 (.answered successAnswer) 2 false,
    .reply 0 .networkError 2 false, .sendNext 3, .reply 0 (.answered commodityRefused) 4 false,
    .sendQueued, .reply 0 (.answered successAnswer) 5 false, .startResync 100 none none,
    .resyncBatch 0 (.answered successAnswer), .commitResync 0]

theorem every_row_settled :
    (run (Outbox.step iranSenders) { rows := pendingRows, retry := [some queuedNotification] }
        settlingRun).rows.map (·.synced) = [true, true, true] ∧
      ∀ row ∈ (run (Outbox.step iranSenders)
          { rows := pendingRows, retry := [some queuedNotification] } settlingRun).rows,
        row.synced = true →
          (∃ old ∈ pendingRows, old.id = row.id ∧ old.synced = true) ∨
            RowSettled (run (Outbox.step iranSenders)
              { rows := pendingRows, retry := [some queuedNotification] } settlingRun).exchanges
              row.id :=
  ⟨by decide, synced_only_when_settled iranSenders pendingRows [some queuedNotification]
    settlingRun (by decide)⟩

/-- A resync of an entry that cannot be read with one that can: the request is acknowledged, and the
entry left out of it is synced. -/
theorem unreadable_row_synced :
    ¬ ∀ (config : SenderConfig) (rows : List ChangeLogRow) (retry : List (Option SyncItem))
        (ops : List SenderOperation),
      ∀ row ∈ (run (Outbox.step config) { rows, retry } ops).rows, row.synced = true →
        (∃ old ∈ rows, old.id = row.id ∧ old.synced = true) ∨
          RowSettled (run (Outbox.step config) { rows, retry } ops).exchanges row.id := by
  intro h
  have hrows : ∃ row ∈ (run (Outbox.step iranSenders) { rows := pendingRows }
      [.startResync 100 none none, .resyncBatch 0 (.answered successAnswer),
        .commitResync 0]).rows, row.synced = true ∧ row.id = 2 := by decide
  obtain ⟨row, hmem, hsynced, hid⟩ := hrows
  rcases h iranSenders pendingRows [] _ row hmem hsynced with hold | hsettled
  · rw [hid] at hold
    revert hold
    decide
  · obtain ⟨exchange, hexchange, sent, hsent, hsame, -⟩ := hsettled
    have hleft : ∀ exchange ∈ (run (Outbox.step iranSenders) { rows := pendingRows }
        [.startResync 100 none none, .resyncBatch 0 (.answered successAnswer),
          .commitResync 0]).exchanges, ∀ sent ∈ exchange.rows, sent.id ≠ 2 := by decide
    exact hleft exchange hexchange sent hsent (hsame.trans hid)

end TradingBot.Sync
