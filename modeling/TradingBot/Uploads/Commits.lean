import TradingBot.Uploads.Effects

/-!
# Batches are committed once

A creation with the key of an earlier batch returns it while it is open and makes a new one when it
is over, also when it was committed. A repeated commit reads the messages back in the order in which
the sessions were created, while the first posts them in the order of the album. Where these make no
difference, each key has one committed batch and every commit of it returns the same messages.
-/

namespace TradingBot.Uploads

open TradingBot.Misc

structure AlbumEntry where
  createdAt : Nat
  id : Nat
  messageId : Option Nat

def UploadSession.albumEntry (session : UploadSession) : AlbumEntry :=
  ⟨session.createdAt, session.id, session.previewMetadata.committedMessageId⟩

def albumOf (sessions : List UploadSession) (batchId : Nat) : List AlbumEntry :=
  (sessions.filter fun session => session.batchId = some batchId).map UploadSession.albumEntry

def postedIds (album : List AlbumEntry) : List Nat :=
  (album.insertionSort fun entry other => entry.createdAt < other.createdAt ∨
    entry.createdAt = other.createdAt ∧ entry.id ≤ other.id).filterMap
      fun entry => entry.messageId.filter (· ≠ 0)

theorem committedIds_listUploadBatchSessions (s : Store) (batchId : Nat) :
    committedIds (listUploadBatchSessions s batchId) = postedIds (albumOf s.sessions batchId) := by
  have hsort := List.map_insertionSort
    (fun session other : UploadSession => session.createdAt < other.createdAt ∨
      session.createdAt = other.createdAt ∧ session.id ≤ other.id)
    (fun entry other : AlbumEntry => entry.createdAt < other.createdAt ∨
      entry.createdAt = other.createdAt ∧ entry.id ≤ other.id)
    UploadSession.albumEntry (s.sessions.filter fun session => session.batchId = some batchId)
    fun _ _ _ _ => Iff.rfl
  rw [postedIds, albumOf, ← hsort, List.filterMap_map]
  rfl

variable {batchId : Nat}

theorem albumOf_map {sessions : List UploadSession} {write : UploadSession → UploadSession}
    (hwrite : ∀ row ∈ sessions, row.batchId = some batchId ∨
      (write row).batchId = some batchId →
        (write row).batchId = row.batchId ∧ (write row).albumEntry = row.albumEntry) :
    albumOf (sessions.map write) batchId = albumOf sessions batchId := by
  induction sessions with
  | nil => rfl
  | cons head tail ih =>
    have htail := ih fun row hrow => hwrite row (List.mem_cons_of_mem _ hrow)
    unfold albumOf at htail ⊢
    rw [List.map_cons]
    by_cases hbatch : head.batchId = some batchId
    · obtain ⟨hsame, hentry⟩ := hwrite head List.mem_cons_self (.inl hbatch)
      rw [List.filter_cons_of_pos (by simpa [hsame] using hbatch),
        List.filter_cons_of_pos (by simpa using hbatch), List.map_cons, List.map_cons, hentry, htail]
    · have hother : (write head).batchId ≠ some batchId := fun hnew =>
        hbatch ((hwrite head List.mem_cons_self (.inr hnew)).1 ▸ hnew)
      rw [List.filter_cons_of_neg (by simpa using hother),
        List.filter_cons_of_neg (by simpa using hbatch), htail]

structure BatchKey where
  ownerUserId : Nat
  actorUserId : Option Nat
  roomKind : UploadRoomKind
  targetId : Int
  idempotencyKey : String
  deriving DecidableEq, Repr

def UploadBatch.key (batch : UploadBatch) : BatchKey :=
  ⟨batch.ownerUserId, batch.actorUserId, batch.roomKind, batch.targetId, batch.idempotencyKey⟩

def UploadBatchStatus.live (status : UploadBatchStatus) : Prop :=
  status.terminal = false ∨ status = .committed

instance (status : UploadBatchStatus) : Decidable status.live :=
  inferInstanceAs (Decidable (_ ∨ _))

/-- A batch is made only when the earlier ones of its key are over and were not committed. -/
def CreatedAfresh (s : Store) (caller : Caller) (request : UploadBatchCreateRequest) : Prop :=
  ∀ batch ∈ s.batches, UploadBatch.hasKey caller request batch = true → ¬ batch.status.live

def UploadSession.albumLe (session other : UploadSession) : Prop :=
  (batchOrderKey session).1 < (batchOrderKey other).1 ∨
    (batchOrderKey session).1 = (batchOrderKey other).1 ∧
      (batchOrderKey session).2 ≤ (batchOrderKey other).2

instance (session other : UploadSession) : Decidable (session.albumLe other) :=
  inferInstanceAs (Decidable (_ ∨ _))

def activeSessions (s : Store) (batchId : Nat) : List UploadSession :=
  (listUploadBatchSessions s batchId).filter fun session => session.status ≠ .cancelled

def CreatedInOrder (s : Store) (batch : UploadBatch) : Prop :=
  (activeSessions s batch.id).Pairwise UploadSession.albumLe

def commitGuards : Guards := { batch := CreatedAfresh, commit := CreatedInOrder }

structure CommitsSound (s : Store) : Prop where
  sessionIds : (s.sessions.map UploadSession.id).Nodup
  batchIds : (s.batches.map UploadBatch.id).Nodup
  live : ∀ batch ∈ s.batches, ∀ other ∈ s.batches, batch.status.live → other.status.live →
    batch.key = other.key → batch = other
  messageIds : ∀ message ∈ s.messages, message.id ≤ s.messageSequence
  posted : ∀ session ∈ s.sessions, ∀ messageId,
    session.previewMetadata.committedMessageId = some messageId →
      messageId ≤ s.messageSequence ∧ ∃ batchId batch, session.batchId = some batchId ∧
        s.batch batchId = some batch ∧ batch.status = .committed

def PostedAs (s : Store) (batchId : Nat) (key : BatchKey) (messages : List Message) : Prop :=
  (∃ batch, s.batch batchId = some batch ∧ batch.status = .committed ∧ batch.key = key) ∧
    reloadMessagesForDelivery s (postedIds (albumOf s.sessions batchId)) = messages

/-! ## Effects that post nothing -/

structure SessionKept (row new : UploadSession) : Prop where
  id : new.id = row.id
  batchId : new.batchId = row.batchId
  ownerUserId : new.ownerUserId = row.ownerUserId
  actorUserId : new.actorUserId = row.actorUserId
  entry : new.albumEntry = row.albumEntry

structure BatchKept (row new : UploadBatch) : Prop where
  id : new.id = row.id
  key : new.key = row.key
  messageKind : new.messageKind = row.messageKind
  expectedItems : new.expectedItems = row.expectedItems
  live : new.status.live → row.status.live
  committed : row.status = .committed → new.status = .committed

theorem SessionKept.refl (row : UploadSession) : SessionKept row row := ⟨rfl, rfl, rfl, rfl, rfl⟩

theorem BatchKept.refl (row : UploadBatch) : BatchKept row row :=
  ⟨rfl, rfl, rfl, rfl, fun h => h, fun h => h⟩

section Kept

variable {s s' : Store} {session : UploadSession} {rows rows' : List UploadBatch}
  {batch : UploadBatch} {caller : Caller} {id : Nat} {request : UploadSessionCreateRequest}
  {key : BatchKey} {messages : List Message} {media : Media}

theorem sessionsKept_put (hids : (s.sessions.map UploadSession.id).Nodup) {new : UploadSession}
    (hfound : s.session new.id = some session) (hkept : SessionKept session new) :
    Rewritten SessionKept s.sessions
      (setRow UploadSession.id new.id (fun _ => new) s.sessions) := by
  obtain ⟨hmem, hid⟩ := getRow_eq_some hfound
  refine .setRow SessionKept.refl fun row hrow hkey => ?_
  rw [List.inj_on_of_nodup_map hids hrow hmem (hkey.trans hid.symm)]
  exact hkept

theorem batchesKept_touchBatch (s : Store) (batchId : Option Nat) {write : UploadBatch → UploadBatch}
    (hwrite : ∀ row, (write row).id = row.id ∧ (write row).key = row.key ∧
      (write row).messageKind = row.messageKind ∧ (write row).expectedItems = row.expectedItems) :
    Rewritten BatchKept s.batches (s.touchBatch batchId write).batches := by
  cases batchId with
  | none => exact .refl BatchKept.refl _
  | some id =>
    refine .setRow BatchKept.refl fun row _ _ => ?_
    by_cases hterminal : row.status.terminal = true
    · rw [if_pos hterminal]
      exact .refl row
    · rw [if_neg hterminal]
      obtain ⟨hid, hkey, hkind, hexpected⟩ := hwrite row
      refine ⟨hid, hkey, hkind, hexpected, fun _ => .inl (Bool.not_eq_true _ ▸ hterminal), ?_⟩
      intro hcommitted
      rw [hcommitted] at hterminal
      exact absurd rfl hterminal

theorem startBatch_eq (row : UploadBatch) : (startBatch row).id = row.id ∧
    (startBatch row).key = row.key ∧ (startBatch row).messageKind = row.messageKind ∧
    (startBatch row).expectedItems = row.expectedItems := by
  unfold startBatch
  split_ifs <;> exact ⟨rfl, rfl, rfl, rfl⟩

structure RowsKept (s s' : Store) : Prop where
  sessions : Rewritten SessionKept s.sessions s'.sessions
  batches : Rewritten BatchKept s.batches s'.batches
  messages : s'.messages = s.messages
  sequence : s.messageSequence ≤ s'.messageSequence

@[simp] theorem touchBatch_messages (s : Store) (batchId : Option Nat)
    (write : UploadBatch → UploadBatch) : (s.touchBatch batchId write).messages = s.messages := by
  cases batchId <;> rfl

@[simp] theorem touchBatch_messageSequence (s : Store) (batchId : Option Nat)
    (write : UploadBatch → UploadBatch) :
    (s.touchBatch batchId write).messageSequence = s.messageSequence := by cases batchId <;> rfl

theorem RowsKept.put (hids : (s.sessions.map UploadSession.id).Nodup) {new : UploadSession}
    (hfound : s.session new.id = some session) (hkept : SessionKept session new) :
    RowsKept s (s.putSession new) where
  sessions := sessionsKept_put hids hfound hkept
  batches := .refl BatchKept.refl _
  messages := rfl
  sequence := le_rfl

theorem albumEntry_readyWith (session : UploadSession) (now : Nat)
    (result : UploadFilePersistenceResult) :
    (session.readyWith now result).albumEntry = session.albumEntry := by
  simp only [UploadSession.albumEntry, UploadSession.readyWith]
  split <;> rfl

theorem Effect.rows_cases {media : Media} {G : Guards}
    (hids : (s.sessions.map UploadSession.id).Nodup)
    (hbatchIds : (s.batches.map UploadBatch.id).Nodup) (h : Effect media G s s') :
    RowsKept s s' ∨
    (∃ caller request id, request.valid = true ∧ s.batch id = none ∧ G.batch s caller request ∧
      s' = { s with batches := s.batches ++ [newUploadBatch s caller request id] }) ∨
    (∃ caller request id resumeToken, request.valid = true ∧
      batchRefusal s caller request = none ∧ s.session id = none ∧
      s' = { s with
        sessions := s.sessions ++ [newUploadSession s caller request id resumeToken]
        }.touchBatch request.batchId startBatch) ∨
    ∃ batch senderId, s.batch batch.id = some batch ∧ batch.status.terminal = false ∧
      G.commit s batch ∧ commitRefusal batch (activeSessions s batch.id) = none ∧
      s' = s.commitBatch batch senderId (orderSessions (activeSessions s batch.id)) := by
  cases h with
  | passed duration => exact .inl ⟨.refl SessionKept.refl _, .refl BatchKept.refl _, rfl, le_rfl⟩
  | batchAdded caller request id hvalid habsent _ hG =>
    exact .inr (.inl ⟨caller, request, id, hvalid, habsent, hG, rfl⟩)
  | sessionAdded caller request id resumeToken hvalid hrefusal habsent =>
    exact .inr (.inr (.inl ⟨caller, request, id, resumeToken, hvalid, hrefusal, habsent, rfl⟩))
  | dropped session hfound _ status error =>
    obtain ⟨fileId, files, heq⟩ := dropSession_eq s (session.givenUp status error)
    rw [heq]
    exact .inl ⟨sessionsKept_put hids hfound ⟨rfl, rfl, rfl, rfl, rfl⟩, .refl BatchKept.refl _, rfl,
      le_rfl⟩
  | chunkWritten =>
    exact .inl ⟨.refl SessionKept.refl _, .refl BatchKept.refl _, rfl, le_rfl⟩
  | chunkCommitted _ hfound =>
    refine .inl ⟨?_, ?_, ?_, ?_⟩
    · simp only [Store.commitChunk, touchBatch_sessions]
      exact sessionsKept_put hids hfound ⟨rfl, rfl, rfl, rfl, rfl⟩
    · exact batchesKept_touchBatch _ _ fun _ => ⟨rfl, rfl, rfl, rfl⟩
    · simp only [Store.commitChunk, touchBatch_messages]
      rfl
    · simp only [Store.commitChunk, touchBatch_messageSequence]
      exact le_rfl
  | marked session hfound hearly => exact .inl (.put hids hfound ⟨rfl, rfl, rfl, rfl, rfl⟩)
  | failed _ hfound => exact .inl (.put hids hfound ⟨rfl, rfl, rfl, rfl, rfl⟩)
  | madeReady _ hfound =>
    refine .inl ⟨?_, ?_, ?_, ?_⟩
    · simp only [Store.commitReady, touchBatch_sessions]
      exact sessionsKept_put hids hfound ⟨rfl, rfl, rfl, rfl, albumEntry_readyWith _ _ _⟩
    · exact batchesKept_touchBatch _ _ fun _ => ⟨rfl, rfl, rfl, rfl⟩
    · simp only [Store.commitReady, touchBatch_messages]
      rfl
    · simp only [Store.commitReady, touchBatch_messageSequence]
      exact le_rfl
  | partRemoved session hfound hstatus => exact .inl ⟨.refl SessionKept.refl _, .refl BatchKept.refl _, rfl, le_rfl⟩
  | idsDrawn drawn => exact .inl ⟨.refl SessionKept.refl _, .refl BatchKept.refl _, rfl, Nat.le_add_right _ _⟩
  | batchCommitted batch hfound hopen hG senderId hrefusal =>
    exact .inr (.inr (.inr ⟨batch, senderId, hfound, hopen, hG, hrefusal, rfl⟩))
  | batchCancelled batch hfound hopen =>
    refine .inl ⟨.refl SessionKept.refl _, ?_, rfl, le_rfl⟩
    refine .setRow BatchKept.refl fun row hrow hid => ⟨rfl, rfl, rfl, rfl, ?_, ?_⟩
    · exact fun hlive => absurd hlive (by decide : ¬ UploadBatchStatus.cancelled.live)
    · intro hcommitted
      have heq : row = batch :=
        List.inj_on_of_nodup_map hbatchIds hrow (getRow_eq_some hfound).1 hid
      exact absurd (heq ▸ hcommitted) hopen

theorem sessionsKept_ids {rows rows' : List UploadSession} (h : Rewritten SessionKept rows rows') :
    rows'.map UploadSession.id = rows.map UploadSession.id := h.map_eq fun _ _ hkept => hkept.id

theorem sessionsKept_album {rows rows' : List UploadSession} (h : Rewritten SessionKept rows rows')
    (batchId : Nat) : albumOf rows' batchId = albumOf rows batchId := by
  obtain ⟨write, rfl, hwrite⟩ := h
  exact albumOf_map fun row hrow _ => ⟨(hwrite row hrow).batchId, (hwrite row hrow).entry⟩

theorem batchesKept_ids (h : Rewritten BatchKept rows rows') :
    rows'.map UploadBatch.id = rows.map UploadBatch.id := h.map_eq fun _ _ hkept => hkept.id

theorem batchesKept_live (h : Rewritten BatchKept rows rows')
    (hlive : ∀ batch ∈ rows, ∀ other ∈ rows, batch.status.live → other.status.live →
      batch.key = other.key → batch = other) :
    ∀ batch ∈ rows', ∀ other ∈ rows', batch.status.live → other.status.live →
      batch.key = other.key → batch = other := by
  obtain ⟨write, rfl, hwrite⟩ := h
  intro batch hbatch other hother hlives hothers hkey
  obtain ⟨row, hrow, rfl⟩ := List.mem_map.mp hbatch
  obtain ⟨row', hrow', rfl⟩ := List.mem_map.mp hother
  have hkept := hwrite row hrow
  have hkept' := hwrite row' hrow'
  rw [hlive row hrow row' hrow' (hkept.live hlives) (hkept'.live hothers)
    (hkept.key.symm.trans (hkey.trans hkept'.key))]

theorem batchesKept_committed (h : Rewritten BatchKept rows rows')
      (hfound : getRow UploadBatch.id batchId rows = some batch)
    (hcommitted : batch.status = .committed) : ∃ batch', getRow UploadBatch.id batchId rows' =
      some batch' ∧ batch'.status = .committed ∧ batch'.key = batch.key := by
  obtain ⟨batch', hfound', hkept⟩ := h.getRow_eq_some (fun _ _ hkept => hkept.id) hfound
  exact ⟨batch', hfound', hkept.committed hcommitted, hkept.key⟩

theorem CommitsSound.rowsKept (h : CommitsSound s) (hkept : RowsKept s s') : CommitsSound s' where
  sessionIds := sessionsKept_ids hkept.sessions ▸ h.sessionIds
  batchIds := batchesKept_ids hkept.batches ▸ h.batchIds
  live := batchesKept_live hkept.batches h.live
  messageIds := by
    rw [hkept.messages]
    exact fun message hmem => (h.messageIds message hmem).trans hkept.sequence
  posted := by
    intro session hmem messageId hmessage
    obtain ⟨row, hrow, hsession⟩ := hkept.sessions.mem hmem
    have hrowMessage : row.previewMetadata.committedMessageId = some messageId :=
      (congrArg AlbumEntry.messageId hsession.entry).symm.trans hmessage
    obtain ⟨hle, batchId, batch, hof, hfound, hcommitted⟩ := h.posted row hrow messageId hrowMessage
    obtain ⟨batch', hfound', hcommitted', -⟩ := batchesKept_committed hkept.batches hfound hcommitted
    exact ⟨hle.trans hkept.sequence, batchId, batch', hsession.batchId.trans hof, hfound',
      hcommitted'⟩

theorem hasKey_iff {request : UploadBatchCreateRequest} : UploadBatch.hasKey caller request batch = true ↔
      batch.key = (newUploadBatch s caller request id).key := by
  simp only [UploadBatch.hasKey, UploadBatch.key, newUploadBatch, Bool.and_eq_true,
    decide_eq_true_eq, BatchKey.mk.injEq, and_assoc]

theorem getRow_append_of_some {α : Type} {key : α → Nat} {rows more : List α} {row : α}
    (h : getRow key id rows = some row) : getRow key id (rows ++ more) = some row := by
  rw [getRow] at h ⊢
  rw [List.find?_append, h, Option.some_or]

theorem CommitsSound.batchAdded (h : CommitsSound s)
    {request : UploadBatchCreateRequest} (habsent : s.batch id = none)
    (hfresh : CreatedAfresh s caller request) :
    CommitsSound { s with batches := s.batches ++ [newUploadBatch s caller request id] } where
  sessionIds := h.sessionIds
  batchIds := by
    exact nodup_map_append_singleton h.batchIds fun batch hbatch =>
      getRow_eq_none.mp habsent batch hbatch
  live := by
    have hnew : ∀ batch ∈ s.batches, batch.status.live →
        batch.key ≠ (newUploadBatch s caller request id).key :=
      fun batch hbatch hlive hkey => hfresh batch hbatch (hasKey_iff.mpr hkey) hlive
    intro batch hbatch other hother hlive hotherLive hkey
    rcases List.mem_append.mp hbatch with hbatch | hbatch
    · rcases List.mem_append.mp hother with hother | hother
      · exact h.live batch hbatch other hother hlive hotherLive hkey
      · rw [List.mem_singleton.mp hother] at hkey
        exact absurd hkey (hnew batch hbatch hlive)
    · rw [List.mem_singleton.mp hbatch] at hkey ⊢
      rcases List.mem_append.mp hother with hother | hother
      · exact absurd hkey.symm (hnew other hother hotherLive)
      · exact (List.mem_singleton.mp hother).symm
  messageIds := h.messageIds
  posted := by
    intro session hsession messageId hmessage
    obtain ⟨hle, batchId, batch, hof, hfound, hcommitted⟩ :=
      h.posted session hsession messageId hmessage
    exact ⟨hle, batchId, batch, hof, getRow_append_of_some hfound, hcommitted⟩

theorem batchId_ne_of_batchRefusal (hrefusal : batchRefusal s caller request = none)
    (hfound : s.batch batchId = some batch) (hover : batch.status.terminal = true) :
    request.batchId ≠ some batchId := by
  intro hrequest
  simp only [batchRefusal, hrequest] at hrefusal
  cases hget : getUploadBatchForCurrentUser s caller batchId with
  | error error =>
    rw [hget] at hrefusal
    cases hrefusal
  | ok found =>
    have hsame : found = batch :=
      Option.some.inj ((getUploadBatchForCurrentUser_ok hget).1.symm.trans hfound)
    rw [hget, hsame] at hrefusal
    dsimp only at hrefusal
    rw [if_pos hover] at hrefusal
    split_ifs at hrefusal

theorem CommitsSound.sessionAdded (h : CommitsSound s)
    {resumeToken : String} (hvalid : request.valid = true) (habsent : s.session id = none) :
    CommitsSound ({ s with
      sessions := s.sessions ++ [newUploadSession s caller request id resumeToken]
      }.touchBatch request.batchId startBatch) := by
  have hbatches := batchesKept_touchBatch { s with
      sessions := s.sessions ++ [newUploadSession s caller request id resumeToken] }
    request.batchId startBatch_eq
  refine
    { sessionIds := ?_
      batchIds := batchesKept_ids hbatches ▸ h.batchIds
      live := batchesKept_live hbatches h.live
      messageIds := by
        rw [touchBatch_messages, touchBatch_messageSequence]
        exact h.messageIds
      posted := ?_ }
  · rw [touchBatch_sessions]
    exact nodup_map_append_singleton h.sessionIds fun session hsession =>
      getRow_eq_none.mp habsent session hsession
  · rw [touchBatch_sessions, touchBatch_messageSequence]
    intro session hsession messageId hmessage
    rcases List.mem_append.mp hsession with hsession | hsession
    · obtain ⟨hle, batchId, batch, hof, hfound, hcommitted⟩ :=
        h.posted session hsession messageId hmessage
      obtain ⟨batch', hfound', hcommitted', -⟩ := batchesKept_committed hbatches hfound hcommitted
      exact ⟨hle, batchId, batch', hof, hfound', hcommitted'⟩
    · rw [List.mem_singleton.mp hsession] at hmessage
      simp only [UploadSessionCreateRequest.valid, Bool.and_eq_true] at hvalid
      rw [newUploadSession, Option.isNone_iff_eq_none.mp hvalid.2] at hmessage
      cases hmessage

theorem mem_activeSessions (h : session ∈ activeSessions s batchId) :
    session ∈ s.sessions ∧ session.batchId = some batchId :=
  mem_listUploadBatchSessions.mp (List.mem_of_mem_filter h)

theorem orderSessions_eq (h : CreatedInOrder s batch) :
    orderSessions (activeSessions s batch.id) = activeSessions s batch.id :=
  List.Pairwise.insertionSort_eq h

theorem batchesKept_commitBatch (hids : (s.batches.map UploadBatch.id).Nodup)
    (hfound : s.batch batch.id = some batch) (hopen : batch.status.terminal = false)
    (senderId : Nat) (ordered : List UploadSession) :
    Rewritten BatchKept s.batches (s.commitBatch batch senderId ordered).batches := by
  refine .setRow BatchKept.refl fun row hrow hid => ⟨rfl, rfl, rfl, rfl, ?_, fun _ => rfl⟩
  have heq : row = batch :=
    List.inj_on_of_nodup_map hids hrow (getRow_eq_some hfound).1 hid
  exact fun _ => .inl (heq ▸ hopen)

theorem commitSession_row (h : CommitsSound s) {first : Nat} {row : UploadSession}
    (hrow : row ∈ s.sessions) :
    commitSession (activeSessions s batchId) first row = row ∨
      ∃ index, (activeSessions s batchId)[index]? = some row ∧ row.batchId = some batchId ∧
        commitSession (activeSessions s batchId) first row = row.committedWith (first + index) := by
  rcases commitSession_cases (activeSessions s batchId) first row with
    ⟨-, hsame⟩ | ⟨index, session, hindex, hid, hcommitted⟩
  · exact .inl hsame
  · obtain ⟨hmem, hbatch⟩ := mem_activeSessions (List.mem_of_getElem? hindex)
    have heq : session = row := List.inj_on_of_nodup_map h.sessionIds hmem hrow hid
    exact .inr ⟨index, heq ▸ hindex, heq ▸ hbatch, hcommitted⟩

theorem mem_batchMessages {senderId : Nat} {ordered : List UploadSession}
    {message : Message} (h : message ∈ batchMessages s batch senderId ordered) :
    s.messageSequence < message.id ∧ message.id ≤ s.messageSequence + ordered.length := by
  obtain ⟨⟨session, index⟩, hmem, rfl⟩ := List.mem_map.mp h
  have hlt := List.snd_lt_of_mem_zipIdx hmem
  show s.messageSequence < s.messageSequence + index + 1 ∧
    s.messageSequence + index + 1 ≤ s.messageSequence + ordered.length
  simp only at hlt
  omega

theorem CommitsSound.commitBatch (h : CommitsSound s)
    (hfound : s.batch batch.id = some batch) (hopen : batch.status.terminal = false)
    (senderId : Nat) :
    CommitsSound (s.commitBatch batch senderId (activeSessions s batch.id)) := by
  have hbatches := batchesKept_commitBatch h.batchIds hfound hopen senderId (activeSessions s batch.id)
  refine
    { sessionIds := ?_
      batchIds := batchesKept_ids hbatches ▸ h.batchIds
      live := batchesKept_live hbatches h.live
      messageIds := ?_
      posted := ?_ }
  · show ((commitSessions s.sessions _ _).map UploadSession.id).Nodup
    rw [map_id_commitSessions]
    exact h.sessionIds
  · intro message hmem
    rcases List.mem_append.mp hmem with hmem | hmem
    · exact (h.messageIds message hmem).trans (Nat.le_add_right _ _)
    · exact (mem_batchMessages hmem).2
  · intro session hsession messageId hmessage
    obtain ⟨row, hrow, rfl⟩ := List.mem_map.mp hsession
    rcases commitSession_row h hrow with hsame | ⟨index, hindex, hof, hcommitted⟩
    · rw [hsame] at hmessage ⊢
      obtain ⟨hle, batchId, other, hof, hother, hstatus⟩ := h.posted row hrow messageId hmessage
      obtain ⟨other', hother', hstatus', -⟩ := batchesKept_committed hbatches hother hstatus
      exact ⟨hle.trans (Nat.le_add_right _ _), batchId, other', hof, hother', hstatus'⟩
    · rw [hcommitted] at hmessage ⊢
      have hlt := (List.getElem?_eq_some_iff.mp hindex).1
      have hid : s.messageSequence + 1 + index = messageId := Option.some.inj hmessage
      refine ⟨?_, batch.id, _, hof, getRow_setRow_self (fun _ hid => hid) hfound, rfl⟩
      show messageId ≤ s.messageSequence + (activeSessions s batch.id).length
      omega

theorem reload_append {ids : List Nat} {more : List Message}
    (hids : ∀ id ∈ ids, id ≤ s.messageSequence) (hmessages : s'.messages = s.messages ++ more)
    (hmore : ∀ message ∈ more, s.messageSequence < message.id) :
    reloadMessagesForDelivery s' ids = reloadMessagesForDelivery s ids := by
  refine List.filterMap_congr fun id hid => ?_
  have hnone : more.find? (fun row => decide (row.id = id)) = none := by
    rw [List.find?_eq_none]
    intro message hmem heq
    have hle := hids id hid
    have hlt := hmore message hmem
    rw [of_decide_eq_true heq] at hlt
    omega
  rw [hmessages, getRow, List.find?_append, hnone, Option.or_none, getRow]

theorem CommitsSound.postedIds_le (h : CommitsSound s) (batchId : Nat) :
    ∀ id ∈ postedIds (albumOf s.sessions batchId), id ≤ s.messageSequence := by
  intro id hid
  obtain ⟨entry, hentry, hmessage⟩ := List.mem_filterMap.mp hid
  rw [List.mem_insertionSort] at hentry
  obtain ⟨session, hsession, rfl⟩ := List.mem_map.mp hentry
  have hof := (Option.filter_eq_some_iff.mp hmessage).1
  exact (h.posted session (List.mem_of_mem_filter hsession) id hof).1

theorem PostedAs.rowsKept (h : PostedAs s batchId key messages) (hkept : RowsKept s s') :
    PostedAs s' batchId key messages := by
  obtain ⟨⟨batch, hfound, hcommitted, rfl⟩, hmessages⟩ := h
  refine ⟨batchesKept_committed hkept.batches hfound hcommitted, ?_⟩
  rw [sessionsKept_album hkept.sessions, ← hmessages, reloadMessagesForDelivery, hkept.messages,
    reloadMessagesForDelivery]

theorem PostedAs.sessionAdded (h : PostedAs s batchId key messages)
    {resumeToken : String} (hrefusal : batchRefusal s caller request = none) :
    PostedAs ({ s with
      sessions := s.sessions ++ [newUploadSession s caller request id resumeToken]
      }.touchBatch request.batchId startBatch) batchId key messages := by
  obtain ⟨⟨batch, hfound, hcommitted, rfl⟩, hmessages⟩ := h
  have hbatches := batchesKept_touchBatch { s with
      sessions := s.sessions ++ [newUploadSession s caller request id resumeToken] }
    request.batchId startBatch_eq
  have hother : request.batchId ≠ some batchId :=
    batchId_ne_of_batchRefusal hrefusal hfound (by rw [hcommitted]; rfl)
  refine ⟨batchesKept_committed hbatches hfound hcommitted, ?_⟩
  have halbum : albumOf (s.sessions ++ [newUploadSession s caller request id resumeToken]) batchId =
      albumOf s.sessions batchId := by
    rw [albumOf, List.filter_append, List.filter_cons_of_neg (by simp [newUploadSession, hother]),
      List.filter_nil, List.append_nil, albumOf]
  rw [touchBatch_sessions, halbum, ← hmessages, reloadMessagesForDelivery, touchBatch_messages,
    reloadMessagesForDelivery]

theorem PostedAs.commitBatch (hs : CommitsSound s) (h : PostedAs s batchId key messages)
    (hfound : s.batch batch.id = some batch) (hopen : batch.status.terminal = false)
    (senderId : Nat) :
    PostedAs (s.commitBatch batch senderId (activeSessions s batch.id)) batchId key messages := by
  obtain ⟨⟨posted, hposted, hcommitted, rfl⟩, hmessages⟩ := h
  have hbatches := batchesKept_commitBatch hs.batchIds hfound hopen senderId (activeSessions s batch.id)
  have hne : batchId ≠ batch.id := by
    intro heq
    rw [heq, hfound] at hposted
    cases hposted
    rw [hcommitted] at hopen
    cases hopen
  refine ⟨batchesKept_committed hbatches hposted hcommitted, ?_⟩
  have halbum : albumOf (commitSessions s.sessions (activeSessions s batch.id)
      (s.messageSequence + 1)) batchId = albumOf s.sessions batchId := by
    refine albumOf_map fun row hrow hof => ?_
    rcases commitSession_row hs hrow with hsame | ⟨index, -, hrowBatch, hwritten⟩
    · rw [hsame]
      exact ⟨rfl, rfl⟩
    · rw [hwritten] at hof
      rcases hof with hof | hof
      · exact absurd (Option.some.inj (hof.symm.trans hrowBatch)) hne
      · exact absurd (Option.some.inj (Eq.trans (Eq.symm hof) hrowBatch)) hne
  show reloadMessagesForDelivery (s.commitBatch batch senderId (activeSessions s batch.id))
    (postedIds (albumOf (commitSessions s.sessions (activeSessions s batch.id)
      (s.messageSequence + 1)) batchId)) = messages
  rw [halbum, ← hmessages]
  exact reload_append (hs.postedIds_le batchId) rfl fun message hmem => (mem_batchMessages hmem).1

theorem map_findIdx_eq {ordered : List UploadSession} (hids : (ordered.map UploadSession.id).Nodup)
    (first : Nat) :
    (ordered.map fun row => first + ordered.findIdx fun session => session.id = row.id) =
      (List.range ordered.length).map (first + ·) := by
  refine List.ext_getElem (by simp) fun index hindex hrange => ?_
  have hlt : index < ordered.length := by simpa using hindex
  have hfind : (ordered.findIdx fun session => session.id = ordered[index].id) = index := by
    refine (List.findIdx_eq hlt).mpr ⟨decide_eq_true rfl, fun earlier hearlier => ?_⟩
    rw [decide_eq_false_iff_not]
    intro hsame
    have hpair := List.pairwise_iff_getElem.mp hids earlier index (by simpa using hearlier.trans hlt)
      (by simpa using hlt) hearlier
    rw [List.getElem_map, List.getElem_map] at hpair
    exact hpair hsame
  rw [List.getElem_map, hfind, List.getElem_map, List.getElem_range]

theorem committedIds_commit {listed : List UploadSession} {p : UploadSession → Bool} {first : Nat}
    (hids : (listed.map UploadSession.id).Nodup) (hfirst : first ≠ 0)
    (hunposted : ∀ row ∈ listed, row.previewMetadata.committedMessageId = none) :
    committedIds (listed.map (commitSession (listed.filter p) first)) =
      (List.range (listed.filter p).length).map (first + ·) := by
  have hactive : ((listed.filter p).map UploadSession.id).Nodup :=
    (List.filter_sublist.map _).nodup hids
  have hrow : ∀ row ∈ listed,
      ((commitSession (listed.filter p) first row).previewMetadata.committedMessageId.filter
        (· ≠ 0)) = if p row = true then
          some (first + (listed.filter p).findIdx fun session => session.id = row.id) else none := by
    intro row hmem
    by_cases hp : p row = true
    · have hex : ∃ session, session ∈ listed.filter p ∧ decide (session.id = row.id) = true :=
        ⟨row, List.mem_filter.mpr ⟨hmem, hp⟩, decide_eq_true rfl⟩
      rw [if_pos hp, commitSession, List.findIdx?_eq_some_of_exists hex]
      exact Option.filter_some_pos (decide_eq_true (by omega))
    · rw [if_neg hp]
      rcases commitSession_cases (listed.filter p) first row with
        ⟨-, hsame⟩ | ⟨index, session, hindex, hid, -⟩
      · rw [hsame, hunposted row hmem]
        rfl
      · obtain ⟨hsession, hps⟩ := List.mem_filter.mp (List.mem_of_getElem? hindex)
        have heq : session = row := List.inj_on_of_nodup_map hids hsession hmem hid
        exact absurd (heq ▸ hps) hp
  rw [committedIds, List.filterMap_map, ← map_findIdx_eq hactive, ← List.filterMap_eq_map',
    List.filterMap_filter]
  exact List.filterMap_congr hrow

theorem listUploadBatchSessions_commit (s : Store) (batch : UploadBatch) (senderId : Nat)
    (ordered : List UploadSession) :
    listUploadBatchSessions (s.commitBatch batch senderId ordered) batch.id =
      (listUploadBatchSessions s batch.id).map
        (commitSession ordered (s.messageSequence + 1)) := by
  have hsame : ∀ row, (commitSession ordered (s.messageSequence + 1) row).batchId = row.batchId ∧
      (commitSession ordered (s.messageSequence + 1) row).createdAt = row.createdAt := by
    intro row
    unfold commitSession
    split <;> exact ⟨rfl, rfl⟩
  have hfilter : ((commitSessions s.sessions ordered (s.messageSequence + 1)).filter fun session =>
      session.batchId = some batch.id) = (s.sessions.filter fun session =>
        session.batchId = some batch.id).map (commitSession ordered (s.messageSequence + 1)) := by
    rw [commitSessions, List.filter_map]
    refine congrArg _ (List.filter_congr fun row _ => ?_)
    rw [Function.comp_apply, (hsame row).1]
  show List.insertionSort _ ((commitSessions s.sessions ordered (s.messageSequence + 1)).filter
    fun session => session.batchId = some batch.id) = _
  rw [hfilter, listUploadBatchSessions]
  refine (List.map_insertionSort _ _ _ _ fun row _ other _ => ?_).symm
  rw [(hsame row).2, (hsame other).2, commitSession_id, commitSession_id]

theorem postedAs_commitBatch (h : CommitsSound s)
    (hfound : s.batch batch.id = some batch) (hopen : batch.status.terminal = false)
    (senderId : Nat) :
    PostedAs (s.commitBatch batch senderId (activeSessions s batch.id)) batch.id batch.key
      (reloadMessagesForDelivery (s.commitBatch batch senderId (activeSessions s batch.id))
        ((List.range (activeSessions s batch.id).length).map (s.messageSequence + 1 + ·))) := by
  refine ⟨⟨_, getRow_setRow_self (fun _ hid => hid) hfound, rfl, rfl⟩, ?_⟩
  rw [← committedIds_listUploadBatchSessions, listUploadBatchSessions_commit]
  have hunposted : ∀ row ∈ listUploadBatchSessions s batch.id,
      row.previewMetadata.committedMessageId = none := by
    intro row hrow
    obtain ⟨hmem, hof⟩ := mem_listUploadBatchSessions.mp hrow
    cases hmessage : row.previewMetadata.committedMessageId with
    | none => rfl
    | some messageId =>
      obtain ⟨-, batchId, other, hofOther, hother, hcommitted⟩ := h.posted row hmem messageId hmessage
      rw [← Option.some.inj (hof.symm.trans hofOther), hfound] at hother
      cases hother
      rw [hcommitted] at hopen
      cases hopen
  rw [activeSessions, committedIds_commit (nodup_listUploadBatchSessions h.sessionIds batch.id)
    (Nat.succ_ne_zero _) hunposted]

/-! ## Runs -/

theorem CommitsSound.effect (h : CommitsSound s) (heffect : Effect media commitGuards s s') :
    CommitsSound s' := by
  rcases heffect.rows_cases h.sessionIds h.batchIds with hkept |
    ⟨caller, request, id, -, habsent, hfresh, rfl⟩ |
    ⟨caller, request, id, resumeToken, hvalid, hrefusal, habsent, rfl⟩ |
    ⟨batch, senderId, hfound, hopen, horder, hrefusal, rfl⟩
  · exact h.rowsKept hkept
  · exact h.batchAdded habsent hfresh
  · exact h.sessionAdded hvalid habsent
  · rw [orderSessions_eq horder]
    exact h.commitBatch hfound hopen senderId

theorem PostedAs.effect (hs : CommitsSound s) (h : PostedAs s batchId key messages)
    (heffect : Effect media commitGuards s s') : PostedAs s' batchId key messages := by
  rcases heffect.rows_cases hs.sessionIds hs.batchIds with hkept |
    ⟨caller, request, id, -, habsent, hfresh, rfl⟩ |
    ⟨caller, request, id, resumeToken, hvalid, hrefusal, habsent, rfl⟩ |
    ⟨batch, senderId, hfound, hopen, horder, hrefusal, rfl⟩
  · exact h.rowsKept hkept
  · obtain ⟨⟨batch, hfound, hcommitted, hkey⟩, hmessages⟩ := h
    exact ⟨⟨batch, getRow_append_of_some hfound, hcommitted, hkey⟩, hmessages⟩
  · exact h.sessionAdded hrefusal
  · rw [orderSessions_eq horder]
    exact h.commitBatch hs hfound hopen senderId

/-- A batch is created only when none of its key is open or committed, and committed only with its
sessions created in the order of the album. -/
def OncePerKey (s : Store) (operation : Operation) (_ : Store) : Prop :=
  commitGuards.grant s operation

theorem commitsSound_empty : CommitsSound .empty where
  sessionIds := List.nodup_nil
  batchIds := List.nodup_nil
  live := by simp [Store.empty]
  messageIds := by simp [Store.empty]
  posted := by simp [Store.empty]

theorem CommitsSound.step (h : CommitsSound s) (operation : Operation)
    (honce : OncePerKey s operation (step media s operation)) :
    CommitsSound (step media s operation) :=
  (step_effects h.sessionIds operation honce).invariant (fun _ _ hs heffect => hs.effect heffect) h

theorem PostedAs.step
    (hs : CommitsSound s) (h : PostedAs s batchId key messages) (operation : Operation)
    (honce : OncePerKey s operation (step media s operation)) :
    PostedAs (step media s operation) batchId key messages :=
  ((step_effects hs.sessionIds operation honce).invariant
    (I := fun s => CommitsSound s ∧ PostedAs s batchId key messages)
    (fun _ _ hs heffect => ⟨hs.1.effect heffect, hs.2.effect hs.1 heffect⟩) ⟨hs, h⟩).2

theorem postedAs_of_returned (h : CommitsSound s) {accessible : Bool} {failAfter : Option Nat}
    (horder : ∀ batch, getUploadBatchForCurrentUser s caller id = .ok batch →
      batch.status.terminal = false → CreatedInOrder s batch)
    (hreturned : (commitCall s caller id accessible failAfter).1 = .returned messages) :
    ∃ key, key.ownerUserId = caller.ownerUserId ∧ key.actorUserId = caller.actorUserId ∧
      PostedAs (commitCall s caller id accessible failAfter).2 id key messages := by
  unfold commitCall onBatch at hreturned ⊢
  cases hget : getUploadBatchForCurrentUser s caller id with
  | error error =>
    rw [hget] at hreturned
    cases hreturned
  | ok batch =>
    rw [hget] at hreturned
    obtain ⟨hfound, howner, hactor⟩ := getUploadBatchForCurrentUser_ok hget
    have hid := Store.batch_id hfound
    refine ⟨batch.key, howner, hactor, ?_⟩
    dsimp only at hreturned ⊢
    unfold commitUploadBatch at hreturned ⊢
    by_cases hcommitted : batch.status = .committed
    · rw [if_pos hcommitted] at hreturned ⊢
      by_cases haccessible : accessible = true
      · rw [if_neg (not_not.mpr haccessible)] at hreturned ⊢
        cases hreturned
        refine ⟨⟨batch, hfound, hcommitted, rfl⟩, ?_⟩
        rw [← hid, committedIds_listUploadBatchSessions]
      · rw [if_pos haccessible] at hreturned
        cases hreturned
    · rw [if_neg hcommitted] at hreturned ⊢
      split at hreturned
      · cases hreturned
      next hterminal =>
      rw [if_neg hterminal]
      split at hreturned
      · cases hreturned
      next haccessible =>
      rw [if_neg haccessible]
      have hopen : batch.status.terminal = false := Bool.not_eq_true _ ▸ hterminal
      have hordered := orderSessions_eq (horder batch hget hopen)
      dsimp only at hreturned ⊢
      split at hreturned
      · cases hreturned
      cases failAfter with
      | some drawn => cases hreturned
      | none =>
        have hposted := postedAs_commitBatch h (hid.symm ▸ hfound) hopen caller.userId
        simp only [activeSessions] at hordered hposted
        simp only [hordered] at hreturned ⊢
        cases hreturned
        rw [← hid]
        exact hposted

theorem PostedAs.commitCall_eq (h : PostedAs s id key messages) (failAfter : Option Nat)
    (howner : key.ownerUserId = caller.ownerUserId)
    (hactor : key.actorUserId = caller.actorUserId) :
    commitCall s caller id true failAfter = (.returned messages, s) := by
  obtain ⟨⟨batch, hfound, hcommitted, rfl⟩, hmessages⟩ := h
  rw [commitCall, onBatch, getUploadBatchForCurrentUser_of hfound howner hactor]
  dsimp only
  rw [commitUploadBatch, if_pos hcommitted, if_neg (by simp), committedIds_listUploadBatchSessions,
    Store.batch_id hfound, hmessages]

end Kept

/-- In every run from an empty store in which no batch is created for a key with an open or a
committed batch, and batches are committed with their sessions created in the order of the album:
each key has at most one committed batch, and a commit repeated at the end returns the messages of
the first in their order and changes nothing. -/
theorem commits_kept (media : Media) (operations : List Operation)
    (honce : EachStep (step media) OncePerKey .empty operations) :
    (∀ batch ∈ (run (step media) .empty operations).batches,
      ∀ other ∈ (run (step media) .empty operations).batches, batch.status = .committed →
        other.status = .committed → batch.key = other.key → batch = other) ∧
    ∀ before caller id accessible failAfter after messages,
      operations = before ++ .commitBatch caller id accessible failAfter :: after →
      (commitCall (run (step media) .empty before) caller id accessible failAfter).1 =
        .returned messages →
      ∀ again failAgain, again.ownerUserId = caller.ownerUserId →
        again.actorUserId = caller.actorUserId →
        commitCall (run (step media) .empty operations) again id true failAgain =
          (.returned messages, run (step media) .empty operations) := by
  have hsound : ∀ operations, EachStep (step media) OncePerKey .empty operations →
      CommitsSound (run (step media) .empty operations) := fun operations =>
    run_invariant (I := CommitsSound) (fun _ operation h hstep => h.step operation hstep) operations
      .empty commitsSound_empty
  refine ⟨fun batch hbatch other hother hcommitted hcommitted' hkey =>
    (hsound operations honce).live batch hbatch other hother (.inr hcommitted) (.inr hcommitted')
      hkey, ?_⟩
  rintro before caller id accessible failAfter after messages rfl hreturned again failAgain
    howner hactor
  obtain ⟨hbefore, hcommit, hafter⟩ := eachStep_append.mp honce
  have hfirst := hsound before hbefore
  have horder : ∀ batch, getUploadBatchForCurrentUser (run (step media) .empty before) caller id =
      .ok batch → batch.status.terminal = false →
        CreatedInOrder (run (step media) .empty before) batch := by
    intro batch hget hopen
    simp only [OncePerKey, Guards.grant, hget] at hcommit
    exact hcommit hopen
  obtain ⟨key, hkeyOwner, hkeyActor, hposted⟩ := postedAs_of_returned hfirst horder hreturned
  have hend := run_invariant (C := OncePerKey)
    (I := fun s => CommitsSound s ∧ PostedAs s id key messages)
    (fun _ operation h hstep => ⟨h.1.step operation hstep, h.2.step h.1 operation hstep⟩) after _
    ⟨hfirst.step _ hcommit, hposted⟩ hafter
  rw [run_append, run_cons]
  exact hend.2.commitCall_eq failAgain (hkeyOwner.trans howner.symm) (hkeyActor.trans hactor.symm)

def albumCaller : Caller := ⟨1, 1, none⟩

def albumMedia : Media := ⟨fun _ => "text/plain", fun _ _ => none⟩

def albumRequest : UploadBatchCreateRequest :=
  { roomKind := .direct, targetId := 2, messageKind := .album, expectedItems := 2
    captionPolicy := .none, idempotencyKey := "album-0001" }

def albumItem (batchId : Nat) (albumIndex : Int) : UploadSessionCreateRequest :=
  { batchId := some batchId, roomKind := .direct, targetId := 2, mediaType := .document
    fileName := "a.txt", mimeType := "text/plain", totalBytes := 1, chunkSize := 1
    previewMetadata := { albumIndex := some albumIndex } }

def uploadItem (session : Nat) (token : String) (batchId : Nat) (albumIndex : Int) :
    List Operation :=
  [.createSession albumCaller true (albumItem batchId albumIndex) session token,
    .appendChunk albumCaller session token 0 [72] true false,
    .finalize albumCaller session session none none]

/-- An album whose items are created with the given indexes, and its commit. -/
def sendAlbum (batchId first : Nat) (token : String) (index index' : Int) : List Operation :=
  .createBatch albumCaller true albumRequest batchId ::
    (uploadItem first (token ++ "-a") batchId index ++
      uploadItem (first + 1) (token ++ "-b") batchId index' ++
      [.commitBatch albumCaller batchId true none])

def orderedAlbum : List Operation := (sendAlbum 1 10 "x" 0 1).dropLast

/-- An album in order is posted once, and a repeated commit returns its two messages. -/
theorem album_in_order_kept :
    EachStep (step albumMedia) OncePerKey .empty (sendAlbum 1 10 "x" 0 1) ∧
      ∃ messages, commitCall (run (step albumMedia) .empty (sendAlbum 1 10 "x" 0 1)) albumCaller 1
        true none = (.returned messages, run (step albumMedia) .empty (sendAlbum 1 10 "x" 0 1)) ∧
        messages.map Message.id = [1, 2] := by
  have honce : EachStep (step albumMedia) OncePerKey .empty (sendAlbum 1 10 "x" 0 1) := by
    refine ⟨fun _ batch hbatch => absurd hbatch List.not_mem_nil, trivial, fun _ => trivial,
      trivial, trivial, fun _ => trivial, trivial, fun _ => ?_, trivial⟩
    exact (by decide : (activeSessions (run (step albumMedia) .empty orderedAlbum)
      1).Pairwise UploadSession.albumLe)
  refine ⟨honce, _, (commits_kept albumMedia _ honce).2 orderedAlbum albumCaller 1 true none [] _ rfl
    rfl albumCaller none rfl rfl, ?_⟩
  decide

/-- The same creation after the commit makes a second batch, and both are committed; an album whose
second item was created first is read back in another order. -/
theorem album_posted_twice_and_reordered :
    (∃ batch ∈ (run (step albumMedia) .empty
        (sendAlbum 1 10 "x" 0 1 ++ sendAlbum 2 20 "y" 0 1)).batches,
      ∃ other ∈ (run (step albumMedia) .empty
        (sendAlbum 1 10 "x" 0 1 ++ sendAlbum 2 20 "y" 0 1)).batches,
        batch.status = .committed ∧ other.status = .committed ∧ batch.key = other.key ∧
          batch ≠ other) ∧
    (commitCall (run (step albumMedia) .empty (sendAlbum 1 10 "x" 1 0).dropLast) albumCaller 1 true
        none).1 ≠
      (commitCall (run (step albumMedia) .empty (sendAlbum 1 10 "x" 1 0)) albumCaller 1 true
        none).1 := by
  decide

end TradingBot.Uploads
