import TradingBot.Misc.Rows
import TradingBot.Misc.Run
import TradingBot.Misc.Table
import TradingBot.Uploads.Model
import Mathlib.Data.List.Sort

/-!
# The calls of the resumable chat uploads

`src/core/services/chat_upload_session_service.py` behind the endpoints of
`src/api/routers/chat.py`, each call one operation on the tables and the part files. A call that is
not one transaction may stop between its effects: an append between the write to the part file and
its commit, a finalize after the commit of `FINALIZING` and after that of `READY`.

Whether an upload's target can be reached is an input. The acknowledged chunks and the contents that
became `READY` are history that no call reads.
-/

namespace TradingBot.Uploads

open TradingBot.Misc

structure Acknowledged where
  session : Nat
  offset : Nat
  chunk : Bytes
  deriving DecidableEq, Repr

/-- The content that a finalize call read and the file it stored when the session became `READY`. -/
structure Readied where
  session : Nat
  content : Bytes
  file : ChatFile
  deriving DecidableEq, Repr

structure Store where
  now : Nat
  batches : List UploadBatch
  sessions : List UploadSession
  /-- The file at `temp_storage_path` of each session. -/
  parts : Nat → Option Bytes
  chatFiles : List ChatFile
  messages : List Message
  messageSequence : Nat
  acknowledged : List Acknowledged
  readied : List Readied

def Store.empty : Store :=
  { now := 0, batches := [], sessions := [], parts := fun _ => none, chatFiles := [],
    messages := [], messageSequence := 0, acknowledged := [], readied := [] }

def Store.session (s : Store) (id : Nat) : Option UploadSession :=
  getRow UploadSession.id id s.sessions

def Store.batch (s : Store) (id : Nat) : Option UploadBatch := getRow UploadBatch.id id s.batches

def Store.putSession (s : Store) (session : UploadSession) : Store :=
  { s with sessions := setRow UploadSession.id session.id (fun _ => session) s.sessions }

def Store.partBytes (s : Store) (id : Nat) : Bytes := (s.parts id).getD []

def Store.removePart (s : Store) (id : Nat) : Store :=
  { s with parts := Function.update s.parts id none }

/-- The later of two batches by `created_at` and `id`. -/
def UploadBatch.after (batch other : UploadBatch) : Bool :=
  decide (other.createdAt < batch.createdAt ∨
    other.createdAt = batch.createdAt ∧ other.id < batch.id)

def UploadBatch.hasKey (caller : Caller) (request : UploadBatchCreateRequest)
    (batch : UploadBatch) : Bool :=
  batch.ownerUserId = caller.ownerUserId && batch.actorUserId = caller.actorUserId &&
    batch.roomKind = request.roomKind && batch.targetId = request.targetId &&
    batch.idempotencyKey = request.idempotencyKey

def getExistingUploadBatchByIdempotency (s : Store) (caller : Caller)
    (request : UploadBatchCreateRequest) : Option UploadBatch :=
  firstBy UploadBatch.after (s.batches.filter (UploadBatch.hasKey caller request))

def newUploadBatch (s : Store) (caller : Caller) (request : UploadBatchCreateRequest) (id : Nat) :
    UploadBatch :=
  { id := id, ownerUserId := caller.ownerUserId, actorUserId := caller.actorUserId
    roomKind := request.roomKind, targetId := request.targetId, messageKind := request.messageKind
    expectedItems := request.expectedItems, captionPolicy := request.captionPolicy
    idempotencyKey := request.idempotencyKey, status := .collecting, committedItems := 0
    createdAt := s.now, expiresAt := s.now + uploadBatchLifetime }

def addUploadBatch (s : Store) (caller : Caller) (request : UploadBatchCreateRequest) (id : Nat) :
    Answer UploadBatch × Store :=
  let batch := newUploadBatch s caller request id
  if request.messageKind = .single ∧ request.expectedItems ≠ 1 then
    (.refuse 400 "Single-item batches must expect exactly one item", s)
  else if (s.batch id).isSome then (.stopped, s)
  else (.returned batch, { s with batches := s.batches ++ [batch] })

def createUploadBatch (s : Store) (caller : Caller) (accessible : Bool)
    (request : UploadBatchCreateRequest) (id : Nat) : Answer UploadBatch × Store :=
  if ¬ request.valid then (.refuse 422 "Unprocessable Entity", s)
  else if ¬ accessible then (.refuse 403 "target", s)
  else
    match getExistingUploadBatchByIdempotency s caller request with
    | some existing =>
      if ¬ existing.status.terminal then (.returned existing, s)
      else addUploadBatch s caller request id
    | none => addUploadBatch s caller request id

def getUploadBatchForCurrentUser (s : Store) (caller : Caller) (id : Nat) :
    Except HttpError UploadBatch :=
  match s.batch id with
  | none => .error ⟨404, .text "Upload batch not found"⟩
  | some batch =>
    if batch.ownerUserId ≠ caller.ownerUserId then .error ⟨404, .text "Upload batch not found"⟩
    else if batch.actorUserId ≠ caller.actorUserId then
      .error ⟨403, .text "Upload batch belongs to another active session owner"⟩
    else .ok batch

def listUploadBatchSessions (s : Store) (batchId : Nat) : List UploadSession :=
  (s.sessions.filter fun session => session.batchId = some batchId).insertionSort
    fun session other => session.createdAt < other.createdAt ∨
      session.createdAt = other.createdAt ∧ session.id ≤ other.id

def Store.touchBatch (s : Store) (batchId : Option Nat) (write : UploadBatch → UploadBatch) : Store :=
  match batchId with
  | none => s
  | some id => { s with
      batches := setRow UploadBatch.id id
        (fun batch => if batch.status.terminal then batch else write batch) s.batches }

def newUploadSession (s : Store) (caller : Caller) (request : UploadSessionCreateRequest)
    (id : Nat) (resumeToken : String) : UploadSession :=
  { id := id, batchId := request.batchId, ownerUserId := caller.ownerUserId
    actorUserId := caller.actorUserId, roomKind := request.roomKind, targetId := request.targetId
    mediaType := request.mediaType, originalFileName := baseName (pyStrip request.fileName)
    mimeType := baseContentType request.mimeType, totalBytes := request.totalBytes.toNat
    chunkSize := request.chunkSize.toNat, receivedBytes := 0, nextOffset := 0, chunkCount := 0
    previewMetadata := request.previewMetadata, status := .created, resumeToken := resumeToken
    finalChatFileId := none, retryCount := 0, lastError := none, createdAt := s.now
    expiresAt := s.now + uploadSessionLifetime }

def batchRefusal (s : Store) (caller : Caller) (request : UploadSessionCreateRequest) :
    Option HttpError :=
  match request.batchId with
  | none => none
  | some batchId =>
    match getUploadBatchForCurrentUser s caller batchId with
    | .error error => some error
    | .ok batch =>
      if batch.roomKind ≠ request.roomKind ∨ batch.targetId ≠ request.targetId then
        some ⟨400, .text "Upload session target does not match batch target"⟩
      else if batch.status.terminal then some ⟨409, .text "Upload batch is no longer mutable"⟩
      else if batch.expectedItems ≤
          (s.sessions.filter fun session => session.batchId = some batchId).length then
        some ⟨400, .text "Upload batch already has the expected number of items"⟩
      else none

def startBatch (batch : UploadBatch) : UploadBatch :=
  if batch.status = .collecting then { batch with status := .uploading } else batch

/-- Line 316; its drawn UUID and resume token are new. -/
def createUploadSession (s : Store) (caller : Caller) (accessible : Bool)
    (request : UploadSessionCreateRequest) (id : Nat) (resumeToken : String) :
    Answer UploadSession × Store :=
  if ¬ request.valid then (.refuse 422 "Unprocessable Entity", s)
  else if ¬ accessible then (.refuse 403 "target", s)
  else
    match batchRefusal s caller request with
    | some error => (.raised error, s)
    | none =>
      if (s.session id).isSome ∨ resumeToken ∈ s.sessions.map UploadSession.resumeToken then
        (.stopped, s)
      else
        let session := newUploadSession s caller request id resumeToken
        (.returned session,
          { s with sessions := s.sessions ++ [session] }.touchBatch request.batchId startBatch)

def getUploadSessionForCurrentUser (s : Store) (caller : Caller) (id : Nat) :
    Except HttpError UploadSession :=
  match s.session id with
  | none => .error ⟨404, .text "Upload session not found"⟩
  | some session =>
    if session.ownerUserId ≠ caller.ownerUserId then
      .error ⟨404, .text "Upload session not found"⟩
    else if session.actorUserId ≠ caller.actorUserId then
      .error ⟨403, .text "Upload session belongs to another active session owner"⟩
    else .ok session

/-- Line 427; the session forgets a file whose row was there. -/
def cleanupUncommittedChatFile (s : Store) (session : UploadSession) : UploadSession × Store :=
  match session.finalChatFileId with
  | none => (session, s)
  | some fileId =>
    if session.status = .committed then (session, s)
    else if (getRow ChatFile.id fileId s.chatFiles).isNone then (session, s)
    else ({ session with finalChatFileId := none },
      { s with chatFiles := s.chatFiles.filter fun file => file.id ≠ fileId })

variable (session : UploadSession)

def UploadSession.givenUp (status : UploadSessionStatus)
    (lastError : Option String) : UploadSession :=
  { session with status := status, lastError := lastError }

def Store.dropSession (s : Store) (session : UploadSession) : UploadSession × Store :=
  let (session, s) := cleanupUncommittedChatFile s session
  (session, (s.removePart session.id).putSession session)

def expireSessionIfNeeded (s : Store) (session : UploadSession) : UploadSession × Store :=
  if session.status.terminal then (session, s)
  else if s.now < session.expiresAt then (session, s)
  else s.dropSession (session.givenUp .expired (some "expired"))

def chunkRefusal (resumeToken : String) (offset : Int) (chunk : Bytes) :
    Option HttpError :=
  if ¬ session.status.mutable then some ⟨409, .text "Upload session is no longer writable"⟩
  else if session.resumeToken ≠ resumeToken then some ⟨403, .text "Invalid resume token"⟩
  else if offset ≠ session.nextOffset then
    some ⟨409, .nextOffset "Offset mismatch" session.nextOffset⟩
  else if chunk = [] ∧ session.nextOffset < session.totalBytes then
    some ⟨400, .text "Chunk payload is empty"⟩
  else if session.receivedBytes + chunk.length > session.totalBytes then
    some ⟨400, .text "Chunk exceeds declared file size"⟩
  else none

def UploadSession.received (now : Nat) (chunk : Bytes) (isLastChunk : Bool) : UploadSession :=
  let receivedBytes := session.receivedBytes + chunk.length
  { session with
    receivedBytes := receivedBytes
    nextOffset := receivedBytes
    chunkCount := session.chunkCount + 1
    retryCount := 0
    lastError := if isLastChunk ∧ receivedBytes < session.totalBytes then
      some "last_chunk_before_total" else none
    expiresAt := now + uploadSessionLifetime
    status := if session.totalBytes ≤ receivedBytes then .uploaded else .uploading }

/-- The file opened with `"ab"`: the chunk is written at its end. -/
def Store.writePart (s : Store) (id : Nat) (chunk : Bytes) : Store :=
  { s with parts := Function.update s.parts id (some (s.partBytes id ++ chunk)) }

/-- The transaction of `append_upload_chunk` after the chunk was written. -/
def Store.commitChunk (s : Store) (session : UploadSession) (chunk : Bytes) (isLastChunk : Bool) :
    Store :=
  let s := (s.putSession (session.received s.now chunk isLastChunk)).touchBatch session.batchId
    fun batch => { batch with status := .uploading, expiresAt := s.now + uploadBatchLifetime }
  { s with acknowledged := s.acknowledged ++ [⟨session.id, session.nextOffset, chunk⟩] }

/-- Line 458; `stop` ends it between the write and the commit. -/
def appendUploadChunk (s : Store) (session : UploadSession) (resumeToken : String) (offset : Int)
    (chunk : Bytes) (isLastChunk stop : Bool) : Answer UploadSession × Store :=
  let (session, s) := expireSessionIfNeeded s session
  match chunkRefusal session resumeToken offset chunk with
  | some error => (.raised error, s)
  | none =>
    let s := s.writePart session.id chunk
    if stop then (.stopped, s)
    else (.returned (session.received s.now chunk isLastChunk),
      s.commitChunk session chunk isLastChunk)

inductive FinalizeStop where
  | afterMark | afterReady
  deriving DecidableEq, Repr

def UploadSession.readyWith (now : Nat) (result : UploadFilePersistenceResult) : UploadSession :=
  let preview := { session.previewMetadata with thumbnail := result.chatFile.thumbnail }
  let preview := match truthy result.width, truthy result.height with
    | some width, some height => { preview with width := some width, height := some height }
    | _, _ => preview
  { session with
    previewMetadata := preview
    finalChatFileId := some result.chatFile.id
    status := .ready
    lastError := none
    expiresAt := now + uploadSessionLifetime }

def batchProgress (sessions : List UploadSession) (ready : UploadSession) (batch : UploadBatch) :
    UploadBatchStatus :=
  let activeReady := sessions.filter fun item => item.status.readyLike || item.id = ready.id
  let activeSessions := sessions.filter fun item => item.status ≠ .cancelled
  if activeSessions ≠ [] ∧ activeReady.length = activeSessions.length ∧
      batch.expectedItems ≤ activeSessions.length then .uploaded
  else .uploading

/-- The second transaction of `finalize_upload_session`, when the file was stored. -/
def Store.commitReady (s : Store) (session : UploadSession) (content : Bytes)
    (result : UploadFilePersistenceResult) : Store :=
  let ready := session.readyWith s.now result
  let s := { s with chatFiles := s.chatFiles ++ [result.chatFile] }.putSession ready
  let s := s.touchBatch session.batchId fun batch =>
    { batch with
      status := batchProgress (listUploadBatchSessions s batch.id) ready batch
      expiresAt := s.now + uploadBatchLifetime }
  { s with readied := s.readied ++ [⟨session.id, content, result.chatFile⟩] }

def UploadSession.failedWith (message : String) : UploadSession :=
  { session with status := .failed, lastError := some message, retryCount := session.retryCount + 1 }

/-- `str(exc)` of an HTTP error with a text. -/
def HttpError.message (error : HttpError) : String :=
  match error.detail with
  | .text message => toString error.statusCode ++ ": " ++ message
  | .nextOffset message _ => toString error.statusCode ++ ": " ++ message

/-- `finalize_upload_session` inside `try`: `fault` is the text of an exception no check raises,
such as the database's. -/
def storeUpload (media : Media) (s : Store) (session : UploadSession) (uploaderId fileId : Nat)
    (fault : Option String) : Except HttpError UploadFilePersistenceResult :=
  match fault with
  | some _ => .error ⟨500, .text "Failed to finalize upload session"⟩
  | none => media.persistChatMediaFileBytes uploaderId session.originalFileName session.mimeType
      (s.partBytes session.id) session.previewMetadata.thumbnail fileId

def finalizeEarly (s : Store) (session : UploadSession) : Option (Answer UploadSession) :=
  if session.status = .committed then some (.returned session)
  else if session.status = .ready ∧ session.finalChatFileId.isSome then some (.returned session)
  else if session.receivedBytes ≠ session.totalBytes then
    some (.refuse 409 "Upload session is incomplete")
  else if (s.parts session.id).isNone then
    some (.refuse 404 "Upload session file is missing on disk")
  else none

def UploadSession.finalizing (session : UploadSession) : UploadSession :=
  { session with status := .finalizing }

/-- `finalize_upload_session` after `FINALIZING` (lines 628-682). -/
def finalizeMarked (media : Media) (s : Store) (session : UploadSession) (uploaderId fileId : Nat)
    (fault : Option String) (stop : Option FinalizeStop) : Answer UploadSession × Store :=
  match storeUpload media s session uploaderId fileId fault with
  | .error error =>
    (.raised error, s.putSession (session.failedWith (fault.getD error.message)))
  | .ok result =>
    let s := s.commitReady session (s.partBytes session.id) result
    if stop = some .afterReady then (.stopped, s)
    else (.returned (session.readyWith s.now result), s.removePart session.id)

def finalizeUploadSession (media : Media) (s : Store) (session : UploadSession)
    (uploaderId fileId : Nat) (fault : Option String) (stop : Option FinalizeStop) :
    Answer UploadSession × Store :=
  let (session, s) := expireSessionIfNeeded s session
  match finalizeEarly s session with
  | some answer => (answer, s)
  | none =>
    if (getRow ChatFile.id fileId s.chatFiles).isSome then (.stopped, s)
    else if stop = some .afterMark then (.stopped, s.putSession session.finalizing)
    else finalizeMarked media (s.putSession session.finalizing) session.finalizing uploaderId
      fileId fault stop

def batchOrderKey : Int × Nat :=
  (session.previewMetadata.albumIndex.getD 0, session.id)

/-- `sorted(active_sessions, key=_batch_order_key)`. -/
def orderSessions (sessions : List UploadSession) : List UploadSession :=
  sessions.insertionSort fun session other =>
    (batchOrderKey session).1 < (batchOrderKey other).1 ∨
      (batchOrderKey session).1 = (batchOrderKey other).1 ∧
        (batchOrderKey session).2 ≤ (batchOrderKey other).2

/-- The message of one session (`_persist_batch_direct_message`, `_persist_batch_group_message`). -/
def batchMessage (s : Store) (batch : UploadBatch) (senderId id index : Nat)
    (session : UploadSession) : Message :=
  let includeCaption := batch.messageKind = .single ∨
    batch.captionPolicy = .firstItemOnly ∧ index = 0
  { id := id
    chatId := if batch.roomKind = .group then some batch.targetId else none
    senderId := senderId
    receiverId := if batch.roomKind = .group then senderId else batch.targetId
    content := buildFinalMessageContent session batch includeCaption
    messageType := messageTypeFromMediaType session.mediaType
    createdAt := s.now }

def batchMessages (s : Store) (batch : UploadBatch) (senderId : Nat)
    (ordered : List UploadSession) : List Message :=
  ordered.zipIdx.map fun (session, index) =>
    batchMessage s batch senderId (s.messageSequence + index + 1) index session

def UploadSession.committedWith (messageId : Nat) : UploadSession :=
  { session with
    previewMetadata := { session.previewMetadata with committedMessageId := some messageId }
    status := .committed }

/-- The row of a session after the loop: at an index it has the message with the id of that index. -/
def commitSession (ordered : List UploadSession) (first : Nat) (row : UploadSession) :
    UploadSession :=
  match ordered.findIdx? fun session => session.id = row.id with
  | some index => row.committedWith (first + index)
  | none => row

def commitSessions (sessions : List UploadSession) (ordered : List UploadSession) (first : Nat) :
    List UploadSession :=
  sessions.map (commitSession ordered first)

def reloadMessagesForDelivery (s : Store) (messageIds : List Nat) : List Message :=
  messageIds.filterMap fun id => getRow Message.id id s.messages

def commitRefusal (batch : UploadBatch) (activeSessions : List UploadSession) : Option HttpError :=
  if activeSessions.length < batch.expectedItems then
    some ⟨409, .text "Upload batch is still missing items"⟩
  else if activeSessions.any fun session => ¬ session.status.readyLike then
    some ⟨409, .text "Upload batch contains sessions that are not ready"⟩
  else if batch.messageKind = .single ∧ activeSessions.length ≠ 1 then
    some ⟨400, .text "Single-item batch has an unexpected number of sessions"⟩
  else none

def Store.commitBatch (s : Store) (batch : UploadBatch) (senderId : Nat)
    (ordered : List UploadSession) : Store :=
  { s with
    batches := setRow UploadBatch.id batch.id
      (fun row => { row with status := .committed, committedItems := ordered.length }) s.batches
    sessions := commitSessions s.sessions ordered (s.messageSequence + 1)
    messages := s.messages ++ batchMessages s batch senderId ordered
    messageSequence := s.messageSequence + ordered.length }

def committedIds (sessions : List UploadSession) : List Nat :=
  sessions.filterMap fun item => item.previewMetadata.committedMessageId.filter (· ≠ 0)

/-- Line 825; with `failAfter` posting raises after that many messages and is rolled back, all but
the drawn ids. -/
def commitUploadBatch (s : Store) (batch : UploadBatch) (caller : Caller) (accessible : Bool)
    (failAfter : Option Nat) : Answer (List Message) × Store :=
  if batch.status = .committed then
    if ¬ accessible then (.refuse 403 "target", s)
    else (.returned (reloadMessagesForDelivery s
      (committedIds (listUploadBatchSessions s batch.id))), s)
  else if batch.status.terminal then (.refuse 409 "Upload batch is not committable", s)
  else if ¬ accessible then (.refuse 403 "target", s)
  else
    let activeSessions := (listUploadBatchSessions s batch.id).filter fun session =>
      session.status ≠ .cancelled
    match commitRefusal batch activeSessions with
    | some error => (.raised error, s)
    | none =>
      let ordered := orderSessions activeSessions
      match failAfter with
      | some drawn => (.refuse 500 "rolled back",
          { s with messageSequence := s.messageSequence + drawn })
      | none =>
        let after := s.commitBatch batch caller.userId ordered
        (.returned (reloadMessagesForDelivery after
          ((List.range ordered.length).map (s.messageSequence + 1 + ·))), after)

def cancelUploadSession (s : Store) (session : UploadSession) (reason : Option String) :
    Answer UploadSession × Store :=
  if session.status = .committed then
    (.refuse 409 "Committed upload sessions cannot be cancelled", s)
  else
    -- `reason or session.last_error`: an empty reason counts as none
    let (session, s) :=
      s.dropSession (session.givenUp .cancelled (reason.filter (· ≠ "") <|> session.lastError))
    (.returned session, s)

def cancelUploadBatch (s : Store) (batch : UploadBatch) (reason : Option String) :
    Answer UploadBatch × Store :=
  if batch.status = .committed then
    (.refuse 409 "Committed upload batches cannot be cancelled", s)
  else
    let s := (listUploadBatchSessions s batch.id).foldl
      (fun s session => (cancelUploadSession s session reason).2) s
    (.returned { batch with status := .cancelled },
      { s with
        batches := setRow UploadBatch.id batch.id
          (fun row => { row with status := .cancelled }) s.batches })

inductive Operation where
  | tick (duration : Nat)
  | createBatch (caller : Caller) (accessible : Bool) (request : UploadBatchCreateRequest) (id : Nat)
  | createSession (caller : Caller) (accessible : Bool) (request : UploadSessionCreateRequest)
      (id : Nat) (resumeToken : String)
  | appendChunk (caller : Caller) (session : Nat) (resumeToken : String) (offset : Int)
      (chunk : Bytes) (isLastChunk stop : Bool)
  | finalize (caller : Caller) (session fileId : Nat) (fault : Option String)
      (stop : Option FinalizeStop)
  | commitBatch (caller : Caller) (batch : Nat) (accessible : Bool) (failAfter : Option Nat)
  | cancelSession (caller : Caller) (session : Nat) (reason : Option String)
  | cancelBatch (caller : Caller) (batch : Nat) (reason : Option String)
  deriving DecidableEq, Repr

def onSession {α : Type} (s : Store) (caller : Caller) (id : Nat)
    (call : UploadSession → Answer α × Store) : Answer α × Store :=
  match getUploadSessionForCurrentUser s caller id with
  | .error error => (.raised error, s)
  | .ok session => call session

def onBatch {α : Type} (s : Store) (caller : Caller) (id : Nat)
    (call : UploadBatch → Answer α × Store) : Answer α × Store :=
  match getUploadBatchForCurrentUser s caller id with
  | .error error => (.raised error, s)
  | .ok batch => call batch

/-- The commit endpoint (chat.py:2675). -/
def commitCall (s : Store) (caller : Caller) (batch : Nat) (accessible : Bool)
    (failAfter : Option Nat) : Answer (List Message) × Store :=
  onBatch s caller batch fun row => commitUploadBatch s row caller accessible failAfter

def step (media : Media) (s : Store) : Operation → Store
  | .tick duration => { s with now := s.now + duration }
  | .createBatch caller accessible request id =>
    (createUploadBatch s caller accessible request id).2
  | .createSession caller accessible request id resumeToken =>
    (createUploadSession s caller accessible request id resumeToken).2
  | .appendChunk caller session resumeToken offset chunk isLastChunk stop =>
    (onSession s caller session fun row =>
      appendUploadChunk s row resumeToken offset chunk isLastChunk stop).2
  | .finalize caller session fileId fault stop =>
    (onSession s caller session fun row =>
      finalizeUploadSession media s row caller.userId fileId fault stop).2
  | .commitBatch caller batch accessible failAfter =>
    (commitCall s caller batch accessible failAfter).2
  | .cancelSession caller session reason =>
    (onSession s caller session fun row => cancelUploadSession s row reason).2
  | .cancelBatch caller batch reason =>
    (onBatch s caller batch fun row => cancelUploadBatch s row reason).2

end TradingBot.Uploads
