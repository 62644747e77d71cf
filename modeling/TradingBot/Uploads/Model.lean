import TradingBot.Misc.PyText

/-!
# Rows of the resumable chat uploads

The rows of `src/models/upload_session.py`, the requests of `src/api/routers/chat_schemas.py` that
make them, and the functions of `src/core/services/chat_upload_session_service.py` on one row: the
check of a file's type and the content of its message.

An id is the 128 bits of its UUID, whose text compares alike. Times are microseconds.
-/

namespace TradingBot.Uploads

open TradingBot.Misc

abbrev Bytes := List UInt8

inductive UploadRoomKind where
  | direct | group
  deriving DecidableEq, Repr

inductive UploadBatchMessageKind where
  | single | album
  deriving DecidableEq, Repr

inductive UploadBatchStatus where
  | collecting | uploading | uploaded | committing | committed | failed | cancelled | expired
  deriving DecidableEq, Repr

inductive UploadCaptionPolicy where
  | none | firstItemOnly
  deriving DecidableEq, Repr

inductive UploadSessionStatus where
  | created | uploading | uploaded | finalizing | ready | committed | failed | cancelled | expired
  deriving DecidableEq, Repr

inductive UploadMediaType where
  | image | video | voice | document
  deriving DecidableEq, Repr

inductive MessageType where
  | image | video | voice | document
  deriving DecidableEq, Repr

/-- `TERMINAL_BATCH_STATUSES` (chat_upload_session_service.py:56). -/
def UploadBatchStatus.terminal (status : UploadBatchStatus) : Bool :=
  status ∈ [.committed, .cancelled, .expired, .failed]

/-- `TERMINAL_SESSION_STATUSES` (chat_upload_session_service.py:62). -/
def UploadSessionStatus.terminal (status : UploadSessionStatus) : Bool :=
  status ∈ [.committed, .cancelled, .expired]

/-- `MUTABLE_SESSION_STATUSES` (chat_upload_session_service.py:67). -/
def UploadSessionStatus.mutable (status : UploadSessionStatus) : Bool :=
  status ∈ [.created, .uploading, .uploaded, .failed]

/-- `READY_LIKE_SESSION_STATUSES` (chat_upload_session_service.py:73). -/
def UploadSessionStatus.readyLike (status : UploadSessionStatus) : Bool :=
  status ∈ [.ready, .committed]

/-- `CHAT_MEDIA_MAX_UPLOAD_BYTES`. -/
def chatMediaMaxUploadBytes : Nat := 50 * 1024 * 1024

/-- `UPLOAD_BATCH_LIFETIME`. -/
def uploadBatchLifetime : Nat := 24 * 60 * 60 * 1000000

/-- `UPLOAD_SESSION_LIFETIME`. -/
def uploadSessionLifetime : Nat := 24 * 60 * 60 * 1000000

/-- `ALLOWED_UPLOAD_TYPES` (chat_upload_session_service.py:77). -/
def allowedUploadTypes : List String :=
  ["image/jpeg", "image/png", "image/gif", "image/webp", "image/heic", "image/heic-sequence",
    "image/heif", "image/heif-sequence", "video/mp4", "video/webm", "video/quicktime",
    "video/x-matroska", "application/mp4", "video/x-m4v", "video/3gpp", "application/octet-stream",
    "audio/mp4", "audio/webm", "audio/ogg", "audio/mpeg", "audio/aac", "audio/x-m4a", "audio/wav",
    "audio/x-wav", "application/pdf", "text/plain", "text/csv", "application/json",
    "application/xml", "text/xml", "application/rtf", "application/zip",
    "application/x-zip-compressed", "application/x-rar-compressed", "application/vnd.rar",
    "application/x-7z-compressed", "application/msword",
    "application/vnd.openxmlformats-officedocument.wordprocessingml.document",
    "application/vnd.ms-excel",
    "application/vnd.openxmlformats-officedocument.spreadsheetml.sheet",
    "application/vnd.ms-powerpoint",
    "application/vnd.openxmlformats-officedocument.presentationml.presentation"]

inductive Detail where
  | text (message : String)
  | nextOffset (message : String) (offset : Nat)
  deriving DecidableEq, Repr

structure HttpError where
  statusCode : Nat
  detail : Detail
  deriving DecidableEq, Repr

inductive Answer (α : Type) where
  | returned (value : α)
  | raised (error : HttpError)
  | stopped
  deriving DecidableEq, Repr

def Answer.refuse {α : Type} (statusCode : Nat) (message : String) : Answer α :=
  .raised ⟨statusCode, .text message⟩

/-- `UploadPreviewMetadata.model_dump(exclude_none=True)` (chat_schemas.py:204) and the id of the
posted message. -/
structure PreviewMetadata where
  width : Option Int := none
  height : Option Int := none
  durationMs : Option Int := none
  thumbnail : Option String := none
  caption : Option String := none
  albumIndex : Option Int := none
  waveform : Option (List Int) := none
  committedMessageId : Option Nat := none
  deriving DecidableEq, Repr

structure UploadBatch where
  id : Nat
  ownerUserId : Nat
  actorUserId : Option Nat
  roomKind : UploadRoomKind
  targetId : Int
  messageKind : UploadBatchMessageKind
  expectedItems : Nat
  captionPolicy : UploadCaptionPolicy
  idempotencyKey : String
  status : UploadBatchStatus
  committedItems : Nat
  createdAt : Nat
  expiresAt : Nat
  deriving DecidableEq, Repr

structure UploadSession where
  id : Nat
  batchId : Option Nat
  ownerUserId : Nat
  actorUserId : Option Nat
  roomKind : UploadRoomKind
  targetId : Int
  mediaType : UploadMediaType
  originalFileName : String
  mimeType : String
  totalBytes : Nat
  chunkSize : Nat
  receivedBytes : Nat
  nextOffset : Nat
  chunkCount : Nat
  previewMetadata : PreviewMetadata
  status : UploadSessionStatus
  resumeToken : String
  finalChatFileId : Option Nat
  retryCount : Nat
  lastError : Option String
  createdAt : Nat
  expiresAt : Nat
  deriving DecidableEq, Repr

/-- A row of `chat_files` with the bytes of the file it names. -/
structure ChatFile where
  id : Nat
  uploaderId : Nat
  contents : Bytes
  fileName : String
  mimeType : String
  size : Nat
  thumbnail : Option String
  deriving DecidableEq, Repr

/-- What `PIL` returns for an image that it could turn upright and save again. -/
structure Transposed where
  contents : Bytes
  width : Int
  height : Int
  mime : String
  deriving DecidableEq, Repr

/-- The type that `magic` finds in the bytes, and the image `PIL` saves, none when it raises. -/
structure Media where
  magic : Bytes → String
  transpose : Bytes → String → Option Transposed

/-- `(declared or "application/octet-stream").split(";")[0].strip()`. -/
def baseContentType (declared : String) : String :=
  let declared := if declared = "" then "application/octet-stream" else declared
  pyStrip (String.ofList (declared.toList.takeWhile (· ≠ ';')))

def Media.realType (media : Media) (declared : String) (contents : Bytes) : String :=
  let mime := media.magic contents
  if mime = "video/webm" ∧ baseContentType declared = "audio/webm" then "audio/webm" else mime

/-- `UploadFilePersistenceResult`. -/
structure UploadFilePersistenceResult where
  chatFile : ChatFile
  width : Option Int
  height : Option Int
  deriving DecidableEq, Repr

def Media.storedFile (media : Media) (uploaderId : Nat) (fileName : String) (mime : String)
    (contents : Bytes) (thumbnail : Option String) (fileId : Nat) : UploadFilePersistenceResult :=
  let plain : UploadFilePersistenceResult :=
    ⟨⟨fileId, uploaderId, contents, fileName, mime, contents.length, thumbnail⟩, none, none⟩
  if pyStartsWith "image/" mime ∧ mime ≠ "image/gif" then
    match media.transpose contents mime with
    | some image =>
      ⟨⟨fileId, uploaderId, image.contents, fileName, image.mime, image.contents.length, thumbnail⟩,
        some image.width, some image.height⟩
    | none => plain
  else plain

/-- `persist_chat_media_file_bytes` (chat_upload_session_service.py:516). -/
def Media.persistChatMediaFileBytes (media : Media) (uploaderId : Nat) (fileName : String)
    (declared : String) (contents : Bytes) (thumbnail : Option String) (fileId : Nat) :
    Except HttpError UploadFilePersistenceResult :=
  if baseContentType declared ∉ allowedUploadTypes then
    .error ⟨400, .text ("Unsupported file type: " ++ declared)⟩
  else if media.realType declared contents ∉ allowedUploadTypes then
    .error ⟨400, .text ("Invalid file content. Real type is " ++ media.realType declared contents ++
      " and base type is " ++ baseContentType declared)⟩
  else if contents.length > chatMediaMaxUploadBytes then
    .error ⟨413, .text "File too large (max 50MB)"⟩
  else
    .ok (media.storedFile uploaderId fileName (media.realType declared contents) contents thumbnail
      fileId)

/-- `_message_type_from_media_type` (chat_upload_session_service.py:115). -/
def messageTypeFromMediaType : UploadMediaType → MessageType
  | .image => .image
  | .video => .video
  | .voice => .voice
  | .document => .document

/-- The payload that is dumped to the text of the message; a key that is left out is `none`. -/
structure MessageContent where
  fileId : Option Nat
  thumbnail : Option String := none
  fileName : Option String := none
  mimeType : Option String := none
  size : Option Nat := none
  dimensions : Option (Int × Int) := none
  album : Option (Nat × Int) := none
  durationMs : Option Int := none
  waveform : Option (List Int) := none
  caption : Option String := none
  deriving DecidableEq, Repr

def truthy (value : Option Int) : Option Int := value.filter (· ≠ 0)

/-- `_build_final_message_content` (chat_upload_session_service.py:694). -/
def buildFinalMessageContent (session : UploadSession) (batch : UploadBatch)
    (includeCaption : Bool) : MessageContent :=
  let preview := session.previewMetadata
  if session.mediaType = .document then
    { fileId := session.finalChatFileId
      fileName := some session.originalFileName
      mimeType := some session.mimeType
      size := some session.totalBytes }
  else
    { fileId := session.finalChatFileId
      thumbnail := preview.thumbnail.filter (· ≠ "")
      dimensions := do
        let width ← truthy preview.width
        let height ← truthy preview.height
        pure (width, height)
      album := if batch.messageKind = .album then some (batch.id, preview.albumIndex.getD 0)
        else none
      durationMs := preview.durationMs
      waveform := if session.mediaType = .voice then preview.waveform else none
      caption := if includeCaption then nonemptyText preview.caption else none }

structure Message where
  id : Nat
  chatId : Option Int
  senderId : Nat
  receiverId : Int
  content : MessageContent
  messageType : MessageType
  createdAt : Nat
  deriving DecidableEq, Repr

/-- The user of a request, the owner it acts for and the accountant, if one
(`_coalesce_actor_user_id`). -/
structure Caller where
  userId : Nat
  ownerUserId : Nat
  actorUserId : Option Nat
  deriving DecidableEq, Repr

/-- `UploadBatchCreateRequest` (chat_schemas.py:235). -/
structure UploadBatchCreateRequest where
  roomKind : UploadRoomKind
  targetId : Int
  messageKind : UploadBatchMessageKind
  expectedItems : Nat
  captionPolicy : UploadCaptionPolicy
  idempotencyKey : String
  deriving DecidableEq, Repr

/-- The bounds the request model checks; a request outside them is answered with status 422. -/
def UploadBatchCreateRequest.valid (request : UploadBatchCreateRequest) : Bool :=
  1 ≤ request.expectedItems && request.expectedItems ≤ 50 &&
    8 ≤ request.idempotencyKey.length && request.idempotencyKey.length ≤ 128 &&
    (request.messageKind ≠ .single || request.expectedItems = 1)

/-- `UploadSessionCreateRequest` (chat_schemas.py:256). -/
structure UploadSessionCreateRequest where
  batchId : Option Nat
  roomKind : UploadRoomKind
  targetId : Int
  mediaType : UploadMediaType
  fileName : String
  mimeType : String
  totalBytes : Int
  chunkSize : Int
  previewMetadata : PreviewMetadata
  deriving DecidableEq, Repr

def UploadSessionCreateRequest.valid (request : UploadSessionCreateRequest) : Bool :=
  request.fileName.length ≤ 255 && pyStrip request.fileName ≠ "" &&
    1 ≤ request.mimeType.length && request.mimeType.length ≤ 100 &&
    0 < request.totalBytes && request.totalBytes ≤ chatMediaMaxUploadBytes &&
    0 < request.chunkSize && request.chunkSize ≤ 10 * 1024 * 1024 &&
    request.previewMetadata.committedMessageId.isNone

/-- `os.path.basename`. -/
def baseName (fileName : String) : String :=
  String.ofList (fileName.toList.reverse.takeWhile (· ≠ '/')).reverse

end TradingBot.Uploads
