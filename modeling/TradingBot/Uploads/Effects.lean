import TradingBot.Uploads.Service
import Mathlib.Logic.Relation

/-!
# What a call does to the store

Every call is a chain of few effects on the tables and the part files, each with its guards. An
invariant that every effect keeps is kept by every call.
-/

namespace TradingBot.Uploads

open TradingBot.Misc

/-- What a run grants of accepted calls: of the session a chunk is written to and a stop of the
append, of the request of a batch, of the committed batch. -/
structure Guards where
  chunk : Store → UploadSession → Bool → Prop := fun _ _ _ => True
  batch : Store → Caller → UploadBatchCreateRequest → Prop := fun _ _ _ => True
  commit : Store → UploadBatch → Prop := fun _ _ => True

inductive Effect (media : Media) (G : Guards) (s : Store) : Store → Prop
  | passed (duration : Nat) : Effect media G s { s with now := s.now + duration }
  | batchAdded (caller : Caller) (request : UploadBatchCreateRequest) (id : Nat)
      (hvalid : request.valid = true) (habsent : s.batch id = none)
      (hover : ∀ existing, getExistingUploadBatchByIdempotency s caller request = some existing →
        existing.status.terminal = true) (hG : G.batch s caller request) :
      Effect media G s { s with batches := s.batches ++ [newUploadBatch s caller request id] }
  | sessionAdded (caller : Caller) (request : UploadSessionCreateRequest) (id : Nat)
      (resumeToken : String) (hvalid : request.valid = true)
      (hrefusal : batchRefusal s caller request = none) (habsent : s.session id = none) :
      Effect media G s ({ s with
        sessions := s.sessions ++ [newUploadSession s caller request id resumeToken]
        }.touchBatch request.batchId startBatch)
  | dropped (session : UploadSession) (hfound : s.session session.id = some session)
      (hopen : session.status ≠ .committed) (status : UploadSessionStatus) (error : Option String)
      (hstatus : status = .cancelled ∨ status = .expired ∧ session.expiresAt ≤ s.now) :
      Effect media G s (s.dropSession (session.givenUp status error)).2
  | chunkWritten (session : UploadSession) (hfound : s.session session.id = some session)
      (resumeToken : String) (offset : Int) (chunk : Bytes)
      (hrefusal : chunkRefusal session resumeToken offset chunk = none)
      (hG : G.chunk s session true) : Effect media G s (s.writePart session.id chunk)
  | chunkCommitted (session : UploadSession) (hfound : s.session session.id = some session)
      (resumeToken : String) (offset : Int) (chunk : Bytes) (isLastChunk : Bool)
      (hrefusal : chunkRefusal session resumeToken offset chunk = none)
      (hG : G.chunk s session false) :
      Effect media G s ((s.writePart session.id chunk).commitChunk session chunk isLastChunk)
  | marked (session : UploadSession) (hfound : s.session session.id = some session)
      (hearly : finalizeEarly s session = none) :
      Effect media G s (s.putSession session.finalizing)
  | failed (session : UploadSession) (hfound : s.session session.id = some session)
      (hstatus : session.status = .finalizing) (message : String) :
      Effect media G s (s.putSession (session.failedWith message))
  | madeReady (session : UploadSession) (hfound : s.session session.id = some session)
      (hstatus : session.status = .finalizing)
      (hreceived : session.receivedBytes = session.totalBytes) (uploaderId fileId : Nat)
      (result : UploadFilePersistenceResult)
      (hstored : media.persistChatMediaFileBytes uploaderId session.originalFileName
        session.mimeType (s.partBytes session.id) session.previewMetadata.thumbnail fileId =
          .ok result) :
      Effect media G s (s.commitReady session (s.partBytes session.id) result)
  | partRemoved (session : UploadSession) (hfound : s.session session.id = some session)
      (hstatus : session.status = .ready) : Effect media G s (s.removePart session.id)
  | idsDrawn (drawn : Nat) :
      Effect media G s { s with messageSequence := s.messageSequence + drawn }
  | batchCommitted (batch : UploadBatch) (hfound : s.batch batch.id = some batch)
      (hopen : batch.status.terminal = false) (hG : G.commit s batch) (senderId : Nat)
      (hrefusal : commitRefusal batch ((listUploadBatchSessions s batch.id).filter fun session =>
        session.status ≠ .cancelled) = none) :
      Effect media G s (s.commitBatch batch senderId (orderSessions
        ((listUploadBatchSessions s batch.id).filter fun session => session.status ≠ .cancelled)))
  | batchCancelled (batch : UploadBatch) (hfound : s.batch batch.id = some batch)
      (hopen : batch.status ≠ .committed) :
      Effect media G s { s with
        batches := setRow UploadBatch.id batch.id
          (fun row => { row with status := .cancelled }) s.batches }

def Effects (media : Media) (G : Guards) : Store → Store → Prop :=
  Relation.ReflTransGen (Effect media G)

section Effects

variable {media : Media} {G : Guards} {s s' : Store} {caller : Caller} {id uploaderId fileId : Nat}
  {session : UploadSession} {batch : UploadBatch} {resumeToken : String} {accessible : Bool}
  {reason fault : Option String} {offset : Int} {chunk : Bytes} {stop : Option FinalizeStop}

theorem Effect.effects (h : Effect media G s s') : Effects media G s s' :=
  Relation.ReflTransGen.single h

theorem Effects.invariant {I : Store → Prop}
    (preserve : ∀ s s', I s → Effect media G s s' → I s') (h : Effects media G s s') (hs : I s) :
    I s' := by
  induction h with
  | refl => exact hs
  | tail _ hstep ih => exact preserve _ _ ih hstep

theorem getUploadSessionForCurrentUser_ok
    (h : getUploadSessionForCurrentUser s caller id = .ok session) :
    s.session id = some session ∧ session.ownerUserId = caller.ownerUserId ∧
      session.actorUserId = caller.actorUserId := by
  unfold getUploadSessionForCurrentUser at h
  split at h
  · cases h
  · next found hfound =>
    split_ifs at h with howner hactor
    cases h
    exact ⟨hfound, not_not.mp howner, not_not.mp hactor⟩

theorem getUploadBatchForCurrentUser_ok (h : getUploadBatchForCurrentUser s caller id = .ok batch) :
    s.batch id = some batch ∧ batch.ownerUserId = caller.ownerUserId ∧
      batch.actorUserId = caller.actorUserId := by
  unfold getUploadBatchForCurrentUser at h
  split at h
  · cases h
  · next found hfound =>
    split_ifs at h with howner hactor
    cases h
    exact ⟨hfound, not_not.mp howner, not_not.mp hactor⟩

theorem getUploadSessionForCurrentUser_of
    (hfound : s.session id = some session) (howner : session.ownerUserId = caller.ownerUserId)
    (hactor : session.actorUserId = caller.actorUserId) :
    getUploadSessionForCurrentUser s caller id = .ok session := by
  rw [getUploadSessionForCurrentUser, hfound]
  dsimp only
  rw [if_neg (not_not.mpr howner), if_neg (not_not.mpr hactor)]

theorem getUploadBatchForCurrentUser_of
    (hfound : s.batch id = some batch) (howner : batch.ownerUserId = caller.ownerUserId)
    (hactor : batch.actorUserId = caller.actorUserId) :
    getUploadBatchForCurrentUser s caller id = .ok batch := by
  rw [getUploadBatchForCurrentUser, hfound]
  dsimp only
  rw [if_neg (not_not.mpr howner), if_neg (not_not.mpr hactor)]

theorem Store.session_id (h : s.session id = some session) :
    session.id = id := (getRow_eq_some h).2

theorem Store.batch_id (h : s.batch id = some batch) :
    batch.id = id := (getRow_eq_some h).2

theorem onSession_effects {α : Type} {call : UploadSession → Answer α × Store}
    (hcall : ∀ session, getUploadSessionForCurrentUser s caller id = .ok session →
      s.session session.id = some session → Effects media G s (call session).2) :
    Effects media G s (onSession s caller id call).2 := by
  unfold onSession
  cases hfound : getUploadSessionForCurrentUser s caller id with
  | error error => exact .refl
  | ok session =>
    have hrow := (getUploadSessionForCurrentUser_ok hfound).1
    have hid := Store.session_id hrow
    exact hcall session hfound (hid ▸ hrow)

theorem onBatch_effects {α : Type} {call : UploadBatch → Answer α × Store}
    (hcall : ∀ batch, getUploadBatchForCurrentUser s caller id = .ok batch →
      s.batch batch.id = some batch → Effects media G s (call batch).2) :
    Effects media G s (onBatch s caller id call).2 := by
  unfold onBatch
  cases hfound : getUploadBatchForCurrentUser s caller id with
  | error error => exact .refl
  | ok batch =>
    have hrow := (getUploadBatchForCurrentUser_ok hfound).1
    have hid := Store.batch_id hrow
    exact hcall batch hfound (hid ▸ hrow)

theorem cleanupUncommittedChatFile_eq (s : Store) (session : UploadSession) :
    ∃ fileId files, cleanupUncommittedChatFile s session =
      ({ session with finalChatFileId := fileId }, { s with chatFiles := files }) := by
  unfold cleanupUncommittedChatFile
  split
  · exact ⟨session.finalChatFileId, s.chatFiles, rfl⟩
  · split_ifs
    · exact ⟨session.finalChatFileId, s.chatFiles, rfl⟩
    · exact ⟨session.finalChatFileId, s.chatFiles, rfl⟩
    · exact ⟨none, _, rfl⟩

theorem dropSession_eq (s : Store) (session : UploadSession) :
    ∃ fileId files, s.dropSession session =
      ({ session with finalChatFileId := fileId },
        ({ s with chatFiles := files }.removePart session.id).putSession
          { session with finalChatFileId := fileId }) := by
  obtain ⟨fileId, files, heq⟩ := cleanupUncommittedChatFile_eq s session
  exact ⟨fileId, files, by rw [Store.dropSession, heq]⟩

@[simp] theorem cleanupUncommittedChatFile_id (s : Store) (session : UploadSession) :
    (cleanupUncommittedChatFile s session).1.id = session.id := by
  obtain ⟨fileId, files, heq⟩ := cleanupUncommittedChatFile_eq s session
  rw [heq]

@[simp] theorem cleanupUncommittedChatFile_status (s : Store) (session : UploadSession) :
    (cleanupUncommittedChatFile s session).1.status = session.status := by
  obtain ⟨fileId, files, heq⟩ := cleanupUncommittedChatFile_eq s session
  rw [heq]

@[simp] theorem cleanupUncommittedChatFile_sessions (s : Store) (session : UploadSession) :
    (cleanupUncommittedChatFile s session).2.sessions = s.sessions := by
  obtain ⟨fileId, files, heq⟩ := cleanupUncommittedChatFile_eq s session
  rw [heq]

@[simp] theorem cleanupUncommittedChatFile_batches (s : Store) (session : UploadSession) :
    (cleanupUncommittedChatFile s session).2.batches = s.batches := by
  obtain ⟨fileId, files, heq⟩ := cleanupUncommittedChatFile_eq s session
  rw [heq]

@[simp] theorem dropSession_id (s : Store) (session : UploadSession) :
    (s.dropSession session).1.id = session.id := cleanupUncommittedChatFile_id s session

@[simp] theorem dropSession_status (s : Store) (session : UploadSession) :
    (s.dropSession session).1.status = session.status := cleanupUncommittedChatFile_status s session

theorem dropSession_parts (s : Store) (session : UploadSession) :
    (s.dropSession session).2.parts session.id = none := by
  simp only [Store.dropSession, Store.putSession, Store.removePart, cleanupUncommittedChatFile_id,
    Function.update_self]

theorem session_putSession_self {found : UploadSession} (h : s.session session.id = some found) :
    (s.putSession session).session session.id = some session := by
  exact getRow_setRow_self (fun _ _ => rfl) h

@[simp] theorem touchBatch_sessions (s : Store) (batchId : Option Nat)
    (write : UploadBatch → UploadBatch) : (s.touchBatch batchId write).sessions = s.sessions := by
  cases batchId <;> rfl

theorem session_commitReady {content : Bytes}
    {result : UploadFilePersistenceResult} (h : s.session session.id = some session) :
    (s.commitReady session content result).session session.id =
      some (session.readyWith s.now result) := by
  simp only [Store.commitReady, Store.session, touchBatch_sessions, Store.putSession]
  exact getRow_setRow_self (fun _ _ => rfl) h

theorem commitSession_cases (ordered : List UploadSession) (first : Nat) (row : UploadSession) :
    (∀ session ∈ ordered, session.id ≠ row.id) ∧ commitSession ordered first row = row ∨
      ∃ index session, ordered[index]? = some session ∧ session.id = row.id ∧
        commitSession ordered first row = row.committedWith (first + index) := by
  unfold commitSession
  cases hindex : ordered.findIdx? fun session => session.id = row.id with
  | none =>
    refine .inl ⟨fun session hmem hid => ?_, rfl⟩
    have hnone := List.findIdx?_eq_none_iff.mp hindex session hmem
    rw [decide_eq_false_iff_not] at hnone
    exact hnone hid
  | some index =>
    obtain ⟨hlt, hfound, -⟩ := List.findIdx?_eq_some_iff_getElem.mp hindex
    exact .inr ⟨index, ordered[index], List.getElem?_eq_getElem hlt, of_decide_eq_true hfound, rfl⟩

theorem commitSession_id (ordered : List UploadSession) (first : Nat) (row : UploadSession) :
    (commitSession ordered first row).id = row.id := by
  unfold commitSession
  split <;> rfl

theorem map_id_commitSessions (sessions ordered : List UploadSession) (first : Nat) :
    (commitSessions sessions ordered first).map UploadSession.id = sessions.map UploadSession.id := by
  rw [commitSessions, List.map_map]
  exact List.map_congr_left fun row _ => commitSession_id ordered first row

/-! ## The calls -/

theorem expireSessionIfNeeded_cases (s : Store) (session : UploadSession) :
    expireSessionIfNeeded s session = (session, s) ∨
      session.status ≠ .committed ∧ session.expiresAt ≤ s.now ∧
        expireSessionIfNeeded s session =
          s.dropSession (session.givenUp .expired (some "expired")) := by
  unfold expireSessionIfNeeded
  split_ifs with hterminal hlater
  · exact .inl rfl
  · exact .inl rfl
  · refine .inr ⟨?_, not_lt.mp hlater, rfl⟩
    intro hcommitted
    rw [hcommitted] at hterminal
    exact hterminal rfl

theorem chunkRefusal_mutable (h : chunkRefusal session resumeToken offset chunk = none) :
    session.status.mutable = true ∧ (offset = session.nextOffset) ∧
      (chunk = [] → session.totalBytes ≤ session.nextOffset) ∧
      session.receivedBytes + chunk.length ≤ session.totalBytes := by
  unfold chunkRefusal at h
  split_ifs at h with hmutable htoken hoffset hempty hexceeds
  refine ⟨hmutable, not_not.mp hoffset, ?_, not_lt.mp hexceeds⟩
  intro hnil
  exact not_lt.mp fun hlt => hempty ⟨hnil, hlt⟩

theorem appendUploadChunk_effects
    {isLastChunk stop : Bool} (hfound : s.session session.id = some session)
    (hG : chunkRefusal (expireSessionIfNeeded s session).1 resumeToken offset chunk = none →
      G.chunk s session stop) :
    Effects media G s
      (appendUploadChunk s session resumeToken offset chunk isLastChunk stop).2 := by
  rcases expireSessionIfNeeded_cases s session with hsame | ⟨hopen, hpast, hdrop⟩
  · simp only [appendUploadChunk, hsame] at hG ⊢
    cases hrefusal : chunkRefusal session resumeToken offset chunk with
    | some error => exact .refl
    | none =>
      cases stop with
      | true => exact (Effect.chunkWritten session hfound _ _ chunk hrefusal (hG hrefusal)).effects
      | false =>
        exact (Effect.chunkCommitted session hfound _ _ chunk isLastChunk hrefusal
          (hG hrefusal)).effects
  · have hdropped : Effects media G s _ := (Effect.dropped session hfound hopen .expired
      (some "expired") (.inr ⟨rfl, hpast⟩)).effects
    simp only [appendUploadChunk, hdrop]
    cases hrefusal : chunkRefusal 
        (s.dropSession (session.givenUp .expired (some "expired"))).1 resumeToken offset chunk with
    | some error => exact hdropped
    | none =>
      -- a session that has just expired is not writable
      have hmutable := (chunkRefusal_mutable hrefusal).1
      rw [dropSession_status] at hmutable
      cases hmutable

theorem finalizeEarly_none (h : finalizeEarly s session = none) :
    session.status ≠ .committed ∧ session.receivedBytes = session.totalBytes ∧
      (s.parts session.id).isSome = true ∧
      ¬ (session.status = .ready ∧ session.finalChatFileId.isSome = true) := by
  unfold finalizeEarly at h
  split_ifs at h with hcommitted hready hreceived hpart
  exact ⟨hcommitted, not_not.mp hreceived, Option.isSome_iff_ne_none.mpr (by simpa using hpart), hready⟩

theorem finalizeMarked_effects
    (hfound : s.session session.id = some session) (hstatus : session.status = .finalizing)
    (hreceived : session.receivedBytes = session.totalBytes) :
    Effects media G s (finalizeMarked media s session uploaderId fileId fault stop).2 := by
  unfold finalizeMarked
  cases hstored : storeUpload media s session uploaderId fileId fault with
  | error error => exact (Effect.failed session hfound hstatus _).effects
  | ok result =>
    have hpersisted : media.persistChatMediaFileBytes uploaderId session.originalFileName
        session.mimeType (s.partBytes session.id) session.previewMetadata.thumbnail fileId =
          .ok result := by
      unfold storeUpload at hstored
      split at hstored
      · cases hstored
      · exact hstored
    have hready : Effects media G s _ := (Effect.madeReady session hfound hstatus hreceived
      uploaderId fileId result hpersisted).effects
    dsimp only
    split
    · exact hready
    · refine hready.tail (Effect.partRemoved (session.readyWith s.now result) ?_ rfl)
      exact session_commitReady hfound

theorem finalizeUploadSession_effects (hfound : s.session session.id = some session) :
    Effects media G s
      (finalizeUploadSession media s session uploaderId fileId fault stop).2 := by
  rcases expireSessionIfNeeded_cases s session with hsame | ⟨hopen, hpast, hdrop⟩
  · simp only [finalizeUploadSession, hsame]
    cases hearly : finalizeEarly s session with
    | some answer => exact .refl
    | none =>
      have hmark : Effects media G s _ := (Effect.marked session hfound hearly).effects
      dsimp only
      split
      · exact .refl
      · split
        · exact hmark
        · exact hmark.trans (finalizeMarked_effects (session_putSession_self hfound) rfl
            (finalizeEarly_none hearly).2.1)
  · have hdropped : Effects media G s _ := (Effect.dropped session hfound hopen .expired
      (some "expired") (.inr ⟨rfl, hpast⟩)).effects
    simp only [finalizeUploadSession, hdrop]
    cases hearly : finalizeEarly (s.dropSession (session.givenUp .expired (some "expired"))).2
        (s.dropSession (session.givenUp .expired (some "expired"))).1 with
    | some answer => exact hdropped
    | none =>
      -- the part file of a session that has just expired is gone
      have hpart := (finalizeEarly_none hearly).2.2.1
      rw [dropSession_id, dropSession_parts] at hpart
      cases hpart

theorem createUploadBatch_effects {request : UploadBatchCreateRequest}
    (hG : (∀ existing, getExistingUploadBatchByIdempotency s caller request = some existing →
      existing.status.terminal = true) → G.batch s caller request) :
    Effects media G s (createUploadBatch s caller accessible request id).2 := by
  have hadd : request.valid = true →
      (∀ existing, getExistingUploadBatchByIdempotency s caller request = some existing →
        existing.status.terminal = true) →
      Effects media G s (addUploadBatch s caller request id).2 := by
    intro hvalid hover
    unfold addUploadBatch
    dsimp only
    split_ifs with hshape htaken
    · exact .refl
    · exact .refl
    · exact (Effect.batchAdded caller request id hvalid (by simpa using htaken) hover
        (hG hover)).effects
  unfold createUploadBatch
  split
  · exact .refl
  next hvalid =>
  split
  · exact .refl
  split
  · next existing hexisting =>
    split
    · exact .refl
    next hover =>
    refine hadd (not_not.mp hvalid) fun other h => ?_
    rw [hexisting] at h
    cases h
    exact not_not.mp hover
  · next hexisting =>
    refine hadd (not_not.mp hvalid) fun existing h => ?_
    rw [hexisting] at h
    cases h

theorem createUploadSession_effects {request : UploadSessionCreateRequest} :
    Effects media G s (createUploadSession s caller accessible request id resumeToken).2 := by
  unfold createUploadSession
  split
  · exact .refl
  next hvalid =>
  split
  · exact .refl
  split
  · exact .refl
  next hrefusal =>
  split
  · exact .refl
  next htaken =>
  have habsent : s.session id = none := by simpa using (not_or.mp htaken).1
  exact (Effect.sessionAdded caller request id resumeToken (not_not.mp hvalid) hrefusal
    habsent).effects

theorem commitUploadBatch_effects {failAfter : Option Nat} (hfound : s.batch batch.id = some batch)
    (hG : batch.status.terminal = false → G.commit s batch) :
    Effects media G s (commitUploadBatch s batch caller accessible failAfter).2 := by
  unfold commitUploadBatch
  split
  · split <;> exact .refl
  split
  · exact .refl
  next hterminal =>
  split
  · exact .refl
  dsimp only
  split
  · exact .refl
  next hrefusal =>
  cases failAfter with
  | some drawn => exact (Effect.idsDrawn drawn).effects
  | none =>
    have hopen : batch.status.terminal = false := Bool.not_eq_true _ ▸ hterminal
    exact (Effect.batchCommitted batch hfound hopen (hG hopen) caller.userId hrefusal).effects

theorem cancelUploadSession_effects (hfound : s.session session.id = some session) :
    Effects media G s (cancelUploadSession s session reason).2 := by
  unfold cancelUploadSession
  split_ifs with hcommitted
  · exact .refl
  · exact (Effect.dropped session hfound hcommitted .cancelled _ (.inl rfl)).effects

theorem session_cancelUploadSession_of_ne (hne : id ≠ session.id) :
    (cancelUploadSession s session reason).2.session id = s.session id := by
  unfold cancelUploadSession
  split_ifs with hcommitted
  · rfl
  · simp only [Store.session, Store.dropSession, Store.putSession, Store.removePart,
      cleanupUncommittedChatFile_id, cleanupUncommittedChatFile_sessions]
    exact getRow_setRow_of_ne (fun _ _ => cleanupUncommittedChatFile_id _ _) hne

theorem cancelUploadSession_batches (s : Store) (session : UploadSession) (reason : Option String) :
    (cancelUploadSession s session reason).2.batches = s.batches := by
  unfold cancelUploadSession
  split_ifs
  · rfl
  · exact cleanupUncommittedChatFile_batches s _

theorem cancelSessions_effects (reason : Option String) (sessions : List UploadSession) :
    ∀ s : Store, (sessions.map UploadSession.id).Nodup →
      (∀ session ∈ sessions, s.session session.id = some session) →
      Effects media G s
        (sessions.foldl (fun s session => (cancelUploadSession s session reason).2) s) := by
  induction sessions with
  | nil => intro s _ _; exact .refl
  | cons head tail ih =>
    intro s hnodup hrows
    obtain ⟨hhead, htail⟩ := List.nodup_cons.mp hnodup
    have hfirst : Effects media G s (cancelUploadSession s head reason).2 :=
      cancelUploadSession_effects (hrows head List.mem_cons_self)
    refine hfirst.trans (ih _ htail fun session hmem => ?_)
    have hne : session.id ≠ head.id := fun h => hhead (h ▸ List.mem_map_of_mem hmem)
    rw [session_cancelUploadSession_of_ne hne]
    exact hrows session (List.mem_cons_of_mem _ hmem)

theorem cancelSessions_batches (reason : Option String) (sessions : List UploadSession) :
    ∀ s : Store,
      (sessions.foldl (fun s session => (cancelUploadSession s session reason).2) s).batches =
        s.batches := by
  induction sessions with
  | nil => intro s; rfl
  | cons head tail ih =>
    intro s
    rw [List.foldl_cons, ih, cancelUploadSession_batches]

theorem mem_listUploadBatchSessions {batchId : Nat} :
    session ∈ listUploadBatchSessions s batchId ↔
      session ∈ s.sessions ∧ session.batchId = some batchId := by
  rw [listUploadBatchSessions, List.mem_insertionSort, List.mem_filter, decide_eq_true_eq]

theorem nodup_listUploadBatchSessions (hids : (s.sessions.map UploadSession.id).Nodup)
    (batchId : Nat) : ((listUploadBatchSessions s batchId).map UploadSession.id).Nodup := by
  have hperm := List.perm_insertionSort (fun session other : UploadSession =>
    session.createdAt < other.createdAt ∨
      session.createdAt = other.createdAt ∧ session.id ≤ other.id)
    (s.sessions.filter fun session => session.batchId = some batchId)
  refine (hperm.map UploadSession.id).nodup_iff.mpr ?_
  exact (List.filter_sublist.map _).nodup hids

theorem cancelUploadBatch_effects
    (hids : (s.sessions.map UploadSession.id).Nodup) (hfound : s.batch batch.id = some batch) :
    Effects media G s (cancelUploadBatch s batch reason).2 := by
  unfold cancelUploadBatch
  split_ifs with hcommitted
  · exact .refl
  · have hall : Effects media G s _ := cancelSessions_effects reason
      (listUploadBatchSessions s batch.id) s (nodup_listUploadBatchSessions hids batch.id)
      fun session hmem => getRow_of_mem hids (mem_listUploadBatchSessions.mp hmem).1
    refine hall.tail (Effect.batchCancelled batch ?_ hcommitted)
    rw [Store.batch, cancelSessions_batches]
    exact hfound

def Guards.grant (G : Guards) (s : Store) : Operation → Prop
  | .appendChunk caller id resumeToken offset chunk _ stop =>
    match getUploadSessionForCurrentUser s caller id with
    | .error _ => True
    | .ok session =>
      chunkRefusal (expireSessionIfNeeded s session).1 resumeToken offset chunk = none →
        G.chunk s session stop
  | .createBatch caller _ request _ =>
    (∀ existing, getExistingUploadBatchByIdempotency s caller request = some existing →
      existing.status.terminal = true) → G.batch s caller request
  | .commitBatch caller id _ _ =>
    match getUploadBatchForCurrentUser s caller id with
    | .error _ => True
    | .ok batch => batch.status.terminal = false → G.commit s batch
  | _ => True

theorem step_effects (hids : (s.sessions.map UploadSession.id).Nodup) (operation : Operation)
    (hG : G.grant s operation) : Effects media G s (step media s operation) := by
  cases operation with
  | tick duration => exact (Effect.passed duration).effects
  | createBatch => exact createUploadBatch_effects hG
  | createSession => exact createUploadSession_effects
  | appendChunk =>
    refine onSession_effects fun session hsession hfound => ?_
    refine appendUploadChunk_effects hfound ?_
    simp only [Guards.grant, hsession] at hG
    exact hG
  | finalize =>
    exact onSession_effects fun session _ hfound => finalizeUploadSession_effects hfound
  | commitBatch =>
    refine onBatch_effects fun batch hbatch hfound => ?_
    refine commitUploadBatch_effects hfound ?_
    simp only [Guards.grant, hbatch] at hG
    exact hG
  | cancelSession caller id reason =>
    exact onSession_effects fun session _ hfound => cancelUploadSession_effects hfound
  | cancelBatch caller id reason =>
    exact onBatch_effects fun batch _ hfound => cancelUploadBatch_effects hids hfound

end Effects

end TradingBot.Uploads
