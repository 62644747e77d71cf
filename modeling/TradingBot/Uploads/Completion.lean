import TradingBot.Uploads.Committable
import Mathlib.Data.Fintype.EquivFin
import Mathlib.Algebra.GroupWithZero.Nat

/-!
# Bringing a batch to its commit

From a batch all of whose sessions are promising, appends, finalize calls and new sessions lead to
its commit: a session gets its missing bytes, a complete one is finalized, a missing one is created.
Each call lowers the work that is left.
-/

namespace TradingBot.Uploads

open TradingBot.Misc

section Completion

variable {media : Media} {s s' : Store} {session : UploadSession} {caller : Caller}
  {spec : UploadBatch}

theorem expireSessionIfNeeded_of_later (hpending : session.status.pending)
    (hlater : s.now < session.expiresAt) : expireSessionIfNeeded s session = (session, s) := by
  have hterminal : ¬ session.status.terminal = true := by
    revert hpending
    cases session.status <;> decide
  rw [expireSessionIfNeeded, if_neg hterminal, if_pos hlater]

theorem step_append (hfound : s.session session.id = some session)
    (howner : session.ownerUserId = caller.ownerUserId)
    (hactor : session.actorUserId = caller.actorUserId)
    (hmutable : session.status.mutable = true) (hlater : s.now < session.expiresAt)
    {rest : Bytes} (hrest : rest ≠ [])
    (hwithin : session.receivedBytes + rest.length ≤ session.totalBytes) :
    step media s (.appendChunk caller session.id session.resumeToken session.nextOffset rest true
      false) = (s.writePart session.id rest).commitChunk session rest true := by
  have hrefusal : chunkRefusal session session.resumeToken session.nextOffset rest = none := by
    unfold chunkRefusal
    rw [if_neg (not_not.mpr hmutable), if_neg (not_not.mpr rfl), if_neg (not_not.mpr rfl),
      if_neg fun hempty => hrest hempty.1, if_neg (not_lt.mpr hwithin)]
  simp only [step, onSession, getUploadSessionForCurrentUser_of hfound howner hactor,
    appendUploadChunk, expireSessionIfNeeded_of_later (.inl hmutable) hlater, hrefusal]
  rfl

theorem step_finalize (hfound : s.session session.id = some session)
    (howner : session.ownerUserId = caller.ownerUserId)
    (hactor : session.actorUserId = caller.actorUserId) (hpending : session.status.pending)
    (hlater : s.now < session.expiresAt) (hreceived : session.receivedBytes = session.totalBytes)
    (hpart : (s.parts session.id).isSome = true) {fileId : Nat}
    (hfile : getRow ChatFile.id fileId s.chatFiles = none) {result : UploadFilePersistenceResult}
    (hstored : media.persistChatMediaFileBytes caller.userId session.originalFileName
      session.mimeType (s.partBytes session.id) session.previewMetadata.thumbnail fileId =
        .ok result) :
    step media s (.finalize caller session.id fileId none none) =
      ((s.putSession session.finalizing).commitReady session.finalizing (s.partBytes session.id)
        result).removePart session.id := by
  have hcommitted : session.status ≠ .committed := fun hstatus => by
    rw [hstatus] at hpending
    exact not_pending_committed hpending
  have hready : ¬ (session.status = .ready ∧ session.finalChatFileId.isSome = true) := by
    rintro ⟨hstatus, -⟩
    rw [hstatus] at hpending
    exact not_pending_ready hpending
  have hearly : finalizeEarly s session = none := by
    unfold finalizeEarly
    rw [if_neg hcommitted, if_neg hready, if_neg (not_not.mpr hreceived),
      if_neg (by rw [Option.isNone_iff_eq_none]; exact Option.isSome_iff_ne_none.mp hpart)]
  have hstore : storeUpload media (s.putSession session.finalizing) session.finalizing
      caller.userId fileId none = .ok result := hstored
  simp only [step, onSession, getUploadSessionForCurrentUser_of hfound howner hactor,
    finalizeUploadSession, expireSessionIfNeeded_of_later hpending hlater, hearly, hfile,
    Option.isSome_none, Bool.false_eq_true, if_false, finalizeMarked, hstore]
  rfl

theorem step_createSession {request : UploadSessionCreateRequest} {id : Nat} {resumeToken : String}
    (hvalid : request.valid = true) (hrefusal : batchRefusal s caller request = none)
    (habsent : s.session id = none)
    (htoken : resumeToken ∉ s.sessions.map UploadSession.resumeToken) :
    step media s (.createSession caller true request id resumeToken) =
      ({ s with sessions := s.sessions ++ [newUploadSession s caller request id resumeToken]
        }.touchBatch request.batchId startBatch) := by
  have hfree : ¬ ((s.session id).isSome = true ∨
      resumeToken ∈ s.sessions.map UploadSession.resumeToken) := by
    rw [habsent]
    exact not_or.mpr ⟨Bool.false_ne_true, htoken⟩
  simp only [step, createUploadSession, hvalid, hrefusal, if_neg hfree]
  rfl

theorem exists_fresh {α : Type} (id : α → Nat) (rows : List α) :
    ∃ key, getRow id key rows = none := by
  obtain ⟨key, hkey⟩ := Infinite.exists_notMem_finset (rows.map id).toFinset
  refine ⟨key, getRow_eq_none.mpr fun row hrow heq => hkey ?_⟩
  rw [List.mem_toFinset, ← heq]
  exact List.mem_map_of_mem hrow

theorem exists_token (sessions : List UploadSession) :
    ∃ token, token ∉ sessions.map UploadSession.resumeToken := by
  obtain ⟨token, htoken⟩ :=
    Infinite.exists_notMem_finset (sessions.map UploadSession.resumeToken).toFinset
  exact ⟨token, fun hmem => htoken (List.mem_toFinset.mpr hmem)⟩

def UploadSession.work (session : UploadSession) : Nat :=
  if session.status.readyLike then 0
  else if session.receivedBytes = session.totalBytes then 1
  else 2

def Store.work (s : Store) (batchId expectedItems : Nat) : Nat :=
  3 * (expectedItems - (s.sessionsOf batchId).length) +
    ((s.sessionsOf batchId).map UploadSession.work).sum

theorem sum_work_setRow {rows : List UploadSession} (hids : (rows.map UploadSession.id).Nodup)
    {old new : UploadSession} (hold : old ∈ rows) (hid : new.id = old.id) {batchId : Nat}
    (hbatch : new.batchId = some batchId) (holdBatch : old.batchId = some batchId) :
    (((setRow UploadSession.id new.id (fun _ => new) rows).filter fun session =>
      session.batchId = some batchId).map UploadSession.work).sum + old.work =
    ((rows.filter fun session => session.batchId = some batchId).map UploadSession.work).sum +
      new.work := by
  induction rows with
  | nil => cases hold
  | cons head tail ih =>
    obtain ⟨hhead, htail⟩ := List.nodup_cons.mp hids
    rcases List.mem_cons.mp hold with rfl | hmem
    · have hrest : setRow UploadSession.id new.id (fun _ => new) tail = tail := by
        rw [setRow, List.map_congr_left (g := fun row => row), List.map_id']
        intro row hrow
        rw [if_neg fun heq => hhead (by rw [← hid, ← heq]; exact List.mem_map_of_mem hrow)]
      have hcons : setRow UploadSession.id new.id (fun _ => new) (old :: tail) = new :: tail := by
        rw [setRow, List.map_cons, if_pos hid.symm, ← setRow, hrest]
      rw [hcons, List.filter_cons_of_pos (by simpa using hbatch),
        List.filter_cons_of_pos (by simpa using holdBatch), List.map_cons, List.map_cons,
        List.sum_cons, List.sum_cons]
      omega
    · have hne : head.id ≠ new.id := fun heq =>
        hhead (by rw [show UploadSession.id head = old.id from heq.trans hid]
                  exact List.mem_map_of_mem hmem)
      have hcons : setRow UploadSession.id new.id (fun _ => new) (head :: tail) =
          head :: setRow UploadSession.id new.id (fun _ => new) tail := by
        rw [setRow, List.map_cons, if_neg hne, ← setRow]
      have hih := ih htail hmem
      rw [hcons]
      by_cases hof : head.batchId = some batchId
      · rw [List.filter_cons_of_pos (by simpa using hof), List.filter_cons_of_pos (by simpa using hof),
          List.map_cons, List.map_cons, List.sum_cons, List.sum_cons]
        omega
      · rw [List.filter_cons_of_neg (by simpa using hof), List.filter_cons_of_neg (by simpa using hof)]
        exact hih

/-! ## Batches on their way -/

structure Underway (media : Media) (spec : UploadBatch) (s : Store) : Prop where
  sound : UploadsSound s
  batch : ∃ batch, s.batch spec.id = some batch ∧ batch.status.terminal = false ∧
    batch.key = spec.key ∧ batch.messageKind = spec.messageKind ∧
    batch.expectedItems = spec.expectedItems
  sessions : ∀ session ∈ s.sessions, session.batchId = some spec.id → Promising media s session ∧
    (session.status.pending → s.now < session.expiresAt)

def UploadBatch.ownerCaller (batch : UploadBatch) : Caller :=
  ⟨batch.ownerUserId, batch.ownerUserId, batch.actorUserId⟩

theorem batch_touchBatch {batchId : Option Nat} {write : UploadBatch → UploadBatch}
    (hwrite : ∀ row, (write row).id = row.id ∧ (write row).key = row.key ∧
      (write row).messageKind = row.messageKind ∧ (write row).expectedItems = row.expectedItems)
    (hopen : ∀ row : UploadBatch, row.status.terminal = false → (write row).status.terminal = false)
    (h : ∃ batch, s.batch spec.id = some batch ∧ batch.status.terminal = false ∧
      batch.key = spec.key ∧ batch.messageKind = spec.messageKind ∧
      batch.expectedItems = spec.expectedItems) :
    ∃ batch, (s.touchBatch batchId write).batch spec.id = some batch ∧
      batch.status.terminal = false ∧ batch.key = spec.key ∧
      batch.messageKind = spec.messageKind ∧ batch.expectedItems = spec.expectedItems := by
  obtain ⟨batch, hfound, hstatus, hkey, hkind, hexpected⟩ := h
  cases batchId with
  | none => exact ⟨batch, hfound, hstatus, hkey, hkind, hexpected⟩
  | some id =>
    have hid := Store.batch_id hfound
    by_cases hsame : spec.id = id
    · refine ⟨write batch, ?_, hopen batch hstatus, (hwrite batch).2.1.trans hkey,
        (hwrite batch).2.2.1.trans hkind, (hwrite batch).2.2.2.trans hexpected⟩
      have hget : (s.touchBatch (some id) write).batch id =
          some (if batch.status.terminal then batch else write batch) := by
        refine getRow_setRow_self (fun row hrow => ?_) (hsame ▸ hfound)
        split
        · exact hrow
        · exact (hwrite row).1.trans hrow
      rw [hsame, hget, if_neg (by rw [hstatus]; exact Bool.false_ne_true)]
    · refine ⟨batch, ?_, hstatus, hkey, hkind, hexpected⟩
      refine (getRow_setRow_of_ne (fun row hrow => ?_) hsame).trans hfound
      split
      · exact hrow
      · exact (hwrite row).1.trans hrow

theorem UploadsSound.step (h : UploadsSound s) (operation : Operation) :
    UploadsSound (step media s operation) := by
  have hgrant : ({} : Guards).grant s operation := by
    unfold Guards.grant
    split
    · split
      · trivial
      · exact fun _ => trivial
    · exact fun _ => trivial
    · split
      · trivial
      · exact fun _ => trivial
    · trivial
  exact (step_effects h.sessionIds operation hgrant).invariant
    (fun _ _ hs heffect => hs.effect heffect) h

theorem Underway.owner (h : Underway media spec s) (hsession : session ∈ s.sessions)
    (hof : session.batchId = some spec.id) :
    session.ownerUserId = spec.ownerCaller.ownerUserId ∧
      session.actorUserId = spec.ownerCaller.actorUserId := by
  obtain ⟨batch, hfound, -, hkey, -, -⟩ := h.batch
  obtain ⟨other, hother, howner, hactor⟩ := h.sound.belongs session hsession spec.id hof
  cases hother.symm.trans hfound
  simp only [UploadBatch.key, BatchKey.mk.injEq] at hkey
  exact ⟨howner.symm.trans hkey.1, hactor.symm.trans hkey.2.1⟩

@[simp] theorem touchBatch_now (s : Store) (batchId : Option Nat)
    (write : UploadBatch → UploadBatch) : (s.touchBatch batchId write).now = s.now := by
  cases batchId <;> rfl

theorem batchProgress_open (sessions : List UploadSession) (ready : UploadSession)
    (batch : UploadBatch) : (batchProgress sessions ready batch).terminal = false := by
  unfold batchProgress
  dsimp only
  split_ifs <;> rfl

theorem Underway.put (h : Underway media spec s) {old : UploadSession} (new : UploadSession)
    (hold : old ∈ s.sessions) (hof : old.batchId = some spec.id) (hid : new.id = old.id)
    (hbatch : new.batchId = old.batchId) (hsound : UploadsSound s')
    (hopen : ∃ batch, s'.batch spec.id = some batch ∧ batch.status.terminal = false ∧
      batch.key = spec.key ∧ batch.messageKind = spec.messageKind ∧
      batch.expectedItems = spec.expectedItems)
    (hsessions : s'.sessions = setRow UploadSession.id new.id (fun _ => new) s.sessions)
    (hparts : ∀ id ≠ new.id, s'.parts id = s.parts id) (hnow : s'.now = s.now)
    (hnew : Promising media s' new ∧ (new.status.pending → s'.now < new.expiresAt))
    (hless : new.work < old.work) :
    Underway media spec s' ∧
      s'.work spec.id spec.expectedItems < s.work spec.id spec.expectedItems := by
  have hfound : s.session new.id = some old := hid ▸ getRow_of_mem h.sound.sessionIds hold
  refine ⟨⟨hsound, hopen, fun session hsession hsessionOf => ?_⟩, ?_⟩
  · rw [hsessions] at hsession
    rcases (mem_setRow_of_getRow h.sound.sessionIds hfound).mp hsession with ⟨hmem, hne⟩ | rfl
    · obtain ⟨hpromising, htime⟩ := h.sessions session hmem hsessionOf
      exact ⟨(promising_congr (hparts session.id hne)).mpr hpromising, hnow.symm ▸ htime⟩
    · exact hnew
  · have hsum := sum_work_setRow h.sound.sessionIds hold hid (hbatch.trans hof) hof
    have hlength : (s'.sessionsOf spec.id).length = (s.sessionsOf spec.id).length := by
      rw [Store.sessionsOf, Store.sessionsOf, hsessions]
      refine sessionsOf_length (R := fun row new => new.batchId = row.batchId)
        (.setRow (fun _ => rfl) fun row hrow hkey => ?_) (fun _ _ hsame => hsame) _
      rw [List.inj_on_of_nodup_map h.sound.sessionIds hrow hold (hkey.trans hid)]
      exact hbatch
    unfold Store.work
    rw [hlength]
    have hlist : s'.sessionsOf spec.id = (setRow UploadSession.id new.id (fun _ => new)
        s.sessions).filter fun session => session.batchId = some spec.id := by
      rw [Store.sessionsOf, hsessions]
    rw [hlist]
    simp only [Store.sessionsOf] at hsum ⊢
    omega

def Advances (media : Media) (spec : UploadBatch) (s : Store) (operation : Operation) : Prop :=
  operation.uploadCall = true ∧ Underway media spec (step media s operation) ∧
    (step media s operation).work spec.id spec.expectedItems < s.work spec.id spec.expectedItems

theorem Underway.append (h : Underway media spec s) (hsession : session ∈ s.sessions)
    (hof : session.batchId = some spec.id) (hpending : session.status.pending)
    (hmissing : session.receivedBytes ≠ session.totalBytes) :
    ∃ operation, Advances media spec s operation := by
  have hfound := getRow_of_mem h.sound.sessionIds hsession
  have hrow := h.sound.rows session hsession
  obtain ⟨hpromising, htime⟩ := h.sessions session hsession hof
  obtain ⟨howner, hactor⟩ := h.owner hsession hof
  obtain ⟨rest, hlength, haccepts⟩ :=
    (hpromising.resolve_left (not_readyLike_of_pending hpending)).2
  have hwithin := hrow.within
  have hrest : rest ≠ [] := by
    rintro rfl
    rw [List.length_nil] at hlength
    omega
  have hmutable : session.status.mutable = true :=
    hpending.resolve_right fun hstatus => hmissing (hrow.whole hstatus)
  have htotal : session.receivedBytes + rest.length = session.totalBytes := by omega
  refine ⟨.appendChunk spec.ownerCaller session.id session.resumeToken session.nextOffset rest true
    false, rfl, ?_⟩
  have hsound : UploadsSound (step media s (.appendChunk spec.ownerCaller session.id
    session.resumeToken session.nextOffset rest true false)) := h.sound.step _
  rw [step_append hfound howner hactor hmutable (htime hpending) hrest htotal.le] at hsound ⊢
  have hpart : ((s.writePart session.id rest).commitChunk session rest true).partBytes session.id =
      s.partBytes session.id ++ rest := by
    rw [← partBytes_writePart_self, Store.partBytes, Store.partBytes]
    simp only [Store.commitChunk, touchBatch_parts]
    rfl
  have hstatus : (session.received s.now rest true).status = .uploaded :=
    if_pos htotal.ge
  refine h.put (session.received s.now rest true) hsession hof rfl rfl hsound ?_ ?_ ?_ ?_ ⟨?_, ?_⟩ ?_
  · exact batch_touchBatch (fun row => ⟨rfl, rfl, rfl, rfl⟩) (fun row _ => rfl) h.batch
  · simp only [Store.commitChunk, touchBatch_sessions]
    rfl
  · intro id hne
    simp only [Store.commitChunk, touchBatch_parts]
    exact Function.update_of_ne hne _ _
  · simp only [Store.commitChunk, touchBatch_now]
    rfl
  · refine .inr ⟨by rw [hstatus]; exact .inl rfl, [], ?_, ?_⟩
    · show 0 = session.totalBytes - (session.receivedBytes + rest.length)
      omega
    · show media.accepts session.mimeType (((s.writePart session.id rest).commitChunk session rest
        true).partBytes session.id ++ [])
      rw [hpart, List.append_nil]
      exact haccepts
  · intro _
    simp only [Store.commitChunk, touchBatch_now]
    exact Nat.lt_add_of_pos_right (by decide)
  · have hless : (session.received s.now rest true).work = 1 := by
      unfold UploadSession.work
      rw [hstatus, if_neg (by decide)]
      exact if_pos htotal
    have hmore : session.work = 2 := by
      unfold UploadSession.work
      rw [if_neg (not_readyLike_of_pending hpending), if_neg hmissing]
    omega

theorem Underway.finalize (h : Underway media spec s) (hsession : session ∈ s.sessions)
    (hof : session.batchId = some spec.id) (hpending : session.status.pending)
    (hreceived : session.receivedBytes = session.totalBytes) :
    ∃ operation, Advances media spec s operation := by
  have hfound := getRow_of_mem h.sound.sessionIds hsession
  have hrow := h.sound.rows session hsession
  obtain ⟨hpromising, htime⟩ := h.sessions session hsession hof
  obtain ⟨howner, hactor⟩ := h.owner hsession hof
  obtain ⟨rest, hlength, haccepts⟩ :=
    (hpromising.resolve_left (not_readyLike_of_pending hpending)).2
  have hnil : rest = [] := List.eq_nil_of_length_eq_zero (by omega)
  rw [hnil, List.append_nil] at haccepts
  have hpart := hrow.written hpending (hreceived ▸ hrow.positive)
  obtain ⟨fileId, hfile⟩ := exists_fresh ChatFile.id s.chatFiles
  obtain ⟨result, hstored⟩ := (media.persist_ok_iff spec.ownerCaller.userId
    session.originalFileName session.mimeType (s.partBytes session.id)
    session.previewMetadata.thumbnail fileId).mpr haccepts
  refine ⟨.finalize spec.ownerCaller session.id fileId none none, rfl, ?_⟩
  have hsound : UploadsSound (step media s (.finalize spec.ownerCaller session.id fileId none
    none)) := h.sound.step _
  rw [step_finalize hfound howner hactor hpending (htime hpending) hreceived hpart hfile hstored]
    at hsound ⊢
  refine h.put (session.finalizing.readyWith s.now result) hsession hof rfl rfl hsound ?_ ?_ ?_ ?_
    ⟨?_, ?_⟩ ?_
  · exact batch_touchBatch (fun row => ⟨rfl, rfl, rfl, rfl⟩)
      (fun row _ => batchProgress_open _ _ row) h.batch
  · simp only [Store.removePart, Store.commitReady, touchBatch_sessions]
    exact setRow_setRow fun _ _ => rfl
  · intro id hne
    simp only [Store.removePart, Store.commitReady, touchBatch_parts]
    exact Function.update_of_ne hne _ _
  · simp only [Store.removePart, Store.commitReady, touchBatch_now]
    rfl
  · exact .inl rfl
  · exact fun hready => absurd hready not_pending_ready
  · have hmore : session.work = 1 := by
      unfold UploadSession.work
      rw [if_neg (not_readyLike_of_pending hpending), if_pos hreceived]
    have hless : (session.finalizing.readyWith s.now result).work = 0 := if_pos rfl
    omega

def textRequest (batch : UploadBatch) (content : Bytes) : UploadSessionCreateRequest :=
  { batchId := some batch.id, roomKind := batch.roomKind, targetId := batch.targetId
    mediaType := .document, fileName := "a.txt", mimeType := "text/plain"
    totalBytes := content.length, chunkSize := 1, previewMetadata := {} }

theorem baseContentType_plain : baseContentType "text/plain" = "text/plain" := by decide

theorem Underway.create (h : Underway media spec s) {content : Bytes} (hcontent : content ≠ [])
    (haccepts : media.accepts "text/plain" content)
    (hroom : (s.sessionsOf spec.id).length < spec.expectedItems) :
    ∃ operation, Advances media spec s operation := by
  obtain ⟨batch, hfound, hopen, hkey, hkind, hexpected⟩ := h.batch
  obtain ⟨id, habsent⟩ := exists_fresh UploadSession.id s.sessions
  obtain ⟨token, htoken⟩ := exists_token s.sessions
  simp only [UploadBatch.key, BatchKey.mk.injEq] at hkey
  have hlength : 0 < content.length := List.length_pos_iff.mpr hcontent
  have hvalid : (textRequest spec content).valid = true := by
    have hmax := haccepts.2.2
    have hname : pyStrip "a.txt" ≠ "" := by decide
    have hlen : "a.txt".length = 5 ∧ "text/plain".length = 10 := by decide
    simp [UploadSessionCreateRequest.valid, textRequest, hname, hlen, hlength, hmax]
  have hrefusal : batchRefusal s spec.ownerCaller (textRequest spec content) = none := by
    have hget : getUploadBatchForCurrentUser s spec.ownerCaller spec.id = .ok batch :=
      getUploadBatchForCurrentUser_of hfound hkey.1 hkey.2.1
    simp only [batchRefusal, textRequest, hget, hkey.2.2.1, hkey.2.2.2.1, hopen, hexpected]
    rw [if_neg (by simp), if_neg (by simp), if_neg (not_le.mpr (show (s.sessions.filter _).length < _ from hroom))]
  refine ⟨.createSession spec.ownerCaller true (textRequest spec content) id token, rfl, ?_⟩
  have hsound : UploadsSound (step media s (.createSession spec.ownerCaller true
    (textRequest spec content) id token)) := h.sound.step _
  rw [step_createSession hvalid hrefusal habsent htoken] at hsound ⊢
  refine ⟨⟨hsound, ?_, ?_⟩, ?_⟩
  · refine batch_touchBatch startBatch_eq (fun row hrow => ?_) h.batch
    unfold startBatch
    split_ifs
    · rfl
    · exact hrow
  · intro session hsession hof
    rw [touchBatch_sessions] at hsession
    rw [touchBatch_now]
    rcases List.mem_append.mp hsession with hsession | hsession
    · obtain ⟨hpromising, htime⟩ := h.sessions session hsession hof
      exact ⟨(promising_congr (by rw [touchBatch_parts])).mpr hpromising, htime⟩
    · rw [List.mem_singleton.mp hsession]
      refine ⟨.inr ⟨.inl rfl, content, ?_, ?_⟩, fun _ => Nat.lt_add_of_pos_right (by decide)⟩
      · show content.length = (content.length : Int).toNat - 0
        omega
      · have hpart : (({ s with sessions := s.sessions ++ [newUploadSession s spec.ownerCaller
            (textRequest spec content) id token] } : Store).touchBatch (textRequest spec content).batchId
            startBatch).partBytes id = [] := by
          rw [Store.partBytes, touchBatch_parts]
          show (s.parts id).getD [] = []
          rw [h.sound.absent id habsent, Option.getD_none]
        show media.accepts (baseContentType "text/plain") (Store.partBytes _ id ++ content)
        rw [hpart, List.nil_append, baseContentType_plain]
        exact haccepts
  · have hlist : (({ s with sessions := s.sessions ++ [newUploadSession s spec.ownerCaller
        (textRequest spec content) id token] } : Store).touchBatch (textRequest spec content).batchId
        startBatch).sessionsOf spec.id = s.sessionsOf spec.id ++ [newUploadSession s spec.ownerCaller
          (textRequest spec content) id token] := by
      rw [Store.sessionsOf, touchBatch_sessions, List.filter_append,
        List.filter_cons_of_pos (by simp [newUploadSession, textRequest]), List.filter_nil, Store.sessionsOf]
    have hwork : (newUploadSession s spec.ownerCaller (textRequest spec content) id token).work ≤ 2 := by
      unfold UploadSession.work
      split_ifs <;> omega
    unfold Store.work
    rw [hlist, List.length_append, List.map_append, List.sum_append, List.length_singleton,
      List.map_singleton, List.sum_singleton]
    omega

theorem Underway.commit (h : Underway media spec s)
    (hready : ∀ session ∈ s.sessions, session.batchId = some spec.id →
      session.status.readyLike = true)
    (hcount : spec.expectedItems ≤ (s.sessionsOf spec.id).length) :
    ∃ messages, (commitCall s spec.ownerCaller spec.id true none).1 = .returned messages := by
  obtain ⟨batch, hfound, hopen, hkey, hkind, hexpected⟩ := h.batch
  have hid := Store.batch_id hfound
  simp only [UploadBatch.key, BatchKey.mk.injEq] at hkey
  have hget : getUploadBatchForCurrentUser s spec.ownerCaller spec.id = .ok batch :=
    getUploadBatchForCurrentUser_of hfound hkey.1 hkey.2.1
  have hlisted : ∀ session ∈ listUploadBatchSessions s batch.id,
      session.status.readyLike = true := fun session hsession => by
    obtain ⟨hmem, hof⟩ := mem_listUploadBatchSessions.mp hsession
    exact hready session hmem (hid ▸ hof)
  have hactive : ((listUploadBatchSessions s batch.id).filter fun session =>
      session.status ≠ .cancelled) = listUploadBatchSessions s batch.id := by
    refine List.filter_eq_self.mpr fun session hsession => decide_eq_true fun hcancelled => ?_
    have hnot := hlisted session hsession
    rw [hcancelled] at hnot
    cases hnot
  have hlength : (listUploadBatchSessions s batch.id).length = (s.sessionsOf spec.id).length := by
    rw [hid]
    exact List.length_insertionSort _ _
  have hrefusal : commitRefusal batch (listUploadBatchSessions s batch.id) = none := by
    have hmem := (getRow_eq_some hfound).1
    have hcounted := h.sound.counted batch hmem
    rw [hid] at hcounted
    unfold commitRefusal
    rw [if_neg (by omega), if_neg (by simpa using hlisted), if_neg]
    rintro ⟨hsingle, hone⟩
    have hshape := h.sound.shaped batch hmem hsingle
    omega
  have hcommitted : batch.status ≠ .committed := fun hstatus => by
    rw [hstatus] at hopen
    cases hopen
  refine ⟨reloadMessagesForDelivery (s.commitBatch batch spec.ownerCaller.userId
      (orderSessions (listUploadBatchSessions s batch.id)))
    ((List.range (orderSessions (listUploadBatchSessions s batch.id)).length).map
      (s.messageSequence + 1 + ·)), ?_⟩
  simp only [commitCall, onBatch, hget, commitUploadBatch, if_neg hcommitted, hopen, hactive,
    hrefusal]
  rfl

theorem Underway.advances (h : Underway media spec s) {content : Bytes} (hcontent : content ≠ [])
    (haccepts : media.accepts "text/plain" content) :
    (∃ operation, Advances media spec s operation) ∨
      ∃ messages, (commitCall s spec.ownerCaller spec.id true none).1 = .returned messages := by
  by_cases hready : ∀ session ∈ s.sessions, session.batchId = some spec.id →
      session.status.readyLike = true
  · by_cases hcount : spec.expectedItems ≤ (s.sessionsOf spec.id).length
    · exact .inr (h.commit hready hcount)
    · exact .inl (h.create hcontent haccepts (not_le.mp hcount))
  · push Not at hready
    obtain ⟨session, hsession, hof, hnot⟩ := hready
    have hpending := ((h.sessions session hsession hof).1.resolve_left hnot).1
    by_cases hreceived : session.receivedBytes = session.totalBytes
    · exact .inl (h.finalize hsession hof hpending hreceived)
    · exact .inl (h.append hsession hof hpending hreceived)

theorem Underway.completes {content : Bytes} (hcontent : content ≠ [])
    (haccepts : media.accepts "text/plain" content) :
    ∀ (work : Nat) (s : Store), Underway media spec s → s.work spec.id spec.expectedItems ≤ work →
      ∃ more : List Operation, (∀ operation ∈ more, operation.uploadCall = true) ∧
        ∃ messages, (commitCall (Misc.run (step media) s more) spec.ownerCaller spec.id true none).1 =
          .returned messages := by
  intro work
  induction work with
  | zero =>
    intro s h hwork
    rcases h.advances hcontent haccepts with ⟨operation, -, -, hless⟩ | hcommit
    · omega
    · exact ⟨[], fun _ hmem => absurd hmem List.not_mem_nil, hcommit⟩
  | succ work ih =>
    intro s h hwork
    rcases h.advances hcontent haccepts with ⟨operation, hcall, hnext, hless⟩ | hcommit
    · obtain ⟨more, hmore, hcommit⟩ := ih (step media s operation) hnext (by omega)
      refine ⟨operation :: more, fun other hother => ?_, hcommit⟩
      rcases List.mem_cons.mp hother with rfl | hother
      · exact hcall
      · exact hmore other hother
    · exact ⟨[], fun _ hmem => absurd hmem List.not_mem_nil, hcommit⟩

theorem uploadsSound_empty : UploadsSound .empty where
  sessionIds := List.nodup_nil
  batchIds := List.nodup_nil
  rows := by simp [Store.empty]
  absent := fun _ _ => rfl
  belongs := by simp [Store.empty]
  counted := by simp [Store.empty]
  shaped := by simp [Store.empty]

theorem uploadsSound_run (media : Media) (operations : List Operation) :
    UploadsSound (run (step media) .empty operations) :=
  run_invariant (I := UploadsSound) (C := fun _ _ _ => True)
    (fun _ operation h _ => h.step operation) operations .empty
    uploadsSound_empty (eachStep_true _ _ _)

end Completion

/-- From every reachable state in which no session of an open batch is past its time, uploads and
new sessions can bring the batch to its commit if and only if every session is ready, or was not
given up and can be completed with bytes that pass the check of the type. -/
theorem committable_iff (media : Media) (content : Bytes) (hcontent : content ≠ [])
    (haccepts : media.accepts "text/plain" content) (operations : List Operation)
    (batch : UploadBatch) (hbatch : batch ∈ (run (step media) .empty operations).batches)
    (hopen : batch.status.terminal = false)
    (hlater : ∀ session ∈ (run (step media) .empty operations).sessions,
      session.batchId = some batch.id → session.status.pending →
        (run (step media) .empty operations).now < session.expiresAt) :
    (∃ more : List Operation, (∀ operation ∈ more, operation.uploadCall = true) ∧
      ∃ caller messages, (commitCall (run (step media) (run (step media) .empty operations) more)
        caller batch.id true none).1 = .returned messages) ↔
    ∀ session ∈ (run (step media) .empty operations).sessions, session.batchId = some batch.id →
      Promising media (run (step media) .empty operations) session := by
  have hsound := uploadsSound_run media operations
  have hfound := getRow_of_mem hsound.batchIds hbatch
  constructor
  · rintro ⟨more, hmore, caller, messages, hreturned⟩ session hsession hof
    by_contra hnot
    have hblocked : Blocked media batch.id (run (step media) .empty operations) := by
      refine ⟨hsound, ⟨session, hsession, hof, hnot⟩, fun other hother hcommitted => ?_⟩
      cases hother.symm.trans hfound
      rw [hcommitted] at hopen
      cases hopen
    exact (Blocked.run more _ hblocked hmore).commit_refused caller true none messages hreturned
  · intro hpromising
    have hunderway : Underway media batch (run (step media) .empty operations) :=
      ⟨hsound, ⟨batch, hfound, hopen, rfl, rfl, rfl⟩, fun session hsession hof =>
        ⟨hpromising session hsession hof, hlater session hsession hof⟩⟩
    obtain ⟨more, hmore, messages, hreturned⟩ :=
      Underway.completes hcontent haccepts _ _ hunderway le_rfl
    exact ⟨more, hmore, batch.ownerCaller, messages, hreturned⟩

def halfAlbum : List Operation :=
  .createBatch albumCaller true albumRequest 1 :: uploadItem 10 "x" 1 0

theorem albumMedia_accepts : albumMedia.accepts "text/plain" [72] :=
  ⟨by decide, by decide, by decide⟩

/-- The missing item can be sent and the album committed. -/
theorem half_album_committable :
    ∃ batch ∈ (run (step albumMedia) .empty halfAlbum).batches, batch.status.terminal = false ∧
      ∃ more : List Operation, (∀ operation ∈ more, operation.uploadCall = true) ∧
        ∃ caller messages, (commitCall (run (step albumMedia)
          (run (step albumMedia) .empty halfAlbum) more) caller batch.id true none).1 =
            .returned messages := by
  obtain ⟨batch, hbatch, hopen⟩ : ∃ batch ∈ (run (step albumMedia) .empty halfAlbum).batches,
      batch.status.terminal = false := by decide
  have hlater : ∀ session ∈ (run (step albumMedia) .empty halfAlbum).sessions,
      (run (step albumMedia) .empty halfAlbum).now < session.expiresAt := by decide
  have hready : ∀ session ∈ (run (step albumMedia) .empty halfAlbum).sessions,
      session.status.readyLike = true := by decide
  exact ⟨batch, hbatch, hopen, (committable_iff albumMedia [72] (by decide) albumMedia_accepts
    halfAlbum batch hbatch hopen fun session hsession _ _ => hlater session hsession).mpr
      fun session hsession _ => .inl (hready session hsession)⟩

def cancelledItem : List Operation :=
  halfAlbum ++ [.createSession albumCaller true (albumItem 1 1) 11 "y",
    .cancelSession albumCaller 11 none]

/-- The batch is open, and no sequence of calls leads to its commit. -/
theorem cancelled_item_blocks :
    (∃ batch ∈ (run (step albumMedia) .empty cancelledItem).batches,
      batch.id = 1 ∧ batch.status.terminal = false) ∧
    ∀ more : List Operation, (∀ operation ∈ more, operation.uploadCall = true) →
      ∀ caller messages, (commitCall (run (step albumMedia)
        (run (step albumMedia) .empty cancelledItem) more) caller 1 true none).1 ≠
          .returned messages := by
  refine ⟨by decide, fun more hmore caller messages => ?_⟩
  have hcancelled : ∃ session ∈ (run (step albumMedia) .empty cancelledItem).sessions,
      session.batchId = some 1 ∧ session.status = .cancelled := by decide
  have hopen : ∀ batch ∈ (run (step albumMedia) .empty cancelledItem).batches,
      batch.status ≠ .committed := by decide
  obtain ⟨session, hsession, hof, hstatus⟩ := hcancelled
  have hblocked : Blocked albumMedia 1 (run (step albumMedia) .empty cancelledItem) := by
    refine ⟨uploadsSound_run _ _, ⟨session, hsession, hof, ?_⟩,
      fun batch hfound => hopen batch (getRow_eq_some hfound).1⟩
    rintro (hready | ⟨hpending, -⟩)
    · rw [hstatus] at hready
      cases hready
    · exact not_gone_of_pending hpending (.inl hstatus)
  exact (Blocked.run more _ hblocked hmore).commit_refused caller true none messages

end TradingBot.Uploads
