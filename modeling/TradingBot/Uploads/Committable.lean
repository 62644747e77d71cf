import TradingBot.Uploads.Contents
import TradingBot.Uploads.Commits

/-!
# Batches that can still be committed

The creation of sessions counts every session of a batch, cancelled ones too, the commit only those
not cancelled, and a session that fails its check of the type can only be cancelled. So an open
batch can be brought to its commit exactly as long as none of its sessions was given up and each can
still become ready.
-/

namespace TradingBot.Uploads

open TradingBot.Misc

/-! ## What every run keeps -/

structure RowSound (session : UploadSession) (part : Option Bytes) : Prop where
  offset : session.nextOffset = session.receivedBytes
  within : session.receivedBytes ≤ session.totalBytes
  positive : 0 < session.totalBytes
  written : session.status.pending → 0 < session.receivedBytes → part.isSome = true
  gone : session.status = .cancelled ∨ session.status = .expired → part = none
  file : session.status.readyLike = true → session.finalChatFileId.isSome = true
  whole : session.status = .finalizing → session.receivedBytes = session.totalBytes

def Store.sessionsOf (s : Store) (batchId : Nat) : List UploadSession :=
  s.sessions.filter fun session => session.batchId = some batchId

structure UploadsSound (s : Store) : Prop where
  sessionIds : (s.sessions.map UploadSession.id).Nodup
  batchIds : (s.batches.map UploadBatch.id).Nodup
  rows : ∀ session ∈ s.sessions, RowSound session (s.parts session.id)
  absent : ∀ id, s.session id = none → s.parts id = none
  belongs : ∀ session ∈ s.sessions, ∀ batchId, session.batchId = some batchId →
    ∃ batch, s.batch batchId = some batch ∧ batch.ownerUserId = session.ownerUserId ∧
      batch.actorUserId = session.actorUserId
  counted : ∀ batch ∈ s.batches, (s.sessionsOf batch.id).length ≤ batch.expectedItems
  shaped : ∀ batch ∈ s.batches, batch.messageKind = .single → batch.expectedItems = 1

section Sound

variable {media : Media} {G : Guards} {s s' : Store} {session old : UploadSession}
  {status : UploadSessionStatus} {batchId id : Nat} {resumeToken : String} {chunk : Bytes}
  {caller : Caller} {request : UploadSessionCreateRequest}

theorem rows_put {R : UploadSession → Option Bytes → Prop} (new : UploadSession)
    (h : ∀ session ∈ s.sessions, R session (s.parts session.id))
    (hsessions : s'.sessions = setRow UploadSession.id new.id (fun _ => new) s.sessions)
    (hparts : ∀ id ≠ new.id, s'.parts id = s.parts id) (hnew : R new (s'.parts new.id)) :
    ∀ session ∈ s'.sessions, R session (s'.parts session.id) := by
  intro row hrow
  rw [hsessions] at hrow
  rcases mem_setRow.mp hrow with ⟨hmem, hne⟩ | ⟨old, -, -, rfl⟩
  · rw [hparts row.id hne]
    exact h row hmem
  · exact hnew

theorem RowSound.rewrite {part part' : Option Bytes} {new : UploadSession}
    (h : RowSound old part) (hsame : SameProgress old new)
    (hpending : new.status.pending → old.status.pending ∧ part' = part)
    (hgone : new.status = .cancelled ∨ new.status = .expired → part' = none)
    (hfile : new.status.readyLike = true → new.finalChatFileId.isSome = true)
    (hwhole : new.status = .finalizing → old.receivedBytes = old.totalBytes) :
    RowSound new part' where
  offset := by rw [hsame.nextOffset, hsame.receivedBytes, h.offset]
  within := by rw [hsame.receivedBytes, hsame.totalBytes]; exact h.within
  positive := by rw [hsame.totalBytes]; exact h.positive
  written := fun hnew hreceived => by
    rw [hsame.receivedBytes] at hreceived
    rw [(hpending hnew).2]
    exact h.written (hpending hnew).1 hreceived
  gone := hgone
  file := hfile
  whole := fun hnew => by rw [hsame.receivedBytes, hsame.totalBytes]; exact hwhole hnew

theorem UploadsSound.found (h : UploadsSound s) (hfound : s.session session.id = some session) :
    RowSound session (s.parts session.id) := h.rows session (getRow_eq_some hfound).1

theorem not_readyLike_of_pending (h : status.pending) :
    ¬ status.readyLike = true := by
  revert h
  cases status <;> decide

theorem not_gone_of_pending (h : status.pending) :
    ¬ (status = .cancelled ∨ status = .expired) := by
  revert h
  cases status <;> decide

theorem not_gone_created :
    ¬ (UploadSessionStatus.created = .cancelled ∨ UploadSessionStatus.created = .expired) := by
  decide

theorem UploadsSound.rows_dropped (h : UploadsSound s)
    (hfound : s.session session.id = some session)
    (hgone : status = .cancelled ∨ status = .expired) (error : Option String) :
    ∀ row ∈ (s.dropSession (session.givenUp status error)).2.sessions,
      RowSound row ((s.dropSession (session.givenUp status error)).2.parts row.id) := by
  obtain ⟨fileId, files, heq⟩ := dropSession_eq s (session.givenUp status error)
  have hpending : ¬ status.pending := fun hpending => not_gone_of_pending hpending hgone
  have hready : ¬ status.readyLike = true := by rcases hgone with rfl | rfl <;> decide
  rw [heq]
  refine rows_put _ h.rows rfl (fun id hne => Function.update_of_ne hne _ _) ?_
  exact (h.found hfound).rewrite ⟨rfl, rfl, rfl, rfl⟩ (fun hnew => absurd hnew hpending)
    (fun _ => Function.update_self _ _ _) (fun hnew => absurd hnew hready)
    (fun hnew => absurd (.inr hnew) hpending)

theorem UploadsSound.rows_commitChunk (h : UploadsSound s)
    (hfound : s.session session.id = some session) {offset : Int}
    (isLastChunk : Bool) (hrefusal : chunkRefusal session resumeToken offset chunk = none) :
    ∀ row ∈ ((s.writePart session.id chunk).commitChunk session chunk isLastChunk).sessions,
      RowSound row
        (((s.writePart session.id chunk).commitChunk session chunk isLastChunk).parts row.id) := by
  obtain ⟨-, -, -, hwithin⟩ := chunkRefusal_mutable hrefusal
  have hsession := h.found hfound
  refine rows_put (session.received s.now chunk isLastChunk) h.rows ?_ ?_ ?_
  · simp only [Store.commitChunk, touchBatch_sessions]
    rfl
  · intro id hne
    simp only [Store.commitChunk, touchBatch_parts]
    exact Function.update_of_ne hne _ _
  · have hpending : (session.received s.now chunk isLastChunk).status.pending := by
      simp only [UploadSession.received]
      split_ifs <;> exact .inl rfl
    refine ⟨rfl, hwithin, hsession.positive, fun _ _ => ?_,
      fun hgone => absurd hgone (not_gone_of_pending hpending),
      fun hready => absurd hready (not_readyLike_of_pending hpending), fun hwhole => ?_⟩
    · simp only [Store.commitChunk, touchBatch_parts]
      show ((s.writePart session.id chunk).parts session.id).isSome = true
      rw [parts_writePart_self]
      rfl
    · simp only [UploadSession.received] at hwhole
      split_ifs at hwhole

theorem UploadsSound.rows_commitBatch (h : UploadsSound s) (batch : UploadBatch) (senderId : Nat)
    {active : List UploadSession} (hactive : active = orderSessions
      ((listUploadBatchSessions s batch.id).filter fun session => session.status ≠ .cancelled))
    (hrefusal : commitRefusal batch ((listUploadBatchSessions s batch.id).filter fun session =>
      session.status ≠ .cancelled) = none) :
    ∀ row ∈ (s.commitBatch batch senderId active).sessions,
      RowSound row ((s.commitBatch batch senderId active).parts row.id) := by
  subst hactive
  intro new hnew
  obtain ⟨row, hrow, rfl⟩ := List.mem_map.mp hnew
  rw [commitSession_id]
  rcases commitSession_cases _ (s.messageSequence + 1) row with
    ⟨-, hsame⟩ | ⟨index, active, hindex, hid, hcommitted⟩
  · rw [hsame]
    exact h.rows row hrow
  · rw [hcommitted]
    have hactive := mem_orderSessions.mp (List.mem_of_getElem? hindex)
    have heq : active = row := List.inj_on_of_nodup_map h.sessionIds
      (mem_listUploadBatchSessions.mp (List.mem_of_mem_filter hactive)).1 hrow hid
    have hready := readyLike_of_commitRefusal hrefusal active hactive
    exact (h.rows row hrow).rewrite ⟨rfl, rfl, rfl, rfl⟩
      (fun hpending => absurd hpending not_pending_committed)
      (fun hgone => by rcases hgone with hgone | hgone <;> cases hgone)
      (fun _ => (h.rows row hrow).file (heq ▸ hready)) (fun hwhole => by cases hwhole)

theorem UploadsSound.rows_effect (h : UploadsSound s) (heffect : Effect media G s s') :
    ∀ session ∈ s'.sessions, RowSound session (s'.parts session.id) := by
  cases heffect with
  | passed duration => exact h.rows
  | batchAdded => exact h.rows
  | sessionAdded _ request _ _ hvalid =>
    rw [touchBatch_sessions, touchBatch_parts]
    intro session hsession
    rcases List.mem_append.mp hsession with hsession | hsession
    · exact h.rows session hsession
    · rw [List.mem_singleton.mp hsession]
      simp only [UploadSessionCreateRequest.valid, Bool.and_eq_true, decide_eq_true_eq] at hvalid
      have htotal : 0 < request.totalBytes.toNat := by omega
      exact ⟨rfl, Nat.zero_le _, htotal, fun _ hzero => absurd hzero (Nat.lt_irrefl 0),
        fun hgone => absurd hgone not_gone_created, (fun hready => by cases hready),
        fun hwhole => by cases hwhole⟩
  | dropped _ hfound _ _ error hstatus =>
    exact h.rows_dropped hfound (hstatus.imp_right And.left) error
  | chunkWritten _ hfound _ offset _ hrefusal =>
    have hmutable := (chunkRefusal_mutable hrefusal).1
    refine rows_put _ h.rows (setRow_eq_self h.sessionIds hfound).symm
      (fun id hne => Function.update_of_ne hne _ _) ?_
    have hsession := h.found hfound
    exact ⟨hsession.offset, hsession.within, hsession.positive,
      fun _ _ => by rw [parts_writePart_self]; rfl,
      fun hgone => absurd hgone (not_gone_of_pending (.inl hmutable)), hsession.file,
      hsession.whole⟩
  | chunkCommitted _ hfound _ _ _ isLastChunk hrefusal =>
    exact h.rows_commitChunk hfound isLastChunk hrefusal
  | marked session hfound hearly =>
    have hpending := pending_of_finalizeEarly (h.found hfound).gone (h.found hfound).file hearly
    exact rows_put _ h.rows rfl (fun _ _ => rfl) ((h.found hfound).rewrite ⟨rfl, rfl, rfl, rfl⟩
      (fun _ => ⟨hpending, rfl⟩) (fun hgone => by rcases hgone with hgone | hgone <;> cases hgone)
      (fun hready => by cases hready) (fun _ => (finalizeEarly_none hearly).2.1))
  | failed _ hfound hstatus =>
    exact rows_put _ h.rows rfl (fun _ _ => rfl) ((h.found hfound).rewrite ⟨rfl, rfl, rfl, rfl⟩
      (fun _ => ⟨.inr hstatus, rfl⟩)
      (fun hgone => by rcases hgone with hgone | hgone <;> cases hgone)
      (fun hready => by cases hready) (fun hwhole => by cases hwhole))
  | madeReady session hfound _ _ _ _ result =>
    refine rows_put (session.readyWith s.now result) h.rows ?_ ?_ ?_
    · simp only [Store.commitReady, touchBatch_sessions]
      rfl
    · intro id _
      simp only [Store.commitReady, touchBatch_parts]
      rfl
    · exact (h.found hfound).rewrite ⟨rfl, rfl, rfl, rfl⟩
        (fun hpending => absurd hpending not_pending_ready)
        (fun hgone => by rcases hgone with hgone | hgone <;> cases hgone) (fun _ => rfl)
        (fun hwhole => by cases hwhole)
  | partRemoved session hfound hstatus =>
    have hpending : ¬ session.status.pending := by rw [hstatus]; decide
    exact rows_put _ h.rows (setRow_eq_self h.sessionIds hfound).symm
      (fun id hne => Function.update_of_ne hne _ _)
      ((h.found hfound).rewrite ⟨rfl, rfl, rfl, rfl⟩ (fun hnew => absurd hnew hpending)
        (fun _ => Function.update_self _ _ _) (h.found hfound).file (h.found hfound).whole)
  | idsDrawn drawn => exact h.rows
  | batchCommitted batch _ _ _ senderId hrefusal =>
    exact h.rows_commitBatch batch senderId rfl hrefusal
  | batchCancelled batch hfound hopen => exact h.rows

theorem Effect.parts_absent (heffect : Effect media G s s') (habsent : s.session id = none) :
    s'.parts id = s.parts id := by
  have hne : ∀ {session : UploadSession}, s.session session.id = some session → id ≠ session.id := by
    intro session hfound heq
    rw [heq, hfound] at habsent
    cases habsent
  cases heffect with
  | sessionAdded => rw [touchBatch_parts]
  | dropped session hfound _ status error =>
    obtain ⟨fileId, files, heq⟩ := dropSession_eq s (session.givenUp status error)
    rw [heq]
    exact Function.update_of_ne (hne hfound) _ _
  | chunkWritten _ hfound =>
    exact Function.update_of_ne (hne hfound) _ _
  | chunkCommitted _ hfound =>
    simp only [Store.commitChunk, touchBatch_parts]
    exact Function.update_of_ne (hne hfound) _ _
  | madeReady =>
    simp only [Store.commitReady, touchBatch_parts]
    rfl
  | partRemoved session hfound hstatus => exact Function.update_of_ne (hne hfound) _ _
  | _ => rfl

/-! ## Batches and their sessions -/

def SameOwner (row new : UploadSession) : Prop :=
  new.id = row.id ∧ new.batchId = row.batchId ∧ new.ownerUserId = row.ownerUserId ∧
    new.actorUserId = row.actorUserId

theorem sessionsOf_length {R : UploadSession → UploadSession → Prop}
    {rows rows' : List UploadSession} (h : Rewritten R rows rows')
    (hR : ∀ row new, R row new → new.batchId = row.batchId) (batchId : Nat) :
    (rows'.filter fun session => session.batchId = some batchId).length =
      (rows.filter fun session => session.batchId = some batchId).length := by
  obtain ⟨write, rfl, hwrite⟩ := h
  rw [List.filter_map, List.length_map]
  refine congrArg _ (List.filter_congr fun row hrow => ?_)
  rw [Function.comp_apply, hR row _ (hwrite row hrow)]

theorem belongs_kept (hbatches : Rewritten BatchKept s.batches s'.batches)
    {batch : UploadBatch} (hfound : s.batch batchId = some batch) :
    ∃ batch', s'.batch batchId = some batch' ∧ batch'.ownerUserId = batch.ownerUserId ∧
      batch'.actorUserId = batch.actorUserId := by
  obtain ⟨batch', hfound', hkept⟩ := hbatches.getRow_eq_some (fun _ _ hkept => hkept.id) hfound
  have hkey := hkept.key
  simp only [UploadBatch.key, BatchKey.mk.injEq] at hkey
  exact ⟨batch', hfound', hkey.1, hkey.2.1⟩

theorem UploadsSound.kept (h : UploadsSound s)
    (hrows : ∀ session ∈ s'.sessions, RowSound session (s'.parts session.id))
    (hparts : ∀ id, s.session id = none → s'.parts id = s.parts id)
    (hsessions : Rewritten SameOwner s.sessions s'.sessions)
    (hbatches : Rewritten BatchKept s.batches s'.batches) : UploadsSound s' where
  sessionIds := (hsessions.map_eq fun _ _ hsame => hsame.1) ▸ h.sessionIds
  batchIds := batchesKept_ids hbatches ▸ h.batchIds
  rows := hrows
  absent := by
    intro id hnone
    have habsent : s.session id = none := by
      cases hfound : s.session id with
      | none => rfl
      | some row =>
        obtain ⟨new, hnew, -⟩ := hsessions.getRow_eq_some (fun _ _ hsame => hsame.1) hfound
        exact absurd (hnew.symm.trans hnone) (Option.some_ne_none new)
    rw [hparts id habsent]
    exact h.absent id habsent
  belongs := by
    intro new hnew batchId hof
    obtain ⟨row, hrow, -, hbatch, howner, hactor⟩ := hsessions.mem hnew
    obtain ⟨batch, hfound, hbatchOwner, hbatchActor⟩ :=
      h.belongs row hrow batchId (hbatch.symm.trans hof)
    obtain ⟨batch', hfound', howner', hactor'⟩ := belongs_kept hbatches hfound
    exact ⟨batch', hfound', howner'.trans (hbatchOwner.trans howner.symm),
      hactor'.trans (hbatchActor.trans hactor.symm)⟩
  counted := by
    intro new hnew
    obtain ⟨row, hrow, hkept⟩ := hbatches.mem hnew
    rw [Store.sessionsOf, sessionsOf_length hsessions fun _ _ hsame => hsame.2.1, hkept.id, hkept.expectedItems]
    exact h.counted row hrow
  shaped := by
    intro new hnew
    obtain ⟨row, hrow, hkept⟩ := hbatches.mem hnew
    rw [hkept.messageKind, hkept.expectedItems]
    exact h.shaped row hrow

theorem batchRefusal_none (h : batchRefusal s caller request = none)
    (hbatch : request.batchId = some batchId) : ∃ batch, s.batch batchId = some batch ∧
      batch.ownerUserId = caller.ownerUserId ∧ batch.actorUserId = caller.actorUserId ∧
      (s.sessionsOf batchId).length < batch.expectedItems := by
  simp only [batchRefusal, hbatch] at h
  cases hget : getUploadBatchForCurrentUser s caller batchId with
  | error error =>
    rw [hget] at h
    cases h
  | ok batch =>
    obtain ⟨hfound, howner, hactor⟩ := getUploadBatchForCurrentUser_ok hget
    rw [hget] at h
    dsimp only at h
    split_ifs at h with htarget hterminal hcount
    exact ⟨batch, hfound, howner, hactor, not_le.mp hcount⟩

theorem UploadsSound.sessionAdded (h : UploadsSound s)
    (hrefusal : batchRefusal s caller request = none) (habsent : s.session id = none)
    (hrows : ∀ session ∈ ({ s with
        sessions := s.sessions ++ [newUploadSession s caller request id resumeToken]
        }.touchBatch request.batchId startBatch).sessions, RowSound session (({ s with
        sessions := s.sessions ++ [newUploadSession s caller request id resumeToken]
        }.touchBatch request.batchId startBatch).parts session.id)) :
    UploadsSound ({ s with
      sessions := s.sessions ++ [newUploadSession s caller request id resumeToken]
      }.touchBatch request.batchId startBatch) := by
  have hbatches := batchesKept_touchBatch { s with
      sessions := s.sessions ++ [newUploadSession s caller request id resumeToken] }
    request.batchId startBatch_eq
  refine
    { sessionIds := ?_
      batchIds := batchesKept_ids hbatches ▸ h.batchIds
      rows := hrows
      absent := ?_
      belongs := ?_
      counted := ?_
      shaped := ?_ }
  · rw [touchBatch_sessions]
    exact nodup_map_append_singleton h.sessionIds fun session hsession =>
      getRow_eq_none.mp habsent session hsession
  · intro other hnone
    rw [touchBatch_parts]
    refine h.absent other (getRow_eq_none.mpr fun session hsession => ?_)
    rw [Store.session, touchBatch_sessions] at hnone
    exact getRow_eq_none.mp hnone session (List.mem_append_left _ hsession)
  · rw [touchBatch_sessions]
    intro session hsession batchId hof
    rcases List.mem_append.mp hsession with hsession | hsession
    · obtain ⟨batch, hfound, howner, hactor⟩ := h.belongs session hsession batchId hof
      obtain ⟨batch', hfound', howner', hactor'⟩ := belongs_kept hbatches hfound
      exact ⟨batch', hfound', howner'.trans howner, hactor'.trans hactor⟩
    · rw [List.mem_singleton.mp hsession] at hof ⊢
      obtain ⟨batch, hfound, howner, hactor, -⟩ := batchRefusal_none hrefusal hof
      obtain ⟨batch', hfound', howner', hactor'⟩ := belongs_kept hbatches hfound
      exact ⟨batch', hfound', howner'.trans howner, hactor'.trans hactor⟩
  · intro new hnew
    obtain ⟨row, hrow, hkept⟩ := hbatches.mem hnew
    rw [Store.sessionsOf, touchBatch_sessions, hkept.id, hkept.expectedItems, List.filter_append,
      List.length_append]
    by_cases hof : request.batchId = some row.id
    · obtain ⟨batch, hfound, -, -, hroom⟩ := batchRefusal_none hrefusal hof
      have heq : batch = row := List.inj_on_of_nodup_map h.batchIds (getRow_eq_some hfound).1 hrow
        (Store.batch_id hfound)
      have hone := List.length_filter_le (fun session => decide (session.batchId = some row.id))
        [newUploadSession s caller request id resumeToken]
      rw [List.length_singleton] at hone
      rw [heq, Store.sessionsOf] at hroom
      omega
    · rw [List.filter_cons_of_neg (by simp [newUploadSession, hof]), List.filter_nil,
        List.length_nil, Nat.add_zero]
      exact h.counted row hrow
  · intro new hnew
    obtain ⟨row, hrow, hkept⟩ := hbatches.mem hnew
    rw [hkept.messageKind, hkept.expectedItems]
    exact h.shaped row hrow

theorem UploadsSound.effect (h : UploadsSound s) (heffect : Effect media G s s') :
    UploadsSound s' := by
  have hrows := h.rows_effect heffect
  rcases heffect.rows_cases h.sessionIds h.batchIds with hkept |
    ⟨caller, request, id, hvalid, habsent, -, rfl⟩ |
    ⟨caller, request, id, resumeToken, hvalid, hrefusal, habsent, rfl⟩ |
    ⟨batch, senderId, hfound, hopen, -, hrefusal, rfl⟩
  · refine h.kept hrows (fun id => heffect.parts_absent) ?_ hkept.batches
    obtain ⟨write, hsessions, hwrite⟩ := hkept.sessions
    exact ⟨write, hsessions, fun row hrow => ⟨(hwrite row hrow).id, (hwrite row hrow).batchId,
      (hwrite row hrow).ownerUserId, (hwrite row hrow).actorUserId⟩⟩
  · have hfresh := getRow_eq_none.mp habsent
    have hnone : s.sessionsOf id = [] := by
      rw [Store.sessionsOf, List.filter_eq_nil_iff]
      intro session hsession hof
      obtain ⟨batch, hfound, -, -⟩ := h.belongs session hsession id (of_decide_eq_true hof)
      rw [habsent] at hfound
      cases hfound
    exact
      { sessionIds := h.sessionIds
        batchIds := nodup_map_append_singleton h.batchIds fun batch hbatch => hfresh batch hbatch
        rows := hrows
        absent := h.absent
        belongs := fun session hsession batchId hof => by
          obtain ⟨batch, hfound, hsame⟩ := h.belongs session hsession batchId hof
          exact ⟨batch, getRow_append_of_some hfound, hsame⟩
        counted := fun batch hbatch => by
          rcases List.mem_append.mp hbatch with hbatch | hbatch
          · exact h.counted batch hbatch
          · rw [List.mem_singleton.mp hbatch]
            show (s.sessionsOf id).length ≤ _
            rw [hnone]
            exact Nat.zero_le _
        shaped := fun batch hbatch hsingle => by
          rcases List.mem_append.mp hbatch with hbatch | hbatch
          · exact h.shaped batch hbatch hsingle
          · rw [List.mem_singleton.mp hbatch] at hsingle ⊢
            simp only [UploadBatchCreateRequest.valid, Bool.and_eq_true, Bool.or_eq_true,
              decide_eq_true_eq] at hvalid
            exact hvalid.2.resolve_left (not_not.mpr hsingle) }
  · exact h.sessionAdded hrefusal habsent hrows
  · refine h.kept hrows (fun id => heffect.parts_absent) ⟨commitSession _ _, rfl, fun row _ => ?_⟩
      (batchesKept_commitBatch h.batchIds hfound hopen senderId _)
    unfold commitSession
    split <;> exact ⟨rfl, rfl, rfl, rfl⟩

/-! ## Sessions that can still become ready -/

/-- The checks of `persist_chat_media_file_bytes`. -/
def Media.accepts (media : Media) (declared : String) (contents : Bytes) : Prop :=
  baseContentType declared ∈ allowedUploadTypes ∧
    media.realType declared contents ∈ allowedUploadTypes ∧
    contents.length ≤ chatMediaMaxUploadBytes

theorem Media.persist_ok_iff (media : Media) (uploaderId : Nat) (fileName declared : String)
    (contents : Bytes) (thumbnail : Option String) (fileId : Nat) :
    (∃ result, media.persistChatMediaFileBytes uploaderId fileName declared contents thumbnail
      fileId = .ok result) ↔ media.accepts declared contents := by
  unfold Media.persistChatMediaFileBytes Media.accepts
  split_ifs with hdeclared hreal hsize <;> simp_all

/-- The bytes that are missing can be chosen so that the file passes the checks. -/
def Completable (media : Media) (s : Store) (session : UploadSession) : Prop :=
  ∃ rest : Bytes, rest.length = session.totalBytes - session.receivedBytes ∧
    media.accepts session.mimeType (s.partBytes session.id ++ rest)

/-- The session is ready, or was not given up and can be completed. -/
def Promising (media : Media) (s : Store) (session : UploadSession) : Prop :=
  session.status.readyLike = true ∨ session.status.pending ∧ Completable media s session

def Operation.uploadCall : Operation → Bool
  | .createSession .. => true
  | .appendChunk _ _ _ _ _ _ stop => !stop
  | .finalize _ _ _ _ stop => stop.isNone
  | .cancelSession .. => true
  | _ => false

def uploadGuards : Guards := { chunk := fun _ _ stop => stop = false, commit := fun _ _ => False }

theorem grant_of_uploadCall {operation : Operation} (h : operation.uploadCall = true) :
    uploadGuards.grant s operation := by
  cases operation with
  | appendChunk _ _ _ _ _ _ stop =>
    have hstop : stop = false := by simpa [Operation.uploadCall] using h
    simp only [Guards.grant]
    split
    · trivial
    · exact fun _ => hstop
  | createBatch => cases h
  | commitBatch => cases h
  | _ => trivial

structure Blocked (media : Media) (batchId : Nat) (s : Store) : Prop where
  sound : UploadsSound s
  session : ∃ session ∈ s.sessions, session.batchId = some batchId ∧ ¬ Promising media s session
  batch : ∀ batch, s.batch batchId = some batch → batch.status ≠ .committed

theorem promising_congr (hparts : s'.parts session.id = s.parts session.id) :
    Promising media s' session ↔ Promising media s session := by
  unfold Promising Completable Store.partBytes
  rw [hparts]

theorem completable_of_received {isLastChunk : Bool}
    (hwithin : session.receivedBytes + chunk.length ≤ session.totalBytes)
    (hpart : s'.partBytes session.id = s.partBytes session.id ++ chunk)
    (h : Completable media s' (session.received s.now chunk isLastChunk)) :
    Completable media s session := by
  obtain ⟨rest, hlength, haccepts⟩ := h
  have hrest : rest.length = session.totalBytes - (session.receivedBytes + chunk.length) := hlength
  refine ⟨chunk ++ rest, ?_, ?_⟩
  · rw [List.length_append]
    omega
  · rw [← List.append_assoc, ← hpart]
    exact haccepts

theorem Blocked.session_put (h : Blocked media batchId s) (new : UploadSession)
    (hfound : s.session new.id = some old) (hbatch : new.batchId = old.batchId)
    (hsessions : s'.sessions = setRow UploadSession.id new.id (fun _ => new) s.sessions)
    (hparts : ∀ id ≠ new.id, s'.parts id = s.parts id)
    (hnew : ¬ Promising media s old → ¬ Promising media s' new) :
    ∃ session ∈ s'.sessions, session.batchId = some batchId ∧ ¬ Promising media s' session := by
  obtain ⟨session, hsession, hof, hnot⟩ := h.session
  obtain ⟨hold, hid⟩ := getRow_eq_some hfound
  by_cases hkey : session.id = new.id
  · have heq : session = old :=
      List.inj_on_of_nodup_map h.sound.sessionIds hsession hold (hkey.trans hid.symm)
    refine ⟨new, ?_, by rw [hbatch, ← heq, hof], hnew (heq ▸ hnot)⟩
    rw [hsessions]
    exact mem_setRow.mpr (.inr ⟨old, hold, hid, rfl⟩)
  · refine ⟨session, ?_, hof, fun hpromising => hnot ?_⟩
    · rw [hsessions]
      exact mem_setRow.mpr (.inl ⟨hsession, hkey⟩)
    · exact (promising_congr (hparts session.id hkey)).mp hpromising

theorem Blocked.session_effect (h : Blocked media batchId s)
    (heffect : Effect media uploadGuards s s') :
    ∃ session ∈ s'.sessions, session.batchId = some batchId ∧ ¬ Promising media s' session := by
  cases heffect with
  | passed duration => exact h.session
  | batchAdded => exact h.session
  | sessionAdded =>
    obtain ⟨session, hsession, hof, hnot⟩ := h.session
    refine ⟨session, ?_, hof, fun hpromising => hnot ?_⟩
    · rw [touchBatch_sessions]
      exact List.mem_append_left _ hsession
    · exact (promising_congr (by rw [touchBatch_parts])).mp hpromising
  | dropped session hfound _ status error hstatus =>
    obtain ⟨fileId, files, heq⟩ := dropSession_eq s (session.givenUp status error)
    have hgone : status = .cancelled ∨ status = .expired := hstatus.imp_right And.left
    rw [heq]
    refine h.session_put { session.givenUp status error with finalChatFileId := fileId } hfound rfl
      rfl (fun id hne => Function.update_of_ne hne _ _) fun _ => ?_
    rintro (hready | ⟨hpending, -⟩)
    · have hnot : ¬ status.readyLike = true := by rcases hgone with rfl | rfl <;> decide
      exact hnot hready
    · exact not_gone_of_pending hpending hgone
  | chunkWritten _ _ _ _ _ _ hG => cases hG
  | chunkCommitted session hfound _ _ chunk isLastChunk hrefusal =>
    obtain ⟨hmutable, -, -, hwithin⟩ := chunkRefusal_mutable hrefusal
    refine h.session_put (session.received s.now chunk isLastChunk) hfound rfl ?_ ?_ ?_
    · simp only [Store.commitChunk, touchBatch_sessions]
      rfl
    · intro id hne
      simp only [Store.commitChunk, touchBatch_parts]
      exact Function.update_of_ne hne _ _
    · rintro hnot (hready | ⟨-, hcompletable⟩)
      · simp only [UploadSession.received] at hready
        split_ifs at hready <;> cases hready
      · refine hnot (.inr ⟨.inl hmutable, completable_of_received hwithin ?_ hcompletable⟩)
        rw [← partBytes_writePart_self, Store.partBytes, Store.partBytes]
        simp only [Store.commitChunk, touchBatch_parts]
        rfl
  | marked session hfound hearly =>
    have hrow := h.sound.found hfound
    have hpending := pending_of_finalizeEarly hrow.gone hrow.file hearly
    refine h.session_put session.finalizing hfound rfl rfl (fun _ _ => rfl) ?_
    rintro hnot (hready | ⟨-, hcompletable⟩)
    · cases hready
    · exact hnot (.inr ⟨hpending, hcompletable⟩)
  | failed session hfound hstatus message =>
    refine h.session_put (session.failedWith message) hfound rfl rfl (fun _ _ => rfl) ?_
    rintro hnot (hready | ⟨-, hcompletable⟩)
    · cases hready
    · exact hnot (.inr ⟨.inr hstatus, hcompletable⟩)
  | madeReady session hfound hstatus hreceived _ _ result hstored =>
    refine h.session_put (session.readyWith s.now result) hfound rfl ?_ ?_ ?_
    · simp only [Store.commitReady, touchBatch_sessions]
      rfl
    · intro id _
      simp only [Store.commitReady, touchBatch_parts]
      rfl
    · intro hnot _
      refine hnot (.inr ⟨.inr hstatus, [], ?_, ?_⟩)
      · rw [hreceived, Nat.sub_self, List.length_nil]
      · rw [List.append_nil]
        exact (media.persist_ok_iff _ _ _ _ _ _).mp ⟨result, hstored⟩
  | partRemoved session hfound hstatus =>
    refine h.session_put _ hfound rfl (setRow_eq_self h.sound.sessionIds hfound).symm
      (fun id hne => Function.update_of_ne hne _ _) fun hnot => ?_
    exact absurd (.inl (by rw [hstatus]; rfl)) hnot
  | idsDrawn drawn => exact h.session
  | batchCommitted _ _ _ hG => exact hG.elim
  | batchCancelled batch hfound hopen => exact h.session

theorem touchBatch_committed {batchId : Option Nat} {write : UploadBatch → UploadBatch}
    (hwrite : ∀ row, (write row).id = row.id ∧
      ((write row).status = .committed → row.status = .committed)) :
    ∀ new ∈ (s.touchBatch batchId write).batches, new.status = .committed →
      ∃ row ∈ s.batches, row.id = new.id ∧ row.status = .committed := by
  intro new hnew hcommitted
  cases batchId with
  | none => exact ⟨new, hnew, rfl, hcommitted⟩
  | some id =>
    rcases mem_setRow.mp hnew with ⟨hrow, -⟩ | ⟨row, hrow, -, rfl⟩
    · exact ⟨new, hrow, rfl, hcommitted⟩
    · by_cases hterminal : row.status.terminal = true
      · rw [if_pos hterminal] at hcommitted ⊢
        exact ⟨row, hrow, rfl, hcommitted⟩
      · rw [if_neg hterminal] at hcommitted ⊢
        exact ⟨row, hrow, (hwrite row).1.symm, (hwrite row).2 hcommitted⟩

theorem batchProgress_ne (sessions : List UploadSession) (ready : UploadSession)
    (batch : UploadBatch) : batchProgress sessions ready batch ≠ .committed := by
  unfold batchProgress
  dsimp only
  split_ifs <;> decide

theorem startBatch_committed (row : UploadBatch) (h : (startBatch row).status = .committed) :
    row.status = .committed := by
  unfold startBatch at h
  split_ifs at h with hcollecting
  exact h

theorem Effect.committed_before (heffect : Effect media uploadGuards s s') :
    ∀ new ∈ s'.batches, new.status = .committed →
      ∃ row ∈ s.batches, row.id = new.id ∧ row.status = .committed := by
  cases heffect with
  | batchAdded =>
    intro new hnew hcommitted
    rcases List.mem_append.mp hnew with hnew | hnew
    · exact ⟨new, hnew, rfl, hcommitted⟩
    · rw [List.mem_singleton.mp hnew] at hcommitted
      cases hcommitted
  | sessionAdded =>
    exact touchBatch_committed fun row => ⟨(startBatch_eq row).1, startBatch_committed row⟩
  | dropped session _ _ status error =>
    obtain ⟨fileId, files, heq⟩ := dropSession_eq s (session.givenUp status error)
    rw [heq]
    exact fun new hnew hcommitted => ⟨new, hnew, rfl, hcommitted⟩
  | chunkCommitted =>
    exact touchBatch_committed fun row => ⟨rfl, fun hcommitted => by cases hcommitted⟩
  | madeReady =>
    exact touchBatch_committed fun row =>
      ⟨rfl, fun hcommitted => absurd hcommitted (batchProgress_ne _ _ _)⟩
  | batchCommitted _ _ _ hG => exact hG.elim
  | batchCancelled batch hfound hopen =>
    intro new hnew hcommitted
    rcases mem_setRow.mp hnew with ⟨hrow, -⟩ | ⟨row, hrow, -, rfl⟩
    · exact ⟨new, hrow, rfl, hcommitted⟩
    · cases hcommitted
  | _ => exact fun new hnew hcommitted => ⟨new, hnew, rfl, hcommitted⟩

theorem Blocked.effect (h : Blocked media batchId s)
    (heffect : Effect media uploadGuards s s') : Blocked media batchId s' where
  sound := h.sound.effect heffect
  session := h.session_effect heffect
  batch := by
    intro new hfound hcommitted
    obtain ⟨hmem, hid⟩ := getRow_eq_some hfound
    obtain ⟨row, hrow, hsame, hstatus⟩ := heffect.committed_before new hmem hcommitted
    have hrowFound : s.batch batchId = some row := by
      have hget := getRow_of_mem h.sound.batchIds hrow
      rw [hsame, hid] at hget
      exact hget
    exact h.batch row hrowFound hstatus

theorem Blocked.commit_refused (h : Blocked media batchId s) (caller : Caller)
    (accessible : Bool) (failAfter : Option Nat) (messages : List Message) :
    (commitCall s caller batchId accessible failAfter).1 ≠ .returned messages := by
  intro hreturned
  unfold commitCall onBatch at hreturned
  cases hget : getUploadBatchForCurrentUser s caller batchId with
  | error error =>
    rw [hget] at hreturned
    cases hreturned
  | ok batch =>
    rw [hget] at hreturned
    have hfound := (getUploadBatchForCurrentUser_ok hget).1
    obtain ⟨hmem, hid⟩ := getRow_eq_some hfound
    dsimp only at hreturned
    unfold commitUploadBatch at hreturned
    rw [if_neg (h.batch batch hfound)] at hreturned
    split at hreturned
    · cases hreturned
    split at hreturned
    · cases hreturned
    dsimp only at hreturned
    split at hreturned
    · cases hreturned
    next hrefusal =>
    obtain ⟨session, hsession, hof, hnot⟩ := h.session
    have hlisted : session ∈ listUploadBatchSessions s batch.id :=
      mem_listUploadBatchSessions.mpr ⟨hsession, hid.symm ▸ hof⟩
    have hready := readyLike_of_commitRefusal hrefusal
    by_cases hcancelled : session.status = .cancelled
    · -- fewer sessions are active than were created, and no more than expected were created
      have hfew : ((listUploadBatchSessions s batch.id).filter fun session =>
          session.status ≠ .cancelled).length < (listUploadBatchSessions s batch.id).length :=
        List.length_filter_lt_length_iff_exists.mpr ⟨session, hlisted, by simpa using hcancelled⟩
      have hcount := h.sound.counted batch hmem
      have hlength : (listUploadBatchSessions s batch.id).length = (s.sessionsOf batch.id).length :=
        List.length_insertionSort _ _
      unfold commitRefusal at hrefusal
      split_ifs at hrefusal with hmissing
      omega
    · exact hnot (.inl (hready session (List.mem_filter.mpr ⟨hlisted, by simpa using hcancelled⟩)))

theorem Blocked.run :
    ∀ (operations : List Operation) (s : Store), Blocked media batchId s →
      (∀ operation ∈ operations, operation.uploadCall = true) →
      Blocked media batchId (Misc.run (step media) s operations) := by
  intro operations
  induction operations with
  | nil => intro s h _; exact h
  | cons operation operations ih =>
    intro s h hcalls
    have hgrant := grant_of_uploadCall (s := s) (hcalls operation List.mem_cons_self)
    refine ih _ ?_ fun other hother => hcalls other (List.mem_cons_of_mem _ hother)
    exact (step_effects h.sound.sessionIds operation hgrant).invariant
      (fun _ _ hs heffect => hs.effect heffect) h

end Sound

end TradingBot.Uploads
