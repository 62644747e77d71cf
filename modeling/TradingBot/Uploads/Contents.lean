import TradingBot.Uploads.Effects

/-!
# The contents that become ready

A finalize call reads the part file of its session: the acknowledged chunks, in the order of their
offsets, and behind them what appends wrote that stopped before their commit. While no append writes
behind such bytes, the part file of a complete session has the acknowledged chunks and nothing else.
-/

namespace TradingBot.Uploads

open TradingBot.Misc

def Store.acknowledgedOf (s : Store) (id : Nat) : List Acknowledged :=
  s.acknowledged.filter fun acknowledged => acknowledged.session = id

def uploadedBytes (chunks : List Acknowledged) : Bytes := chunks.flatMap Acknowledged.chunk

def Store.uploaded (s : Store) (id : Nat) : Bytes := uploadedBytes (s.acknowledgedOf id)

def InOffsetOrder (chunks : List Acknowledged) : Prop :=
  ∀ before chunk after, chunks = before ++ chunk :: after →
    chunk.offset = (uploadedBytes before).length

def UploadSessionStatus.pending (status : UploadSessionStatus) : Prop :=
  status.mutable = true ∨ status = .finalizing

instance (status : UploadSessionStatus) : Decidable status.pending :=
  inferInstanceAs (Decidable (_ ∨ _))

theorem not_pending_ready : ¬ UploadSessionStatus.ready.pending := by decide

theorem not_pending_committed : ¬ UploadSessionStatus.committed.pending := by decide

structure SessionSound (s : Store) (session : UploadSession) : Prop where
  offset : session.nextOffset = session.receivedBytes
  received : session.receivedBytes = (s.uploaded session.id).length
  within : session.receivedBytes ≤ session.totalBytes
  part : session.status.pending → s.uploaded session.id <+: s.partBytes session.id
  complete : session.status.pending → session.receivedBytes = session.totalBytes →
    s.partBytes session.id = s.uploaded session.id
  gone : session.status = .cancelled ∨ session.status = .expired → s.parts session.id = none
  ordered : InOffsetOrder (s.acknowledgedOf session.id)
  ready : session.status.readyLike = true → ∃ readied ∈ s.readied,
    readied.session = session.id ∧ session.finalChatFileId = some readied.file.id

structure ReadiedSound (media : Media) (s : Store) (readied : Readied) : Prop where
  session : ∃ session ∈ s.sessions, session.id = readied.session ∧ ¬ session.status.pending ∧
    readied.content = s.uploaded session.id ∧ readied.content.length = session.totalBytes
  stored : ∃ uploaderId fileName declared thumbnail fileId result,
    media.persistChatMediaFileBytes uploaderId fileName declared readied.content thumbnail fileId =
      .ok result ∧ result.chatFile = readied.file

structure ContentsSound (media : Media) (s : Store) : Prop where
  ids : (s.sessions.map UploadSession.id).Nodup
  sessions : ∀ session ∈ s.sessions, SessionSound s session
  readied : ∀ readied ∈ s.readied, ReadiedSound media s readied
  acknowledged : ∀ chunk ∈ s.acknowledged, ∃ session ∈ s.sessions, session.id = chunk.session

/-! ## Chunks -/

theorem uploadedBytes_append (chunks more : List Acknowledged) :
    uploadedBytes (chunks ++ more) = uploadedBytes chunks ++ uploadedBytes more :=
  List.flatMap_append

theorem inOffsetOrder_nil : InOffsetOrder [] := by
  intro before chunk after h
  simp at h

theorem InOffsetOrder.append {chunks : List Acknowledged} (h : InOffsetOrder chunks)
    {last : Acknowledged} (hlast : last.offset = (uploadedBytes chunks).length) :
    InOffsetOrder (chunks ++ [last]) := by
  intro before chunk after heq
  rcases List.eq_nil_or_concat after with rfl | ⟨init, final, rfl⟩
  · obtain ⟨hbefore, hchunk⟩ := List.append_inj' heq rfl
    cases hchunk
    rw [← hbefore]
    exact hlast
  · rw [List.concat_eq_append, ← List.cons_append, ← List.append_assoc] at heq
    exact h before chunk init (List.append_inj' heq rfl).1

section Invariant

variable {media : Media} {s s' : Store} {session : UploadSession} {id : Nat} {chunk : Bytes}
  {resumeToken : String}

theorem acknowledgedOf_append_self (id offset : Nat) (chunk : Bytes)
    (h : s'.acknowledged = s.acknowledged ++ [⟨id, offset, chunk⟩]) :
    s'.acknowledgedOf id = s.acknowledgedOf id ++ [⟨id, offset, chunk⟩] := by
  simp [Store.acknowledgedOf, h]

theorem acknowledgedOf_append_of_ne {other offset : Nat} (hne : other ≠ id)
    (h : s'.acknowledged = s.acknowledged ++ [⟨id, offset, chunk⟩]) :
    s'.acknowledgedOf other = s.acknowledgedOf other := by
  simp [Store.acknowledgedOf, h, hne.symm]

theorem uploaded_congr (h : s'.acknowledgedOf id = s.acknowledgedOf id) :
    s'.uploaded id = s.uploaded id := by rw [Store.uploaded, h, Store.uploaded]

theorem SessionSound.of_eq (h : SessionSound s session)
    (hacknowledged : s'.acknowledgedOf session.id = s.acknowledgedOf session.id)
    (hparts : s'.parts session.id = s.parts session.id)
    (hreadied : ∀ readied ∈ s.readied, readied ∈ s'.readied) : SessionSound s' session := by
  have huploaded := uploaded_congr hacknowledged
  have hpart : s'.partBytes session.id = s.partBytes session.id := by
    rw [Store.partBytes, hparts, Store.partBytes]
  exact
    { offset := h.offset
      received := huploaded ▸ h.received
      within := h.within
      part := by rw [huploaded, hpart]; exact h.part
      complete := by rw [huploaded, hpart]; exact h.complete
      gone := by rw [hparts]; exact h.gone
      ordered := hacknowledged ▸ h.ordered
      ready := fun hready => by
        obtain ⟨readied, hmem, hof⟩ := h.ready hready
        exact ⟨readied, hreadied readied hmem, hof⟩ }

structure SameProgress (old new : UploadSession) : Prop where
  id : new.id = old.id
  nextOffset : new.nextOffset = old.nextOffset
  receivedBytes : new.receivedBytes = old.receivedBytes
  totalBytes : new.totalBytes = old.totalBytes

theorem SessionSound.rewrite {old new : UploadSession} (h : SessionSound s old)
    (hsame : SameProgress old new)
    (hacknowledged : s'.acknowledgedOf old.id = s.acknowledgedOf old.id)
    (hpending : new.status.pending → old.status.pending ∧ s'.parts old.id = s.parts old.id)
    (hgone : new.status = .cancelled ∨ new.status = .expired → s'.parts old.id = none)
    (hready : new.status.readyLike = true → ∃ readied ∈ s'.readied,
      readied.session = new.id ∧ new.finalChatFileId = some readied.file.id) :
    SessionSound s' new := by
  have huploaded : s'.uploaded new.id = s.uploaded old.id := by
    rw [Store.uploaded, hsame.id, hacknowledged, Store.uploaded]
  have hpart : s'.parts old.id = s.parts old.id → s'.partBytes new.id = s.partBytes old.id := by
    intro hparts
    rw [Store.partBytes, hsame.id, hparts, Store.partBytes]
  exact
    { offset := by rw [hsame.nextOffset, hsame.receivedBytes, h.offset]
      received := by rw [huploaded, hsame.receivedBytes, h.received]
      within := by rw [hsame.receivedBytes, hsame.totalBytes]; exact h.within
      part := fun hnew => by
        rw [huploaded, hpart (hpending hnew).2]
        exact h.part (hpending hnew).1
      complete := fun hnew hreceived => by
        rw [hsame.receivedBytes, hsame.totalBytes] at hreceived
        rw [huploaded, hpart (hpending hnew).2]
        exact h.complete (hpending hnew).1 hreceived
      gone := fun hstatus => by rw [hsame.id]; exact hgone hstatus
      ordered := by rw [hsame.id, hacknowledged]; exact h.ordered
      ready := hready }

theorem ReadiedSound.kept {readied : Readied} (h : ReadiedSound media s readied)
    (hrows : ∀ old ∈ s.sessions, ¬ old.status.pending → ∃ new ∈ s'.sessions,
      new.id = old.id ∧ new.totalBytes = old.totalBytes ∧ ¬ new.status.pending ∧
      s'.uploaded old.id = s.uploaded old.id) : ReadiedSound media s' readied := by
  obtain ⟨old, hold, hid, hpending, hcontent, hlength⟩ := h.session
  obtain ⟨new, hnew, hnewid, htotal, hnewpending, huploaded⟩ := hrows old hold hpending
  exact ⟨⟨new, hnew, hnewid.trans hid, hnewpending, by rw [hcontent, hnewid, huploaded],
    by rw [hlength, htotal]⟩, h.stored⟩

theorem ContentsSound.of_eq (h : ContentsSound media s) (hsessions : s'.sessions = s.sessions)
    (hparts : s'.parts = s.parts) (hacknowledged : s'.acknowledged = s.acknowledged)
    (hreadied : s'.readied = s.readied) : ContentsSound media s' := by
  have hof : ∀ id, s'.acknowledgedOf id = s.acknowledgedOf id := fun id => by
    rw [Store.acknowledgedOf, hacknowledged, Store.acknowledgedOf]
  exact
    { ids := hsessions ▸ h.ids
      sessions := fun session hsession => (h.sessions session (hsessions ▸ hsession)).of_eq
        (hof _) (by rw [hparts]) (fun readied hmem => hreadied ▸ hmem)
      readied := fun readied hmem => (h.readied readied (hreadied ▸ hmem)).kept
        fun old hold hpending =>
          ⟨old, hsessions ▸ hold, rfl, rfl, hpending, uploaded_congr (hof _)⟩
      acknowledged := by rw [hacknowledged, hsessions]; exact h.acknowledged }

theorem ContentsSound.put (h : ContentsSound media s) {old : UploadSession} (new : UploadSession)
    (hfound : s.session new.id = some old) (htotal : new.totalBytes = old.totalBytes)
    (hsessions : s'.sessions = setRow UploadSession.id new.id (fun _ => new) s.sessions)
    (hothers : ∀ id ≠ new.id, s'.acknowledgedOf id = s.acknowledgedOf id ∧
      s'.parts id = s.parts id) (hnew : SessionSound s' new)
    (hover : ¬ old.status.pending → ¬ new.status.pending ∧
      s'.acknowledgedOf new.id = s.acknowledgedOf new.id)
    (hreadied : ∀ readied ∈ s.readied, readied ∈ s'.readied)
    (hmore : ∀ readied ∈ s'.readied, readied ∈ s.readied ∨ ReadiedSound media s' readied)
    (hacknowledged : ∀ chunk ∈ s'.acknowledged, chunk ∈ s.acknowledged ∨ chunk.session = new.id) :
    ContentsSound media s' := by
  obtain ⟨hold, hid⟩ := getRow_eq_some hfound
  have hmem : ∀ row, row ∈ s'.sessions ↔ row ∈ s.sessions ∧ row.id ≠ new.id ∨ row = new :=
    fun row => by rw [hsessions]; exact mem_setRow_of_getRow h.ids hfound
  refine
    { ids := ?_
      sessions := ?_
      readied := ?_
      acknowledged := ?_ }
  · rw [hsessions, map_id_setRow fun _ _ => rfl]
    exact h.ids
  · intro row hrow
    rcases (hmem row).mp hrow with ⟨hrow, hne⟩ | rfl
    · exact (h.sessions row hrow).of_eq (hothers _ hne).1 (hothers _ hne).2 hreadied
    · exact hnew
  · intro readied hready
    rcases hmore readied hready with hready | hready
    · refine (h.readied readied hready).kept fun row hrow hpending => ?_
      by_cases hkey : row.id = new.id
      · have hrowold : row = old := List.inj_on_of_nodup_map h.ids hrow hold (hkey.trans hid.symm)
        obtain ⟨hnewover, hof⟩ := hover (hrowold ▸ hpending)
        exact ⟨new, (hmem new).mpr (.inr rfl), hkey.symm, hrowold ▸ htotal, hnewover,
          uploaded_congr (hkey ▸ hof)⟩
      · exact ⟨row, (hmem row).mpr (.inl ⟨hrow, hkey⟩), rfl, rfl, hpending,
          uploaded_congr (hothers _ hkey).1⟩
    · exact hready
  · intro chunk hchunk
    rcases hacknowledged chunk hchunk with hchunk | hchunk
    · obtain ⟨row, hrow, hof⟩ := h.acknowledged chunk hchunk
      by_cases hkey : row.id = new.id
      · exact ⟨new, (hmem new).mpr (.inr rfl), hkey.symm.trans hof⟩
      · exact ⟨row, (hmem row).mpr (.inl ⟨hrow, hkey⟩), hof⟩
    · exact ⟨new, (hmem new).mpr (.inr rfl), hchunk.symm⟩

/-! ## Effects -/

def PartAligned (s : Store) (session : UploadSession) : Prop :=
  (s.partBytes session.id).length = session.nextOffset

@[simp] theorem touchBatch_acknowledged (s : Store) (batchId : Option Nat)
    (write : UploadBatch → UploadBatch) :
    (s.touchBatch batchId write).acknowledged = s.acknowledged := by cases batchId <;> rfl

@[simp] theorem touchBatch_parts (s : Store) (batchId : Option Nat)
    (write : UploadBatch → UploadBatch) : (s.touchBatch batchId write).parts = s.parts := by
  cases batchId <;> rfl

@[simp] theorem touchBatch_readied (s : Store) (batchId : Option Nat)
    (write : UploadBatch → UploadBatch) : (s.touchBatch batchId write).readied = s.readied := by
  cases batchId <;> rfl

theorem acknowledgedOf_congr (h : s'.acknowledged = s.acknowledged) (id : Nat) :
    s'.acknowledgedOf id = s.acknowledgedOf id := by
  rw [Store.acknowledgedOf, h, Store.acknowledgedOf]

theorem parts_writePart_self (s : Store) (id : Nat) (chunk : Bytes) :
    (s.writePart id chunk).parts id = some (s.partBytes id ++ chunk) := Function.update_self _ _ _

theorem partBytes_writePart_self (s : Store) (id : Nat) (chunk : Bytes) :
    (s.writePart id chunk).partBytes id = s.partBytes id ++ chunk := by
  rw [Store.partBytes, parts_writePart_self, Option.getD_some]

theorem SessionSound.part_eq (h : SessionSound s session) (hmutable : session.status.mutable = true)
    (haligned : PartAligned s session) : s.partBytes session.id = s.uploaded session.id := by
  have hpart := h.part (.inl hmutable)
  have hlength : (s.uploaded session.id).length = (s.partBytes session.id).length := by
    rw [haligned, h.offset, h.received]
  exact (hpart.eq_of_length hlength).symm

theorem ContentsSound.found (h : ContentsSound media s)
    (hfound : s.session session.id = some session) : SessionSound s session :=
  h.sessions session (getRow_eq_some hfound).1

theorem ContentsSound.chunkWritten (h : ContentsSound media s)
    (hfound : s.session session.id = some session) {offset : Int}
    (hrefusal : chunkRefusal session resumeToken offset chunk = none)
    (haligned : PartAligned s session) : ContentsSound media (s.writePart session.id chunk) := by
  obtain ⟨hmutable, -, hempty, hwithin⟩ := chunkRefusal_mutable hrefusal
  have hsession := h.found hfound
  have hpart := hsession.part_eq hmutable haligned
  refine h.put session hfound rfl (setRow_eq_self h.ids hfound).symm ?_ ?_ (fun hover => ⟨hover, rfl⟩)
    (fun _ hmem => hmem) (fun _ hmem => .inl hmem) (fun _ hmem => .inl hmem)
  · exact fun id hne => ⟨rfl, Function.update_of_ne hne _ _⟩
  · exact
      { offset := hsession.offset
        received := hsession.received
        within := hsession.within
        part := fun _ => by
          rw [partBytes_writePart_self, hpart]
          exact List.prefix_append _ _
        complete := fun _ hreceived => by
          have hnil : chunk = [] := List.eq_nil_of_length_eq_zero (by omega)
          rw [partBytes_writePart_self, hpart, hnil, List.append_nil]
          rfl
        gone := fun hstatus => by
          rcases hstatus with hstatus | hstatus <;> rw [hstatus] at hmutable <;> cases hmutable
        ordered := hsession.ordered
        ready := hsession.ready }

theorem ContentsSound.chunkCommitted (h : ContentsSound media s)
    (hfound : s.session session.id = some session) {offset : Int}
    {isLastChunk : Bool} (hrefusal : chunkRefusal session resumeToken offset chunk = none)
    (haligned : PartAligned s session) :
    ContentsSound media ((s.writePart session.id chunk).commitChunk session chunk isLastChunk) := by
  obtain ⟨hmutable, -, hempty, hwithin⟩ := chunkRefusal_mutable hrefusal
  have hsession := h.found hfound
  have hpart := hsession.part_eq hmutable haligned
  generalize hs' : (s.writePart session.id chunk).commitChunk session chunk isLastChunk = s'
  have hacknowledged : s'.acknowledged =
      s.acknowledged ++ [⟨session.id, session.nextOffset, chunk⟩] := by
    rw [← hs']
    simp only [Store.commitChunk, touchBatch_acknowledged]
    rfl
  have hparts : s'.parts = (s.writePart session.id chunk).parts := by
    rw [← hs']
    simp only [Store.commitChunk, touchBatch_parts]
    rfl
  have hreadied : s'.readied = s.readied := by
    rw [← hs']
    simp only [Store.commitChunk, touchBatch_readied]
    rfl
  have hof := acknowledgedOf_append_self _ _ _ hacknowledged
  have huploaded : s'.uploaded session.id = s.uploaded session.id ++ chunk := by
    rw [Store.uploaded, hof, uploadedBytes_append, Store.uploaded, uploadedBytes, uploadedBytes,
      List.flatMap_singleton]
  have hpart' : s'.partBytes session.id = s'.uploaded session.id := by
    rw [Store.partBytes, hparts, ← Store.partBytes, partBytes_writePart_self, hpart, huploaded]
  have hsessions : s'.sessions = setRow UploadSession.id session.id
      (fun _ => session.received s.now chunk isLastChunk) s.sessions := by
    rw [← hs']
    simp only [Store.commitChunk, touchBatch_sessions]
    rfl
  refine h.put (session.received s.now chunk isLastChunk) hfound rfl hsessions ?_ ?_ ?_
    (fun readied hmem => hreadied ▸ hmem) (fun readied hmem => .inl (hreadied ▸ hmem)) ?_
  · exact fun id hne => ⟨acknowledgedOf_append_of_ne hne hacknowledged, by
      rw [hparts]
      exact Function.update_of_ne hne _ _⟩
  · exact
      { offset := rfl
        received := by
          show session.receivedBytes + chunk.length = (s'.uploaded session.id).length
          rw [huploaded, List.length_append, hsession.received]
        within := hwithin
        part := fun _ => by
          show s'.uploaded session.id <+: s'.partBytes session.id
          exact ⟨[], by rw [List.append_nil, hpart']⟩
        complete := fun _ _ => hpart'
        gone := fun hstatus => by
          simp only [UploadSession.received] at hstatus
          split_ifs at hstatus <;> rcases hstatus with hstatus | hstatus <;> cases hstatus
        ordered := by
          show InOffsetOrder (s'.acknowledgedOf session.id)
          rw [hof]
          exact hsession.ordered.append (hsession.offset.trans hsession.received)
        ready := fun hready => by
          simp only [UploadSession.received] at hready
          split_ifs at hready <;> cases hready }
  · exact fun hover => absurd (.inl hmutable) hover
  · intro acknowledged hmem
    rw [hacknowledged] at hmem
    rcases List.mem_append.mp hmem with hmem | hmem
    · exact .inl hmem
    · exact .inr (by rw [List.mem_singleton.mp hmem]; rfl)

theorem ContentsSound.dropped (h : ContentsSound media s)
    (hfound : s.session session.id = some session) {status : UploadSessionStatus}
    {error : Option String} (hstatus : status = .cancelled ∨ status = .expired) :
    ContentsSound media (s.dropSession (session.givenUp status error)).2 := by
  obtain ⟨fileId, files, heq⟩ := dropSession_eq s (session.givenUp status error)
  have hpending : ¬ status.pending := by rcases hstatus with rfl | rfl <;> decide
  have hready : ¬ status.readyLike = true := by rcases hstatus with rfl | rfl <;> decide
  rw [heq]
  refine h.put { session.givenUp status error with finalChatFileId := fileId } hfound rfl rfl ?_ ?_
    (fun _ => ⟨hpending, rfl⟩) (fun _ hmem => hmem) (fun _ hmem => .inl hmem)
    (fun _ hmem => .inl hmem)
  · exact fun id hne => ⟨rfl, Function.update_of_ne hne _ _⟩
  · exact (h.found hfound).rewrite ⟨rfl, rfl, rfl, rfl⟩ rfl (fun hnew => absurd hnew hpending)
      (fun _ => Function.update_self _ _ _) (fun hnew => absurd hnew hready)

theorem pending_of_finalizeEarly
    (hgone : session.status = .cancelled ∨ session.status = .expired → s.parts session.id = none)
    (hfile : session.status.readyLike = true → session.finalChatFileId.isSome = true)
    (hearly : finalizeEarly s session = none) : session.status.pending := by
  obtain ⟨hcommitted, -, hpart, hready⟩ := finalizeEarly_none hearly
  have hnot : ¬ (session.status = .cancelled ∨ session.status = .expired) := by
    intro hstatus
    rw [hgone hstatus] at hpart
    cases hpart
  cases hstatus : session.status with
  | created => exact .inl rfl
  | uploading => exact .inl rfl
  | uploaded => exact .inl rfl
  | finalizing => exact .inr rfl
  | failed => exact .inl rfl
  | ready => exact absurd ⟨hstatus, hfile (by rw [hstatus]; rfl)⟩ hready
  | committed => exact absurd hstatus hcommitted
  | cancelled => exact absurd (.inl hstatus) hnot
  | expired => exact absurd (.inr hstatus) hnot

theorem SessionSound.pending_of_early (h : SessionSound s session)
    (hearly : finalizeEarly s session = none) : session.status.pending := by
  refine pending_of_finalizeEarly h.gone (fun hready => ?_) hearly
  obtain ⟨readied, -, -, hfile⟩ := h.ready hready
  rw [hfile]
  rfl

theorem ContentsSound.pending (h : ContentsSound media s)
    (hfound : s.session session.id = some session) (hpending : session.status.pending)
    (new : UploadSession) (hsame : SameProgress session new) (hnew : new.status.pending) :
    ContentsSound media (s.putSession new) := by
  have hreadyLike : ¬ new.status.readyLike = true := by
    rcases hnew with hmutable | hfinalizing
    · revert hmutable
      cases new.status <;> decide
    · rw [hfinalizing]
      decide
  have hgone : ¬ (new.status = .cancelled ∨ new.status = .expired) := by
    rintro (hstatus | hstatus) <;> rw [hstatus] at hnew <;> revert hnew <;> decide
  refine h.put new (hsame.id ▸ hfound) hsame.totalBytes rfl (fun _ _ => ⟨rfl, rfl⟩) ?_
    (fun hover => absurd hpending hover) (fun _ hmem => hmem) (fun _ hmem => .inl hmem)
    (fun _ hmem => .inl hmem)
  exact (h.found hfound).rewrite hsame rfl (fun _ => ⟨hpending, rfl⟩)
    (fun hstatus => absurd hstatus hgone) (fun hready => absurd hready hreadyLike)

theorem ContentsSound.madeReady (h : ContentsSound media s)
    (hfound : s.session session.id = some session) (hstatus : session.status = .finalizing)
    (hreceived : session.receivedBytes = session.totalBytes) {uploaderId fileId : Nat}
    {result : UploadFilePersistenceResult}
    (hstored : media.persistChatMediaFileBytes uploaderId session.originalFileName session.mimeType
      (s.partBytes session.id) session.previewMetadata.thumbnail fileId = .ok result) :
    ContentsSound media (s.commitReady session (s.partBytes session.id) result) := by
  have hsession := h.found hfound
  have hpart := hsession.complete (.inr hstatus) hreceived
  generalize hs' : s.commitReady session (s.partBytes session.id) result = s'
  have hacknowledged : s'.acknowledged = s.acknowledged := by
    rw [← hs']
    simp only [Store.commitReady, touchBatch_acknowledged]
    rfl
  have hparts : s'.parts = s.parts := by
    rw [← hs']
    simp only [Store.commitReady, touchBatch_parts]
    rfl
  have hreadied : s'.readied =
      s.readied ++ [⟨session.id, s.partBytes session.id, result.chatFile⟩] := by
    rw [← hs']
    simp only [Store.commitReady, touchBatch_readied]
    rfl
  have hsessions : s'.sessions = setRow UploadSession.id session.id
      (fun _ => session.readyWith s.now result) s.sessions := by
    rw [← hs']
    simp only [Store.commitReady, touchBatch_sessions]
    rfl
  have hof := acknowledgedOf_congr hacknowledged
  have hlast : (⟨session.id, s.partBytes session.id, result.chatFile⟩ : Readied) ∈ s'.readied := by
    rw [hreadied]
    exact List.mem_append_right _ (List.mem_singleton_self _)
  refine h.put (session.readyWith s.now result) hfound rfl hsessions
    (fun id _ => ⟨hof id, by rw [hparts]⟩) ?_ (fun hover => absurd (.inr hstatus) hover) ?_ ?_ ?_
  · exact hsession.rewrite ⟨rfl, rfl, rfl, rfl⟩ (hof _) (fun hnew => absurd hnew not_pending_ready)
      (fun hgone => by rcases hgone with hgone | hgone <;> cases hgone)
      (fun _ => ⟨_, hlast, rfl, rfl⟩)
  · intro readied hmem
    rw [hreadied]
    exact List.mem_append_left _ hmem
  · intro readied hmem
    rw [hreadied] at hmem
    rcases List.mem_append.mp hmem with hmem | hmem
    · exact .inl hmem
    · refine .inr ?_
      rw [List.mem_singleton.mp hmem]
      refine ⟨⟨session.readyWith s.now result, ?_, rfl, not_pending_ready, ?_, ?_⟩,
        ⟨_, _, _, _, _, _, hstored, rfl⟩⟩
      · rw [hsessions]
        exact (mem_setRow_of_getRow h.ids hfound).mpr (.inr rfl)
      · show s.partBytes session.id = s'.uploaded session.id
        rw [hpart, uploaded_congr (hof session.id)]
      · show (s.partBytes session.id).length = session.totalBytes
        rw [hpart, ← hsession.received, hreceived]
  · intro chunk hmem
    exact .inl (hacknowledged ▸ hmem)

theorem ContentsSound.partRemoved (h : ContentsSound media s)
    (hfound : s.session session.id = some session) (hstatus : session.status = .ready) :
    ContentsSound media (s.removePart session.id) := by
  have hpending : ¬ session.status.pending := by rw [hstatus]; decide
  refine h.put session hfound rfl (setRow_eq_self h.ids hfound).symm ?_ ?_
    (fun hover => ⟨hover, rfl⟩) (fun _ hmem => hmem) (fun _ hmem => .inl hmem)
    (fun _ hmem => .inl hmem)
  · exact fun id hne => ⟨rfl, Function.update_of_ne hne _ _⟩
  · exact (h.found hfound).rewrite ⟨rfl, rfl, rfl, rfl⟩ rfl (fun hnew => absurd hnew hpending)
      (fun _ => Function.update_self _ _ _) (h.found hfound).ready

theorem ContentsSound.sessionAdded (h : ContentsSound media s) {caller : Caller}
    {request : UploadSessionCreateRequest}
    (hvalid : request.valid = true) (habsent : s.session id = none)
    (hsessions : s'.sessions = s.sessions ++ [newUploadSession s caller request id resumeToken])
    (hparts : s'.parts = s.parts) (hacknowledged : s'.acknowledged = s.acknowledged)
    (hreadied : s'.readied = s.readied) : ContentsSound media s' := by
  have hof := acknowledgedOf_congr hacknowledged
  have hfresh := getRow_eq_none.mp habsent
  have hnone : s'.acknowledgedOf id = [] := by
    rw [hof, Store.acknowledgedOf, List.filter_eq_nil_iff]
    intro chunk hchunk hid
    obtain ⟨session, hsession, hsame⟩ := h.acknowledged chunk hchunk
    exact hfresh session hsession (hsame.trans (of_decide_eq_true hid))
  have htotal : 0 < request.totalBytes.toNat := by
    simp only [UploadSessionCreateRequest.valid, Bool.and_eq_true, decide_eq_true_eq] at hvalid
    omega
  refine
    { ids := ?_
      sessions := ?_
      readied := ?_
      acknowledged := ?_ }
  · rw [hsessions]
    exact nodup_map_append_singleton h.ids fun session hsession => hfresh session hsession
  · intro session hsession
    rw [hsessions] at hsession
    rcases List.mem_append.mp hsession with hsession | hsession
    · exact (h.sessions session hsession).of_eq (hof _) (by rw [hparts])
        (fun readied hmem => hreadied ▸ hmem)
    · rw [List.mem_singleton.mp hsession]
      exact
        { offset := rfl
          received := by
            show 0 = (uploadedBytes (s'.acknowledgedOf id)).length
            rw [hnone]
            rfl
          within := Nat.zero_le _
          part := fun _ => by
            show uploadedBytes (s'.acknowledgedOf id) <+: s'.partBytes id
            rw [hnone]
            exact List.nil_prefix
          complete := fun _ hzero => absurd hzero htotal.ne
          gone := fun hgone => by rcases hgone with hgone | hgone <;> cases hgone
          ordered := by
            show InOffsetOrder (s'.acknowledgedOf id)
            rw [hnone]
            exact inOffsetOrder_nil
          ready := fun hready => by cases hready }
  · intro readied hmem
    refine (h.readied readied (hreadied ▸ hmem)).kept fun old hold hpending => ?_
    exact ⟨old, hsessions ▸ List.mem_append_left _ hold, rfl, rfl, hpending, uploaded_congr (hof _)⟩
  · intro chunk hchunk
    obtain ⟨session, hsession, hsame⟩ := h.acknowledged chunk (hacknowledged ▸ hchunk)
    exact ⟨session, hsessions ▸ List.mem_append_left _ hsession, hsame⟩

theorem readyLike_of_commitRefusal {batch : UploadBatch} {active : List UploadSession}
    (h : commitRefusal batch active = none) :
    ∀ session ∈ active, session.status.readyLike = true := by
  unfold commitRefusal at h
  split_ifs at h with hmissing hready hsingle
  intro session hmem
  by_contra hnot
  exact hready (List.any_eq_true.mpr ⟨session, hmem, decide_eq_true hnot⟩)

theorem mem_orderSessions {sessions : List UploadSession} :
    session ∈ orderSessions sessions ↔ session ∈ sessions := by
  rw [orderSessions, List.mem_insertionSort]

theorem ContentsSound.batchCommitted (h : ContentsSound media s) {batch : UploadBatch}
    {senderId : Nat} {ordered : List UploadSession}
    (hordered : ∀ session ∈ ordered, session ∈ s.sessions ∧ session.status.readyLike = true) :
    ContentsSound media (s.commitBatch batch senderId ordered) := by
  have hrows : ∀ row ∈ s.sessions,
      commitSession ordered (s.messageSequence + 1) row = row ∨ row.status.readyLike = true ∧
        ∃ messageId, commitSession ordered (s.messageSequence + 1) row =
          row.committedWith messageId := by
    intro row hrow
    rcases commitSession_cases ordered (s.messageSequence + 1) row with
      ⟨-, hsame⟩ | ⟨index, session, hindex, hid, hcommitted⟩
    · exact .inl hsame
    · obtain ⟨hmem, hready⟩ := hordered session (List.mem_of_getElem? hindex)
      have heq : session = row := List.inj_on_of_nodup_map h.ids hmem hrow hid
      exact .inr ⟨heq ▸ hready, _, hcommitted⟩
  refine
    { ids := ?_
      sessions := ?_
      readied := ?_
      acknowledged := ?_ }
  · show ((commitSessions s.sessions ordered (s.messageSequence + 1)).map UploadSession.id).Nodup
    rw [map_id_commitSessions]
    exact h.ids
  · intro session hsession
    obtain ⟨row, hrow, rfl⟩ := List.mem_map.mp hsession
    rcases hrows row hrow with hsame | ⟨hready, messageId, hcommitted⟩
    · rw [hsame]
      exact (h.sessions row hrow).of_eq rfl rfl fun _ hmem => hmem
    · rw [hcommitted]
      exact (h.sessions row hrow).rewrite ⟨rfl, rfl, rfl, rfl⟩ rfl
        (fun hpending => absurd hpending not_pending_committed)
        (fun hgone => by rcases hgone with hgone | hgone <;> cases hgone)
        (fun _ => (h.sessions row hrow).ready hready)
  · intro readied hmem
    refine (h.readied readied hmem).kept fun row hrow hpending => ?_
    refine ⟨commitSession ordered (s.messageSequence + 1) row, List.mem_map_of_mem hrow,
      commitSession_id _ _ _, ?_, ?_, rfl⟩
    · rcases hrows row hrow with hsame | ⟨-, messageId, hcommitted⟩
      · rw [hsame]
      · rw [hcommitted]
        rfl
    · rcases hrows row hrow with hsame | ⟨-, messageId, hcommitted⟩
      · rw [hsame]
        exact hpending
      · rw [hcommitted]
        exact not_pending_committed
  · intro chunk hchunk
    obtain ⟨row, hrow, hsame⟩ := h.acknowledged chunk hchunk
    exact ⟨_, List.mem_map_of_mem hrow, (commitSession_id _ _ _).trans hsame⟩

theorem ContentsSound.effect (h : ContentsSound media s)
    (heffect : Effect media { chunk := fun s session _ => PartAligned s session } s s') :
    ContentsSound media s' := by
  cases heffect with
  | passed duration => exact h.of_eq rfl rfl rfl rfl
  | batchAdded => exact h.of_eq rfl rfl rfl rfl
  | sessionAdded _ _ _ _ hvalid _ habsent =>
    exact h.sessionAdded hvalid habsent (touchBatch_sessions _ _ _) (touchBatch_parts _ _ _)
      (touchBatch_acknowledged _ _ _) (touchBatch_readied _ _ _)
  | dropped _ hfound _ _ _ hstatus =>
    exact h.dropped hfound (hstatus.imp_right And.left)
  | chunkWritten _ hfound _ _ _ hrefusal haligned =>
    exact h.chunkWritten hfound hrefusal haligned
  | chunkCommitted _ hfound _ _ _ _ hrefusal haligned =>
    exact h.chunkCommitted hfound hrefusal haligned
  | marked session hfound hearly =>
    exact h.pending hfound ((h.found hfound).pending_of_early hearly) _ ⟨rfl, rfl, rfl, rfl⟩
      (.inr rfl)
  | failed _ hfound hstatus =>
    exact h.pending hfound (.inr hstatus) _ ⟨rfl, rfl, rfl, rfl⟩ (.inl rfl)
  | madeReady _ hfound hstatus hreceived _ _ _ hstored =>
    exact h.madeReady hfound hstatus hreceived hstored
  | partRemoved session hfound hstatus => exact h.partRemoved hfound hstatus
  | idsDrawn drawn => exact h.of_eq rfl rfl rfl rfl
  | batchCommitted _ _ _ _ _ hrefusal =>
    refine h.batchCommitted fun session hmem => ?_
    have hactive := mem_orderSessions.mp hmem
    exact ⟨(mem_listUploadBatchSessions.mp (List.mem_of_mem_filter hactive)).1,
      readyLike_of_commitRefusal hrefusal session hactive⟩
  | batchCancelled batch hfound hopen => exact h.of_eq rfl rfl rfl rfl

end Invariant

/-- An accepted append finds a part file that ends at the next offset: no earlier one has stopped
between its write and its commit. -/
def AppendsAligned (s : Store) (operation : Operation) (_ : Store) : Prop :=
  ({ chunk := fun s session _ => PartAligned s session } : Guards).grant s operation

theorem contentsSound_empty (media : Media) : ContentsSound media .empty where
  ids := List.nodup_nil
  sessions := by simp [Store.empty]
  readied := by simp [Store.empty]
  acknowledged := by simp [Store.empty]

theorem ContentsSound.step {media : Media} {s : Store} (h : ContentsSound media s)
    (operation : Operation) (haligned : AppendsAligned s operation (step media s operation)) :
    ContentsSound media (step media s operation) :=
  (step_effects h.ids operation haligned).invariant (fun _ _ hs heffect => hs.effect heffect) h

/-- In every run from an empty store in which no append writes behind bytes left by a stopped one,
what becomes `READY` is the concatenation of the acknowledged chunks in the order of their offsets,
of the declared length, stored as `persist_chat_media_file_bytes` does; and each ready session has
such a content. -/
theorem contents_kept (media : Media) (operations : List Operation)
    (haligned : EachStep (step media) AppendsAligned .empty operations) :
    (∀ readied ∈ (run (step media) .empty operations).readied,
      ∃ session ∈ (run (step media) .empty operations).sessions, session.id = readied.session ∧
        readied.content =
          uploadedBytes ((run (step media) .empty operations).acknowledgedOf session.id) ∧
        InOffsetOrder ((run (step media) .empty operations).acknowledgedOf session.id) ∧
        readied.content.length = session.totalBytes ∧
        ∃ uploaderId fileName declared thumbnail fileId result,
          media.persistChatMediaFileBytes uploaderId fileName declared readied.content thumbnail
            fileId = .ok result ∧ result.chatFile = readied.file) ∧
    ∀ session ∈ (run (step media) .empty operations).sessions,
      session.status.readyLike = true → ∃ readied ∈ (run (step media) .empty operations).readied,
        readied.session = session.id ∧ session.finalChatFileId = some readied.file.id := by
  have hsound : ContentsSound media (run (step media) .empty operations) :=
    run_invariant (I := ContentsSound media) (C := AppendsAligned)
      (fun _ operation h hstep => h.step operation hstep) operations .empty
      (contentsSound_empty media) haligned
  refine ⟨fun readied hreadied => ?_, fun session hsession => (hsound.sessions session hsession).ready⟩
  obtain ⟨⟨session, hsession, hid, -, hcontent, hlength⟩, hstored⟩ := hsound.readied readied hreadied
  exact ⟨session, hsession, hid, hcontent, (hsound.sessions session hsession).ordered, hlength,
    hstored⟩

def plainCaller : Caller := ⟨1, 1, none⟩

def plainText : Media := ⟨fun _ => "text/plain", fun _ _ => none⟩

def shortTextRequest : UploadSessionCreateRequest :=
  { batchId := none, roomKind := .direct, targetId := 2, mediaType := .document
    fileName := "a.txt", mimeType := "text/plain", totalBytes := 2, chunkSize := 1
    previewMetadata := {} }

def twoChunks : List Operation :=
  [.createSession plainCaller true shortTextRequest 10 "token",
    .appendChunk plainCaller 10 "token" 0 [72] false false,
    .appendChunk plainCaller 10 "token" 1 [105] true false,
    .finalize plainCaller 10 20 none none]

/-- The text arrives as it was sent. -/
theorem two_chunks_kept :
    EachStep (step plainText) AppendsAligned .empty twoChunks ∧
      ∃ readied ∈ (run (step plainText) .empty twoChunks).readied,
        readied.content = [72, 105] ∧ ∃ session ∈ (run (step plainText) .empty twoChunks).sessions,
          session.id = readied.session ∧ readied.content.length = session.totalBytes := by
  have haligned : EachStep (step plainText) AppendsAligned .empty twoChunks :=
    ⟨trivial, fun _ => rfl, fun _ => rfl, trivial, trivial⟩
  refine ⟨haligned, ?_⟩
  obtain ⟨hreadied, -⟩ := contents_kept plainText twoChunks haligned
  have hmem : ∃ readied ∈ (run (step plainText) .empty twoChunks).readied,
      readied.content = [72, 105] := by decide
  obtain ⟨readied, hmem, hcontent⟩ := hmem
  obtain ⟨session, hsession, hid, -, -, hlength, -⟩ := hreadied readied hmem
  exact ⟨readied, hmem, hcontent, session, hsession, hid, hlength⟩

/-- The first append stops between its write and its commit, and the chunk is sent again. -/
def retriedChunk : List Operation :=
  [.createSession plainCaller true shortTextRequest 10 "token",
    .appendChunk plainCaller 10 "token" 0 [72] false true,
    .appendChunk plainCaller 10 "token" 0 [72] false false,
    .appendChunk plainCaller 10 "token" 1 [105] true false,
    .finalize plainCaller 10 20 none none]

/-- The content that becomes ready has the first chunk twice. -/
theorem retried_chunk_doubled :
    ∃ readied ∈ (run (step plainText) .empty retriedChunk).readied,
      ∃ session ∈ (run (step plainText) .empty retriedChunk).sessions,
        session.id = readied.session ∧ session.status = .ready ∧
        uploadedBytes ((run (step plainText) .empty retriedChunk).acknowledgedOf session.id) =
          [72, 105] ∧
        readied.content = [72, 72, 105] ∧ readied.content.length ≠ session.totalBytes := by
  decide

end TradingBot.Uploads
