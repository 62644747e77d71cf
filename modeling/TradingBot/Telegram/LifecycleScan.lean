import Mathlib.Data.List.Sort
import TradingBot.Misc.Rows
import TradingBot.Offer.Lifecycle
import TradingBot.Telegram.EditFeeder

/-!
# The scan for lifecycle edits

`enqueue_offer_lifecycle_channel_handoffs` (src/core/services/telegram_offer_queue_service.py:732):
a scan takes a limited batch of published active offers, the longest not updated first, enqueues an
edit of the channel post of each whose phase has changed, and notes the phase on the publication
state. That does not move a row in the order of the next scan, and rows that need nothing count
towards the limit.

Instants are in microseconds; the digest of a payload at the instant of the scan is a parameter.
-/

namespace TradingBot.Telegram.LifecycleScan

open TradingBot.Misc

/-- The fields of `OfferPublicationState` read, with `channel_lifecycle_phase` of its metadata. -/
structure PublicationState where
  publisherBotIdentity : String
  telegramChatId : Option Int
  telegramMessageId : Option Int
  offerVersionId : Option Int
  recordedPhase : String
  deriving DecidableEq, Repr

structure ChannelOffer where
  offer : Offer
  versionId : Option Int
  updatedAt : Option Int
  state : PublicationState
  deriving DecidableEq, Repr

/-- `TelegramFeederKind`, as far as the offers go. -/
inductive FeederKind where
  | offerEdit
  | other (value : String)
  deriving DecidableEq, Repr

/-- The fields of a job that never change (`_immutable_enqueue_fields`). -/
structure JobSpec where
  feederKind : FeederKind
  sourceNaturalId : String
  sourceVersion : Int
  action : EditAction
  botIdentity : String
  destinationKey : Int
  destinationClass : DestinationClass
  method : String
  payloadHash : String
  templateVersion : String
  deliveryDeadlineAt : Option Int
  eligibleAt : Option Int
  freshnessDeadlineAt : Option Int
  sourceOrderAt : Option Int
  campaignId : Option String
  runId : Option String
  deriving DecidableEq, Repr

/-- `build_delivery_dedupe_key`. -/
def JobSpec.dedupeKey (spec : JobSpec) : FeederKind × String × Int × EditAction × Int :=
  (spec.feederKind, spec.sourceNaturalId, spec.sourceVersion, spec.action, spec.destinationKey)

/-- A row of `telegram_delivery_jobs`. -/
structure QueueJob extends JobSpec where
  state : DeliveryState
  createdAt : Int
  dispatchStartedAt : Option Int
  deriving DecidableEq, Repr

structure ChannelState where
  rows : List ChannelOffer
  jobs : List QueueJob
  deriving DecidableEq, Repr

/-- The arguments of a scan and the settings that it reads. -/
structure ScanConfig where
  channelId : Int
  offerExpiryMinutes : Int
  limit : Int
  clock : Int
  b2bDispatchEnabled : Bool
  payloadHash : Offer → EditAction → Int → String

/-- `project_offer_channel_lifecycle` (telegram_offer_channel_service.py:271). -/
def projectOfferChannelLifecycle (offer : Offer) (normalLifetimeMinutes now : Int) :
    OfferLifecycleProjection :=
  let deadlines :=
    computeLifecycleDeadlines offer.createdAt normalLifetimeMinutes offer.overtimeMinutesSnapshot
  let hasFinalTail := offer.status = .active ∧ deadlines.any fun pair => pair.2 ≤ now
  projectOfferLifecycle offer normalLifetimeMinutes now hasFinalTail

/-- `_LIFECYCLE_CHANNEL_EDIT_ACTIONS`, with the value of the phase. -/
def lifecycleEdit : OfferLifecyclePhase → Option (String × EditAction)
  | .overtime => some ("overtime", .overtimeChannel)
  | .finalTail => some ("final_tail", .finalTailChannel)
  | .normal | .expired | .unavailable => none

def neededEdit (config : ScanConfig) (row : ChannelOffer) : Option (String × EditAction) :=
  let phase := (projectOfferChannelLifecycle row.offer config.offerExpiryMinutes config.clock).phase
  (lifecycleEdit phase).filter fun edit => row.state.recordedPhase ≠ edit.1

/-! ## The handoff of one edit -/

inductive HandoffError where
  | offerQueue (reason : String)
  | uncaught (reason : String)
  deriving DecidableEq, Repr

/-- `TELEGRAM_PUBLISHER_IDENTITIES`. -/
def publisherIdentities : List String :=
  ["publisher_1", "publisher_2", "publisher_3", "publisher_4", "publisher_5"]

/-- `_positive_int`. -/
def positiveInt (value : Option Int) : Option Int := value.filter (0 < ·)

/-- `canonical_telegram_publication_identity` (offer_publication_state_service.py:147). -/
def canonicalIdentity (state : PublicationState) : Except HandoffError (String × Int × Int) :=
  let publisher := pyStrip state.publisherBotIdentity
  if publisher ∉ "primary" :: publisherIdentities then
    .error (.uncaught "canonical_telegram_publisher_mismatch")
  else
    match state.telegramChatId.filter (· ≠ 0), positiveInt state.telegramMessageId with
    | none, _ => .error (.uncaught "canonical_telegram_chat_id_invalid")
    | some _, none => .error (.uncaught "canonical_telegram_message_id_invalid")
    | some chatId, some messageId => .ok (publisher, chatId, messageId)

/-- `OFFER_FRESHNESS_ACTIONS`. -/
def isFreshnessAction (action : EditAction) : Bool :=
  match action with
  | .other value => value ∈ ["offer_publish", "invalid_action_button_edit"]
  | _ => true

variable (source : String)

/-- `_supersede_obsolete_offer_jobs` (line 309). -/
def supersedeObsolete (version : Int) (jobs : List QueueJob) : List QueueJob :=
  jobs.map fun job =>
    if job.sourceNaturalId = source ∧ isFreshnessAction job.action ∧ job.sourceVersion < version ∧
        job.state ∈ [DeliveryState.pending, .pendingRetry] ∧ job.dispatchStartedAt = none then
      { job with state := .superseded }
    else job

/-- `func.min`. -/
def earliest : List Int → Option Int
  | [] => none
  | time :: times =>
    match earliest times with
    | none => some time
    | some best => some (if time ≤ best then time else best)

def editTimes (rendered : Int) (jobs : List QueueJob) : List Int :=
  (jobs.filter fun job => job.feederKind = .offerEdit ∧ job.sourceNaturalId = source ∧
    rendered < job.sourceVersion ∧ job.action.internalRank.toBool).map
      fun job => job.eligibleAt.getD job.createdAt

def offerEditFirstEnqueuedAt (rendered : Option Int) (clock : Int)
    (jobs : List QueueJob) : Except HandoffError Int :=
  let first := (earliest (editTimes source ((positiveInt rendered).getD 0) jobs)).getD clock
  if clock < first then .error (.offerQueue "telegram_offer_edit_first_enqueued_at_future")
  else .ok first

/-- `enqueue_telegram_delivery_job` (telegram_delivery_queue_service.py:930), of an edit of an offer. -/
def enqueueTelegramDeliveryJob (clock : Int) (jobs : List QueueJob) (spec : JobSpec) :
    Except HandoffError (List QueueJob) :=
  if pyStrip spec.sourceNaturalId = "" ∨ pyStrip spec.botIdentity = "" then
    .error (.uncaught "queue_identity_fields_required")
  else if 256 < spec.sourceNaturalId.length then .error (.uncaught "source_natural_id_too_long")
  else if spec.sourceVersion < 0 then .error (.uncaught "source_version_must_be_non_negative")
  else if spec.botIdentity ∉ "primary" :: "channel_editor" :: publisherIdentities then
    .error (.uncaught "telegram_bot_identity_not_allowlisted")
  else if spec.sourceOrderAt = none then .error (.uncaught "offer_edit_source_order_at_required")
  else
    match jobs.find? fun job => job.dedupeKey = spec.dedupeKey with
    | none => .ok (jobs ++ [{ spec with state := .pending, createdAt := clock, dispatchStartedAt := none }])
    | some job =>
      if job.toJobSpec = spec then .ok jobs else .error (.uncaught "telegram_delivery_dedupe_conflict")

def editBotIdentity (config : ScanConfig) (publisher : String) : Except HandoffError String :=
  -- of the canonical publishers, those with the lane's name
  if publisher ∈ publisherIdentities then
    if config.b2bDispatchEnabled then .ok publisher
    else .error (.offerQueue "telegram_offer_queue_publisher_lifecycle_requires_b2b")
  else if publisher ≠ "" ∧ publisher ≠ "primary" then
    .error (.offerQueue "telegram_offer_queue_publisher_identity_invalid")
  else .ok "primary"

def editSpec (config : ScanConfig) (row : ChannelOffer) (version messageId : Int) (bot : String)
    (action : EditAction) (first : Int) : JobSpec where
  feederKind := .offerEdit
  sourceNaturalId := pyStrip row.offer.offerPublicId
  sourceVersion := version
  action := action
  botIdentity := bot
  destinationKey := config.channelId
  destinationClass := .channel
  method := "editMessageText"
  payloadHash := config.payloadHash row.offer action messageId
  templateVersion := "offer-channel-v1"
  deliveryDeadlineAt := none
  eligibleAt := some first
  freshnessDeadlineAt := none
  sourceOrderAt := row.offer.createdAt
  campaignId := none
  runId := none

def enqueueCurrentOfferDelivery (config : ScanConfig) (jobs : List QueueJob) (row : ChannelOffer)
    (action : EditAction) : List QueueJob × Except HandoffError Unit :=
  let source := pyStrip row.offer.offerPublicId
  match positiveInt row.versionId with
  | none => (jobs, .error (.offerQueue "telegram_offer_queue_source_invalid"))
  | some version =>
    if source = "" then (jobs, .error (.offerQueue "telegram_offer_queue_source_invalid"))
    else
      match canonicalIdentity row.state with
      | .error failure => (jobs, .error failure)
      | .ok (publisher, chatId, messageId) =>
        if chatId ≠ config.channelId then
          (jobs, .error (.offerQueue "telegram_offer_queue_canonical_channel_mismatch"))
        else
          let kept := supersedeObsolete source version jobs
          match editBotIdentity config publisher with
          | .error failure => (kept, .error failure)
          | .ok bot =>
            match offerEditFirstEnqueuedAt source row.state.offerVersionId config.clock kept with
            | .error failure => (kept, .error failure)
            | .ok first =>
              match enqueueTelegramDeliveryJob config.clock kept
                (editSpec config row version messageId bot action first) with
              | .error failure => (kept, .error failure)
              | .ok stored => (stored, .ok ())

def recordPhase (phase : String) (row : ChannelOffer) : ChannelOffer :=
  { row with state := { row.state with recordedPhase := phase } }

def ChannelOffer.publicId (row : ChannelOffer) : String := row.offer.offerPublicId

def handleRow (config : ScanConfig) (s : ChannelState) (row : ChannelOffer) :
    Except HandoffError ChannelState :=
  match neededEdit config row with
  | none => .ok s
  | some (phase, action) =>
    match enqueueCurrentOfferDelivery config s.jobs row action with
    | (jobs, .ok ()) =>
      .ok { rows := setRow ChannelOffer.publicId row.publicId (recordPhase phase) s.rows, jobs := jobs }
    | (jobs, .error (.offerQueue _)) => .ok { s with jobs := jobs }
    | (_, .error (.uncaught reason)) => .error (.uncaught reason)

/-- `coalesce(updated_at, created_at)`. -/
def ChannelOffer.orderedAt (row : ChannelOffer) : Option Int := row.updatedAt.or row.offer.createdAt

/-- The order of the rows: by the time of the last update, the rows without one last, then by the id. -/
def scannedBefore (a b : ChannelOffer) : Bool :=
  match a.orderedAt, b.orderedAt with
  | some at_, some bt => at_ < bt || at_ = bt && a.offer.id ≤ b.offer.id
  | some _, none => true
  | none, some _ => false
  | none, none => a.offer.id ≤ b.offer.id

def isScanned (config : ScanConfig) (row : ChannelOffer) : Bool :=
  row.offer.status = .active && row.versionId.isSome && row.state.telegramMessageId.isSome &&
    row.state.telegramChatId = some config.channelId

def batch (config : ScanConfig) (rows : List ChannelOffer) : List ChannelOffer :=
  ((rows.filter (isScanned config)).insertionSort (fun a b => scannedBefore a b)).take
    (if config.limit < 1 then 1 else config.limit.toNat)

/-- `enqueue_offer_lifecycle_channel_handoffs`; an error that leaves it rolls the scan back. -/
def scan (config : ScanConfig) (s : ChannelState) : ChannelState :=
  if config.offerExpiryMinutes ≤ 0 ∨ config.channelId = 0 then s
  else
    match (batch config s.rows).foldlM (handleRow config) s with
    | .ok s' => s'
    | .error _ => s

def scans (config : ScanConfig) : Nat → ChannelState → ChannelState
  | 0, s => s
  | count + 1, s => scans config count (scan config s)

structure ChannelOffer.Valid (config : ScanConfig) (row : ChannelOffer) : Prop where
  active : row.offer.status = .active
  stripped : pyStrip row.offer.offerPublicId = row.offer.offerPublicId
  named : row.offer.offerPublicId ≠ ""
  short : row.offer.offerPublicId.length ≤ 40
  version : ∃ version, row.versionId = some version ∧ 0 < version
  created : row.offer.createdAt ≠ none
  chat : row.state.telegramChatId = some config.channelId
  channel : config.channelId ≠ 0
  message : ∃ messageId, row.state.telegramMessageId = some messageId ∧ 0 < messageId
  publisher : pyStrip row.state.publisherBotIdentity ∈ "primary" :: publisherIdentities
  lane : pyStrip row.state.publisherBotIdentity ∈ publisherIdentities → config.b2bDispatchEnabled = true

def firstTime (config : ScanConfig) (jobs : List QueueJob) (row : ChannelOffer) : Int :=
  (earliest (editTimes row.publicId ((positiveInt row.state.offerVersionId).getD 0) jobs)).getD
    config.clock

def rowSpec (config : ScanConfig) (jobs : List QueueJob) (row : ChannelOffer) (action : EditAction) :
    JobSpec :=
  editSpec config row (row.versionId.getD 0) (row.state.telegramMessageId.getD 0)
    (pyStrip row.state.publisherBotIdentity) action (firstTime config jobs row)

/-- The edits before it are not from the future, and a job stored under its key is the same. -/
def QueueTakes (config : ScanConfig) (jobs : List QueueJob) (row : ChannelOffer) : Prop :=
  ∀ phase action, neededEdit config row = some (phase, action) →
    firstTime config jobs row ≤ config.clock ∧
      ∀ job, (jobs.find? fun job => job.dedupeKey = (rowSpec config jobs row action).dedupeKey) =
        some job → job.toJobSpec = rowSpec config jobs row action

/-- The edit that a row needs is enqueued and its phase is noted. -/
def EditDone (config : ScanConfig) (s : ChannelState) (row : ChannelOffer) : Prop :=
  ∀ phase action, neededEdit config row = some (phase, action) →
    recordPhase phase row ∈ s.rows ∧
      ∃ job ∈ s.jobs, job.feederKind = .offerEdit ∧ job.sourceNaturalId = row.publicId ∧
        some job.sourceVersion = row.versionId ∧ job.action = action ∧
        job.destinationKey = config.channelId

def ofSource (jobs : List QueueJob) : List (JobSpec × Int) :=
  (jobs.map fun job => (job.toJobSpec, job.createdAt)).filter fun entry =>
    entry.1.sourceNaturalId = source

theorem ofSource_supersedeObsolete (source other : String) (version : Int) (jobs : List QueueJob) :
    ofSource source (supersedeObsolete other version jobs) = ofSource source jobs := by
  have hmap : (supersedeObsolete other version jobs).map (fun job => (job.toJobSpec, job.createdAt)) =
      jobs.map fun job => (job.toJobSpec, job.createdAt) := by
    rw [supersedeObsolete, List.map_map]
    refine List.map_congr_left fun job _ => ?_
    rw [Function.comp_apply]
    split <;> rfl
  rw [ofSource, ofSource, hmap]

theorem ofSource_append_of_ne {source : String} {jobs : List QueueJob} {job : QueueJob}
    (hne : job.sourceNaturalId ≠ source) : ofSource source (jobs ++ [job]) = ofSource source jobs := by
  simp [ofSource, hne]

theorem editTimes_eq (rendered : Int) (jobs : List QueueJob) :
    editTimes source rendered jobs =
      ((ofSource source jobs).filter fun entry => entry.1.feederKind = .offerEdit ∧
        rendered < entry.1.sourceVersion ∧ entry.1.action.internalRank.toBool).map
          fun entry => entry.1.eligibleAt.getD entry.2 := by
  rw [editTimes, ofSource, List.filter_filter, List.filter_map, List.map_map]
  congr 1
  refine List.filter_congr fun job _ => ?_
  rw [Function.comp_apply, ← Bool.decide_and, decide_eq_decide]
  constructor
  · exact fun ⟨hkind, hsource, hrest⟩ => ⟨⟨hkind, hrest⟩, hsource⟩
  · exact fun ⟨⟨hkind, hrest⟩, hsource⟩ => ⟨hkind, hsource, hrest⟩

theorem find?_spec_eq (spec : JobSpec) (jobs : List QueueJob) :
    (jobs.find? fun job => job.dedupeKey = spec.dedupeKey).map QueueJob.toJobSpec =
      ((ofSource spec.sourceNaturalId jobs).find? fun entry => entry.1.dedupeKey = spec.dedupeKey).map
        Prod.fst := by
  rw [ofSource, List.find?_filter, List.find?_map, Option.map_map]
  have hpred : (fun job : QueueJob => decide (job.dedupeKey = spec.dedupeKey)) =
      (fun entry => decide (decide (entry.1.sourceNaturalId = spec.sourceNaturalId) = true ∧
        decide (entry.1.dedupeKey = spec.dedupeKey) = true)) ∘
          fun job : QueueJob => (job.toJobSpec, job.createdAt) := by
    funext job
    rw [Function.comp_apply, decide_eq_decide, decide_eq_true_eq, decide_eq_true_eq]
    refine ⟨fun hkey => ⟨?_, hkey⟩, And.right⟩
    exact congrArg (fun key => key.2.1) hkey
  rw [hpred]
  rfl

section Jobs

variable {config : ScanConfig} {jobs jobs' : List QueueJob} {row : ChannelOffer}

theorem firstTime_congr (h : ofSource row.publicId jobs' = ofSource row.publicId jobs) :
    firstTime config jobs' row = firstTime config jobs row := by
  rw [firstTime, firstTime, editTimes_eq, editTimes_eq, h]

theorem rowSpec_congr (h : ofSource row.publicId jobs' = ofSource row.publicId jobs)
    (action : EditAction) : rowSpec config jobs' row action = rowSpec config jobs row action := by
  rw [rowSpec, rowSpec, firstTime_congr h]

theorem queueTakes_of_eq (hstripped : pyStrip row.offer.offerPublicId = row.offer.offerPublicId)
    (h : ofSource row.publicId jobs' = ofSource row.publicId jobs) (htakes : QueueTakes config jobs row) :
    QueueTakes config jobs' row := by
  intro phase action hneeded
  obtain ⟨htime, hsame⟩ := htakes phase action hneeded
  rw [firstTime_congr h, rowSpec_congr h]
  refine ⟨htime, fun job hjob => ?_⟩
  have hsource : (rowSpec config jobs row action).sourceNaturalId = row.publicId := hstripped
  have hold := find?_spec_eq (rowSpec config jobs row action) jobs
  have hnew := find?_spec_eq (rowSpec config jobs row action) jobs'
  rw [hsource, h, ← hsource, ← hold, hjob, Option.map_some] at hnew
  obtain ⟨old, hfound, hspec⟩ := Option.map_eq_some_iff.mp hnew.symm
  rw [← hspec]
  exact hsame old hfound

theorem queueTakes_congr (hstripped : pyStrip row.offer.offerPublicId = row.offer.offerPublicId)
    (h : ofSource row.publicId jobs' = ofSource row.publicId jobs) :
    QueueTakes config jobs' row ↔ QueueTakes config jobs row :=
  ⟨queueTakes_of_eq hstripped h.symm, queueTakes_of_eq hstripped h⟩

end Jobs

/-! ## One row -/

inductive Handled (config : ScanConfig) (s : ChannelState) (row : ChannelOffer) :
    Except HandoffError ChannelState → Prop where
  | idle (hneeded : neededEdit config row = none) : Handled config s row (.ok s)
  | blocked {jobs : List QueueJob} (htakes : ¬ QueueTakes config s.jobs row)
      (hkept : ∀ source, ofSource source jobs = ofSource source s.jobs)
      (hgrown : ∀ job ∈ s.jobs, ∃ new ∈ jobs, new.toJobSpec = job.toJobSpec) :
      Handled config s row (.ok { s with jobs := jobs })
  | failed {failure : HandoffError} (htakes : ¬ QueueTakes config s.jobs row) :
      Handled config s row (.error failure)
  | recorded {phase : String} {action : EditAction} {jobs : List QueueJob}
      (hneeded : neededEdit config row = some (phase, action)) (htakes : QueueTakes config s.jobs row)
      (hkept : ∀ source, source ≠ row.publicId → ofSource source jobs = ofSource source s.jobs)
      (hgrown : ∀ job ∈ s.jobs, ∃ new ∈ jobs, new.toJobSpec = job.toJobSpec)
      (hstored : ∃ job ∈ jobs, job.toJobSpec = rowSpec config s.jobs row action) :
      Handled config s row (.ok
        { rows := setRow ChannelOffer.publicId row.publicId (recordPhase phase) s.rows, jobs := jobs })

theorem mem_supersedeObsolete (version : Int) {jobs : List QueueJob} {job : QueueJob}
    (h : job ∈ jobs) : ∃ new ∈ supersedeObsolete source version jobs, new.toJobSpec = job.toJobSpec := by
  refine ⟨_, List.mem_map.mpr ⟨job, h, rfl⟩, ?_⟩
  split <;> rfl

theorem canonicalIdentity_valid {config : ScanConfig} {row : ChannelOffer} (h : row.Valid config) :
    canonicalIdentity row.state = .ok (pyStrip row.state.publisherBotIdentity, config.channelId,
      row.state.telegramMessageId.getD 0) := by
  obtain ⟨messageId, hmessage, hpositive⟩ := h.message
  have hpublisher := h.publisher
  have hchannel := h.channel
  rw [canonicalIdentity, if_neg (not_not.mpr hpublisher), h.chat, hmessage]
  simp [positiveInt, Option.filter_some, hpositive, hchannel]

theorem editBotIdentity_valid {config : ScanConfig} {row : ChannelOffer} (h : row.Valid config) :
    editBotIdentity config (pyStrip row.state.publisherBotIdentity) =
      .ok (pyStrip row.state.publisherBotIdentity) := by
  rw [editBotIdentity]
  by_cases hlane : pyStrip row.state.publisherBotIdentity ∈ publisherIdentities
  · rw [if_pos hlane, if_pos (h.lane hlane)]
  · have hprimary : pyStrip row.state.publisherBotIdentity = "primary" :=
      (List.mem_cons.mp h.publisher).resolve_right hlane
    rw [if_neg hlane, hprimary]
    rfl

theorem enqueueTelegramDeliveryJob_valid {config : ScanConfig} {row : ChannelOffer}
    (h : row.Valid config) (jobs kept : List QueueJob) (action : EditAction) :
    enqueueTelegramDeliveryJob config.clock kept (rowSpec config jobs row action) =
      match kept.find? fun job => job.dedupeKey = (rowSpec config jobs row action).dedupeKey with
      | none => .ok (kept ++ [{ rowSpec config jobs row action with
          state := .pending, createdAt := config.clock, dispatchStartedAt := none }])
      | some job =>
        if job.toJobSpec = rowSpec config jobs row action then .ok kept
        else .error (.uncaught "telegram_delivery_dedupe_conflict") := by
  obtain ⟨version, hversion, hpositive⟩ := h.version
  have hsource : (rowSpec config jobs row action).sourceNaturalId = row.offer.offerPublicId := h.stripped
  have hbot : (rowSpec config jobs row action).botIdentity =
      pyStrip row.state.publisherBotIdentity := rfl
  have hnamed : ¬ (pyStrip (rowSpec config jobs row action).sourceNaturalId = "" ∨
      pyStrip (rowSpec config jobs row action).botIdentity = "") := by
    rw [hsource, hbot, h.stripped]
    rintro (hempty | hempty)
    · exact h.named hempty
    · have hpublisher := h.publisher
      revert hempty hpublisher
      generalize pyStrip row.state.publisherBotIdentity = publisher
      intro hempty hpublisher
      simp only [publisherIdentities, List.mem_cons, List.not_mem_nil, or_false] at hpublisher
      rcases hpublisher with rfl | rfl | rfl | rfl | rfl | rfl <;> exact absurd hempty (by decide)
  have hshort : ¬ 256 < (rowSpec config jobs row action).sourceNaturalId.length := by
    rw [hsource]
    have hlength := h.short
    omega
  have hnonnegative : ¬ (rowSpec config jobs row action).sourceVersion < 0 := by
    show ¬ row.versionId.getD 0 < 0
    rw [hversion, Option.getD_some]
    omega
  have hlisted : (rowSpec config jobs row action).botIdentity ∈
      "primary" :: "channel_editor" :: publisherIdentities := by
    rw [hbot]
    rcases List.mem_cons.mp h.publisher with hprimary | hlane
    · rw [hprimary]
      exact List.mem_cons_self
    · exact List.mem_cons_of_mem _ (List.mem_cons_of_mem _ hlane)
  have hordered : ¬ (rowSpec config jobs row action).sourceOrderAt = none := h.created
  rw [enqueueTelegramDeliveryJob, if_neg hnamed, if_neg hshort, if_neg hnonnegative,
    if_neg (not_not.mpr hlisted), if_neg hordered]

theorem enqueueCurrentOfferDelivery_valid {config : ScanConfig} {row : ChannelOffer}
    (h : row.Valid config) (jobs : List QueueJob) (action : EditAction) :
    enqueueCurrentOfferDelivery config jobs row action =
      let kept := supersedeObsolete row.publicId (row.versionId.getD 0) jobs
      if config.clock < firstTime config jobs row then
        (kept, .error (.offerQueue "telegram_offer_edit_first_enqueued_at_future"))
      else
        match enqueueTelegramDeliveryJob config.clock kept (rowSpec config jobs row action) with
        | .error failure => (kept, .error failure)
        | .ok stored => (stored, .ok ()) := by
  obtain ⟨version, hversion, hpositive⟩ := h.version
  have hfirst : firstTime config (supersedeObsolete row.publicId version jobs) row =
      firstTime config jobs row := firstTime_congr (ofSource_supersedeObsolete _ _ _ _)
  have hsource : pyStrip row.offer.offerPublicId = row.publicId := h.stripped
  have htime : offerEditFirstEnqueuedAt row.publicId row.state.offerVersionId config.clock
      (supersedeObsolete row.publicId version jobs) =
      if config.clock < firstTime config jobs row then
        .error (.offerQueue "telegram_offer_edit_first_enqueued_at_future")
      else .ok (firstTime config jobs row) := by
    rw [← hfirst]
    rfl
  have hspec : editSpec config row version (row.state.telegramMessageId.getD 0)
      (pyStrip row.state.publisherBotIdentity) action (firstTime config jobs row) =
      rowSpec config jobs row action := by
    rw [rowSpec, hversion]
    rfl
  have hpositiveInt : positiveInt (some version) = some version := by
    simp [positiveInt, Option.filter_some, hpositive]
  simp only [enqueueCurrentOfferDelivery, hpositiveInt, hsource, canonicalIdentity_valid h,
    editBotIdentity_valid h, htime, hversion, Option.getD_some, ne_eq, not_true_eq_false, if_false]
  rw [if_neg (show ¬ row.publicId = "" from h.named)]
  split_ifs with hfuture
  · rfl
  · simp only [hspec]

theorem handleRow_handled {config : ScanConfig} {row : ChannelOffer} (h : row.Valid config)
    (s : ChannelState) : Handled config s row (handleRow config s row) := by
  unfold handleRow
  cases hneeded : neededEdit config row with
  | none => exact .idle hneeded
  | some edit =>
    obtain ⟨phase, action⟩ := edit
    have hkept : ∀ source, ofSource source (supersedeObsolete row.publicId (row.versionId.getD 0) s.jobs) =
        ofSource source s.jobs := fun source => ofSource_supersedeObsolete _ _ _ _
    simp only [enqueueCurrentOfferDelivery_valid h]
    by_cases hfuture : config.clock < firstTime config s.jobs row
    · simp only [if_pos hfuture]
      refine .blocked (fun htakes => ?_) hkept fun job hjob => mem_supersedeObsolete _ _ hjob
      exact absurd (htakes phase action hneeded).1 (Int.not_le.mpr hfuture)
    · simp only [if_neg hfuture, enqueueTelegramDeliveryJob_valid h]
      -- the job that is found under the key has the fields of the one that was found before
      have hsource : (rowSpec config s.jobs row action).sourceNaturalId = row.publicId := h.stripped
      have hspecs := find?_spec_eq (rowSpec config s.jobs row action)
        (supersedeObsolete row.publicId (row.versionId.getD 0) s.jobs)
      rw [hkept, ← find?_spec_eq] at hspecs
      cases hfound : (supersedeObsolete row.publicId (row.versionId.getD 0) s.jobs).find? fun job =>
          job.dedupeKey = (rowSpec config s.jobs row action).dedupeKey with
      | none =>
        rw [hfound, Option.map_none] at hspecs
        have hnone := Option.map_eq_none_iff.mp hspecs.symm
        refine .recorded hneeded ?_ ?_ ?_ ?_
        · intro phase' action' hneeded'
          rw [hneeded] at hneeded'
          cases hneeded'
          refine ⟨Int.not_lt.mp hfuture, fun job hjob => ?_⟩
          rw [hnone] at hjob
          cases hjob
        · intro source hne
          rw [ofSource_append_of_ne, hkept]
          rw [hsource]
          exact hne.symm
        · intro job hjob
          obtain ⟨new, hnew, hspec⟩ := mem_supersedeObsolete row.publicId
            (row.versionId.getD 0) hjob
          exact ⟨new, List.mem_append_left _ hnew, hspec⟩
        · exact ⟨_, List.mem_append_right _ List.mem_cons_self, rfl⟩
      | some job =>
        rw [hfound, Option.map_some] at hspecs
        obtain ⟨old, hold, hspec⟩ := Option.map_eq_some_iff.mp hspecs.symm
        by_cases hsame : job.toJobSpec = rowSpec config s.jobs row action
        · simp only [if_pos hsame]
          refine .recorded hneeded ?_ (fun source _ => hkept source) ?_ ?_
          · intro phase' action' hneeded'
            rw [hneeded] at hneeded'
            cases hneeded'
            refine ⟨Int.not_lt.mp hfuture, fun other hother => ?_⟩
            rw [hold] at hother
            cases hother
            exact hspec.trans hsame
          · exact fun other hother => mem_supersedeObsolete _ _ hother
          · exact ⟨job, List.mem_of_find?_eq_some hfound, hsame⟩
        · simp only [if_neg hsame]
          refine .failed fun htakes => hsame ?_
          rw [← hspec]
          exact (htakes phase action hneeded).2 old hold

/-! ## One scan -/

def PhaseOnly (row row' : ChannelOffer) : Prop := ∃ phase, row' = recordPhase phase row

theorem PhaseOnly.refl (row : ChannelOffer) : PhaseOnly row row := ⟨row.state.recordedPhase, rfl⟩

theorem PhaseOnly.publicId {row row' : ChannelOffer} (h : PhaseOnly row row') :
    row'.publicId = row.publicId := by
  obtain ⟨phase, rfl⟩ := h
  rfl

theorem PhaseOnly.valid {config : ScanConfig} {row row' : ChannelOffer} (h : PhaseOnly row row')
    (hvalid : row.Valid config) : row'.Valid config := by
  obtain ⟨phase, rfl⟩ := h
  exact ⟨hvalid.active, hvalid.stripped, hvalid.named, hvalid.short, hvalid.version, hvalid.created,
    hvalid.chat, hvalid.channel, hvalid.message, hvalid.publisher, hvalid.lane⟩

section Fold

variable {config : ScanConfig} {s s' : ChannelState}

theorem Handled.rewritten {row : ChannelOffer} (h : Handled config s row (.ok s')) :
    Rewritten PhaseOnly s.rows s'.rows := by
  cases h with
  | idle => exact Rewritten.refl PhaseOnly.refl _
  | blocked => exact Rewritten.refl PhaseOnly.refl _
  | recorded => exact Rewritten.setRow PhaseOnly.refl fun row _ _ => ⟨_, rfl⟩

theorem Handled.grown {row : ChannelOffer} (h : Handled config s row (.ok s')) :
    ∀ job ∈ s.jobs, ∃ new ∈ s'.jobs, new.toJobSpec = job.toJobSpec := by
  cases h with
  | idle => exact fun job hjob => ⟨job, hjob, rfl⟩
  | blocked _ _ hgrown => exact hgrown
  | recorded _ _ _ hgrown => exact hgrown

theorem fold_keeps {R : ChannelState → ChannelState → Prop} (hrefl : ∀ s, R s s)
    (htrans : ∀ s₁ s₂ s₃, R s₁ s₂ → R s₂ s₃ → R s₁ s₃)
    (hstep : ∀ s s' row, Handled config s row (.ok s') → R s s') (rows : List ChannelOffer) :
    ∀ {s s' : ChannelState}, (∀ row ∈ rows, row.Valid config) →
      rows.foldlM (handleRow config) s = .ok s' → R s s' := by
  induction rows with
  | nil =>
    intro s s' _ hfold
    cases hfold
    exact hrefl s
  | cons row rows ih =>
    intro s s' hvalid hfold
    rw [List.foldlM_cons] at hfold
    have hhandled := handleRow_handled (hvalid row List.mem_cons_self) s
    cases hstep' : handleRow config s row with
    | error failure =>
      rw [hstep'] at hfold
      cases hfold
    | ok next =>
      rw [hstep'] at hfold hhandled
      exact htrans s next s' (hstep s next row hhandled)
        (ih (fun other hother => hvalid other (List.mem_cons_of_mem row hother)) hfold)

theorem fold_rewritten {rows : List ChannelOffer} (hvalid : ∀ row ∈ rows, row.Valid config)
    (hfold : rows.foldlM (handleRow config) s = .ok s') : Rewritten PhaseOnly s.rows s'.rows := by
  refine fold_keeps (R := fun s s' => Rewritten PhaseOnly s.rows s'.rows)
    (fun s => Rewritten.refl PhaseOnly.refl _) ?_ (fun s s' row h => h.rewritten) rows hvalid hfold
  rintro s₁ s₂ s₃ ⟨first, hfirst, hfirstOnly⟩ ⟨second, hsecond, hsecondOnly⟩
  refine ⟨second ∘ first, by rw [hsecond, hfirst, List.map_map], fun row hrow => ?_⟩
  obtain ⟨phase, hphase⟩ := hsecondOnly (first row) (hfirst ▸ List.mem_map_of_mem hrow)
  obtain ⟨before, hbefore⟩ := hfirstOnly row hrow
  refine ⟨phase, ?_⟩
  rw [Function.comp_apply, hphase, hbefore]
  rfl

theorem fold_grown {rows : List ChannelOffer} (hvalid : ∀ row ∈ rows, row.Valid config)
    (hfold : rows.foldlM (handleRow config) s = .ok s') :
    ∀ job ∈ s.jobs, ∃ new ∈ s'.jobs, new.toJobSpec = job.toJobSpec := by
  refine fold_keeps
    (R := fun s s' => ∀ job ∈ s.jobs, ∃ new ∈ s'.jobs, new.toJobSpec = job.toJobSpec)
    (fun s job hjob => ⟨job, hjob, rfl⟩) ?_ (fun s s' row h => h.grown) rows hvalid hfold
  intro s₁ s₂ s₃ hfirst hsecond job hjob
  obtain ⟨next, hnext, hspec⟩ := hfirst job hjob
  obtain ⟨last, hlast, hspec'⟩ := hsecond next hnext
  exact ⟨last, hlast, hspec'.trans hspec⟩

/-- A row not among the loop's, or without an edit the queue takes, stays, and so do its offer's
jobs. -/
theorem fold_frame (kept : ChannelOffer)
    (hstripped : pyStrip kept.offer.offerPublicId = kept.offer.offerPublicId)
    (rows : List ChannelOffer) :
    ∀ {s s' : ChannelState}, (∀ row ∈ rows, row.Valid config) →
      (∀ row ∈ rows, row.publicId = kept.publicId → row = kept) →
      (kept ∈ rows → ¬ (neededEdit config kept ≠ none ∧ QueueTakes config s.jobs kept)) →
      kept ∈ s.rows → rows.foldlM (handleRow config) s = .ok s' →
      kept ∈ s'.rows ∧ ofSource kept.publicId s'.jobs = ofSource kept.publicId s.jobs := by
  induction rows with
  | nil =>
    intro s s' _ _ _ hkept hfold
    cases hfold
    exact ⟨hkept, rfl⟩
  | cons row rows ih =>
    intro s s' hvalid honly hnot hkept hfold
    rw [List.foldlM_cons] at hfold
    have hhandled := handleRow_handled (hvalid row List.mem_cons_self) s
    cases hstep : handleRow config s row with
    | error failure =>
      rw [hstep] at hfold
      cases hfold
    | ok next =>
      rw [hstep] at hfold hhandled
      have hnext : kept ∈ next.rows ∧ ofSource kept.publicId next.jobs = ofSource kept.publicId s.jobs := by
        cases hhandled with
        | idle => exact ⟨hkept, rfl⟩
        | blocked _ hjobs _ => exact ⟨hkept, hjobs _⟩
        | recorded hneeded htakes hjobs =>
          have hne : kept.publicId ≠ row.publicId := by
            intro heq
            have hrow : row = kept := honly row List.mem_cons_self heq.symm
            subst hrow
            refine hnot List.mem_cons_self ⟨?_, htakes⟩
            rw [hneeded]
            exact Option.some_ne_none _
          exact ⟨mem_setRow.mpr (.inl ⟨hkept, hne⟩), hjobs _ hne⟩
      have hrest := ih (fun other hother => hvalid other (List.mem_cons_of_mem row hother))
        (fun other hother => honly other (List.mem_cons_of_mem row hother))
        (fun hmem => by
          rw [queueTakes_congr hstripped hnext.2]
          exact hnot (List.mem_cons_of_mem row hmem)) hnext.1 hfold
      exact ⟨hrest.1, hrest.2.trans hnext.2⟩

theorem fold_records (rows : List ChannelOffer) :
    ∀ {s : ChannelState}, (∀ row ∈ rows, row.Valid config) →
      (rows.map ChannelOffer.publicId).Nodup → (∀ row ∈ rows, row ∈ s.rows) →
      (∀ row ∈ rows, QueueTakes config s.jobs row) →
      ∃ s', rows.foldlM (handleRow config) s = .ok s' ∧ ∀ row ∈ rows, EditDone config s' row := by
  induction rows with
  | nil =>
    intro s _ _ _ _
    exact ⟨s, rfl, fun row hrow => nomatch hrow⟩
  | cons row rows ih =>
    intro s hvalid hnodup hmem htakes
    rw [List.map_cons, List.nodup_cons] at hnodup
    have hrow := hvalid row List.mem_cons_self
    have hrest : ∀ other ∈ rows, other.Valid config :=
      fun other hother => hvalid other (List.mem_cons_of_mem row hother)
    have hne : ∀ other ∈ rows, other.publicId ≠ row.publicId := by
      intro other hother heq
      exact hnodup.1 (List.mem_map.mpr ⟨other, hother, heq⟩)
    have hhandled := handleRow_handled hrow s
    rw [List.foldlM_cons]
    cases hstep : handleRow config s row with
    | error failure =>
      rw [hstep] at hhandled
      cases hhandled with
      | failed hnot => exact absurd (htakes row List.mem_cons_self) hnot
    | ok next =>
      rw [hstep] at hhandled
      cases hhandled with
      | blocked hnot _ _ => exact absurd (htakes row List.mem_cons_self) hnot
      | idle hneeded =>
        obtain ⟨s', hfold, hdone⟩ := ih hrest hnodup.2
          (fun other hother => hmem other (List.mem_cons_of_mem row hother))
          (fun other hother => htakes other (List.mem_cons_of_mem row hother))
        refine ⟨s', hfold, fun other hother => ?_⟩
        rcases List.mem_cons.mp hother with rfl | htail
        · intro phase action hsome
          rw [hneeded] at hsome
          cases hsome
        · exact hdone other htail
      | @recorded phase action jobs hneeded _ hjobs _ hstored =>
        obtain ⟨s', hfold, hdone⟩ := ih (s := ⟨_, jobs⟩) hrest hnodup.2
          (fun other hother => mem_setRow.mpr
            (.inl ⟨hmem other (List.mem_cons_of_mem row hother), hne other hother⟩))
          (fun other hother => (queueTakes_congr (hrest other hother).stripped
            (hjobs _ (hne other hother))).mpr (htakes other (List.mem_cons_of_mem row hother)))
        refine ⟨s', hfold, fun other hother => ?_⟩
        rcases List.mem_cons.mp hother with rfl | htail
        · intro phase' action' hsome
          rw [hneeded] at hsome
          cases hsome
          have hnoted : recordPhase phase other ∈
              setRow ChannelOffer.publicId other.publicId (recordPhase phase) s.rows :=
            mem_setRow.mpr (.inr ⟨other, hmem other List.mem_cons_self, rfl, rfl⟩)
          have habsent : recordPhase phase other ∉ rows :=
            fun hin => hne _ hin rfl
          have hframe := fold_frame (recordPhase phase other) hrow.stripped rows hrest
            (fun row' hrow' heq => absurd heq (hne row' hrow')) (fun hin => absurd hin habsent) hnoted hfold
          refine ⟨hframe.1, ?_⟩
          obtain ⟨job, hjob, hspec⟩ := hstored
          obtain ⟨new, hnew, hsame⟩ := fold_grown hrest hfold job hjob
          have hfields : new.toJobSpec = rowSpec config s.jobs other action := hsame.trans hspec
          obtain ⟨version, hversion, -⟩ := hrow.version
          refine ⟨new, hnew, ?_⟩
          rw [hfields]
          refine ⟨rfl, hrow.stripped, ?_, rfl, rfl⟩
          show some (other.versionId.getD 0) = other.versionId
          rw [hversion, Option.getD_some]
        · exact hdone other htail

end Fold

section Batch

variable {config : ScanConfig} {rows : List ChannelOffer}

theorem mem_batch {row : ChannelOffer} (h : row ∈ batch config rows) : row ∈ rows := by
  have hsorted := List.mem_of_mem_take h
  rw [(List.perm_insertionSort _ _).mem_iff] at hsorted
  exact (List.mem_filter.mp hsorted).1

theorem nodup_batch (hnodup : (rows.map ChannelOffer.publicId).Nodup) :
    ((batch config rows).map ChannelOffer.publicId).Nodup := by
  have hsorted : (((rows.filter (isScanned config)).insertionSort fun a b => scannedBefore a b).map
      ChannelOffer.publicId).Nodup := by
    rw [((List.perm_insertionSort _ _).map _).nodup_iff]
    exact hnodup.sublist (List.filter_sublist.map _)
  exact hsorted.sublist ((List.take_sublist _ _).map _)

theorem batch_map {write : ChannelOffer → ChannelOffer} (h : ∀ row ∈ rows, PhaseOnly row (write row)) :
    batch config (rows.map write) = (batch config rows).map write := by
  have hscanned : ∀ row ∈ rows, isScanned config (write row) = isScanned config row := by
    intro row hrow
    obtain ⟨phase, hphase⟩ := h row hrow
    rw [hphase]
    rfl
  have hbefore : ∀ a ∈ rows, ∀ b ∈ rows, scannedBefore (write a) (write b) = scannedBefore a b := by
    intro a ha b hb
    obtain ⟨phase, hphase⟩ := h a ha
    obtain ⟨phase', hphase'⟩ := h b hb
    rw [hphase, hphase']
    rfl
  have hfilter : (rows.map write).filter (isScanned config) =
      (rows.filter (isScanned config)).map write := by
    rw [List.filter_map]
    congr 1
    exact List.filter_congr fun row hrow => hscanned row hrow
  rw [batch, batch, hfilter, List.map_take]
  congr 1
  refine (List.map_insertionSort _ _ write _ fun a ha b hb => ?_).symm
  rw [hbefore a (List.mem_filter.mp ha).1 b (List.mem_filter.mp hb).1]

end Batch

/-! ## Scans -/

structure RowsValid (config : ScanConfig) (s : ChannelState) : Prop where
  valid : ∀ row ∈ s.rows, row.Valid config
  nodup : (s.rows.map ChannelOffer.publicId).Nodup

theorem RowsValid.rewritten {config : ScanConfig} {s s' : ChannelState} (h : RowsValid config s)
    (hrows : Rewritten PhaseOnly s.rows s'.rows) : RowsValid config s' := by
  constructor
  · intro row hrow
    obtain ⟨old, hold, honly⟩ := hrows.mem hrow
    exact honly.valid (h.valid old hold)
  · rw [hrows.map_eq fun row new honly => PhaseOnly.publicId honly]
    exact h.nodup

structure Left (config : ScanConfig) (s : ChannelState) (row : ChannelOffer) : Prop where
  mem : row ∈ s.rows
  left : row ∈ batch config s.rows → ¬ (neededEdit config row ≠ none ∧ QueueTakes config s.jobs row)

section Scans

variable {config : ScanConfig} {s : ChannelState} {row : ChannelOffer}

theorem scan_cases (config : ScanConfig) (s : ChannelState) :
    scan config s = s ∨ (batch config s.rows).foldlM (handleRow config) s = .ok (scan config s) := by
  unfold scan
  split
  · exact .inl rfl
  · cases hfold : (batch config s.rows).foldlM (handleRow config) s with
    | error failure => exact .inl rfl
    | ok s' => exact .inr rfl

theorem RowsValid.batch (h : RowsValid config s) : ∀ row ∈ batch config s.rows, row.Valid config :=
  fun row hrow => h.valid row (mem_batch hrow)

theorem RowsValid.scan (h : RowsValid config s) : RowsValid config (scan config s) := by
  rcases scan_cases config s with hsame | hfold
  · rw [hsame]
    exact h
  · exact h.rewritten (fold_rewritten h.batch hfold)

theorem scan_grown (h : RowsValid config s) :
    ∀ job ∈ s.jobs, ∃ new ∈ (scan config s).jobs, new.toJobSpec = job.toJobSpec := by
  rcases scan_cases config s with hsame | hfold
  · rw [hsame]
    exact fun job hjob => ⟨job, hjob, rfl⟩
  · exact fold_grown h.batch hfold

theorem Left.scan (h : RowsValid config s) (hleft : Left config s row) :
    Left config (scan config s) row := by
  rcases scan_cases config s with hsame | hfold
  · rw [hsame]
    exact hleft
  · have hstripped := (h.valid row hleft.mem).stripped
    have honly : ∀ other ∈ s.rows, other.publicId = row.publicId → other = row :=
      fun other hother heq => List.inj_on_of_nodup_map h.nodup hother hleft.mem heq
    have hframe := fold_frame row hstripped _ h.batch (fun other hother => honly other (mem_batch hother))
      hleft.left hleft.mem hfold
    refine ⟨hframe.1, fun hbatch => ?_⟩
    rw [queueTakes_congr hstripped hframe.2]
    obtain ⟨write, hwrite, hphase⟩ := fold_rewritten h.batch hfold
    rw [hwrite, batch_map hphase] at hbatch
    obtain ⟨old, hold, heq⟩ := List.mem_map.mp hbatch
    have hsameId : old.publicId = row.publicId := by
      rw [← heq, (hphase old (mem_batch hold)).publicId]
    rw [honly old (mem_batch hold) hsameId] at hold
    exact hleft.left hold

theorem scans_left (count : Nat) : ∀ {s : ChannelState}, RowsValid config s → Left config s row →
    RowsValid config (scans config count s) ∧ Left config (scans config count s) row := by
  induction count with
  | zero => exact fun h hleft => ⟨h, hleft⟩
  | succ count ih => exact fun h hleft => ih h.scan (hleft.scan h)

theorem scans_grown (count : Nat) : ∀ {s : ChannelState}, RowsValid config s →
    ∀ job ∈ s.jobs, ∃ new ∈ (scans config count s).jobs, new.toJobSpec = job.toJobSpec := by
  induction count with
  | zero => exact fun _ job hjob => ⟨job, hjob, rfl⟩
  | succ count ih =>
    intro s h job hjob
    obtain ⟨next, hnext, hspec⟩ := scan_grown h job hjob
    obtain ⟨last, hlast, hspec'⟩ := ih h.scan next hnext
    exact ⟨last, hlast, hspec'.trans hspec⟩

theorem neededEdit_recordPhase {phase : String} {action : EditAction}
    (h : neededEdit config row = some (phase, action)) :
    neededEdit config (recordPhase phase row) = none := by
  rw [neededEdit, Option.filter_eq_some_iff] at h
  rw [neededEdit, Option.filter_eq_none_iff]
  intro edit hedit
  have hsame : some edit = some (phase, action) := hedit.symm.trans h.1
  cases hsame
  simp [recordPhase]

theorem EditDone.scans (count : Nat) (h : RowsValid config s) (hdone : EditDone config s row) :
    EditDone config (scans config count s) row := by
  intro phase action hneeded
  obtain ⟨hnoted, job, hjob, hkind, hsource, hversion, haction, hdestination⟩ :=
    hdone phase action hneeded
  have hleft : Left config s (recordPhase phase row) :=
    ⟨hnoted, fun _ hboth => hboth.1 (neededEdit_recordPhase hneeded)⟩
  obtain ⟨new, hnew, hspec⟩ := scans_grown count h job hjob
  refine ⟨(scans_left count h hleft).2.mem, new, hnew, ?_⟩
  rw [hspec]
  exact ⟨hkind, hsource, hversion, haction, hdestination⟩

theorem neededEdit_of_nonpositive (hminutes : config.offerExpiryMinutes ≤ 0) :
    neededEdit config row = none := by
  have hdeadlines : row.offer.deadlines (readNormalLifetimeMinutes config.offerExpiryMinutes) = none := by
    have hzero : readNormalLifetimeMinutes config.offerExpiryMinutes ≤ 0 := by
      rw [readNormalLifetimeMinutes]
      omega
    unfold Offer.deadlines computeLifecycleDeadlines
    split
    · rfl
    · rw [if_pos hzero]
  simp only [neededEdit, projectOfferChannelLifecycle, projectOfferLifecycle, hdeadlines, lifecycleEdit]
  rfl

end Scans

/-- For every set of published active offers and every limit, as many scans at one instant as there
are offers enqueue and note every needed edit exactly when each offer that needs one is in the batch
of the limit and the queue takes its edit. -/
theorem lifecycle_edits_done (config : ScanConfig) (s : ChannelState) (hrows : RowsValid config s) :
    (∀ row ∈ s.rows, EditDone config (scans config s.rows.length s) row) ↔
      ∀ row ∈ s.rows, neededEdit config row ≠ none →
        row ∈ batch config s.rows ∧ QueueTakes config s.jobs row := by
  constructor
  · intro hdone row hrow hneeded
    by_contra hnot
    have hleft : Left config s row := by
      refine ⟨hrow, fun hbatch hboth => hnot ⟨hbatch, hboth.2⟩⟩
    obtain ⟨hvalid, hstays⟩ := scans_left s.rows.length hrows hleft
    obtain ⟨⟨phase, action⟩, hsome⟩ := Option.ne_none_iff_exists'.mp hneeded
    have hnoted := (hdone row hrow phase action hsome).1
    have hsame : recordPhase phase row = row :=
      List.inj_on_of_nodup_map hvalid.nodup hnoted hstays.mem rfl
    rw [← hsame, neededEdit_recordPhase hsome] at hneeded
    exact hneeded rfl
  · intro hready row hrow
    by_cases hneeded : neededEdit config row = none
    · intro phase action hsome
      rw [hneeded] at hsome
      cases hsome
    · have hminutes : ¬ (config.offerExpiryMinutes ≤ 0 ∨ config.channelId = 0) := by
        rintro (hle | hzero)
        · exact hneeded (neededEdit_of_nonpositive hle)
        · exact (hrows.valid row hrow).channel hzero
      have htakes : ∀ other ∈ batch config s.rows, QueueTakes config s.jobs other := by
        intro other hother phase action hsome
        refine (hready other (mem_batch hother) ?_).2 phase action hsome
        rw [hsome]
        exact Option.some_ne_none _
      obtain ⟨s', hfold, hdone⟩ := fold_records (batch config s.rows) hrows.batch
        (nodup_batch hrows.nodup) (fun other hother => mem_batch hother) htakes
      have hscan : scan config s = s' := by
        rw [scan, if_neg hminutes, hfold]
      obtain ⟨count, hcount⟩ := Nat.exists_eq_succ_of_ne_zero
        (Nat.ne_of_gt (List.length_pos_of_mem hrow))
      rw [hcount, scans]
      refine EditDone.scans count hrows.scan ?_
      rw [hscan]
      exact hdone row (hready row hrow hneeded).1

/-- Scans of a batch of one, three minutes after the offers were created. -/
def smallScan : ScanConfig :=
  { channelId := -1001, offerExpiryMinutes := 2, limit := 1, clock := 180000000,
    b2bDispatchEnabled := false, payloadHash := fun _ _ _ => "payload" }

/-- An active offer with two minutes of normal time and five of overtime. -/
def publishedOffer (id : Nat) (publicId : String) (recordedPhase : String) : ChannelOffer :=
  { offer :=
      { id := id, offerPublicId := publicId, userId := some 3, homeServer := "foreign",
        offerType := .sell, commodityId := 1, quantity := 10, price := 100000,
        remainingQuantity := some 10, isWholesale := false, lotSizes := none,
        overtimeMinutesSnapshot := 5, overtimeTradeCommitted := false, status := .active,
        expireReason := none, expiredAt := none, expiredByUserId := none,
        expiredByActorUserId := none, expireSourceSurface := none, expireSourceServer := none,
        createdAt := some 0 }
    versionId := some 1
    updatedAt := none
    state := ⟨"primary", some (-1001), some 77, some 1, recordedPhase⟩ }

theorem publishedOffer_valid (id : Nat) {publicId : String} (recordedPhase : String)
    (hstripped : pyStrip publicId = publicId) (hnamed : publicId ≠ "") (hshort : publicId.length ≤ 40) :
    (publishedOffer id publicId recordedPhase).Valid smallScan where
  active := rfl
  stripped := hstripped
  named := hnamed
  short := hshort
  version := ⟨1, rfl, by decide⟩
  created := Option.some_ne_none 0
  chat := rfl
  channel := by decide
  message := ⟨77, rfl, by decide⟩
  publisher := by
    show pyStrip "primary" ∈ "primary" :: publisherIdentities
    decide
  lane := by
    show pyStrip "primary" ∈ publisherIdentities → smallScan.b2bDispatchEnabled = true
    decide

/-- One offer that has come to its overtime is done after one scan. -/
theorem single_offer_done :
    EditDone smallScan (scans smallScan 1 ⟨[publishedOffer 1 "ofr_1" ""], []⟩)
      (publishedOffer 1 "ofr_1" "") := by
  have hrows : RowsValid smallScan ⟨[publishedOffer 1 "ofr_1" ""], []⟩ := by
    constructor
    · intro row hrow
      rw [List.mem_singleton.mp hrow]
      exact publishedOffer_valid 1 "" (by decide) (by decide) (by decide)
    · exact List.nodup_singleton _
  refine (lifecycle_edits_done smallScan ⟨[publishedOffer 1 "ofr_1" ""], []⟩ hrows).2 ?_ _
    (List.mem_singleton_self _)
  intro row hrow _
  refine ⟨?_, fun phase action _ => ⟨?_, fun job hjob => nomatch hjob⟩⟩
  · rw [List.mem_singleton.mp hrow]
    decide
  · rw [List.mem_singleton.mp hrow]
    decide

/-- An older offer whose edit is noted fills the batch of every scan, and the younger one that has
come to its overtime is never reached. -/
theorem noted_offer_starves_batch :
    RowsValid smallScan ⟨[publishedOffer 1 "ofr_1" "overtime", publishedOffer 2 "ofr_2" ""], []⟩ ∧
      ¬ ∀ row ∈ [publishedOffer 1 "ofr_1" "overtime", publishedOffer 2 "ofr_2" ""],
        EditDone smallScan (scans smallScan 2
          ⟨[publishedOffer 1 "ofr_1" "overtime", publishedOffer 2 "ofr_2" ""], []⟩) row := by
  refine ⟨⟨?_, by decide⟩, fun hdone => ?_⟩
  · intro row hrow
    simp only [List.mem_cons, List.not_mem_nil, or_false] at hrow
    rcases hrow with rfl | rfl
    · exact publishedOffer_valid 1 "overtime" (by decide) (by decide) (by decide)
    · exact publishedOffer_valid 2 "" (by decide) (by decide) (by decide)
  · have hnoted := (hdone _ (List.mem_cons_of_mem _ List.mem_cons_self) "overtime" .overtimeChannel
      (by decide)).1
    revert hnoted
    decide

end TradingBot.Telegram.LifecycleScan
