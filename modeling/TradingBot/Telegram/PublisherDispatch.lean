import TradingBot.Misc.Rows
import TradingBot.Misc.Run
import TradingBot.Telegram.PublisherEnvelope

/-!
# Dispatches to the publishers

`src/core/services/telegram_publisher_dispatch_service.py`: the primary bot keeps a command for each
job of a publisher and sends it as an envelope until the publisher has taken it and answers with an
acknowledgement. Any text may reach the bots from any sender, at any time and any number of times.
Times are in microseconds.
-/

namespace TradingBot.Telegram.Publisher

open TradingBot.Misc

/-- `TELEGRAM_PUBLISHER_IDENTITIES` (telegram_multi_publisher_contract.py:21). -/
abbrev Lane := Fin 5

/-- `TelegramPublisherDispatchState` (telegram_multi_publisher_contract.py:73). -/
inductive DispatchState where
  | pending
  | sent
  | acknowledged
  | retryDue
  | failed
  | superseded
  deriving DecidableEq

/-- `is_allowed_telegram_publisher_dispatch_transition`
(telegram_multi_publisher_contract.py:225). -/
def isAllowedTransition (current target : DispatchState) : Bool :=
  target = current || match current with
  | .pending => target ≠ .pending
  | .sent | .retryDue => target ≠ .pending
  | .acknowledged | .failed | .superseded => false

/-- The text of a `uuid4`. -/
structure CommandId (reader : Reader) where
  text : String
  normalized : normalizedCommandId reader text = .ok text
  length : text.length = 36

/-- `TelegramPublisherDispatchCommand` (models/telegram_publisher_dispatch_command.py:35). -/
structure Command (reader : Reader) where
  commandId : CommandId reader
  jobId : Nat
  publisher : Lane
  sequence : Nat
  sequencePos : 0 < sequence
  sequenceRange : sequence < 2 ^ 63
  state : DispatchState
  attemptCount : Nat
  nextRetryAt : Option Int
  leaseToken : Nat
  leaseUntil : Option Int
  sentAt : Option Int
  acknowledgedAt : Option Int
  receiptSequence : Option Int
  receiptReceivedAt : Option Int
  lastErrorClass : Option String
  createdAt : Int
  updatedAt : Int

def Command.key {reader : Reader} (command : Command reader) : String := command.commandId.text

/-- The bots, of which one that is not configured has no positive id, and the dates of the times. -/
structure Config where
  reader : Reader
  calendar : Int → DateTime
  primaryBotId : Int
  publisherBotIds : Lane → Int

/-- A job of the queue with the publisher that owns it, if one does. -/
structure Job where
  id : Nat
  botIdentity : Option Lane
  enqueuedSeq : Nat
  enqueuedSeqRange : enqueuedSeq < 2 ^ 63

variable {config : Config} {text : String} {command : Command config.reader} {now sender : Int}
  {kind : MessageType} {reader : Reader} {publisher : Lane}

/-- `get_or_create_telegram_publisher_dispatch_command` (line 175); a taken `command_id` raises. -/
def getOrCreateCommand (commands : List (Command config.reader)) (job : Job) (publisher : Lane)
    (commandId : CommandId config.reader) (now : Int) :
    Except String (List (Command config.reader) × Command config.reader) :=
  if job.botIdentity ≠ some publisher then
    .error "telegram_publisher_dispatch_job_owner_mismatch"
  else if job.id = 0 then .error "telegram_publisher_dispatch_job_invalid"
  else if hpos : 0 < job.enqueuedSeq then
    match getRow Command.jobId job.id commands with
    | some command =>
      if command.publisher ≠ publisher then
        .error "telegram_publisher_dispatch_command_owner_mismatch"
      else .ok (commands, command)
    | none =>
      if (getRow Command.key commandId.text commands).isSome then
        .error "ux_telegram_publisher_dispatch_commands_command_id"
      else
        let command : Command config.reader :=
          ⟨commandId, job.id, publisher, job.enqueuedSeq, hpos, job.enqueuedSeqRange, .pending, 0,
            none, 0, none, none, none, none, none, none, now, now⟩
        .ok (commands ++ [command], command)
  else .error "telegram_publisher_dispatch_sequence_invalid"

def claimable (now : Int) (command : Command config.reader) : Bool :=
  command.state ∈ [DispatchState.pending, .retryDue, .sent] ∧ command.nextRetryAt.all (· ≤ now) ∧
    command.leaseUntil.all (· ≤ now)

def Command.claimed {reader : Reader} (leaseTime now : Int) (command : Command reader) :
    Command reader :=
  { command with
    leaseToken := command.leaseToken + 1, leaseUntil := some (now + leaseTime)
    attemptCount := command.attemptCount + 1, nextRetryAt := none, updatedAt := now }

/-- `claim_next_telegram_publisher_dispatch_command` (line 247) for a positive lease; rows are in
the order of their ids, and locked ones are skipped. -/
def claimNext (commands : List (Command config.reader)) (locked : List String)
    (leaseTime now : Int) : Option (List (Command config.reader) × Command config.reader) :=
  (commands.find? fun command => command.key ∉ locked ∧ claimable now command).map fun command =>
    (setRow Command.key command.key (Command.claimed leaseTime now) commands,
      command.claimed leaseTime now)

/-- The answer of the gateway: what it says when to try again, or its error. -/
inductive GatewayResult where
  | ok
  | failed (retryAfter : Option Int) (error : String)

/-- The row after the answer (line 328). -/
def Command.answered {reader : Reader} (result : GatewayResult) (retryAfter ackTimeout now : Int)
    (command : Command reader) : Command reader :=
  match result with
  | .ok =>
    { command with
      leaseUntil := none, state := .sent, sentAt := some (command.sentAt.getD now)
      nextRetryAt := some (now + max 100000 ackTimeout), lastErrorClass := none, updatedAt := now }
  | .failed wait error =>
    { command with
      leaseUntil := none, state := .retryDue
      nextRetryAt := some (now + max 100000 (wait.getD retryAfter))
      lastErrorClass := some (pyTake 120 (if error = "" then "telegram_b2b_send_failed" else error))
      updatedAt := now }

/-- `record_telegram_publisher_dispatch_result` (line 305). -/
def recordResult (commands : List (Command config.reader)) (commandId : String) (leaseToken : Nat)
    (result : GatewayResult) (retryAfter ackTimeout now : Int) :
    List (Command config.reader) × Bool :=
  match getRow Command.key commandId commands with
  | none => (commands, false)
  | some command =>
    if command.leaseToken ≠ leaseToken then (commands, false)
    else if command.state = .acknowledged then (commands, true)
    else (setRow Command.key commandId (Command.answered result retryAfter ackTimeout now) commands,
      true)

def Command.envelope (config : Config) (kind : MessageType) (ackSentAt : Option Int)
    (command : Command config.reader) : Envelope :=
  ⟨kind, command.commandId.text, command.sequence, config.calendar command.createdAt,
    ackSentAt.map config.calendar⟩

/-- `render_telegram_publisher_dispatch` (line 232). -/
def renderDispatch (command : Command config.reader) : Except String String :=
  renderEnvelope config.reader (command.envelope config .dispatch none)

def renderAck (command : Command config.reader) (now : Int) : Except String String :=
  renderEnvelope config.reader (command.envelope config .ack (some now))

def Command.acknowledge {reader : Reader} (sequence now : Int) (command : Command reader) :
    Command reader :=
  { command with
    state := .acknowledged, acknowledgedAt := some now, receiptSequence := some sequence
    receiptReceivedAt := some now, leaseUntil := none, nextRetryAt := none, updatedAt := now }

/-- Line 94. -/
def positiveInt (value : Int) (reason : String) : Except String Int :=
  if 0 < value then .ok value else .error reason

/-- The envelope and the command of a text that is received. -/
def receivedCommand (commands : List (Command config.reader)) (kind : MessageType)
    (kindError text : String) : Except String (Envelope × Command config.reader) :=
  match parseEnvelope config.reader text with
  | .error _ => .error "telegram_b2b_malformed_envelope"
  | .ok envelope =>
    if envelope.messageType ≠ kind then .error kindError
    else match getRow Command.key envelope.commandId commands with
    | none => .error "telegram_b2b_command_not_found"
    | some command => .ok (envelope, command)

/-- `accept_telegram_publisher_dispatch` (line 355). -/
def acceptDispatch (commands : List (Command config.reader)) (publisher : Lane)
    (sender : Int) (text : String) (now : Int) :
    Except String (List (Command config.reader) × String) := do
  let sender ← positiveInt sender "telegram_b2b_sender_invalid"
  let primary ← positiveInt config.primaryBotId "telegram_b2b_primary_sender_invalid"
  if sender ≠ primary then .error "telegram_b2b_sender_not_allowlisted" else
  let (envelope, command) ←
    receivedCommand commands .dispatch "telegram_b2b_dispatch_type_required" text
  if command.publisher ≠ publisher then .error "telegram_b2b_command_not_assigned"
  else if command.sequence ≠ envelope.sequence then .error "telegram_b2b_command_stale"
  else if command.state = .failed ∨ command.state = .superseded then
    .error "telegram_b2b_command_stale"
  else
    let text ← renderAck command now
    pure (if command.state = .acknowledged then commands else
      setRow Command.key command.key (Command.acknowledge envelope.sequence now) commands, text)

/-- `accept_telegram_publisher_acknowledgement` (line 424). -/
def acceptAcknowledgement (commands : List (Command config.reader)) (sender : Int) (text : String)
    (now : Int) : Except String (List (Command config.reader)) := do
  let (envelope, command) ← receivedCommand commands .ack "telegram_b2b_ack_type_required" text
  let expected ← positiveInt (config.publisherBotIds command.publisher)
    "telegram_b2b_publisher_sender_invalid"
  let sender ← positiveInt sender "telegram_b2b_sender_invalid"
  if sender ≠ expected then .error "telegram_b2b_ack_sender_mismatch"
  else if command.sequence ≠ envelope.sequence then .error "telegram_b2b_command_stale"
  else if command.state = .acknowledged then .ok commands
  else if command.state = .failed ∨ command.state = .superseded then
    .error "telegram_b2b_command_stale"
  else .ok (setRow Command.key command.key (Command.acknowledge envelope.sequence now) commands)

/-- The transactions, in any order and with any texts, senders and tokens. -/
inductive Op (config : Config) where
  | create (job : Job) (publisher : Lane) (commandId : CommandId config.reader) (now : Int)
  | claim (locked : List String) (leaseTime now : Int)
  | record (commandId : String) (leaseToken : Nat) (result : GatewayResult)
    (retryAfter ackTimeout now : Int)
  | receiveDispatch (publisher : Lane) (sender : Int) (text : String) (now : Int)
  | receiveAck (sender : Int) (text : String) (now : Int)

/-- The rows after an operation, which leaves them where it raises. -/
def step (commands : List (Command config.reader)) : Op config → List (Command config.reader)
  | .create job publisher commandId now =>
    match getOrCreateCommand commands job publisher commandId now with
    | .ok (next, _) => next
    | .error _ => commands
  | .claim locked leaseTime now =>
    match claimNext commands locked leaseTime now with
    | some (next, _) => next
    | none => commands
  | .record commandId leaseToken result retryAfter ackTimeout now =>
    (recordResult commands commandId leaseToken result retryAfter ackTimeout now).1
  | .receiveDispatch publisher sender text now =>
    match acceptDispatch commands publisher sender text now with
    | .ok (next, _) => next
    | .error _ => commands
  | .receiveAck sender text now =>
    match acceptAcknowledgement commands sender text now with
    | .ok next => next
    | .error _ => commands

theorem length_isoformat_le (time : DateTime) : time.isoformat.length ≤ 32 := by
  simp only [DateTime.isoformat, Date.isoformat, List.length_append, List.length_cons,
    length_padDigits]
  split <;> simp [length_padDigits]

theorem length_joinFields_le {envelope : Envelope} {commandId : String} {sequence : Nat}
    (hid : commandId.length = 36) (hsequence : sequence < 2 ^ 63) :
    (joinFields (envelope.fields commandId sequence)).length ≤ 512 := by
  have hdigits : (Nat.toDigits 10 sequence).length ≤ 19 :=
    (Nat.length_toDigits_le_iff (by decide) (by decide)).mpr (lt_trans hsequence (by decide))
  have htime : ∀ time, (renderUtcTimestamp time).length ≤ 33 := by
    intro time
    have hlength := length_isoformat_le time
    simp only [renderUtcTimestamp, List.length_append, List.length_take, List.length_singleton]
    omega
  have hkind : envelope.messageType.value.toList.length ≤ 8 := by
    cases envelope.messageType <;> decide
  have hfirst := htime envelope.enqueuedAt
  rw [← String.length_toList] at hid
  rw [joinFields, String.length_ofList]
  cases hack : envelope.ackSentAt with
  | none =>
    simp [Envelope.fields, hack, List.intercalate]
    omega
  | some ackSentAt =>
    have hlast := htime ackSentAt
    simp [Envelope.fields, hack, List.intercalate]
    omega

/-- What is written for a command is read back. -/
theorem parse_of_render (command : Command config.reader) {ackSentAt : Option Int}
    (h : renderEnvelope config.reader (command.envelope config kind ackSentAt) = .ok text) :
    parseEnvelope config.reader text = .ok (command.envelope config kind ackSentAt) := by
  have hstrip : pyStrip command.commandId.text = command.commandId.text :=
    (normalizedCommandId_eq_ok.mp command.commandId.normalized).1
  have hlength : text.length ≤ 512 := by
    obtain ⟨-, -, -, rfl⟩ := renderEnvelope_eq_ok h
    refine length_joinFields_le ?_ ?_
    · exact (congrArg String.length hstrip).trans command.commandId.length
    · exact command.sequenceRange
  have hread := parseEnvelope_of_render h hlength
  rw [hread]
  exact congrArg (fun commandId => Except.ok (Envelope.mk _ commandId _ _ _)) hstrip

/-- A row and a later version of it: a row that is acknowledged stands. -/
structure Later {reader : Reader} (old new : Command reader) : Prop where
  commandId : new.commandId = old.commandId
  jobId : new.jobId = old.jobId
  publisher : new.publisher = old.publisher
  sequence : new.sequence = old.sequence
  createdAt : new.createdAt = old.createdAt
  token : old.leaseToken ≤ new.leaseToken
  allowed : isAllowedTransition old.state new.state = true
  stands : old.state = .acknowledged → new = old

theorem isAllowedTransition_refl (state : DispatchState) :
    isAllowedTransition state state = true := by
  simp [isAllowedTransition]

theorem isAllowedTransition_trans {first second third : DispatchState}
    (h : isAllowedTransition first second = true) (h' : isAllowedTransition second third = true) :
    isAllowedTransition first third = true := by
  cases first <;> cases second <;> cases third <;> revert h h' <;> decide

theorem Later.refl (command : Command reader) : Later command command :=
  ⟨rfl, rfl, rfl, rfl, rfl, le_rfl, isAllowedTransition_refl _, fun _ => rfl⟩

theorem Later.trans {first second third : Command reader} (h : Later first second)
    (h' : Later second third) : Later first third where
  commandId := h'.commandId.trans h.commandId
  jobId := h'.jobId.trans h.jobId
  publisher := h'.publisher.trans h.publisher
  sequence := h'.sequence.trans h.sequence
  createdAt := h'.createdAt.trans h.createdAt
  token := h.token.trans h'.token
  allowed := isAllowedTransition_trans h.allowed h'.allowed
  stands := fun hstate => by
    have hsame := h.stands hstate
    rw [h'.stands (hsame ▸ hstate), hsame]

theorem Later.envelope {old new : Command config.reader} (h : Later old new) (kind : MessageType)
    (ackSentAt : Option Int) :
    new.envelope config kind ackSentAt = old.envelope config kind ackSentAt := by
  simp only [Command.envelope, h.commandId, h.sequence, h.createdAt]

/-- What the rows keep: none ends but by its acknowledgement, which settles it. -/
structure Sound {reader : Reader} (command : Command reader) : Prop where
  live : command.state ≠ .failed ∧ command.state ≠ .superseded
  settled : command.state = .acknowledged → command.acknowledgedAt.isSome ∧
    command.receiptSequence = some (command.sequence : Int) ∧ command.leaseUntil = none ∧
    command.nextRetryAt = none

structure Inv (commands : List (Command config.reader)) : Prop where
  keys : (commands.map Command.key).Nodup
  jobs : (commands.map Command.jobId).Nodup
  rows : ∀ command ∈ commands, Sound command

/-- The text is the command's envelope, from the primary bot to its publisher or from that
publisher. -/
def Op.Names (command : Command config.reader) : Op config → Prop
  | .receiveDispatch publisher sender text _ => sender = config.primaryBotId ∧
      command.publisher = publisher ∧ ∃ envelope, parseEnvelope config.reader text = .ok envelope ∧
        envelope.messageType = .dispatch ∧ envelope.commandId = command.key ∧
        envelope.sequence = command.sequence
  | .receiveAck sender text _ => sender = config.publisherBotIds command.publisher ∧
      ∃ envelope, parseEnvelope config.reader text = .ok envelope ∧
        envelope.messageType = .ack ∧ envelope.commandId = command.key ∧
        envelope.sequence = command.sequence
  | _ => False

/-- Every row goes on to a later one, and is only acknowledged by a text that names it. -/
structure Advances (commands : List (Command config.reader)) (op : Op config)
    (next : List (Command config.reader)) : Prop where
  inv : Inv next
  rows : ∀ old ∈ commands, ∃ new ∈ next, Later old new
  named : ∀ command ∈ next, command.state = .acknowledged → command ∈ commands ∨ op.Names command

variable {commands next : List (Command config.reader)} {op : Op config}

theorem Advances.refl (h : Inv commands) : Advances commands op commands :=
  ⟨h, fun old hold => ⟨old, hold, .refl old⟩, fun _ hcommand _ => .inl hcommand⟩

/-- A write to one row that leaves what names it. -/
theorem Advances.write (h : Inv commands)
    (hmem : command ∈ commands) (write : Command config.reader → Command config.reader)
    (hkey : ∀ row, (write row).key = row.key) (hjob : ∀ row, (write row).jobId = row.jobId)
    (hlater : Later command (write command)) (hsound : Sound (write command))
    (hnamed : (write command).state = .acknowledged → op.Names (write command)) :
    Advances commands op (setRow Command.key command.key write commands) := by
  have hrows : ∀ row ∈ setRow Command.key command.key write commands,
      row ∈ commands ∨ row = write command := by
    intro row hrow
    rcases mem_setRow.mp hrow with ⟨hold, -⟩ | ⟨old, hold, hsame, rfl⟩
    · exact .inl hold
    · exact .inr (congrArg write (List.inj_on_of_nodup_map h.keys hold hmem hsame))
  refine ⟨⟨?_, ?_, ?_⟩, ?_, ?_⟩
  · rw [map_id_setRow fun row hsame => (hkey row).trans hsame]
    exact h.keys
  · have hjobs : (setRow Command.key command.key write commands).map Command.jobId =
        commands.map Command.jobId := by
      rw [setRow, List.map_map]
      refine List.map_congr_left fun row _ => ?_
      rw [Function.comp_apply]
      split
      · exact hjob row
      · rfl
    exact hjobs ▸ h.jobs
  · intro row hrow
    rcases hrows row hrow with hold | rfl
    · exact h.rows row hold
    · exact hsound
  · intro old hold
    by_cases hsame : old.key = command.key
    · obtain rfl := List.inj_on_of_nodup_map h.keys hold hmem hsame
      exact ⟨_, mem_setRow.mpr (.inr ⟨old, hold, rfl, rfl⟩), hlater⟩
    · exact ⟨old, mem_setRow.mpr (.inl ⟨hold, hsame⟩), .refl old⟩
  · intro row hrow hstate
    rcases hrows row hrow with hold | rfl
    · exact .inl hold
    · exact .inr (hnamed hstate)

/-! ## Each operation -/

theorem create_advances (h : Inv commands) {job : Job} {commandId : CommandId config.reader}
    (hcreate : getOrCreateCommand commands job publisher commandId now = .ok (next, command)) :
    Advances commands op next := by
  unfold getOrCreateCommand at hcreate
  split at hcreate
  · cases hcreate
  split at hcreate
  · cases hcreate
  split at hcreate
  · split at hcreate
    · split at hcreate <;> cases hcreate
      exact .refl h
    · rename_i hjob
      split at hcreate <;> cases hcreate
      rename_i hkey
      have hfree := getRow_eq_none.mp (Option.not_isSome_iff_eq_none.mp hkey)
      refine ⟨⟨nodup_map_append_singleton h.keys hfree,
        nodup_map_append_singleton h.jobs (getRow_eq_none.mp hjob), ?_⟩,
        fun old hold => ⟨old, List.mem_append_left _ hold, .refl old⟩, ?_⟩
      · intro row hrow
        rcases List.mem_append.mp hrow with hold | hnew
        · exact h.rows row hold
        · rw [List.mem_singleton.mp hnew]
          exact ⟨by simp, by simp⟩
      · intro row hrow hstate
        refine (List.mem_append.mp hrow).imp id fun hnew => ?_
        rw [List.mem_singleton.mp hnew] at hstate
        cases hstate
  · cases hcreate

theorem claim_advances (h : Inv commands) {locked : List String} {leaseTime : Int}
    (hclaim : claimNext commands locked leaseTime now = some (next, command)) :
    Advances commands op next := by
  obtain ⟨row, hfound, hresult⟩ := Option.map_eq_some_iff.mp hclaim
  cases hresult
  have hmem := List.mem_of_find?_eq_some hfound
  have hopen : row.state ≠ .acknowledged := by
    intro hstate
    have hclaimable := List.find?_some hfound
    simp [claimable, hstate] at hclaimable
  exact .write h hmem _ (fun _ => rfl) (fun _ => rfl)
    ⟨rfl, rfl, rfl, rfl, rfl, Nat.le_succ _, isAllowedTransition_refl _, fun hstate =>
      absurd hstate hopen⟩
    ⟨(h.rows row hmem).live, fun hstate => absurd hstate hopen⟩ fun hstate => absurd hstate hopen

theorem record_advances (h : Inv commands) (commandId : String) (leaseToken : Nat)
    (result : GatewayResult) (retryAfter ackTimeout now : Int) :
    Advances commands op
      (recordResult commands commandId leaseToken result retryAfter ackTimeout now).1 := by
  unfold recordResult
  cases hfound : getRow Command.key commandId commands with
  | none => exact .refl h
  | some command =>
    obtain ⟨hmem, rfl⟩ := getRow_eq_some hfound
    dsimp only
    split_ifs with htoken hstate
    · exact .refl h
    · exact .refl h
    · have hlive := (h.rows command hmem).live
      have hallowed : ∀ target, target = .sent ∨ target = .retryDue →
          isAllowedTransition command.state target = true := by
        intro target htarget
        rcases htarget with rfl | rfl <;> cases hold : command.state <;>
          simp_all [isAllowedTransition]
      refine .write h hmem _ (fun row => ?_) (fun row => ?_) ?_ ?_ ?_
      · cases result <;> rfl
      · cases result <;> rfl
      · cases result with
        | ok => exact ⟨rfl, rfl, rfl, rfl, rfl, le_rfl, hallowed _ (.inl rfl),
            fun hacknowledged => absurd hacknowledged hstate⟩
        | failed wait error => exact ⟨rfl, rfl, rfl, rfl, rfl, le_rfl, hallowed _ (.inr rfl),
            fun hacknowledged => absurd hacknowledged hstate⟩
      · cases result <;> exact ⟨by simp [Command.answered], by simp [Command.answered]⟩
      · cases result <;> simp [Command.answered]

theorem later_acknowledge (h : Sound command)
    (hstate : command.state ≠ .acknowledged) (sequence now : Int) :
    Later command (command.acknowledge sequence now) := by
  have hlive := h.live
  refine ⟨rfl, rfl, rfl, rfl, rfl, le_rfl, ?_, fun hacknowledged => absurd hacknowledged hstate⟩
  rw [Command.acknowledge]
  cases hold : command.state <;> simp_all [isAllowedTransition]

theorem acknowledge_advances (h : Inv commands)
    (hmem : command ∈ commands) (hstate : command.state ≠ .acknowledged) {sequence : Int}
    (now : Int) (hsequence : (command.sequence : Int) = sequence)
    (hnamed : op.Names (command.acknowledge sequence now)) :
    Advances commands op
      (setRow Command.key command.key (Command.acknowledge sequence now) commands) :=
  .write h hmem _ (fun _ => rfl) (fun _ => rfl)
    (later_acknowledge (h.rows command hmem) hstate sequence now)
    ⟨by simp [Command.acknowledge], fun _ => ⟨rfl, congrArg some hsequence.symm, rfl, rfl⟩⟩
    fun _ => hnamed

theorem receivedCommand_eq_ok {kindError : String} {envelope : Envelope}
    (h : receivedCommand commands kind kindError text = .ok (envelope, command)) :
    parseEnvelope config.reader text = .ok envelope ∧ envelope.messageType = kind ∧
      command ∈ commands ∧ command.key = envelope.commandId := by
  unfold receivedCommand at h
  split at h
  · cases h
  · split_ifs at h with hkind
    split at h
    · cases h
    · rename_i hfound
      cases h
      exact ⟨‹_›, not_not.mp hkind, getRow_eq_some hfound⟩

theorem positiveInt_eq_ok {value result : Int} {reason : String}
    (h : positiveInt value reason = .ok result) : result = value := by
  unfold positiveInt at h
  split_ifs at h
  cases h
  rfl

theorem dispatch_advances (h : Inv commands) {ack : String}
    (haccept : acceptDispatch commands publisher sender text now = .ok (next, ack)) :
    Advances commands (.receiveDispatch publisher sender text now) next := by
  obtain ⟨_, hsender, haccept⟩ := except_bind_eq_ok.mp haccept
  obtain ⟨_, hprimary, haccept⟩ := except_bind_eq_ok.mp haccept
  rw [positiveInt_eq_ok hsender, positiveInt_eq_ok hprimary] at haccept
  split at haccept
  · cases haccept
  rename_i hsame
  obtain ⟨⟨envelope, command⟩, hreceived, haccept⟩ := except_bind_eq_ok.mp haccept
  obtain ⟨hparse, hkind, hmem, hkey⟩ := receivedCommand_eq_ok hreceived
  dsimp only at haccept
  split at haccept
  · cases haccept
  rename_i hassigned
  split at haccept
  · cases haccept
  rename_i hsequence
  split at haccept
  · cases haccept
  obtain ⟨_, -, haccept⟩ := except_bind_eq_ok.mp haccept
  cases haccept
  split
  · exact .refl h
  · rename_i hstate
    exact acknowledge_advances h hmem hstate now (not_not.mp hsequence)
      ⟨not_not.mp hsame, not_not.mp hassigned, envelope, hparse, hkind, hkey.symm,
        (not_not.mp hsequence).symm⟩

theorem ack_advances (h : Inv commands)
    (haccept : acceptAcknowledgement commands sender text now = .ok next) :
    Advances commands (.receiveAck sender text now) next := by
  obtain ⟨⟨envelope, command⟩, hreceived, haccept⟩ := except_bind_eq_ok.mp haccept
  obtain ⟨hparse, hkind, hmem, hkey⟩ := receivedCommand_eq_ok hreceived
  obtain ⟨_, hexpected, haccept⟩ := except_bind_eq_ok.mp haccept
  obtain ⟨_, hsender, haccept⟩ := except_bind_eq_ok.mp haccept
  rw [positiveInt_eq_ok hexpected, positiveInt_eq_ok hsender] at haccept
  split_ifs at haccept with hsame hsequence hstate hended
  · cases haccept
    exact .refl h
  · cases haccept
    exact acknowledge_advances h hmem hstate now (not_not.mp hsequence)
      ⟨not_not.mp hsame, envelope, hparse, hkind, hkey.symm, (not_not.mp hsequence).symm⟩

theorem step_advances (h : Inv commands) (op : Op config) :
    Advances commands op (step commands op) := by
  unfold step
  split
  · split
    · exact create_advances h ‹_›
    · exact .refl h
  · split
    · exact claim_advances h ‹_›
    · exact .refl h
  · exact record_advances h _ _ _ _ _ _
  · split
    · exact dispatch_advances h ‹_›
    · exact .refl h
  · split
    · exact ack_advances h ‹_›
    · exact .refl h

theorem run_inv (ops : List (Op config)) : Inv (run step [] ops) :=
  run_invariant (I := Inv) (C := fun _ _ _ => True) (fun _ op h _ => (step_advances h op).inv) ops
    [] ⟨List.nodup_nil, List.nodup_nil, by simp⟩ (eachStep_true step ops [])

theorem run_later (h : Inv commands) (ops : List (Op config)) :
    ∀ old ∈ commands, ∃ new ∈ run step commands ops, Later old new := by
  induction ops generalizing commands with
  | nil => exact fun old hold => ⟨old, hold, .refl old⟩
  | cons op ops ih =>
    intro old hold
    obtain ⟨new, hnew, hlater⟩ := (step_advances h op).rows old hold
    obtain ⟨last, hlast, hrest⟩ := ih (step_advances h op).inv new hnew
    exact ⟨last, hlast, hlater.trans hrest⟩

/-- In every run, whatever texts arrive from whom: a job has one command, a command moves along the
allowed transitions and stands once acknowledged, and is only acknowledged by its own envelope from
the primary bot to its publisher, or from that publisher. -/
theorem dispatches_sound (config : Config) (ops more : List (Op config)) :
    let commands := run step [] ops
    ((commands.map Command.jobId).Nodup ∧ (commands.map Command.key).Nodup) ∧
      (∀ command ∈ commands, Sound command) ∧
      (∀ old ∈ commands, ∃ new ∈ run step commands more, Later old new) ∧
      EachStep step (fun commands op next => ∀ command ∈ next, command.state = .acknowledged →
        command ∈ commands ∨ op.Names command) [] ops := by
  intro commands
  have hinv : Inv commands := run_inv ops
  refine ⟨⟨hinv.jobs, hinv.keys⟩, hinv.rows, run_later hinv more, ?_⟩
  exact eachStep_of_invariant (I := Inv) (C := fun _ _ _ => True)
    (fun _ op h _ => (step_advances h op).inv) (fun _ op h _ => (step_advances h op).named) ops []
    ⟨List.nodup_nil, List.nodup_nil, by simp⟩ (eachStep_true step ops [])

theorem render_ok (command : Command config.reader) (kind : MessageType) (ackSentAt : Option Int)
    (h : ackSentAt.isSome = true ↔ kind = .ack) :
    ∃ text, renderEnvelope config.reader (command.envelope config kind ackSentAt) = .ok text := by
  unfold renderEnvelope
  simp only [Command.envelope, command.commandId.normalized, positiveSequence, bind, Except.bind]
  cases kind <;> cases ackSentAt <;> simp [command.sequencePos] at h ⊢

/-- In every reachable state a command's envelope from the primary bot is taken by its publisher,
whose answer is read as the acknowledgement of this command. -/
theorem dispatch_taken (config : Config) (ops : List (Op config)) (now : Int)
    (hprimary : 0 < config.primaryBotId) :
    ∀ command ∈ run step [] ops, ∃ text next ack, renderDispatch command = .ok text ∧
      acceptDispatch (run step [] ops) command.publisher config.primaryBotId text now =
        .ok (next, ack) ∧
      (∃ new ∈ next, Later command new ∧ new.state = .acknowledged) ∧
      parseEnvelope config.reader ack = .ok (command.envelope config .ack (some now)) := by
  intro command hmem
  have hinv := run_inv ops
  have hsound := hinv.rows command hmem
  obtain ⟨text, htext⟩ := render_ok command .dispatch none (by simp)
  obtain ⟨ack, hack⟩ := render_ok command .ack (some now) (by simp)
  have hanswer : renderAck command now = .ok ack := hack
  have hfound : getRow Command.key command.commandId.text (run step [] ops) = some command :=
    getRow_of_mem hinv.keys hmem
  have haccept : acceptDispatch (run step [] ops) command.publisher config.primaryBotId text now =
      .ok (if command.state = .acknowledged then run step [] ops
        else setRow Command.key command.key (Command.acknowledge command.sequence now)
          (run step [] ops), ack) := by
    simp [acceptDispatch, positiveInt, hprimary, receivedCommand, parse_of_render command htext,
      Command.envelope, hfound, hsound.live, hanswer, bind, Except.bind, pure, Except.pure]
  refine ⟨text, _, ack, htext, haccept, ?_, parse_of_render command hack⟩
  by_cases hstate : command.state = .acknowledged
  · rw [if_pos hstate]
    exact ⟨command, hmem, .refl command, hstate⟩
  · rw [if_neg hstate]
    exact ⟨_, mem_setRow.mpr (.inr ⟨command, hmem, rfl, rfl⟩),
      later_acknowledge hsound hstate command.sequence now, rfl⟩

/-- One publisher and the command of a job. -/
def oneLane : Config where
  reader := ⟨fun text => !text.toList.contains '|', DateTime.fromisoformat, fun text => by simp,
    DateTime.fromisoformat_isoformat⟩
  calendar := fun _ =>
    (DateTime.fromisoformat "2026-07-15T10:00:00+00:00".toList).get (by decide)
  primaryBotId := 1
  publisherBotIds := fun lane => lane + 2

def oneCommand : List (Op oneLane) :=
  [.create ⟨1, some 0, 5, by decide⟩ 0
    ⟨"00000000-0000-4000-8000-000000000001", by decide, by decide⟩ 0, .claim [] 10 0]

theorem oneCommand_taken : ∃ command ∈ run step [] oneCommand, ∃ text next ack,
    renderDispatch command = .ok text ∧
      acceptDispatch (run step [] oneCommand) command.publisher 1 text 20 = .ok (next, ack) := by
  have hcommand : ∃ command ∈ run step [] oneCommand, command.attemptCount = 1 := by decide
  obtain ⟨command, hmem, -⟩ := hcommand
  obtain ⟨text, next, ack, htext, haccept, -⟩ :=
    dispatch_taken oneLane oneCommand 20 (by decide) command hmem
  exact ⟨command, hmem, text, next, ack, htext, haccept⟩

end TradingBot.Telegram.Publisher
