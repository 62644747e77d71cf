import Mathlib
import TradingBot.Misc.Calendar
import TradingBot.Misc.PyText
import TradingBot.Misc.Table

/-!
# The envelopes between the primary bot and its publishers

`src/core/telegram_multi_publisher_contract.py`: the text of a dispatch or its acknowledgement, and
its reader. What is written is read back, and what is read can be written.
-/

namespace TradingBot.Telegram.Publisher

open TradingBot.Misc

/-- `TelegramPublisherB2BMessageType` (line 68). -/
inductive MessageType where
  | dispatch
  | ack
  deriving DecidableEq

def MessageType.value : MessageType → String
  | .dispatch => "dispatch"
  | .ack => "ack"

def MessageType.ofValue (text : List Char) : Option MessageType :=
  [.dispatch, .ack].find? fun kind : MessageType => kind.value.toList = text

/-- `UUID` and `datetime.fromisoformat`: no id has the separator in it, and the text of a time, in
UTC, is read back. -/
structure Reader where
  uuid : String → Bool
  fromisoformat : List Char → Option DateTime
  uuid_separator : ∀ text, uuid text = true → '|' ∉ text.toList
  fromisoformat_isoformat : ∀ time, fromisoformat time.isoformat = some time

/-- `TelegramPublisherB2BEnvelope` (line 150). -/
structure Envelope where
  messageType : MessageType
  commandId : String
  sequence : Int
  enqueuedAt : DateTime
  ackSentAt : Option DateTime
  deriving DecidableEq

/-- `_ULID_PATTERN`. -/
def ulid (text : List Char) : Bool :=
  text.length = 26 && text.all "0123456789ABCDEFGHJKMNPQRSTVWXYZ".toList.contains

/-- Line 158. -/
def normalizedCommandId (reader : Reader) (value : String) : Except String String :=
  let commandId := pyStrip value
  if commandId ≠ "" ∧ (reader.uuid commandId = true ∨ ulid commandId.toList = true) then
    .ok commandId
  else .error "telegram_b2b_command_id_invalid"

/-- Line 172 of a number. -/
def positiveSequence (value : Int) : Except String Nat :=
  if 0 < value then .ok value.toNat else .error "telegram_b2b_sequence_invalid"

/-- `_positive_sequence` (line 172) of a text: the number `int` reads, blanks around it at most. -/
def readSequence (value : String) : Except String Int :=
  let sequence := Nat.ofDigitChars 10 (pyStrip value).toList 0
  if 0 < sequence ∧ Nat.toDigits 10 sequence = (pyStrip value).toList then .ok sequence
  else .error "telegram_b2b_sequence_invalid"

/-- Line 204: the offset is the end. -/
def renderUtcTimestamp (time : DateTime) : List Char :=
  time.isoformat.take (time.isoformat.length - 6) ++ ['Z']

/-- Line 194. -/
def parseUtcTimestamp (reader : Reader) (value : List Char) : Except String DateTime :=
  match reader.fromisoformat (value.flatMap fun c => if c = 'Z' then "+00:00".toList else [c]) with
  | some time => .ok time
  | none => .error "telegram_b2b_timestamp_invalid"

def joinFields (fields : List (List Char)) : String := String.ofList (['|'].intercalate fields)

/-- The fields of an envelope; only an acknowledgement has the last one. -/
def Envelope.fields (envelope : Envelope) (commandId : String) (sequence : Nat) :
    List (List Char) :=
  ["tbq1".toList, envelope.messageType.value.toList, commandId.toList, Nat.toDigits 10 sequence,
    renderUtcTimestamp envelope.enqueuedAt] ++ envelope.ackSentAt.toList.map renderUtcTimestamp

/-- `render_telegram_publisher_b2b_envelope` (line 241). -/
def renderEnvelope (reader : Reader) (envelope : Envelope) : Except String String := do
  let commandId ← normalizedCommandId reader envelope.commandId
  let sequence ← positiveSequence envelope.sequence
  match envelope.messageType, envelope.ackSentAt with
  | .dispatch, some _ => .error "telegram_b2b_dispatch_ack_time_forbidden"
  | .ack, none => .error "telegram_b2b_ack_time_missing"
  | _, _ => .ok (joinFields (envelope.fields commandId sequence))

/-- The fields after the type (line 281). -/
def readFields (reader : Reader) (messageType : MessageType) (fields : List (List Char)) :
    Except String Envelope :=
  match messageType, fields with
  | .dispatch, [commandId, sequence, enqueuedAt] => do
    pure ⟨.dispatch, ← normalizedCommandId reader (String.ofList commandId),
      ← readSequence (String.ofList sequence), ← parseUtcTimestamp reader enqueuedAt, none⟩
  | .ack, [commandId, sequence, enqueuedAt, ackSentAt] => do
    pure ⟨.ack, ← normalizedCommandId reader (String.ofList commandId),
      ← readSequence (String.ofList sequence), ← parseUtcTimestamp reader enqueuedAt,
      some (← parseUtcTimestamp reader ackSentAt)⟩
  | _, _ => .error "telegram_b2b_envelope_shape_invalid"

/-- `parse_telegram_publisher_b2b_envelope` (line 269). -/
def parseEnvelope (reader : Reader) (value : String) : Except String Envelope :=
  if value = "" ∨ 512 < value.length then .error "telegram_b2b_envelope_invalid"
  else match value.toList.splitOn '|' with
  | version :: rest =>
    if version ≠ "tbq1".toList then .error "telegram_b2b_protocol_unsupported"
    else match rest with
    | kind :: fields =>
      match MessageType.ofValue kind with
      | some messageType => readFields reader messageType fields
      | none => .error "telegram_b2b_message_type_invalid"
    | [] => .error "telegram_b2b_message_type_invalid"
  | [] => .error "telegram_b2b_protocol_unsupported"

variable {reader : Reader} {value commandId text : String} {envelope : Envelope}

theorem pyStrip_of_digits {text : List Char} (h : ∀ c ∈ text, c.isDigit = true) :
    pyStrip (String.ofList text) = String.ofList text := by
  have hspace : ∀ c ∈ text, isPySpace c = false := by
    intro c hc
    have hrange : 48 ≤ c.toNat ∧ c.toNat ≤ 57 := Char.isDigit_iff_toNat.mp (h c hc)
    simp [isPySpace]
    omega
  have hdrop : ∀ {l : List Char}, (∀ c ∈ l, isPySpace c = false) → l.dropWhile isPySpace = l := by
    intro l hl
    cases l with
    | nil => rfl
    | cons c rest =>
      exact List.dropWhile_cons_of_neg (by simp [hl c List.mem_cons_self])
  rw [pyStrip, String.toList_ofList, hdrop hspace,
    hdrop fun c hc => hspace c (List.mem_reverse.mp hc), List.reverse_reverse]

theorem readSequence_toDigits {n : Nat} (h : 0 < n) :
    readSequence (String.ofList (Nat.toDigits 10 n)) = .ok (n : Int) := by
  have hstrip := pyStrip_of_digits fun c hc =>
    Nat.isDigit_of_mem_toDigits (b := 10) (n := n) (by decide) (by decide) hc
  have hread := Nat.ofDigitChars_toDigits (b := 10) (n := n) (by decide) (by decide)
  simp only [readSequence, hstrip, String.toList_ofList, hread]
  exact if_pos ⟨h, trivial⟩

theorem mem_isoformat {time : DateTime} {c : Char} (h : c ∈ time.isoformat) :
    c.isDigit = true ∨ c ∈ "-T:.+".toList := by
  have hpad : ∀ width n, ∀ c ∈ padDigits width n, c.isDigit = true ∨ c ∈ "-T:.+".toList :=
    fun _ _ _ hc => .inl (isDigit_of_mem_padDigits hc)
  revert c
  simp only [DateTime.isoformat, Date.isoformat, List.forall_mem_append, List.forall_mem_cons]
  refine ⟨⟨⟨⟨⟨⟨⟨hpad _ _, by decide, hpad _ _⟩, by decide, hpad _ _⟩, by decide, hpad _ _⟩,
    by decide, hpad _ _⟩, by decide, hpad _ _⟩, ?_⟩, by simp⟩
  split
  · exact List.forall_mem_nil _
  · exact List.forall_mem_cons.mpr ⟨by decide, hpad _ _⟩

theorem isoformat_eq (time : DateTime) :
    time.isoformat = time.isoformat.take (time.isoformat.length - 6) ++ "+00:00".toList := by
  generalize hbody : time.isoformat.take (time.isoformat.length - 6) = body
  rw [DateTime.isoformat, List.length_append] at hbody
  rw [← hbody, DateTime.isoformat]
  exact congrArg (· ++ _) (List.take_left' rfl).symm

theorem parseUtcTimestamp_render (time : DateTime) :
    parseUtcTimestamp reader (renderUtcTimestamp time) = .ok time := by
  have hbody : ∀ c ∈ time.isoformat.take (time.isoformat.length - 6),
      (if c = 'Z' then "+00:00".toList else [c]) = [c] := by
    intro c hc
    refine if_neg ?_
    rintro rfl
    revert hc
    exact fun hc => absurd (mem_isoformat (List.mem_of_mem_take hc)) (by decide)
  have hback : (renderUtcTimestamp time).flatMap
      (fun c => if c = 'Z' then "+00:00".toList else [c]) = time.isoformat := by
    rw [renderUtcTimestamp, List.flatMap_append, List.flatMap_congr hbody, List.flatMap_singleton']
    exact (isoformat_eq time).symm
  rw [parseUtcTimestamp, hback, reader.fromisoformat_isoformat]

theorem normalizedCommandId_eq_ok :
    normalizedCommandId reader value = .ok commandId ↔ pyStrip value = commandId ∧
      commandId ≠ "" ∧ (reader.uuid commandId = true ∨ ulid commandId.toList = true) := by
  unfold normalizedCommandId
  constructor
  · intro h
    dsimp only at h
    split_ifs at h with hvalid
    cases h
    exact ⟨rfl, hvalid⟩
  · rintro ⟨rfl, hvalid⟩
    exact if_pos hvalid

theorem normalizedCommandId_again (h : normalizedCommandId reader value = .ok commandId) :
    normalizedCommandId reader commandId = .ok commandId := by
  obtain ⟨rfl, hvalid⟩ := normalizedCommandId_eq_ok.mp h
  exact normalizedCommandId_eq_ok.mpr ⟨pyStrip_pyStrip _, hvalid⟩

theorem separator_of_commandId
    (h : normalizedCommandId reader value = .ok commandId) : '|' ∉ commandId.toList := by
  rcases (normalizedCommandId_eq_ok.mp h).2.2 with huuid | hulid
  · exact reader.uuid_separator _ huuid
  · intro hmem
    have hall := List.all_eq_true.mp (Bool.and_eq_true_iff.mp hulid).2 _ hmem
    exact absurd hall (by decide)

theorem separator_of_timestamp (time : DateTime) : '|' ∉ renderUtcTimestamp time := by
  intro hmem
  rcases List.mem_append.mp hmem with hbody | hend
  · exact absurd (mem_isoformat (List.mem_of_mem_take hbody)) (by decide)
  · exact absurd hend (by decide)

theorem splitOn_joinFields {fields : List (List Char)} (hne : fields ≠ [])
    (h : ∀ field ∈ fields, '|' ∉ field) : (joinFields fields).toList.splitOn '|' = fields := by
  rw [joinFields, String.toList_ofList]
  exact List.splitOn_intercalate '|' h hne

/-! ## What is written is read back -/

theorem renderEnvelope_eq_ok (h : renderEnvelope reader envelope = .ok text) :
    normalizedCommandId reader envelope.commandId = .ok (pyStrip envelope.commandId) ∧
      0 < envelope.sequence ∧ (envelope.ackSentAt.isSome ↔ envelope.messageType = .ack) ∧
      text = joinFields (envelope.fields (pyStrip envelope.commandId) envelope.sequence.toNat) := by
  unfold renderEnvelope at h
  cases hid : normalizedCommandId reader envelope.commandId with
  | error code =>
    rw [hid] at h
    cases h
  | ok commandId =>
    obtain ⟨rfl, -⟩ := normalizedCommandId_eq_ok.mp hid
    by_cases hpos : 0 < envelope.sequence
    · simp only [hid, positiveSequence, if_pos hpos, bind, Except.bind] at h
      refine ⟨rfl, hpos, ?_, ?_⟩ <;> cases hkind : envelope.messageType <;>
        cases hack : envelope.ackSentAt <;> simp [hkind, hack] at h ⊢
      all_goals exact h.symm
    · simp only [hid, positiveSequence, if_neg hpos, bind, Except.bind] at h
      cases h

theorem separator_of_fields
    (h : normalizedCommandId reader envelope.commandId = .ok commandId) (sequence : Nat) :
    ∀ field ∈ envelope.fields commandId sequence, '|' ∉ field := by
  simp only [Envelope.fields, List.forall_mem_append, List.forall_mem_cons, List.forall_mem_map]
  refine ⟨⟨by decide, ?_, separator_of_commandId h, ?_, separator_of_timestamp _,
    List.forall_mem_nil _⟩, fun time _ => separator_of_timestamp time⟩
  · cases envelope.messageType <;> decide
  · exact fun hmem => absurd
      (Nat.isDigit_of_mem_toDigits (b := 10) (by decide) (by decide) hmem) (by decide)

theorem readFields_fields
    (hid : normalizedCommandId reader envelope.commandId = .ok (pyStrip envelope.commandId))
    (hpos : 0 < envelope.sequence)
    (hack : envelope.ackSentAt.isSome ↔ envelope.messageType = .ack) :
    readFields reader envelope.messageType ([(pyStrip envelope.commandId).toList,
        Nat.toDigits 10 envelope.sequence.toNat, renderUtcTimestamp envelope.enqueuedAt] ++
          envelope.ackSentAt.toList.map renderUtcTimestamp) =
      .ok { envelope with commandId := pyStrip envelope.commandId } := by
  have hagain := normalizedCommandId_again hid
  have hsequence := readSequence_toDigits (n := envelope.sequence.toNat) (by omega)
  rw [Int.toNat_of_nonneg (by omega)] at hsequence
  obtain ⟨messageType, value, sequence, enqueuedAt, ackSentAt⟩ := envelope
  dsimp only at hagain hsequence hack ⊢
  cases messageType <;> cases ackSentAt <;> simp at hack <;>
    simp only [Option.toList, List.map, List.cons_append, List.nil_append, readFields,
      String.ofList_toList, hagain, hsequence, parseUtcTimestamp_render, bind, Except.bind, pure,
      Except.pure]

/-- A written envelope is read back with its id stripped, unless its text is too long. -/
theorem parseEnvelope_of_render
    (h : renderEnvelope reader envelope = .ok text) (hlength : text.length ≤ 512) :
    parseEnvelope reader text = .ok { envelope with commandId := pyStrip envelope.commandId } := by
  obtain ⟨hid, hpos, hack, rfl⟩ := renderEnvelope_eq_ok h
  have hsplit := splitOn_joinFields (by simp [Envelope.fields])
    (separator_of_fields hid envelope.sequence.toNat)
  have hkind : MessageType.ofValue envelope.messageType.value.toList =
      some envelope.messageType := by
    cases envelope.messageType <;> decide
  have hne : joinFields (envelope.fields (pyStrip envelope.commandId) envelope.sequence.toNat) ≠
      "" := by
    intro hempty
    rw [hempty] at hsplit
    exact absurd (congrArg List.length hsplit) (by simp [Envelope.fields])
  rw [parseEnvelope, if_neg (not_or.mpr ⟨hne, not_lt.mpr hlength⟩), hsplit]
  simp only [Envelope.fields, List.cons_append, ne_eq, not_true_eq_false, if_false, hkind]
  exact readFields_fields hid hpos hack

theorem readFields_eq_ok {messageType : MessageType} {fields : List (List Char)}
    (h : readFields reader messageType fields = .ok envelope) :
    envelope.messageType = messageType ∧ 0 < envelope.sequence ∧
      normalizedCommandId reader envelope.commandId = .ok envelope.commandId ∧
      (envelope.ackSentAt.isSome ↔ messageType = .ack) := by
  have hpos : ∀ {text n}, readSequence text = .ok n → 0 < n := by
    intro text n hread
    rw [readSequence] at hread
    split_ifs at hread with hsequence
    cases hread
    exact_mod_cast hsequence.1
  unfold readFields at h
  split at h
  · obtain ⟨_, hid, h⟩ := except_bind_eq_ok.mp h
    obtain ⟨_, hsequence, h⟩ := except_bind_eq_ok.mp h
    obtain ⟨_, -, h⟩ := except_bind_eq_ok.mp h
    cases h
    exact ⟨rfl, hpos hsequence, normalizedCommandId_again hid, by simp⟩
  · obtain ⟨_, hid, h⟩ := except_bind_eq_ok.mp h
    obtain ⟨_, hsequence, h⟩ := except_bind_eq_ok.mp h
    obtain ⟨_, -, h⟩ := except_bind_eq_ok.mp h
    obtain ⟨_, -, h⟩ := except_bind_eq_ok.mp h
    cases h
    exact ⟨rfl, hpos hsequence, normalizedCommandId_again hid, by simp⟩
  · cases h

/-- What is read can be written, under the id that was read. -/
theorem renderEnvelope_of_parse (h : parseEnvelope reader text = .ok envelope) :
    pyStrip envelope.commandId = envelope.commandId ∧
      ∃ written, renderEnvelope reader envelope = .ok written := by
  unfold parseEnvelope at h
  split_ifs at h
  split at h <;> try cases h
  split_ifs at h
  split at h <;> try cases h
  split at h <;> try cases h
  obtain ⟨rfl, hpos, hid, hack⟩ := readFields_eq_ok h
  refine ⟨(normalizedCommandId_eq_ok.mp hid).1, ?_⟩
  unfold renderEnvelope
  simp only [hid, positiveSequence, if_pos hpos, bind, Except.bind]
  split
  · simp_all
  · simp_all
  · exact ⟨_, rfl⟩

/-- An envelope that can be written is read back, its id stripped, exactly where its text has at
most 512 characters; one that was read can be written. -/
theorem envelope_round_trip (reader : Reader) :
    (∀ envelope text, renderEnvelope reader envelope = .ok text →
      (parseEnvelope reader text = .ok { envelope with commandId := pyStrip envelope.commandId } ↔
        text.length ≤ 512)) ∧
    ∀ text envelope, parseEnvelope reader text = .ok envelope →
      pyStrip envelope.commandId = envelope.commandId ∧
        ∃ written, renderEnvelope reader envelope = .ok written := by
  refine ⟨fun envelope text hrender => ⟨fun hparse => ?_, parseEnvelope_of_render hrender⟩,
    fun text envelope => renderEnvelope_of_parse⟩
  by_contra hlong
  rw [parseEnvelope, if_pos (.inr (not_le.mp hlong))] at hparse
  cases hparse

end TradingBot.Telegram.Publisher
