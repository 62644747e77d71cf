import TradingBot.Telegram.Broadcast

/-!
# Bindings of admin broadcasts

The hand-off binds one due receipt of a campaign that has none bound, while at most one other
campaign has. A report settles or releases the receipt of its job, and no other. So whatever is
reported when, a campaign has at most one bound receipt, at most two campaigns have one, settled
receipts stay settled, and a campaign is completed only with all its receipts.
-/

namespace TradingBot.Telegram

open Misc

theorem terminal_of_statusFrom {statuses : List ReceiptStatus}
    (h : (Campaigns.statusFrom statuses).isFinished = true) :
    ∀ status ∈ statuses, status.isTerminal = true := by
  unfold Campaigns.statusFrom at h
  dsimp only at h
  split at h
  case isTrue hempty =>
    intro status hmem
    rw [List.length_eq_zero_iff.mp hempty] at hmem
    cases hmem
  case isFalse =>
    split at h
    case isTrue => cases h
    case isFalse hcount =>
      have hall : statuses.countP (·.isTerminal) = statuses.length :=
        Nat.le_antisymm List.countP_le_length (Nat.le_of_not_lt hcount)
      intro status hmem
      exact List.countP_eq_length.mp hall status hmem

theorem mem_statusesOf {c : Campaigns} {id : Nat} {receipt : Receipt}
    (hfound : c.receipts.lookup id = some receipt) :
    receipt.status ∈ c.statusesOf receipt.broadcastId := by
  refine List.mem_map.mpr ⟨⟨id, receipt⟩, List.mem_filter.mpr ⟨?_, ?_⟩, rfl⟩
  · exact lookup_eq_some_iff.mp hfound
  · exact decide_eq_true rfl

/-- The bindings are within bounds, a bound receipt is active, a receipt has a campaign, and a
finished campaign only terminal receipts. -/
structure Guarded (c : Campaigns) : Prop where
  once : c.boundCampaigns.Nodup
  atMostTwo : c.boundCampaigns.length ≤ 2
  active : ∀ id receipt, c.receipts.lookup id = some receipt → receipt.queueJobId.isSome = true →
    receipt.status.isActive = true
  referenced : ∀ id receipt, c.receipts.lookup id = some receipt →
    c.broadcasts.lookup receipt.broadcastId ≠ none
  finished : ∀ broadcast row, c.broadcasts.lookup broadcast = some row →
    row.status.isFinished = true → ∀ id receipt, c.receipts.lookup id = some receipt →
      receipt.broadcastId = broadcast → receipt.status.isTerminal = true

theorem not_active_of_terminal {status : ReceiptStatus} (h : status.isTerminal = true) :
    status.isActive = false := by
  cases status <;> first | rfl | cases h

theorem Guarded.unbound {c : Campaigns} (hc : Guarded c) {id : Nat} {receipt : Receipt}
    (hfound : c.receipts.lookup id = some receipt) (hterminal : receipt.status.isTerminal = true) :
    receipt.queueJobId = none := by
  rw [← Option.not_isSome_iff_eq_none]
  intro hsome
  have hactive := hc.active id receipt hfound hsome
  rw [not_active_of_terminal hterminal] at hactive
  cases hactive

theorem guarded_finalizeStatus {c : Campaigns} (hc : Guarded c) (id : Nat) (now : Int) :
    Guarded (c.finalizeStatus id now) := by
  unfold Campaigns.finalizeStatus
  cases hfound : c.broadcasts.lookup id with
  | none => exact hc
  | some broadcast =>
    dsimp only
    split
    · exact hc
    · refine ⟨hc.once, hc.atMostTwo, hc.active, ?_, ?_⟩
      · intro other receipt hother
        rw [lookup_insert]
        split
        · exact Option.some_ne_none _
        · exact hc.referenced other receipt hother
      · intro other row hrow hfinished receiptId receipt hreceipt hbelongs
        rw [lookup_insert] at hrow
        split at hrow
        case isTrue hsame =>
          cases hrow
          have hall := terminal_of_statusFrom hfinished
          refine hall receipt.status ?_
          rw [← hsame, ← hbelongs]
          exact mem_statusesOf hreceipt
        case isFalse => exact hc.finished other row hrow hfinished receiptId receipt hreceipt hbelongs

structure Released (receipt receipt' : Receipt) : Prop where
  broadcastId : receipt'.broadcastId = receipt.broadcastId
  queueJobId : receipt'.queueJobId = none
  status : receipt.status.isTerminal = true → receipt'.status = receipt.status

variable {receipt' : Receipt} {now : Int} {due : DueReceipt}

theorem guarded_setReceipt {c : Campaigns} (hc : Guarded c) {id : Nat} {receipt : Receipt}
    (hfound : c.receipts.lookup id = some receipt) (hreleased : Released receipt receipt') :
    Guarded (c.setReceipt id receipt') := by
  have hbound : (c.setReceipt id receipt').boundCampaigns.Sublist c.boundCampaigns := by
    refine (filter_insert_sublist c.receipts id receipt' _ ?_).map _
    rw [hreleased.queueJobId]
    rfl
  -- a receipt of the new table is the released one or one of the old table
  have hcases : ∀ other row, (c.receipts.insert id receipt').lookup other = some row →
      row = receipt' ∨ c.receipts.lookup other = some row := by
    intro other row hrow
    rw [lookup_insert] at hrow
    split at hrow
    · exact .inl (Option.some.inj hrow).symm
    · exact .inr hrow
  constructor
  case once => exact hc.once.sublist hbound
  case atMostTwo => exact hbound.length_le.trans hc.atMostTwo
  case active =>
    intro other row hrow hsome
    obtain rfl | hold := hcases other row hrow
    · rw [hreleased.queueJobId] at hsome
      cases hsome
    · exact hc.active other row hold hsome
  case referenced =>
    intro other row hrow
    obtain rfl | hold := hcases other row hrow
    · rw [hreleased.broadcastId]
      exact hc.referenced id receipt hfound
    · exact hc.referenced other row hold
  case finished =>
    intro broadcast campaign hcampaign hfinished other row hrow hbelongs
    obtain rfl | hold := hcases other row hrow
    · have hterminal := hc.finished broadcast campaign hcampaign hfinished id receipt hfound
        (hreleased.broadcastId.symm.trans hbelongs)
      rw [hreleased.status hterminal]
      exact hterminal
    · exact hc.finished broadcast campaign hcampaign hfinished other row hold hbelongs

/-! ## The reports of the queue -/

inductive ReportChange (c : Campaigns) : Campaigns → Prop where
  | nothing : ReportChange c c
  | released (id : Nat) (receipt receipt' : Receipt) (hfound : c.receipts.lookup id = some receipt)
      (hreleased : Released receipt receipt') : ReportChange c (c.setReceipt id receipt')
  | settled (id : Nat) (receipt receipt' : Receipt) (broadcast : Nat) (now : Int)
      (hfound : c.receipts.lookup id = some receipt) (hreleased : Released receipt receipt') :
      ReportChange c ((c.setReceipt id receipt').finalizeStatus broadcast now)

section Reports

variable {c c' : Campaigns} {job : BroadcastJob} {id : Nat} {receipt : Receipt}

theorem loadBoundReceipt_ok (h : c.loadBoundReceipt job = .ok (id, receipt)) :
    c.receipts.lookup id = some receipt ∧
      receiptDedupeFromSource job.sourceNaturalId = some receipt.dedupeKey := by
  unfold Campaigns.loadBoundReceipt at h
  cases hdedupe : receiptDedupeFromSource job.sourceNaturalId with
  | none =>
    rw [hdedupe] at h
    cases h
  | some dedupeKey =>
    rw [hdedupe] at h
    dsimp only at h
    cases hentry : c.receipts.entries.find? fun entry => entry.2.dedupeKey = dedupeKey with
    | none =>
      rw [hentry] at h
      cases h
    | some entry =>
      rw [hentry] at h
      cases h
      have hmatch := List.find?_some hentry
      have hkey : entry.2.dedupeKey = dedupeKey := of_decide_eq_true hmatch
      exact ⟨lookup_eq_some_iff.mpr (List.mem_of_find?_eq_some hentry), by rw [hkey]⟩

theorem requireActiveBinding_ok (h : receipt.requireActiveBinding job = .ok ()) :
    receipt.status.isActive = true ∧ receipt.queueJobId = some job.id := by
  unfold Receipt.requireActiveBinding at h
  split_ifs at h with hactive hjob
  exact ⟨hactive, not_not.mp hjob⟩

theorem released_clearBinding (receipt : Receipt) (reason : String) (now : Int) :
    Released receipt (receipt.clearBinding reason now) :=
  ⟨rfl, rfl, fun _ => rfl⟩

theorem released_of_active (hactive : receipt.status.isActive = true)
    (hbroadcast : receipt'.broadcastId = receipt.broadcastId)
    (hqueue : receipt'.queueJobId = none) : Released receipt receipt' := by
  refine ⟨hbroadcast, hqueue, ?_⟩
  intro hterminal
  rw [not_active_of_terminal hterminal] at hactive
  cases hactive

theorem finalizeActiveReceipt_change {target : ReceiptStatus} {reason : String} {now : Int}
    {messageId : Option Int} (hfound : c.receipts.lookup id = some receipt)
    (h : c.finalizeActiveReceipt id receipt job target reason now messageId = .ok c') :
    ReportChange c c' := by
  unfold Campaigns.finalizeActiveReceipt at h
  by_cases hterminal : receipt.status.isTerminal = true
  · rw [if_pos hterminal] at h
    dsimp only at h
    split_ifs at h <;> cases h
    exact .settled id receipt _ _ now hfound (released_clearBinding receipt reason now)
  · rw [if_neg hterminal] at h
    obtain ⟨_, hbinding, h⟩ := except_bind_eq_ok.mp h
    obtain ⟨hactive, -⟩ := requireActiveBinding_ok hbinding
    dsimp only at h
    cases hchat : positiveInt job.chatId with
    | none =>
      rw [hchat] at h
      split_ifs at h
      cases h
    | some chatId =>
      rw [hchat] at h
      split_ifs at h <;> cases h
      exact .settled id receipt _ _ now hfound (released_of_active hactive rfl rfl)

theorem applyFreshness_change {decision : FreshnessDecision} {now : Int}
    (h : c.applyFreshness job decision now = .ok c') : ReportChange c c' := by
  unfold Campaigns.applyFreshness at h
  dsimp only at h
  by_cases hwait : decision.outcome = .waitDependency ∨ decision.outcome = .quarantined
  · rw [if_pos hwait] at h
    cases h
    exact .nothing
  · rw [if_neg hwait] at h
    obtain ⟨_, -, h⟩ := except_bind_eq_ok.mp h
    obtain ⟨⟨id, receipt⟩, hload, h⟩ := except_bind_eq_ok.mp h
    obtain ⟨hfound, -⟩ := loadBoundReceipt_ok hload
    cases houtcome : decision.outcome with
    | reclassify =>
      rw [houtcome] at h
      obtain ⟨_, hbinding, h⟩ := except_bind_eq_ok.mp h
      obtain ⟨hactive, -⟩ := requireActiveBinding_ok hbinding
      cases h
      exact .released id receipt _ hfound (released_of_active hactive rfl rfl)
    | sentNoop =>
      rw [houtcome] at h
      dsimp only at h
      split_ifs at h <;> cases h
      exact .settled id receipt _ _ now hfound (released_clearBinding receipt _ now)
    | superseded =>
      rw [houtcome] at h
      dsimp only at h
      split_ifs at h
      · cases h
        exact .settled id receipt _ _ now hfound (released_clearBinding receipt _ now)
      · cases h
      · exact finalizeActiveReceipt_change hfound h
      · exact finalizeActiveReceipt_change hfound h
    | _ =>
      rw [houtcome] at h
      cases h

theorem applyDeliveryResult_change {decision : Decision} {now : Int}
    (h : c.applyDeliveryResult job decision now = .ok c') : ReportChange c c' := by
  unfold Campaigns.applyDeliveryResult at h
  dsimp only at h
  generalize (if decision.reason = "" then decision.outcome.value else decision.reason) = reason at h
  obtain ⟨_, -, h⟩ := except_bind_eq_ok.mp h
  obtain ⟨⟨id, receipt⟩, hload, h⟩ := except_bind_eq_ok.mp h
  obtain ⟨hfound, -⟩ := loadBoundReceipt_ok hload
  have hheld : ∀ {held : Except String Unit}, (held >>= fun _ => .ok c) = .ok c' →
      ReportChange c c' := by
    intro held hok
    obtain ⟨_, -, hsame⟩ := except_bind_eq_ok.mp hok
    cases hsame
    exact .nothing
  dsimp only at h
  split_ifs at h
  · exact finalizeActiveReceipt_change hfound h
  · exact hheld h
  · exact finalizeActiveReceipt_change hfound h
  · exact finalizeActiveReceipt_change hfound h
  · exact hheld h
  · cases h
    exact .nothing

theorem assertDispatchable_ok {decision : FreshnessDecision}
    (h : c.assertDispatchable job decision = .ok ()) :
    ∃ id receipt, c.receipts.lookup id = some receipt ∧
      receiptDedupeFromSource job.sourceNaturalId = some receipt.dedupeKey ∧
      receipt.status.isActive = true ∧ receipt.queueJobId = some job.id := by
  unfold Campaigns.assertDispatchable at h
  obtain ⟨_, -, h⟩ := except_bind_eq_ok.mp h
  obtain ⟨⟨id, receipt⟩, hload, h⟩ := except_bind_eq_ok.mp h
  obtain ⟨_, hbinding, -⟩ := except_bind_eq_ok.mp h
  obtain ⟨hfound, hdedupe⟩ := loadBoundReceipt_ok hload
  obtain ⟨hactive, hjob⟩ := requireActiveBinding_ok hbinding
  exact ⟨id, receipt, hfound, hdedupe, hactive, hjob⟩

end Reports

theorem guarded_report {c c' : Campaigns} (hc : Guarded c) (h : ReportChange c c') :
    Guarded c' := by
  cases h with
  | nothing => exact hc
  | released _ _ _ hfound hreleased => exact guarded_setReceipt hc hfound hreleased
  | settled _ _ _ broadcast now hfound hreleased =>
    exact guarded_finalizeStatus (guarded_setReceipt hc hfound hreleased) broadcast now

/-! ## The hand-off -/

theorem DueReceipt.before_self (due : DueReceipt) : due.before due = false := by
  simp [DueReceipt.before]

theorem DueReceipt.before_trans (first second third : DueReceipt)
    (h : first.before second = true) (h' : second.before third = true) :
    first.before third = true := by
  simp only [DueReceipt.before, Bool.or_eq_true, Bool.and_eq_true, decide_eq_true_eq] at h h' ⊢
  omega

theorem mem_dueReceipts {c : Campaigns} {excluded : List Nat} :
    due ∈ c.dueReceipts now excluded ↔
      c.receipts.lookup due.id = some due.receipt ∧
        c.broadcasts.lookup due.receipt.broadcastId = some due.broadcast ∧
        due.receipt.isDue now = true ∧ due.receipt.broadcastId ∉ excluded ∧
        due.campaign = due.receipt.broadcastId ∧
        due.turn = due.broadcast.queueLastHandedOffAt.getD due.broadcast.queuedAt := by
  unfold Campaigns.dueReceipts
  rw [List.mem_filterMap]
  constructor
  · rintro ⟨⟨id, receipt⟩, hentry, hdue⟩
    dsimp only at hdue
    cases hbroadcast : c.broadcasts.lookup receipt.broadcastId with
    | none =>
      rw [hbroadcast] at hdue
      cases hdue
    | some broadcast =>
      rw [hbroadcast] at hdue
      dsimp only at hdue
      split_ifs at hdue with hcondition
      cases hdue
      exact ⟨lookup_eq_some_iff.mpr hentry, hbroadcast, hcondition.1, hcondition.2, rfl, rfl⟩
  · rintro ⟨hreceipt, hbroadcast, hdue, hexcluded, hcampaign, hturn⟩
    refine ⟨⟨due.id, due.receipt⟩, lookup_eq_some_iff.mp hreceipt, ?_⟩
    dsimp only
    rw [hbroadcast]
    dsimp only
    rw [if_pos ⟨hdue, hexcluded⟩, ← hturn, ← hcampaign]

structure Taken (c : Campaigns) (due : DueReceipt) (now : Int) : Prop where
  receipt : c.receipts.lookup due.id = some due.receipt
  broadcast : c.broadcasts.lookup due.receipt.broadcastId = some due.broadcast
  isDue : due.receipt.isDue now = true
  free : due.receipt.broadcastId ∉ c.boundCampaigns
  first : ∀ other receipt, c.receipts.lookup other = some receipt →
    receipt.broadcastId = due.receipt.broadcastId → receipt.isDue now = true → due.id ≤ other

theorem taken_of_select {c : Campaigns}
    (h : c.selectNextDueReceipt now c.boundCampaigns = some due) : Taken c due now := by
  obtain ⟨hreceipt, hbroadcast, hdue, hfree, hcampaign, hturn⟩ :=
    mem_dueReceipts.mp (mem_of_firstBy h)
  refine ⟨hreceipt, hbroadcast, hdue, hfree, ?_⟩
  intro other receipt hother hbelongs hotherDue
  -- a receipt of the same campaign has the same turn, so the ids decide
  have hmem : (⟨due.turn, due.campaign, other, receipt, due.broadcast⟩ : DueReceipt) ∈
      c.dueReceipts now c.boundCampaigns := by
    refine mem_dueReceipts.mpr ⟨hother, ?_, hotherDue, ?_, ?_, hturn⟩
    · rw [hbelongs]
      exact hbroadcast
    · rw [hbelongs]
      exact hfree
    · exact hcampaign.trans hbelongs.symm
  have hnot := not_before_of_firstBy DueReceipt.before_self DueReceipt.before_trans h hmem
  simp only [DueReceipt.before, lt_self_iff_false, decide_false, decide_true, Bool.false_or,
    Bool.true_and, decide_eq_false_iff_not, not_lt] at hnot
  exact hnot

inductive HandoffChange (c : Campaigns) (now : Int) : Campaigns → Prop where
  | report {c' : Campaigns} (hreport : ReportChange c c') : HandoffChange c now c'
  | bound (due : DueReceipt) (job : ℕ+) (htaken : Taken c due now)
      (hfew : c.boundCampaigns.length < 2) : HandoffChange c now (c.bind due job now)

theorem isDue_active {receipt : Receipt} (h : receipt.isDue now = true) :
    receipt.status.isActive = true ∧ receipt.queueJobId = none := by
  simp only [Receipt.isDue, Bool.and_eq_true, Option.isNone_iff_eq_none] at h
  exact ⟨h.1.1.1.1.1, h.1.1.1.1.2⟩

theorem handoffNextDue_change (c : Campaigns) (world : HandoffWorld) (now : Int) :
    HandoffChange c now (c.handoffNextDue world now) := by
  unfold Campaigns.handoffNextDue Campaigns.activeBoundBroadcastIds
  split_ifs with hbound
  · dsimp only
    split_ifs with hfull
    · exact .report .nothing
    · cases hselect : c.selectNextDueReceipt now c.boundCampaigns with
      | none => exact .report .nothing
      | some due =>
        have htaken := taken_of_select hselect
        obtain ⟨hactive, hunbound⟩ := isDue_active htaken.isDue
        dsimp only
        cases due.prepare world with
        | error why =>
          exact .report (.settled due.id due.receipt _ _ now htaken.receipt
            (released_of_active hactive rfl rfl))
        | ok request =>
          dsimp only
          split_ifs
          · exact .bound due _ htaken (Nat.lt_of_not_le hfull)
          · exact .report (.released due.id due.receipt _ htaken.receipt
              (released_of_active hactive rfl hunbound))
  · exact .report .nothing

theorem boundCampaigns_bind (c : Campaigns) (due : DueReceipt) (job : ℕ+) (now : Int) :
    ∃ rest, (c.bind due job now).boundCampaigns = due.receipt.broadcastId :: rest ∧
      rest.Sublist c.boundCampaigns := by
  refine ⟨_, ?_, ((List.kerase_sublist due.id c.receipts.entries).filter
    fun entry => entry.2.queueJobId.isSome).map fun entry => entry.2.broadcastId⟩
  unfold Campaigns.boundCampaigns Campaigns.bind Campaigns.setReceipt
  dsimp only
  rw [AList.entries_insert, List.filter_cons_of_pos rfl]
  rfl

theorem guarded_bind {c : Campaigns} (hc : Guarded c)
    (htaken : Taken c due now) (hfew : c.boundCampaigns.length < 2) (job : ℕ+) :
    Guarded (c.bind due job now) := by
  obtain ⟨hactive, -⟩ := isDue_active htaken.isDue
  obtain ⟨rest, hbound, hrest⟩ := boundCampaigns_bind c due job now
  have hcases : ∀ other row, (c.bind due job now).receipts.lookup other = some row →
      (row.broadcastId = due.receipt.broadcastId ∧ row.status = due.receipt.status) ∨
        c.receipts.lookup other = some row := by
    intro other row hrow
    unfold Campaigns.bind Campaigns.setReceipt at hrow
    dsimp only at hrow
    rw [lookup_insert] at hrow
    split at hrow
    · cases hrow
      exact .inl ⟨rfl, rfl⟩
    · exact .inr hrow
  -- the campaign is not finished, as it has an active receipt
  have hopen : due.broadcast.status.isFinished = false := by
    rw [Bool.eq_false_iff]
    intro hfinished
    have hterminal := hc.finished _ _ htaken.broadcast hfinished _ _ htaken.receipt rfl
    rw [not_active_of_terminal hterminal] at hactive
    cases hactive
  constructor
  case once =>
    rw [hbound]
    exact List.nodup_cons.mpr ⟨fun hmem => htaken.free (hrest.subset hmem), hc.once.sublist hrest⟩
  case atMostTwo =>
    rw [hbound, List.length_cons]
    have hlength := hrest.length_le
    omega
  case active =>
    intro other row hrow hsome
    obtain ⟨-, hstatus⟩ | hold := hcases other row hrow
    · rw [hstatus]
      exact hactive
    · exact hc.active other row hold hsome
  case referenced =>
    intro other row hrow
    unfold Campaigns.bind
    dsimp only
    rw [lookup_insert]
    split
    · exact Option.some_ne_none _
    · rename_i hne
      obtain ⟨hbelongs, -⟩ | hold := hcases other row hrow
      · exact absurd hbelongs hne
      · exact hc.referenced other row hold
  case finished =>
    intro broadcast campaign hcampaign hfinished other row hrow hbelongs
    unfold Campaigns.bind at hcampaign
    dsimp only at hcampaign
    rw [lookup_insert] at hcampaign
    split at hcampaign
    · cases hcampaign
      dsimp only at hfinished
      split at hfinished
      · cases hfinished
      · rw [hopen] at hfinished
        cases hfinished
    · rename_i hne
      obtain ⟨hsame, -⟩ | hold := hcases other row hrow
      · exact absurd (hbelongs.symm.trans hsame) hne
      · exact hc.finished broadcast campaign hcampaign hfinished other row hold hbelongs

theorem guarded_handoff {c c' : Campaigns} (hc : Guarded c)
    (h : HandoffChange c now c') : Guarded c' := by
  cases h with
  | report hreport => exact guarded_report hc hreport
  | bound _ job htaken hfew => exact guarded_bind hc htaken hfew job

/-! ## New campaigns -/

theorem guarded_addReceipt {c : Campaigns} (hc : Guarded c) {id : Nat} {receipt : Receipt}
    {campaign : Broadcast} (hqueue : receipt.queueJobId = none)
    (hcampaign : c.broadcasts.lookup receipt.broadcastId = some campaign)
    (hopen : campaign.status.isFinished = false) : Guarded (c.setReceipt id receipt) := by
  have hbound : (c.setReceipt id receipt).boundCampaigns.Sublist c.boundCampaigns := by
    refine (filter_insert_sublist c.receipts id receipt _ ?_).map _
    rw [hqueue]
    rfl
  have hcases : ∀ other row, (c.receipts.insert id receipt).lookup other = some row →
      row = receipt ∨ c.receipts.lookup other = some row := by
    intro other row hrow
    rw [lookup_insert] at hrow
    split at hrow
    · exact .inl (Option.some.inj hrow).symm
    · exact .inr hrow
  constructor
  case once => exact hc.once.sublist hbound
  case atMostTwo => exact hbound.length_le.trans hc.atMostTwo
  case active =>
    intro other row hrow hsome
    obtain rfl | hold := hcases other row hrow
    · rw [hqueue] at hsome
      cases hsome
    · exact hc.active other row hold hsome
  case referenced =>
    intro other row hrow
    obtain rfl | hold := hcases other row hrow
    · intro hnone
      cases hcampaign.symm.trans hnone
    · exact hc.referenced other row hold
  case finished =>
    intro broadcast row hrow hfinished other added hadded hbelongs
    obtain rfl | hold := hcases other added hadded
    · have hsame : campaign = row := by
        rw [← hbelongs] at hrow
        exact Option.some.inj (hcampaign.symm.trans hrow)
      rw [← hsame, hopen] at hfinished
      cases hfinished
    · exact hc.finished broadcast row hrow hfinished other added hold hbelongs

theorem guarded_addBroadcast {c : Campaigns} (hc : Guarded c) {id : Nat} (broadcast : Broadcast)
    (hfresh : c.broadcasts.lookup id = none) :
    Guarded { c with broadcasts := c.broadcasts.insert id broadcast } := by
  refine ⟨hc.once, hc.atMostTwo, hc.active, ?_, ?_⟩
  · intro other row hrow
    rw [lookup_insert]
    split
    · exact Option.some_ne_none _
    · exact hc.referenced other row hrow
  · intro other campaign hcampaign hfinished receiptId receipt hreceipt hbelongs
    rw [lookup_insert] at hcampaign
    split at hcampaign
    case isTrue hsame =>
      rw [hsame] at hbelongs
      exact absurd (hbelongs ▸ hfresh) (hc.referenced receiptId receipt hreceipt)
    case isFalse =>
      exact hc.finished other campaign hcampaign hfinished receiptId receipt hreceipt hbelongs

theorem addReceipts_spec (c : Campaigns) (id : Nat) :
    ∀ (recipients : List (Nat × Nat × Int)) (c' : Campaigns), Guarded c' →
      (recipients ≠ [] → ∃ campaign, c'.broadcasts.lookup id = some campaign ∧
        campaign.status.isFinished = false) →
      (∀ recipient ∈ recipients, c.receipts.lookup recipient.1 = none) →
      (∀ other receipt, c.receipts.lookup other = some receipt →
        c'.receipts.lookup other = some receipt) →
      Guarded (recipients.foldl (Campaigns.addReceipt id) c') ∧
        (∀ other receipt, c.receipts.lookup other = some receipt →
          (recipients.foldl (Campaigns.addReceipt id) c').receipts.lookup other = some receipt) ∧
        ∀ other receipt,
          (recipients.foldl (Campaigns.addReceipt id) c').receipts.lookup other = some receipt →
          receipt.queueJobId ≠ none → c'.receipts.lookup other = some receipt := by
  intro recipients
  induction recipients with
  | nil => intro c' hc' _ _ hkept; exact ⟨hc', hkept, fun _ _ h _ => h⟩
  | cons recipient recipients ih =>
    intro c' hc' hcampaign hnew hkept
    obtain ⟨campaign, hfound, hopen⟩ := hcampaign (List.cons_ne_nil _ _)
    rw [List.foldl_cons]
    have hkept' : ∀ other receipt, c.receipts.lookup other = some receipt →
        (c'.addReceipt id recipient).receipts.lookup other = some receipt := by
      intro other receipt hother
      have hne : other ≠ recipient.1 := by
        rintro rfl
        rw [hnew recipient List.mem_cons_self] at hother
        cases hother
      unfold Campaigns.addReceipt Campaigns.setReceipt
      dsimp only
      rw [lookup_insert, if_neg hne]
      exact hkept other receipt hother
    obtain ⟨hguarded, hold, hbound⟩ := ih _ (guarded_addReceipt hc' rfl hfound hopen)
      (fun _ => ⟨campaign, hfound, hopen⟩)
      (fun other hmem => hnew other (List.mem_cons_of_mem _ hmem)) hkept'
    refine ⟨hguarded, hold, ?_⟩
    intro other receipt hother hsome
    have hadded := hbound other receipt hother hsome
    unfold Campaigns.setReceipt at hadded
    dsimp only at hadded
    rw [lookup_insert] at hadded
    split at hadded
    · cases hadded
      exact absurd rfl hsome
    · exact hadded

theorem create_spec {c : Campaigns} (hc : Guarded c) (id : Nat) (content : String)
    (recipients : List (Nat × Nat × Int)) (now : Int) :
    Guarded (c.create id content recipients now) ∧
      (∀ other receipt, c.receipts.lookup other = some receipt →
        (c.create id content recipients now).receipts.lookup other = some receipt) ∧
      ∀ other receipt,
        (c.create id content recipients now).receipts.lookup other = some receipt →
        receipt.queueJobId ≠ none → c.receipts.lookup other = some receipt := by
  unfold Campaigns.create
  cases validateBroadcastContent content with
  | error error => exact ⟨hc, fun _ _ h => h, fun _ _ h _ => h⟩
  | ok cleaned =>
    dsimp only
    by_cases hfresh : c.broadcasts.lookup id = none ∧
        ∀ recipient ∈ recipients, c.receipts.lookup recipient.1 = none
    · rw [if_pos hfresh]
      refine addReceipts_spec c id recipients _ (guarded_addBroadcast hc _ hfresh.1) ?_ hfresh.2
        fun _ _ h => h
      intro hsome
      refine ⟨_, AList.lookup_insert c.broadcasts, ?_⟩
      dsimp only
      rw [if_neg hsome]
      rfl
    · rw [if_neg hfresh]
      exact ⟨hc, fun _ _ h => h, fun _ _ h _ => h⟩

/-! ## Every run -/

/-- A terminal receipt stays and is not bound again; what is bound to another job than before was
bound by a hand-off, as the first due receipt of its campaign. -/
structure CampaignStep (c : Campaigns) (command : CampaignCommand) (c' : Campaigns) : Prop where
  terminal : ∀ id receipt, c.receipts.lookup id = some receipt →
    receipt.status.isTerminal = true → ∃ receipt', c'.receipts.lookup id = some receipt' ∧
      receipt'.status = receipt.status ∧ receipt'.queueJobId = none
  handedOff : ∀ id receipt', c'.receipts.lookup id = some receipt' →
    receipt'.queueJobId ≠ none → c.receipts.lookup id = some receipt' ∨
      ∃ world now receipt, command = .handoff world now ∧ c.receipts.lookup id = some receipt ∧
        receipt.isDue now = true ∧ receipt'.broadcastId = receipt.broadcastId ∧
        ∀ other row, c.receipts.lookup other = some row → row.broadcastId = receipt.broadcastId →
          row.isDue now = true → id ≤ other

theorem finalizeStatus_receipts (c : Campaigns) (id : Nat) (now : Int) :
    (c.finalizeStatus id now).receipts = c.receipts := by
  unfold Campaigns.finalizeStatus
  cases c.broadcasts.lookup id with
  | none => rfl
  | some broadcast =>
    dsimp only
    split <;> rfl

theorem campaignStep_released {c c' : Campaigns} (hc : Guarded c) (command : CampaignCommand)
    {id : Nat} {receipt : Receipt} (hfound : c.receipts.lookup id = some receipt)
    (hreleased : Released receipt receipt') (hreceipts : c'.receipts = c.receipts.insert id receipt') :
    CampaignStep c command c' := by
  constructor
  case terminal =>
    intro other row hrow hterminal
    rw [hreceipts, lookup_insert]
    split
    case isTrue hsame =>
      subst hsame
      rw [hfound] at hrow
      cases hrow
      exact ⟨receipt', rfl, hreleased.status hterminal, hreleased.queueJobId⟩
    case isFalse => exact ⟨row, hrow, rfl, hc.unbound hrow hterminal⟩
  case handedOff =>
    intro other row hrow hbound
    rw [hreceipts, lookup_insert] at hrow
    split at hrow
    · cases hrow
      exact absurd hreleased.queueJobId hbound
    · exact .inl hrow

theorem campaignStep_report {c c' : Campaigns} (hc : Guarded c) (command : CampaignCommand)
    (h : ReportChange c c') : CampaignStep c command c' := by
  cases h with
  | nothing =>
    constructor
    case terminal =>
      intro id receipt hfound hterminal
      exact ⟨receipt, hfound, rfl, hc.unbound hfound hterminal⟩
    case handedOff =>
      intro id receipt' hfound _
      exact .inl hfound
  | released _ _ _ hfound hreleased =>
    exact campaignStep_released hc command hfound hreleased rfl
  | settled _ _ _ broadcast now hfound hreleased =>
    exact campaignStep_released hc command hfound hreleased (finalizeStatus_receipts _ broadcast now)

theorem campaignStep_create {c : Campaigns} (hc : Guarded c) (id : Nat) (content : String)
    (recipients : List (Nat × Nat × Int)) (now : Int) :
    CampaignStep c (.create id content recipients now) (c.create id content recipients now) := by
  obtain ⟨-, hkept, hbound⟩ := create_spec hc id content recipients now
  constructor
  case terminal =>
    intro other receipt hfound hterminal
    exact ⟨receipt, hkept other receipt hfound, rfl, hc.unbound hfound hterminal⟩
  case handedOff =>
    intro other receipt' hfound hsome
    exact .inl (hbound other receipt' hfound hsome)

theorem campaignStep_handoff {c c' : Campaigns} (hc : Guarded c) (world : HandoffWorld)
    (h : HandoffChange c now c') : CampaignStep c (.handoff world now) c' := by
  cases h with
  | report hreport => exact campaignStep_report hc _ hreport
  | bound due _ htaken =>
    obtain ⟨hactive, -⟩ := isDue_active htaken.isDue
    constructor
    case terminal =>
      intro other receipt hfound hterminal
      unfold Campaigns.bind Campaigns.setReceipt
      dsimp only
      rw [lookup_insert]
      split
      case isTrue hsame =>
        subst hsame
        rw [htaken.receipt] at hfound
        cases hfound
        rw [not_active_of_terminal hterminal] at hactive
        cases hactive
      case isFalse => exact ⟨receipt, hfound, rfl, hc.unbound hfound hterminal⟩
    case handedOff =>
      intro other receipt' hfound hsome
      unfold Campaigns.bind Campaigns.setReceipt at hfound
      dsimp only at hfound
      rw [lookup_insert] at hfound
      split at hfound
      case isTrue hsame =>
        subst hsame
        cases hfound
        exact .inr ⟨world, now, due.receipt, rfl, htaken.receipt, htaken.isDue, rfl, htaken.first⟩
      case isFalse => exact .inl hfound

theorem guarded_step (c : Campaigns) (command : CampaignCommand) (hc : Guarded c) :
    Guarded (c.step command) ∧ CampaignStep c command (c.step command) := by
  cases command with
  | create id content recipients now =>
    exact ⟨(create_spec hc id content recipients now).1,
      campaignStep_create hc id content recipients now⟩
  | handoff world now =>
    have hchange : HandoffChange c now (c.step (.handoff world now)) :=
      handoffNextDue_change c world now
    exact ⟨guarded_handoff hc hchange, campaignStep_handoff hc world hchange⟩
  | assertDispatchable job decision => exact ⟨hc, campaignStep_report hc _ .nothing⟩
  | applyFreshness job decision now =>
    have hreport : ReportChange c (c.step (.applyFreshness job decision now)) := by
      unfold Campaigns.step
      dsimp only
      cases hresult : c.applyFreshness job decision now with
      | error error => exact .nothing
      | ok c' => exact applyFreshness_change hresult
    exact ⟨guarded_report hc hreport, campaignStep_report hc _ hreport⟩
  | applyDeliveryResult job decision now =>
    have hreport : ReportChange c (c.step (.applyDeliveryResult job decision now)) := by
      unfold Campaigns.step
      dsimp only
      cases hresult : c.applyDeliveryResult job decision now with
      | error error => exact .nothing
      | ok c' => exact applyDeliveryResult_change hresult
    exact ⟨guarded_report hc hreport, campaignStep_report hc _ hreport⟩

/-- At most one bound receipt for each campaign, bound receipts of at most two campaigns, dispatches
only of the job a receipt is bound to, and finished campaigns only with terminal receipts. -/
structure BindingsKept (c : Campaigns) : Prop where
  once : c.boundCampaigns.Nodup
  atMostTwo : c.boundCampaigns.length ≤ 2
  dispatch : ∀ job decision, c.assertDispatchable job decision = .ok () →
    ∃ id receipt, c.receipts.lookup id = some receipt ∧
      receiptDedupeFromSource job.sourceNaturalId = some receipt.dedupeKey ∧
      receipt.status.isActive = true ∧ receipt.queueJobId = some job.id
  finished : ∀ broadcast row, c.broadcasts.lookup broadcast = some row →
    row.status.isFinished = true → ∀ id receipt, c.receipts.lookup id = some receipt →
      receipt.broadcastId = broadcast → receipt.status.isTerminal = true

/-- In every run of hand-offs and reports, a campaign has at most one bound receipt and at most two
campaigns have one, only the job a receipt is bound to is dispatched, a terminal receipt stays and
is not handed off again, the due receipts of a campaign go in the order of their ids, and a campaign
is finished only with all its receipts. -/
theorem broadcast_bindings_kept (commands : List CampaignCommand) :
    EachStep Campaigns.step CampaignStep {} commands ∧
      BindingsKept (run Campaigns.step {} commands) := by
  have hsteps : EachStep Campaigns.step (fun _ _ _ => True) {} commands := eachStep_true _ _ _
  have hstart : Guarded {} :=
    { once := List.nodup_nil
      atMostTwo := Nat.zero_le 2
      active := fun _ _ h => by cases h
      referenced := fun _ _ h => by cases h
      finished := fun _ _ h => by cases h }
  have hrun : Guarded (run Campaigns.step {} commands) :=
    run_invariant (fun c command hc _ => (guarded_step c command hc).1) commands _ hstart hsteps
  refine ⟨?_, hrun.once, hrun.atMostTwo, fun _ _ h => assertDispatchable_ok h, hrun.finished⟩
  exact eachStep_of_invariant (fun c command hc _ => (guarded_step c command hc).1)
    (fun c command hc _ => (guarded_step c command hc).2) commands _ hstart hsteps

end TradingBot.Telegram
