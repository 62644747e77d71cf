import TradingBot.Telegram.Fencing

/-!
# A send is not repeated without a reason

A dispatched send may have reached its destination, so it is dispatched again only when it has not:
the answer shows that the provider did not accept the message, or a reconciliation confirmed that it
is absent.

The invariant follows the dispatch through the states of its row: as long as nothing shows that it
was rejected, the row keeps the token and the time of the dispatch and is leased, ambiguous or
final, and cannot be claimed.
-/

namespace TradingBot.Telegram

open Misc

/-- It is known that the dispatch of the job under the token did not reach its destination. -/
def ShownAbsent (history : List Event) (job token : Nat) : Prop :=
  (∃ result, Event.answered job token result ∈ history ∧ result.Rejects) ∨
    Event.confirmedAbsent job token ∈ history

/-- When a send was marked, each earlier dispatch of the job was known not to have reached its
destination. -/
def RepeatsShown (history : List Event) : Prop :=
  ∀ job token method destination at_ earlier,
    .marked job token method destination at_ :: earlier <:+ history → isSendMethod method = true →
    ∀ token' method' destination' at', .marked job token' method' destination' at' ∈ earlier →
      ShownAbsent earlier job token'

variable {history : List Event} {job token : Nat}

theorem ShownAbsent.append (h : ShownAbsent history job token) (events : List Event) :
    ShownAbsent (events ++ history) job token := by
  obtain ⟨result, hanswered, hrejects⟩ | hconfirmed := h
  · exact .inl ⟨result, List.mem_append_right _ hanswered, hrejects⟩
  · exact .inr (List.mem_append_right _ hconfirmed)

def Record.InFlight (row : Record) (token : Nat) : Prop :=
  row.leaseToken = token ∧ row.dispatchStartedAt.isSome = true ∧
    (row.state = .leased ∨ row.state = .ambiguous ∨ row.state = .ambiguousUnresolved ∨
      row.state.isFinal = true)

/-- Each mark is one of a row, and a dispatch is known to be absent or may have arrived. -/
structure SendsTracked (q : Queue) : Prop where
  marking : MarkingFenced q
  marked : ∀ job token method destination at_,
    Event.marked job token method destination at_ ∈ q.history →
    ∃ row, q.jobs.lookup job = some row ∧ row.method = method ∧
      (isSendMethod method = true → ShownAbsent q.history job token ∨ row.InFlight token)
  shown : RepeatsShown q.history

section RowChange

variable {q : Queue} {id : Nat} {row row' : Record} {events : List Event}

theorem RowChange.inFlight (h : RowChange false q id row row' events)
    (hsend : isSendMethod row.method = true) (hflight : row.InFlight token) :
    ShownAbsent (events ++ q.history) id token ∨ row'.InFlight token := by
  obtain ⟨htoken, hstarted, hstate⟩ := hflight
  have hclaimable : row.state.isClaimable = false := by
    obtain h | h | h | h := hstate
    · rw [h]; rfl
    · rw [h]; rfl
    · rw [h]; rfl
    · cases hcase : row.state <;> rw [hcase] at h <;> first | rfl | cases h
  have hnone : row.dispatchStartedAt ≠ none := fun h => by
    rw [h] at hstarted
    cases hstarted
  cases h with
  | claim _ _ _ _ _ hclaim =>
    simp only [Queue.isClaimable, Bool.and_eq_true] at hclaim
    rw [hclaimable] at hclaim
    exact absurd hclaim.1.1.1.1.2 Bool.false_ne_true
  | freshness _ _ _ _ _ _ _ _ hlate =>
    exact absurd (hlate.resolve_left Bool.false_ne_true) hnone
  | giveBack _ _ _ _ _ _ hunstarted =>
    exact absurd hunstarted hnone
  | expired _ _ _ _ _ hexpired =>
    rw [if_pos hsend] at hexpired
    exact .inr ⟨htoken, hstarted, .inr (.inl hexpired)⟩
  | settle _ token' result policy window now linearized _ _ hfence =>
    have hsettled := settled_settle q id row result policy window now linearized
    have hopen : row.toContract.state.isFinal = false := fence_not_final hfence
    have hkept : (q.settle id row result policy window now linearized).1.leaseToken = token ∧
        (q.settle id row result policy window now linearized).1.dispatchStartedAt.isSome = true := by
      rw [hsettled.leaseToken, hsettled.dispatchStartedAt]
      exact ⟨htoken, hstarted⟩
    have hclassifies := classifies_applyGatewayResult policy result now hopen
    obtain hfinal | hambiguous | hretryable := hclassifies.state
    · rw [← hsettled.state] at hfinal
      exact .inr ⟨hkept.1, hkept.2, .inr (.inr (.inr hfinal))⟩
    · rw [← hsettled.state] at hambiguous
      exact .inr ⟨hkept.1, hkept.2, .inr (.inl hambiguous)⟩
    · -- the job may be claimed again, and the answer says why
      have hrejects : result.Rejects := rejects_of_retryable policy result now hopen hsend hretryable
      have hsame : token' = token := (fence_open hfence).1.symm.trans htoken
      refine .inl (.inl ⟨result, List.mem_append_left _ ?_, hrejects⟩)
      rw [hsame]
      exact List.mem_append_right _ (List.mem_singleton_self _)
  | reconcilePending decision now hpending =>
    rw [hpending] at hstate
    obtain h | h | h | h := hstate <;> cases h
  | confirmDelivery messageId now =>
    exact .inr ⟨htoken, hstarted, .inr (.inr (.inr rfl))⟩
  | confirmAbsent reason now =>
    refine .inl (.inr (List.mem_append_left _ ?_))
    rw [htoken]
    exact List.mem_singleton_self _
  | escalate reason now => exact .inr ⟨htoken, hstarted, .inr (.inr (.inl rfl))⟩
  | ready _ _ _ _ _ _ hready =>
    rw [hclaimable] at hready
    cases hready
  | resume _ _ _ hblocked =>
    simp only [List.mem_cons, List.mem_nil_iff, or_false] at hblocked
    obtain hblocked | hblocked | hblocked := hblocked <;> rw [hblocked] at hstate <;>
      obtain h | h | h | h := hstate <;> cases h
  | supersede now hready =>
    rw [hclaimable] at hready
    cases hready

end RowChange

section Tracked

variable {q q' : Queue} {method destination : String} {at_ : Int}

theorem RepeatsShown.append (h : RepeatsShown history)
    (events : List Event) (hunmarked : ∀ job token method destination at_,
      Event.marked job token method destination at_ ∉ events) :
    RepeatsShown (events ++ history) := by
  intro job token method destination at_ earlier hsuffix
  exact h job token method destination at_ earlier
    (suffix_of_not_mem hsuffix (hunmarked job token method destination at_))

theorem SendsTracked.replace (hq : SendsTracked q) {id : Nat} {row : Record} (row' : Record)
    (events : List Event) (hfound : q.jobs.lookup id = some row) (hmethod : row'.method = row.method)
    (hflight : ∀ token, isSendMethod row.method = true → row.InFlight token →
      ShownAbsent (events ++ q.history) id token ∨ row'.InFlight token)
    (hmark : Event.marked job token method destination at_ ∈ q.history) :
    ∃ row'', (q.jobs.insert id row').lookup job = some row'' ∧ row''.method = method ∧
      (isSendMethod method = true →
        ShownAbsent (events ++ q.history) job token ∨ row''.InFlight token) := by
  obtain ⟨marked, hmarked, hmarkedMethod, htracked⟩ :=
    hq.marked job token method destination at_ hmark
  rw [lookup_insert]
  by_cases hsame : job = id
  · subst hsame
    rw [hfound] at hmarked
    cases hmarked
    refine ⟨row', if_pos rfl, hmethod.trans hmarkedMethod, ?_⟩
    intro hsend
    obtain hshown | hopen := htracked hsend
    · exact .inl (hshown.append events)
    · exact hflight token (hmarkedMethod ▸ hsend) hopen
  · refine ⟨marked, (if_neg hsame).trans hmarked, hmarkedMethod, ?_⟩
    intro hsend
    exact (htracked hsend).imp_left fun hshown => hshown.append events

theorem SendsTracked.marking_shown (hq : SendsTracked q) {marking : Marking} {row : Record}
    (hmarking : q.marking = some marking) (hfound : q.jobs.lookup marking.job = some row)
    (hsend : isSendMethod row.method = true)
    (hmark : Event.marked marking.job token method destination at_ ∈ q.history) :
    ShownAbsent q.history marking.job token := by
  obtain ⟨locked, hlocked, -, hstarted, -⟩ := hq.marking marking hmarking
  obtain ⟨marked, hmarked, hmethod, htracked⟩ := hq.marked _ _ _ _ _ hmark
  rw [hfound] at hlocked hmarked
  cases hlocked
  cases hmarked
  obtain hshown | ⟨-, hdispatched, -⟩ := htracked (hmethod ▸ hsend)
  · exact hshown
  · rw [hstarted] at hdispatched
    cases hdispatched

theorem sendsTracked_micro (hq : SendsTracked q) (h : Micro false q q') : SendsTracked q' := by
  have hmarkingFenced := markingFenced_micro hq.marking h
  cases h with
  | enqueue id row hfresh =>
    refine ⟨hmarkingFenced, ?_, hq.shown⟩
    intro job token method destination at_ hmark
    obtain ⟨marked, hmarked, hrest⟩ := hq.marked job token method destination at_ hmark
    have hne : job ≠ id := by
      rintro rfl
      rw [hfresh] at hmarked
      cases hmarked
    refine ⟨marked, ?_, hrest⟩
    rw [lookup_insert, if_neg hne]
    exact hmarked
  | row _ _ row' events _ hfound hchange =>
    refine ⟨hmarkingFenced, ?_, hq.shown.append events hchange.unmarked⟩
    intro job token method destination at_ hmark
    have hold := (List.mem_append.mp hmark).resolve_left
      (hchange.unmarked job token method destination at_)
    exact hq.replace row' events hfound hchange.kept.2 (fun _ => hchange.inFlight) hold
  | finishMark marking row probe hmarking hfound hlease =>
    obtain ⟨locked, hlocked, hfence, hstarted, -⟩ := hq.marking marking hmarking
    rw [hfound] at hlocked
    cases hlocked
    simp only [Record.hasLease, Bool.and_eq_true, decide_eq_true_eq] at hfence
    rw [finishMark_eq hmarking hfound hlease] at hmarkingFenced ⊢
    refine ⟨hmarkingFenced, ?_, ?_⟩
    · intro job token method destination at_ hmark
      obtain hnew | hold := List.mem_cons.mp hmark
      · cases hnew
        refine ⟨_, AList.lookup_insert q.jobs, rfl, ?_⟩
        intro _
        exact .inr ⟨hfence.2, rfl, .inl hfence.1.1⟩
      · refine hq.replace (row.dispatched _ probe) [_] hfound rfl ?_ hold
        rintro token - ⟨-, hdispatched, -⟩
        rw [hstarted] at hdispatched
        cases hdispatched
    · intro job token method destination at_ earlier hsuffix hsend token' method' destination' at'
        hearlier
      obtain hnew | hold := List.suffix_cons_iff.mp hsuffix
      · cases hnew
        exact hq.marking_shown hmarking hfound hsend hearlier
      · exact hq.shown _ _ _ _ _ _ hold hsend _ _ _ _ hearlier
  | applied =>
    refine ⟨hmarkingFenced, ?_, hq.shown.append [_] (by simp)⟩
    intro job token method destination at_ hmark
    have hold : Event.marked job token method destination at_ ∈ q.history := by
      simpa using hmark
    obtain ⟨marked, hmarked, hmethod, htracked⟩ := hq.marked job token method destination at_ hold
    refine ⟨marked, hmarked, hmethod, ?_⟩
    intro hsend
    exact (htracked hsend).imp_left fun hshown => hshown.append [_]
  | _ => exact ⟨hmarkingFenced, hq.marked, hq.shown⟩

end Tracked

/-- In every run in which no worker applies a freshness result after its own dispatch mark, a
dispatched send is marked again only once each earlier dispatch is known not to have reached its
destination. -/
theorem send_repeated_only_if_absent (clock : Int) (commands : List Command)
    (hintime : EachStep Queue.step (fun q command _ => command.InTime q) { clock } commands) :
    RepeatsShown (run Queue.step { clock } commands).history := by
  have hstart : SendsTracked { clock } := ⟨nofun, nofun, by simp [RepeatsShown]⟩
  refine (run_invariant ?_ commands _ hstart hintime).shown
  intro q command hq hcommand
  exact Micros.invariant (fun _ _ => sendsTracked_micro) (step_micros q command (.inr hcommand)) hq

def channelMessage : Record where
  dedupeKey := "market_notice:1"
  sourceNaturalId := "market_notice:1"
  sourceVersion := 1
  offerAction := false
  botIdentity := "primary"
  destinationKey := "channel"
  destinationClass := .channel
  method := "sendMessage"

def slowDown : GatewayResult where
  ok := false
  method := "sendMessage"
  statusCode := some 429
  responseJson := some
    { fields := [("ok", .bool false), ("error_code", .int 429)]
      parameters := some [("retry_after", .int 1)] }
  transportPhase := some "response_received"

def limitedRun : List Command :=
  [.enqueue 1 channelMessage, .claim 1 "primary" "worker" 30000000 0,
    .freshness 1 "worker" 1 { outcome := .send } 0 0, .beginMark 1 "worker" 1 0, .finishMark false,
    .record 1 "worker" 1 slowDown, .apply 1 1 firstAttempts 2000000 0, .advance 5000000,
    .claim 1 "primary" "worker" 30000000 5000000, .beginMark 1 "worker" 2 5000000,
    .finishMark false]

theorem limited_send_repeated :
    (run Queue.step { clock := 0 } limitedRun).marks = [(1, 2), (1, 1)] ∧
      RepeatsShown (run Queue.step { clock := 0 } limitedRun).history :=
  ⟨by decide, send_repeated_only_if_absent 0 limitedRun (by decide)⟩

end TradingBot.Telegram
