import FederatedIot.Frontend.Delivery

namespace FederatedIot
namespace Frontend

open Foundation Foundation.Relation Live

/-!
# Every event is applied

The store of the page has one cursor.  Events move it, and so do heartbeats and
refreshes, which carry the newest identifier of the log.  An event is applied
when its identifier lies above the cursor.  So the cursor must be covered: at
most an event that the store was handed before, or at most what every live
stream of the selected run has reached.  Events keep the cursor covered.  A
heartbeat or a refresh does so when its identifier is covered itself.
-/

/-! ## The cursor of a page -/

/-- What identifies a subscription for the server. -/
structure Ticket where
  handle : Nat
  runId : String
  lastEventId : Option Nat

structure Track where
  runId : Option String
  lastEventId : Option Nat
  live : List Ticket

def Subscription.ticket (stream : Subscription) : Ticket where
  handle := stream.handle
  runId := stream.runId
  lastEventId := stream.lastEventId

/-- Whether a refresh that has its answers emits them. -/
def Page.accepts (page : Page) (refresh : PendingRefresh) (summary : Fetched) : Bool :=
  page.concerns refresh && (Page.summaryAgent summary.value).all (Page.isAgent refresh.selectedAgent)

/-- The steps that end a refresh with a value, and the detail that it emits. -/
inductive Completes (page : Page) : PageLabel -> PendingRefresh -> SimulationDetail -> Prop
  | detail {handle : Nat} {refresh : PendingRefresh} {detail : SimulationDetail}
      (found : page.refresh? handle = some refresh) (awaits : refresh.phase = .awaitingDetail)
      (incomplete : detail.status ≠ .string "COMPLETED")
      (accepted : page.accepts refresh Fetched.empty = true) :
      Completes page (.detailArrives handle detail) refresh detail
  | results {handle : Nat} {refresh : PendingRefresh} {detail : SimulationDetail}
      {summary results alarms artifacts : Except RequestError (Option Json)}
      (found : page.refresh? handle = some refresh) (awaits : refresh.phase = .awaitingResults detail)
      (accepted : page.accepts refresh (Fetched.settled refresh.runId summary) = true) :
      Completes page (.resultsSettle handle summary results alarms artifacts) refresh detail

namespace Page

def track (page : Page) : Track where
  runId := page.state.runId
  lastEventId := page.state.lastEventId
  live := page.subscriptions.map Subscription.ticket

/-- The cursor after a refresh with this detail. -/
def Track.refreshed (track : Track) (detail : SimulationDetail) : Track :=
  { track with lastEventId := monotonicEventId track.lastEventId detail.latestEventId }

variable {page : Page} {refresh : PendingRefresh} {stream : Subscription} {detail : SimulationDetail}

theorem beginRefresh_track {followUp : FollowUp} :
    (page.beginRefresh followUp).track = page.track := by
  unfold beginRefresh
  cases page.state.selected <;> rfl

theorem failRefresh_track {reason : RequestError} :
    (page.failRefresh refresh reason).track = page.track := by
  cases reason with
  | abort => rfl
  | other message =>
      unfold failRefresh
      by_cases concerned : page.concerns refresh
      · simp only [concerned, if_true]
        rfl
      · simp only [concerned, if_false]
        rfl

section

variable {summary results alarms artifacts : Fetched}

/-- A refresh that is accepted emits its values. -/
theorem finishRefresh_of_accepts (accepted : page.accepts refresh summary = true) :
    page.finishRefresh refresh detail summary results alarms artifacts =
      finishRefresh.emitRefresh page refresh detail summary results alarms artifacts := by
  rcases (Bool.and_eq_true _ _).mp accepted with ⟨concerned, matched⟩
  unfold finishRefresh
  rw [if_pos (of_decide_eq_true concerned)]
  cases found : summaryAgent summary.value with
  | none => rfl
  | some agent =>
      rw [found] at matched
      exact if_pos matched

theorem finishRefresh_of_refused (refused : page.accepts refresh summary = false) :
    (page.finishRefresh refresh detail summary results alarms artifacts).track = page.track := by
  unfold finishRefresh
  by_cases concerned : page.concerns refresh
  · rw [if_pos concerned]
    cases found : summaryAgent summary.value with
    | none => simp [accepts, concerned, found] at refused
    | some agent =>
        have mismatch : isAgent refresh.selectedAgent agent = false := by
          simpa [accepts, concerned, found] using refused
        simp only [mismatch, Bool.false_eq_true, if_false]
        exact failRefresh_track
  · rw [if_neg concerned]
    rfl

end

theorem selectAgent_track {agent : Int} : (page.selectAgent agent).track = page.track := by
  unfold selectAgent
  split
  · rfl
  · split
    · rfl
    · exact beginRefresh_track

theorem updateSubscription_track {change : Subscription -> Subscription}
    (kept : forall other, (change other).ticket = other.ticket) :
    (page.updateSubscription stream change).track = page.track := by
  unfold track updateSubscription
  simp only [List.map_map, Track.mk.injEq, true_and]
  apply List.map_congr_left
  intro other _
  by_cases same : other.handle = stream.handle
  · simp [same, kept other]
  · simp [same]

theorem streamOpens_track : (page.streamOpens stream).track = page.track := by
  unfold streamOpens onOpen
  split
  · exact updateSubscription_track fun _ => rfl
  · exact @updateSubscription_track page stream _ fun _ => rfl

/-! ### Frames -/

/-- The page once it has taken the identifier of a frame. -/
def readId (page : Page) (stream : Subscription) (id : Nat) : Page :=
  page.updateSubscription stream fun other => { other with eventId := some (number id) }

/-- The page once an event has been applied. -/
def applied (page : Page) (stream : Subscription) (event : SseEvent) : Page :=
  { page with
    state := { page.state with
      detail := page.state.detail.map (projectSseEvent stream.runId event)
      lastEventId := event.id.or page.state.lastEventId
      events := keepEvents page.state.events event
      connection := .connected } }

theorem readId_track {id : Nat} : (page.readId stream id).track = page.track :=
  updateSubscription_track fun _ => rfl

section

variable {event : SseEvent}

theorem onEvent_reset (selected : some stream.runId = page.state.runId)
    (reset : event.type = "stream.reset") :
    page.onEvent stream event =
      { page with state := { page.state with connection := .connected } }.beginRefresh .nothing := by
  unfold onEvent
  rw [if_neg (not_not.mpr selected), if_pos reset]

theorem onEvent_old (selected : some stream.runId = page.state.runId)
    (identified : event.type ≠ "stream.reset")
    (old : isNewerEventId page.state.lastEventId event.id = false) : page.onEvent stream event = page := by
  unfold onEvent
  rw [if_neg (not_not.mpr selected), if_neg identified, if_neg (by rw [old]; exact Bool.false_ne_true)]

theorem onEvent_newer (selected : some stream.runId = page.state.runId)
    (identified : event.type ≠ "stream.reset")
    (newer : isNewerEventId page.state.lastEventId event.id = true) :
    page.onEvent stream event =
      if carriesStatus event.data then (page.applied stream event).beginRefresh .nothing
      else page.applied stream event := by
  unfold onEvent
  rw [if_neg (not_not.mpr selected), if_neg identified, if_pos newer]
  rfl

end

/-- What a frame makes of the cursor. -/
theorem frameArrives_track {id : Nat} {type : String} {data : Json} :
    (page.frameArrives stream (some id) type data).track = page.track ∨
      (some stream.runId = page.state.runId ∧ type ≠ "stream.reset" ∧
        (page.frameArrives stream (some id) type data).track =
          { page.track with lastEventId := some (number id) }) := by
  let event : SseEvent := { id := some (number id), type := type, data := data }
  have read : page.frameArrives stream (some id) type data =
      (page.readId stream id).onEvent stream event := rfl
  rw [read, ← @readId_track page stream id]
  by_cases selected : some stream.runId = page.state.runId
  · by_cases reset : type = "stream.reset"
    · left
      rw [@onEvent_reset (page.readId stream id) stream event selected reset, beginRefresh_track]
      rfl
    · cases newer : isNewerEventId page.state.lastEventId event.id with
      | false =>
          left
          rw [@onEvent_old (page.readId stream id) stream event selected reset newer]
      | true =>
          right
          refine ⟨selected, reset, ?_⟩
          rw [@onEvent_newer (page.readId stream id) stream event selected reset newer]
          split
          · exact beginRefresh_track
          · rfl
  · left
    have stale : (page.readId stream id).onEvent stream event = page.readId stream id :=
      if_pos selected
    rw [stale]

end Page

/-- What a step of the page makes of its cursor and of its live subscriptions. -/
inductive Tracks (page : Page) (label : PageLabel) (result : Page) : Prop
  | kept (unselecting : label.selects = false) (same : result.track = page.track)
  | fewer (unselecting : label.selects = false) {live : List Ticket}
      (ended : live.Sublist page.track.live) (same : result.track = { page.track with live := live })
  | selected (selecting : label.selects = true) {live : List Ticket}
      (closed : live.Sublist page.track.live) {runId : Option String}
      (same : result.track = { runId := runId, lastEventId := none, live := live })
  | connected (unselecting : label.selects = false) {runId : String} (named : runId ≠ "")
      (issued : page.nextHandle < result.nextHandle)
      (same : result.track = { page.track with
        live := page.track.live ++ [⟨page.nextHandle, runId, page.track.lastEventId⟩] })
  | completed (unselecting : label.selects = false) {refresh : PendingRefresh}
      {detail : SimulationDetail} (completes : Completes page label refresh detail)
      (same : result.track = { page.track with
        lastEventId := monotonicEventId page.track.lastEventId detail.latestEventId })

section

variable {page result : Page} {label : PageLabel} {refresh : PendingRefresh}

theorem resume_tracks (unselecting : label.selects = false) :
    Tracks page label (page.resume refresh) := by
  unfold Page.resume
  cases refresh.followUp with
  | nothing => exact Tracks.kept unselecting rfl
  | connect =>
      unfold Page.connect
      cases found : (page.removeRefresh refresh).state.selected with
      | none => exact Tracks.kept unselecting rfl
      | some runId =>
          have named := (Option.filter_eq_some_iff.mp found).2
          refine Tracks.connected unselecting (of_decide_eq_true named) (Nat.lt_succ_self _) ?_
          unfold Page.track
          rw [List.map_append]
          rfl

theorem closeRunSubscription_live :
    (page.closeRunSubscription.subscriptions.map Subscription.ticket).Sublist page.track.live :=
  List.filter_sublist.map _

theorem detailArrives_performed {handle : Nat} {detail : SimulationDetail}
    (performed : page.perform (.detailArrives handle detail) = some result) :
    ∃ refresh, page.refresh? handle = some refresh ∧ refresh.phase = .awaitingDetail ∧
      result = page.detailArrives refresh detail := by
  rcases Option.bind_eq_some_iff.mp performed with ⟨refresh, found, answered⟩
  refine ⟨refresh, found, ?_⟩
  unfold Page.answerRefresh at answered
  cases phase : refresh.phase with
  | awaitingDetail =>
      simp only [phase] at answered
      split at answered
      · exact ⟨rfl, (Option.some.inj answered).symm⟩
      · cases answered
  | awaitingResults _ => simp [phase] at answered
  | returned => simp [phase] at answered

theorem resultsSettle_performed {handle : Nat}
    {summary results alarms artifacts : Except RequestError (Option Json)}
    (performed : page.perform (.resultsSettle handle summary results alarms artifacts) = some result) :
    ∃ refresh detail, page.refresh? handle = some refresh ∧ refresh.phase = .awaitingResults detail ∧
      result = page.finishRefresh refresh detail (Fetched.settled refresh.runId summary)
        (Fetched.settled refresh.runId results) (Fetched.settled refresh.runId alarms)
        (Fetched.settled refresh.runId artifacts) := by
  rcases Option.bind_eq_some_iff.mp performed with ⟨refresh, found, answered⟩
  unfold Page.answerRefresh at answered
  cases phase : refresh.phase with
  | awaitingResults detail =>
      simp only [phase] at answered
      exact ⟨refresh, detail, found, phase, (Option.some.inj answered).symm⟩
  | awaitingDetail => simp [phase] at answered
  | returned => simp [phase] at answered

/-- Apart from the frames of a stream. -/
theorem perform_tracks (performed : page.perform label = some result)
    (own : forall handle id type data, label ≠ .frameArrives handle id type data) :
    Tracks page label result := by
  cases perform_cases performed with
  | selectRun runId =>
      refine @Tracks.selected _ _ _ rfl _ (@closeRunSubscription_live page) runId ?_
      unfold Page.selectRun
      rw [Page.beginRefresh_track]
      rfl
  | selectAgent agent => exact Tracks.kept rfl Page.selectAgent_track
  | refresh => exact Tracks.kept rfl Page.beginRefresh_track
  | close => exact Tracks.fewer rfl (@closeRunSubscription_live page) rfl
  | @detailArrives _ detail _ _ _ =>
      rcases detailArrives_performed performed with ⟨refresh, found, awaits, same⟩
      rw [same]
      unfold Page.detailArrives
      by_cases complete : detail.status = .string "COMPLETED"
      · rw [if_pos complete]
        exact Tracks.kept rfl rfl
      · rw [if_neg complete]
        cases accepted : page.accepts refresh Fetched.empty with
        | true =>
            refine Tracks.completed rfl (Completes.detail found awaits complete accepted) ?_
            rw [Page.finishRefresh_of_accepts accepted]
            rfl
        | false => exact Tracks.kept rfl (Page.finishRefresh_of_refused accepted)
  | detailFails reason _ _ => exact Tracks.kept rfl Page.failRefresh_track
  | resultsSettle summary _ _ _ _ _ =>
      rcases resultsSettle_performed performed with ⟨refresh, detail, found, awaits, same⟩
      rw [same]
      cases accepted : page.accepts refresh (Fetched.settled refresh.runId summary) with
      | true =>
          refine Tracks.completed rfl (Completes.results found awaits accepted) ?_
          rw [Page.finishRefresh_of_accepts accepted]
          rfl
      | false => exact Tracks.kept rfl (Page.finishRefresh_of_refused accepted)
  | resume _ _ => exact resume_tracks rfl
  | streamOpens _ _ => exact Tracks.kept rfl Page.streamOpens_track
  | frameArrives id type data _ _ => exact absurd rfl (own _ id type data)
  | @streamEnds stream _ =>
      have ended : ((page.subscriptions.filter fun other => other.handle ≠ stream.handle).map
          Subscription.ticket).Sublist page.track.live := List.filter_sublist.map _
      refine Tracks.fewer rfl ended ?_
      unfold Page.streamEnds
      split <;> rfl
  | timerFires _ =>
      refine Tracks.kept rfl ?_
      unfold Page.timerFires
      split
      · exact Page.beginRefresh_track
      · rfl

/-! ## The pending refreshes of a page -/

/-- Handles are handed out in order, and a refresh that waits for results was
given its detail by an answer. -/
structure Carries (page result : Page) (arrived : Nat -> SimulationDetail -> Prop) : Prop where
  later : page.nextHandle ≤ result.nextHandle
  refreshes : ∀ refresh ∈ result.refreshes,
    (page.nextHandle ≤ refresh.handle ∧ refresh.handle < result.nextHandle) ∨
    ∃ old ∈ page.refreshes, old.handle = refresh.handle ∧ old.runId = refresh.runId ∧
      forall detail, refresh.phase = .awaitingResults detail ->
        old.phase = .awaitingResults detail ∨ arrived old.handle detail

namespace Carries

variable {arrived : Nat -> SimulationDetail -> Prop}

theorem of_subset (later : page.nextHandle ≤ result.nextHandle)
    (refreshes : result.refreshes ⊆ page.refreshes) : Carries page result arrived where
  later := later
  refreshes := fun refresh member =>
    Or.inr ⟨refresh, refreshes member, rfl, rfl, fun _ waits => Or.inl waits⟩

/-- A refresh that begins after changes to other fields. -/
theorem beginRefresh {before : Page} (followUp : FollowUp)
    (refreshes : before.refreshes ⊆ page.refreshes) (handle : before.nextHandle = page.nextHandle) :
    Carries page (before.beginRefresh followUp) arrived := by
  have issued : (before.beginRefresh followUp).nextHandle = page.nextHandle + 1 := by
    rw [← handle]
    unfold Page.beginRefresh
    cases before.state.selected <;> rfl
  refine ⟨by rw [issued]; exact Nat.le_succ _, ?_⟩
  intro refresh member
  have added : refresh ∈ before.refreshes ∨ refresh.handle = before.nextHandle := by
    unfold Page.beginRefresh at member
    cases found : before.state.selected with
    | none =>
        rw [found] at member
        exact (List.mem_append.mp member).imp id fun last => by rw [List.mem_singleton.mp last]
    | some runId =>
        rw [found] at member
        exact (List.mem_append.mp member).imp id fun last => by rw [List.mem_singleton.mp last]
  rcases added with old | fresh
  · exact Or.inr ⟨refresh, refreshes old, rfl, rfl, fun _ waits => Or.inl waits⟩
  · left
    rw [issued, fresh, handle]
    exact ⟨Nat.le_refl _, Nat.lt_succ_self _⟩

/-- A pending refresh that goes on to its next phase. -/
theorem setRefresh {phase : RefreshPhase} (state : StoreState)
    (waits : forall detail, phase = .awaitingResults detail -> arrived refresh.handle detail) :
    Carries page { page.setRefresh refresh phase with state := state } arrived where
  later := Nat.le_refl _
  refreshes := by
    intro other member
    right
    rcases List.mem_map.mp member with ⟨old, pending, rfl⟩
    by_cases same : old.handle = refresh.handle
    · simp only [same, if_true]
      refine ⟨old, pending, same, rfl, ?_⟩
      intro detail waiting
      exact Or.inr (by rw [same]; exact waits detail waiting)
    · simp only [same, if_false]
      exact ⟨old, pending, rfl, rfl, fun _ waiting => Or.inl waiting⟩

theorem failRefresh {reason : RequestError} :
    Carries page (page.failRefresh refresh reason) arrived := by
  have returned : forall detail, RefreshPhase.returned = .awaitingResults detail ->
      arrived refresh.handle detail := fun _ same => nomatch same
  cases reason with
  | abort => exact setRefresh page.state returned
  | other message =>
      unfold Page.failRefresh
      by_cases concerned : page.concerns refresh
      · simp only [concerned, if_true]
        exact setRefresh _ returned
      · simp only [concerned, if_false]
        exact setRefresh page.state returned

theorem finishRefresh {detail : SimulationDetail} {summary results alarms artifacts : Fetched} :
    Carries page (page.finishRefresh refresh detail summary results alarms artifacts) arrived := by
  have returned : forall detail, RefreshPhase.returned = .awaitingResults detail ->
      arrived refresh.handle detail := fun _ same => nomatch same
  unfold Page.finishRefresh
  split
  · split
    · split
      · exact setRefresh _ returned
      · exact failRefresh
    · exact setRefresh _ returned
  · exact setRefresh page.state returned

theorem onEvent {stream : Subscription} {event : SseEvent} {before : Page}
    (refreshes : before.refreshes = page.refreshes) (handle : before.nextHandle = page.nextHandle) :
    Carries page (before.onEvent stream event) arrived := by
  have pending : before.refreshes ⊆ page.refreshes := refreshes ▸ List.Subset.refl _
  have same : forall state : StoreState, Carries page { before with state := state } arrived :=
    fun _ => of_subset (Nat.le_of_eq handle.symm) pending
  unfold Page.onEvent
  split
  · exact same before.state
  · split
    · exact beginRefresh _ pending handle
    · split
      · split
        · exact beginRefresh _ pending handle
        · exact same _
      · exact same before.state

end Carries

theorem perform_carries (performed : Perform page label result) :
    Carries page result fun handle detail => label = .detailArrives handle detail := by
  cases performed with
  | selectRun runId => exact Carries.beginRefresh _ (List.Subset.refl _) rfl
  | selectAgent agent =>
      unfold Page.selectAgent
      split
      · exact Carries.of_subset (Nat.le_refl _) (List.Subset.refl _)
      · split
        · exact Carries.of_subset (Nat.le_refl _) (List.Subset.refl _)
        · exact Carries.beginRefresh _ (List.Subset.refl _) rfl
  | refresh => exact Carries.beginRefresh _ (List.Subset.refl _) rfl
  | close => exact Carries.of_subset (Nat.le_refl _) (List.Subset.refl _)
  | @detailArrives refresh detail _ _ _ =>
      unfold Page.detailArrives
      split
      · refine Carries.setRefresh page.state ?_
        intro other same
        cases same
        rfl
      · exact Carries.finishRefresh
  | detailFails reason _ _ => exact Carries.failRefresh
  | resultsSettle _ _ _ _ _ _ => exact Carries.finishRefresh
  | @resume refresh _ _ =>
      have removed : (page.removeRefresh refresh).refreshes ⊆ page.refreshes :=
        List.filter_sublist.subset
      unfold Page.resume
      cases refresh.followUp with
      | nothing => exact Carries.of_subset (Nat.le_refl _) removed
      | connect =>
          unfold Page.connect
          cases (page.removeRefresh refresh).state.selected with
          | none => exact Carries.of_subset (Nat.le_refl _) removed
          | some runId => exact Carries.of_subset (Nat.le_succ _) removed
  | streamOpens _ _ =>
      unfold Page.streamOpens Page.onOpen
      split
      · exact Carries.of_subset (Nat.le_refl _) (List.Subset.refl _)
      · exact Carries.of_subset (Nat.le_refl _) (List.Subset.refl _)
  | frameArrives id type data _ _ => exact Carries.onEvent rfl rfl
  | streamEnds _ =>
      unfold Page.streamEnds
      split
      · exact Carries.of_subset (Nat.le_refl _) (List.Subset.refl _)
      · exact Carries.of_subset (Nat.le_succ _) (List.Subset.refl _)
  | timerFires _ =>
      unfold Page.timerFires
      split
      · exact Carries.beginRefresh _ (List.Subset.refl _) rfl
      · exact Carries.of_subset (Nat.le_refl _) (List.Subset.refl _)

end

end Frontend
end FederatedIot
