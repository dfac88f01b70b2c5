import FederatedIot.Frontend.Coverage
import FederatedIot.Queue.Backlog

namespace FederatedIot
namespace Frontend

open Foundation Foundation.Relation Live

/-!
# Applied events

An event with a larger identifier than every event before it finds the cursor
below it, because the cursor is covered.  When it carries a status it begins a
refresh.  A terminal status is in the row of the run by then and stays there,
so the answer to that refresh carries it, whenever it is read.
-/

/-! ## Applying an event -/

/-- The event as the subscription hands it to the store. -/
def sseEvent (platform : Queue.Platform) (stream : Subscription) (event : Queue.SimulationEvent) :
    SseEvent where
  id := some event.eventId
  type := event.eventType.text
  data := eventData platform stream.runId event

/-- The next frame of a stream of the selected run is an event newer than every
event that the store was handed. -/
structure NewEvent (state : Delivery) (stream : Subscription) (event : Queue.SimulationEvent) :
    Prop where
  running : stream ∈ state.page.subscriptions
  selected : some stream.runId = state.page.state.runId
  next : ∃ channel ∈ state.channels, channel.handle = stream.handle ∧
    channel.next? = some (.persisted event)
  newest : ∀ earlier ∈ state.seen, earlier < event.eventId

/-- The event is projected into the detail and kept, and a status begins a
refresh of the run. -/
structure Applied (page : Page) (stream : Subscription) (event : SseEvent) (result : Page) : Prop where
  detail : result.state.detail = page.state.detail.map (projectSseEvent stream.runId event)
  events : result.state.events = keepEvents page.state.events event
  cursor : result.state.lastEventId = event.id
  refresh : carriesStatus event.data = true ->
    result.requestController = some page.nextHandle ∧ result.nextHandle = page.nextHandle + 1 ∧
      result.refreshes = page.refreshes ++
        [{ handle := page.nextHandle, runId := stream.runId, selectedAgent := page.state.selectedAgent,
           phase := .awaitingDetail, followUp := .nothing }]

theorem eventType_identified (kind : Queue.SimulationEventType) : kind.text ≠ "stream.reset" := by
  cases kind <;> decide

section

variable {platform : Queue.Platform} {state result : Delivery} {stream : Subscription}
  {event : Queue.SimulationEvent}

/-- An event above the cursor is applied. -/
theorem applied_of_newer {page : Page} {event : SseEvent} {id : Nat} (identified : event.id = some id)
    (selected : page.state.selected = some stream.runId) (kind : event.type ≠ "stream.reset")
    (newer : isNewerEventId page.state.lastEventId event.id = true) :
    Applied page stream event (page.onEvent stream event) := by
  have named : some stream.runId = page.state.runId := (Option.filter_eq_some_iff.mp selected).1.symm
  rw [Page.onEvent_newer named kind newer]
  have cursor : (page.applied stream event).state.lastEventId = event.id := by
    unfold Page.applied
    rw [identified, Option.some_or]
  cases carries : carriesStatus event.data with
  | false =>
      refine ⟨rfl, rfl, cursor, ?_⟩
      intro carried
      rw [carries] at carried
      cases carried
  | true =>
      have stillSelected : (page.applied stream event).state.selected = some stream.runId := selected
      simp only [if_true]
      unfold Page.beginRefresh
      rw [stillSelected]
      exact ⟨rfl, rfl, cursor, fun _ => ⟨rfl, rfl, rfl⟩⟩

/-- The cursor lies below an event that is newer than every event before it. -/
theorem isNewer_of_covered {channel : Channel} (sound : Sound platform state)
    (arriving : NewEvent state stream event) (accepted : channel ∈ state.channels)
    (same : channel.handle = stream.handle) (next : channel.next? = some (.persisted event)) :
    isNewerEventId state.page.state.lastEventId (some event.eventId) = true := by
  cases cursor : state.page.state.lastEventId with
  | none => rfl
  | some id =>
      apply decide_eq_true
      rcases (sound.covered id cursor).2 with ⟨earlier, member, upTo⟩ | reached
      · exact lt_of_le_of_lt upTo (arriving.newest earlier member)
      · have within := reached stream.ticket (ticket_mem arriving.running) arriving.selected
        rw [reachedBy_of_mem sound.issued.channelKeys accepted same] at within
        have above := (sound.channels channel accepted).climbs.rising.above next
        have beyond : channel.reached < (event.eventId : Int) := above
        omega

/-- The frame that a step hands over is the next one of the stream. -/
theorem Deliver.frame (sound : Sound platform state) (arriving : NewEvent state stream event)
    (delivered : Deliver platform state (.frameArrives stream.handle) result) :
    result.store = state.store ∧ result.answers = state.answers ∧
      result.page = (state.page.readId stream event.eventId).onEvent stream
        { sseEvent platform stream event with id := some (number event.eventId) } := by
  rcases arriving.next with ⟨channel, accepted, same, next⟩
  generalize handleOf : stream.handle = handle at delivered
  cases delivered with
  | @frameArrives reader other frame page running otherAccepted otherSame otherNext performed =>
      have sameChannel := sound.issued.channelKeys.eq_of_mem otherAccepted accepted
        (otherSame.trans (handleOf.symm.trans same.symm))
      rw [sameChannel, next, Option.some.injEq] at otherNext
      have sameReader := sound.issued.subscription_unique running arriving.running handleOf.symm
      subst otherNext sameReader
      rcases frameArrives_performed performed with ⟨taker, takerRunning, takerHandle, rfl⟩
      rw [sound.issued.subscription_unique takerRunning running takerHandle]
      exact ⟨rfl, rfl, rfl⟩

/-- A new event is applied. -/
theorem applied_of_new (sound : Sound platform state) (arriving : NewEvent state stream event)
    (timely : Timely state (.frameArrives stream.handle))
    (delivered : Deliver platform state (.frameArrives stream.handle) result) :
    Applied state.page stream (sseEvent platform stream event) result.page := by
  rcases arriving.next with ⟨channel, accepted, same, next⟩
  have exactId : event.eventId < exactIntegers :=
    timely stream arriving.running rfl arriving.selected channel accepted same _ next
  have newer := isNewer_of_covered sound arriving accepted same next
  have named := sound.named stream.ticket (ticket_mem arriving.running)
  have selected : (state.page.readId stream event.eventId).state.selected = some stream.runId := by
    apply Option.filter_eq_some_iff.mpr
    exact ⟨arriving.selected.symm, decide_eq_true named⟩
  rw [(delivered.frame sound arriving).2.2, number_of_exact exactId]
  have applied := @applied_of_newer stream (state.page.readId stream event.eventId)
    (sseEvent platform stream event) event.eventId rfl selected (eventType_identified _) newer
  exact ⟨applied.detail, applied.events, applied.cursor, applied.refresh⟩

/-! ## The refresh of a terminal event -/

/-- The run has its terminal status, and so has every answer to the refresh. -/
structure Pursues (platform : Queue.Platform) (runId : String) (status : Queue.SimulationStatus)
    (handle : Nat) (state : Delivery) : Prop where
  reachable : Queue.Reachable platform state.store
  row : Queue.HasStatus state.store.tables.simulations runId status
  issued : handle < state.page.nextHandle
  refreshes : ∀ refresh ∈ state.page.refreshes, refresh.handle = handle ->
    refresh.runId = runId ∧ forall detail, refresh.phase = .awaitingResults detail ->
      detail.status = .string status.text
  answers : ∀ answer ∈ state.answers, answer.handle = handle ->
    answer.detail.status = .string status.text

variable {runId : String} {status : Queue.SimulationStatus} {handle : Nat}

/-- What is read of a run with a status has that status. -/
theorem simulationResponse_status {store : Queue.Store} {record : Queue.SimulationRecord}
    (has : Queue.HasStatus store.tables.simulations runId status)
    (found : Queue.simulationById runId store.tables = .ok record) :
    (simulationResponse record).status = .string status.text := by
  rcases has with ⟨row, member, sameRun, rfl⟩
  rcases Queue.simulationById_row found with ⟨read, readMember, readRun, readStatus⟩
  have same := store.unique.runId.eq_of_mem readMember member (readRun.trans sameRun.symm)
  unfold simulationResponse
  rw [readStatus, same]

/-- A page that moves on, with answers that are already there. -/
theorem Pursues.move {page : Page} {seen : List Nat} {channels : List Channel}
    {arrived : Nat -> SimulationDetail -> Prop} (pursues : Pursues platform runId status handle state)
    (carries : Carries state.page page arrived)
    (answered : forall detail, arrived handle detail -> ⟨handle, detail⟩ ∈ state.answers) :
    Pursues platform runId status handle
      { state with page := page, channels := channels, seen := seen } where
  reachable := pursues.reachable
  row := pursues.row
  issued := pursues.issued.trans_le carries.later
  refreshes := by
    intro refresh member same
    rcases carries.refreshes refresh member with ⟨fresh, _⟩ | ⟨old, pending, sameHandle, sameRun, waits⟩
    · rw [same] at fresh
      exact absurd pursues.issued (Nat.not_lt.mpr fresh)
    · have before := pursues.refreshes old pending (sameHandle.trans same)
      refine ⟨sameRun.symm.trans before.1, ?_⟩
      intro detail waiting
      rcases waits detail waiting with already | arrives
      · exact before.2 detail already
      · rw [sameHandle, same] at arrives
        exact pursues.answers _ (answered detail arrives) rfl
  answers := pursues.answers

theorem Pursues.step {label : DeliveryLabel} (terminal : status.isTerminal = true)
    (pursues : Pursues platform runId status handle state)
    (delivered : Deliver platform state label result) :
    Pursues platform runId status handle result := by
  cases delivered with
  | database transaction =>
      exact ⟨pursues.reachable.step transaction,
        (transaction.witnessed pursues.reachable).stays runId status terminal pursues.row,
        pursues.issued, pursues.refreshes, pursues.answers⟩
  | page permitted performed =>
      apply pursues.move (perform_carries (perform_cases performed))
      rintro detail rfl
      exact permitted
  | accept _ _ _ _ =>
      exact ⟨pursues.reachable, pursues.row, pursues.issued, pursues.refreshes, pursues.answers⟩
  | poll _ _ =>
      exact ⟨pursues.reachable, pursues.row, pursues.issued, pursues.refreshes, pursues.answers⟩
  | @answer refresh record pending _ _ found =>
      refine ⟨pursues.reachable, pursues.row, pursues.issued, pursues.refreshes, ?_⟩
      intro answer member same
      rcases List.mem_append.mp member with old | fresh
      · exact pursues.answers answer old same
      · rw [List.mem_singleton.mp fresh] at same ⊢
        rw [(pursues.refreshes refresh pending same).1] at found
        exact simulationResponse_status pursues.row found
  | frameArrives _ _ _ _ performed =>
      apply pursues.move (perform_carries (perform_cases performed))
      intro detail same
      cases same

theorem Pursues.run {labels : List DeliveryLabel} {later : Delivery} (terminal : status.isTerminal = true)
    (pursues : Pursues platform runId status handle state)
    (run : (deliverySystem platform).Run state labels later) :
    Pursues platform runId status handle later :=
  System.Run.invariant (Pursues platform runId status handle)
    (fun _ _ _ step held => held.step terminal step) run pursues

/-- The refresh that begins with a frame is the only one with its handle. -/
theorem pursues_of_frame (sound : Sound platform state) (arriving : NewEvent state stream event)
    (delivered : Deliver platform state (.frameArrives stream.handle) result)
    (terminal : status.isTerminal = true)
    (carried : (eventData platform stream.runId event).field? "status" = some (.string status.text))
    (applied : Applied state.page stream (sseEvent platform stream event) result.page) :
    Pursues platform stream.runId status state.page.nextHandle result := by
  rcases arriving.next with ⟨channel, accepted, same, next⟩
  rcases delivered.frame sound arriving with ⟨sameStore, sameAnswers, page⟩
  have carries : carriesStatus (sseEvent platform stream event).data = true := by
    have data : (sseEvent platform stream event).data.field? "status" = some (.string status.text) :=
      carried
    unfold carriesStatus
    rw [data]
    cases status <;> rfl
  rcases applied.refresh carries with ⟨_, issued, refreshes⟩
  have onStream : event ∈ sentEvents channel.connection.written :=
    List.mem_filterMap.mpr ⟨_, List.mem_of_getElem? next, rfl⟩
  have row := (sound.channels channel accepted).testified event onStream status terminal
    (eventData_status.mp carried)
  rw [← sound.sameRun channel accepted stream.ticket (ticket_mem arriving.running) same.symm] at row
  refine ⟨?_, ?_, ?_, ?_, ?_⟩
  · rw [sameStore]
    exact sound.reachable
  · rw [sameStore]
    exact row
  · rw [issued]
    exact Nat.lt_succ_self _
  · intro refresh member handle
    rw [refreshes] at member
    rcases List.mem_append.mp member with old | begun
    · exact absurd handle (Nat.ne_of_lt (sound.issued.refreshes refresh old))
    · rw [List.mem_singleton.mp begun]
      exact ⟨rfl, fun _ waits => nomatch waits⟩
  · rw [sameAnswers]
    intro answer member handle
    exact absurd handle (Nat.ne_of_lt (sound.issued.answers answer member))

/-- A refresh that completes shows the status that its run has. -/
theorem Pursues.completes {label : PageLabel} {refresh : PendingRefresh} {detail : SimulationDetail}
    {later : Delivery} (pursues : Pursues platform runId status handle state)
    (delivered : Deliver platform state (.page label) later)
    (completes : Completes state.page label refresh detail) (same : refresh.handle = handle) :
    ∃ shown, later.page.state.detail = some shown ∧ shown.status = .string status.text := by
  cases delivered with
  | page permitted performed =>
      cases completes with
      | @detail asked _ _ found awaits incomplete accepted =>
          rcases detailArrives_performed performed with ⟨other, otherFound, _, rfl⟩
          rw [found, Option.some.injEq] at otherFound
          subst otherFound
          have sameHandle := (refresh?_some found).2
          rw [← sameHandle] at permitted
          have answered := pursues.answers _ permitted same
          unfold Page.detailArrives
          rw [if_neg incomplete, Page.finishRefresh_of_accepts accepted]
          exact ⟨_, rfl, answered⟩
      | results found awaits accepted =>
          rcases resultsSettle_performed performed with ⟨other, waited, otherFound, phase, rfl⟩
          rw [found, Option.some.injEq] at otherFound
          subst otherFound
          rw [awaits] at phase
          cases phase
          rw [Page.finishRefresh_of_accepts accepted]
          exact ⟨_, rfl, (pursues.refreshes refresh (refresh?_some found).1 same).2 detail awaits⟩

end

/-! ## Sample runs -/

/-- The sample run under way, and the page at its start. -/
def sampleDelivery : Delivery where
  store := Queue.sampleStore
  page := Page.initial
  channels := []
  answers := []
  seen := []

def runningDetail : SimulationDetail where
  status := .string "RUNNING"
  currentStage := .string "PREPROCESSING"
  queuePosition := .null
  latestEventId := some 3

/-- The page selects the run. -/
def selecting : List DeliveryLabel :=
  [.page (.selectRun (some "run_1")), .answer 0]

/-- The page opens the stream of the run. -/
def opening : List DeliveryLabel :=
  [.page (.resume 0), .accept 1 3, .page (.streamOpens 1)]

def DeliveryLabel.isQuiet : DeliveryLabel -> Bool
  | .page (.detailArrives _ _) | .page (.resultsSettle _ _ _ _ _) | .frameArrives _ => false
  | _ => true

/-- The other steps bring no identifier. -/
theorem timely_of_quiet {state : Delivery} {label : DeliveryLabel} (quiet : label.isQuiet = true) :
    Timely state label := by
  cases label with
  | database _ | accept _ _ | poll _ _ | answer _ => exact trivial
  | frameArrives handle => cases quiet
  | page label =>
      intro refresh detail id completes _
      cases completes with
      | detail _ _ _ _ => cases quiet
      | results _ _ _ => cases quiet

theorem replay_timely {labels : List DeliveryLabel} {state result : Delivery}
    (quiet : ∀ label ∈ labels, label.isQuiet = true)
    (replayed : state.replay Queue.samplePlatform labels = some result) :
    ((deliverySystem Queue.samplePlatform).restrictSteps Timely).Run state labels result := by
  induction labels generalizing state with
  | nil =>
      cases replayed
      exact System.Run.nil _
  | cons label rest inductionHypothesis =>
      unfold Delivery.replay at replayed
      rw [List.foldlM_cons] at replayed
      rcases Option.bind_eq_some_iff.mp replayed with ⟨middle, attempted, continued⟩
      exact System.Run.cons
        ⟨Delivery.attempt_delivers attempted, timely_of_quiet (quiet label List.mem_cons_self)⟩
        (inductionHypothesis (fun other member => quiet other (List.mem_cons_of_mem _ member)) continued)

theorem sampleDelivery_reachable :
    ((deliverySystem Queue.samplePlatform).restrictSteps Timely).Reachable sampleDelivery := by
  rcases Queue.replay_run Queue.sampleHistory (Queue.initialStore 0) with ⟨calls, run⟩
  exact ⟨{ sampleDelivery with store := Queue.initialStore 0 }, _, ⟨⟨0, rfl⟩, rfl, rfl, rfl, rfl⟩,
    Delivery.database_run (fun _ _ => trivial) run sampleDelivery⟩

theorem exists_of_any {α : Type} {value : Option α} {test : α -> Bool} (passes : value.any test = true) :
    ∃ found, value = some found ∧ test found = true := by
  cases value with
  | none => cases passes
  | some found => exact ⟨found, rfl, passes⟩

/-- The run is selected, and its stream opened, before the test. -/
def watchedBy (test : Delivery -> Bool) : Bool :=
  (sampleDelivery.replay Queue.samplePlatform selecting).any fun (selected : Delivery) =>
    selected.page.subscriptions.isEmpty &&
      (selected.attempt Queue.samplePlatform (.page (.detailArrives 0 runningDetail))).any
        fun (detailed : Delivery) => (detailed.replay Queue.samplePlatform opening).any test

/-- Any transactions may run while the stream of the run is open. -/
theorem watched_timely {test : Delivery -> Bool} (passes : watchedBy test = true) :
    ∃ watched, test watched = true ∧ forall store calls,
      (Queue.queueSystem Queue.samplePlatform).Run Queue.sampleStore calls store ->
        ((deliverySystem Queue.samplePlatform).restrictSteps Timely).Reachable
          { watched with store := store } := by
  rcases exists_of_any passes with ⟨selected, selects, passes⟩
  rcases (Bool.and_eq_true _ _).mp passes with ⟨alone, passes⟩
  rcases exists_of_any passes with ⟨detailed, details, passes⟩
  rcases exists_of_any passes with ⟨watched, opens, tested⟩
  refine ⟨watched, tested, ?_⟩
  intro store calls run
  have detailTimely : Timely selected (.page (.detailArrives 0 runningDetail)) := by
    intro refresh detail id completes latest
    cases completes
    cases latest
    refine ⟨by decide, Or.inr ?_⟩
    intro ticket member
    unfold Page.track at member
    rw [List.isEmpty_iff.mp alone] at member
    cases member
  have sameStore : watched.store = Queue.sampleStore :=
    (Delivery.replay_store opens).trans
      ((Delivery.attempt_store details).trans (Delivery.replay_store selects))
  rw [← sameStore] at run
  exact (((sampleDelivery_reachable.run (replay_timely (by decide) selects)).step
    ⟨Delivery.attempt_delivers details, detailTimely⟩).run (replay_timely (by decide) opens)).run
      (Delivery.database_run (fun _ _ => trivial) run watched)

def isEvent (id : Nat) (status : String) : Option Frame -> Bool
  | some (.persisted event) =>
      event.eventId = id && event.payloadJson.field? "status" = some (.string status)
  | _ => false

/-- The page is about to read an event that is newer than every event before it. -/
def isArriving (id : Nat) (status : String) (state : Delivery) : Bool :=
  state.page.state.runId = some "run_1" && state.seen.all (fun earlier => earlier < id) &&
    (state.page.subscription? 1).any (fun stream => stream.runId = "run_1") &&
    state.channels.all (fun channel => channel.handle = 1 && isEvent id status channel.next?) &&
    (state.channel? 1).isSome

theorem event_of_isEvent {id : Nat} {status : String} {frame : Option Frame}
    (isNext : isEvent id status frame = true) : ∃ event, frame = some (.persisted event) ∧
      event.eventId = id ∧ event.payloadJson.field? "status" = some (.string status) := by
  cases frame with
  | none => cases isNext
  | some found =>
      cases found with
      | reset _ _ | heartbeat _ _ => cases isNext
      | persisted event =>
          rcases (Bool.and_eq_true _ _).mp isNext with ⟨sameId, sameStatus⟩
          exact ⟨event, rfl, of_decide_eq_true sameId, of_decide_eq_true sameStatus⟩

theorem newEvent_of_isArriving {id : Nat} {status : String} {state : Delivery}
    (exactId : id < exactIntegers) (arriving : isArriving id status state = true) :
    Timely state (.frameArrives 1) ∧ ∃ stream event, stream.handle = 1 ∧ event.eventId = id ∧
      event.payloadJson.field? "status" = some (.string status) ∧ NewEvent state stream event := by
  unfold isArriving at arriving
  simp only [Bool.and_eq_true, decide_eq_true_eq, List.all_eq_true] at arriving
  rcases arriving with ⟨⟨⟨⟨selected, newest⟩, subscribed⟩, streamed⟩, opened⟩
  rcases exists_of_any subscribed with ⟨stream, found, ofRun⟩
  rcases subscription?_some found with ⟨running, handle⟩
  rcases Option.isSome_iff_exists.mp opened with ⟨channel, channelFound⟩
  rcases Delivery.channel?_some channelFound with ⟨accepted, sameHandle⟩
  rcases event_of_isEvent (streamed channel accepted).2 with ⟨event, next, sameId, sameStatus⟩
  refine ⟨?_, stream, event, handle, sameId, sameStatus, running, ?_, ?_, ?_⟩
  · intro _ _ _ _ other otherAccepted _ frame otherNext
    rcases event_of_isEvent (streamed other otherAccepted).2 with ⟨last, lastNext, lastId, _⟩
    rw [otherNext, Option.some.injEq] at lastNext
    rw [lastNext]
    exact lastId.trans_lt exactId
  · rw [selected, of_decide_eq_true ofRun]
  · exact ⟨channel, accepted, sameHandle.trans handle.symm, next⟩
  · rw [sameId]
    exact newest

/-! ## Every event is applied -/

/-- In every run in which no heartbeat and no refresh brings an identifier that
is not covered, an event that is newer than every event before it is applied,
and when the refresh of a terminal event completes the page shows its status. -/
theorem events_applied {platform : Queue.Platform} {state : Delivery}
    (reachable : ((deliverySystem platform).restrictSteps Timely).Reachable state) :
    forall stream event result, NewEvent state stream event ->
      Timely state (.frameArrives stream.handle) ->
        Deliver platform state (.frameArrives stream.handle) result ->
          Applied state.page stream (sseEvent platform stream event) result.page ∧
          forall status : Queue.SimulationStatus, status.isTerminal = true ->
            (eventData platform stream.runId event).field? "status" = some (.string status.text) ->
              forall labels later label final refresh detail,
                (deliverySystem platform).Run result labels later ->
                  Deliver platform later (.page label) final ->
                    Completes later.page label refresh detail ->
                      refresh.handle = state.page.nextHandle ->
                        ∃ shown, final.page.state.detail = some shown ∧
                          shown.status = .string status.text := by
  intro stream event result arriving timely delivered
  have sound := reachable_sound reachable
  have applied := applied_of_new sound arriving timely delivered
  refine ⟨applied, ?_⟩
  intro status terminal carried labels later label final refresh detail run finished completes same
  have begun := pursues_of_frame sound arriving delivered terminal carried applied
  exact (begun.run terminal run).completes finished completes same

/-- The run fails. -/
def failedStore : Queue.Store :=
  Queue.settleCall Queue.samplePlatform Queue.sampleStore (6, .failJob Queue.runLease (.object []) false)

def failedDetail : SimulationDetail where
  status := .string "FAILED"
  currentStage := .null
  queuePosition := .null
  latestEventId := some 4

/-- The refresh with the handle is about to complete with the detail. -/
def isCompleting (handle : Nat) (detail : SimulationDetail) (state : Delivery) : Bool :=
  ⟨handle, detail⟩ ∈ state.answers &&
    (state.page.refresh? handle).any fun refresh =>
      (match refresh.phase with
        | .awaitingDetail => true
        | _ => false) && state.page.accepts refresh Fetched.empty

/-- What the page does once the stream is open and the run has failed. -/
def failing (watched : Delivery) : Bool :=
  let polls : List DeliveryLabel := [.poll 1 (.readBounds 6), .poll 1 .readPage]
  ({ watched with store := failedStore }.replay Queue.samplePlatform polls).any fun arriving =>
    isArriving 4 "FAILED" arriving && arriving.page.nextHandle = 2 &&
      (arriving.attempt Queue.samplePlatform (.frameArrives 1)).any fun (shown : Delivery) =>
        (shown.attempt Queue.samplePlatform (.answer 2)).any fun (answered : Delivery) =>
          isCompleting 2 failedDetail answered &&
            (answered.attempt Queue.samplePlatform (.page (.detailArrives 2 failedDetail))).isSome

theorem completes_of_isCompleting {handle : Nat} {detail : SimulationDetail} {state : Delivery}
    (incomplete : detail.status ≠ .string "COMPLETED")
    (completing : isCompleting handle detail state = true) :
    ∃ refresh, refresh.handle = handle ∧
      Completes state.page (.detailArrives handle detail) refresh detail := by
  rcases (Bool.and_eq_true _ _).mp completing with ⟨_, pending⟩
  rcases exists_of_any pending with ⟨refresh, found, accepted⟩
  rcases (Bool.and_eq_true _ _).mp accepted with ⟨awaits, accepted⟩
  refine ⟨refresh, (refresh?_some found).2, Completes.detail found ?_ incomplete accepted⟩
  cases phase : refresh.phase with
  | awaitingDetail => rfl
  | awaitingResults _ | returned =>
      rw [phase] at awaits
      cases awaits

/-- The failure of the run is read from its stream, and its refresh shows it. -/
theorem events_applied_sample :
    ∃ state stream event result, NewEvent state stream event ∧
      Applied state.page stream (sseEvent Queue.samplePlatform stream event) result.page ∧
        ∃ labels later label final shown,
          (deliverySystem Queue.samplePlatform).Run result labels later ∧
            Deliver Queue.samplePlatform later (.page label) final ∧
              final.page.state.detail = some shown ∧ shown.status = .string "FAILED" := by
  have passes : watchedBy failing = true := by decide +kernel
  rcases watched_timely passes with ⟨watched, fails, open_⟩
  rcases exists_of_any fails with ⟨state, polled, passes⟩
  simp only [Bool.and_eq_true, decide_eq_true_eq] at passes
  rcases passes with ⟨⟨arrives, nextHandle⟩, passes⟩
  rcases exists_of_any passes with ⟨result, handed, passes⟩
  rcases exists_of_any passes with ⟨answered, answers, passes⟩
  rcases (Bool.and_eq_true _ _).mp passes with ⟨completing, finishes⟩
  rcases Option.isSome_iff_exists.mp finishes with ⟨final, finished⟩
  rcases newEvent_of_isArriving (by decide) arrives with ⟨timely, stream, event, handle, _, status, new⟩
  rcases completes_of_isCompleting (by decide) completing with ⟨refresh, sameHandle, completes⟩
  rcases @Queue.settleCall_run Queue.samplePlatform Queue.sampleStore
    (6, .failJob Queue.runLease (.object []) false) with ⟨calls, run⟩
  have reachable := (open_ failedStore calls run).run (replay_timely (by decide) polled)
  rw [← handle] at timely handed
  have delivered := Delivery.attempt_delivers handed
  have applies := events_applied reachable stream event result new timely delivered
  refine ⟨state, stream, event, result, new, applies.1, ?_⟩
  rcases applies.2 .failed rfl (eventData_status.mpr status) [.answer 2] answered _ final refresh
    failedDetail (System.Run.single (Delivery.attempt_delivers answers))
    (Delivery.attempt_delivers finished) completes (sameHandle.trans nextHandle.symm) with
    ⟨shown, detail, failed⟩
  exact ⟨_, answered, _, final, shown, System.Run.single (Delivery.attempt_delivers answers),
    Delivery.attempt_delivers finished, detail, failed⟩

/-- A worker reports itself alive 102 times before the stream is polled.  The
first page ends at the event 103, and the heartbeat after it names the event 105. -/
def lagging (watched : Delivery) : Bool :=
  let polls : List DeliveryLabel :=
    [.poll 1 (.readBounds 6), .poll 1 .readPage, .poll 1 (.heartbeat 6), .poll 1 (.readBounds 7),
      .poll 1 .readPage]
  ({ watched with store := Queue.beatStore Queue.sampleStore_justClaimed 102 102 }.replay
      Queue.samplePlatform (polls ++ List.replicate 101 (DeliveryLabel.frameArrives 1))).any fun arriving =>
    isArriving 104 "RUNNING" arriving &&
      (arriving.attempt Queue.samplePlatform (.frameArrives 1)).any fun (passed : Delivery) =>
        passed.page.state.lastEventId = some 105

/-- A heartbeat overtakes the events that are still to be sent, and the next of
them is dropped as old. -/
theorem event_overtaken :
    ∃ state stream event result, (deliverySystem Queue.samplePlatform).Reachable state ∧
      NewEvent state stream event ∧
        Deliver Queue.samplePlatform state (.frameArrives stream.handle) result ∧
          ¬ Applied state.page stream (sseEvent Queue.samplePlatform stream event) result.page := by
  have passes : watchedBy lagging = true := by decide +kernel
  rcases watched_timely passes with ⟨watched, lags, open_⟩
  rcases exists_of_any lags with ⟨state, polled, passes⟩
  rcases (Bool.and_eq_true _ _).mp passes with ⟨arrives, passes⟩
  rcases exists_of_any passes with ⟨result, handed, cursor⟩
  rcases newEvent_of_isArriving (by decide) arrives with ⟨_, stream, event, handle, id, _, new⟩
  rcases Queue.beat_run Queue.sampleStore_justClaimed 102 (by decide) with ⟨calls, run⟩
  rw [Queue.beatStore_zero] at run
  have reachable := (open_ _ calls run).of_restrictSteps.run (Delivery.replay_run polled)
  rw [← handle] at handed
  refine ⟨state, stream, event, result, reachable, new, Delivery.attempt_delivers handed, ?_⟩
  intro applied
  have moved : some 105 = some event.eventId := (of_decide_eq_true cursor).symm.trans applied.cursor
  rw [id] at moved
  cases moved

end Frontend
end FederatedIot
