import FederatedIot.Foundation.Json
import FederatedIot.Foundation.Transition

namespace FederatedIot
namespace Frontend

open Foundation

/-!
# The simulation store of the page

`SimulationStore` keeps one selected run.  Its methods run to their first
`await` and leave the rest pending: REST requests that are answered later,
continuations that run once a refresh has returned, reconnect timers, and the
event streams of `subscribeSimulationEvents`.  The page is the store with all
of this pending work, and one step is one uninterrupted piece of it.

A refresh aborts the request of the refresh before it, and an aborted request
never delivers a value.  So a request is aborted exactly when its controller is
no longer the store's `requestController`.  Listeners of the store only read
it.  The readiness fields and their timer never meet the rest and are left out.
-/

/-! ## Values -/

/-- `Number(text)` of a decimal numeral: the nearest double, ties to even. -/
def number (value : Nat) : Nat :=
  let unit := 2 ^ (value.log2 + 1 - 53)
  let below := value / unit * unit
  if 2 * (value % unit) < unit ∨ (2 * (value % unit) = unit ∧ value / unit % 2 = 0) then below
  else below + unit

/-- Whether a value passes an `if`. -/
def truthy : Json -> Bool
  | .null => false
  | .bool value => value
  | .number value => value.mantissa ≠ 0
  | .string value => value ≠ ""
  | .array _ | .object _ => true

/-- The fields of the REST detail that the store reads or changes. -/
structure SimulationDetail where
  status : Json
  currentStage : Json
  queuePosition : Json
  latestEventId : Option Nat
  deriving DecidableEq

/-- What a stream hands to `onEvent`, and what the store keeps of it. -/
structure SseEvent where
  id : Option Nat
  type : String
  data : Json

inductive RequestError where
  | abort
  | other (message : String)

/-- A frozen result of one run, or why it could not be read. -/
structure Fetched where
  value : Option Json
  runId : Option String
  error : Option RequestError

def Fetched.empty : Fetched where
  value := none
  runId := none
  error := none

/-- The outcome of one promise of `Promise.allSettled`. -/
def Fetched.settled (runId : String) : Except RequestError (Option Json) -> Fetched
  | .ok value => { value := value, runId := value.map fun _ => runId, error := none }
  | .error reason => { value := none, runId := none, error := some reason }

inductive ConnectionState where
  | idle
  | connecting
  | connected
  | disconnected
  deriving DecidableEq

structure StoreState where
  runId : Option String
  detail : Option SimulationDetail
  summary : Option Json
  summaryRunId : Option String
  results : Fetched
  alarms : Fetched
  artifacts : Fetched
  selectedAgent : Int
  lastEventId : Option Nat
  events : List SseEvent
  connection : ConnectionState
  loading : Bool
  error : Option RequestError

def StoreState.initial : StoreState where
  runId := none
  detail := none
  summary := none
  summaryRunId := none
  results := Fetched.empty
  alarms := Fetched.empty
  artifacts := Fetched.empty
  selectedAgent := 1
  lastEventId := none
  events := []
  connection := .idle
  loading := false
  error := none

/-- The selected run when `runId` passes an `if`. -/
def StoreState.selected (state : StoreState) : Option String :=
  state.runId.filter fun runId => runId ≠ ""

/-! ## Event identifiers and projection -/

/-- `isTerminalStatus` of `contract.ts`. -/
def isTerminalStatus (status : Json) : Bool :=
  status ∈ [Json.string "COMPLETED", .string "CANCELLED", .string "FAILED",
    .string "FAILED_RECOVERABLE"]

def monotonicEventId : Option Nat -> Option Nat -> Option Nat
  | none, none => none
  | none, some candidate => some candidate
  | some previous, none => some previous
  | some previous, some candidate => some (max previous candidate)

def isNewerEventId : Option Nat -> Option Nat -> Bool
  | _, none => true
  | none, some _ => true
  | some previous, some candidate => previous < candidate

/-- `event.data.run_id && event.data.run_id !== runId`. -/
def namesOtherRun (runId : String) (data : Json) : Bool :=
  match data.field? "run_id" with
  | some named => truthy named && named ≠ Json.string runId
  | none => false

def projectSseEvent (runId : String) (event : SseEvent) (detail : SimulationDetail) :
    SimulationDetail :=
  if namesOtherRun runId event.data then detail
  else
    { status := (event.data.field? "status").getD detail.status
      currentStage := (event.data.field? "current_stage").getD detail.currentStage
      queuePosition := (event.data.field? "queue_position").getD detail.queuePosition
      latestEventId := event.id.or detail.latestEventId }

/-- `event.data?.status || isTerminalStatus(event.data?.status)`. -/
def carriesStatus (data : Json) : Bool :=
  match data.field? "status" with
  | some status => truthy status || isTerminalStatus status
  | none => false

/-- `[...events, event].slice(-100)`. -/
def keepEvents (events : List SseEvent) (event : SseEvent) : List SseEvent :=
  (events ++ [event]).drop ((events ++ [event]).length - 100)

/-! ## Pending work -/

/-- What follows a refresh once it has returned. -/
inductive FollowUp where
  | nothing
  | connect
  deriving DecidableEq

inductive RefreshPhase where
  | awaitingDetail
  | awaitingResults (detail : SimulationDetail)
  | returned

/-- A call of `refresh` that has reached an `await`, or has returned while its
continuation is still to run. -/
structure PendingRefresh where
  handle : Nat
  runId : String
  selectedAgent : Int
  phase : RefreshPhase
  followUp : FollowUp

/-- A subscription whose request is running: it was neither closed nor did its
stream end. -/
structure Subscription where
  handle : Nat
  runId : String
  lastEventId : Option Nat
  eventId : Option Nat
  opened : Bool

structure ReconnectTimer where
  handle : Nat
  runId : String

/-- The store with the work that it has left pending. -/
structure Page where
  state : StoreState
  subscription : Option Nat
  requestController : Option Nat
  reconnectTimer : Option Nat
  refreshes : List PendingRefresh
  subscriptions : List Subscription
  timers : List ReconnectTimer
  nextHandle : Nat

def Page.initial : Page where
  state := StoreState.initial
  subscription := none
  requestController := none
  reconnectTimer := none
  refreshes := []
  subscriptions := []
  timers := []
  nextHandle := 0

namespace Page

variable (page : Page)

/-- `refresh` up to its first `await`. -/
def beginRefresh (followUp : FollowUp) : Page :=
  match page.state.selected with
  | none =>
      { page with
        refreshes := page.refreshes ++
          [{ handle := page.nextHandle, runId := "", selectedAgent := page.state.selectedAgent,
             phase := .returned, followUp := followUp }]
        nextHandle := page.nextHandle + 1 }
  | some runId =>
      { page with
        requestController := some page.nextHandle
        refreshes := page.refreshes ++
          [{ handle := page.nextHandle, runId := runId, selectedAgent := page.state.selectedAgent,
             phase := .awaitingDetail, followUp := followUp }]
        nextHandle := page.nextHandle + 1 }

def closeRunSubscription : Page :=
  { page with
    subscriptions := page.subscriptions.filter fun stream => some stream.handle ≠ page.subscription
    subscription := none
    requestController := none
    timers := page.timers.filter fun timer => some timer.handle ≠ page.reconnectTimer
    reconnectTimer := none }

/-- `close`; the readiness part is left out. -/
def close : Page :=
  page.closeRunSubscription

/-- The state that `selectRun` emits. -/
def selectedState (runId : Option String) : StoreState :=
  { StoreState.initial with runId := runId, connection := .connecting, loading := true }

def selectRun (runId : Option String) : Page :=
  { page.closeRunSubscription with state := selectedState runId }.beginRefresh .connect

/-- `summary?.selection?.agent`. -/
def summaryAgent (summary : Option Json) : Option Json :=
  summary.bind fun value => (value.field? "selection").bind fun selection => selection.field? "agent"

/-- `value === agent`. -/
def isAgent (agent : Int) : Json -> Bool
  | .number value => value.equals (Decimal.ofInt agent)
  | _ => false

def selectAgent (agent : Int) : Page :=
  if agent ∉ [1, 2, 3] then page
  else if page.state.selectedAgent = agent ∧
      (summaryAgent page.state.summary).any (isAgent agent) then page
  else
    { page with
      state := { page.state with
        selectedAgent := agent, summary := none, summaryRunId := none
        results := Fetched.empty, alarms := Fetched.empty
        loading := page.state.selected.isSome, error := none } }.beginRefresh .nothing

/-- `connect`. -/
def connect : Page :=
  match page.state.selected with
  | none => page
  | some runId =>
      { page with
        subscription := some page.nextHandle
        subscriptions := page.subscriptions ++
          [{ handle := page.nextHandle, runId := runId, lastEventId := page.state.lastEventId,
             eventId := page.state.lastEventId, opened := false }]
        nextHandle := page.nextHandle + 1 }

/-! ### Refreshes -/

def setRefresh (refresh : PendingRefresh) (phase : RefreshPhase) : Page :=
  { page with
    refreshes := page.refreshes.map fun pending =>
      if pending.handle = refresh.handle then { pending with phase := phase } else pending }

/-- Whether the refresh still concerns the selection of the store. -/
def concerns (refresh : PendingRefresh) : Prop :=
  some refresh.runId = page.state.runId ∧ refresh.selectedAgent = page.state.selectedAgent

instance (refresh : PendingRefresh) : Decidable (page.concerns refresh) :=
  inferInstanceAs (Decidable (_ ∧ _))

/-- The `catch` of `refresh`. -/
def failRefresh (refresh : PendingRefresh) (reason : RequestError) : Page :=
  match reason with
  | .abort => page.setRefresh refresh .returned
  | .other _ =>
      if page.concerns refresh then
        { page.setRefresh refresh .returned with
          state := { page.state with loading := false, error := some reason } }
      else page.setRefresh refresh .returned

/-- The end of `refresh` after its last `await`. -/
def finishRefresh (refresh : PendingRefresh) (detail : SimulationDetail) (summary : Fetched)
    (results alarms artifacts : Fetched) : Page :=
  if page.concerns refresh then
    match summaryAgent summary.value with
    | some agent =>
        if isAgent refresh.selectedAgent agent then emitRefresh
        else page.failRefresh refresh (.other "Summary selection does not match the selected Agent.")
    | none => emitRefresh
  else page.setRefresh refresh .returned
where
  emitRefresh : Page :=
    let lastEventId := monotonicEventId page.state.lastEventId detail.latestEventId
    { page.setRefresh refresh .returned with
      state := { page.state with
        detail := some { detail with latestEventId := lastEventId.or detail.latestEventId }
        summary := summary.value, summaryRunId := summary.runId
        results := results, alarms := alarms, artifacts := artifacts
        loading := false, error := summary.error, lastEventId := lastEventId } }

/-- `getSimulation` delivers its value. -/
def detailArrives (refresh : PendingRefresh) (detail : SimulationDetail) : Page :=
  if detail.status = .string "COMPLETED" then page.setRefresh refresh (.awaitingResults detail)
  else page.finishRefresh refresh detail Fetched.empty Fetched.empty Fetched.empty Fetched.empty

/-! ### Streams -/

def updateSubscription (stream : Subscription) (change : Subscription -> Subscription) : Page :=
  { page with
    subscriptions := page.subscriptions.map fun other =>
      if other.handle = stream.handle then change other else other }

def onOpen (stream : Subscription) : Page :=
  if some stream.runId ≠ page.state.runId then page
  else { page with state := { page.state with connection := .connected } }

/-- The response of the stream's request arrives. -/
def streamOpens (stream : Subscription) : Page :=
  (page.updateSubscription stream fun other => { other with opened := true }).onOpen stream

def onEvent (stream : Subscription) (event : SseEvent) : Page :=
  if some stream.runId ≠ page.state.runId then page
  else if event.type = "stream.reset" then
    { page with state := { page.state with connection := .connected } }.beginRefresh .nothing
  else if isNewerEventId page.state.lastEventId event.id then
    let applied : Page :=
      { page with
        state := { page.state with
          detail := page.state.detail.map (projectSseEvent stream.runId event)
          lastEventId := event.id.or page.state.lastEventId
          events := keepEvents page.state.events event
          connection := .connected } }
    if carriesStatus event.data then applied.beginRefresh .nothing else applied
  else page

/-- A frame reaches the reader of the stream: `if (fields.id) eventId = ...`. -/
def frameArrives (stream : Subscription) (id : Option Nat) (type : String) (data : Json) : Page :=
  let eventId := (id.map number).or stream.eventId
  (page.updateSubscription stream fun other => { other with eventId := eventId }).onEvent stream
    { id := eventId, type := type, data := data }

/-- The request of the stream ends or fails, and `onDisconnect` runs. -/
def streamEnds (stream : Subscription) : Page :=
  let ended : Page :=
    { page with
      subscriptions := page.subscriptions.filter fun other => other.handle ≠ stream.handle }
  if some stream.runId ≠ page.state.runId then ended
  else
    { ended with
      state := { page.state with connection := .disconnected }
      reconnectTimer := some page.nextHandle
      timers := page.timers ++ [{ handle := page.nextHandle, runId := stream.runId }]
      nextHandle := page.nextHandle + 1 }

/-- The callback of a reconnect timer. -/
def timerFires (timer : ReconnectTimer) : Page :=
  let fired : Page :=
    { page with timers := page.timers.filter fun other => other.handle ≠ timer.handle }
  if some timer.runId = page.state.runId then fired.beginRefresh .connect else fired

def removeRefresh (refresh : PendingRefresh) : Page :=
  { page with refreshes := page.refreshes.filter fun other => other.handle ≠ refresh.handle }

/-- The continuation of a refresh that has returned. -/
def resume (refresh : PendingRefresh) : Page :=
  match refresh.followUp with
  | .nothing => page.removeRefresh refresh
  | .connect => (page.removeRefresh refresh).connect

end Page

/-! ## Steps -/

/-- A call of a method, or the next piece of pending work. -/
inductive PageLabel where
  | selectRun (runId : Option String)
  | selectAgent (agent : Int)
  | refresh
  | close
  | detailArrives (handle : Nat) (detail : SimulationDetail)
  | detailFails (handle : Nat) (reason : RequestError)
  | resultsSettle (handle : Nat)
      (summary results alarms artifacts : Except RequestError (Option Json))
  | resume (handle : Nat)
  | streamOpens (handle : Nat)
  | frameArrives (handle : Nat) (id : Option Nat) (type : String) (data : Json)
  | streamEnds (handle : Nat)
  | timerFires (handle : Nat)

namespace Page

def refresh? (page : Page) (handle : Nat) : Option PendingRefresh :=
  page.refreshes.find? fun refresh => refresh.handle = handle

def subscription? (page : Page) (handle : Nat) : Option Subscription :=
  page.subscriptions.find? fun stream => stream.handle = handle

def timer? (page : Page) (handle : Nat) : Option ReconnectTimer :=
  page.timers.find? fun timer => timer.handle = handle

/-- The request of the refresh has not been aborted. -/
def isCurrent (page : Page) (refresh : PendingRefresh) : Bool :=
  page.requestController = some refresh.handle

/-- What a pending refresh makes of its next answer. -/
def answerRefresh (page : Page) (refresh : PendingRefresh) : PageLabel -> Option Page
  | .detailArrives _ detail =>
      match refresh.phase with
      | .awaitingDetail =>
          if page.isCurrent refresh then some (page.detailArrives refresh detail) else none
      | _ => none
  | .detailFails _ reason =>
      match refresh.phase with
      | .awaitingDetail => some (page.failRefresh refresh reason)
      | _ => none
  | .resultsSettle _ summary results alarms artifacts =>
      match refresh.phase with
      | .awaitingResults detail =>
          some (page.finishRefresh refresh detail (Fetched.settled refresh.runId summary)
            (Fetched.settled refresh.runId results) (Fetched.settled refresh.runId alarms)
            (Fetched.settled refresh.runId artifacts))
      | _ => none
  | .resume _ =>
      match refresh.phase with
      | .returned => some (page.resume refresh)
      | _ => none
  | _ => none

/-- One uninterrupted piece of work; `none` when it is not pending. -/
def perform (label : PageLabel) (page : Page) : Option Page :=
  match label with
  | .selectRun runId => some (page.selectRun runId)
  | .selectAgent agent => some (page.selectAgent agent)
  | .refresh => some (page.beginRefresh .nothing)
  | .close => some page.close
  | .detailArrives handle _ | .detailFails handle _ | .resultsSettle handle _ _ _ _
  | .resume handle => (page.refresh? handle).bind fun refresh => page.answerRefresh refresh label
  | .streamOpens handle => (page.subscription? handle).bind fun stream =>
      if stream.opened then none else some (page.streamOpens stream)
  | .frameArrives handle id type data => (page.subscription? handle).bind fun stream =>
      if stream.opened then some (page.frameArrives stream id type data) else none
  | .streamEnds handle => (page.subscription? handle).map page.streamEnds
  | .timerFires handle => (page.timer? handle).map page.timerFires

def replay (labels : List PageLabel) (page : Page) : Option Page :=
  labels.foldlM (fun page label => page.perform label) page

end Page

/-- The page from its start, with calls and pending work in every order. -/
def pageSystem : System Page PageLabel where
  initial := fun page => page = Page.initial
  step := fun source label target => source.perform label = some target

section

variable {page result : Page} {label : PageLabel}

/-- The steps of the page, taken apart. -/
inductive Perform (page : Page) : PageLabel -> Page -> Prop
  | selectRun (runId : Option String) : Perform page (.selectRun runId) (page.selectRun runId)
  | selectAgent (agent : Int) : Perform page (.selectAgent agent) (page.selectAgent agent)
  | refresh : Perform page .refresh (page.beginRefresh .nothing)
  | close : Perform page .close page.close
  | detailArrives {refresh : PendingRefresh} (detail : SimulationDetail)
      (pending : refresh ∈ page.refreshes) (awaits : refresh.phase = .awaitingDetail)
      (current : page.requestController = some refresh.handle) :
      Perform page (.detailArrives refresh.handle detail) (page.detailArrives refresh detail)
  | detailFails {refresh : PendingRefresh} (reason : RequestError)
      (pending : refresh ∈ page.refreshes) (awaits : refresh.phase = .awaitingDetail) :
      Perform page (.detailFails refresh.handle reason) (page.failRefresh refresh reason)
  | resultsSettle {refresh : PendingRefresh} {detail : SimulationDetail}
      (summary results alarms artifacts : Except RequestError (Option Json))
      (pending : refresh ∈ page.refreshes) (awaits : refresh.phase = .awaitingResults detail) :
      Perform page (.resultsSettle refresh.handle summary results alarms artifacts)
        (page.finishRefresh refresh detail (Fetched.settled refresh.runId summary)
          (Fetched.settled refresh.runId results) (Fetched.settled refresh.runId alarms)
          (Fetched.settled refresh.runId artifacts))
  | resume {refresh : PendingRefresh} (pending : refresh ∈ page.refreshes)
      (returned : refresh.phase = .returned) :
      Perform page (.resume refresh.handle) (page.resume refresh)
  | streamOpens {stream : Subscription} (running : stream ∈ page.subscriptions)
      (unopened : stream.opened = false) :
      Perform page (.streamOpens stream.handle) (page.streamOpens stream)
  | frameArrives {stream : Subscription} (id : Option Nat) (type : String) (data : Json)
      (running : stream ∈ page.subscriptions) (opened : stream.opened = true) :
      Perform page (.frameArrives stream.handle id type data)
        (page.frameArrives stream id type data)
  | streamEnds {stream : Subscription} (running : stream ∈ page.subscriptions) :
      Perform page (.streamEnds stream.handle) (page.streamEnds stream)
  | timerFires {timer : ReconnectTimer} (armed : timer ∈ page.timers) :
      Perform page (.timerFires timer.handle) (page.timerFires timer)

theorem refresh?_some {handle : Nat} {refresh : PendingRefresh}
    (found : page.refresh? handle = some refresh) :
    refresh ∈ page.refreshes ∧ refresh.handle = handle := by
  have named := List.find?_some found
  exact ⟨List.mem_of_find?_eq_some found, of_decide_eq_true named⟩

theorem subscription?_some {handle : Nat} {stream : Subscription}
    (found : page.subscription? handle = some stream) :
    stream ∈ page.subscriptions ∧ stream.handle = handle := by
  have named := List.find?_some found
  exact ⟨List.mem_of_find?_eq_some found, of_decide_eq_true named⟩

theorem timer?_some {handle : Nat} {timer : ReconnectTimer}
    (found : page.timer? handle = some timer) :
    timer ∈ page.timers ∧ timer.handle = handle := by
  have named := List.find?_some found
  exact ⟨List.mem_of_find?_eq_some found, of_decide_eq_true named⟩

theorem perform_cases (accepted : page.perform label = some result) :
    Perform page label result := by
  cases label with
  | selectRun runId =>
      cases accepted
      exact Perform.selectRun runId
  | selectAgent agent =>
      cases accepted
      exact Perform.selectAgent agent
  | refresh =>
      cases accepted
      exact Perform.refresh
  | close =>
      cases accepted
      exact Perform.close
  | detailArrives handle detail =>
      rcases Option.bind_eq_some_iff.mp accepted with ⟨refresh, found, answered⟩
      rcases refresh?_some found with ⟨pending, rfl⟩
      cases phase : refresh.phase with
      | awaitingDetail =>
          simp only [Page.answerRefresh, phase] at answered
          split at answered
          · rename_i current
            cases answered
            exact Perform.detailArrives detail pending phase (of_decide_eq_true current)
          · cases answered
      | awaitingResults _ => simp [Page.answerRefresh, phase] at answered
      | returned => simp [Page.answerRefresh, phase] at answered
  | detailFails handle reason =>
      rcases Option.bind_eq_some_iff.mp accepted with ⟨refresh, found, answered⟩
      rcases refresh?_some found with ⟨pending, rfl⟩
      cases phase : refresh.phase with
      | awaitingDetail =>
          simp only [Page.answerRefresh, phase, Option.some.injEq] at answered
          exact answered ▸ Perform.detailFails reason pending phase
      | awaitingResults _ => simp [Page.answerRefresh, phase] at answered
      | returned => simp [Page.answerRefresh, phase] at answered
  | resultsSettle handle summary results alarms artifacts =>
      rcases Option.bind_eq_some_iff.mp accepted with ⟨refresh, found, answered⟩
      rcases refresh?_some found with ⟨pending, rfl⟩
      cases phase : refresh.phase with
      | awaitingResults detail =>
          simp only [Page.answerRefresh, phase, Option.some.injEq] at answered
          exact answered ▸ Perform.resultsSettle summary results alarms artifacts pending phase
      | awaitingDetail => simp [Page.answerRefresh, phase] at answered
      | returned => simp [Page.answerRefresh, phase] at answered
  | resume handle =>
      rcases Option.bind_eq_some_iff.mp accepted with ⟨refresh, found, answered⟩
      rcases refresh?_some found with ⟨pending, rfl⟩
      cases phase : refresh.phase with
      | returned =>
          simp only [Page.answerRefresh, phase, Option.some.injEq] at answered
          exact answered ▸ Perform.resume pending phase
      | awaitingDetail => simp [Page.answerRefresh, phase] at answered
      | awaitingResults _ => simp [Page.answerRefresh, phase] at answered
  | streamOpens handle =>
      rcases Option.bind_eq_some_iff.mp accepted with ⟨stream, found, opened⟩
      rcases subscription?_some found with ⟨running, rfl⟩
      split at opened
      · cases opened
      · rename_i unopened
        cases opened
        exact Perform.streamOpens running (Bool.eq_false_of_not_eq_true unopened)
  | frameArrives handle id type data =>
      rcases Option.bind_eq_some_iff.mp accepted with ⟨stream, found, read⟩
      rcases subscription?_some found with ⟨running, rfl⟩
      split at read
      · rename_i opened
        cases read
        exact Perform.frameArrives id type data running opened
      · cases read
  | streamEnds handle =>
      rcases Option.map_eq_some_iff.mp accepted with ⟨stream, found, rfl⟩
      rcases subscription?_some found with ⟨running, rfl⟩
      exact Perform.streamEnds running
  | timerFires handle =>
      rcases Option.map_eq_some_iff.mp accepted with ⟨timer, found, rfl⟩
      rcases timer?_some found with ⟨armed, rfl⟩
      exact Perform.timerFires armed

end

end Frontend
end FederatedIot
