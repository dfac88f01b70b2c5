import FederatedIot.Foundation.Transition
import Mathlib.Data.List.Nodup

namespace FederatedIot
namespace Frontend

open Foundation

/-!
# The dataset poller of the page

`DatasetPoller` asks for a dataset until it needs no more polling, with a timer
between two requests.  A call of `watch`, `stop` or `close` supersedes the watch
before it, also when a handler makes the call.  One step is one uninterrupted
piece of work: a call from outside, the continuation of a request with all that
its handler calls, or a timer.
-/

/-! ## Datasets -/

/-- The fields of a dataset that are read, empty when they are missing. -/
structure WatchedDataset where
  datasetId : String
  status : String
  preflightStatus : String
  deriving DecidableEq

/-- `toUpperCase`, of the letters that become Latin capitals. -/
def upper (status : String) : String :=
  String.ofList (status.toList.map fun char => if char = 'ı' then 'I' else if char = 'ſ' then 'S' else char.toUpper)

def activeDatasetStatuses : List String := ["VALIDATING", "QUEUED", "RUNNING"]

def terminalDatasetStatuses : List String := ["VALID", "INVALID", "FAILED"]

def needsDatasetPolling (dataset : WatchedDataset) : Bool :=
  let datasetStatus := upper dataset.status
  let preflightStatus := upper dataset.preflightStatus
  if terminalDatasetStatuses.contains datasetStatus || terminalDatasetStatuses.contains preflightStatus then false
  else activeDatasetStatuses.contains datasetStatus || activeDatasetStatuses.contains preflightStatus

/-! ## The poller -/

/-- A call of `poll` that waits for its answer. -/
structure PollRequest where
  handle : Nat
  generation : Nat
  datasetId : String
  aborted : Bool
  deriving DecidableEq

structure PollTimer where
  handle : Nat
  generation : Nat
  deriving DecidableEq

/-- The poller with the work that it has left pending.  A controller is known by its
request. -/
structure DatasetPoller where
  timer : Option Nat
  controller : Option Nat
  datasetId : Option String
  generation : Nat
  requestActive : Bool
  requests : List PollRequest
  timers : List PollTimer
  nextHandle : Nat
  deriving DecidableEq

inductive PollerCall where
  | watch (dataset : WatchedDataset)
  | stop
  | close
  deriving DecidableEq

namespace DatasetPoller

def initial : DatasetPoller where
  timer := none
  controller := none
  datasetId := none
  generation := 0
  requestActive := false
  requests := []
  timers := []
  nextHandle := 0

variable (poller : DatasetPoller)

/-- `poll` up to its `await`. -/
def poll (generation : Nat) : DatasetPoller :=
  match poller.datasetId with
  | some datasetId =>
      if generation ≠ poller.generation ∨ poller.requestActive then poller
      else
        { poller with
          requestActive := true
          controller := some poller.nextHandle
          requests := poller.requests ++ [{ handle := poller.nextHandle, generation, datasetId, aborted := false }]
          nextHandle := poller.nextHandle + 1 }
  | none => poller

def stop : DatasetPoller :=
  { poller with
    generation := poller.generation + 1
    timers := poller.timers.filter fun timer => some timer.handle ≠ poller.timer
    timer := none
    requests := poller.requests.map fun request =>
      if some request.handle = poller.controller then { request with aborted := true } else request
    controller := none
    datasetId := none
    requestActive := false }

def close : DatasetPoller :=
  poller.stop

/-- Whether a watch of the dataset polls. -/
def polls (dataset : WatchedDataset) : Bool :=
  dataset.datasetId ≠ "" && needsDatasetPolling dataset

def watch (dataset : WatchedDataset) : DatasetPoller :=
  if polls dataset then
    { poller.stop with datasetId := some dataset.datasetId }.poll poller.stop.generation
  else poller.stop

def call : PollerCall -> DatasetPoller
  | .watch dataset => poller.watch dataset
  | .stop => poller.stop
  | .close => poller.close

def schedule (generation : Nat) : DatasetPoller :=
  if generation ≠ poller.generation ∨ poller.datasetId = none then poller
  else
    { poller with
      timer := some poller.nextHandle
      timers := poller.timers ++ [{ handle := poller.nextHandle, generation }]
      nextHandle := poller.nextHandle + 1 }

/-- The callback of a timer. -/
def timerFires (timer : PollTimer) : DatasetPoller :=
  { poller with
    timers := poller.timers.filter fun other => other.handle ≠ timer.handle
    timer := none }.poll timer.generation

/-- The `finally` of `poll`. -/
def finishPoll (request : PollRequest) (continuePolling : Bool) : DatasetPoller :=
  if request.generation ≠ poller.generation ∨
      (some request.datasetId ≠ poller.datasetId ∧ poller.datasetId ≠ none) then poller
  else
    let finished : DatasetPoller :=
      { poller with
        controller := if poller.controller = some request.handle then none else poller.controller
        requestActive := false }
    if continuePolling then finished.schedule request.generation else finished

/-- Whether the answer of the request reaches a handler. -/
def delivers (request : PollRequest) : Bool :=
  request.generation = poller.generation && some request.datasetId = poller.datasetId

def removeRequest (request : PollRequest) : DatasetPoller :=
  { poller with requests := poller.requests.filter fun other => other.handle ≠ request.handle }

/-- The calls that a handler makes. -/
def calls (made : List PollerCall) : DatasetPoller :=
  made.foldl DatasetPoller.call poller

/-- The request brings a dataset, and `onDataset` makes calls. -/
def responds (request : PollRequest) (dataset : WatchedDataset) (made : List PollerCall) : DatasetPoller :=
  let resumed := poller.removeRequest request
  if poller.delivers request then
    let handled := resumed.calls made
    let continuePolling := needsDatasetPolling dataset
    (if continuePolling then handled else { handled with datasetId := none }).finishPoll request continuePolling
  else resumed.finishPoll request false

/-- The request fails, and `onError` makes calls. -/
def fails (request : PollRequest) (made : List PollerCall) : DatasetPoller :=
  let resumed := poller.removeRequest request
  if poller.delivers request then (resumed.calls made).finishPoll request true
  else resumed.finishPoll request false

/-- The request ends with an `AbortError`. -/
def aborts (request : PollRequest) : DatasetPoller :=
  (poller.removeRequest request).finishPoll request false

end DatasetPoller

/-! ## Steps -/

inductive PollerLabel where
  | call (call : PollerCall)
  | responds (handle : Nat) (dataset : WatchedDataset) (made : List PollerCall)
  | fails (handle : Nat) (made : List PollerCall)
  | aborts (handle : Nat)
  | timerFires (handle : Nat)

namespace DatasetPoller

def request? (poller : DatasetPoller) (handle : Nat) : Option PollRequest :=
  poller.requests.find? fun request => request.handle = handle

def timer? (poller : DatasetPoller) (handle : Nat) : Option PollTimer :=
  poller.timers.find? fun timer => timer.handle = handle

/-- One uninterrupted piece of work; `none` when it is not pending.  Only an aborted
request ends with an `AbortError`. -/
def perform (poller : DatasetPoller) : PollerLabel -> Option DatasetPoller
  | .call call => some (poller.call call)
  | .responds handle dataset made => (poller.request? handle).map fun request => poller.responds request dataset made
  | .fails handle made => (poller.request? handle).map fun request => poller.fails request made
  | .aborts handle => (poller.request? handle).bind fun request =>
      if request.aborted then some (poller.aborts request) else none
  | .timerFires handle => (poller.timer? handle).map poller.timerFires

/-- The requests that are in flight. -/
def inFlight (poller : DatasetPoller) : List PollRequest :=
  poller.requests.filter fun request => !request.aborted

end DatasetPoller

/-! ## The watch that is meant -/

/-- The poller, with the number of calls so far and the dataset that is watched since
the last of them. -/
structure Watching where
  poller : DatasetPoller
  made : Nat
  current : Option String
  deriving DecidableEq

/-- The dataset that is watched after a call. -/
def watchedAfter (_ : Option String) : PollerCall -> Option String
  | .watch dataset => if DatasetPoller.polls dataset then some dataset.datasetId else none
  | .stop => none
  | .close => none

namespace Watching

def initial : Watching :=
  { poller := DatasetPoller.initial, made := 0, current := none }

/-- The request belongs to a watch before the last call. -/
def Superseded (watching : Watching) (request : PollRequest) : Prop :=
  request.generation ≠ watching.made

instance (watching : Watching) (request : PollRequest) : Decidable (watching.Superseded request) :=
  inferInstanceAs (Decidable (_ ≠ _))

/-- The calls of a handler, made when the watch has the dataset left. -/
def handled (watching : Watching) (left : Option String) (made : List PollerCall) : Nat × Option String :=
  (watching.made + made.length, made.foldl watchedAfter left)

/-- The calls so far and the dataset that is watched after a step.  A response that
needs no more polling ends the watch that it answers. -/
def after (watching : Watching) : PollerLabel -> Nat × Option String
  | .call call => (watching.made + 1, watchedAfter watching.current call)
  | .responds handle dataset made =>
      match watching.poller.request? handle with
      | some request =>
          if watching.Superseded request then (watching.made, watching.current)
          else watching.handled (if needsDatasetPolling dataset then watching.current else none) made
      | none => (watching.made, watching.current)
  | .fails handle made =>
      match watching.poller.request? handle with
      | some request =>
          if watching.Superseded request then (watching.made, watching.current)
          else watching.handled watching.current made
      | none => (watching.made, watching.current)
  | _ => (watching.made, watching.current)

def perform (watching : Watching) (label : PollerLabel) : Option Watching :=
  (watching.poller.perform label).map fun poller =>
    { poller, made := (watching.after label).1, current := (watching.after label).2 }

end Watching

/-- The poller from its start, with calls, answers and timers in every order. -/
def pollerSystem : System Watching PollerLabel where
  initial := fun watching => watching = Watching.initial
  step := fun source label target => source.perform label = some target

/-- Between two steps a watch has one request in flight for its dataset or one timer,
without a watch there is neither, and only an answer to the watch reaches a
handler. -/
structure Watched (watching : Watching) : Prop where
  active : forall datasetId, watching.current = some datasetId ->
    (∃ request, watching.poller.inFlight = [request] ∧ request.datasetId = datasetId ∧
        ¬watching.Superseded request ∧ watching.poller.timers = []) ∨
      (watching.poller.inFlight = [] ∧ ∃ timer, watching.poller.timers = [timer])
  idle : watching.current = none -> watching.poller.inFlight = [] ∧ watching.poller.timers = []
  current : forall request, request ∈ watching.poller.requests -> watching.poller.delivers request = true ->
    ¬watching.Superseded request ∧ watching.current = some request.datasetId

/-- The handler of a last response does not leave a new watch. -/
def LeavesNoWatch (watching : Watching) : PollerLabel -> Prop
  | .responds handle dataset made =>
      forall request, watching.poller.request? handle = some request -> watching.poller.delivers request = true ->
        needsDatasetPolling dataset = false -> made.foldl watchedAfter none = none
  | _ => True

/-! ## The poller between two steps -/

namespace DatasetPoller

/-- The fields of the poller agree with the work that is pending. -/
inductive Phase (poller : DatasetPoller) : Option String -> Prop
  | idle (datasetId : poller.datasetId = none) (inFlight : poller.inFlight = []) (timers : poller.timers = [])
      (controller : poller.controller = none) (timer : poller.timer = none)
      (requestActive : poller.requestActive = false) : Phase poller none
  | requesting (request : PollRequest) (datasetId : poller.datasetId = some request.datasetId)
      (inFlight : poller.inFlight = [request]) (generation : request.generation = poller.generation)
      (timers : poller.timers = []) (controller : poller.controller = some request.handle)
      (timer : poller.timer = none) (requestActive : poller.requestActive = true) : Phase poller (some request.datasetId)
  | waiting (watched : String) (pending : PollTimer) (datasetId : poller.datasetId = some watched)
      (inFlight : poller.inFlight = []) (timers : poller.timers = [pending])
      (generation : pending.generation = poller.generation) (controller : poller.controller = none)
      (timer : poller.timer = some pending.handle) (requestActive : poller.requestActive = false) :
      Phase poller (some watched)

/-- The requests have handles of their own, and the aborted ones are of earlier
generations. -/
structure Ledger (poller : DatasetPoller) : Prop where
  old : forall request, request ∈ poller.requests -> request.aborted = true -> request.generation < poller.generation
  below : forall request, request ∈ poller.requests -> request.handle < poller.nextHandle
  distinct : (poller.requests.map PollRequest.handle).Nodup

structure Settled (poller : DatasetPoller) (current : Option String) : Prop where
  ledger : poller.Ledger
  phase : poller.Phase current

/-- Whatever is pending can be reached by `stop`. -/
structure Held (poller : DatasetPoller) : Prop where
  timers : forall timer, timer ∈ poller.timers -> some timer.handle = poller.timer
  requests : forall request, request ∈ poller.requests -> request.aborted = false ->
    some request.handle = poller.controller
  generations : forall request, request ∈ poller.requests -> request.generation ≤ poller.generation
  below : forall request, request ∈ poller.requests -> request.handle < poller.nextHandle
  distinct : (poller.requests.map PollRequest.handle).Nodup

variable {poller : DatasetPoller} {current : Option String}

theorem mem_inFlight {request : PollRequest} :
    request ∈ poller.inFlight ↔ request ∈ poller.requests ∧ request.aborted = false := by
  rw [inFlight, List.mem_filter, Bool.not_eq_true']

theorem Phase.datasetId (phase : poller.Phase current) : poller.datasetId = current := by
  cases phase with
  | idle datasetId _ _ _ _ _ => exact datasetId
  | requesting request datasetId _ _ _ _ _ _ => exact datasetId
  | waiting watched pending datasetId _ _ _ _ _ _ => exact datasetId

theorem Settled.held (settled : poller.Settled current) : poller.Held := by
  have ledger := settled.ledger
  have controlled : forall request, request ∈ poller.inFlight ->
      some request.handle = poller.controller ∧ request.generation = poller.generation := by
    intro request flying
    cases settled.phase with
    | idle _ inFlight _ _ _ _ =>
        rw [inFlight] at flying
        cases flying
    | requesting only _ inFlight generation _ controller _ _ =>
        rw [inFlight] at flying
        rw [List.mem_singleton.mp flying]
        exact ⟨controller.symm, generation⟩
    | waiting _ _ _ inFlight _ _ _ _ _ =>
        rw [inFlight] at flying
        cases flying
  refine ⟨?_, ?_, ?_, ledger.below, ledger.distinct⟩
  · intro timer pending
    cases settled.phase with
    | idle _ _ timers _ _ _ =>
        rw [timers] at pending
        cases pending
    | requesting _ _ _ _ timers _ _ _ =>
        rw [timers] at pending
        cases pending
    | waiting _ only _ _ timers _ _ isTimer _ =>
        rw [timers] at pending
        rw [List.mem_singleton.mp pending, isTimer]
  · intro request member running
    exact (controlled request (mem_inFlight.mpr ⟨member, running⟩)).1
  · intro request member
    cases running : request.aborted with
    | true => exact Nat.le_of_lt (ledger.old request member running)
    | false => exact Nat.le_of_eq (controlled request (mem_inFlight.mpr ⟨member, running⟩)).2

/-! ## Calls -/

theorem stop_settled (held : poller.Held) : poller.stop.Settled none := by
  have noRequest : forall request, request ∈ poller.stop.requests ->
      request.aborted = true ∧ ∃ original ∈ poller.requests,
        request.handle = original.handle ∧ request.generation = original.generation := by
    intro request member
    rcases List.mem_map.mp member with ⟨original, isOriginal, rfl⟩
    by_cases controlled : some original.handle = poller.controller
    · rw [if_pos controlled]
      exact ⟨rfl, original, isOriginal, rfl, rfl⟩
    · rw [if_neg controlled]
      refine ⟨?_, original, isOriginal, rfl, rfl⟩
      cases running : original.aborted with
      | true => rfl
      | false => exact absurd (held.requests original isOriginal running) controlled
  refine ⟨⟨?_, ?_, ?_⟩, ?_⟩
  · intro request member _
    rcases (noRequest request member).2 with ⟨original, isOriginal, _, same⟩
    rw [same]
    exact Nat.lt_succ_of_le (held.generations original isOriginal)
  · intro request member
    rcases (noRequest request member).2 with ⟨original, isOriginal, same, _⟩
    rw [same]
    exact held.below original isOriginal
  · have handles : poller.stop.requests.map PollRequest.handle = poller.requests.map PollRequest.handle := by
      rw [stop, List.map_map]
      apply List.map_congr_left
      intro request _
      dsimp only [Function.comp]
      split
      · rfl
      · rfl
    rw [handles]
    exact held.distinct
  · apply Phase.idle rfl
    · apply List.filter_eq_nil_iff.mpr
      intro request member
      rw [(noRequest request member).1]
      exact Bool.false_ne_true
    · apply List.filter_eq_nil_iff.mpr
      intro timer member
      rw [held.timers timer member]
      simp
    · rfl
    · rfl
    · rfl

/-- A poll without another request or timer. -/
theorem poll_settled (ledger : poller.Ledger) {watched : String} (datasetId : poller.datasetId = some watched)
    (inFlight : poller.inFlight = []) (timers : poller.timers = []) (timer : poller.timer = none)
    (requestActive : poller.requestActive = false) :
    (poller.poll poller.generation).Settled (some watched) ∧
      (poller.poll poller.generation).generation = poller.generation := by
  have polled : poller.poll poller.generation =
      { poller with
        requestActive := true
        controller := some poller.nextHandle
        requests := poller.requests ++
          [{ handle := poller.nextHandle, generation := poller.generation, datasetId := watched, aborted := false }]
        nextHandle := poller.nextHandle + 1 } := by
    simp only [poll, datasetId, requestActive]
    rw [if_neg]
    simp
  rw [polled]
  refine ⟨⟨⟨?_, ?_, ?_⟩, ?_⟩, rfl⟩
  · intro request member aborted
    rcases List.mem_append.mp member with earlier | new
    · exact ledger.old request earlier aborted
    · rw [List.mem_singleton.mp new] at aborted
      cases aborted
  · intro request member
    rcases List.mem_append.mp member with earlier | new
    · exact Nat.lt_succ_of_lt (ledger.below request earlier)
    · rw [List.mem_singleton.mp new]
      exact Nat.lt_succ_self _
  · rw [List.map_append]
    apply List.nodup_append.mpr
    refine ⟨ledger.distinct, List.nodup_singleton _, ?_⟩
    intro first firstMember second secondMember same
    rcases List.mem_map.mp firstMember with ⟨request, member, rfl⟩
    have less := ledger.below request member
    rw [same, List.mem_singleton.mp secondMember] at less
    exact Nat.lt_irrefl _ less
  · apply Phase.requesting
      { handle := poller.nextHandle, generation := poller.generation, datasetId := watched, aborted := false }
    · exact datasetId
    · rw [DatasetPoller.inFlight, List.filter_append]
      change poller.inFlight ++ _ = _
      rw [inFlight]
      rfl
    · rfl
    · exact timers
    · rfl
    · exact timer
    · rfl

theorem call_settled (held : poller.Held) (left : Option String) (made : PollerCall) :
    (poller.call made).Settled (watchedAfter left made) ∧ (poller.call made).generation = poller.generation + 1 := by
  have stopped := stop_settled held
  cases made with
  | stop => exact ⟨stopped, rfl⟩
  | close => exact ⟨stopped, rfl⟩
  | watch dataset =>
      rw [call, watch, watchedAfter]
      by_cases polled : polls dataset = true
      · rw [if_pos polled, if_pos polled]
        cases stopped.phase with
        | idle _ inFlight timers _ timer requestActive =>
            exact @poll_settled { poller.stop with datasetId := some dataset.datasetId }
              ⟨stopped.ledger.old, stopped.ledger.below, stopped.ledger.distinct⟩ _ rfl inFlight timers timer
              requestActive
      · rw [if_neg polled, if_neg polled]
        exact ⟨stopped, rfl⟩

/-- The calls of a handler, of which there is one at least. -/
theorem calls_settled (held : poller.Held) {made : List PollerCall} (nonempty : made ≠ []) (left : Option String) :
    (poller.calls made).Settled (made.foldl watchedAfter left) ∧
      (poller.calls made).generation = poller.generation + made.length := by
  induction made generalizing poller left with
  | nil => exact absurd rfl nonempty
  | cons first rest inductionHypothesis =>
      have one := call_settled held left first
      rw [calls, List.foldl_cons, List.foldl_cons, List.length_cons]
      cases rest with
      | nil => exact one
      | cons second others =>
          have later := inductionHypothesis one.1.held (List.cons_ne_nil second others) (watchedAfter left first)
          refine ⟨later.1, later.2.trans ?_⟩
          rw [one.2, Nat.add_right_comm, Nat.add_assoc]

/-! ## Answers and timers -/

theorem removeRequest_mem {request other : PollRequest} :
    other ∈ (poller.removeRequest request).requests ↔ other ∈ poller.requests ∧ other.handle ≠ request.handle := by
  rw [removeRequest, List.mem_filter, decide_eq_true_eq]

theorem Ledger.removeRequest (ledger : poller.Ledger) (request : PollRequest) :
    (poller.removeRequest request).Ledger where
  old := fun other member => ledger.old other (removeRequest_mem.mp member).1
  below := fun other member => ledger.below other (removeRequest_mem.mp member).1
  distinct := ledger.distinct.sublist (List.filter_sublist.map PollRequest.handle)

theorem Held.removeRequest (held : poller.Held) (request : PollRequest) : (poller.removeRequest request).Held where
  timers := held.timers
  requests := fun other member => held.requests other (removeRequest_mem.mp member).1
  generations := fun other member => held.generations other (removeRequest_mem.mp member).1
  below := fun other member => held.below other (removeRequest_mem.mp member).1
  distinct := held.distinct.sublist (List.filter_sublist.map PollRequest.handle)

theorem Ledger.same_request (ledger : poller.Ledger) {first second : PollRequest} (firstMember : first ∈ poller.requests)
    (secondMember : second ∈ poller.requests) (same : first.handle = second.handle) : first = second :=
  List.inj_on_of_nodup_map ledger.distinct firstMember secondMember same

theorem inFlight_removeRequest (request : PollRequest) :
    (poller.removeRequest request).inFlight = poller.inFlight.filter fun other => other.handle ≠ request.handle := by
  rw [inFlight, removeRequest, inFlight, List.filter_filter, List.filter_filter]
  apply List.filter_congr
  intro other _
  exact Bool.and_comm _ _

/-- An aborted request leaves nothing behind. -/
theorem aborted_removed (settled : poller.Settled current) {request : PollRequest}
    (member : request ∈ poller.requests) (aborted : request.aborted = true) :
    (poller.removeRequest request).Settled current := by
  have inFlight : (poller.removeRequest request).inFlight = poller.inFlight := by
    rw [inFlight_removeRequest, List.filter_eq_self]
    intro other flying
    apply decide_eq_true
    intro same
    have running := mem_inFlight.mp flying
    rw [settled.ledger.same_request running.1 member same, aborted] at running
    cases running.2
  refine ⟨settled.ledger.removeRequest request, ?_⟩
  cases settled.phase with
  | idle datasetId flying timers controller timer requestActive =>
      exact Phase.idle datasetId (inFlight.trans flying) timers controller timer requestActive
  | requesting only datasetId flying generation timers controller timer requestActive =>
      exact Phase.requesting only datasetId (inFlight.trans flying) generation timers controller timer requestActive
  | waiting watched pending datasetId flying timers generation controller timer requestActive =>
      exact Phase.waiting watched pending datasetId (inFlight.trans flying) timers generation controller timer
        requestActive

theorem finishPoll_superseded {request : PollRequest} (superseded : request.generation ≠ poller.generation)
    (continuePolling : Bool) : poller.finishPoll request continuePolling = poller :=
  if_pos (Or.inl superseded)

/-- A request that is not aborted is the one of the watch, and it reaches a
handler. -/
theorem running_request (settled : poller.Settled current) {request : PollRequest} (member : request ∈ poller.requests)
    (running : request.aborted = false) :
    poller.inFlight = [request] ∧ poller.datasetId = some request.datasetId ∧ current = some request.datasetId ∧
      request.generation = poller.generation ∧ poller.timers = [] ∧ poller.controller = some request.handle ∧
      poller.timer = none := by
  have flying := mem_inFlight.mpr ⟨member, running⟩
  cases settled.phase with
  | idle _ inFlight _ _ _ _ =>
      rw [inFlight] at flying
      cases flying
  | requesting only datasetId inFlight generation timers controller timer _ =>
      rw [inFlight] at flying
      rw [List.mem_singleton.mp flying]
      exact ⟨inFlight, datasetId, rfl, generation, timers, controller, timer⟩
  | waiting _ _ _ inFlight _ _ _ _ _ =>
      rw [inFlight] at flying
      cases flying

theorem delivers_iff (settled : poller.Settled current) {request : PollRequest} (member : request ∈ poller.requests) :
    poller.delivers request = true ↔ request.aborted = false := by
  rw [delivers, Bool.and_eq_true, decide_eq_true_eq, decide_eq_true_eq]
  constructor
  · intro reaches
    cases running : request.aborted with
    | false => rfl
    | true => exact absurd reaches.1 (Nat.ne_of_lt (settled.ledger.old request member running))
  · intro running
    have watched := running_request settled member running
    exact ⟨watched.2.2.2.1, watched.2.1.symm⟩

/-- The end of a request whose handler made no call. -/
theorem finish_quiet (settled : poller.Settled current) {request : PollRequest} (member : request ∈ poller.requests)
    (running : request.aborted = false) :
    ((poller.removeRequest request).finishPoll request true).Settled current ∧
      ({ poller.removeRequest request with datasetId := none }.finishPoll request false).Settled none ∧
      ((poller.removeRequest request).finishPoll request true).generation = poller.generation ∧
      ({ poller.removeRequest request with datasetId := none }.finishPoll request false).generation =
        poller.generation := by
  rcases running_request settled member running with ⟨flying, datasetId, isCurrent, generation, timers, controller, timer⟩
  have ledger := settled.ledger.removeRequest request
  have inFlight : (poller.removeRequest request).inFlight = [] := by
    rw [inFlight_removeRequest, flying]
    apply List.filter_eq_nil_iff.mpr
    intro other only
    rw [List.mem_singleton.mp only]
    simp
  have again : (poller.removeRequest request).finishPoll request true =
      { poller.removeRequest request with
        controller := none
        requestActive := false
        timer := some poller.nextHandle
        timers := poller.timers ++ [{ handle := poller.nextHandle, generation := request.generation }]
        nextHandle := poller.nextHandle + 1 } := by
    simp [finishPoll, schedule, DatasetPoller.removeRequest, generation, datasetId, controller]
  have ended : { poller.removeRequest request with datasetId := none }.finishPoll request false =
      { poller.removeRequest request with datasetId := none, controller := none, requestActive := false } := by
    simp [finishPoll, DatasetPoller.removeRequest, generation, controller]
  rw [again, ended, isCurrent]
  refine ⟨⟨⟨ledger.old, ?_, ledger.distinct⟩, ?_⟩, ⟨⟨ledger.old, ledger.below, ledger.distinct⟩, ?_⟩, rfl, rfl⟩
  · intro other inside
    exact Nat.lt_succ_of_lt (ledger.below other inside)
  · apply Phase.waiting request.datasetId { handle := poller.nextHandle, generation := request.generation }
    · exact datasetId
    · exact inFlight
    · rw [timers, List.nil_append]
    · exact generation
    · rfl
    · rfl
    · rfl
  · exact Phase.idle rfl inFlight timers rfl timer rfl

theorem timerFires_settled (settled : poller.Settled current) {timer : PollTimer} (member : timer ∈ poller.timers) :
    (poller.timerFires timer).Settled current ∧ (poller.timerFires timer).generation = poller.generation := by
  cases settled.phase with
  | idle _ _ timers _ _ _ =>
      rw [timers] at member
      cases member
  | requesting _ _ _ _ timers _ _ _ =>
      rw [timers] at member
      cases member
  | waiting watched pending datasetId inFlight timers generation controller isTimer requestActive =>
      rw [timers] at member
      rw [List.mem_singleton.mp member, timerFires, generation]
      apply @poll_settled { poller with timers := poller.timers.filter _, timer := none }
        ⟨settled.ledger.old, settled.ledger.below, settled.ledger.distinct⟩ watched datasetId inFlight _ rfl
        requestActive
      rw [timers]
      apply List.filter_eq_nil_iff.mpr
      intro other only
      rw [List.mem_singleton.mp only]
      simp

end DatasetPoller

/-! ## Runs -/

namespace Watching

/-- The poller has counted the calls, and it watches the dataset that is meant. -/
structure Sound (watching : Watching) : Prop where
  settled : watching.poller.Settled watching.current
  made : watching.poller.generation = watching.made

variable {watching target : Watching}

theorem sound_initial : Sound initial :=
  ⟨⟨⟨fun _ member => absurd member List.not_mem_nil, fun _ member => absurd member List.not_mem_nil, List.nodup_nil⟩,
    DatasetPoller.Phase.idle rfl rfl rfl rfl rfl rfl⟩, rfl⟩

theorem request?_some {handle : Nat} {request : PollRequest} (found : watching.poller.request? handle = some request) :
    request ∈ watching.poller.requests :=
  List.mem_of_find?_eq_some found

/-- A request that reaches no handler is aborted and superseded. -/
theorem Sound.unheard (sound : Sound watching) {request : PollRequest} (member : request ∈ watching.poller.requests)
    (unheard : watching.poller.delivers request ≠ true) : request.aborted = true ∧ watching.Superseded request := by
  have aborted : request.aborted = true := by
    cases running : request.aborted with
    | true => rfl
    | false => exact absurd ((DatasetPoller.delivers_iff sound.settled member).mpr running) unheard
  refine ⟨aborted, ?_⟩
  rw [Superseded, ← sound.made]
  exact Nat.ne_of_lt (sound.settled.ledger.old request member aborted)

theorem Sound.heard (sound : Sound watching) {request : PollRequest} (member : request ∈ watching.poller.requests)
    (heard : watching.poller.delivers request = true) : request.aborted = false ∧ ¬watching.Superseded request := by
  have running := (DatasetPoller.delivers_iff sound.settled member).mp heard
  refine ⟨running, not_not.mpr ?_⟩
  rw [← sound.made]
  exact (DatasetPoller.running_request sound.settled member running).2.2.2.1

/-- The calls of a handler supersede the request it answers. -/
theorem Sound.superseded (sound : Sound watching) {request : PollRequest} (member : request ∈ watching.poller.requests)
    (running : request.aborted = false) {made : List PollerCall} (nonempty : made ≠ []) {poller : DatasetPoller}
    (grown : poller.generation = watching.poller.generation + made.length) (continuePolling : Bool) :
    poller.finishPoll request continuePolling = poller := by
  apply DatasetPoller.finishPoll_superseded
  have same := (DatasetPoller.running_request sound.settled member running).2.2.2.1
  have some := List.length_pos_iff.mpr nonempty
  omega

theorem sound_unheard (sound : Sound watching) {request : PollRequest} (member : request ∈ watching.poller.requests)
    (aborted : request.aborted = true) :
    Sound { watching with poller := (watching.poller.removeRequest request).finishPoll request false } := by
  have old := sound.settled.ledger.old request member aborted
  rw [@DatasetPoller.finishPoll_superseded (watching.poller.removeRequest request) request (Nat.ne_of_lt old)]
  exact ⟨DatasetPoller.aborted_removed sound.settled member aborted, sound.made⟩

theorem sound_responds (sound : Sound watching) {handle : Nat} {dataset : WatchedDataset} {made : List PollerCall}
    (leaves : LeavesNoWatch watching (.responds handle dataset made)) {request : PollRequest}
    (found : watching.poller.request? handle = some request) :
    Sound { poller := watching.poller.responds request dataset made
            made := (watching.after (.responds handle dataset made)).1
            current := (watching.after (.responds handle dataset made)).2 } := by
  have member := request?_some found
  by_cases heard : watching.poller.delivers request = true
  · rcases sound.heard member heard with ⟨running, unsuperseded⟩
    have quiet := DatasetPoller.finish_quiet sound.settled member running
    have held := sound.settled.held.removeRequest request
    simp only [after, found, if_neg unsuperseded, handled, DatasetPoller.responds, if_pos heard]
    cases made with
    | nil =>
        cases needs : needsDatasetPolling dataset with
        | true => exact ⟨quiet.1, quiet.2.2.1.trans sound.made⟩
        | false => exact ⟨quiet.2.1, quiet.2.2.2.trans sound.made⟩
    | cons first rest =>
        have nonempty := List.cons_ne_nil first rest
        cases needs : needsDatasetPolling dataset with
        | true =>
            have calls := DatasetPoller.calls_settled held nonempty watching.current
            have same := sound.superseded member running nonempty calls.2 true
            simp only [if_true]
            rw [same]
            exact ⟨calls.1, calls.2.trans (congrArg (· + (first :: rest).length) sound.made)⟩
        | false =>
            have calls := DatasetPoller.calls_settled held nonempty none
            have none := leaves request found heard needs
            rw [none] at calls
            have forgotten : { (watching.poller.removeRequest request).calls (first :: rest) with datasetId := Option.none } =
                (watching.poller.removeRequest request).calls (first :: rest) := by
              rw [← calls.1.phase.datasetId]
            have same := sound.superseded member running nonempty calls.2 false
            simp only [Bool.false_eq_true, if_false]
            rw [forgotten, same, none]
            exact ⟨calls.1, calls.2.trans (congrArg (· + (first :: rest).length) sound.made)⟩
  · rcases sound.unheard member heard with ⟨aborted, superseded⟩
    simp only [after, found, if_pos superseded, DatasetPoller.responds, if_neg heard]
    exact sound_unheard sound member aborted

theorem sound_fails (sound : Sound watching) {handle : Nat} {made : List PollerCall} {request : PollRequest}
    (found : watching.poller.request? handle = some request) :
    Sound { poller := watching.poller.fails request made
            made := (watching.after (.fails handle made)).1
            current := (watching.after (.fails handle made)).2 } := by
  have member := request?_some found
  by_cases heard : watching.poller.delivers request = true
  · rcases sound.heard member heard with ⟨running, unsuperseded⟩
    have quiet := DatasetPoller.finish_quiet sound.settled member running
    have held := sound.settled.held.removeRequest request
    simp only [after, found, if_neg unsuperseded, handled, DatasetPoller.fails, if_pos heard]
    cases made with
    | nil => exact ⟨quiet.1, quiet.2.2.1.trans sound.made⟩
    | cons first rest =>
        have nonempty := List.cons_ne_nil first rest
        have calls := DatasetPoller.calls_settled held nonempty watching.current
        rw [sound.superseded member running nonempty calls.2 true]
        exact ⟨calls.1, calls.2.trans (congrArg (· + (first :: rest).length) sound.made)⟩
  · rcases sound.unheard member heard with ⟨aborted, superseded⟩
    simp only [after, found, if_pos superseded, DatasetPoller.fails, if_neg heard]
    exact sound_unheard sound member aborted

/-- One step. -/
theorem sound_step (sound : Sound watching) {label : PollerLabel} (leaves : LeavesNoWatch watching label)
    (performed : watching.perform label = some target) : Sound target := by
  rcases Option.map_eq_some_iff.mp performed with ⟨poller, stepped, rfl⟩
  cases label with
  | call call =>
      have called := DatasetPoller.call_settled sound.settled.held watching.current call
      rw [← Option.some.inj stepped]
      exact ⟨called.1, called.2.trans (congrArg (· + 1) sound.made)⟩
  | responds handle dataset made =>
      rcases Option.map_eq_some_iff.mp stepped with ⟨request, found, rfl⟩
      exact sound_responds sound leaves found
  | fails handle made =>
      rcases Option.map_eq_some_iff.mp stepped with ⟨request, found, rfl⟩
      exact sound_fails sound found
  | aborts handle =>
      rcases Option.bind_eq_some_iff.mp stepped with ⟨request, found, ended⟩
      split at ended
      · next aborted =>
          rw [← Option.some.inj ended]
          exact sound_unheard sound (request?_some found) aborted
      · cases ended
  | timerFires handle =>
      rcases Option.map_eq_some_iff.mp stepped with ⟨timer, found, rfl⟩
      have fired := DatasetPoller.timerFires_settled sound.settled (List.mem_of_find?_eq_some found)
      exact ⟨fired.1, fired.2.trans sound.made⟩

theorem Sound.watched (sound : Sound watching) : Watched watching := by
  refine ⟨?_, ?_, ?_⟩
  · intro datasetId isCurrent
    have phase := sound.settled.phase
    rw [isCurrent] at phase
    cases phase with
    | requesting request _ inFlight generation timers _ _ _ =>
        left
        exact ⟨request, inFlight, rfl, not_not.mpr (generation.trans sound.made), timers⟩
    | waiting _ pending _ inFlight timers _ _ _ _ =>
        right
        exact ⟨inFlight, pending, timers⟩
  · intro nothing
    have phase := sound.settled.phase
    rw [nothing] at phase
    cases phase with
    | idle _ inFlight timers _ _ _ => exact ⟨inFlight, timers⟩
  · intro request member heard
    rcases sound.heard member heard with ⟨running, unsuperseded⟩
    exact ⟨unsuperseded, (DatasetPoller.running_request sound.settled member running).2.2.1⟩

end Watching

/-- A run in which no handler of a last response leaves a new watch polls without a
gap and without a second request or timer. -/
theorem dataset_polling_watched {watching : Watching}
    (reachable : (pollerSystem.restrictSteps LeavesNoWatch).Reachable watching) : Watched watching := by
  apply Watching.Sound.watched
  apply reachable.invariant
  · rintro _ rfl
    exact Watching.sound_initial
  · intro source label target _ step sound
    exact Watching.sound_step sound step.2 step.1

/-- A dataset that is still validated. -/
def validating (datasetId : String) : WatchedDataset :=
  { datasetId, status := "VALIDATING", preflightStatus := "" }

/-- The dataset when it is valid. -/
def valid (datasetId : String) : WatchedDataset :=
  { datasetId, status := "VALID", preflightStatus := "" }

/-- The handler of the last response for one dataset watches another one. -/
def watchNext : List PollerLabel :=
  [.call (.watch (validating "ds_1")), .responds 0 (valid "ds_1") [.watch (validating "ds_2")],
    .responds 1 (validating "ds_2") []]

def afterWatchNext : Option Watching :=
  watchNext.foldlM (fun watching label => watching.perform label) Watching.initial

/-- The second dataset is watched and needs polling, and nothing is pending. -/
theorem polling_lost_after_next :
    ∃ watching, pollerSystem.Reachable watching ∧ watching.current = some "ds_2" ∧
      watching.poller.inFlight = [] ∧ watching.poller.timers = [] ∧ ¬Watched watching := by
  rcases Option.isSome_iff_exists.mp (show afterWatchNext.isSome = true by decide) with ⟨watching, replayed⟩
  have state : afterWatchNext.map (fun watching =>
      (watching.current, watching.poller.inFlight, watching.poller.timers)) = some (some "ds_2", [], []) := rfl
  rw [replayed, Option.map_some, Option.some.injEq, Prod.mk.injEq, Prod.mk.injEq] at state
  refine ⟨watching, ⟨_, _, rfl, System.Run.of_replay (fun _ _ _ performed => performed) replayed⟩, state.1, state.2.1,
    state.2.2, ?_⟩
  intro watched
  rcases watched.active "ds_2" state.1 with ⟨request, flying, _⟩ | ⟨_, timer, pending⟩
  · rw [state.2.1] at flying
    cases flying
  · rw [state.2.2] at pending
    cases pending

/-- The poller after a watch and its first response. -/
def firstRequest : Watching :=
  { Watching.initial with poller := DatasetPoller.initial.watch (validating "ds_1"), made := 1, current := some "ds_1" }

def firstResponse : Watching :=
  { firstRequest with
    poller := firstRequest.poller.responds
      { handle := 0, generation := 1, datasetId := "ds_1", aborted := false } (validating "ds_1") [] }

theorem dataset_polling_watched_sample : Watched firstResponse ∧ firstResponse.poller.timers.length = 1 := by
  have requested : pollerSystem.step Watching.initial (.call (.watch (validating "ds_1"))) firstRequest := by
    show Watching.initial.perform _ = some firstRequest
    decide
  have responded : pollerSystem.step firstRequest (.responds 0 (validating "ds_1") []) firstResponse := by
    show firstRequest.perform _ = some firstResponse
    decide
  refine ⟨dataset_polling_watched ⟨Watching.initial, _, rfl, System.Run.cons ⟨requested, trivial⟩
    (System.Run.single ⟨responded, fun _ _ _ _ => rfl⟩)⟩, rfl⟩

end Frontend
end FederatedIot
