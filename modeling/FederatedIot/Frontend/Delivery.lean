import FederatedIot.Foundation.Relation
import FederatedIot.Frontend.SimulationStore
import FederatedIot.Live.Framing
import FederatedIot.Queue.Testimony

namespace FederatedIot
namespace Frontend

open Foundation Foundation.Relation Live

/-!
# From the event log to the page

The database, the event streams of the server and the page in one system.  The
transactions of the queue, the polls of every stream, the answers to
`getSimulation` and the pieces of work of the page interleave in every order.
A stream is read in the order in which it is written, as far as the page reads
it; it may be any number of frames behind.

`seen` lists the identifiers of the events that the store was handed for its
selected run since it selected it.
-/

/-! ## State -/

/-- The stream of one subscription on the server, and how many of its frames the
page has read. -/
structure Channel where
  handle : Nat
  connection : Connection
  delivered : Nat

/-- The answer to the `getSimulation` of one refresh, on its way to the page. -/
structure Answer where
  handle : Nat
  detail : SimulationDetail
  deriving DecidableEq

structure Delivery where
  store : Queue.Store
  page : Page
  channels : List Channel
  answers : List Answer
  seen : List Nat

/-- The fields of `simulationResponse` that the page's store reads. -/
def simulationResponse (record : Queue.SimulationRecord) : SimulationDetail where
  status := .string record.status.text
  currentStage := Json.ofOption (fun stage => .string stage.text) record.currentStage
  queuePosition := Json.ofOption Json.ofNat record.queuePosition
  latestEventId := some (number record.latestEventId)

/-- The integers below are their own doubles. -/
def exactIntegers : Nat :=
  2 ^ 53

theorem number_of_exact {value : Nat} (exactInteger : value < exactIntegers) : number value = value := by
  have small : value.log2 < 53 := by
    by_cases zero : value = 0
    · rw [zero]
      decide
    · exact (Nat.log2_lt zero).mpr exactInteger
  have unit : value.log2 + 1 - 53 = 0 := by omega
  unfold number
  simp [unit, Nat.mod_one]

/-- The cursor that the server reads from `Last-Event-ID`, which is sent when it
passes an `if`.  An exact integer is sent as its numeral; how a larger number
is printed is left open. -/
def SentAs (lastEventId : Option Nat) (cursor : Int) : Prop :=
  lastEventId.getD 0 < exactIntegers -> cursor = (lastEventId.getD 0 : Nat)

namespace Channel

def opened (stream : Subscription) (cursor : Int) : Channel where
  handle := stream.handle
  connection := Connection.start stream.runId cursor
  delivered := 0

/-- The next frame that the page reads. -/
def next? (channel : Channel) : Option Frame :=
  channel.connection.written[channel.delivered]?

/-- What the page has reached on the stream. -/
def reached (channel : Channel) : Int :=
  reach channel.connection.cursor (channel.connection.written.take channel.delivered)

end Channel

namespace Delivery

variable (state : Delivery)

def channel? (handle : Nat) : Option Channel :=
  state.channels.find? fun channel => channel.handle = handle

def changeChannel (handle : Nat) (change : Channel -> Channel) : Delivery :=
  { state with channels := update state.channels (fun other => other.handle = handle) change }

/-- The events that the store was handed once the page has read a frame. -/
def handed (stream : Subscription) (frame : Frame) : List Nat :=
  match frame with
  | .persisted event =>
      if some stream.runId = state.page.state.runId then event.eventId :: state.seen else state.seen
  | _ => state.seen

end Delivery

/-! ## Steps -/

inductive DeliveryLabel where
  | database (call : Queue.Call)
  | page (label : PageLabel)
  | accept (handle : Nat) (cursor : Int)
  | poll (handle : Nat) (step : StreamStep)
  | answer (handle : Nat)
  | frameArrives (handle : Nat)

/-- What the page may do by itself, and what it needs an answer or a stream for. -/
def Delivery.Permits (state : Delivery) : PageLabel -> Prop
  | .detailArrives handle detail => ⟨handle, detail⟩ ∈ state.answers
  | .streamOpens handle => (state.channel? handle).isSome
  | .frameArrives _ _ _ _ => False
  | _ => True

def PageLabel.selects : PageLabel -> Bool
  | .selectRun _ => true
  | _ => false

/-- The events that the store was handed for its selection after a step of the
page. -/
def Delivery.seenAfter (state : Delivery) (label : PageLabel) : List Nat :=
  if label.selects then [] else state.seen

section

variable (platform : Queue.Platform)

inductive Deliver (state : Delivery) : DeliveryLabel -> Delivery -> Prop
  | database {call : Queue.Call} {store : Queue.Store}
      (transaction : Queue.Transaction platform state.store call store) :
      Deliver state (.database call) { state with store := store }
  | page {label : PageLabel} {page : Page} (permitted : state.Permits label)
      (performed : state.page.perform label = some page) :
      Deliver state (.page label) { state with page := page, seen := state.seenAfter label }
  | accept {stream : Subscription} {cursor : Int} (running : stream ∈ state.page.subscriptions)
      (unaccepted : state.channel? stream.handle = none)
      (known : (state.store.tables.simulations.find? fun row => row.runId = stream.runId).isSome)
      (sent : SentAs stream.lastEventId cursor) :
      Deliver state (.accept stream.handle cursor)
        { state with channels := state.channels ++ [Channel.opened stream cursor] }
  | poll {channel : Channel} {step : StreamStep} {connection : Connection}
      (accepted : channel ∈ state.channels)
      (advanced : channel.connection.advance state.store.tables.simulationEvents step =
        some connection) :
      Deliver state (.poll channel.handle step)
        (state.changeChannel channel.handle fun other => { other with connection := connection })
  | answer {refresh : PendingRefresh} {record : Queue.SimulationRecord}
      (pending : refresh ∈ state.page.refreshes) (awaits : refresh.phase = .awaitingDetail)
      (unanswered : ∀ answer ∈ state.answers, answer.handle ≠ refresh.handle)
      (found : Queue.simulationById refresh.runId state.store.tables = .ok record) :
      Deliver state (.answer refresh.handle)
        { state with answers := state.answers ++ [⟨refresh.handle, simulationResponse record⟩] }
  | frameArrives {stream : Subscription} {channel : Channel} {frame : Frame} {page : Page}
      (running : stream ∈ state.page.subscriptions) (accepted : channel ∈ state.channels)
      (same : channel.handle = stream.handle) (next : channel.next? = some frame)
      (performed : state.page.perform (.frameArrives stream.handle
        (some (frame.wire platform stream.runId).id) (frame.wire platform stream.runId).type
        (frame.wire platform stream.runId).data) = some page) :
      Deliver state (.frameArrives stream.handle)
        { state.changeChannel channel.handle fun other => { other with
            delivered := other.delivered + 1 } with
          page := page, seen := state.handed stream frame }

/-- The database after the migrations, the page at its start, and nothing under
way. -/
def deliverySystem : System Delivery DeliveryLabel where
  initial := fun state => (Queue.queueSystem platform).initial state.store ∧
    state.page = Page.initial ∧ state.channels = [] ∧ state.answers = [] ∧ state.seen = []
  step := Deliver platform

end

/-! ## Computed steps -/

instance permitsDecidable (state : Delivery) (label : PageLabel) : Decidable (state.Permits label) :=
  match label with
  | .detailArrives handle detail =>
      inferInstanceAs (Decidable ((⟨handle, detail⟩ : Answer) ∈ state.answers))
  | .streamOpens handle => inferInstanceAs (Decidable ((state.channel? handle).isSome = true))
  | .frameArrives _ _ _ _ => inferInstanceAs (Decidable False)
  | .selectRun _ | .selectAgent _ | .refresh | .close | .detailFails _ _ | .resultsSettle _ _ _ _ _
  | .resume _ | .streamEnds _ | .timerFires _ => inferInstanceAs (Decidable True)

namespace Delivery

def attemptPage (state : Delivery) (label : PageLabel) : Option Delivery :=
  if state.Permits label then
    (state.page.perform label).map fun page =>
      { state with page := page, seen := state.seenAfter label }
  else none

def attemptAccept (state : Delivery) (stream : Subscription) (cursor : Int) : Option Delivery :=
  if state.channel? stream.handle = none ∧
      (state.store.tables.simulations.find? fun row => row.runId = stream.runId).isSome ∧
      cursor = (stream.lastEventId.getD 0 : Nat) then
    some { state with channels := state.channels ++ [Channel.opened stream cursor] }
  else none

def attemptAnswer (state : Delivery) (refresh : PendingRefresh) : Option Delivery :=
  match refresh.phase, Queue.simulationById refresh.runId state.store.tables with
  | .awaitingDetail, .ok record =>
      if ∀ answer ∈ state.answers, answer.handle ≠ refresh.handle then
        some { state with answers := state.answers ++ [⟨refresh.handle, simulationResponse record⟩] }
      else none
  | _, _ => none

def attemptFrame (platform : Queue.Platform) (state : Delivery) (stream : Subscription)
    (channel : Channel) (frame : Frame) : Option Delivery :=
  let wire := frame.wire platform stream.runId
  (state.page.perform (.frameArrives stream.handle (some wire.id) wire.type wire.data)).map fun page =>
    { state.changeChannel channel.handle fun other => { other with
        delivered := other.delivered + 1 } with
      page := page, seen := state.handed stream frame }

/-- The step of a label other than a transaction of the queue. -/
def attempt (platform : Queue.Platform) (label : DeliveryLabel) (state : Delivery) :
    Option Delivery :=
  match label with
  | .database _ => none
  | .page label => state.attemptPage label
  | .accept handle cursor =>
      (state.page.subscription? handle).bind fun stream => state.attemptAccept stream cursor
  | .poll handle step =>
      (state.channel? handle).bind fun channel =>
        (channel.connection.advance state.store.tables.simulationEvents step).map fun connection =>
          state.changeChannel channel.handle fun other => { other with connection := connection }
  | .answer handle => (state.page.refresh? handle).bind fun refresh => state.attemptAnswer refresh
  | .frameArrives handle =>
      (state.page.subscription? handle).bind fun stream =>
        (state.channel? handle).bind fun channel =>
          channel.next?.bind fun frame => state.attemptFrame platform stream channel frame

theorem channel?_some {state : Delivery} {handle : Nat} {channel : Channel}
    (found : state.channel? handle = some channel) :
    channel ∈ state.channels ∧ channel.handle = handle := by
  have named := List.find?_some found
  exact ⟨List.mem_of_find?_eq_some found, of_decide_eq_true named⟩

theorem attempt_delivers {platform : Queue.Platform} {label : DeliveryLabel} {state result : Delivery}
    (attempted : state.attempt platform label = some result) : Deliver platform state label result := by
  cases label with
  | database call => cases attempted
  | page label =>
      have performs : state.attemptPage label = some result := attempted
      unfold attemptPage at performs
      split at performs
      · rename_i permitted
        rcases Option.map_eq_some_iff.mp performs with ⟨page, performed, rfl⟩
        exact Deliver.page permitted performed
      · cases performs
  | accept handle cursor =>
      rcases Option.bind_eq_some_iff.mp attempted with ⟨stream, found, accepted⟩
      rcases subscription?_some found with ⟨running, rfl⟩
      unfold attemptAccept at accepted
      split at accepted
      · rename_i guards
        cases accepted
        exact Deliver.accept running guards.1 guards.2.1 fun _ => guards.2.2
      · cases accepted
  | poll handle step =>
      rcases Option.bind_eq_some_iff.mp attempted with ⟨channel, found, polled⟩
      rcases channel?_some found with ⟨accepted, rfl⟩
      rcases Option.map_eq_some_iff.mp polled with ⟨connection, advanced, rfl⟩
      exact Deliver.poll accepted advanced
  | answer handle =>
      rcases Option.bind_eq_some_iff.mp attempted with ⟨refresh, found, answered⟩
      rcases refresh?_some found with ⟨pending, rfl⟩
      unfold attemptAnswer at answered
      split at answered
      · rename_i awaits read
        split at answered
        · rename_i unanswered
          cases answered
          exact Deliver.answer pending awaits unanswered read
        · cases answered
      · cases answered
  | frameArrives handle =>
      rcases Option.bind_eq_some_iff.mp attempted with ⟨stream, found, attempted⟩
      rcases subscription?_some found with ⟨running, rfl⟩
      rcases Option.bind_eq_some_iff.mp attempted with ⟨channel, channelFound, attempted⟩
      rcases channel?_some channelFound with ⟨accepted, same⟩
      rcases Option.bind_eq_some_iff.mp attempted with ⟨frame, next, attempted⟩
      rcases Option.map_eq_some_iff.mp attempted with ⟨page, performed, rfl⟩
      exact Deliver.frameArrives running accepted same next performed

def replay (platform : Queue.Platform) (labels : List DeliveryLabel) (state : Delivery) :
    Option Delivery :=
  labels.foldlM (fun state label => state.attempt platform label) state

theorem replay_run {platform : Queue.Platform} {labels : List DeliveryLabel} {state result : Delivery}
    (replayed : state.replay platform labels = some result) :
    (deliverySystem platform).Run state labels result :=
  System.Run.of_replay (fun _ _ _ attempted => attempt_delivers attempted) replayed

/-- Only transactions change the store. -/
theorem attempt_store {platform : Queue.Platform} {label : DeliveryLabel} {state result : Delivery}
    (attempted : state.attempt platform label = some result) : result.store = state.store := by
  cases attempt_delivers attempted with
  | database _ => cases attempted
  | page _ _ | accept _ _ _ _ | poll _ _ | answer _ _ _ _ | frameArrives _ _ _ _ _ => rfl

theorem replay_store {platform : Queue.Platform} {labels : List DeliveryLabel} {state result : Delivery}
    (replayed : state.replay platform labels = some result) : result.store = state.store := by
  induction labels generalizing state with
  | nil =>
      cases replayed
      rfl
  | cons label rest inductionHypothesis =>
      unfold replay at replayed
      rw [List.foldlM_cons] at replayed
      rcases Option.bind_eq_some_iff.mp replayed with ⟨middle, attempted, continued⟩
      exact (inductionHypothesis continued).trans (attempt_store attempted)

/-- Transactions of the queue, seen from the whole system. -/
theorem database_run {platform : Queue.Platform} {admits : Delivery -> DeliveryLabel -> Prop}
    (unrestricted : forall state call, admits state (.database call)) {store result : Queue.Store}
    {calls : List Queue.Call} (run : (Queue.queueSystem platform).Run store calls result)
    (state : Delivery) :
    ((deliverySystem platform).restrictSteps admits).Run { state with store := store }
      (calls.map .database) { state with store := result } := by
  induction run with
  | nil _ => exact System.Run.nil _
  | cons transaction _ inductionHypothesis =>
      exact System.Run.cons ⟨Deliver.database transaction, unrestricted _ _⟩ inductionHypothesis

end Delivery

end Frontend
end FederatedIot
