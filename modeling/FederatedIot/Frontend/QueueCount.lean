import FederatedIot.Foundation.Decoding
import FederatedIot.Foundation.NumberText
import FederatedIot.Frontend.SimulationStore

namespace FederatedIot
namespace Frontend

open Foundation

/-!
# The count of waiting runs

The page shows how many runs wait.  Every load of the queue counts them, and
every notification of the store puts the `queued_count` of the last event it
keeps in the place of that number.  The number of a value follows `Number`, for
which no value at all is not a number but `null` is zero.
-/

/-! ## Numbers -/

/-- White space and line ends around a number. -/
def isSpace (char : Char) : Bool :=
  (9 ≤ char.toNat && char.toNat ≤ 13) || (0x2000 ≤ char.toNat && char.toNat ≤ 0x200A) ||
    char.toNat ∈ [0x20, 0xA0, 0x1680, 0x2028, 0x2029, 0x202F, 0x205F, 0x3000, 0xFEFF]

def trim (text : List Char) : List Char :=
  ((text.dropWhile isSpace).reverse.dropWhile isSpace).reverse

/-- The digit of a base. -/
def digitOf (base : Nat) (char : Char) : Option Nat :=
  let value := if NumberText.isDigit char then NumberText.digit char else (NumberText.lower char).toNat - 87
  if (NumberText.isDigit char || NumberText.isHexLetter char) && value < base then some value else none

/-- The digits after the mark of a base. -/
def baseDigits? : List Char -> Option (Nat × List Char)
  | '0' :: mark :: digits =>
      if NumberText.lower mark = 'x' then some (16, digits)
      else if NumberText.lower mark = 'o' then some (8, digits)
      else if NumberText.lower mark = 'b' then some (2, digits)
      else none
  | _ => none

/-- The number of the digits of a base, of which there is at least one. -/
def baseNumber (base : Nat) (digits : List Char) : Option Rat :=
  if digits = [] then none
  else (digits.mapM (digitOf base)).map fun values => NumberText.digitsValue base 0 values

/-- A numeral without the underscores and the hexadecimal fractions of Go. -/
def decimalNumber (text : List Char) : Option Rat :=
  if text.any fun char => char = '_' || NumberText.lower char = 'x' then none else NumberText.readFloat text

/-- The finite number of a text. -/
def numberOfText (raw : String) : Option Rat :=
  let text := trim raw.toList
  if text = [] then some 0
  else
    let exact :=
      match baseDigits? text with
      | some (base, digits) => baseNumber base digits
      | none => decimalNumber text
    (exact.filter fun value => !Binary64.overflows value).map Binary64.round

/-- The finite number of the only element of an array, which is first made a
text. -/
def numberOfElement : JsValue -> Option Rat
  | .null => some 0
  | .number value => some value
  | .string text => numberOfText text
  | .array [] => some 0
  | .array [item] => numberOfElement item
  | _ => none

/-- `Number(value)` where it is finite. -/
def numberOf : JsValue -> Option Rat
  | .null => some 0
  | .boolean value => some (if value then 1 else 0)
  | .number value => some value
  | .string text => numberOfText text
  | .array items => numberOfElement (.array items)
  | _ => none

example : numberOfText " 0x1F " = some 31 ∧ numberOfText "-2.5e1" = some (-25) ∧ numberOfText "3 4" = none := by
  decide +kernel

/-! ## The queue -/

/-- The fields of a run of the queue that are read. -/
structure QueueItem where
  runId : Option String
  status : Option Json
  deriving DecidableEq

/-- The REST detail of a run that has an identifier takes the place of its row. A
row without an identifier has no detail, and its fields are read all the same. -/
def reconcileQueueItem (item : QueueItem) (detail : Option QueueItem) : Option QueueItem :=
  match detail with
  | some fresh =>
      if fresh.runId = item.runId then some { item with status := fresh.status.or item.status } else some item
  | none => if item.runId = none then none else some item

/-- The answer of `getSimulation`, which is asked for runs with an identifier. -/
def askedDetail (item : QueueItem) (detail : Option QueueItem) : Option QueueItem :=
  (item.runId.filter fun runId => runId ≠ "").bind fun _ => detail

/-- `reconcileQueueItems` of the first rows, with the answers about each. -/
def reconcileQueueItems (items : List (QueueItem × Option QueueItem)) : Option (List QueueItem) :=
  (items.take 11).mapM fun entry => reconcileQueueItem entry.1 (askedDetail entry.1 entry.2)

/-- `String(status ?? "").toUpperCase() === "QUEUED"` -/
def isQueued : Json -> Bool
  | .string status => status.toList.map Char.toUpper = "QUEUED".toList
  | .array [item] => isQueued item
  | _ => false

/-- `queueWaitingCount` of the rows. -/
def waitingItems (items : List QueueItem) : Nat :=
  items.countP fun item => item.status.any isQueued

/-- The queue of the page.  Its count is always a number. -/
structure QueueView where
  waitingCount : Rat
  loading : Bool
  deriving DecidableEq

/-- `queueWaitingCount` of the queue, which the page shows. -/
def queueWaitingCount (queue : QueueView) : Rat :=
  max 0 queue.waitingCount

/-- The number that an emission finds in the last event. -/
def lastQueuedCount (events : List SseEvent) : Option Rat :=
  match events.getLast? with
  | some event => (event.data.field? "queued_count").bind fun value => numberOf value.parse
  | none => numberOf .null

def synchronizeQueueWaitingCount (queue : QueueView) (events : List SseEvent) : QueueView :=
  match lastQueuedCount events with
  | some value => { queue with waitingCount := max 0 value }
  | none => queue

/-! ## Notifications of the store -/

namespace Page

/-- The event that a frame adds to the store. -/
def newEvent (page : Page) : PageLabel -> Option SseEvent
  | .frameArrives handle id type data => (page.subscription? handle).bind fun stream =>
      let event : SseEvent := { id := (id.map number).or stream.eventId, type, data }
      if some stream.runId = page.state.runId ∧ type ≠ "stream.reset" ∧
          isNewerEventId page.state.lastEventId event.id = true then some event
      else none
  | _ => none

/-- Whether the step notifies the listeners of the store. -/
def emits (page : Page) : PageLabel -> Bool
  | .selectRun _ => true
  | .selectAgent agent =>
      agent ∈ [1, 2, 3] ∧ ¬(page.state.selectedAgent = agent ∧
        (summaryAgent page.state.summary).any (isAgent agent) = true)
  | .detailArrives handle detail => (page.refresh? handle).any fun refresh =>
      detail.status ≠ .string "COMPLETED" && page.concerns refresh
  | .detailFails handle (.other _) => (page.refresh? handle).any fun refresh => page.concerns refresh
  | .resultsSettle handle _ _ _ _ => (page.refresh? handle).any fun refresh => page.concerns refresh
  | .streamOpens handle => (page.subscription? handle).any fun stream => some stream.runId = page.state.runId
  | .frameArrives handle id type data =>
      (page.newEvent (.frameArrives handle id type data)).isSome ||
        (page.subscription? handle).any fun stream =>
          some stream.runId = page.state.runId && type = "stream.reset"
  | .streamEnds handle => (page.subscription? handle).any fun stream => some stream.runId = page.state.runId
  | _ => false

/-- The events that are left without a new one. -/
def eventsLeft (page : Page) : PageLabel -> List SseEvent
  | .selectRun _ => []
  | _ => page.state.events

/-- The events that the store keeps after a step. -/
def eventsAfter (page : Page) (label : PageLabel) : List SseEvent :=
  match page.newEvent label with
  | some event => keepEvents page.state.events event
  | none => page.eventsLeft label

end Page

/-! ## The page with its queue -/

structure App where
  page : Page
  queue : QueueView

inductive AppLabel where
  | store (label : PageLabel)
  | readiness
  | loadQueue
  | queueArrives (items : List (QueueItem × Option QueueItem))
  | queueFails

namespace App

/-- The listener of the store. -/
def notified (app : App) : App :=
  { app with queue := synchronizeQueueWaitingCount app.queue app.page.state.events }

/-- The page after `startApplication`, whose listener is called at once. -/
def initial : App :=
  App.notified { page := Page.initial, queue := { waitingCount := 0, loading := false } }

/-- The queue after an answer to `loadQueue`. -/
def queueArrives (app : App) (items : List (QueueItem × Option QueueItem)) : App :=
  match reconcileQueueItems items with
  | some rows => { app with queue := { waitingCount := waitingItems rows, loading := false } }
  | none => { app with queue := { app.queue with loading := false } }

/-- One uninterrupted piece of work, with the notification it ends in. -/
def perform (label : AppLabel) (app : App) : Option App :=
  match label with
  | .store label => (app.page.perform label).map fun page =>
      if app.page.emits label then App.notified { app with page } else { app with page }
  | .readiness => some app.notified
  | .loadQueue => some (if app.queue.loading then app else { app with queue := { app.queue with loading := true } })
  | .queueArrives items => if app.queue.loading then some (app.queueArrives items) else none
  | .queueFails => if app.queue.loading then some { app with queue := { app.queue with loading := false } } else none

end App

/-! ## The count that is meant -/

/-- The number that an event carries. -/
def numericCount (event : SseEvent) : Option Rat :=
  match (event.data.field? "queued_count").map Json.parse with
  | some (.number value) => some value
  | _ => none

/-- The page, and the count as the last load of the queue or the last new event with
a number set it. -/
structure Tracked where
  app : App
  expected : Rat

namespace Tracked

def initial : Tracked :=
  { app := App.initial, expected := 0 }

/-- The count that is meant after a step. -/
def expectedAfter (tracked : Tracked) : AppLabel -> Rat
  | .store label => ((tracked.app.page.newEvent label).bind numericCount).getD tracked.expected
  | .queueArrives items => ((reconcileQueueItems items).map fun rows => (waitingItems rows : Rat)).getD tracked.expected
  | _ => tracked.expected

/-- One step, with the count that is meant after it. -/
def perform (tracked : Tracked) (label : AppLabel) : Option Tracked :=
  (tracked.app.perform label).map fun app => { app, expected := tracked.expectedAfter label }

/-- The page shows this count. -/
def Keeps (tracked : Tracked) : Prop :=
  queueWaitingCount tracked.app.queue = tracked.expected

end Tracked

/-- The page from its start, with the store, the readiness checks and the loads of
the queue in every order. -/
def countSystem : System Tracked AppLabel where
  initial := fun tracked => tracked = Tracked.initial
  step := fun source label target => source.perform label = some target

/-- The page shows the count that is meant throughout the run. -/
def CountKept (labels : List AppLabel) : Prop :=
  forall earlier reached, earlier <+: labels -> countSystem.Run Tracked.initial earlier reached -> reached.Keeps

/-! ## When an emission leaves the count alone -/

/-- The number found in the events is none or the one on the page. -/
def Repeats (app : App) (events : List SseEvent) : Prop :=
  forall value, lastQueuedCount events = some value -> max 0 value = queueWaitingCount app.queue

/-- What a step may find: a new event with a number that is not negative, or nothing
but the number on the page. -/
def Accounts (app : App) : AppLabel -> Prop
  | .store label =>
      app.page.emits label = true ->
        match (app.page.newEvent label).bind numericCount with
        | some value => 0 ≤ value
        | none => Repeats app (app.page.eventsAfter label)
  | .readiness => Repeats app app.page.state.events
  | _ => True

/-- Every step of the run accounts for what it finds. -/
def AccountsAlong (labels : List AppLabel) : Prop :=
  forall earlier label before after, earlier ++ [label] <+: labels ->
    countSystem.Run Tracked.initial earlier before -> countSystem.step before label after ->
      Accounts before.app label

/-! ## The events of a step -/

namespace Page

variable {page : Page}

theorem beginRefresh_events (followUp : FollowUp) : (page.beginRefresh followUp).state.events = page.state.events := by
  unfold beginRefresh
  split
  · rfl
  · rfl

theorem failRefresh_events (refresh : PendingRefresh) (reason : RequestError) :
    (page.failRefresh refresh reason).state.events = page.state.events := by
  unfold failRefresh
  split
  · rfl
  · split
    · rfl
    · rfl

theorem finishRefresh_events (refresh : PendingRefresh) (detail : SimulationDetail)
    (summary results alarms artifacts : Fetched) :
    (page.finishRefresh refresh detail summary results alarms artifacts).state.events = page.state.events := by
  unfold finishRefresh
  split
  · split
    · split
      · rfl
      · exact failRefresh_events _ _
    · rfl
  · rfl

theorem onOpen_events (stream : Subscription) : (page.onOpen stream).state.events = page.state.events := by
  unfold onOpen
  split
  · rfl
  · rfl

theorem connect_events : page.connect.state.events = page.state.events := by
  unfold connect
  split
  · rfl
  · rfl

theorem selectAgent_events (agent : Int) : (page.selectAgent agent).state.events = page.state.events := by
  unfold selectAgent
  split
  · rfl
  · split
    · rfl
    · exact beginRefresh_events _

theorem detailArrives_events (refresh : PendingRefresh) (detail : SimulationDetail) :
    (page.detailArrives refresh detail).state.events = page.state.events := by
  unfold detailArrives
  split
  · rfl
  · exact finishRefresh_events _ _ _ _ _ _

theorem resume_events (refresh : PendingRefresh) : (page.resume refresh).state.events = page.state.events := by
  unfold resume
  split
  · rfl
  · exact connect_events

theorem streamEnds_events (stream : Subscription) : (page.streamEnds stream).state.events = page.state.events := by
  unfold streamEnds
  dsimp only
  split
  · rfl
  · rfl

theorem timerFires_events (timer : ReconnectTimer) : (page.timerFires timer).state.events = page.state.events := by
  unfold timerFires
  dsimp only
  split
  · exact beginRefresh_events _
  · rfl

/-- A frame adds an event, or it leaves the events alone. -/
theorem onEvent_events (stream : Subscription) (event : SseEvent) :
    (page.onEvent stream event).state.events =
      if some stream.runId = page.state.runId ∧ event.type ≠ "stream.reset" ∧
          isNewerEventId page.state.lastEventId event.id = true then keepEvents page.state.events event
      else page.state.events := by
  unfold onEvent
  by_cases other : some stream.runId = page.state.runId
  · rw [if_neg (not_not.mpr other)]
    by_cases reset : event.type = "stream.reset"
    · rw [if_pos reset, if_neg fun all => all.2.1 reset, beginRefresh_events]
    · rw [if_neg reset]
      by_cases newer : isNewerEventId page.state.lastEventId event.id = true
      · have fresh : some stream.runId = page.state.runId ∧ event.type ≠ "stream.reset" ∧
            isNewerEventId page.state.lastEventId event.id = true := ⟨other, reset, newer⟩
        rw [if_pos newer, if_pos fresh]
        dsimp only
        split
        · exact beginRefresh_events _
        · rfl
      · rw [if_neg newer, if_neg fun all => newer all.2.2]
  · rw [if_pos other, if_neg fun all => other all.1]

/-- What a step does to the events. -/
theorem perform_events {label : PageLabel} {next : Page} (performed : page.perform label = some next) :
    next.state.events = page.eventsAfter label := by
  have cases := perform_cases performed
  cases cases with
  | selectRun runId => exact beginRefresh_events _
  | selectAgent agent => exact selectAgent_events agent
  | refresh => exact beginRefresh_events _
  | close => rfl
  | detailArrives detail _ _ _ => exact detailArrives_events _ detail
  | detailFails reason _ _ => exact failRefresh_events _ reason
  | resultsSettle summary results alarms artifacts _ _ => exact finishRefresh_events _ _ _ _ _ _
  | resume _ _ => exact resume_events _
  | streamOpens _ _ => exact onOpen_events _
  | streamEnds _ => exact streamEnds_events _
  | timerFires _ => exact timerFires_events _
  | @frameArrives stream id type data running opened =>
      rcases Option.bind_eq_some_iff.mp performed with ⟨found, isFound, read⟩
      split at read
      · rw [Option.some.injEq] at read
        rw [← read, frameArrives, onEvent_events, eventsAfter, newEvent, isFound]
        dsimp only [Option.bind_some]
        by_cases fresh : some found.runId = page.state.runId ∧ type ≠ "stream.reset" ∧
            isNewerEventId page.state.lastEventId ((id.map number).or found.eventId) = true
        · rw [if_pos fresh]
          exact if_pos fresh
        · rw [if_neg fresh]
          exact if_neg fresh
      · cases read

end Page

/-! ## One step -/

theorem keepEvents_getLast (events : List SseEvent) (event : SseEvent) :
    (keepEvents events event).getLast? = some event := by
  rw [keepEvents, List.getLast?_drop, if_neg, List.getLast?_concat]
  rw [List.length_append, List.length_singleton]
  omega

theorem queueWaitingCount_synchronized (queue : QueueView) (events : List SseEvent) :
    queueWaitingCount (synchronizeQueueWaitingCount queue events) =
      (lastQueuedCount events).elim (queueWaitingCount queue) fun value => max 0 value := by
  unfold synchronizeQueueWaitingCount
  cases lastQueuedCount events with
  | none => rfl
  | some value => exact max_eq_right (le_max_left 0 value)

/-- The number of a new event is the one that the notification finds. -/
theorem lastQueuedCount_of_numericCount {events : List SseEvent} {event : SseEvent} {value : Rat}
    (last : events.getLast? = some event) (numeric : numericCount event = some value) :
    lastQueuedCount events = some value := by
  rw [numericCount] at numeric
  simp only [lastQueuedCount, last]
  cases carried : event.data.field? "queued_count" with
  | none =>
      rw [carried] at numeric
      cases numeric
  | some json =>
      rw [carried, Option.map_some] at numeric
      rw [Option.bind_some]
      split at numeric
      · next read =>
          rw [Option.some.injEq] at read
          rw [read, numberOf, numeric]
      · cases numeric

/-- A notification leaves the count alone when it finds nothing but that count. -/
theorem notified_keeps_iff {app : App} {expected : Rat} (before : queueWaitingCount app.queue = expected)
    (events : List SseEvent) :
    queueWaitingCount (synchronizeQueueWaitingCount app.queue events) = expected ↔ Repeats app events := by
  rw [queueWaitingCount_synchronized, Repeats, before]
  cases lastQueuedCount events with
  | none => exact ⟨fun _ _ found => absurd found (Option.some_ne_none _).symm, fun _ => rfl⟩
  | some value =>
      constructor
      · intro same other found
        rw [← Option.some.inj found]
        exact same
      · intro same
        exact same value rfl

/-- The count of the page after a step of the store. -/
theorem store_keeps_iff {tracked : Tracked} {label : PageLabel} {next : Page} (before : tracked.Keeps)
    (performed : tracked.app.page.perform label = some next) :
    queueWaitingCount
        (if tracked.app.page.emits label then App.notified { tracked.app with page := next }
          else { tracked.app with page := next }).queue = tracked.expectedAfter (.store label) ↔
      Accounts tracked.app (.store label) := by
  have events := Page.perform_events performed
  by_cases emits : tracked.app.page.emits label = true
  · rw [if_pos emits, App.notified, events, Accounts, Tracked.expectedAfter]
    cases carried : (tracked.app.page.newEvent label).bind numericCount with
    | none =>
        rw [Option.getD_none, notified_keeps_iff before]
        exact ⟨fun repeats _ => repeats, fun accounts => accounts emits⟩
    | some value =>
        rcases Option.bind_eq_some_iff.mp carried with ⟨event, isNew, numeric⟩
        have last : (tracked.app.page.eventsAfter label).getLast? = some event := by
          rw [Page.eventsAfter, isNew]
          exact keepEvents_getLast _ event
        rw [Option.getD_some, queueWaitingCount_synchronized, lastQueuedCount_of_numericCount last numeric,
          Option.elim_some, max_eq_right_iff]
        exact ⟨fun natural _ => natural, fun accounts => accounts emits⟩
  · have quiet : tracked.app.page.newEvent label = none := by
      cases label with
      | frameArrives handle id type data =>
          cases isNew : tracked.app.page.newEvent (.frameArrives handle id type data) with
          | none => rfl
          | some event =>
              exfalso
              apply emits
              rw [Page.emits, isNew]
              rfl
      | _ => rfl
    rw [if_neg emits, Tracked.expectedAfter, quiet]
    exact ⟨fun _ emitting => absurd emitting emits, fun _ => before⟩

/-- A step from a page with the right count ends in one exactly when it accounts for
what it finds. -/
theorem step_keeps_iff {before after : Tracked} {label : AppLabel} (kept : before.Keeps)
    (step : countSystem.step before label after) : after.Keeps ↔ Accounts before.app label := by
  rcases Option.map_eq_some_iff.mp step with ⟨app, performed, reached⟩
  rw [← reached, Tracked.Keeps]
  dsimp only
  cases label with
  | store label =>
      rcases Option.map_eq_some_iff.mp performed with ⟨next, stepped, ending⟩
      rw [← ending]
      exact store_keeps_iff kept stepped
  | readiness =>
      rw [← Option.some.inj performed]
      exact notified_keeps_iff kept _
  | loadQueue =>
      rw [← Option.some.inj performed]
      refine ⟨fun _ => trivial, fun _ => ?_⟩
      split
      · exact kept
      · exact kept
  | queueArrives items =>
      rw [App.perform] at performed
      split at performed
      · rw [← Option.some.inj performed, App.queueArrives, Tracked.expectedAfter]
        refine ⟨fun _ => trivial, fun _ => ?_⟩
        cases reconcileQueueItems items with
        | none => exact kept
        | some rows => exact max_eq_right (Nat.cast_nonneg _)
      · cases performed
  | queueFails =>
      rw [App.perform] at performed
      split at performed
      · rw [← Option.some.inj performed]
        exact ⟨fun _ => trivial, fun _ => kept⟩
      · cases performed

/-! ## Runs -/

theorem initial_keeps : Tracked.initial.Keeps := by
  unfold Tracked.Keeps
  decide

/-- The count of the page is the one that was loaded or announced last exactly when
every step accounts for what it finds. -/
theorem queue_count_kept_iff (labels : List AppLabel) : CountKept labels ↔ AccountsAlong labels := by
  constructor
  · intro kept earlier label before after within run step
    have beforeWithin : earlier <+: labels := (List.prefix_append earlier [label]).trans within
    apply (step_keeps_iff (kept earlier before beforeWithin run) step).mp
    exact kept _ after within (run.append (System.Run.single step))
  · intro accounts earlier
    induction earlier using List.reverseRecOn with
    | nil =>
        intro reached _ run
        cases run
        exact initial_keeps
    | append_singleton earlier label inductionHypothesis =>
        intro reached within run
        have beforeWithin : earlier <+: labels := (List.prefix_append earlier [label]).trans within
        rcases run.unsnoc with ⟨before, first, step⟩
        apply (step_keeps_iff (inductionHypothesis before beforeWithin first) step).mpr
        exact accounts earlier label before reached within first step

/-- A run waits and the queue is loaded; then a run is selected. -/
def selectAfterLoad : List AppLabel :=
  [.loadQueue, .queueArrives [({ runId := some "run_1", status := some (.string "QUEUED") }, none)],
    .store (.selectRun (some "run_1"))]

/-- The page after these steps. -/
def afterSelection : Option Tracked :=
  selectAfterLoad.foldlM (fun tracked label => tracked.perform label) Tracked.initial

/-- The notification of the selection has no events, and the page shows that no run
waits. -/
theorem queue_count_reset : ¬CountKept selectAfterLoad := by
  intro kept
  rcases Option.isSome_iff_exists.mp (show afterSelection.isSome = true by decide) with ⟨reached, replayed⟩
  have shows : reached.Keeps :=
    kept selectAfterLoad reached (List.prefix_refl _) (System.Run.of_replay (fun _ _ _ performed => performed) replayed)
  have counts : afterSelection.map (fun tracked => (queueWaitingCount tracked.app.queue, tracked.expected)) =
      some (0, 1) := rfl
  rw [replayed, Option.map_some, Option.some.injEq, Prod.mk.injEq] at counts
  rw [Tracked.Keeps, counts.1, counts.2] at shows
  exact absurd shows (by decide)

end Frontend
end FederatedIot
