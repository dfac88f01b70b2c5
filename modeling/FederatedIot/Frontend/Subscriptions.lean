import FederatedIot.Foundation.Relation
import FederatedIot.Frontend.SimulationStore

namespace FederatedIot
namespace Frontend

open Foundation

/-!
# One live subscription

What opens a subscription is a continuation: the one of `selectRun`, or the one
of a reconnect timer.  The ledger of a page counts these continuations and
lists the live subscriptions and the armed timers.  While no call of `selectRun`
or `close` comes between a refresh and its continuation, a selected run has at
most one of the three: a continuation that will connect, a live subscription,
or an armed timer.
-/

/-! ## The ledger of a page -/

structure Ledger where
  runId : Option String
  subscription : Option Nat
  reconnectTimer : Option Nat
  connecting : Nat
  live : List (Nat × String)
  armed : List (Nat × String)

/-- The run that a truthy `runId` names. -/
def Ledger.selected (ledger : Ledger) : Option String :=
  ledger.runId.filter fun runId => runId ≠ ""

namespace Page

def connecting (page : Page) : Nat :=
  page.refreshes.countP fun refresh => refresh.followUp = .connect

def ledger (page : Page) : Ledger where
  runId := page.state.runId
  subscription := page.subscription
  reconnectTimer := page.reconnectTimer
  connecting := page.connecting
  live := page.subscriptions.map fun stream => (stream.handle, stream.runId)
  armed := page.timers.map fun timer => (timer.handle, timer.runId)

theorem ledger_ext {left right : Page} (runId : left.state.runId = right.state.runId)
    (subscription : left.subscription = right.subscription)
    (reconnectTimer : left.reconnectTimer = right.reconnectTimer)
    (connecting : left.connecting = right.connecting)
    (subscriptions : left.subscriptions.map (fun stream => (stream.handle, stream.runId)) =
      right.subscriptions.map fun stream => (stream.handle, stream.runId))
    (timers : left.timers = right.timers) : left.ledger = right.ledger := by
  unfold ledger
  rw [runId, subscription, reconnectTimer, connecting, subscriptions, timers]

variable {page : Page} {refresh : PendingRefresh} {stream : Subscription}

/-! ### Refreshes -/

theorem beginRefresh_nothing_ledger : (page.beginRefresh .nothing).ledger = page.ledger := by
  unfold beginRefresh
  cases page.state.selected with
  | none =>
      refine ledger_ext rfl rfl rfl ?_ rfl rfl
      simp [connecting, List.countP_append]
  | some runId =>
      refine ledger_ext rfl rfl rfl ?_ rfl rfl
      simp [connecting, List.countP_append]

theorem beginRefresh_connect_ledger : (page.beginRefresh .connect).ledger =
    { page.ledger with connecting := page.connecting + 1 } := by
  unfold beginRefresh
  cases page.state.selected with
  | none => simp [ledger, connecting, List.countP_append]
  | some runId => simp [ledger, connecting, List.countP_append]

theorem setRefresh_ledger {phase : RefreshPhase} :
    (page.setRefresh refresh phase).ledger = page.ledger := by
  refine ledger_ext rfl rfl rfl ?_ rfl rfl
  unfold connecting setRefresh
  rw [List.countP_map]
  apply List.countP_congr
  intro pending _
  by_cases same : pending.handle = refresh.handle <;> simp [same]

theorem setRefresh_state_ledger {phase : RefreshPhase} {state : StoreState}
    (runId : state.runId = page.state.runId) :
    ({ page.setRefresh refresh phase with state := state } : Page).ledger = page.ledger := by
  rw [← @setRefresh_ledger page refresh phase]
  exact ledger_ext runId rfl rfl rfl rfl rfl

theorem failRefresh_ledger {reason : RequestError} :
    (page.failRefresh refresh reason).ledger = page.ledger := by
  cases reason with
  | abort => exact setRefresh_ledger
  | other message =>
      unfold failRefresh
      by_cases concerned : page.concerns refresh
      · simp only [concerned, if_true]
        exact setRefresh_state_ledger rfl
      · simp only [concerned, if_false]
        exact setRefresh_ledger

theorem finishRefresh_ledger {detail : SimulationDetail}
    {summary results alarms artifacts : Fetched} :
    (page.finishRefresh refresh detail summary results alarms artifacts).ledger = page.ledger := by
  have emitted : (finishRefresh.emitRefresh page refresh detail summary results alarms
      artifacts).ledger = page.ledger := setRefresh_state_ledger rfl
  unfold finishRefresh
  by_cases concerned : page.concerns refresh
  · simp only [concerned, if_true]
    split
    · split
      · exact emitted
      · exact failRefresh_ledger
    · exact emitted
  · simp only [concerned, if_false]
    exact setRefresh_ledger

theorem detailArrives_ledger {detail : SimulationDetail} :
    (page.detailArrives refresh detail).ledger = page.ledger := by
  unfold detailArrives
  split
  · exact setRefresh_ledger
  · exact finishRefresh_ledger

theorem selectAgent_ledger {agent : Int} : (page.selectAgent agent).ledger = page.ledger := by
  unfold selectAgent
  split
  · rfl
  · split
    · rfl
    · rw [beginRefresh_nothing_ledger]
      rfl

/-! ### Streams -/

theorem updateSubscription_ledger {change : Subscription -> Subscription}
    (kept : forall other, (change other).handle = other.handle ∧
      (change other).runId = other.runId) :
    (page.updateSubscription stream change).ledger = page.ledger := by
  refine ledger_ext rfl rfl rfl rfl ?_ rfl
  unfold updateSubscription
  rw [List.map_map]
  apply List.map_congr_left
  intro other _
  by_cases same : other.handle = stream.handle
  · simp [same, kept other]
  · simp [same]

theorem onOpen_ledger : (page.onOpen stream).ledger = page.ledger := by
  unfold onOpen
  split
  · rfl
  · rfl

theorem onEvent_ledger {event : SseEvent} : (page.onEvent stream event).ledger = page.ledger := by
  unfold onEvent
  split
  · rfl
  · split
    · rw [beginRefresh_nothing_ledger]
      rfl
    · split
      · split
        · rw [beginRefresh_nothing_ledger]
          rfl
        · rfl
      · rfl

theorem streamOpens_ledger : (page.streamOpens stream).ledger = page.ledger := by
  unfold streamOpens
  rw [onOpen_ledger]
  exact updateSubscription_ledger fun _ => ⟨rfl, rfl⟩

theorem frameArrives_ledger {id : Option Nat} {type : String} {data : Json} :
    (page.frameArrives stream id type data).ledger = page.ledger := by
  unfold frameArrives
  rw [onEvent_ledger]
  exact updateSubscription_ledger fun _ => ⟨rfl, rfl⟩

end Page

/-! ## At most one way to a subscription -/

/-- The live subscription and the armed timer are the ones that the store
knows, they belong to the selected run, and a selected run has at most one
live subscription, armed timer or continuation that will connect. -/
structure Single (ledger : Ledger) : Prop where
  owned : ∀ stream ∈ ledger.live,
    ledger.subscription = some stream.1 ∧ ledger.runId = some stream.2
  known : ∀ timer ∈ ledger.armed,
    ledger.reconnectTimer = some timer.1 ∧ ledger.runId = some timer.2
  unselected : ledger.selected = none -> ledger.live = [] ∧ ledger.armed = []
  budget : ledger.selected ≠ none ->
    ledger.connecting + ledger.live.length + ledger.armed.length ≤ 1

/-- No subscription is live and nothing pending will open one. -/
structure Silent (ledger : Ledger) : Prop where
  live : ledger.live = []
  armed : ledger.armed = []
  still : ledger.selected = none ∨ ledger.connecting = 0

section

variable {page : Page} {refresh : PendingRefresh} {stream : Subscription} {timer : ReconnectTimer}

theorem Single.initial : Single Page.initial.ledger where
  owned := fun _ member => nomatch member
  known := fun _ member => nomatch member
  unselected := fun _ => ⟨rfl, rfl⟩
  budget := fun selected => absurd rfl selected

theorem connecting_of_mem (pending : refresh ∈ page.refreshes)
    (connects : refresh.followUp = .connect) : 0 < page.connecting :=
  List.countP_pos_iff.mpr ⟨refresh, pending, decide_eq_true connects⟩

/-- A selected run with one of the three has none of the others. -/
theorem Single.alone (single : Single page.ledger) (selected : page.ledger.selected ≠ none) :
    page.connecting + page.subscriptions.length + page.timers.length ≤ 1 := by
  have budget := single.budget selected
  simpa [Page.ledger] using budget

theorem selected_of_live (single : Single page.ledger) (running : stream ∈ page.subscriptions) :
    page.ledger.selected ≠ none := by
  intro unselected
  have none := (single.unselected unselected).1
  rw [List.map_eq_nil_iff.mp none] at running
  cases running

theorem selected_of_armed (single : Single page.ledger) (armed : timer ∈ page.timers) :
    page.ledger.selected ≠ none := by
  intro unselected
  have none := (single.unselected unselected).2
  rw [List.map_eq_nil_iff.mp none] at armed
  cases armed

/-! ### Closing and selecting -/

theorem closeRunSubscription_subscriptions (single : Single page.ledger) :
    page.closeRunSubscription.subscriptions = [] := by
  apply List.filter_eq_nil_iff.mpr
  intro stream running
  have owned : page.subscription = some stream.handle :=
    (single.owned (stream.handle, stream.runId) (List.mem_map.mpr ⟨stream, running, rfl⟩)).1
  simp [owned]

theorem closeRunSubscription_timers (single : Single page.ledger) :
    page.closeRunSubscription.timers = [] := by
  apply List.filter_eq_nil_iff.mpr
  intro timer armed
  have known : page.reconnectTimer = some timer.handle :=
    (single.known (timer.handle, timer.runId) (List.mem_map.mpr ⟨timer, armed, rfl⟩)).1
  simp [known]

theorem closeRunSubscription_ledger (single : Single page.ledger) :
    page.closeRunSubscription.ledger =
      { page.ledger with subscription := none, reconnectTimer := none, live := [], armed := [] } := by
  have subscriptions := closeRunSubscription_subscriptions single
  have timers := closeRunSubscription_timers single
  unfold Page.ledger
  rw [subscriptions, timers]
  rfl

theorem selectRun_ledger (single : Single page.ledger) (runId : Option String) :
    (page.selectRun runId).ledger =
      { runId := runId, subscription := none, reconnectTimer := none
        connecting := page.connecting + 1, live := [], armed := [] } := by
  have closed := closeRunSubscription_ledger single
  have selected : ({ page.closeRunSubscription with state := Page.selectedState runId } : Page).ledger =
      { page.closeRunSubscription.ledger with runId := runId } := rfl
  unfold Page.selectRun
  rw [Page.beginRefresh_connect_ledger, selected, closed]
  rfl

theorem Single.close (single : Single page.ledger) : Single page.close.ledger := by
  unfold Page.close
  rw [closeRunSubscription_ledger single]
  refine ⟨(fun _ member => nomatch member), (fun _ member => nomatch member), fun _ => ⟨rfl, rfl⟩, ?_⟩
  intro selected
  have budget := single.budget selected
  have connecting : page.ledger.connecting ≤ 1 := by omega
  exact connecting

theorem Single.selectRun (single : Single page.ledger) {runId : Option String}
    (alone : runId.filter (fun name => name ≠ "") ≠ none -> page.connecting = 0) :
    Single (page.selectRun runId).ledger := by
  rw [selectRun_ledger single]
  refine ⟨(fun _ member => nomatch member), (fun _ member => nomatch member), fun _ => ⟨rfl, rfl⟩, ?_⟩
  intro selected
  have none := alone selected
  have connecting : page.connecting + 1 ≤ 1 := by omega
  exact connecting

/-! ### Connecting -/

theorem connect_ledger : page.connect.ledger =
    match page.ledger.selected with
    | none => page.ledger
    | some runId =>
        { page.ledger with
          subscription := some page.nextHandle
          live := page.ledger.live ++ [(page.nextHandle, runId)] } := by
  have same : page.ledger.selected = page.state.selected := rfl
  rw [same]
  unfold Page.connect
  cases page.state.selected with
  | none => rfl
  | some runId => simp [Page.ledger, Page.connecting]

theorem removeRefresh_ledger : (page.removeRefresh refresh).ledger =
    { page.ledger with connecting := (page.removeRefresh refresh).connecting } :=
  rfl

theorem removeRefresh_connecting_le (page : Page) (refresh : PendingRefresh) :
    (page.removeRefresh refresh).connecting ≤ page.connecting :=
  List.Sublist.countP_le List.filter_sublist

/-- Running a continuation that connects uses it up. -/
theorem removeRefresh_connecting_lt (pending : refresh ∈ page.refreshes)
    (connects : refresh.followUp = .connect) :
    (page.removeRefresh refresh).connecting < page.connecting :=
  Relation.countP_filter_lt pending (decide_eq_true connects) (by simp)

theorem Single.removeRefresh (single : Single page.ledger) (refresh : PendingRefresh) :
    Single (page.removeRefresh refresh).ledger := by
  refine ⟨single.owned, single.known, single.unselected, ?_⟩
  intro selected
  have budget := single.budget selected
  have fewer : (page.removeRefresh refresh).ledger.connecting ≤ page.ledger.connecting :=
    removeRefresh_connecting_le page refresh
  have live : (page.removeRefresh refresh).ledger.live = page.ledger.live := rfl
  have armed : (page.removeRefresh refresh).ledger.armed = page.ledger.armed := rfl
  rw [live, armed]
  omega

/-- Connecting in place of a continuation that is used up. -/
theorem Single.connect (single : Single page.ledger)
    (room : page.ledger.selected ≠ none ->
      page.connecting = 0 ∧ page.ledger.live = [] ∧ page.ledger.armed = []) :
    Single page.connect.ledger := by
  cases selected : page.ledger.selected with
  | none =>
      rw [connect_ledger, selected]
      exact single
  | some runId =>
      rcases room (by rw [selected]; exact Option.some_ne_none runId) with ⟨idle, live, armed⟩
      have named : page.ledger.runId = some runId := (Option.filter_eq_some_iff.mp selected).1
      have ledger : page.connect.ledger =
          { runId := some runId
            subscription := some page.nextHandle
            reconnectTimer := page.ledger.reconnectTimer
            connecting := 0
            live := [(page.nextHandle, runId)]
            armed := [] } := by
        have connecting : page.ledger.connecting = 0 := idle
        rw [connect_ledger, selected]
        simp only [named, connecting, live, armed, List.nil_append]
      rw [ledger]
      refine ⟨?_, (fun _ member => nomatch member), ?_, fun _ => Nat.le_refl 1⟩
      · intro stream member
        cases List.mem_singleton.mp member
        exact ⟨rfl, rfl⟩
      · intro unselected
        have same : page.ledger.selected = none := by
          rw [Ledger.selected, named]
          exact unselected
        rw [selected] at same
        cases same

theorem Single.resume (single : Single page.ledger) (pending : refresh ∈ page.refreshes) :
    Single (page.resume refresh).ledger := by
  have removed := single.removeRefresh refresh
  unfold Page.resume
  cases connects : refresh.followUp with
  | nothing => exact removed
  | connect =>
      apply removed.connect
      intro selected
      have budget := single.alone selected
      have fewer := removeRefresh_connecting_lt pending connects
      have live : page.subscriptions = [] := List.length_eq_zero_iff.mp (by omega)
      have armed : page.timers = [] := List.length_eq_zero_iff.mp (by omega)
      refine ⟨by omega, ?_, ?_⟩
      · exact List.map_eq_nil_iff.mpr live
      · exact List.map_eq_nil_iff.mpr armed

/-! ### Streams and timers that end -/

/-- A list of one element is empty without it. -/
theorem filter_eq_nil_of_alone {α : Type*} {kept : α -> Bool} {rows : List α} {row : α}
    (alone : rows.length ≤ 1) (member : row ∈ rows) (removed : kept row = false) :
    rows.filter kept = [] := by
  have shorter := Relation.length_filter_lt member removed
  exact List.length_eq_zero_iff.mp (by omega)

theorem Single.streamEnds (single : Single page.ledger) (running : stream ∈ page.subscriptions) :
    Single (page.streamEnds stream).ledger := by
  have selected := selected_of_live single running
  have budget := single.alone selected
  have occupied := List.length_pos_of_mem running
  have gone : page.subscriptions.filter (fun other => other.handle ≠ stream.handle) = [] :=
    filter_eq_nil_of_alone (by omega) running (by simp)
  have idle : page.connecting = 0 := by omega
  have unarmed : page.timers = [] := List.length_eq_zero_iff.mp (by omega)
  have named : page.state.runId = some stream.runId :=
    (single.owned (stream.handle, stream.runId) (List.mem_map.mpr ⟨stream, running, rfl⟩)).2
  have ledger : (page.streamEnds stream).ledger =
      { page.ledger with
        reconnectTimer := some page.nextHandle
        live := []
        armed := [(page.nextHandle, stream.runId)] } := by
    simp only [Page.streamEnds, named, ne_eq, not_true_eq_false, if_false, Page.ledger, gone,
      unarmed, List.map_nil, List.nil_append, List.map_cons]
    rfl
  rw [ledger]
  refine ⟨(fun _ member => nomatch member), ?_, ?_, ?_⟩
  · intro timer member
    cases List.mem_singleton.mp member
    exact ⟨rfl, named⟩
  · intro unselected
    exact absurd unselected selected
  · intro _
    have connecting : page.ledger.connecting = 0 := idle
    simp [connecting]

theorem Single.timerFires (single : Single page.ledger) (armed : timer ∈ page.timers) :
    Single (page.timerFires timer).ledger := by
  have selected := selected_of_armed single armed
  have budget := single.alone selected
  have occupied := List.length_pos_of_mem armed
  have gone : page.timers.filter (fun other => other.handle ≠ timer.handle) = [] :=
    filter_eq_nil_of_alone (by omega) armed (by simp)
  have idle : page.connecting = 0 := by omega
  have offline : page.subscriptions = [] := List.length_eq_zero_iff.mp (by omega)
  have named : page.state.runId = some timer.runId :=
    (single.known (timer.handle, timer.runId) (List.mem_map.mpr ⟨timer, armed, rfl⟩)).2
  have ledger : (page.timerFires timer).ledger =
      { page.ledger with connecting := 1, live := [], armed := [] } := by
    have fired : ({ page with
        timers := page.timers.filter fun other => other.handle ≠ timer.handle } : Page).ledger =
        { page.ledger with live := [], armed := [] } := by
      simp only [Page.ledger, gone, offline, List.map_nil]
      rfl
    simp only [Page.timerFires, named, if_true, Page.beginRefresh_connect_ledger, fired]
    change ({ page.ledger with connecting := page.connecting + 1, live := [], armed := [] } : Ledger) = _
    rw [idle]
  rw [ledger]
  exact ⟨(fun _ member => nomatch member), (fun _ member => nomatch member), fun _ => ⟨rfl, rfl⟩,
    fun _ => Nat.le_refl 1⟩

/-! ## Steps -/

/-- Neither `selectRun` of a run nor `close` under a selected run is called while
a continuation that will connect is pending. -/
def Undisturbed (page : Page) : PageLabel -> Prop
  | .selectRun runId => runId.filter (fun name => name ≠ "") ≠ none -> page.connecting = 0
  | .close => page.ledger.selected ≠ none -> page.connecting = 0
  | _ => True

variable {result : Page} {label : PageLabel}

theorem Single.step (single : Single page.ledger) (undisturbed : Undisturbed page label)
    (performed : Perform page label result) : Single result.ledger := by
  cases performed with
  | selectRun runId => exact single.selectRun undisturbed
  | close => exact single.close
  | resume pending _ => exact single.resume pending
  | streamEnds running => exact single.streamEnds running
  | timerFires armed => exact single.timerFires armed
  | selectAgent agent => exact Page.selectAgent_ledger.symm ▸ single
  | refresh => exact Page.beginRefresh_nothing_ledger.symm ▸ single
  | detailArrives detail _ _ _ => exact Page.detailArrives_ledger.symm ▸ single
  | detailFails reason _ _ => exact Page.failRefresh_ledger.symm ▸ single
  | resultsSettle _ _ _ _ _ _ => exact Page.finishRefresh_ledger.symm ▸ single
  | streamOpens _ _ => exact Page.streamOpens_ledger.symm ▸ single
  | frameArrives _ _ _ _ _ => exact Page.frameArrives_ledger.symm ▸ single

theorem reachable_single (reachable : (pageSystem.restrictSteps Undisturbed).Reachable page) :
    Single page.ledger := by
  refine System.Reachable.invariant (fun page => Single page.ledger) ?_ ?_ reachable
  · rintro start rfl
    exact Single.initial
  · rintro source label target _ ⟨accepted, undisturbed⟩ single
    exact single.step undisturbed (perform_cases accepted)

/-! ### After close -/

theorem Silent.close (single : Single page.ledger)
    (undisturbed : page.ledger.selected ≠ none -> page.connecting = 0) :
    Silent page.close.ledger := by
  unfold Page.close
  rw [closeRunSubscription_ledger single]
  refine ⟨rfl, rfl, ?_⟩
  by_cases selected : page.ledger.selected = none
  · exact Or.inl selected
  · exact Or.inr (undisturbed selected)

theorem Silent.resume (silent : Silent page.ledger) (pending : refresh ∈ page.refreshes) :
    Silent (page.resume refresh).ledger := by
  have fewer := removeRefresh_connecting_le page refresh
  have removed : Silent (page.removeRefresh refresh).ledger := by
    refine ⟨silent.live, silent.armed, ?_⟩
    rcases silent.still with unselected | none
    · exact Or.inl unselected
    · right
      have idle : page.connecting = 0 := none
      exact Nat.le_zero.mp (idle ▸ fewer)
  unfold Page.resume
  cases connects : refresh.followUp with
  | nothing => exact removed
  | connect =>
      have counted := connecting_of_mem pending connects
      rcases silent.still with unselected | none
      · have same : (page.removeRefresh refresh).ledger.selected = Option.none := unselected
        simp only [connect_ledger, same]
        exact removed
      · have idle : page.connecting = 0 := none
        omega

/-- Once silent, the page stays silent until a run is selected. -/
theorem Silent.step (silent : Silent page.ledger) (single : Single page.ledger)
    (undisturbed : Undisturbed page label) (performed : Perform page label result)
    (unselecting : forall runId, label ≠ .selectRun runId) : Silent result.ledger := by
  have offline : page.subscriptions = [] := List.map_eq_nil_iff.mp silent.live
  have unarmed : page.timers = [] := List.map_eq_nil_iff.mp silent.armed
  cases performed with
  | selectRun runId => exact absurd rfl (unselecting runId)
  | close => exact Silent.close single undisturbed
  | resume pending _ => exact silent.resume pending
  | streamEnds running =>
      rw [offline] at running
      cases running
  | timerFires armed =>
      rw [unarmed] at armed
      cases armed
  | selectAgent agent => exact Page.selectAgent_ledger.symm ▸ silent
  | refresh => exact Page.beginRefresh_nothing_ledger.symm ▸ silent
  | detailArrives detail _ _ _ => exact Page.detailArrives_ledger.symm ▸ silent
  | detailFails reason _ _ => exact Page.failRefresh_ledger.symm ▸ silent
  | resultsSettle _ _ _ _ _ _ => exact Page.finishRefresh_ledger.symm ▸ silent
  | streamOpens _ _ => exact Page.streamOpens_ledger.symm ▸ silent
  | frameArrives _ _ _ _ _ => exact Page.frameArrives_ledger.symm ▸ silent

theorem Silent.run {labels : List PageLabel} (silent : Silent page.ledger)
    (single : Single page.ledger)
    (run : (pageSystem.restrictSteps Undisturbed).Run page labels result)
    (unselecting : forall runId, PageLabel.selectRun runId ∉ labels) : Silent result.ledger := by
  induction run with
  | nil _ => exact silent
  | cons step _ inductionHypothesis =>
      have performed := perform_cases step.1
      exact inductionHypothesis
        (silent.step single step.2 performed
          fun runId same => unselecting runId (same ▸ List.mem_cons_self))
        (single.step step.2 performed)
        fun runId later => unselecting runId (List.mem_cons_of_mem _ later)

/-- At most one subscription is live, and it belongs to the selected run. -/
structure SingleLive (page : Page) : Prop where
  atMostOne : page.subscriptions.length ≤ 1
  ofSelection : ∀ stream ∈ page.subscriptions, page.state.runId = some stream.runId

theorem Single.singleLive (single : Single page.ledger) : SingleLive page where
  atMostOne := by
    by_cases selected : page.ledger.selected = none
    · have none := (single.unselected selected).1
      rw [List.map_eq_nil_iff.mp none]
      exact Nat.zero_le 1
    · have budget := single.alone selected
      omega
  ofSelection := by
    intro stream running
    exact (single.owned (stream.handle, stream.runId)
      (List.mem_map.mpr ⟨stream, running, rfl⟩)).2

end

/-! ## One subscription at a time -/

/-- In every run of calls, answers, disconnects and timers without such an
overlap, at most one subscription is live and it belongs to the selected run;
and from a `close` on none is live until a run is selected again. -/
theorem single_live_subscription {page : Page}
    (reachable : (pageSystem.restrictSteps Undisturbed).Reachable page) :
    SingleLive page ∧
      forall closed labels later, pageSystem.step page .close closed -> Undisturbed page .close ->
        (pageSystem.restrictSteps Undisturbed).Run closed labels later ->
          (forall runId, PageLabel.selectRun runId ∉ labels) -> later.subscriptions = [] := by
  have single := reachable_single reachable
  refine ⟨single.singleLive, ?_⟩
  intro closed labels later step undisturbed run unselecting
  cases step
  have silent := (Silent.close single undisturbed).run single.close run unselecting
  exact List.map_eq_nil_iff.mp silent.live

/-- A detail as the sample runs read it. -/
def sampleDetail : SimulationDetail where
  status := .string "RUNNING"
  currentStage := .null
  queuePosition := .null
  latestEventId := some 5

/-- A run is selected, its stream breaks, and the timer brings a new one, which
`close` ends for good. -/
theorem single_live_subscription_sample :
    ∃ page, page.subscriptions.length = 1 ∧ SingleLive page ∧
      forall closed labels later, pageSystem.step page .close closed -> Undisturbed page .close ->
        (pageSystem.restrictSteps Undisturbed).Run closed labels later ->
          (forall runId, PageLabel.selectRun runId ∉ labels) -> later.subscriptions = [] := by
  have reachable : (pageSystem.restrictSteps Undisturbed).Reachable _ :=
    ⟨Page.initial,
      [.selectRun (some "run_1"), .detailArrives 0 sampleDetail, .resume 0, .streamOpens 1,
        .streamEnds 1, .timerFires 2, .detailArrives 3 sampleDetail, .resume 3], rfl,
      System.Run.cons ⟨rfl, fun _ => rfl⟩
        (System.Run.cons ⟨rfl, trivial⟩
          (System.Run.cons ⟨rfl, trivial⟩
            (System.Run.cons ⟨rfl, trivial⟩
              (System.Run.cons ⟨rfl, trivial⟩
                (System.Run.cons ⟨rfl, trivial⟩
                  (System.Run.cons ⟨rfl, trivial⟩
                    (System.Run.cons ⟨rfl, trivial⟩ (System.Run.nil _))))))))⟩
  exact ⟨_, rfl, single_live_subscription reachable⟩

theorem replay_pageRun {labels : List PageLabel} {page result : Page}
    (replayed : page.replay labels = some result) : pageSystem.Run page labels result :=
  System.Run.of_replay (fun _ _ _ performed => performed) replayed

/-- A second run is selected while the refresh of the first is pending. -/
def overlappingSelections : List PageLabel :=
  [.selectRun (some "run_1"), .selectRun (some "run_2"), .detailFails 0 .abort, .resume 0,
    .detailArrives 1 sampleDetail, .resume 1]

/-- Both continuations connect the selection of the moment, and a continuation
that `close` leaves pending connects after it. -/
theorem overlapping_subscriptions :
    (∃ page, pageSystem.Run Page.initial overlappingSelections page ∧ ¬ SingleLive page) ∧
      ∃ closed page, pageSystem.Run Page.initial [.selectRun (some "run_1"), .close] closed ∧
        pageSystem.Run closed [.detailFails 0 .abort, .resume 0] page ∧ page.subscriptions ≠ [] := by
  constructor
  · refine ⟨_, replay_pageRun rfl, ?_⟩
    intro single
    exact absurd single.atMostOne (by decide)
  · refine ⟨_, _, replay_pageRun rfl, replay_pageRun rfl, ?_⟩
    exact List.cons_ne_nil _ _

end Frontend
end FederatedIot
