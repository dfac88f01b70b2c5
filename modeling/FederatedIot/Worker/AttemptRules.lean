import FederatedIot.Queue.Attendance
import FederatedIot.Worker.ArtifactCommit
import FederatedIot.Worker.Attempt

namespace FederatedIot
namespace Worker
namespace Attempts

open Foundation Foundation.Interference
open Queue (Lease Store Operation Reply Fault Platform JobStatus SimulationStatus)

/-!
# What a worker learns of a cancellation

The first request after a cancellation that depends on it decides how the attempt ends.  A
checkpoint sees the cancellation, an event and a commit are refused because of it, and a
failure is recorded as the cancellation.  A heartbeat renews the lease as before.
-/

/-! ## The course of an attempt -/

/-- How far a cancellation has come. -/
inductive Course where
  | running
  | requested
  | decided (request : Request)

/-- The requests whose answer depends on a cancellation. -/
def decides : Request -> Bool
  | .cancellationContext (some _) => true
  | .database (.reportEvent _ _) => true
  | .database (.failJob _ _ _) => true
  | .database (.commitSimulation _ _) => true
  | _ => false

def Course.advance (runId : String) : Course -> Happening Request Label -> Course
  | .running, .other (.transaction call) => if call.cancels runId then .requested else .running
  | .requested, .own request => if decides request then .decided request else .requested
  | course, _ => course

/-- The course after all that has happened. -/
def courseOf (runId : String) (log : List (Happening Request Label)) : Course :=
  log.foldl (Course.advance runId) .running

theorem courseOf_append (runId : String) (log : List (Happening Request Label)) (happening : Happening Request Label) :
    courseOf runId (log ++ [happening]) = (courseOf runId log).advance runId happening :=
  List.foldl_append

/-- The status of the job. -/
def Course.status : Course -> JobStatus
  | .running => .running
  | .requested => .cancelling
  | .decided _ => .cancelling

/-- Other requests leave the course as it is. -/
theorem Course.advance_quiet {request : Request} (quiet : decides request = false) (runId : String) (course : Course) :
    course.advance runId (.own request) = course := by
  cases course with
  | running | decided _ => rfl
  | requested =>
      rw [Course.advance, quiet]
      rfl

theorem Course.status_active (course : Course) : course.status.isActive = true := by
  cases course <;> rfl

variable {setting : Setting} {course : Course} {published : Bool}

abbrev Moment : Type :=
  State × List (Happening Request Label)

/-- The run is with the worker, in this course. -/
structure Stands (setting : Setting) (course : Course) (published : Bool) (moment : Moment) : Prop where
  reached : courseOf setting.runId moment.2 = course
  attended : Queue.Attended setting.platform setting.lease setting.runId setting.workerId course.status moment.1.store
  recorded : moment.1.recorded = none
  published : moment.1.writer.committedDirectory.isSome = published

/-- The run has its final status. -/
structure Settles (setting : Setting) (status : SimulationStatus) (course : Course) (published : Bool) (moment : Moment) :
    Prop where
  reached : courseOf setting.runId moment.2 = course
  reachable : Queue.Reachable setting.platform moment.1.store
  finished : Queue.Finished setting.runId status moment.1.store.view
  published : moment.1.writer.committedDirectory.isSome = published

/-- Nothing is decided yet. -/
def Going (setting : Setting) (published : Bool) (moment : Moment) : Prop :=
  Stands setting .running published moment ∨ Stands setting .requested published moment

/-! ## What the others do -/

/-- A heartbeat is accepted. -/
theorem transacts_heartbeat {status : JobStatus} {store later : Store} {now : Queue.Instant} {outcome : Except Fault Reply}
    (attended : Queue.Attended setting.platform setting.lease setting.runId setting.workerId status store)
    (active : status.isActive = true)
    (transacts : Transacts setting store
      ⟨now, .heartbeat setting.workerId setting.lease setting.leaseSeconds, outcome⟩ later) :
    outcome = .ok (.accepted true) ∧
      Queue.Attended setting.platform setting.lease setting.runId setting.workerId status later := by
  rcases attended.heartbeat active transacts.1 setting.duration with ⟨result, accepted, continues⟩
  have executed : Queue.execute setting.platform now (.heartbeat setting.workerId setting.lease setting.leaseSeconds) store =
      .ok (result, .accepted true) := by
    rw [Queue.execute, accepted]
    rfl
  have reachable := attended.reachable.step transacts.2
  rcases Queue.Transaction.of_ok executed transacts.2 with ⟨replied, rfl⟩
  exact ⟨replied, attended.later reachable continues⟩

theorem Stands.interfered {moment later : Moment} {label : Label} (stands : Stands setting course published moment)
    (step : (service setting).logged.interferes moment label later) :
    Stands setting (course.advance setting.runId (.other label)) published later := by
  rcases moment with ⟨state, log⟩
  rcases later with ⟨after, longer⟩
  rcases step with ⟨moved, isLonger⟩
  dsimp only at moved isLonger
  have advanced : courseOf setting.runId longer = course.advance setting.runId (.other label) := by
    rw [isLonger, courseOf_append, stands.reached]
  cases moved with
  | @transaction call store elsewhere transacts =>
      refine ⟨advanced, ?_, stands.recorded, stands.published⟩
      rcases stands.attended.interfered course.status_active transacts.2 transacts.1 elsewhere with
        ⟨cancels, cancelling⟩ | ⟨passes, attended⟩
      · cases course with
        | running =>
            rw [Course.advance, if_pos cancels]
            exact cancelling
        | requested | decided _ => exact cancelling
      · cases course with
        | running =>
            rw [Course.advance, if_neg (Bool.eq_false_iff.mp passes)]
            exact attended
        | requested | decided _ => exact attended
  | beat _ transacts =>
      rcases transacts_heartbeat stands.attended course.status_active transacts with ⟨rfl, attended⟩
      refine ⟨advanced, ?_, ?_, stands.published⟩
      · cases course <;> exact attended
      · dsimp only
        rw [stands.recorded]
        rfl

theorem going_stable : (service setting).logged.Stable (Going setting published) := by
  intro moment label later going step
  rcases going with stands | stands
  · have after := stands.interfered step
    cases label with
    | beat now outcome => exact Or.inl after
    | transaction call =>
        rw [Course.advance] at after
        split at after
        · exact Or.inr after
        · exact Or.inl after
  · exact Or.inr (stands.interfered step)

theorem decided_stable {request : Request} :
    (service setting).logged.Stable (Stands setting (.decided request) published) :=
  fun _ _ _ stands step => stands.interfered step

theorem Settles.interfered {status : SimulationStatus} {moment later : Moment} {label : Label}
    (settles : Settles setting status course published moment)
    (step : (service setting).logged.interferes moment label later)
    (kept : course.advance setting.runId (.other label) = course) : Settles setting status course published later := by
  rcases moment with ⟨state, log⟩
  rcases later with ⟨after, longer⟩
  rcases step with ⟨moved, isLonger⟩
  dsimp only at moved isLonger
  have same : courseOf setting.runId longer = course := by
    rw [isLonger, courseOf_append, settles.reached, kept]
  cases moved with
  | transaction _ transacts | beat _ transacts =>
      exact ⟨same, settles.reachable.step transacts.2, settles.finished.stays settles.reachable transacts.2, settles.published⟩

/-- A run that was not cancelled is not cancelled afterwards. -/
theorem settles_running_stable {status : SimulationStatus} (other : status ≠ .cancelled) :
    (service setting).logged.Stable (Settles setting status .running published) := by
  intro moment label later settles step
  refine settles.interfered step ?_
  cases label with
  | beat now outcome => rfl
  | transaction call =>
      rcases later with ⟨after, longer⟩
      rcases step with ⟨moved, _⟩
      dsimp only at moved
      cases moved with
      | transaction _ transacts =>
          rw [Course.advance, settles.finished.not_cancelled other transacts.2]
          rfl

theorem settles_decided_stable {status : SimulationStatus} {request : Request} :
    (service setting).logged.Stable (Settles setting status (.decided request) published) :=
  fun _ _ _ settles step => settles.interfered step rfl

/-! ## The end of the thread -/

/-- The property holds after the thread was stopped. -/
def Stops (property : Moment -> Prop) : Prop :=
  forall moment later, property moment -> later.1 = { moment.1 with beating := false } ->
    later.2 = moment.2 ++ [.own .stopThread] -> property later

theorem Stops.or {first second : Moment -> Prop} (left : Stops first) (right : Stops second) :
    Stops fun moment => first moment ∨ second moment :=
  fun moment later holds stopped longer =>
    holds.imp (fun held => left moment later held stopped longer) fun held => right moment later held stopped longer

theorem Stops.exists {Index : Type} {property : Index -> Moment -> Prop} (each : forall index, Stops (property index)) :
    Stops fun moment => exists index, property index moment :=
  fun moment later ⟨index, holds⟩ stopped longer => ⟨index, each index moment later holds stopped longer⟩

theorem stands_stops : Stops (Stands setting course published) := by
  intro moment later stands stopped longer
  refine ⟨?_, ?_, ?_, ?_⟩
  · rw [longer, courseOf_append, stands.reached, Course.advance_quiet rfl]
  · rw [stopped]
    exact stands.attended
  · rw [stopped]
    exact stands.recorded
  · rw [stopped]
    exact stands.published

theorem settles_stops {status : SimulationStatus} : Stops (Settles setting status course published) := by
  intro moment later settles stopped longer
  refine ⟨?_, ?_, ?_, ?_⟩
  · rw [longer, courseOf_append, settles.reached, Course.advance_quiet rfl]
  · rw [stopped]
    exact settles.reachable
  · rw [stopped]
    exact settles.finished
  · rw [stopped]
    exact settles.published

theorem stop_secures {property : Moment -> Prop} {raised : Failure -> Moment -> Prop}
    (stable : (service setting).logged.Stable property) (stops : Stops property) :
    (service setting).logged.Secures property (request .stopThread) (fun _ => property) raised :=
  Service.Secures.ask stable (fun moment _ later holds stopped => stops moment later holds stopped.1 stopped.2) fun _ => stable

/-! ## Requests that decide nothing -/

theorem Stands.asked {request : Request} {moment later : Moment} {shown : Bool}
    (stands : Stands setting course published moment) (longer : later.2 = moment.2 ++ [.own request])
    (attended : Queue.Attended setting.platform setting.lease setting.runId setting.workerId
      (course.advance setting.runId (.own request)).status later.1.store)
    (recorded : later.1.recorded = none) (shows : later.1.writer.committedDirectory.isSome = shown) :
    Stands setting (course.advance setting.runId (.own request)) shown later where
  reached := by rw [longer, courseOf_append, stands.reached]
  attended := attended
  recorded := recorded
  published := shows

/-- A transaction has settled the run. -/
theorem Stands.settles {request : Request} {moment later : Moment} {store : Store} {status : SimulationStatus}
    (stands : Stands setting course published moment) (longer : later.2 = moment.2 ++ [.own request])
    (isLater : later.1 = { moment.1 with store := store }) (reachable : Queue.Reachable setting.platform store)
    (finished : Queue.Finished setting.runId status store.view) :
    Settles setting status (course.advance setting.runId (.own request)) published later where
  reached := by rw [longer, courseOf_append, stands.reached]
  reachable := by
    rw [isLater]
    exact reachable
  finished := by
    rw [isLater]
    exact finished
  published := by
    rw [isLater]
    exact stands.published

theorem Going.quiet {request : Request} {moment later : Moment} {shown : Bool} (going : Going setting published moment)
    (quiet : decides request = false) (longer : later.2 = moment.2 ++ [.own request])
    (attended : forall status : JobStatus, status.isActive = true ->
      Queue.Attended setting.platform setting.lease setting.runId setting.workerId status moment.1.store ->
      Queue.Attended setting.platform setting.lease setting.runId setting.workerId status later.1.store)
    (recorded : later.1.recorded = moment.1.recorded)
    (shows : later.1.writer.committedDirectory.isSome = shown) : Going setting shown later := by
  rcases going with stands | stands
  · exact Or.inl (stands.asked longer (attended _ rfl stands.attended) (recorded.trans stands.recorded) shows)
  · have kept := Course.advance_quiet quiet setting.runId .requested
    have after := stands.asked longer (by rw [kept]; exact attended _ rfl stands.attended)
      (recorded.trans stands.recorded) shows
    rw [kept] at after
    exact Or.inr after

theorem Going.recorded {moment : Moment} (going : Going setting published moment) : moment.1.recorded = none := by
  rcases going with stands | stands
  · exact stands.recorded
  · exact stands.recorded

theorem Going.shows {moment : Moment} (going : Going setting published moment) :
    moment.1.writer.committedDirectory.isSome = published := by
  rcases going with stands | stands
  · exact stands.published
  · exact stands.published

/-- Work that goes on as it began, and raises nothing. -/
def Passes {Value : Type} (setting : Setting) (published : Bool) (work : Work Value) (value : Value -> Prop) : Prop :=
  (service setting).logged.Secures (Going setting published) work
    (fun result moment => value result ∧ Going setting published moment) fun _ _ => False

theorem false_stable {Failure : Type} (failure : Failure) :
    (service setting).logged.Stable fun moment => (fun (_ : Failure) (_ : Moment) => False) failure moment :=
  fun _ _ _ impossible _ => impossible

theorem passes_stable {condition : Prop} :
    (service setting).logged.Stable fun moment => condition ∧ Going setting published moment :=
  fun moment label later holds step => ⟨holds.1, going_stable moment label later holds.2 step⟩

namespace Passes

variable {Value Other : Type} {work : Work Value} {value : Value -> Prop} {result : Other -> Prop}

theorem pure {given : Value} (holds : value given) : Passes setting published (Pure.pure given) value :=
  Service.Secures.of_before (Service.Secures.pure passes_stable) fun _ going => ⟨holds, going⟩

theorem bind {rest : Value -> Work Other} (begins : Passes setting published work value)
    (continues : forall given, value given -> Passes setting published (rest given) result) :
    Passes setting published (work >>= rest) result := by
  refine Service.Secures.bind begins (fun given => ?_) fun failure => false_stable failure
  intro moment outcome final holds run
  exact continues given holds.1 moment outcome final holds.2 run

theorem request {call : Request} {value : Answer call -> Prop}
    (step : forall moment (answer : Answer call) later, Going setting published moment ->
      (service setting).logged.answers moment call answer later -> value answer ∧ Going setting published later) :
    Passes setting published (Attempts.request call) value :=
  Service.Secures.ask going_stable step fun _ => passes_stable

end Passes

/-- A request that changes neither the database nor the files. -/
theorem passes_request {call : Request} {value : Answer call -> Prop} (quiet : decides call = false)
    (step : forall state (answer : Answer call) later, state.recorded = none -> answers setting state call answer later ->
      value answer ∧ later.store = state.store ∧ later.recorded = state.recorded ∧ later.writer = state.writer) :
    Passes setting published (request call) value := by
  refine Passes.request fun moment answer later going answered => ?_
  rcases step moment.1 answer later.1 going.recorded answered.1 with ⟨holds, sameStore, sameRecorded, sameWriter⟩
  refine ⟨holds, going.quiet quiet answered.2 (fun status _ attended => ?_) sameRecorded ?_⟩
  · rw [sameStore]
    exact attended
  · rw [sameWriter]
    exact going.shows

theorem cancellationRequested_passes : Passes setting published cancellationRequested fun _ => True := by
  have asks : Passes setting published (request (.cancellationContext none)) fun _ => True := by
    refine passes_request rfl ?_
    rintro state context later - ⟨now, _, _, rfl⟩
    exact ⟨trivial, rfl, rfl, rfl⟩
  exact asks.bind fun _ _ => Passes.pure trivial

/-- A transaction that is always accepted raises nothing. -/
theorem booleanCall_accepts {operation : Operation} {before after : Moment -> Prop}
    (begins : (service setting).logged.Stable before) (ends : (service setting).logged.Stable after)
    (step : forall moment (outcome : Except Fault Reply) later, before moment ->
      (service setting).logged.answers moment (.database operation) outcome later ->
        outcome = .ok (.accepted true) ∧ after later) :
    (service setting).logged.Secures before (booleanCall operation) (fun _ => after) fun _ _ => False := by
  have asks : (service setting).logged.Secures before (request (.database operation))
      (fun (outcome : Except Fault Reply) moment => outcome = .ok (.accepted true) ∧ after moment) fun _ _ => False := by
    refine Service.Secures.ask begins step fun outcome => ?_
    exact fun moment label later holds moved => ⟨holds.1, ends moment label later holds.2 moved⟩
  refine Service.Secures.bind asks (fun outcome => ?_) fun failure => false_stable failure
  by_cases accepted : outcome = .ok (.accepted true)
  · subst accepted
    exact (@Service.Secures.pure _ _ Unit _ _ _ _ (fun _ => after) _ () ends).of_before fun _ holds => holds.2
  · rintro moment _ _ ⟨impossible, _⟩ _
    exact absurd impossible accepted

theorem renewLease_passes : Passes setting published (renewLease setting) fun _ => True := by
  have beats : (service setting).logged.Secures (Going setting published) (renewLease setting)
      (fun _ => Going setting published) fun _ _ => False := by
    refine booleanCall_accepts going_stable going_stable ?_
    rintro moment outcome later going ⟨⟨now, store, transacts, isLater⟩, longer⟩
    have accepted : outcome = .ok (.accepted true) := by
      rcases going with stands | stands
      · exact (transacts_heartbeat stands.attended rfl transacts).1
      · exact (transacts_heartbeat stands.attended rfl transacts).1
    refine ⟨accepted, going.quiet rfl longer (fun status active attended => ?_) ?_ ?_⟩ <;> rw [isLater]
    · exact (transacts_heartbeat attended active transacts).2
    · exact going.shows
  exact beats.weaken (fun _ _ going => ⟨trivial, going⟩) fun _ _ impossible => impossible

/-- A lease that is live is renewed. -/
theorem renewUnlessCancelled_passes :
    Passes setting published (renewUnlessCancelled setting) fun renewed => renewed = true := by
  have renews : Passes setting published (do renewLease setting; pure true) fun renewed => renewed = true :=
    renewLease_passes.bind fun _ _ => Passes.pure rfl
  refine Service.Secures.tryCatch renews (fun failure => ?_) fun _ => passes_stable
  exact fun _ _ _ impossible _ => impossible.elim

theorem startTaskHeartbeat_passes : Passes setting published (startTaskHeartbeat setting) fun _ => True := by
  refine cancellationRequested_passes.bind fun cancelled _ => ?_
  cases cancelled with
  | true => exact Passes.pure trivial
  | false =>
      refine renewUnlessCancelled_passes.bind ?_
      rintro _ rfl
      have starts : Passes setting published (request .startThread) fun _ => True := by
        refine passes_request rfl ?_
        rintro state _ later - rfl
        exact ⟨trivial, rfl, rfl, rfl⟩
      exact starts.bind fun _ _ => Passes.pure trivial

theorem isCancelRequestedLater_passes {threaded : Bool} :
    Passes setting published (isCancelRequestedLater setting threaded) fun cancelled => cancelled = false := by
  have reads : Passes setting published (request .heartbeatFailure) fun recorded => recorded = none := by
    refine passes_request rfl ?_
    rintro state recorded later unrecorded ⟨rfl, rfl⟩
    exact ⟨unrecorded, rfl, rfl, rfl⟩
  refine reads.bind ?_
  rintro _ rfl
  cases threaded with
  | true => exact Passes.pure rfl
  | false =>
      have asks : Passes setting published (request .renewalDue) fun _ => True := by
        refine passes_request rfl ?_
        rintro state _ later - rfl
        exact ⟨trivial, rfl, rfl, rfl⟩
      refine asks.bind fun due _ => ?_
      cases due with
      | false => exact Passes.pure rfl
      | true =>
          refine renewUnlessCancelled_passes.bind ?_
          rintro _ rfl
          exact Passes.pure rfl

/-! ## Checkpoints -/

/-- The course when a checkpoint has seen the cancellation. -/
def Course.seen (stage : String) : Course :=
  .decided (.cancellationContext (some stage))

/-- What a checkpoint has seen. -/
def Sees (setting : Setting) (stage : String) (published cancelled : Bool) (moment : Moment) : Prop :=
  (cancelled = true ∧ Stands setting (.seen stage) published moment) ∨ (cancelled = false ∧ Going setting published moment)

theorem sees_stable {stage : String} (cancelled : Bool) :
    (service setting).logged.Stable (Sees setting stage published cancelled) := by
  refine Service.Stable.or (fun moment label later holds step => ⟨holds.1, ?_⟩) passes_stable
  exact decided_stable moment label later holds.2 step

/-- The answer at a checkpoint. -/
theorem Going.checked {stage : String} {moment later : Moment} {state : Option Queue.CancellationContext}
    (going : Going setting published moment)
    (answered : (service setting).logged.answers moment (.cancellationContext (some stage)) state later) :
    exists context, state = some context ∧ Sees setting stage published context.cancelRequested later := by
  rcases answered with ⟨⟨now, live, isState, isLater⟩, longer⟩
  rcases going with stands | stands
  · rcases stands.attended.context rfl live with ⟨context, found, shows⟩
    refine ⟨context, isState.trans found, Or.inr ⟨shows, Or.inl ?_⟩⟩
    refine stands.asked longer ?_ ?_ ?_ <;> rw [isLater]
    · exact stands.attended
    · exact stands.recorded
    · exact stands.published
  · rcases stands.attended.context rfl live with ⟨context, found, shows⟩
    refine ⟨context, isState.trans found, Or.inl ⟨shows, ?_⟩⟩
    refine stands.asked longer ?_ ?_ ?_ <;> rw [isLater]
    · exact stands.attended
    · exact stands.recorded
    · exact stands.published

/-- A checkpoint sees the cancellation as soon as it is committed. -/
theorem isCancelRequested_secures {threaded : Bool} {stage : String} :
    (service setting).logged.Secures (Going setting published) (isCancelRequested setting threaded stage)
      (Sees setting stage published) fun _ _ => False := by
  have reads : (service setting).logged.Secures (Going setting published) (request (.cancellationContext (some stage)))
      (fun (state : Option Queue.CancellationContext) moment =>
        exists context, state = some context ∧ Sees setting stage published context.cancelRequested moment)
      fun _ _ => False := by
    refine Service.Secures.ask going_stable (fun moment state later => Going.checked) ?_
    rintro state moment label later ⟨context, found, sees⟩ step
    exact ⟨context, found, sees_stable _ moment label later sees step⟩
  refine Service.Secures.bind reads (fun state => ?_) fun failure => false_stable failure
  cases state with
  | none =>
      rintro moment outcome final ⟨_, impossible, _⟩ _
      cases impossible
  | some context =>
      have sees : forall moment, (exists other, some context = some other ∧
          Sees setting stage published other.cancelRequested moment) ->
          Sees setting stage published context.cancelRequested moment := by
        rintro moment ⟨_, same, sees⟩
        cases same
        exact sees
      refine Service.Secures.of_before ?_ sees
      dsimp only
      cases context.cancelRequested with
      | true => exact Service.Secures.pure (sees_stable true)
      | false =>
          have later : (service setting).logged.Secures (Going setting published) (isCancelRequestedLater setting threaded)
              (Sees setting stage published) fun _ _ => False :=
            Service.Secures.weaken isCancelRequestedLater_passes (fun _ _ passed => Or.inr passed)
              fun _ _ impossible => impossible
          refine later.of_before ?_
          rintro moment (⟨impossible, _⟩ | ⟨_, going⟩)
          · cases impossible
          · exact going

end Attempts
end Worker
end FederatedIot
