import FederatedIot.Worker.AttemptRules

namespace FederatedIot
namespace Worker
namespace Attempts

open Foundation Foundation.Interference
open Queue (Lease Store Operation Reply Fault Platform JobStatus SimulationStatus)

/-!
# How an attempt ends

The description of an attempt is put together from its requests: a computation ends by itself
or at a checkpoint, an event is stored or refused, the files are published once, and the commit
completes the run.  What is raised says how far the cancellation had come.
-/

variable {setting : Setting} {plan : Plan} {course : Course} {published : Bool}

/-! ## What is raised -/

/-- A failure of the worker's own computations. -/
def Failure.Own : Failure -> Prop
  | .worker failure => failure.code ≠ "CANCELLED"
  | .exception => True
  | .cancelled _ _ | .leaseLost | .repositoryOperation => False

/-- A computation has failed, and nothing is decided. -/
def Fails (setting : Setting) (failure : Failure) (moment : Moment) : Prop :=
  failure.Own ∧ Going setting false moment

/-- What holds when the body of an attempt raises. -/
def Raised (setting : Setting) : Failure -> Moment -> Prop
  | .cancelled stage _, moment => Stands setting (.seen stage) (decide (stage = "GENERATING_ARTIFACTS")) moment
  | .worker failure, moment => failure.code ≠ "CANCELLED" ∧ Going setting false moment
  | .exception, moment => Going setting false moment
  | .leaseLost, moment => exists request,
      Stands setting (.decided (.database (.commitSimulation setting.lease request))) true moment
  | .repositoryOperation, moment =>
      (exists event, Stands setting (.decided (.database (.reportEvent setting.lease event))) false moment) ∨
        Going setting false moment ∨ Going setting true moment

theorem fails_stable (failure : Failure) : (service setting).logged.Stable (Fails setting failure) :=
  passes_stable

theorem exists_stable {Index : Type} {property : Index -> Moment -> Prop}
    (each : forall index, (service setting).logged.Stable (property index)) :
    (service setting).logged.Stable fun moment => exists index, property index moment := by
  rintro moment label later ⟨index, holds⟩ step
  exact ⟨index, each index moment label later holds step⟩

theorem raised_stable (failure : Failure) : (service setting).logged.Stable (Raised setting failure) := by
  cases failure with
  | cancelled stage agent => exact decided_stable
  | leaseLost => exact exists_stable fun request => decided_stable
  | worker failure => exact passes_stable
  | repositoryOperation =>
      exact Service.Stable.or (exists_stable fun event => decided_stable) (Service.Stable.or going_stable going_stable)
  | exception => exact going_stable

theorem Fails.raised {failure : Failure} {moment : Moment} (fails : Fails setting failure moment) :
    Raised setting failure moment := by
  cases failure with
  | worker failure => exact fails
  | exception => exact fails.2
  | cancelled _ _ | leaseLost | repositoryOperation => exact fails.1.elim

/-- Work that goes on, with or without published files, unless it raises. -/
def Proceeds {Value : Type} (setting : Setting) (published shown : Bool) (work : Work Value) : Prop :=
  (service setting).logged.Secures (Going setting published) work (fun _ => Going setting shown) (Raised setting)

namespace Proceeds

variable {Value Other : Type} {work : Work Value} {before after : Bool}

theorem bind {rest : Value -> Work Other} (begins : Proceeds setting before published work)
    (continues : forall value, Proceeds setting published after (rest value)) :
    Proceeds setting before after (work >>= rest) :=
  Service.Secures.bind begins continues raised_stable

theorem of_passes {value : Value -> Prop} (passes : Passes setting published work value) :
    Proceeds setting published published work :=
  Service.Secures.weaken passes (fun _ _ holds => holds.2) fun _ _ impossible => impossible.elim

theorem of_fails
    (secures : (service setting).logged.Secures (Going setting before) work (fun _ => Going setting after) (Fails setting)) :
    Proceeds setting before after work :=
  secures.weaken (fun _ _ going => going) fun _ _ fails => fails.raised

end Proceeds

/-! ## Computations -/

theorem checkCancel_proceeds {threaded : Bool} {stage : String} {agent : Option Nat}
    (last : published = decide (stage = "GENERATING_ARTIFACTS")) :
    Proceeds setting published published (checkCancel setting threaded stage agent) := by
  have sees : (service setting).logged.Secures (Going setting published) (isCancelRequested setting threaded stage)
      (Sees setting stage published) (Raised setting) :=
    isCancelRequested_secures.weaken (fun _ _ holds => holds) fun _ _ impossible => impossible.elim
  refine Service.Secures.bind sees (fun cancelled => ?_) raised_stable
  cases cancelled with
  | true =>
      refine (Service.Secures.throw (raised_stable (.cancelled stage agent))).of_before ?_
      rintro moment (⟨_, stands⟩ | ⟨impossible, _⟩)
      · rw [last] at stands
        exact stands
      · cases impossible
  | false =>
      refine (@Service.Secures.pure _ _ Unit _ _ _ _ (fun _ => Going setting published) _ () going_stable).of_before ?_
      rintro moment (⟨impossible, _⟩ | ⟨_, going⟩)
      · cases impossible
      · exact going

theorem ending_secures (ending : Ending) :
    (service setting).logged.Secures (Going setting false) ending.work (fun _ => Going setting false) (Fails setting) := by
  cases ending with
  | returns => exact @Service.Secures.pure _ _ Unit _ _ _ _ (fun _ => Going setting false) _ () going_stable
  | fails failure => exact (Service.Secures.throw (fails_stable _)).of_before fun _ going => ⟨failure.own, going⟩
  | raises => exact (Service.Secures.throw (fails_stable _)).of_before fun _ going => ⟨trivial, going⟩

theorem ending_proceeds (ending : Ending) : Proceeds setting false false ending.work :=
  Proceeds.of_fails (ending_secures ending)

theorem stage_text_ne (stage : Queue.Stage) : false = decide (stage.text = "GENERATING_ARTIFACTS") := by
  cases stage <;> decide

theorem stretch_proceeds (threaded : Bool) (stretch : Stretch) :
    Proceeds setting false false (stretch.work setting threaded) := by
  have checks : Proceeds setting false false
      (stretch.checks.forM fun check => checkCancel setting threaded check.1.text check.2) :=
    Service.Secures.forM stretch.checks going_stable raised_stable fun check => checkCancel_proceeds (stage_text_ne check.1)
  exact checks.bind fun _ => ending_proceeds stretch.ending

/-! ## Events -/

/-- An event contradicts the job when the run is not running, or when it is too large. -/
theorem event_contradicts {status : JobStatus} {stage : Queue.Stage} {job : Queue.WorkerJob}
    (held : Queue.HeldBy setting.lease setting.runId status job) :
    Queue.Contradicts setting.platform job (event setting plan stage) ↔
      status ≠ .running ∨ 65536 < setting.platform.pgColumnSize (event setting plan stage) := by
  have declared : (event setting plan stage).text? "status" = some "RUNNING" := rfl
  constructor
  · intro contradicts
    cases contradicts with
    | schemaVersion found other =>
        cases found
        exact absurd rfl other
    | jobId found other =>
        cases found
        exact absurd held.jobId.symm other
    | attemptId found other =>
        cases found
        exact absurd held.attemptId.symm other
    | status found other =>
        rw [declared] at found
        cases found
        refine Or.inl fun running => other ?_
        rw [held.status, running]
        rfl
    | stage found other =>
        cases found
        refine absurd ?_ other
        cases stage <;> decide
    | occurredAt found other =>
        cases found
        exact absurd rfl other
    | diagnostics found other =>
        cases found
        exact absurd rfl other
    | size large => exact Or.inr large
    | runId other => exact absurd held.runId.symm other
    | agent other => exact absurd (Or.inr (Or.inl rfl)) other
  · rintro (other | large)
    · refine Queue.Contradicts.status declared fun same => other ?_
      rw [held.status] at same
      cases status with
      | running => rfl
      | queued | cancelling | completed | cancelled | failed | failedRecoverable => exact absurd same (by decide)
    · exact Queue.Contradicts.size large

/-- The answer to an event. -/
theorem Going.reported {stage : Queue.Stage} {moment later : Moment} {outcome : Except Fault Reply}
    (going : Going setting false moment)
    (answered : (service setting).logged.answers moment
      (.database (.reportEvent setting.lease (event setting plan stage))) outcome later) :
    (outcome = .ok (.accepted true) ∧ Going setting false later) ∨
      (exists fault, outcome = .error fault) ∧ Raised setting .repositoryOperation later := by
  rcases answered with ⟨⟨now, store, transacts, isLater⟩, longer⟩
  have refused {status : JobStatus} (active : status.isActive = true)
      (attended : Queue.Attended setting.platform setting.lease setting.runId setting.workerId status moment.1.store)
      (contradicts : status ≠ .running ∨ 65536 < setting.platform.pgColumnSize (event setting plan stage)) :
      (exists fault, outcome = .error fault) ∧
        Queue.Attended setting.platform setting.lease setting.runId setting.workerId status later.1.store := by
    rcases attended.report_refused active transacts.1 (fun job held => (event_contradicts held).mpr contradicts) with
      ⟨fault, failed⟩
    have executed : Queue.execute setting.platform now (.reportEvent setting.lease (event setting plan stage))
        moment.1.store = .error (.postgres fault) := by
      rw [Queue.execute, failed]
      rfl
    rcases Queue.Transaction.of_error executed transacts.2 with ⟨isOutcome, same⟩
    rw [isLater]
    exact ⟨⟨_, isOutcome⟩, attended.rolledBack transacts.2 same⟩
  rcases going with stands | stands
  · by_cases large : 65536 < setting.platform.pgColumnSize (event setting plan stage)
    · rcases refused rfl stands.attended (Or.inr large) with ⟨failed, attended⟩
      refine Or.inr ⟨failed, Or.inr (Or.inl (Or.inl ?_))⟩
      refine stands.asked longer attended ?_ ?_ <;> rw [isLater]
      · exact stands.recorded
      · exact stands.published
    · left
      have consistent (job : Queue.WorkerJob) (held : Queue.HeldBy setting.lease setting.runId .running job) :
          ¬Queue.Contradicts setting.platform job (event setting plan stage) := by
        rw [event_contradicts held]
        rintro (other | tooLarge)
        · exact other rfl
        · exact large tooLarge
      rcases stands.attended.report transacts.1 consistent (fun missing => by cases missing) with
        ⟨result, accepted, continues⟩
      have executed : Queue.execute setting.platform now (.reportEvent setting.lease (event setting plan stage))
          moment.1.store = .ok (result, .accepted true) := by
        rw [Queue.execute, accepted]
        rfl
      have reachable := stands.attended.reachable.step transacts.2
      rcases Queue.Transaction.of_ok executed transacts.2 with ⟨replied, rfl⟩
      refine ⟨replied, Or.inl ?_⟩
      refine stands.asked longer ?_ ?_ ?_ <;> rw [isLater]
      · exact stands.attended.later reachable continues
      · exact stands.recorded
      · exact stands.published
  · rcases refused rfl stands.attended (Or.inl (by decide)) with ⟨failed, attended⟩
    refine Or.inr ⟨failed, Or.inl ⟨event setting plan stage, ?_⟩⟩
    refine stands.asked longer attended ?_ ?_ <;> rw [isLater]
    · exact stands.recorded
    · exact stands.published

/-- What is known of a transaction that may raise. -/
theorem booleanCall_secures {operation : Operation} {before after : Moment -> Prop} (begins : (service setting).logged.Stable before)
    (ends : (service setting).logged.Stable after)
    (step : forall moment (outcome : Except Fault Reply) later, before moment ->
      (service setting).logged.answers moment (.database operation) outcome later ->
        (outcome = .ok (.accepted true) ∧ after later) ∨
        (outcome = .ok (.accepted false) ∧ Raised setting .leaseLost later) ∨
          (exists fault, outcome = .error fault) ∧ Raised setting .repositoryOperation later) :
    (service setting).logged.Secures before (booleanCall operation) (fun _ => after) (Raised setting) := by
  have asks : (service setting).logged.Secures before (request (.database operation))
      (fun (outcome : Except Fault Reply) moment => (outcome = .ok (.accepted true) ∧ after moment) ∨
        (outcome = .ok (.accepted false) ∧ Raised setting .leaseLost moment) ∨
          (exists fault, outcome = .error fault) ∧ Raised setting .repositoryOperation moment)
      (Raised setting) := by
    refine Service.Secures.ask begins step fun outcome => ?_
    exact Service.Stable.or (fun moment label later holds moved => ⟨holds.1, ends moment label later holds.2 moved⟩)
      (Service.Stable.or
        (fun moment label later holds moved => ⟨holds.1, raised_stable _ moment label later holds.2 moved⟩)
        fun moment label later holds moved => ⟨holds.1, raised_stable _ moment label later holds.2 moved⟩)
  refine Service.Secures.bind asks (fun outcome => ?_) raised_stable
  rcases outcome with fault | reply
  · refine (Service.Secures.throw (raised_stable .repositoryOperation)).of_before ?_
    rintro moment (⟨impossible, _⟩ | ⟨impossible, _⟩ | ⟨_, raised⟩)
    · cases impossible
    · cases impossible
    · exact raised
  · cases reply with
    | accepted value =>
        cases value with
        | true =>
            refine (@Service.Secures.pure _ _ Unit _ _ _ _ (fun _ => after) _ () ends).of_before ?_
            rintro moment (⟨_, holds⟩ | ⟨impossible, _⟩ | ⟨⟨_, impossible⟩, _⟩)
            · exact holds
            · cases impossible
            · cases impossible
        | false =>
            refine (Service.Secures.throw (raised_stable .leaseLost)).of_before ?_
            rintro moment (⟨impossible, _⟩ | ⟨_, raised⟩ | ⟨⟨_, impossible⟩, _⟩)
            · cases impossible
            · exact raised
            · cases impossible
    | registered _ | created _ _ | cancelled _ | saved | observed _ | claimed _ | recovered _ =>
        rintro moment _ _ (⟨impossible, _⟩ | ⟨impossible, _⟩ | ⟨⟨_, impossible⟩, _⟩) _ <;> cases impossible

theorem emit_proceeds (stage : Queue.Stage) : Proceeds setting false false (emit setting plan stage) := by
  refine booleanCall_secures going_stable going_stable fun moment outcome later going answered => ?_
  exact (going.reported answered).imp id Or.inr

/-! ## The files -/

section files

variable {Value : Type} {call : Artifacts.Faults -> Artifacts.Call Value} {writer later : Artifacts.Writer}
  {outcome : Except Artifacts.Failure Value} {returned : Value -> Artifacts.Writer -> Prop}
  {failed : Artifacts.Failure -> Artifacts.Writer -> Prop}

/-- A call ends as it is described, whatever fails. -/
theorem Called.described (called : Called call writer outcome later)
    (leads : forall faults, Foundation.Work.Leads (call faults) writer returned failed) : Ends returned failed outcome later := by
  rcases called with ⟨faults, isOutcome⟩
  have described := leads faults
  unfold Foundation.Work.Leads at isOutcome described
  cases done : call faults writer with
  | ok value state =>
      rw [done] at isOutcome described
      rcases isOutcome with ⟨rfl, rfl⟩
      exact described
  | error failure state =>
      rw [done] at isOutcome described
      rcases isOutcome with ⟨rfl, rfl⟩
      exact described

/-- The published directory is left as it is. -/
def Keeps (writer : Artifacts.Writer) (later : Artifacts.Writer) : Prop :=
  later.committedDirectory = writer.committedDirectory

theorem Called.keeps (called : Called call writer outcome later)
    (leads : forall faults, Foundation.Work.Leads (call faults) writer (fun _ => Keeps writer) fun _ => Keeps writer) :
    Keeps writer later := by
  have described := called.described leads
  cases outcome with
  | ok value => exact described
  | error failure => exact described

theorem writeBytes_keeps (host : Artifacts.Host) (faults : Artifacts.Faults) (name : List Char) (data : Artifacts.Bytes)
    (mediaType : String) (required : Bool) :
    Foundation.Work.Leads (Artifacts.writeBytes host faults name data mediaType required) writer (fun _ => Keeps writer)
      fun _ => Keeps writer := by
  cases closed : writer.closed with
  | true =>
      refine (Artifacts.writeBytes_closed closed).weaken (fun _ _ impossible => impossible.elim) fun _ _ same => ?_
      rw [same]
      rfl
  | false =>
      refine (Artifacts.writeBytes_leads closed).weaken ?_ ?_
      · rintro item last ⟨_, _, _, tree, _, rfl⟩
        rfl
      · rintro failure last (⟨rfl, _⟩ | ⟨_, tree, rfl, _⟩)
        · rfl
        · rfl

theorem buildManifest_keeps (host : Artifacts.Host) (faults : Artifacts.Faults)
    (runId runMode snapshotSha256 createdAt : String) :
    Foundation.Work.Leads (Artifacts.buildManifest host faults runId runMode snapshotSha256 createdAt) writer
      (fun _ => Keeps writer) fun _ => Keeps writer := by
  refine Artifacts.buildManifest_leads.weaken ?_ ?_
  · rintro manifest last ⟨_, _, _, _, tree, _, rfl⟩
    rfl
  · rintro failure last (rfl | ⟨_, _, tree, rfl⟩)
    · rfl
    · rfl

theorem abandon_keeps (faults : Artifacts.Faults) :
    Foundation.Work.Leads (Artifacts.abandon faults) writer (fun _ => Keeps writer) fun _ => Keeps writer := by
  cases closed : writer.closed with
  | true =>
      refine Foundation.Work.Leads.after_get ?_
      rw [closed]
      exact Foundation.Work.Leads.pure rfl
  | false =>
      refine (Artifacts.abandon_leads closed).weaken ?_ ?_
      · rintro _ last rfl
        rfl
      · rintro failure last ⟨_, rfl⟩
        rfl

/-- What is published holds the manifest. -/
theorem commit_publishes (host : Artifacts.Host) (faults : Artifacts.Faults) :
    Foundation.Work.Leads (Artifacts.commit host faults) writer
      (fun items last => Artifacts.manifestName ∈ items.map Artifacts.ArtifactItem.name ∧
        last.committedDirectory.isSome = true)
      fun _ => Keeps writer := by
  cases contains : writer.items.contains Artifacts.manifestName with
  | false =>
      refine Foundation.Work.Leads.after_get (Foundation.Work.Leads.after_refuse (fun _ => rfl) fun _ => ?_)
      exact Foundation.Work.Leads.after_refuse (fun _ => rfl) fun present => absurd contains present
  | true =>
      refine Artifacts.commit_leads.weaken ?_ fun _ last same => ?_
      · rintro items last ⟨_, rfl, manifest, tree, _, _, _, rfl⟩
        refine ⟨?_, rfl⟩
        exact ((Artifacts.Inventory.sorted_perm writer.items).map _).mem_iff.mpr (Artifacts.Inventory.contains_iff.mp contains)
      · rw [same]
        rfl

end files

/-- A call of the writer that publishes nothing. -/
theorem file_secures {call : Request} (quiet : decides call = false)
    (step : forall state answer later, answers setting state call answer later ->
      exists writer, later = { state with writer := writer } ∧ Keeps state.writer writer) :
    (service setting).logged.Secures (Going setting false) (request call) (fun _ => Going setting false) (Fails setting) := by
  refine Service.Secures.ask going_stable ?_ fun _ => going_stable
  rintro moment answer later going ⟨answered, longer⟩
  rcases step moment.1 answer later.1 answered with ⟨writer, isLater, keeps⟩
  refine going.quiet quiet longer (fun status _ attended => ?_) ?_ ?_ <;> rw [isLater]
  · exact attended
  · dsimp only
    rw [keeps]
    exact going.shows

theorem writerFailure_own (failure : Artifacts.Failure) : (writerFailure failure).Own := by
  cases failure with
  | worker message => exact (by decide : "ARTIFACT_WRITE_FAILED" ≠ "CANCELLED")
  | contract failure => exact (by decide : "WORKER_CONTRACT_MISMATCH" ≠ "CANCELLED")
  | system => trivial

theorem written_secures {Value : Type} (outcome : Except Artifacts.Failure Value) :
    (service setting).logged.Secures (Going setting false) (written outcome) (fun _ => Going setting false)
      (Fails setting) := by
  cases outcome with
  | ok value => exact @Service.Secures.pure _ _ Value _ _ _ _ (fun _ => Going setting false) _ value going_stable
  | error failure =>
      exact (Service.Secures.throw (fails_stable (writerFailure failure))).of_before
        fun _ going => ⟨writerFailure_own failure, going⟩

theorem output_secures (output : Output) :
    (service setting).logged.Secures (Going setting false) output.work (fun _ => Going setting false) (Fails setting) := by
  refine Service.Secures.bind (ending_secures output.rendering) (fun _ => ?_) fails_stable
  have writes : (service setting).logged.Secures (Going setting false) (request (.write output.name output.contents))
      (fun _ => Going setting false) (Fails setting) := by
    refine file_secures rfl ?_
    rintro state outcome later ⟨writer, called, isLater⟩
    refine ⟨writer, isLater, called.keeps fun faults => ?_⟩
    cases output.contents with
    | json payload => exact writeBytes_keeps setting.host faults output.name _ _ true
    | bytes data mediaType => exact writeBytes_keeps setting.host faults output.name data mediaType true
  refine Service.Secures.bind writes (fun outcome => ?_) fails_stable
  refine Service.Secures.bind (written_secures outcome) (fun _ => ?_) fails_stable
  exact @Service.Secures.pure _ _ Unit _ _ _ _ (fun _ => Going setting false) _ () going_stable

/-- The items hold the manifest, and the directory is published. -/
def Listed (setting : Setting) (items : List Artifacts.ArtifactItem) (moment : Moment) : Prop :=
  Artifacts.manifestName ∈ items.map Artifacts.ArtifactItem.name ∧ Going setting true moment

/-- The directory is published by the last call, or not at all. -/
theorem publish_secures :
    (service setting).logged.Secures (Going setting false) (request .publish)
      (Ends (Listed setting) fun (_ : Artifacts.Failure) => Going setting false) (Fails setting) := by
  refine Service.Secures.ask going_stable ?_ fun outcome => ?_
  · rintro moment outcome later going ⟨⟨writer, called, isLater⟩, longer⟩
    have described := called.described fun faults => commit_publishes setting.host faults
    have shown {shown : Bool} (shows : writer.committedDirectory.isSome = shown) : Going setting shown later := by
      refine going.quiet rfl longer (fun status _ attended => ?_) ?_ ?_ <;> rw [isLater]
      · exact attended
      · exact shows
    cases outcome with
    | ok items => exact ⟨described.1, shown described.2⟩
    | error failure =>
        refine shown ?_
        rw [described]
        exact going.shows
  · cases outcome with
    | ok items => exact passes_stable
    | error failure => exact going_stable

theorem published_secures (outcome : Except Artifacts.Failure (List Artifacts.ArtifactItem)) :
    (service setting).logged.Secures (Ends (Listed setting) (fun _ => Going setting false) outcome) (written outcome)
      (Listed setting) (Fails setting) := by
  cases outcome with
  | ok items =>
      have stable : (service setting).logged.Stable (Listed setting items) := passes_stable
      exact Service.Secures.pure stable
  | error failure =>
      exact (Service.Secures.throw (fails_stable (writerFailure failure))).of_before
        fun _ going => ⟨writerFailure_own failure, going⟩

theorem stageArtifacts_secures :
    (service setting).logged.Secures (Going setting false) (stageArtifacts setting plan) (fun _ => Going setting true)
      (Fails setting) := by
  have writes : (service setting).logged.Secures (Going setting false) (plan.outputs.forM Output.work)
      (fun _ => Going setting false) (Fails setting) :=
    Service.Secures.forM plan.outputs going_stable fails_stable output_secures
  refine Service.Secures.bind writes (fun _ => ?_) fails_stable
  have builds : (service setting).logged.Secures (Going setting false)
      (request (.buildManifest setting.runId plan.runMode plan.snapshotSha256 plan.createdAt))
      (fun _ => Going setting false) (Fails setting) := by
    refine file_secures rfl ?_
    rintro state outcome later ⟨writer, called, isLater⟩
    exact ⟨writer, isLater, called.keeps fun faults => buildManifest_keeps setting.host faults _ _ _ _⟩
  refine Service.Secures.bind builds (fun built => ?_) fails_stable
  refine Service.Secures.bind (written_secures built) (fun manifest => ?_) fails_stable
  split
  · refine (Service.Secures.throw (fails_stable _)).of_before fun _ going => ⟨?_, going⟩
    exact (by decide : "ARTIFACT_WRITE_FAILED" ≠ "CANCELLED")
  · refine Service.Secures.bind publish_secures (fun outcome => ?_) fails_stable
    refine Service.Secures.bind (published_secures outcome) (fun items => ?_) fails_stable
    cases found : items.find? fun item => item.name = Artifacts.manifestName with
    | none =>
        rintro moment _ _ ⟨listed, _⟩ _
        rcases List.mem_map.mp listed with ⟨item, member, isManifest⟩
        exact absurd (decide_eq_true isManifest) (List.find?_eq_none.mp found item member)
    | some item =>
        exact (@Service.Secures.pure _ _ (List Artifacts.ArtifactItem × String) _ _ _ _ (fun _ => Going setting true) _
          (items, item.sha256) going_stable).of_before fun _ listed => listed.2

/-- The files are published, or the writer is abandoned and the failure is its own. -/
theorem writeSimulationArtifacts_secures :
    (service setting).logged.Secures (Going setting false) (writeSimulationArtifacts setting plan)
      (fun _ => Going setting true) (Fails setting) := by
  refine Service.Secures.bind (ending_secures plan.destination) (fun _ => ?_) fails_stable
  refine Service.Secures.tryCatch stageArtifacts_secures (fun failure => ?_) fun _ => going_stable
  by_cases own : failure.Own
  · have abandons : (service setting).logged.Secures (Going setting false) (request .abandon)
        (fun _ => Going setting false) (Fails setting) := by
      refine file_secures rfl ?_
      rintro state outcome later ⟨writer, called, isLater⟩
      exact ⟨writer, isLater, called.keeps abandon_keeps⟩
    refine Service.Secures.of_before ?_ (fun _ fails => fails.2)
    refine Service.Secures.bind abandons (fun outcome => ?_) fails_stable
    refine Service.Secures.bind (written_secures outcome) (fun _ => ?_) fails_stable
    exact (Service.Secures.throw (fails_stable failure)).of_before fun _ going => ⟨own, going⟩
  · rintro moment _ _ fails _
    exact absurd fails.1 own

/-! ## The run -/

theorem executeSimulation_proceeds (threaded : Bool) :
    Proceeds setting false false (executeSimulation setting plan threaded) := by
  refine (ending_proceeds plan.contexts).bind fun _ => ?_
  refine (emit_proceeds .localTraining).bind fun _ => ?_
  refine (stretch_proceeds threaded plan.localTraining).bind fun _ => ?_
  refine (emit_proceeds .anchorAggregating).bind fun _ => ?_
  refine (stretch_proceeds threaded plan.anchorAggregating).bind fun _ => ?_
  refine (emit_proceeds .globalDistilling).bind fun _ => ?_
  refine (stretch_proceeds threaded plan.globalDistilling).bind fun _ => ?_
  refine (emit_proceeds .calibrating).bind fun _ => ?_
  refine (emit_proceeds .testing).bind fun _ => ?_
  exact stretch_proceeds threaded plan.testing

/-- The answer to the commit. -/
theorem Going.committed {commit : Queue.CommitRequest} {moment later : Moment} {outcome : Except Fault Reply}
    (going : Going setting true moment)
    (answered : (service setting).logged.answers moment (.database (.commitSimulation setting.lease commit)) outcome later) :
    (outcome = .ok (.accepted true) ∧ Settles setting .completed .running true later) ∨
      (outcome = .ok (.accepted false) ∧ Raised setting .leaseLost later) ∨
        (exists fault, outcome = .error fault) ∧ Raised setting .repositoryOperation later := by
  rcases answered with ⟨⟨now, store, transacts, isLater⟩, longer⟩
  rcases going with stands | stands
  · rcases transacts with ⟨live, step⟩
    have reachable := stands.attended.reachable.step step
    cases step with
    | rolledBack failed same atMost =>
        refine Or.inr (Or.inr ⟨⟨_, rfl⟩, Or.inr (Or.inr (Or.inl ?_))⟩)
        refine stands.asked longer ?_ ?_ ?_ <;> rw [isLater]
        · exact stands.attended.rolledBack (.rolledBack failed same atMost) same
        · exact stands.recorded
        · exact stands.published
    | committed done =>
        rcases Queue.answer_ok_iff.mp done with ⟨reply, accepted, rfl⟩
        rcases stands.attended.commit live (Queue.Fault.ofPg_ok_iff.mp accepted) with ⟨rfl, finished⟩
        exact Or.inl ⟨rfl, stands.settles longer isLater reachable finished⟩
  · have executed : Queue.execute setting.platform now (.commitSimulation setting.lease commit) moment.1.store =
        .ok (moment.1.store, .accepted false) := by
      rw [Queue.execute, stands.attended.commit_refused]
      rfl
    rcases Queue.Transaction.of_ok executed transacts.2 with ⟨replied, rfl⟩
    refine Or.inr (Or.inl ⟨replied, commit, ?_⟩)
    refine stands.asked longer ?_ ?_ ?_ <;> rw [isLater]
    · exact stands.attended
    · exact stands.recorded
    · exact stands.published

theorem commitSimulation_secures (items : List Artifacts.ArtifactItem) (manifestSha256 : String) :
    (service setting).logged.Secures (Going setting true) (commitSimulation setting plan items manifestSha256)
      (fun _ => Settles setting .completed .running true) (Raised setting) := by
  unfold commitSimulation
  split
  · exact booleanCall_secures going_stable (settles_running_stable (by decide)) fun moment outcome later => Going.committed
  · exact (Service.Secures.throw (raised_stable .repositoryOperation)).of_before fun _ going => Or.inr (Or.inr going)

theorem runSimulation_secures (threaded : Bool) :
    (service setting).logged.Secures (Going setting false) (runSimulation setting plan threaded)
      (fun _ => Settles setting .completed .running true) (Raised setting) := by
  refine Service.Secures.bind (checkCancel_proceeds (by decide)) (fun _ => ?_) raised_stable
  refine Service.Secures.bind (emit_proceeds .preprocessing) (fun _ => ?_) raised_stable
  refine Service.Secures.bind (stretch_proceeds threaded plan.preprocessing) (fun _ => ?_) raised_stable
  refine Service.Secures.bind (checkCancel_proceeds (by decide)) (fun _ => ?_) raised_stable
  refine Service.Secures.bind (ending_proceeds plan.preparation) (fun _ => ?_) raised_stable
  refine Service.Secures.bind (executeSimulation_proceeds threaded) (fun _ => ?_) raised_stable
  refine Service.Secures.bind (ending_proceeds plan.alarms) (fun _ => ?_) raised_stable
  refine Service.Secures.bind (Proceeds.of_fails writeSimulationArtifacts_secures) (fun artifacts => ?_) raised_stable
  refine Service.Secures.bind (checkCancel_proceeds (by decide)) (fun _ => ?_) raised_stable
  exact commitSimulation_secures artifacts.1 artifacts.2

/-- The body of an attempt. -/
theorem attempt_secures :
    (service setting).logged.Secures (Going setting false) (attempt setting plan)
      (fun _ => Settles setting .completed .running true) (Raised setting) := by
  refine Service.Secures.bind (Proceeds.of_passes startTaskHeartbeat_passes) (fun threaded => ?_) raised_stable
  refine Service.Secures.bind (ending_proceeds plan.source) (fun _ => ?_) raised_stable
  have verifies : Proceeds setting false false (verifyDatasetHash setting plan threaded) :=
    Proceeds.bind (checkCancel_proceeds (by decide)) fun _ => stretch_proceeds threaded plan.verification
  refine Service.Secures.bind verifies (fun _ => ?_) raised_stable
  refine Service.Secures.bind (ending_proceeds plan.parameters) (fun _ => ?_) raised_stable
  exact runSimulation_secures threaded

/-! ## The end -/

/-- What a failure of the run is recorded as. -/
def WorkerFailure.status (failure : WorkerFailure) : SimulationStatus :=
  if failure.recoverable then .failedRecoverable else .failed

theorem WorkerFailure.status_ne (failure : WorkerFailure) : failure.status ≠ .cancelled ∧ failure.status ≠ .completed := by
  unfold WorkerFailure.status
  split
  · decide
  · decide

/-- A failure was recorded as a failure, or as the cancellation. -/
def Recorded (setting : Setting) (failure : WorkerFailure) (moment : Moment) : Prop :=
  Settles setting failure.status .running false moment ∨ exists error recoverable,
    Settles setting .cancelled (.decided (.database (.failJob setting.lease error recoverable))) false moment

/-- What holds when an attempt has raised. -/
def Settled (setting : Setting) : Failure -> Moment -> Prop
  | .cancelled stage _, moment =>
      Settles setting .cancelled (.seen stage) (decide (stage = "GENERATING_ARTIFACTS")) moment
  | .worker failure, moment => Recorded setting failure moment
  | .leaseLost, moment => Raised setting .leaseLost moment
  | .repositoryOperation, moment => Raised setting .repositoryOperation moment
  | .exception, moment => Raised setting .exception moment

theorem recorded_stable (failure : WorkerFailure) : (service setting).logged.Stable (Recorded setting failure) :=
  Service.Stable.or (settles_running_stable failure.status_ne.1)
    (exists_stable fun _ => exists_stable fun _ => settles_decided_stable)

theorem settled_stable (failure : Failure) : (service setting).logged.Stable (Settled setting failure) := by
  cases failure with
  | cancelled stage agent => exact settles_decided_stable
  | worker failure => exact recorded_stable failure
  | leaseLost => exact raised_stable .leaseLost
  | repositoryOperation => exact raised_stable .repositoryOperation
  | exception => exact raised_stable .exception

/-- A cancellation that was seen is confirmed. -/
theorem confirm_secures {stage : String} (agent : Option Nat) :
    (service setting).logged.Secures (Stands setting (.seen stage) published)
      (commitFailure setting (cancelledFailure stage agent))
      (fun _ => Settles setting .cancelled (.seen stage) published) fun _ _ => False := by
  refine booleanCall_accepts decided_stable settles_decided_stable ?_
  rintro moment outcome later stands ⟨⟨now, store, transacts, isLater⟩, longer⟩
  rcases stands.attended.confirm transacts.1 with ⟨result, accepted, finished⟩
  have executed : Queue.execute setting.platform now (.confirmCancel setting.lease) moment.1.store =
      .ok (result, .accepted true) := by
    rw [Queue.execute, accepted]
    rfl
  have reachable := stands.attended.reachable.step transacts.2
  rcases Queue.Transaction.of_ok executed transacts.2 with ⟨replied, rfl⟩
  exact ⟨replied, stands.settles longer isLater reachable finished⟩

/-- A failure is recorded. -/
theorem fail_secures {failure : WorkerFailure} (own : failure.code ≠ "CANCELLED") :
    (service setting).logged.Secures (Going setting false) (commitFailure setting failure)
      (fun _ => Recorded setting failure) fun _ _ => False := by
  unfold commitFailure
  rw [if_neg own]
  refine booleanCall_accepts going_stable (recorded_stable failure) ?_
  rintro moment outcome later going ⟨⟨now, store, transacts, isLater⟩, longer⟩
  have records {status : JobStatus} (active : status.isActive = true)
      (attended : Queue.Attended setting.platform setting.lease setting.runId setting.workerId status moment.1.store) :
      outcome = .ok (.accepted true) ∧ Queue.Reachable setting.platform store ∧
        Queue.Finished setting.runId (if status = .cancelling then .cancelled else failure.status) store.view := by
    rcases attended.fail active transacts.1 (failurePayload setting failure) failure.recoverable with
      ⟨result, accepted, finished⟩
    have executed : Queue.execute setting.platform now
        (.failJob setting.lease (failurePayload setting failure) failure.recoverable) moment.1.store =
          .ok (result, .accepted true) := by
      rw [Queue.execute, accepted]
      rfl
    have reachable := attended.reachable.step transacts.2
    rcases Queue.Transaction.of_ok executed transacts.2 with ⟨replied, rfl⟩
    exact ⟨replied, reachable, finished⟩
  rcases going with stands | stands
  · rcases records rfl stands.attended with ⟨replied, reachable, finished⟩
    exact ⟨replied, Or.inl (stands.settles longer isLater reachable finished)⟩
  · rcases records rfl stands.attended with ⟨replied, reachable, finished⟩
    exact ⟨replied, Or.inr ⟨_, failure.recoverable, stands.settles longer isLater reachable finished⟩⟩

theorem settle_secures (failure : Failure) :
    (service setting).logged.Secures (Raised setting failure) (settle setting failure) (fun _ _ => False)
      (Settled setting) := by
  cases failure with
  | cancelled stage agent =>
      refine Service.Secures.bind (stop_secures decided_stable stands_stops) (fun _ => ?_) settled_stable
      have confirms : (service setting).logged.Secures
          (Stands setting (.seen stage) (decide (stage = "GENERATING_ARTIFACTS")))
          (commitFailure setting (cancelledFailure stage agent))
          (fun _ => Settles setting .cancelled (.seen stage) (decide (stage = "GENERATING_ARTIFACTS"))) (Settled setting) :=
        (confirm_secures agent).weaken (fun _ _ settles => settles) fun _ _ impossible => impossible.elim
      exact Service.Secures.bind confirms (fun _ => Service.Secures.throw (settled_stable (.cancelled stage agent)))
        settled_stable
  | worker failure =>
      by_cases own : failure.code ≠ "CANCELLED"
      · have records : (service setting).logged.Secures (Going setting false) (commitFailure setting failure)
            (fun _ => Recorded setting failure) (Settled setting) :=
          (fail_secures own).weaken (fun _ _ recorded => recorded) fun _ _ impossible => impossible.elim
        refine Service.Secures.of_before ?_ fun _ raised => raised.2
        exact Service.Secures.bind records (fun _ => Service.Secures.throw (settled_stable (.worker failure))) settled_stable
      · rintro moment _ _ raised _
        exact absurd raised.1 own
  | leaseLost => exact Service.Secures.throw (settled_stable .leaseLost)
  | repositoryOperation => exact Service.Secures.throw (settled_stable .repositoryOperation)
  | exception => exact Service.Secures.throw (settled_stable .exception)

theorem raised_stops (failure : Failure) : Stops (Raised setting failure) := by
  have goes (published : Bool) : Stops (Going setting published) := Stops.or stands_stops stands_stops
  cases failure with
  | cancelled stage agent => exact stands_stops
  | leaseLost => exact Stops.exists fun _ => stands_stops
  | worker failure =>
      exact fun moment later holds stopped longer => ⟨holds.1, goes false moment later holds.2 stopped longer⟩
  | repositoryOperation => exact Stops.or (Stops.exists fun _ => stands_stops) (Stops.or (goes false) (goes true))
  | exception => exact goes false

theorem settled_stops (failure : Failure) : Stops (Settled setting failure) := by
  cases failure with
  | cancelled stage agent => exact settles_stops
  | worker failure => exact Stops.or settles_stops (Stops.exists fun _ => Stops.exists fun _ => settles_stops)
  | leaseLost => exact raised_stops .leaseLost
  | repositoryOperation => exact raised_stops .repositoryOperation
  | exception => exact raised_stops .exception

/-- An attempt completes its run, or raises what it has settled. -/
theorem run_secures :
    (service setting).logged.Secures (Going setting false) (run setting plan)
      (fun _ => Settles setting .completed .running true) (Settled setting) := by
  have completes : (service setting).logged.Stable (Settles setting .completed .running true) :=
    settles_running_stable (by decide)
  have body : (service setting).logged.Secures (Going setting false) (tryCatch (attempt setting plan) (settle setting))
      (fun _ => Settles setting .completed .running true) (Settled setting) := by
    refine Service.Secures.tryCatch attempt_secures (fun failure => ?_) fun _ => completes
    exact (settle_secures failure).weaken (fun _ _ impossible => impossible.elim) fun _ _ settled => settled
  refine Service.Secures.bind (Service.Secures.outcome body (fun _ => completes) settled_stable) (fun outcome => ?_)
    settled_stable
  cases outcome with
  | ok _ =>
      refine Service.Secures.bind (stop_secures completes settles_stops) (fun _ => ?_) settled_stable
      exact @Service.Secures.pure _ _ Unit _ _ _ _ (fun _ => Settles setting .completed .running true) _ () completes
  | error failure =>
      refine Service.Secures.bind (stop_secures (settled_stable failure) (settled_stops failure)) (fun _ => ?_)
        settled_stable
      exact Service.Secures.throw (settled_stable failure)

end Attempts
end Worker
end FederatedIot
