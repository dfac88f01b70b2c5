import Mathlib.Control.Lawful
import Mathlib.Logic.Basic

namespace Foundation
namespace Interference

/-!
# Programs among interfering parties

A program makes requests of a service, one after the other, and goes on with the answers.
Between two requests other parties may change the state of the service as often as they
like.  What a program is to rely on is therefore kept by every interference, and the rules
below carry such facts through a program.
-/

variable {Request : Type} {Answer : Request -> Type} {Result Value State Label Failure : Type}

/-! ## Programs -/

/-- A program has ended, or it makes a request and goes on with the answer. -/
inductive Program (Request : Type) (Answer : Request -> Type) (Result : Type) : Type
  | done (result : Result)
  | call (request : Request) (next : Answer request -> Program Request Answer Result)

namespace Program

/-- The rest of the work starts from the result. -/
def bind : Program Request Answer Value -> (Value -> Program Request Answer Result) -> Program Request Answer Result
  | .done value, rest => rest value
  | .call request next, rest => .call request fun answer => (next answer).bind rest

instance monad : Monad (Program Request Answer) where
  pure := Program.done
  bind := Program.bind

/-- A single request. -/
def ask (request : Request) : Program Request Answer (Answer request) :=
  .call request .done

end Program

/-- A program that may raise a failure. -/
abbrev Work (Request : Type) (Answer : Request -> Type) (Failure Value : Type) : Type :=
  ExceptT Failure (Program Request Answer) Value

/-- A single request that raises nothing itself. -/
def ask (request : Request) : Work Request Answer Failure (Answer request) :=
  ExceptT.lift (Program.ask request)

/-! ## Services -/

/-- How requests are answered, and what the other parties may do. -/
structure Service (State Request : Type) (Answer : Request -> Type) (Label : Type) where
  answers : State -> (request : Request) -> Answer request -> State -> Prop
  interferes : State -> Label -> State -> Prop

variable {service : Service State Request Answer Label}

/-- The runs of a program, with any interference between its requests. -/
inductive Service.Runs (service : Service State Request Answer Label) :
    Program Request Answer Result -> State -> Result -> State -> Prop
  | done (result : Result) (state : State) : Runs service (.done result) state result state
  | interference {program : Program Request Answer Result} {state middle final : State} {label : Label} {result : Result} :
      service.interferes state label middle -> Runs service program middle result final ->
        Runs service program state result final
  | call {request : Request} {next : Answer request -> Program Request Answer Result} {answer : Answer request}
      {state middle final : State} {result : Result} :
      service.answers state request answer middle -> Runs service (next answer) middle result final ->
        Runs service (.call request next) state result final

/-- The run of a sequence runs its parts. -/
theorem Service.Runs.split {first : Program Request Answer Value} {rest : Value -> Program Request Answer Result}
    {state final : State} {result : Result} (run : service.Runs (first.bind rest) state result final) :
    exists value middle, service.Runs first state value middle ∧ service.Runs (rest value) middle result final := by
  cases first with
  | done value => exact ⟨value, state, Runs.done value state, run⟩
  | call request next =>
      generalize same : (Program.call request next).bind rest = whole at run
      induction run with
      | done result state => cases same
      | interference step _ inductionHypothesis =>
          rcases inductionHypothesis same with ⟨value, middle, before, after⟩
          exact ⟨value, middle, Runs.interference step before, after⟩
      | call step later _ =>
          cases same
          rcases later.split with ⟨value, between, before, after⟩
          exact ⟨value, between, Runs.call step before, after⟩

/-- When every request is answered, every program comes to an end. -/
theorem Service.exists_run (total : forall state request, exists answer later, service.answers state request answer later)
    (program : Program Request Answer Result) (state : State) :
    exists result final, service.Runs program state result final := by
  induction program generalizing state with
  | done result => exact ⟨result, state, Runs.done result state⟩
  | call request next inductionHypothesis =>
      rcases total state request with ⟨answer, later, step⟩
      rcases inductionHypothesis answer later with ⟨result, final, run⟩
      exact ⟨result, final, Runs.call step run⟩

/-! ## Facts that no interference breaks -/

/-- The other parties keep the property. -/
def Service.Stable (service : Service State Request Answer Label) (property : State -> Prop) : Prop :=
  forall state label later, property state -> service.interferes state label later -> property later

theorem Service.Stable.or {first second : State -> Prop} (left : service.Stable first) (right : service.Stable second) :
    service.Stable fun state => first state ∨ second state := by
  intro state label later holds step
  rcases holds with held | held
  · exact Or.inl (left state label later held step)
  · exact Or.inr (right state label later held step)

theorem Service.Stable.and {first second : State -> Prop} (left : service.Stable first) (right : service.Stable second) :
    service.Stable fun state => first state ∧ second state :=
  fun state label later holds step => ⟨left state label later holds.1 step, right state label later holds.2 step⟩

/-- Every run from a state with the first property ends with the second. -/
def Service.Leads (service : Service State Request Answer Label) (before : State -> Prop)
    (program : Program Request Answer Result) (after : Result -> State -> Prop) : Prop :=
  forall state result final, before state -> service.Runs program state result final -> after result final

namespace Service.Leads

variable {before : State -> Prop} {after : Result -> State -> Prop} {middle : Value -> State -> Prop}

theorem done {result : Result} (stable : service.Stable (after result)) :
    service.Leads (after result) (.done result) after := by
  intro state value final holds run
  generalize same : Program.done result = program at run
  induction run with
  | done other _ =>
      cases same
      exact holds
  | interference step _ inductionHypothesis => exact inductionHypothesis (stable _ _ _ holds step) same
  | call _ _ _ => cases same

theorem bind {first : Program Request Answer Value} {rest : Value -> Program Request Answer Result}
    (begins : service.Leads before first middle) (continues : forall value, service.Leads (middle value) (rest value) after) :
    service.Leads before (first.bind rest) after := by
  intro state result final holds run
  rcases run.split with ⟨value, between, firstRun, restRun⟩
  exact continues value between result final (begins state value between holds firstRun) restRun

theorem ask {request : Request} {after : Answer request -> State -> Prop} (stable : service.Stable before)
    (step : forall state answer later, before state -> service.answers state request answer later -> after answer later)
    (kept : forall answer, service.Stable (after answer)) : service.Leads before (Program.ask request) after := by
  intro state result final holds run
  generalize same : Program.ask request = program at run
  induction run with
  | done _ _ => cases same
  | interference moved _ inductionHypothesis => exact inductionHypothesis (stable _ _ _ holds moved) same
  | call answered rest _ =>
      cases same
      exact done (kept _) _ _ _ (step _ _ _ holds answered) rest

end Service.Leads

/-! ## Work that may raise -/

/-- What holds when the work returns, and what holds when it raises. -/
def Ends (returned : Value -> State -> Prop) (raised : Failure -> State -> Prop) : Except Failure Value -> State -> Prop
  | .ok value => returned value
  | .error failure => raised failure

/-- Every run of the work from a state with the property ends as described. -/
def Service.Secures (service : Service State Request Answer Label) (before : State -> Prop)
    (work : Work Request Answer Failure Value) (returned : Value -> State -> Prop) (raised : Failure -> State -> Prop) : Prop :=
  service.Leads before work.run (Ends returned raised)

namespace Service.Secures

variable {Other : Type} {before earlier : State -> Prop} {returned : Value -> State -> Prop} {result : Other -> State -> Prop}
  {raised : Failure -> State -> Prop} {work : Work Request Answer Failure Value}

theorem of_before (secures : service.Secures before work returned raised) (weaker : forall state, earlier state -> before state) :
    service.Secures earlier work returned raised :=
  fun state value final holds run => secures state value final (weaker state holds) run

theorem weaken {result : Value -> State -> Prop} {failed : Failure -> State -> Prop}
    (secures : service.Secures before work returned raised)
    (returns : forall value state, returned value state -> result value state)
    (fails : forall failure state, raised failure state -> failed failure state) :
    service.Secures before work result failed := by
  intro state outcome final holds run
  have ended := secures state outcome final holds run
  cases outcome with
  | ok value => exact returns value final ended
  | error failure => exact fails failure final ended

theorem pure {value : Value} (stable : service.Stable (returned value)) :
    service.Secures (returned value) (Pure.pure value) returned raised :=
  @Leads.done Request Answer _ State Label service (Ends returned raised) (.ok value) stable

theorem throw {failure : Failure} (stable : service.Stable (raised failure)) :
    service.Secures (raised failure) (MonadExcept.throw failure) returned raised :=
  @Leads.done Request Answer _ State Label service (Ends returned raised) (.error failure) stable

theorem bind {rest : Value -> Work Request Answer Failure Other} (begins : service.Secures before work returned raised)
    (continues : forall value, service.Secures (returned value) (rest value) result raised)
    (stable : forall failure, service.Stable (raised failure)) : service.Secures before (work >>= rest) result raised := by
  refine Leads.bind begins fun outcome => ?_
  cases outcome with
  | ok value => exact continues value
  | error failure => exact throw (stable failure)

theorem tryCatch {handler : Failure -> Work Request Answer Failure Value} {failed : Failure -> State -> Prop}
    (body : service.Secures before work returned failed)
    (handles : forall failure, service.Secures (failed failure) (handler failure) returned raised)
    (stable : forall value, service.Stable (returned value)) :
    service.Secures before (MonadExcept.tryCatch work handler) returned raised := by
  refine Leads.bind body fun outcome => ?_
  cases outcome with
  | ok value => exact pure (stable value)
  | error failure => exact handles failure

theorem ask {request : Request} {answered : Answer request -> State -> Prop} (stable : service.Stable before)
    (step : forall state answer later, before state -> service.answers state request answer later -> answered answer later)
    (kept : forall answer, service.Stable (answered answer)) :
    service.Secures before (Interference.ask request) answered raised :=
  Leads.bind (Leads.ask stable step kept) fun answer => pure (kept answer)

/-- The outcome of the work, which is not raised again. -/
theorem outcome {other : Failure -> State -> Prop} (secures : service.Secures before work returned raised)
    (returns : forall value, service.Stable (returned value)) (raises : forall failure, service.Stable (raised failure)) :
    service.Secures before (ExceptT.lift (ExceptT.run work)) (Ends returned raised) other := by
  refine Leads.bind secures fun result => pure ?_
  cases result with
  | ok value => exact returns value
  | error failure => exact raises failure

/-- The same property is kept for every item. -/
theorem forM {Item : Type} {action : Item -> Work Request Answer Failure PUnit} {holds : State -> Prop} (items : List Item)
    (stable : service.Stable holds) (raises : forall failure, service.Stable (raised failure))
    (each : forall item, service.Secures holds (action item) (fun _ => holds) raised) :
    service.Secures holds (items.forM action) (fun _ => holds) raised := by
  induction items with
  | nil => exact @pure Request Answer PUnit State Label Failure service (fun _ => holds) raised PUnit.unit stable
  | cons item rest inductionHypothesis => exact bind (each item) (fun _ => inductionHypothesis) raises

end Service.Secures

/-! ## A log -/

/-- A request of the program, or a move of another party. -/
inductive Happening (Request Label : Type) : Type
  | own (request : Request)
  | other (label : Label)

/-- The service that keeps a log of all that happens. -/
def Service.logged (service : Service State Request Answer Label) :
    Service (State × List (Happening Request Label)) Request Answer Label where
  answers before request answer after :=
    service.answers before.1 request answer after.1 ∧ after.2 = before.2 ++ [.own request]
  interferes before label after :=
    service.interferes before.1 label after.1 ∧ after.2 = before.2 ++ [.other label]

end Interference
end Foundation
