import FederatedIot.Foundation.Relation
import FederatedIot.Queue.Statement
import FederatedIot.Worker.Segments

namespace FederatedIot
namespace Worker

open Foundation Foundation.Outcome Foundation.Relation

/-!
# The alarms of a run

The loop over the test part of an agent writes a result row for each point and an
alarm for some of them.  Both carry the time text of the source row.  What the
predictions say of a point is given here by its verdict.
-/

/-- The source row of each sample. -/
def FeatureDataset.sourceRows (features : FeatureDataset) : List RunningRow :=
  features.samples.filterMap List.getLast?

/-- The source rows of the test part. -/
def AgentContext.testRows (context : AgentContext) : List RunningRow :=
  context.featureDataset.sourceRows.drop (context.split.train + context.split.calibration).toNat

/-- What the loop of `_online_fuse` finds out about a point. -/
structure Verdict where
  loadStatus : String
  loadReason : String
  dataReason : String
  overallLevel : String

/-- The columns of a result row that tell its point. -/
structure ResultRow where
  originalRunningIndex : Nat
  time : String
  agent : Int
  deriving DecidableEq

structure SourceAlarm where
  agent : Int
  originalRunningIndex : Nat
  time : String
  overallAlarmLevel : String
  alarmType : String
  reasons : List String
  loadStatus : String
  resultIndex : Nat

/-- `AgentSimulationResult` -/
structure AgentSimulationResult where
  agent : Int
  rows : List ResultRow
  alarms : List SourceAlarm

def resultRow (agent : Int) (sourceRow : RunningRow) : ResultRow :=
  { originalRunningIndex := sourceRow.originalRunningIndex, time := sourceRow.raw.timeRaw, agent }

/-- The alarm of a point, when its level is not `None`. -/
def sourceAlarm? (agent : Int) (verdicts : Nat -> Verdict) (point : RunningRow × Nat) : Option SourceAlarm :=
  let verdict := verdicts point.2
  if verdict.overallLevel = "None" then none
  else
    some
      { agent, originalRunningIndex := point.1.originalRunningIndex, time := point.1.raw.timeRaw
        overallAlarmLevel := verdict.overallLevel, alarmType := "OVERALL"
        reasons := [verdict.loadReason, verdict.dataReason].filter fun reason => reason ≠ ""
        loadStatus := verdict.loadStatus, resultIndex := point.2 }

/-- `_online_fuse` -/
def onlineFuse (context : AgentContext) (verdicts : Nat -> Verdict) : AgentSimulationResult :=
  { agent := context.agent
    rows := context.testRows.map (resultRow context.agent)
    alarms := context.testRows.zipIdx.filterMap (sourceAlarm? context.agent verdicts) }

/-- The results of the agents, in the order of their contexts. -/
def simulate (contexts : List AgentContext) (verdicts : Int -> Nat -> Verdict) : List AgentSimulationResult :=
  contexts.map fun context => onlineFuse context (verdicts context.agent)

def repositoryAlarm (alarm : SourceAlarm) : Json :=
  .object
    [("agent", Json.ofInt alarm.agent), ("original_running_index", Json.ofNat alarm.originalRunningIndex),
      ("time_value", .string alarm.time), ("overall_alarm_level", .string alarm.overallAlarmLevel),
      ("alarm_type", .string alarm.alarmType), ("reasons_json", .array (alarm.reasons.map Json.string)),
      ("load_status", .string alarm.loadStatus),
      ("result_locator", .object
        [("agent", Json.ofInt alarm.agent), ("original_running_index", Json.ofNat alarm.originalRunningIndex)])]

/-- `_repository_alarms` -/
def repositoryAlarms (results : List AgentSimulationResult) : List Json :=
  results.flatMap fun result => result.alarms.map repositoryAlarm

/-! ## Rows of one index -/

theorem preprocess_keyed {config : PreprocessingConfig} {rows : List RawRow} {dataset : List RunningRow}
    (done : preprocess config rows = .ok dataset) : Keyed RunningRow.originalRunningIndex dataset := by
  simp only [preprocess, bind_ok_iff, pure_ok_iff, require_ok_iff, exists_const] at done
  rcases done with ⟨_, _, rfl⟩
  rw [Keyed, List.map_map]
  have numbers : forall kept : List RawRow, (kept.zipIdx.map (RunningRow.originalRunningIndex ∘ fun entry =>
      { originalRunningIndex := entry.2 + 1, sourceRowIndex := entry.1.originalIndex, raw := entry.1 })) =
        (List.range kept.length).map Nat.succ := by
    intro kept
    rw [List.range_eq_range', ← List.zipIdx_map_snd 0 kept, List.map_map]
    rfl
  rw [numbers]
  exact List.nodup_range.map Nat.succ_injective

theorem mem_of_mem_sourceRows {rows : List RunningRow} {nLag : Nat} {features : FeatureDataset} {row : RunningRow}
    (built : buildTransitionDataset rows nLag = .ok features) (member : row ∈ features.sourceRows) : row ∈ rows := by
  simp only [buildTransitionDataset, bind_ok_iff, pure_ok_iff, require_ok_iff, exists_const] at built
  rcases built with ⟨_, _, rfl⟩
  rcases List.mem_filterMap.mp member with ⟨window, inSamples, last⟩
  rcases List.mem_map.mp inSamples with ⟨first, _, rfl⟩
  exact List.mem_of_mem_drop (List.mem_of_mem_take (List.mem_of_getLast? last))

/-- The rows of a context are rows of the dataset of its agent. -/
theorem prepareAgent_rows {datasets : List (Int × List RunningRow)}
    {byAgent : List (Int × AgentPreparationParameters)} {item : PyValue} {context : AgentContext}
    (done : prepareAgent datasets byAgent item = .ok context) :
    ∃ entry, datasets.find? (fun entry => entry.1 = context.agent) = some entry ∧
      ∀ row ∈ context.testRows, row ∈ entry.2 := by
  simp only [prepareAgent, bind_ok_iff, pure_ok_iff, require_ok_iff, exists_const] at done
  rcases done with ⟨_, _, dataset, isDataset, _, _, partition, _, picked, pickedDone, features, built, split, _, _, rfl⟩
  split at isDataset
  · rename_i entry selected
    refine ⟨entry, selected, ?_⟩
    intro row member
    have inPicked := mem_of_mem_sourceRows built (List.mem_of_mem_drop member)
    rcases source_of_mapM_ok pickedDone inPicked with ⟨index, _, same⟩
    rw [Except.ok.inj isDataset]
    split at same
    · rename_i stored
      rw [← Except.ok.inj same]
      exact List.mem_of_getElem? stored
    · cases same
  · cases isDataset

/-- Test rows of one agent with one index are the same row. -/
theorem testRows_keyed {raw : List (String × PyValue)} {rows : List RawRow}
    {byAgent : List (Int × AgentPreparationParameters)} {datasets : List (Int × List RunningRow)}
    {contexts : List AgentContext} (preprocessed : preprocessAgentDatasets rows byAgent = .ok datasets)
    (prepared : prepareSimulation raw datasets byAgent = .ok contexts) {first second : AgentContext}
    (inFirst : first ∈ contexts) (inSecond : second ∈ contexts) (sameAgent : first.agent = second.agent)
    {left right : RunningRow} (isLeft : left ∈ first.testRows) (isRight : right ∈ second.testRows)
    (sameIndex : left.originalRunningIndex = right.originalRunningIndex) : left = right := by
  simp only [prepareSimulation, bind_ok_iff, pure_ok_iff] at prepared
  rcases prepared with ⟨results, converted, _, _, rfl⟩
  rcases source_of_mapM_ok converted inFirst with ⟨_, _, firstDone⟩
  rcases source_of_mapM_ok converted inSecond with ⟨_, _, secondDone⟩
  rcases prepareAgent_rows firstDone with ⟨entry, selected, fromEntry⟩
  rcases prepareAgent_rows secondDone with ⟨other, otherSelected, fromOther⟩
  rw [sameAgent, otherSelected] at selected
  rw [← Option.some.inj selected] at fromEntry
  rcases preprocessAgents_ok (fun _ impossible => (by cases impossible)) preprocessed other
    (List.mem_of_find?_eq_some otherSelected) with ⟨_, _, done⟩
  exact (preprocess_keyed done).eq_of_mem (fromEntry left isLeft) (fromOther right isRight) sameIndex

/-- An alarm has the time text of the result row with its agent and index. -/
theorem sourceAlarm_time {raw : List (String × PyValue)} {rows : List RawRow}
    {byAgent : List (Int × AgentPreparationParameters)} {datasets : List (Int × List RunningRow)}
    {contexts : List AgentContext} {verdicts : Int -> Nat -> Verdict}
    (preprocessed : preprocessAgentDatasets rows byAgent = .ok datasets)
    (prepared : prepareSimulation raw datasets byAgent = .ok contexts)
    {alarmed listed : AgentSimulationResult} (isAlarmed : alarmed ∈ simulate contexts verdicts)
    (isListed : listed ∈ simulate contexts verdicts) {alarm : SourceAlarm} (isAlarm : alarm ∈ alarmed.alarms)
    {row : ResultRow} (isRow : row ∈ listed.rows) (sameAgent : row.agent = alarm.agent)
    (sameIndex : row.originalRunningIndex = alarm.originalRunningIndex) : alarm.time = row.time := by
  rcases List.mem_map.mp isAlarmed with ⟨first, inFirst, rfl⟩
  rcases List.mem_map.mp isListed with ⟨second, inSecond, rfl⟩
  rcases List.mem_filterMap.mp isAlarm with ⟨point, inPoints, raised⟩
  rcases List.mem_map.mp isRow with ⟨right, isRight, rfl⟩
  have isLeft : point.1 ∈ first.testRows := List.fst_mem_of_mem_zipIdx inPoints
  rw [sourceAlarm?] at raised
  split at raised
  · cases raised
  · cases raised
    rw [testRows_keyed preprocessed prepared inFirst inSecond sameAgent.symm isLeft isRight sameIndex.symm]
    rfl

end Worker
end FederatedIot
