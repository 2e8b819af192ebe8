import TfK8s.Py.Glob
import TfK8s.Runner.Main

/-!
# `SCENARIO_GROUPS` and `find_scenarios`

The runner finds the definition files to run with `glob`. A scenario asked
for by identifier is the pattern `tf-k8s/scenarios/enabled/<id>/scenario_definition.yaml`;
when that finds nothing the same pattern under `pending` is globbed, for a
warning only. A group in the catalog globs each of its identifiers in turn, and
any other group is the pattern `tf-k8s/scenarios/enabled/<group>*/scenario_definition.yaml`.
The identifier and the group are put into the patterns as they are, so any
`*`, `?`, `[` or `/` in them is read by `glob`.

`main` runs the phases over what `find_scenarios` returns; a raise from `glob`
ends `main` with that raise.
-/

namespace TfK8s.Runner

open Py

/-- `SCENARIO_GROUPS`. -/
def scenarioGroups : List (String × List String) := [
  ("slo-core", [
    "TF-SLO-VOL_DataVolumeReduction_SteadyWorkload",
    "TF-SLO-SER_ProcessCardinalityReduction_MixedWorkload",
    "TF-SLO-TOP5_DiagnosticIntegrity_TopCPUProcesses"]),
  ("slo-perf", [
    "TF-SLO-CPU_CollectorPerf_LoadTest_10Kdps_cAdvisor",
    "TF-SLO-RAM_CollectorPerf_LoadTest_10Kdps_HighState_cAdvisor",
    "TF-SLO-LAT_CollectorPipelineLatency_SteadyWorkload"]),
  ("slo-alert", [
    "TF-SLO-ALR_Recall_CPUSpikeReplay",
    "TF-SLO-ALR_Precision_NoSpikeWindow"]),
  ("mfr-basic", [
    "TF-MFR-SC.1_IngestionSources",
    "TF-MFR-SC.3_ExportSchema",
    "TF-MFR-SC.4_AttributeHandling"]),
  ("mfr-advanced", [
    "TF-MFR-SC.1.4_PidEnrichment_HostmetricsVariations",
    "TF-MFR-SC.5_Deduplication_MultiSourceMultiNode",
    "TF-MFR-SC.2_AggregationLogic_DiskIONetworkIO"]),
  ("mfr-components", [
    "TF-MFR-EP_AllRequirements",
    "TF-MFR-LA_AllRequirements"]),
  ("regression", [
    "TF-REG-Filter_HighCard_Memory_Scale",
    "TF-LINT-OTTL_StrictErrorMode"]),
  ("security", [
    "TF-SEC-1_SBOM_Validation",
    "TF-SEC-2_ImageSignature_Validation",
    "TF-SEC-3_EdgeProbeHardening"])]

/-- `f"tf-k8s/scenarios/{location}/{scenario_id}/scenario_definition.yaml"`,
with `location` one of `enabled` and `pending`. -/
def definitionPattern (location scenarioId : String) : String :=
  "tf-k8s/scenarios/" ++ location ++ "/" ++ scenarioId ++ "/scenario_definition.yaml"

/-- `f"tf-k8s/scenarios/enabled/{group}*/scenario_definition.yaml"`. -/
def groupPattern (group : String) : String :=
  "tf-k8s/scenarios/enabled/" ++ group ++ "*/scenario_definition.yaml"

/-- The catalog branch: each identifier's enabled definition, in order. -/
def findGroupScenarios (t : FileTree) (scenarioIds : List String) :
    Except PyExc (List String) := do
  let found ← scenarioIds.mapM fun scenarioId => t.glob (definitionPattern "enabled" scenarioId)
  pure found.flatten

/-- `find_scenarios(group, scenario_id)`; a falsy `scenario_id` is `None` or
the empty string. -/
def findScenarios (t : FileTree) (group : String) (scenarioId : Option String) :
    Except PyExc (List String) :=
  match scenarioId with
  | some scenarioId =>
      if scenarioId ≠ "" then do
        let scenarios ← t.glob (definitionPattern "enabled" scenarioId)
        if scenarios.isEmpty then
          let _ ← t.glob (definitionPattern "pending" scenarioId)
          pure scenarios
        else pure scenarios
      else byGroup
  | none => byGroup
where
  byGroup : Except PyExc (List String) :=
    match scenarioGroups.lookup group with
    | some scenarioIds => findGroupScenarios t scenarioIds
    | none => t.glob (groupPattern group)

/-- `main()` after argument parsing: find the definitions, then run them. -/
def runnerMain {σ : Type} (t : FileTree) (p : Phases σ) (group : String)
    (scenario : Option String) : EStateM PyExc σ Nat := fun s =>
  match findScenarios t group scenario with
  | .ok files => main p files s
  | .error e => .error e s

end TfK8s.Runner
