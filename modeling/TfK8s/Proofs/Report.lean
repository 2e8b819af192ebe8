import TfK8s.Py.Json
import TfK8s.Proofs.Precondition

/-!
# The saved report, read back

`save_results` writes `results` with `json.dump` to the file whose path it
returns, and `json.load` of that file gives `jsonLoaded results`. Most of
`results` is made by `run_scenario` itself (times, flags, command output, the
placeholder `0`), and those parts are plain: strings, booleans and small
integers. The rest comes from the document as `yaml.safe_load` left it: the
identifier, the name of each step, and the name and threshold of each
criterion. `Results.supplied` collects those values.

When they are plain, so is the whole dict, and reading back the file
`save_results` wrote gives a value equal to the one saved
(`saveResults_loadReport_eq`). When they are not, it may not: a criterion
whose threshold is `.nan` makes the report unequal to the results that were
saved, since a NaN equals nothing, though `run_scenario` and `save_results`
both return (`saveResults_nan_threshold`).
-/

namespace TfK8s.Runner

open Py PyVal

/-- The values of `results` the document supplied: the identifier, and the
names and thresholds it gave steps and criteria. -/
def Results.supplied (r : Results) : List PyVal :=
  r.scenarioId :: (r.steps.map (·.name) ++ r.criteria.flatMap fun c => [c.name, c.threshold])

theorem jsonPlainList_iff : ∀ {xs : List PyVal}, jsonPlainList xs = true ↔ ∀ x ∈ xs, jsonPlain x = true
  | [] => by simp
  | x :: xs => by simp [jsonPlainList_iff]

/-- `results` is plain when what the document supplied is and the observed
values are the placeholder `0`. -/
theorem jsonPlain_toPy {r : Results} (h : ∀ v ∈ r.supplied, jsonPlain v = true)
    (hact : ∀ c ∈ r.criteria, c.actual = 0) : jsonPlain r.toPy = true := by
  simp only [Results.supplied, List.mem_cons, List.mem_append, List.mem_map, List.mem_flatMap,
    List.mem_singleton, forall_eq_or_imp] at h
  have hsteps : ∀ s ∈ r.steps, jsonPlain s.toPy = true := fun s hs => by
    simp [StepRecord.toPy, jsonPlainList_iff, h.2 s.name (.inl ⟨s, hs, rfl⟩)]
  have hcrit : ∀ c ∈ r.criteria, jsonPlain c.toPy = true := fun c hc => by
    simp [CriterionRecord.toPy, h.2 c.name (.inr ⟨c, hc, by simp⟩),
      h.2 c.threshold (.inr ⟨c, hc, by simp⟩), hact c hc]
  simp only [Results.toPy, jsonPlain_dict, jsonPlainEntries_str, jsonPlain_list]
  simp [jsonPlainList_iff, h.1]
  exact ⟨hsteps, hcrit⟩

/-- `json.load(open(path))` on the report files: the value read back, or none
where opening the file or parsing its text raises. A text cut short never
parses, as it lacks at least the closing brace of the object `results`. -/
def loadReport (files : Reports) (path : String) : Option PyVal :=
  match files path with
  | some (.complete v) => some (jsonLoaded v)
  | _ => Option.none

@[simp] theorem loadReport_write (files : Reports) (path : String) (v : PyVal) :
    loadReport (files.write path (.complete v)) path = some (jsonLoaded v) := by
  simp [loadReport]

/-- Whatever the document, shell and file system, when `run_scenario` and
`save_results` return and the values the document supplied are plain, the
file at the path `save_results` returns reads back equal to the results. -/
theorem saveResults_loadReport_eq {shell : Shell} {startTime endTime ns : String}
    {scenario : PyVal} {hist sent : List String} {res : Results} {fs : FileSystem} {now : DateTime}
    {outputDir path : String} {files files' : Reports}
    (hrun : runScenario shell startTime endTime scenario ns hist = .ok res sent)
    (hplain : ∀ v ∈ res.supplied, jsonPlain v = true)
    (hsave : saveResults fs now res outputDir files = .ok path files') :
    ∃ v, loadReport files' path = some v ∧ pyEq v res.toPy = true := by
  obtain ⟨_, _, _, _, _, hc⟩ := runScenario_ok_inv hrun
  have hact : ∀ c ∈ res.criteria, c.actual = 0 := fun c hc' => ((evaluateCriteria_ok_inv hc).2 c hc').1
  obtain ⟨-, rfl⟩ := saveResults_eq_ok hsave
  exact ⟨_, loadReport_write files path res.toPy, pyEq_jsonLoaded _ (jsonPlain_toPy hplain hact)⟩

/-- The results of `readyScenario` on a shell where every command succeeds
with no output. -/
def readyResults : Results :=
  ⟨.str "TF-DEMO-3_Validated", "2024-05-17T12:30:40",
    [⟨.str "deploy", true, [""]⟩, ⟨.str "wait", true, [""]⟩, ⟨.str "check", true, [""]⟩], true,
    [⟨.str "Volume reduction", .int 10, 0, true⟩], "2024-05-17T12:30:45"⟩

theorem saveResults_loadReport_eq_ready :
    ∃ res sent path files,
      runScenario demoShell "2024-05-17T12:30:40" "2024-05-17T12:30:45" readyScenario
          "tf-k8s-tf-demo-3-validated" [] = .ok res sent ∧
        (∀ v ∈ res.supplied, jsonPlain v = true) ∧
        saveResults lenientFs exampleTime res defaultOutputDir (fun _ => none) = .ok path files ∧
        ∃ v, loadReport files path = some v ∧ pyEq v res.toPy = true :=
  have hrun : runScenario demoShell "2024-05-17T12:30:40" "2024-05-17T12:30:45" readyScenario
      "tf-k8s-tf-demo-3-validated" [] = .ok readyResults _ := rfl
  have hplain : ∀ v ∈ readyResults.supplied, jsonPlain v = true := by decide
  have hsave : saveResults lenientFs exampleTime readyResults defaultOutputDir (fun _ => none) =
      .ok _ _ := rfl
  ⟨_, _, _, _, hrun, hplain, hsave, saveResults_loadReport_eq hrun hplain hsave⟩

/-- `readyScenario` with the threshold `.nan`. -/
def nanScenario : PyVal :=
  exampleScenario [.dict [(.str "name", .str "Volume reduction"), (.str "metric", .str "bytes_ratio"),
    (.str "threshold", .float "nan")]]

/-- With a `.nan` threshold, `run_scenario` and `save_results` return, and the
report read back is not equal to the results saved. -/
theorem saveResults_nan_threshold :
    ∃ r sent path files, runScenario demoShell "2024-05-17T12:30:40" "2024-05-17T12:30:45"
        nanScenario "tf-k8s-tf-demo-3-validated" [] = .ok r sent ∧
      saveResults lenientFs exampleTime r defaultOutputDir (fun _ => none) = .ok path files ∧
      ∃ v, loadReport files path = some v ∧ pyEq v r.toPy = false :=
  ⟨_, _, _, _, rfl, rfl, _, loadReport_write _ _ _, rfl⟩

end TfK8s.Runner
