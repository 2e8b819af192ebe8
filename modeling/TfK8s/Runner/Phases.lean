import TfK8s.Runner.Run
import TfK8s.Py.DateTime

/-!
# `setup_scenario`, `save_results` and `cleanup_scenario`

The three phases `main` runs around `run_scenario`. Setup loads the document,
derives the scenario's namespace from its identifier, creates the namespace
and applies the scenario's manifests into it; cleanup deletes the namespace;
saving writes the results as JSON to a file named after the identifier and
the time of day.

The commands setup and cleanup send go through the same shell oracle as the
scenario's own commands, with the argument vector written as its words joined
by spaces; `check=True` turns a failure into `CalledProcessError`. Before that,
`subprocess.run` makes the checks of `checkOutput` and looks `kubectl` up on
`PATH`, and each of these raises with nothing sent. What setup reads from disk,
the parsed document and the manifests beside it, is an oracle too.

The file system `save_results` writes to is an oracle with one law, the one
Linux imposes whatever the disk holds: a file name longer than 255 bytes is
refused with `ENAMETOOLONG`. The timestamp in the file name is the `strftime`
of the clock's reading. What the function leaves in the report file is state:
`open(filename, 'w')` empties the file, and `json.dump` writes its text piece
by piece, so a value it refuses leaves the file cut short.
-/

namespace TfK8s.Runner

open Py Script

/-! ## The namespace -/

/-- `f"tf-k8s-{scenario_id.lower().replace('_', '-')}"` for a `str` identifier. -/
def namespaceName (scenarioId : String) : String :=
  "tf-k8s-" ++ ⟨replace (lower scenarioId.data) ['_'] ['-']⟩

/-- The namespace of a loaded identifier. Only a `str` has a `.lower()` whose
result takes `.replace('_', '-')`. -/
def namespaceOf : PyVal → Except PyExc String
  | .str s => .ok (namespaceName s)
  | .bytes _ => .error (.typeError "a bytes-like object is required, not 'str'")
  | v => .error (.attributeError v.typeName "lower")

/-! ## Setup and cleanup -/

/-- `subprocess.run(argv, check=True)`: the NUL check before the fork, the
`PATH` search for the program, the length check of `execve`, and then the
program's run. -/
def subprocessRun (path : ExecPath) (shell : Shell) (argv : List String) : Script Unit := do
  lift (checkNul argv)
  lift (path (argv.headD ""))
  lift (checkArgLen argv)
  match ← send shell (" ".intercalate argv) with
  | .ok _ => pure ()
  | .error e => throw (.calledProcessError e)

/-- What `setup_scenario` reads from disk: what `yaml.safe_load` makes of the
file at a path, or what opening or parsing it raises; and the manifests
`glob.glob(f"{k8s_dir}/*.yaml")` lists in the `k8s` directory beside it, none
when that directory does not exist. -/
structure Disk where
  load : String → Except PyExc PyVal
  manifests : String → List String

/-- `for manifest in manifest_files: subprocess.run([... 'apply' ...], check=True)`. -/
def applyManifests (path : ExecPath) (shell : Shell) (ns : String) : List String → Script Unit
  | [] => pure ()
  | manifest :: rest => do
      subprocessRun path shell ["kubectl", "apply", "-f", manifest, "-n", ns]
      applyManifests path shell ns rest

/-- `setup_scenario(scenario_path, cluster_type)`; `cluster_type` is unused. -/
def setupScenario (disk : Disk) (path : ExecPath) (shell : Shell) (scenarioPath : String) :
    Script (PyVal × String) := do
  let scenario ← lift (disk.load scenarioPath)
  let scenarioId ← lift (scenarioIdOf scenario)
  let ns ← lift (namespaceOf scenarioId)
  subprocessRun path shell ["kubectl", "create", "namespace", ns]
  applyManifests path shell ns (disk.manifests scenarioPath)
  pure (scenario, ns)

/-- `cleanup_scenario(scenario, namespace)`. -/
def cleanupScenario (path : ExecPath) (shell : Shell) (ns : String) : Script Unit :=
  subprocessRun path shell ["kubectl", "delete", "namespace", ns, "--timeout=60s"]

/-! ## Saving the results -/

/-- The `results` dict as `json.dump` sees it, keys in insertion order. -/
def StepRecord.toPy (r : StepRecord) : PyVal :=
  .dict [(.str "name", r.name), (.str "success", .bool r.success),
    (.str "output", .list (r.output.map .str))]

/-- A criterion's entry of `results['criteria']`. -/
def CriterionRecord.toPy (c : CriterionRecord) : PyVal :=
  .dict [(.str "name", c.name), (.str "threshold", c.threshold), (.str "actual", .int c.actual),
    (.str "success", .bool c.success)]

/-- `results`. -/
def Results.toPy (r : Results) : PyVal :=
  .dict [(.str "scenario_id", r.scenarioId), (.str "start_time", .str r.startTime),
    (.str "steps", .list (r.steps.map StepRecord.toPy)), (.str "success", .bool r.success),
    (.str "criteria", .list (r.criteria.map CriterionRecord.toPy)),
    (.str "end_time", .str r.endTime)]

/-- The file system as `save_results` meets it. Linux refuses a file name
longer than 255 bytes with `ENAMETOOLONG`, whatever else holds. -/
structure FileSystem where
  /-- `os.makedirs(path, exist_ok=True)` -/
  makedirs : String → Except PyExc Unit
  /-- `open(path, 'w')` -/
  openWrite : String → Except PyExc Unit
  name_max : ∀ dir name : String, '/' ∉ name.data → 255 < name.utf8ByteSize →
    openWrite (dir ++ "/" ++ name) =
      .error (.osError ("[Errno 36] File name too long: " ++ Py.reprStr (dir ++ "/" ++ name)))

/-- `save_results`'s default `output_dir`. -/
def defaultOutputDir : String := "tf-k8s/reports"

/-- `f"{output_dir}/{scenario_id}_{timestamp}.json"`, once `str(scenario_id)`
has returned. -/
def reportFilename (outputDir : String) (scenarioId : PyVal) (timestamp : String) : String :=
  outputDir ++ "/" ++ scenarioId.toStr ++ "_" ++ timestamp ++ ".json"

/-- What a report file holds once `json.dump` has stopped: the text of the
whole value, or the part of it written before `json.dump` raised. -/
inductive ReportText where
  | complete (v : PyVal)
  | truncated

/-- The report files written so far, by path. -/
abbrev Reports := String → Option ReportText

/-- The files after `path` has been written with `text`. -/
def Reports.write (files : Reports) (path : String) (text : ReportText) : Reports :=
  fun p => if p = path then some text else files p

@[simp] theorem Reports.write_same (files : Reports) (path : String) (text : ReportText) :
    files.write path text path = some text := if_pos rfl

/-- `save_results(results, output_dir)`, the clock reading `now`, over the
report files. -/
def saveResults (fs : FileSystem) (now : DateTime) (results : Results) (outputDir : String) :
    EStateM PyExc Reports String := do
  lift (fs.makedirs outputDir)
  let scenarioId := results.scenarioId
  let timestamp := now.strftime
  let _ ← lift scenarioId.format
  let filename := reportFilename outputDir scenarioId timestamp
  lift (fs.openWrite filename)
  match results.toPy.jsonEncode with
  | .ok () => do
      modify (·.write filename (.complete results.toPy))
      pure filename
  | .error e => do
      modify (·.write filename .truncated)
      throw e

end TfK8s.Runner
