import TfK8s.Runner.Phases

/-!
# `main`

Once `find_scenarios` has listed the scenario files, `main` exits with status 1
if there are none, and otherwise runs each file in a `try`: set the scenario
up, run it, save its results, clear `success` if the run failed, clean up.
`except Exception` clears `success` and moves on to the next file, so a raise
in any phase of one file ends only that file's attempt, and cleanup is skipped
for it. The exit status is 1 when `success` ended false and 0 otherwise.

The loop is modelled over any four phases sharing any state, so that a
statement about it covers every outcome each phase may have. The runner's own
phases are one instance, `runnerPhases`, over the commands sent, the number
of clock readings taken so far and the report files written.
-/

namespace TfK8s.Runner

open Py Script

variable {σ : Type}

/-- The four phases `main` runs for a scenario file, over a state they share. -/
structure Phases (σ : Type) where
  setupScenario : String → EStateM PyExc σ (PyVal × String)
  runScenario : PyVal → String → EStateM PyExc σ Results
  saveResults : Results → EStateM PyExc σ String
  cleanupScenario : PyVal → String → EStateM PyExc σ Unit

/-- The body of the `try` for one scenario file, with `success` as the loop has
it. -/
def attemptScenario (p : Phases σ) (scenarioFile : String) (success : Bool) :
    EStateM PyExc σ Bool := do
  let (scenario, ns) ← p.setupScenario scenarioFile
  let results ← p.runScenario scenario ns
  let _ ← p.saveResults results
  let success := if !results.success then false else success
  p.cleanupScenario scenario ns
  pure success

/-- `for scenario_file in scenario_files`, the `except` clearing `success`. -/
def runScenarioFiles (p : Phases σ) : List String → Bool → EStateM PyExc σ Bool
  | [], success => pure success
  | scenarioFile :: rest, success => do
      let success ← catchAll (attemptScenario p scenarioFile success) fun _ => pure false
      runScenarioFiles p rest success

/-- `main()` once `find_scenarios` has listed `scenarioFiles`: the exit status. -/
def main (p : Phases σ) (scenarioFiles : List String) : EStateM PyExc σ Nat :=
  if scenarioFiles.isEmpty then pure 1
  else do
    let success ← runScenarioFiles p scenarioFiles true
    pure (if !success then 1 else 0)

/-! ## The runner's phases -/

/-- What the runner's phases share: the commands sent, how many times the
clock has been read, and the report files written. -/
structure World where
  sent : List String
  reads : Nat
  reports : Reports

/-- A statement of the scripts, run on the record of commands sent. -/
def onSent {α : Type} (x : Script α) : EStateM PyExc World α := fun w =>
  match x w.sent with
  | .ok a s => .ok a { w with sent := s }
  | .error e s => .error e { w with sent := s }

/-- The runner's own phases. `clock n` is the clock's `n`-th reading, so a
statement over every `clock` covers every sequence of readings. `save_results`
reads the clock once `os.makedirs` has returned. -/
def runnerPhases (disk : Disk) (path : ExecPath) (shell : Shell) (fs : FileSystem)
    (clock : Nat → DateTime) : Phases World where
  setupScenario scenarioPath := onSent (setupScenario disk path shell scenarioPath)
  runScenario scenario ns := fun w =>
    match runScenario shell (clock w.reads).isoformat (clock (w.reads + 1)).isoformat scenario ns
        w.sent with
    | .ok r s => .ok r { w with sent := s, reads := w.reads + 2 }
    | .error e s => .error e { w with sent := s, reads := w.reads + 2 }
  saveResults results := fun w =>
    let reads := if (fs.makedirs defaultOutputDir).isOk then w.reads + 1 else w.reads
    match saveResults fs (clock w.reads) results defaultOutputDir w.reports with
    | .ok filename files => .ok filename { w with reads := reads, reports := files }
    | .error e files => .error e { w with reads := reads, reports := files }
  cleanupScenario _ ns := onSent (cleanupScenario path shell ns)

end TfK8s.Runner
