import TfK8s.Py.Script

/-!
# `run_scenario`

The core of `scenario-runner.py`: a loop over the steps whose body is a loop
over the step's commands, each sent to the shell with `{namespace}` replaced,
and then a loop over the success criteria. Two `break`s shape a run. The inner
one ends a step at its first failing command; the outer one ends the scenario
after a failed step whose `critical` is truthy.

Each loop is a function over the list it iterates and the locals it writes, and
a `break` is the branch that returns instead of recursing. The document is read
as the code reads it, `.get` and iteration included, so a document of the wrong
shape raises where Python raises. The clock is read twice, for `start_time` and
`end_time`; both readings are parameters, so a statement over all of them
covers every clock. The namespace is `ns`, since `namespace` is a Lean keyword.

The progress lines the function prints are not modelled as output, but the
f-strings they print are evaluated, and two of them format a value of the
document: the identifier at line 119 and the step's name at line 132. Those
raise where `str` does, on an `int` of more than 4300 digits. The name is
printed again at line 161 only after line 132 has formatted it.
-/

namespace TfK8s.Runner

open Py Script

/-- An entry of `results['steps']`. -/
structure StepRecord where
  name : PyVal
  success : Bool
  output : List String

/-- An entry of `results['criteria']`. -/
structure CriterionRecord where
  name : PyVal
  threshold : PyVal
  actual : Int
  success : Bool

/-- The `results` dict that `run_scenario` returns. -/
structure Results where
  scenarioId : PyVal
  startTime : String
  steps : List StepRecord
  success : Bool
  criteria : List CriterionRecord
  endTime : String

/-- What the command loop writes: `results['success']`, `step_success` and
`step_output`. -/
structure CmdLocals where
  success : Bool
  stepSuccess : Bool
  stepOutput : List String

/-- `for cmd in commands`, from `cmd` on. A failing command ends the step: its
error text is the last output and nothing after it is sent. -/
def runCommands (shell : Shell) (ns : String) : List PyVal → CmdLocals → Script CmdLocals
  | [], l => pure l
  | cmd :: rest, l => do
      let cmd ← lift (cmd.replace "{namespace}" ns)
      match ← checkOutput shell cmd with
      | .ok output =>
          runCommands shell ns rest { l with stepOutput := l.stepOutput ++ [output] }
      | .error e =>
          pure { success := false, stepSuccess := false,
                 stepOutput := l.stepOutput ++ ["ERROR: " ++ e] }

/-- What the step loop writes: `results['steps']` and `results['success']`. -/
structure StepLocals where
  steps : List StepRecord
  success : Bool

/-- The body of `for i, step in enumerate(steps)`: run the step's commands,
append its record, and say whether the loop breaks. -/
def executeStep (shell : Shell) (ns : String) (i : Nat) (step : PyVal) (l : StepLocals) :
    Script (StepLocals × Bool) := do
  let stepName ← lift (step.get "name" (.str ("Step " ++ toString (i + 1))))
  let _ ← lift stepName.format
  let commands ← lift (step.get "commands" (.list []))
  let commands ← lift commands.iter
  let c ← runCommands shell ns commands ⟨l.success, true, []⟩
  let l' : StepLocals := ⟨l.steps ++ [⟨stepName, c.stepSuccess, c.stepOutput⟩], c.success⟩
  if c.stepSuccess then pure (l', false)
  else do
    let critical ← lift (step.get "critical" (.bool true))
    pure (l', critical.truthy)

/-- `for i, step in enumerate(steps)`, from index `i` on. -/
def runSteps (shell : Shell) (ns : String) : Nat → List PyVal → StepLocals → Script StepLocals
  | _, [], l => pure l
  | i, step :: rest, l => do
      let (l, stop) ← executeStep shell ns i step l
      if stop then pure l else runSteps shell ns (i + 1) rest l

/-- `for criterion in criteria`. The observed value is the placeholder `0` and
the verdict the placeholder `True`, as in the source. -/
def runCriteria : List PyVal → List CriterionRecord → Bool →
    Script (List CriterionRecord × Bool)
  | [], records, success => pure (records, success)
  | criterion :: rest, records, success => do
      let criterionName ← lift (criterion.get "name" (.str "Unnamed criterion"))
      let threshold ← lift (criterion.get "threshold" (.int 0))
      let actual : Int := 0
      let criterionSuccess := true
      runCriteria rest (records ++ [⟨criterionName, threshold, actual, criterionSuccess⟩])
        (if !criterionSuccess then false else success)

/-- The block under `# Evaluate success criteria`, given `results['success']`
as the step loop left it. -/
def evaluateCriteria (scenario : PyVal) (success : Bool) :
    Script (List CriterionRecord × Bool) := do
  let criteria ← lift (scenario.get "success_criteria" (.list []))
  let criteria ← lift criteria.iter
  runCriteria criteria [] success

/-- `scenario.get('metadata', {}).get('id', 'unknown')`, the first expression
both `setup_scenario` and `run_scenario` evaluate. -/
def scenarioIdOf (scenario : PyVal) : Except PyExc PyVal := do
  let metadata ← scenario.get "metadata" (.dict [])
  metadata.get "id" (.str "unknown")

/-- `run_scenario(scenario, namespace)`, the clock's `isoformat()` reading
`startTime` and then `endTime`. -/
def runScenario (shell : Shell) (startTime endTime : String) (scenario : PyVal) (ns : String) :
    Script Results := do
  let scenarioId ← lift (scenarioIdOf scenario)
  let _ ← lift scenarioId.format
  let steps ← lift (scenario.get "steps" (.list []))
  let steps ← lift steps.iter
  let l ← runSteps shell ns 0 steps ⟨[], true⟩
  let (records, success) ← evaluateCriteria scenario l.success
  pure ⟨scenarioId, startTime, l.steps, success, records, endTime⟩

end TfK8s.Runner
