import TfK8s.Py.Value
import TfK8s.Py.Regex

/-!
# `validate_scenario_definition`

The validator (`validate-failing-test.py`) is a linter run before a scenario
is enabled. Its definition check walks the loaded document section by section
and appends one message to `self.errors` for each problem it finds. It tests
fields with `in` and reads them with subscripts, with no type check, and wraps
the whole walk in a `try` whose `except Exception` appends one more message
and returns `False`. A document of the wrong shape therefore does not crash the
validator; it shows up as an error, and the messages appended before the raise
stay in the list.

A check is modelled as what it appends and what it returns or raises. The
errors of a sequence of checks are the concatenation of theirs, and a raise
keeps what was appended before it, as `self.errors.append` does. A check
passes cleanly when it appends nothing and raises nothing; a clean sequence is
a sequence of clean checks, which is how the precondition proofs read facts
about the document off an accepted one.
-/

namespace TfK8s.Validator

open Py

/-- A check: the messages it appends to `self.errors`, and its value or the
exception it raised. -/
structure Check (α : Type) where
  errors : List String
  result : Except PyExc α

namespace Check

variable {α β : Type}

instance : Monad Check where
  pure a := ⟨[], .ok a⟩
  bind x f := match x.result with
    | .ok a => ⟨x.errors ++ (f a).errors, (f a).result⟩
    | .error e => ⟨x.errors, .error e⟩

/-- Evaluate an expression that may raise. -/
def lift (e : Except PyExc α) : Check α := ⟨[], e⟩

/-- `self.errors.append(message)`. -/
def report (message : String) : Check Unit := ⟨[message], .ok ()⟩

/-- `try: x except Exception as e: handler(e)`. -/
def catchAll (x : Check α) (handler : PyExc → Check α) : Check α :=
  match x.result with
  | .ok _ => x
  | .error e => ⟨x.errors ++ (handler e).errors, (handler e).result⟩

/-- `x`, then `return len(self.errors) == 0`, where `earlier` is what
`self.errors` held before `x` ran. -/
def verdict (earlier : List String) (x : Check Unit) : Check Bool :=
  ⟨x.errors, x.result.map fun _ => (earlier ++ x.errors).isEmpty⟩

/-- Appends nothing and returns `a`. -/
def Clean (x : Check α) (a : α) : Prop := x = ⟨[], .ok a⟩

theorem bind_clean {x : Check α} {f : α → Check β} {b : β} (h : Clean (x >>= f) b) :
    ∃ a, Clean x a ∧ Clean (f a) b := by
  obtain ⟨errs, r⟩ := x
  cases r with
  | ok a =>
      change (⟨errs ++ (f a).errors, (f a).result⟩ : Check β) = ⟨[], .ok b⟩ at h
      obtain ⟨hx, hr⟩ := Check.mk.inj h
      obtain ⟨rfl, he⟩ := List.append_eq_nil.mp hx
      exact ⟨a, rfl, by rw [Clean, ← he, ← hr]⟩
  | error e => cases h

theorem lift_clean {e : Except PyExc α} {a : α} (h : Clean (lift e) a) : e = .ok a :=
  (Check.mk.inj h).2

theorem report_not_clean (m : String) : ¬ Clean (report m) () := fun h => by
  cases h

theorem pure_clean (a : α) : Clean (pure a : Check α) a := rfl

end Check

open Check

/-- `required_sections`. -/
def requiredSections : List String := ["metadata", "requirements", "steps", "success_criteria"]

/-- `required_metadata`. -/
def requiredMetadata : List String :=
  ["id", "name", "description", "version", "tags", "eidc_references"]

/-- The cluster types the requirements may name. -/
def clusterTypes : List String := ["kind", "k3d-duo"]

/-- A character of `[A-Za-z0-9_]`. -/
def isWordChar (c : Char) : Bool := c.isAlphanum || c == '_'

/-- `id_pattern = r"^TF-[A-Z]+-[0-9]+_[A-Za-z0-9_]+$"`. -/
def idPattern : List Item :=
  [.caret, .one (· == 'T'), .one (· == 'F'), .one (· == '-'), .plus Char.isUpper,
    .one (· == '-'), .plus Char.isDigit, .one (· == '_'), .plus isWordChar, .dollar]

/-- `re.match(id_pattern, v)` on a loaded value. -/
def matchId (v : PyVal) : Except PyExc Bool :=
  match v with
  | .str s => .ok (reMatch idPattern s)
  | .bytes _ => .error (.typeError "cannot use a string pattern on a bytes-like object")
  | v => .error (.typeError ("expected string or bytes-like object, got '" ++ v.typeName ++ "'"))

/-- `for key in keys: if key not in container: self.errors.append(message(key))`. -/
def reportMissing (container : PyVal) (message : String → String) : List String → Check Unit
  | [] => pure ()
  | key :: keys => do
      if !(← lift (container.contains key)) then report (message key)
      reportMissing container message keys

/-- The `# Check metadata` block. -/
def checkMetadata (scenario : PyVal) : Check Unit := do
  if ← lift (scenario.contains "metadata") then
    let metadata ← lift (scenario.subscript "metadata")
    reportMissing metadata ("Required metadata field missing: " ++ ·) requiredMetadata
    if ← lift (metadata.contains "id") then
      let id ← lift (metadata.subscript "id")
      if !(← lift (matchId id)) then
        report ("Invalid scenario ID format: " ++ id.toStr)

/-- The `# Check requirements` block. -/
def checkRequirements (scenario : PyVal) : Check Unit := do
  if ← lift (scenario.contains "requirements") then
    let requirements ← lift (scenario.subscript "requirements")
    if !(← lift (requirements.contains "cluster_type")) then
      report "Cluster type not specified in requirements"
    else do
      let clusterType ← lift (requirements.subscript "cluster_type")
      if !(clusterTypes.any fun t => clusterType.isStr t) then
        report ("Invalid cluster type: " ++ clusterType.toStr)
    if !(← lift (requirements.contains "components")) then
      report "No components specified in requirements"
    else do
      if !(← lift (requirements.subscript "components")).truthy then
        report "No components specified in requirements"

/-- `any(needle in cmd for cmd in cmds)`, stopping at the first hit. -/
def anyContains (needle : String) : List PyVal → Except PyExc Bool
  | [] => pure false
  | cmd :: rest => do
      if ← cmd.contains needle then pure true else anyContains needle rest

/-- `any(needle in cmd for cmd in s.get("commands", []))`. -/
def mentions (needle : String) (step : PyVal) : Except PyExc Bool := do
  let commands ← step.get "commands" (.list [])
  anyContains needle (← commands.iter)

/-- `[s for s in steps if any(needle in cmd for cmd in s.get("commands", []))]`. -/
def stepsMentioning (needle : String) : List PyVal → Except PyExc (List PyVal)
  | [] => pure []
  | s :: rest => do
      let keep ← mentions needle s
      let kept ← stepsMentioning needle rest
      pure (if keep then s :: kept else kept)

/-- The `# Check steps` block. -/
def checkSteps (scenario : PyVal) : Check Unit := do
  if ← lift (scenario.contains "steps") then
    let steps ← lift (scenario.subscript "steps")
    if !steps.truthy then report "Insufficient steps in scenario: 0"
    else do
      let n ← lift steps.len
      if n < 3 then report ("Insufficient steps in scenario: " ++ toString n)
    let stepList ← lift steps.iter
    if (← lift (stepsMentioning "kubectl apply" stepList)).isEmpty then
      report "No deployment step found"
    if (← lift (stepsMentioning "verify" stepList)).isEmpty then
      report "No verification step found"

/-- `if key not in criterion: self.errors.append(f"{label} missing in success
criterion {i+1}")`. -/
def requireField (criterion : PyVal) (i : Nat) (key label : String) : Check Unit := do
  if !(← lift (criterion.contains key)) then
    report (label ++ " missing in success criterion " ++ toString (i + 1))

/-- The body of `for i, criterion in enumerate(criteria)`. -/
def checkCriterion (i : Nat) (criterion : PyVal) : Check Unit := do
  requireField criterion i "name" "Name"
  requireField criterion i "threshold" "Threshold"
  requireField criterion i "metric" "Metric"

/-- `for i, criterion in enumerate(criteria)`, from index `i` on. -/
def checkEachCriterion : Nat → List PyVal → Check Unit
  | _, [] => pure ()
  | i, c :: rest => do
      checkCriterion i c
      checkEachCriterion (i + 1) rest

/-- The `# Check success criteria` block. -/
def checkCriteria (scenario : PyVal) : Check Unit := do
  if ← lift (scenario.contains "success_criteria") then
    let criteria ← lift (scenario.subscript "success_criteria")
    if !criteria.truthy then report "No success criteria specified"
    else do
      if (← lift criteria.len) < 1 then report "No success criteria specified"
    checkEachCriterion 0 (← lift criteria.iter)

/-- The body of the `try`, up to the verdict. -/
def checkDefinition (scenario : PyVal) : Check Unit := do
  reportMissing scenario ("Required section missing in scenario definition: " ++ ·)
    requiredSections
  checkMetadata scenario
  checkRequirements scenario
  checkSteps scenario
  checkCriteria scenario

/-- `validate_scenario_definition`, given what `yaml.safe_load` made of the file
or the text of the `YAMLError` it raised, and the errors earlier checks left in
`self.errors`. The verdict is `len(self.errors) == 0`. -/
def validateScenarioDefinition (earlier : List String) (loaded : Except String PyVal) :
    Check Bool :=
  match loaded with
  | .error e => do
      report ("Error parsing scenario definition: " ++ e)
      pure false
  | .ok scenario =>
      catchAll (verdict earlier (checkDefinition scenario))
        fun e => do
          report ("Unexpected error validating scenario definition: " ++ e.message)
          pure false

end TfK8s.Validator
