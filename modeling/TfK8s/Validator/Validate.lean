import TfK8s.Validator.Definition
import TfK8s.Py.Script

/-!
# `TestValidator.validate` and the validator's exit status

`validate()` runs five checks in a fixed order and ANDs their answers:
`check_directory_structure`, `validate_scenario_definition`,
`check_verification_script`, `check_k8s_resources` and `check_syntax`. Each
appends to `self.errors` what should block the scenario and to
`self.warnings` what should not, and returns a `bool`; none of them catches
what the directory listing raises, so a raise there ends `validate()` too.
The script then calls `print_results()`, which prints both lists and returns
`len(self.errors) == 0`, and exits with status 0 when `validate()` returned
`True`.

Everything the checks learn about the directory comes through an oracle: which
paths exist, what `Path.glob` lists, what a file holds, what `yaml` makes of
it, and what a subprocess answers. The path of the directory is the `str` of
the `Path` the script built, already normalized. Which of these answers is
true of some real directory does not matter to the results below, which hold
for every oracle.
-/

namespace TfK8s.Validator

open Py

/-- The scenario directory as the checks meet it. -/
structure ScenarioDir where
  /-- `str(self.scenario_path)` -/
  path : String
  /-- `Path(p).exists()` -/
  pathExists : String → Except PyExc Bool
  /-- `list(Path(p).glob(pattern))`, by the `str` of each match -/
  glob : String → String → Except PyExc (List String)
  /-- `os.access(p, os.X_OK)` -/
  access : String → Bool
  /-- `open(p, 'r').read()` -/
  read : String → Except PyExc String
  /-- `yaml.safe_load` on the file opened at `p`: the value, or the text of the
  `YAMLError` it raised -/
  loadFile : String → Except PyExc (Except String PyVal)
  /-- `list(yaml.safe_load_all(content))`: the documents, or the text of the
  `YAMLError` -/
  loadAll : String → Except PyExc (Except String (List PyVal))
  /-- `subprocess.run(argv, capture_output=True, text=True)`: the return code,
  `stdout` and `stderr` -/
  run : List String → Except PyExc (Int × String × String)

/-- What a `TestValidator`'s checks append to. -/
structure TestValidator where
  errors : List String
  warnings : List String

/-- A method of `TestValidator`. -/
abbrev Method := EStateM PyExc TestValidator

/-- `self.errors.append(message)`. -/
def appendError (message : String) : Method Unit :=
  modify fun v => { v with errors := v.errors ++ [message] }

/-- `self.warnings.append(message)`. -/
def appendWarning (message : String) : Method Unit :=
  modify fun v => { v with warnings := v.warnings ++ [message] }

/-- `return len(self.errors) == 0`. -/
def noErrors : Method Bool := fun v => .ok v.errors.isEmpty v

/-- A `Check`, its messages going to `self.errors`. -/
def Check.toMethod {α : Type} (x : Check α) : Method α := fun v =>
  match x.result with
  | .ok a => .ok a { v with errors := v.errors ++ x.errors }
  | .error e => .error e { v with errors := v.errors ++ x.errors }

/-- `path / name` on the `str` of a normalized path. -/
def joinPath (path name : String) : String :=
  if path = "." then name else if path.endsWith "/" then path ++ name else path ++ "/" ++ name

/-- `self.required_files`. -/
def requiredFiles : List String := ["scenario_definition.yaml"]

/-- `list(k8s_dir.glob("*.yaml")) + list(k8s_dir.glob("*.yml"))`. -/
def yamlFilesIn (dir : ScenarioDir) (k8sDir : String) : Method (List String) := do
  let yaml ← Script.lift (dir.glob k8sDir "*.yaml")
  let yml ← Script.lift (dir.glob k8sDir "*.yml")
  pure (yaml ++ yml)

/-! ## `check_directory_structure` -/

/-- `for file_name in self.required_files`, returning `False` at the first
missing one. -/
def checkRequiredFiles (dir : ScenarioDir) : List String → Method Bool
  | [] => pure true
  | fileName :: rest => do
      let filePath := joinPath dir.path fileName
      if !(← Script.lift (dir.pathExists filePath)) then
        appendError ("Required file missing: " ++ filePath)
        pure false
      else checkRequiredFiles dir rest

/-- The `k8s` part of `check_directory_structure`, which only warns. -/
def warnK8sDirectory (dir : ScenarioDir) (k8sDir : String) : Method Unit := do
  if !(← Script.lift (dir.pathExists k8sDir)) then
    appendWarning ("K8s directory missing: " ++ k8sDir)
  else
    if (← yamlFilesIn dir k8sDir).isEmpty then
      appendWarning ("No Kubernetes resource files found in " ++ k8sDir)

/-- `check_directory_structure()`. -/
def checkDirectoryStructure (dir : ScenarioDir) : Method Bool := do
  if !(← Script.lift (dir.pathExists dir.path)) then
    appendError ("Scenario directory does not exist: " ++ dir.path)
    pure false
  else
    if !(← checkRequiredFiles dir requiredFiles) then pure false
    else
      warnK8sDirectory dir (joinPath dir.path "k8s")
      noErrors

/-! ## `validate_scenario_definition` -/

/-- `validate_scenario_definition()`. The file is opened inside the `try`, so
what `open` raises is the `except Exception` case. -/
def validateScenarioDefinitionFile (dir : ScenarioDir) : Method Bool := fun v =>
  match dir.loadFile (joinPath dir.path "scenario_definition.yaml") with
  | .error e =>
      (do
        appendError ("Unexpected error validating scenario definition: " ++ e.message)
        pure false) v
  | .ok loaded => (validateScenarioDefinition v.errors loaded).toMethod v

/-! ## `check_verification_script` -/

/-- `\s`. -/
def spaceClass : Char → Bool := isPySpace

/-- `['\"]`. -/
def quoteClass (c : Char) : Bool := c == '\'' || c == '"'

/-- The patterns a verification script is searched for, each with what a
missing match is reported as. -/
def verificationPatterns : List (List (List Item) × String) :=
  [([literal "if" ++ [.plus spaceClass] ++ literal "__name__" ++ [.star spaceClass] ++ literal "==" ++
        [.star spaceClass, .one quoteClass] ++ literal "__main__" ++ [.one quoteClass]],
      "Main execution block"),
    ([literal "sys.exit"], "Exit with status code"),
    ([literal "parse_args", literal "argparse"], "Command-line argument parsing"),
    ([literal "class" ++ [.plus spaceClass, .plus isPyWord]], "Class definition")]

/-- `for pattern, description in patterns: if not re.search(pattern, content): ...`. -/
def warnMissingPatterns (content : String) : List (List (List Item) × String) → Method Unit
  | [] => pure ()
  | (pattern, description) :: rest => do
      if !reSearch pattern content then
        appendWarning ("Verification script missing: " ++ description)
      warnMissingPatterns content rest

/-- The `try` body of `check_verification_script` on the first script found. -/
def checkScript (dir : ScenarioDir) (verifyScript : String) : Method Bool := do
  if !dir.access verifyScript then
    appendWarning ("Verification script is not executable: " ++ verifyScript)
  let content ← Script.lift (dir.read verifyScript)
  warnMissingPatterns content verificationPatterns
  pure true

/-- `check_verification_script()`. -/
def checkVerificationScript (dir : ScenarioDir) : Method Bool := do
  match ← Script.lift (dir.glob dir.path "verify*.py") with
  | [] =>
      appendWarning "No verification script found"
      pure true
  | verifyScript :: _ =>
      Script.catchAll (checkScript dir verifyScript) fun e => do
        appendWarning ("Error checking verification script: " ++ e.message)
        pure true

/-! ## `check_k8s_resources` -/

/-- `for i, doc in enumerate(docs)`, from document `i` on. -/
def checkDocuments (yamlFile : String) : Nat → List PyVal → Method Unit
  | _, [] => pure ()
  | i, doc :: rest => do
      let n := toString (i + 1)
      if !doc.truthy then
        appendWarning ("Empty YAML document " ++ n ++ " in " ++ yamlFile)
      else
        if !(← Script.lift (doc.contains "kind")) then
          appendWarning ("Missing 'kind' in YAML document " ++ n ++ " in " ++ yamlFile)
        if !(← Script.lift (doc.contains "metadata")) then
          appendWarning ("Missing 'metadata' in YAML document " ++ n ++ " in " ++ yamlFile)
        else
          let metadata ← Script.lift (doc.subscript "metadata")
          if !(← Script.lift (metadata.contains "name")) then
            appendWarning ("Missing 'metadata.name' in YAML document " ++ n ++ " in " ++ yamlFile)
      checkDocuments yamlFile (i + 1) rest

/-- The `try` around one resource file: a `YAMLError` is an error, anything
else raised a warning. -/
def checkK8sFile (dir : ScenarioDir) (yamlFile : String) : Method Unit :=
  Script.catchAll
    (do
      let content ← Script.lift (dir.read yamlFile)
      match ← Script.lift (dir.loadAll content) with
      | .error message => appendError ("Error parsing YAML file " ++ yamlFile ++ ": " ++ message)
      | .ok docs =>
          if docs.isEmpty then appendWarning ("Empty YAML file: " ++ yamlFile)
          else checkDocuments yamlFile 0 docs)
    fun e => appendWarning ("Unexpected error checking YAML file " ++ yamlFile ++ ": " ++ e.message)

/-- `for yaml_file in yaml_files`. -/
def checkK8sFiles (dir : ScenarioDir) : List String → Method Unit
  | [] => pure ()
  | yamlFile :: rest => do
      checkK8sFile dir yamlFile
      checkK8sFiles dir rest

/-- `check_k8s_resources()`. -/
def checkK8sResources (dir : ScenarioDir) : Method Bool := do
  let k8sDir := joinPath dir.path "k8s"
  if !(← Script.lift (dir.pathExists k8sDir)) then pure true
  else
    let yamlFiles ← yamlFilesIn dir k8sDir
    if yamlFiles.isEmpty then pure true
    else
      checkK8sFiles dir yamlFiles
      noErrors

/-! ## `check_syntax` -/

/-- `for py_file in py_files`: `py_compile` each. -/
def compilePyFiles (dir : ScenarioDir) : List String → Method Unit
  | [] => pure ()
  | pyFile :: rest => do
      Script.catchAll
        (do
          let (returncode, _, stderr) ← Script.lift (dir.run ["python", "-m", "py_compile", pyFile])
          if returncode != 0 then
            appendError ("Python syntax error in " ++ pyFile ++ ": " ++ stderr))
        fun e => appendWarning ("Error checking Python syntax for " ++ pyFile ++ ": " ++ e.message)
      compilePyFiles dir rest

/-- `for yaml_file in yaml_files`: `yamllint` each. -/
def lintYamlFiles (dir : ScenarioDir) : List String → Method Unit
  | [] => pure ()
  | yamlFile :: rest => do
      Script.catchAll
        (do
          let (returncode, stdout, _) ← Script.lift (dir.run ["yamllint", "-d", "relaxed", yamlFile])
          if returncode != 0 then
            appendWarning ("YAML lint issues in " ++ yamlFile ++ ": " ++ stdout))
        fun e => appendWarning ("Error checking YAML syntax for " ++ yamlFile ++ ": " ++ e.message)
      lintYamlFiles dir rest

/-- The `try` around `yamllint`, whose bare `except` only logs. -/
def lintYaml (dir : ScenarioDir) : Method Unit :=
  Script.catchAll
    (do
      let (returncode, _, _) ← Script.lift (dir.run ["which", "yamllint"])
      if returncode == 0 then
        let yaml ← Script.lift (dir.glob dir.path "**/*.yaml")
        let yml ← Script.lift (dir.glob dir.path "**/*.yml")
        lintYamlFiles dir (yaml ++ yml))
    fun _ => pure ()

/-- `check_syntax()`. -/
def checkSyntax (dir : ScenarioDir) : Method Bool := do
  compilePyFiles dir (← Script.lift (dir.glob dir.path "*.py"))
  lintYaml dir
  noErrors

/-! ## `validate`, `print_results` and the exit status -/

/-- The checks `validate()` runs, in order. -/
def checks (dir : ScenarioDir) : List (Method Bool) :=
  [checkDirectoryStructure dir, validateScenarioDefinitionFile dir, checkVerificationScript dir,
    checkK8sResources dir, checkSyntax dir]

/-- `for check in checks: if not check(): all_passed = False`. -/
def runChecks : Bool → List (Method Bool) → Method Bool
  | allPassed, [] => pure allPassed
  | allPassed, check :: rest => do
      let passed ← check
      runChecks (allPassed && passed) rest

/-- `validate()`. -/
def validate (dir : ScenarioDir) : Method Bool :=
  runChecks true (checks dir)

/-- What `print_results()` returns; what it prints is left out. -/
def printResults (v : TestValidator) : Bool :=
  if v.errors.isEmpty && v.warnings.isEmpty then true else v.errors.isEmpty

/-- `__main__` after argument parsing, on a fresh `TestValidator`: the exit
status and what `print_results()` returned, or what `validate()` raised. -/
def validatorMain (dir : ScenarioDir) : Except PyExc (Nat × Bool) :=
  match validate dir ⟨[], []⟩ with
  | .ok valid v => .ok (if valid then 0 else 1, printResults v)
  | .error e _ => .error e

end TfK8s.Validator
