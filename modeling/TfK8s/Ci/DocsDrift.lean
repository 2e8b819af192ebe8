import TfK8s.Py.Glob
import TfK8s.Py.Equality
import TfK8s.Py.Script

/-!
# `check_docs_drift.py`

The CI job regenerates the schema documentation and fails when the committed
documents differ from what it generated. `generate_docs` globs
`eidc/**/schemas/*.yaml`, and for each schema writes a markdown rendering to
`docs/generated/<its directory relative to eidc>/<its name>.md`.
`check_docs_drift` then asks `git diff --name-only` which tracked files the
regeneration changed, and keeps those that end in `.md` and contain `eidc/`.
It reports drift when that list is not empty.

The repository is an oracle for what the job reads: the tree of paths `glob`
walks, the working directory `relpath` resolves against, what
`yaml.safe_load` makes of each schema, what `yaml.dump` prints, and whether
`os.makedirs` and `open` succeed. Git's index is the committed content of the
tracked files, and a tracked file is listed when what the job last wrote to it
differs from that content. The job runs on a clean checkout, so nothing else
differs. A run is state passing over the writes made so far.
-/

namespace TfK8s.Ci

open Py

/-- The repository as the job meets it. -/
structure Repo where
  /-- the paths under the working directory, for `glob` -/
  tree : FileTree
  /-- the components of `os.getcwd()` -/
  cwd : List String
  /-- `yaml.safe_load` on the file opened at `p`, or what opening or loading raised -/
  load : String → Except PyExc PyVal
  /-- `yaml.dump(v)` -/
  dump : PyVal → String
  /-- `os.makedirs(p, exist_ok=True)` -/
  makedirs : String → Except PyExc Unit
  /-- `open(p, 'w')` -/
  openWrite : String → Except PyExc Unit
  /-- the tracked files with their committed contents, in the order git lists paths -/
  committed : List (String × String)

/-- A step of the job: the files written so far, each write after the earlier
ones, or what was raised. -/
abbrev Job := EStateM PyExc (List (String × String))

/-! ## `generate_docs` -/

/-- `os.path.basename(schema_file).replace('.yaml', '')`. -/
def schemaName (schemaFile : String) : String :=
  ⟨replace (pathSplit schemaFile.data).2 ".yaml".data []⟩

/-- `os.path.join("docs", "generated", os.path.relpath(os.path.dirname(schema_file), "eidc"))`. -/
def outputDir (cwd : List String) (schemaFile : String) : Except PyExc String := do
  let rel ← relpath cwd (pathSplit schemaFile.data).1 "eidc".data
  pure ⟨pathJoin (pathJoin "docs".data "generated".data) rel⟩

/-- `os.path.join(output_dir, f"{schema_name}.md")`. -/
def outputFile (dir name : String) : String :=
  ⟨pathJoin dir.data (name ++ ".md").data⟩

/-- The lines for one property, the body of `for prop_name, prop_def in
schema['properties'].items()`. -/
def propertyLines (dump : PyVal → String) (schema propName propDef : PyVal) :
    Except PyExc (List PyVal) := do
  let description ← if ← propDef.contains "description" then
      pure [← propDef.subscript "description", .str ""]
    else pure []
  let type ← propDef.get "type" (.str "any")
  let required ← if ← schema.contains "required" then
      (← schema.subscript "required").containsVal propName
    else pure false
  let allowed ← if ← propDef.contains "enum" then
      pure [.str "**Allowed Values**:", .str "```", .str (dump (← propDef.subscript "enum")),
        .str "```", .str ""]
    else pure []
  pure ([.str ("### " ++ propName.toStr), .str ""] ++ description ++
    [.str ("**Type**: " ++ type.toStr), .str ""] ++
    [.str (if required then "**Required**: Yes" else "**Required**: No"), .str ""] ++ allowed)

/-- The `markdown` list for a loaded schema. An item that is not a `str` (a
description loaded as a number, say) stays in it as it is. -/
def markdown (dump : PyVal → String) (schemaName : String) (schema : PyVal) :
    Except PyExc (List PyVal) := do
  let title ← schema.get "title" (.str schemaName)
  let description ← if ← schema.contains "description" then
      pure [← schema.subscript "description", .str ""]
    else pure []
  let properties ← if ← schema.contains "properties" then do
      let entries ← (← schema.subscript "properties").items
      let sections ← entries.mapM fun (propName, propDef) => propertyLines dump schema propName propDef
      pure ([.str "## Properties", .str ""] ++ sections.flatten)
    else pure []
  pure ([.str ("# " ++ title.toStr), .str ""] ++ description ++
    [.str "## Table of Contents", .str ""] ++ properties)

/-- `"\n".join(items)` from item `i` on, raising at the first item that is not a `str`. -/
def joinLines (i : Nat) : List PyVal → Except PyExc (List String)
  | [] => .ok []
  | .str s :: rest => (s :: ·) <$> joinLines (i + 1) rest
  | v :: _ => .error (.typeError ("sequence item " ++ toString i ++ ": expected str instance, " ++
      v.typeName ++ " found"))

/-- One pass of the loop. `makedirs` is outside the `try`, so what it raises
ends the job; what the `try` catches makes `generate_docs` return `False`.
`open(output_file, 'w')` empties the file before the lines are joined. -/
def generateDoc (repo : Repo) (schemaFile : String) : Job Bool := do
  let name := schemaName schemaFile
  let dir ← Script.lift (outputDir repo.cwd schemaFile)
  Script.lift (repo.makedirs dir)
  let output := outputFile dir name
  Script.catchAll
    (do
      let schema ← Script.lift (repo.load schemaFile)
      let lines ← Script.lift (markdown repo.dump name schema)
      Script.lift (repo.openWrite output)
      modify (· ++ [(output, "")])
      let text ← Script.lift (joinLines 0 lines)
      modify (· ++ [(output, "\n".intercalate text)])
      pure true)
    fun _ => pure false

/-- `for schema_file in schema_files`, returning `False` at the first failure. -/
def generateEach (repo : Repo) : List String → Job Bool
  | [] => pure true
  | schemaFile :: rest => do
      if ← generateDoc repo schemaFile then generateEach repo rest else pure false

/-- The pattern `generate_docs` globs. -/
def schemaPattern : String := "eidc/**/schemas/*.yaml"

/-- `generate_docs()`. -/
def generateDocs (repo : Repo) : Job Bool := do
  generateEach repo (← Script.lift (repo.tree.globRecursive schemaPattern))

/-! ## `check_docs_drift` -/

/-- What a tracked file holds after the writes: the last one to it, or its
committed content. -/
def contentAfter (writes : List (String × String)) (path committed : String) : String :=
  ((writes.reverse.find? (·.1 = path)).map (·.2)).getD committed

/-- `git diff --name-only`: the tracked files whose content the writes changed,
one per line. -/
def gitDiffNames (repo : Repo) (writes : List (String × String)) : String :=
  String.join ((repo.committed.filter fun (path, content) => contentAfter writes path content ≠ content).map
    fun (path, _) => path ++ "\n")

/-- `f.endswith('.md') and 'eidc/' in f`. -/
def isDocChange (f : String) : Bool :=
  ".md".data.isSuffixOf f.data && isSubstr "eidc/".data f.data

/-- `[f for f in result.stdout.strip().split('\n') if ...]`. -/
def changedMdFiles (stdout : String) : List String :=
  ((splitChar '\n' (stripSpace stdout.data)).map String.mk).filter isDocChange

/-- `check_docs_drift()`: `True` when it finds no drift. -/
def checkDocsDrift (repo : Repo) : Except PyExc Bool :=
  match generateDocs repo [] with
  | .ok false _ => .ok false
  | .ok true writes => .ok (changedMdFiles (gitDiffNames repo writes)).isEmpty
  | .error e _ => .error e

/-- The exit status of the script, or what it raised. -/
def docsDriftMain (repo : Repo) : Except PyExc Nat :=
  (fun success => if success then 0 else 1) <$> checkDocsDrift repo

end TfK8s.Ci
