import TfK8s.Proofs.DocsDrift

/-!
# What a successful `generate_docs` leaves in the documents

`generate_docs` walks the schemas in `glob` order and, for each, empties its
document and then writes the rendering into it. A run that returns `True`
did so for every schema, so a document ends up holding the rendering of the
last schema written to it, and every other file keeps its content
(`generateDocs_contentAfter`).

More than one schema can be written to one document. The document of
`eidc/<dirs>/schemas/<file>` is `docs/generated/<dirs>/schemas/<name>.md`, where
`<name>` is the file name with every `.yaml` in it deleted, not only the last.
Two schemas share a document exactly when they share `<dirs>` and `<name>`
(`docOf_schemaPath_eq_iff`), so `a.yaml` and `a.yaml.yaml` side by side
are documented in one file, and only the later one in `glob` order is kept.

`rendering` is the path and text `generate_docs` writes for a schema when
nothing on the way raises, and `generateDoc_true` says a pass that returns
`True` writes exactly those, after emptying the file. `generateEach_true` is
the whole loop, and `find?_writes` reads the last write to a path off the
renderings.
-/

namespace TfK8s.Ci

open Py FileTree Script

/-! ## One schema -/

/-- The document `generate_docs` writes for `schemaFile` and its text, or what
is raised on the way. -/
def rendering (repo : Repo) (schemaFile : String) : Except PyExc (String × String) := do
  let dir ← outputDir repo.cwd schemaFile
  repo.makedirs dir
  let schema ← repo.load schemaFile
  let lines ← markdown repo.dump (schemaName schemaFile) schema
  repo.openWrite (outputFile dir (schemaName schemaFile))
  let text ← joinLines 0 lines
  pure (outputFile dir (schemaName schemaFile), "\n".intercalate text)

/-- The writes for one rendered document: the file emptied, then its text. -/
def docWrites (doc : String × String) : List (String × String) :=
  [(doc.1, ""), doc]

/-- The `try` of a pass: it returned `True` only if its body did, since the
`except` returns `False`. -/
theorem catchAll_false_eq_ok_true {x : Job Bool} {s s' : List (String × String)}
    (h : catchAll x (fun _ => pure false) s = .ok true s') : x s = .ok true s' := by
  unfold catchAll at h
  split at h
  · rw [‹x s = _›, h]
  · cases h

/-- A pass of the loop that returns `True` empties the schema's document and
writes its rendering, and nothing else. -/
theorem generateDoc_true {repo : Repo} {schemaFile : String} {w w' : List (String × String)}
    (h : generateDoc repo schemaFile w = .ok true w') :
    ∃ doc, rendering repo schemaFile = .ok doc ∧ w' = w ++ docWrites doc := by
  obtain ⟨dir, hdir, h⟩ := lift_bind_eq_ok h
  obtain ⟨u, hmk, h⟩ := lift_bind_eq_ok h
  obtain ⟨schema, hload, h⟩ := lift_bind_eq_ok (catchAll_false_eq_ok_true h)
  obtain ⟨lines, hmd, h⟩ := lift_bind_eq_ok h
  obtain ⟨v, hopen, h⟩ := lift_bind_eq_ok h
  obtain ⟨_, _, hm, h⟩ := bind_eq_ok h
  cases hm
  obtain ⟨text, hjoin, h⟩ := lift_bind_eq_ok h
  obtain ⟨_, _, hm, h⟩ := bind_eq_ok h
  cases hm
  cases h
  refine ⟨(outputFile dir (schemaName schemaFile), "\n".intercalate text), ?_, by simp [docWrites]⟩
  simp only [rendering, hdir, hmk, hload, hmd, hopen, hjoin, exceptOk_bind]
  rfl

/-! ## The loop -/

/-- A loop that returns `True` rendered every schema, in order, and wrote each
rendering after emptying its file. -/
theorem generateEach_true (repo : Repo) :
    ∀ (files : List String) {w w' : List (String × String)}, generateEach repo files w = .ok true w' →
      ∃ docs, files.mapM (rendering repo) = .ok docs ∧ w' = w ++ (docs.map docWrites).flatten
  | [], w, w', h => by
      cases h
      exact ⟨[], rfl, by simp⟩
  | schemaFile :: rest, w, w', h => by
      obtain ⟨b, w₁, hdoc, h⟩ := bind_eq_ok h
      cases b with
      | false => cases h
      | true =>
          obtain ⟨doc, hrender, rfl⟩ := generateDoc_true hdoc
          obtain ⟨docs, hdocs, rfl⟩ := generateEach_true repo rest h
          refine ⟨doc :: docs, ?_, by simp⟩
          rw [List.mapM_cons, hrender, exceptOk_bind, hdocs]
          rfl

/-- The last write to a path among the renderings' writes is the last
rendering to it. -/
theorem find?_writes (path : String) :
    ∀ docs : List (String × String), ((docs.map docWrites).flatten.reverse.find? (·.1 = path)) =
      docs.reverse.find? (·.1 = path)
  | [] => rfl
  | doc :: docs => by
      have ih := find?_writes path docs
      by_cases hd : doc.1 = path <;>
        simp [docWrites, List.find?_append, ih, hd]

/-- After a run of `generate_docs` that returns `True`, every schema `glob`
found was rendered, and each file holds the text of the last rendering written
to it, or its committed content when none was. -/
theorem generateDocs_contentAfter (repo : Repo) {w' : List (String × String)}
    (h : generateDocs repo [] = .ok true w') :
    ∃ files docs, repo.tree.globRecursive schemaPattern = .ok files ∧
      files.mapM (rendering repo) = .ok docs ∧
      ∀ path committed, contentAfter w' path committed =
        ((docs.reverse.find? (·.1 = path)).map (·.2)).getD committed := by
  unfold generateDocs at h
  obtain ⟨files, hfiles, h⟩ := lift_bind_eq_ok h
  obtain ⟨docs, hdocs, rfl⟩ := generateEach_true repo files h
  refine ⟨files, docs, hfiles, hdocs, fun path committed => ?_⟩
  rw [contentAfter, List.nil_append, find?_writes]

/-- Two schemas side by side, `a.yaml` and `a.yaml.yaml`. -/
def collidingTree : FileTree where
  entries := [(["eidc"], true), (["eidc", "schemas"], true), (["eidc", "schemas", "a.yaml"], false),
    (["eidc", "schemas", "a.yaml.yaml"], false)]
  nodup := by decide
  not_root := by decide
  ancestors_dirs := by decide
  valid_names := by decide

/-- Each schema loads with its path as its title. -/
def collidingRepo : Repo where
  tree := collidingTree
  cwd := ["work"]
  load f := .ok (.dict [(.str "title", .str f)])
  dump _ := ""
  makedirs _ := .ok ()
  openWrite _ := .ok ()
  committed := []

/-- Both schemas are rendered to `docs/generated/schemas/a.md`, and the file
keeps the second rendering. -/
theorem generateDocs_contentAfter_colliding :
    generateDocs collidingRepo [] = .ok true [("docs/generated/schemas/a.md", ""),
      ("docs/generated/schemas/a.md", "# eidc/schemas/a.yaml\n\n## Table of Contents\n"),
      ("docs/generated/schemas/a.md", ""),
      ("docs/generated/schemas/a.md", "# eidc/schemas/a.yaml.yaml\n\n## Table of Contents\n")] ∧
    ∃ files docs, collidingRepo.tree.globRecursive schemaPattern = .ok files ∧
      files.mapM (rendering collidingRepo) = .ok docs ∧
      ∀ path committed, contentAfter [("docs/generated/schemas/a.md", ""),
        ("docs/generated/schemas/a.md", "# eidc/schemas/a.yaml\n\n## Table of Contents\n"),
        ("docs/generated/schemas/a.md", ""),
        ("docs/generated/schemas/a.md", "# eidc/schemas/a.yaml.yaml\n\n## Table of Contents\n")] path committed =
        ((docs.reverse.find? (·.1 = path)).map (·.2)).getD committed :=
  have h : generateDocs collidingRepo [] = .ok true [("docs/generated/schemas/a.md", ""),
      ("docs/generated/schemas/a.md", "# eidc/schemas/a.yaml\n\n## Table of Contents\n"),
      ("docs/generated/schemas/a.md", ""),
      ("docs/generated/schemas/a.md", "# eidc/schemas/a.yaml.yaml\n\n## Table of Contents\n")] := rfl
  ⟨h, generateDocs_contentAfter collidingRepo h⟩

/-! ## Which schemas share a document -/

theorem joinComps_inj {cs cs' : List String} (hne : cs ≠ []) (hne' : cs' ≠ [])
    (h : ∀ c ∈ cs, '/' ∉ c.data) (h' : ∀ c ∈ cs', '/' ∉ c.data) :
    joinComps cs = joinComps cs' ↔ cs = cs' := by
  refine ⟨fun e => ?_, fun e => e ▸ rfl⟩
  rw [← splitSlash_joinComps hne h, ← splitSlash_joinComps hne' h', e]

/-- Documents of two lists of directories and two names are one file exactly
when the directories and the names are the same. -/
theorem docPath_eq_iff {dirs dirs' : List String} {name name' : String}
    (hdirs : ∀ d ∈ dirs, '/' ∉ d.data) (hdirs' : ∀ d ∈ dirs', '/' ∉ d.data)
    (hname : '/' ∉ name.data) (hname' : '/' ∉ name'.data) :
    docPath dirs name = docPath dirs' name' ↔ dirs = dirs' ∧ name = name' := by
  have hcs : ∀ (ds : List String) (n : String), (∀ d ∈ ds, '/' ∉ d.data) → '/' ∉ n.data →
      ∀ c ∈ "docs" :: "generated" :: ds ++ ["schemas", n ++ ".md"], '/' ∉ c.data :=
    fun ds n hds hn => List.forall_mem_append.2 ⟨List.forall_mem_cons.2 ⟨by decide,
      List.forall_mem_cons.2 ⟨by decide, hds⟩⟩, by simp [hn]⟩
  rw [docPath, docPath, joinComps_inj (by simp) (by simp) (hcs dirs name hdirs hname)
    (hcs dirs' name' hdirs' hname')]
  constructor
  · intro e
    simp only [List.cons_append, List.cons.injEq, true_and] at e
    have hlen : dirs.length = dirs'.length := by
      simpa using congrArg List.length e
    obtain ⟨rfl, hsuf⟩ := List.append_inj e hlen
    have hmd := congrArg String.data (List.cons.inj (List.cons.inj hsuf).2).1
    rw [String.data_append, String.data_append] at hmd
    exact ⟨rfl, String.ext (List.append_cancel_right hmd)⟩
  · rintro ⟨rfl, rfl⟩
    rfl

/-- The name a schema file's document takes: its name with every `.yaml`
deleted. -/
def docName (file : String) : String :=
  ⟨replace file.data ".yaml".data []⟩

/-- Two schemas `glob` can find are documented in one file exactly when they
are in the same directory and their file names agree once every `.yaml` in
them is deleted. -/
theorem docOf_schemaPath_eq_iff {cwd dirs dirs' : List String} {file file' : String}
    (hcwd : ∀ c ∈ cwd, Ordinary c) (hdirs : ∀ d ∈ dirs, ValidName d) (hdirs' : ∀ d ∈ dirs', ValidName d)
    (hfile : ValidName file) (hfile' : ValidName file') {p p' : String}
    (hp : DocOf cwd (schemaPath dirs file) p) (hp' : DocOf cwd (schemaPath dirs' file') p') :
    p = p' ↔ dirs = dirs' ∧ docName file = docName file' := by
  have hdoc : ∀ {ds : List String} {f q : String}, (∀ d ∈ ds, ValidName d) → ValidName f →
      DocOf cwd (schemaPath ds f) q → q = ⟨docPath ds (docName f)⟩ ∧ '/' ∉ (docName f).data := by
    intro ds f q hds hf hq
    obtain ⟨dir, hdir, rfl⟩ := hq
    rw [outputDir_schemaPath hcwd hds hf.component] at hdir
    cases hdir
    have hname : '/' ∉ (docName f).data :=
      fun h => hf.2.2.2.1 ((replace_nil_sublist f.data ".yaml".data).subset h)
    rw [schemaName_schemaPath hds hf.component]
    exact ⟨outputFile_docs hds hname, hname⟩
  obtain ⟨rfl, hn⟩ := hdoc hdirs hfile hp
  obtain ⟨rfl, hn'⟩ := hdoc hdirs' hfile' hp'
  rw [String.ext_iff]
  exact docPath_eq_iff (fun d hd => (hdirs d hd).2.2.2.1) (fun d hd => (hdirs' d hd).2.2.2.1) hn hn'

/-- `eidc/schemas/a.yaml` and `eidc/schemas/a.yaml.yaml` share a document. -/
theorem docOf_schemaPath_eq_iff_yaml :
    DocOf [] (schemaPath [] "a.yaml") "docs/generated/schemas/a.md" ∧
      DocOf [] (schemaPath [] "a.yaml.yaml") "docs/generated/schemas/a.md" ∧
      ("docs/generated/schemas/a.md" = "docs/generated/schemas/a.md" ↔
        ([] : List String) = [] ∧ docName "a.yaml" = docName "a.yaml.yaml") :=
  have h : DocOf [] (schemaPath [] "a.yaml") "docs/generated/schemas/a.md" := ⟨_, rfl, rfl⟩
  have h' : DocOf [] (schemaPath [] "a.yaml.yaml") "docs/generated/schemas/a.md" := ⟨_, rfl, rfl⟩
  ⟨h, h', docOf_schemaPath_eq_iff (by simp) (by simp) (by simp) (by decide) (by decide) h h'⟩

end TfK8s.Ci
