import TfK8s.Ci.DocsDrift
import TfK8s.Proofs.GlobRecursive
import Mathlib.Data.String.Basic

/-!
# `check_docs_drift` passes the documents it regenerates

`generate_docs` writes the rendering of `eidc/<dirs>/schemas/<name>.yaml` to
`docs/generated/<dirs>/schemas/<name>.md`: it takes the schema's directory
relative to `eidc`, so the `eidc/` of the schema's path is gone from the
document's. `check_docs_drift` keeps a changed file only if `eidc/` occurs in
its path. In a generated path that needs one of the directories under `eidc`
to have a name ending in `eidc`, and nothing in the layout puts one there. So a
regenerated document whose content changed is not reported, and the job passes.

The proof goes in three steps. The first is where a schema's document is
written, from `relpath` and `os.path.join` on paths of ordinary names. The
second is which generated paths contain `eidc/`: a `/`-joined path contains it
exactly where a component ends in `eidc`. The third follows a run: the job
writes only documents, git lists only files written with new content, and each
line `split('\n')` makes of git's output lies inside one listed path.
-/

namespace TfK8s.Ci

open Py FileTree Script

/-! ## Where a schema's document goes -/

/-- A schema as `glob` finds it: `eidc/<dirs>/schemas/<file>`. -/
def schemaPath (dirs : List String) (file : String) : String :=
  ⟨joinComps ("eidc" :: dirs ++ ["schemas", file])⟩

/-- The document `generate_docs` writes for it. -/
def docPath (dirs : List String) (name : String) : List Char :=
  joinComps ("docs" :: "generated" :: dirs ++ ["schemas", name ++ ".md"])

/-- `relpath` of a directory below `eidc`, from `eidc`: its components after
`eidc`, whatever the working directory. -/
theorem relpath_eidc {cwd rest : List String} (hcwd : ∀ c ∈ cwd, Ordinary c)
    (hrest : ∀ c ∈ rest, ValidName c) (hne : rest ≠ []) :
    relpath cwd (joinComps ("eidc" :: rest)) "eidc".data = .ok (joinComps rest) := by
  obtain ⟨d, rest', rfl⟩ := List.exists_cons_of_ne_nil hne
  have hbase : ∀ c ∈ cwd ++ ["eidc"], Ordinary c := List.forall_mem_append.2 ⟨hcwd, by decide⟩
  have hstart : absComps cwd "eidc".data = cwd ++ ["eidc"] :=
    absComps_relative (by decide) rfl hbase
  have hsplit : (splitSlash (joinComps ("eidc" :: d :: rest'))).map String.mk = "eidc" :: d :: rest' :=
    splitSlash_joinComps (List.cons_ne_nil _ _)
      (List.forall_mem_cons.2 ⟨by decide, fun c hc => (hrest c hc).2.2.2.1⟩)
  have hpath : absComps cwd (joinComps ("eidc" :: d :: rest')) = (cwd ++ ["eidc"]) ++ d :: rest' := by
    rw [absComps_relative (by simp [joinComps_cons_cons]) hsplit (List.forall_mem_append.2
      ⟨hcwd, List.forall_mem_cons.2 ⟨by decide, fun c hc => (hrest c hc).ordinary⟩⟩)]
    simp
  rw [relpath, if_neg (by simp [joinComps_cons_cons]), hstart, hpath]
  simp only [commonLength_self_append, Nat.sub_self, List.replicate_zero, List.nil_append,
    List.drop_left]

theorem schemaPath_data (dirs : List String) (file : String) :
    (schemaPath dirs file).data = joinComps (("eidc" :: dirs ++ ["schemas"]) ++ [file]) := by
  simp [schemaPath]

section Layout

variable {cwd dirs : List String} {file : String}

/-- The names of a schema's directory. -/
theorem component_schemaDir (hdirs : ∀ d ∈ dirs, ValidName d) :
    ∀ c ∈ "eidc" :: dirs ++ ["schemas"], Component c :=
  List.forall_mem_cons.2 ⟨by decide, List.forall_mem_append.2
    ⟨fun d hd => (hdirs d hd).component, by decide⟩⟩

/-- The schema's name depends on its file name alone. -/
theorem schemaName_schemaPath (hdirs : ∀ d ∈ dirs, ValidName d) (hfile : Component file) :
    schemaName (schemaPath dirs file) = ⟨replace file.data ".yaml".data []⟩ := by
  rw [schemaName, schemaPath_data, pathSplit_joinComps (by simp) (component_schemaDir hdirs) hfile]

/-- The directory `generate_docs` makes for a schema: `docs/generated/<dirs>/schemas`. -/
theorem outputDir_schemaPath (hcwd : ∀ c ∈ cwd, Ordinary c) (hdirs : ∀ d ∈ dirs, ValidName d)
    (hfile : Component file) :
    outputDir cwd (schemaPath dirs file) =
      .ok ⟨joinComps ("docs" :: "generated" :: dirs ++ ["schemas"])⟩ := by
  have hrest : ∀ c ∈ dirs ++ ["schemas"], ValidName c := List.forall_mem_append.2 ⟨hdirs, by decide⟩
  rw [outputDir, schemaPath_data, pathSplit_joinComps (by simp) (component_schemaDir hdirs) hfile,
    List.cons_append, relpath_eidc hcwd hrest (by simp)]
  exact congrArg (Except.ok ∘ String.mk) (pathJoin_joinComps
    (show ["docs", "generated"] ≠ [] by simp) (by simp) (by decide) (fun c hc => (hrest c hc).component))

/-- The file `generate_docs` writes in that directory for a schema named `name`. -/
theorem outputFile_docs {name : String} (hdirs : ∀ d ∈ dirs, ValidName d) (hname : '/' ∉ name.data) :
    outputFile ⟨joinComps ("docs" :: "generated" :: dirs ++ ["schemas"])⟩ name =
      ⟨docPath dirs name⟩ := by
  have hdir : ∀ c ∈ "docs" :: "generated" :: dirs ++ ["schemas"], Component c :=
    List.forall_mem_cons.2 ⟨by decide, List.forall_mem_cons.2 ⟨by decide,
      (List.forall_mem_cons.1 (component_schemaDir hdirs)).2⟩⟩
  have hmd : Component (name ++ ".md") := ⟨by simp, by simp [hname]⟩
  rw [outputFile, docPath, ← joinComps_singleton (name ++ ".md"),
    pathJoin_joinComps (by simp) (by simp) hdir (by simpa using hmd)]
  simp

end Layout

/-! ## What the job globs -/

theorem validName_of_dir {t : FileTree} {q : List String} (hq : ("eidc" :: q, true) ∈ t.entries) :
    ∀ c ∈ q, ValidName c := fun c hc => t.valid_names _ hq c (List.mem_cons_of_mem _ hc)

/-- The directories `eidc/**/schemas` finds: `eidc/<dirs>/schemas`, where
`eidc/<dirs>` is `eidc` itself or a directory of the tree below it. -/
theorem schemaDir_of_rlistdir {t : FileTree} {rs : List (List Char)} {r : List Char}
    (hrs : t.rlistdir (t.entries.length + 1) "eidc".data true = .ok rs) (hr : r ∈ [] :: rs) :
    ∃ dirs, pathJoin (pathJoin "eidc".data r) "schemas".data = joinComps ("eidc" :: dirs ++ ["schemas"]) ∧
      (dirs = [] ∨ ("eidc" :: dirs, true) ∈ t.entries) := by
  rcases List.mem_cons.1 hr with rfl | hr
  · exact ⟨[], by decide, .inl rfl⟩
  · obtain ⟨q, hq, rfl, hqd⟩ := t.rlistdir_dirs _ (List.cons_ne_nil _ _)
      (show ∀ n ∈ ["eidc"], ValidName n by decide) hrs r hr
    have hqc : ∀ c ∈ q, Component c := fun c hc => (validName_of_dir hqd c hc).component
    refine ⟨q, ?_, .inr hqd⟩
    rw [show "eidc".data = joinComps ["eidc"] from rfl, pathJoin_joinComps (by simp) hq (by decide) hqc,
      show "schemas".data = joinComps ["schemas"] from rfl,
      pathJoin_joinComps (by simp) (by simp) (by simpa using ⟨by decide, hqc⟩) (by decide)]
    rfl

/-- What `glob('eidc/**/schemas/*.yaml', recursive=True)` finds: `eidc/<dirs>/schemas/<file>`,
where `eidc/<dirs>` is `eidc` itself or a directory of the tree below it. -/
theorem globRecursive_schemaPattern {t : FileTree} {files : List String}
    (h : t.globRecursive schemaPattern = .ok files) :
    ∀ f ∈ files, ∃ dirs file, f = schemaPath dirs file ∧ ValidName file ∧
      (dirs = [] ∨ ("eidc" :: dirs, true) ∈ t.entries) := by
  unfold globRecursive schemaPattern at h
  rw [show "eidc/**/schemas/*.yaml".length + 1 = 22 + 1 from rfl,
    t.iglobRecursive_succ (show pathSplit "eidc/**/schemas/*.yaml".data =
      ("eidc/**/schemas".data, "*.yaml".data) by decide) (by decide) (by decide), if_pos (by decide),
    t.iglobRecursive_succ (show pathSplit "eidc/**/schemas".data = ("eidc/**".data, "schemas".data) by
      decide) (by decide) (by decide), if_pos (by decide),
    t.iglobRecursive_succ (show pathSplit "eidc/**".data = ("eidc".data, "**".data) by decide)
      (by decide) (by decide), if_neg (by decide)] at h
  simp only [show ¬List.take 2 "eidc/**/schemas/*.yaml".data = "**".data by decide,
    show "schemas".data ≠ "**".data by decide, show "*.yaml".data ≠ "**".data by decide,
    show hasMagic "schemas".data = false from rfl, show hasMagic "*.yaml".data = true from rfl,
    if_true, if_false, Bool.false_eq_true, pure_bind, List.mapM_cons, List.mapM_nil] at h
  obtain ⟨found, hfound, h⟩ := exceptBind_eq_ok h
  cases h
  obtain ⟨dirs3, hdirs3, hfound⟩ := exceptBind_eq_ok hfound
  obtain ⟨found3, hfound3, h⟩ := exceptBind_eq_ok hfound
  cases h
  obtain ⟨dirs2, hdirs2, h⟩ := exceptBind_eq_ok hdirs3
  obtain ⟨found2, hfound2, h⟩ := exceptBind_eq_ok h
  cases h
  obtain ⟨found1, hfound1, h⟩ := exceptBind_eq_ok hdirs2
  cases h
  obtain ⟨lifted, hlifted, h⟩ := exceptBind_eq_ok hfound1
  cases h
  obtain ⟨rs, hrs, h⟩ := exceptBind_eq_ok hlifted
  cases h
  obtain ⟨rs', hrs', h⟩ := exceptBind_eq_ok hrs
  cases h
  intro f hf
  obtain ⟨p, hp, rfl⟩ := List.mem_map.1 hf
  obtain ⟨z3, hz3, hpz⟩ := List.mem_flatten.1 hp
  obtain ⟨d3, hd3, hg3⟩ := mem_of_mapM_eq_ok hfound3 z3 hz3
  obtain ⟨names, hnames, h⟩ := exceptBind_eq_ok hg3
  cases h
  obtain ⟨n, hn, rfl⟩ := List.mem_map.1 hpz
  obtain ⟨m, hm, rfl⟩ := t.validName_of_glob1 hnames n hn
  obtain ⟨z2, hz2, hdz⟩ := List.mem_flatten.1 hd3
  obtain ⟨d2, hd2, hg2⟩ := mem_of_mapM_eq_ok hfound2 z2 hz2
  cases hg2
  obtain ⟨s, hs, rfl⟩ := List.mem_map.1 hdz
  rw [t.mem_glob0 hs]
  obtain ⟨r, hr, rfl⟩ := List.mem_map.1
    (by simpa only [List.flatten_cons, List.flatten_nil, List.append_nil] using hd2)
  obtain ⟨dirs, hdir, hdirs⟩ := schemaDir_of_rlistdir hrs' hr
  have hdc : ∀ c ∈ "eidc" :: dirs ++ ["schemas"], Component c := by
    rcases hdirs with rfl | hd
    · decide
    · exact component_schemaDir (validName_of_dir hd)
  refine ⟨dirs, m, ?_, hm, hdirs⟩
  rw [schemaPath, show ['s', 'c', 'h', 'e', 'm', 'a', 's'] = "schemas".data from rfl, hdir,
    ← joinComps_singleton m, pathJoin_joinComps (by simp) (by simp) hdc (by simpa using hm.component)]
  simp

/-! ## The filter -/

/-- `w/` occurs in a `/`-joined path exactly where a component other than the
last ends in `w`. -/
theorem sep_infix_joinComps {w : List Char} (hw : '/' ∉ w) :
    ∀ {cs : List String}, (∀ c ∈ cs, '/' ∉ c.data) →
      ((w ++ ['/']) <:+: joinComps cs ↔ ∃ c ∈ cs.dropLast, w <:+ c.data)
  | [], _ => by simp
  | [c], h => by
      simp only [joinComps_singleton, List.dropLast_single, List.not_mem_nil, false_and,
        exists_false, iff_false]
      exact fun hi => h c (List.mem_singleton_self _) (hi.subset (by simp))
  | c :: d :: rest, h => by
      obtain ⟨hc, hrest⟩ := List.forall_mem_cons.1 h
      rw [joinComps_cons_cons, append_sep_infix_iff hw hc, sep_infix_joinComps hw hrest,
        List.dropLast_cons₂]
      simp only [List.mem_cons, or_and_right, exists_or, exists_eq_left]

section DocPath

variable {dirs : List String} {name : String}

theorem docPath_comps :
    "docs" :: "generated" :: dirs ++ ["schemas", name ++ ".md"] =
      ("docs" :: "generated" :: dirs ++ ["schemas"]) ++ [name ++ ".md"] := by
  simp

/-- `eidc/` occurs in a document's path exactly when one of the directories
between `eidc` and `schemas` has a name ending in `eidc`. -/
theorem eidc_infix_docPath (hdirs : ∀ d ∈ dirs, '/' ∉ d.data) (hname : '/' ∉ name.data) :
    "eidc/".data <:+: docPath dirs name ↔ ∃ d ∈ dirs, "eidc".data <:+ d.data := by
  have hcs : ∀ c ∈ "docs" :: "generated" :: dirs ++ ["schemas", name ++ ".md"], '/' ∉ c.data :=
    List.forall_mem_append.2 ⟨List.forall_mem_cons.2 ⟨by decide, List.forall_mem_cons.2
      ⟨by decide, hdirs⟩⟩, by simp [hname]⟩
  rw [docPath, show "eidc/".data = "eidc".data ++ ['/'] from rfl, sep_infix_joinComps (by decide) hcs,
    docPath_comps, List.dropLast_concat]
  constructor
  · rintro ⟨c, hc, hs⟩
    simp only [List.mem_append, List.mem_cons, List.mem_singleton, List.not_mem_nil, or_false] at hc
    rcases hc with (rfl | rfl | hc) | rfl
    · exact absurd hs (by decide)
    · exact absurd hs (by decide)
    · exact ⟨c, hc, hs⟩
    · exact absurd hs (by decide)
  · rintro ⟨d, hd, hs⟩
    exact ⟨d, by simp [hd], hs⟩

end DocPath

/-- `path` is where `generate_docs` writes the document of `schemaFile`. -/
def DocOf (cwd : List String) (schemaFile path : String) : Prop :=
  ∃ dir, outputDir cwd schemaFile = .ok dir ∧ path = outputFile dir (schemaName schemaFile)

/-- Every directory on the way to a directory below `eidc` is one. -/
theorem dir_of_mem {t : FileTree} {dirs : List String} (hd : ("eidc" :: dirs, true) ∈ t.entries)
    {d : String} (hmem : d ∈ dirs) : ∃ p, ("eidc" :: p ++ [d], true) ∈ t.entries := by
  obtain ⟨p, s, rfl⟩ := List.append_of_mem hmem
  refine ⟨p, ?_⟩
  by_cases hs : s = []
  · subst hs
    simpa using hd
  · rcases t.ancestors_dirs _ hd ("eidc" :: p ++ [d]) ((List.mem_inits _ _).2 ⟨s, by simp⟩)
      (by simpa [eq_comm] using hs) with h | h
    · simp at h
    · exact h

/-- Where no directory below `eidc` has a name ending in `eidc`, the path of
no document the job writes has `eidc/` in it. -/
theorem not_eidc_infix_of_docOf {repo : Repo} (hcwd : ∀ c ∈ repo.cwd, Ordinary c)
    (htree : ∀ p d, ("eidc" :: p ++ [d], true) ∈ repo.tree.entries → ¬"eidc".data <:+ d.data)
    {files : List String} (hfiles : repo.tree.globRecursive schemaPattern = .ok files)
    {f p : String} (hf : f ∈ files) (hp : DocOf repo.cwd f p) : ¬"eidc/".data <:+: p.data := by
  obtain ⟨dirs, file, rfl, hfile, hdirs⟩ := globRecursive_schemaPattern hfiles f hf
  have hvalid : ∀ d ∈ dirs, ValidName d := by
    rcases hdirs with rfl | hd
    · simp
    · exact validName_of_dir hd
  obtain ⟨dir, hdir, rfl⟩ := hp
  rw [outputDir_schemaPath hcwd hvalid hfile.component] at hdir
  cases hdir
  have hname : '/' ∉ (⟨replace file.data ".yaml".data []⟩ : String).data :=
    fun h => hfile.2.2.2.1 ((replace_nil_sublist file.data ".yaml".data).subset h)
  rw [schemaName_schemaPath hvalid hfile.component, outputFile_docs hvalid hname,
    eidc_infix_docPath (fun d hd => (hvalid d hd).2.2.2.1) hname]
  rintro ⟨d, hd, hs⟩
  rcases hdirs with rfl | hdirs
  · cases hd
  · obtain ⟨q, hq⟩ := dir_of_mem hdirs hd
    exact htree q d hq hs

/-! ## What a run writes -/

/-- Every file the step writes, whether it returns or raises, has a path `P`
accepts, and the earlier writes stay. -/
def WritesOnly {α : Type} (P : String → Prop) (x : Job α) : Prop :=
  ∀ s, ∃ new, stateOf (x s) = s ++ new ∧ ∀ w ∈ new, P w.1

section WritesOnly

variable {α β : Type} {P Q : String → Prop}

theorem writesOnly_pure (a : α) : WritesOnly P (pure a) := fun s => ⟨[], by simp, by simp⟩

theorem writesOnly_lift (e : Except PyExc α) : WritesOnly P (Script.lift e) := fun s =>
  ⟨[], by cases e <;> simp, by simp⟩

theorem writesOnly_write {path : String} (text : String) (h : P path) :
    WritesOnly P (modify (· ++ [(path, text)])) := fun _ =>
  ⟨[(path, text)], rfl, by simpa using h⟩

theorem WritesOnly.mono {x : Job α} (hx : WritesOnly P x) (h : ∀ p, P p → Q p) : WritesOnly Q x :=
  fun s => (hx s).imp fun _ ⟨hs, hw⟩ => ⟨hs, fun w hw' => h _ (hw w hw')⟩

theorem WritesOnly.bind {x : Job α} {f : α → Job β} (hx : WritesOnly P x)
    (hf : ∀ a, WritesOnly P (f a)) : WritesOnly P (x >>= f) := fun s => by
  obtain ⟨new, hnew, hw⟩ := hx s
  cases h : x s with
  | ok a s₁ =>
      obtain ⟨new', hnew', hw'⟩ := hf a s₁
      rw [h, stateOf_ok] at hnew
      refine ⟨new ++ new', ?_, List.forall_mem_append.2 ⟨hw, hw'⟩⟩
      rw [bind_of_ok h, hnew', hnew, List.append_assoc]
  | error e s₁ => exact ⟨new, by rw [bind_of_error h]; simpa [h] using hnew, hw⟩

theorem WritesOnly.lift_bind {e : Except PyExc α} {f : α → Job β}
    (hf : ∀ a, e = .ok a → WritesOnly P (f a)) : WritesOnly P (Script.lift e >>= f) := by
  cases e with
  | ok a => exact hf a rfl
  | error e => exact fun s => ⟨[], by simp, by simp⟩

theorem WritesOnly.catchAll {x : Job α} {handler : PyExc → Job α} (hx : WritesOnly P x)
    (hh : ∀ e, WritesOnly P (handler e)) : WritesOnly P (Script.catchAll x handler) := fun s => by
  obtain ⟨new, hnew, hw⟩ := hx s
  cases h : x s with
  | ok a s₁ => exact ⟨new, by rw [catchAll_of_ok h]; simpa [h] using hnew, hw⟩
  | error e s₁ =>
      obtain ⟨new', hnew', hw'⟩ := hh e s₁
      rw [h, stateOf_error] at hnew
      refine ⟨new ++ new', ?_, List.forall_mem_append.2 ⟨hw, hw'⟩⟩
      rw [catchAll_of_error h, hnew', hnew, List.append_assoc]

end WritesOnly

/-- One pass of the loop writes only its schema's document. -/
theorem writesOnly_generateDoc (repo : Repo) (schemaFile : String) :
    WritesOnly (DocOf repo.cwd schemaFile) (generateDoc repo schemaFile) := by
  unfold generateDoc
  exact WritesOnly.lift_bind fun dir hdir => (writesOnly_lift _).bind fun _ =>
    .catchAll ((writesOnly_lift _).bind fun _ => (writesOnly_lift _).bind fun _ =>
      (writesOnly_lift _).bind fun _ => (writesOnly_write _ ⟨dir, hdir, rfl⟩).bind fun _ =>
      (writesOnly_lift _).bind fun _ => (writesOnly_write _ ⟨dir, hdir, rfl⟩).bind fun _ =>
      writesOnly_pure _) fun _ => writesOnly_pure _

theorem writesOnly_generateEach (repo : Repo) :
    ∀ files : List String,
      WritesOnly (fun p => ∃ f ∈ files, DocOf repo.cwd f p) (generateEach repo files)
  | [] => writesOnly_pure _
  | f :: rest =>
      ((writesOnly_generateDoc repo f).mono fun _ hp => ⟨f, List.mem_cons_self _ _, hp⟩).bind
        fun b => by
          cases b
          · exact writesOnly_pure _
          · exact (writesOnly_generateEach repo rest).mono
              fun _ ⟨g, hg, hp⟩ => ⟨g, List.mem_cons_of_mem _ hg, hp⟩

/-- `generate_docs()` writes only documents of the schemas `glob` found. -/
theorem writesOnly_generateDocs (repo : Repo) :
    WritesOnly (fun p => ∃ files, repo.tree.globRecursive schemaPattern = .ok files ∧
      ∃ f ∈ files, DocOf repo.cwd f p) (generateDocs repo) :=
  WritesOnly.lift_bind fun files hfiles =>
    (writesOnly_generateEach repo files).mono fun _ hp => ⟨files, hfiles, hp⟩

/-! ## What git lists and the filter keeps -/

theorem written_of_contentAfter_ne {writes : List (String × String)} {path committed : String}
    (h : contentAfter writes path committed ≠ committed) : ∃ w ∈ writes, w.1 = path := by
  unfold contentAfter at h
  cases hf : writes.reverse.find? (·.1 = path) with
  | none => rw [hf] at h; exact absurd rfl h
  | some w =>
      exact ⟨w, List.mem_reverse.1 (List.mem_of_find?_eq_some hf), by simpa using List.find?_some hf⟩

/-- Text without a newline that occurs in what `git diff --name-only` prints
occurs in the path of a file the job wrote. -/
theorem infix_gitDiffNames {repo : Repo} {writes : List (String × String)} {u : List Char}
    (hu : '\n' ∉ u) (hne : u ≠ []) (h : u <:+: (gitDiffNames repo writes).data) :
    ∃ w ∈ writes, u <:+: w.1.data := by
  have hdata : (gitDiffNames repo writes).data =
      (((repo.committed.filter fun e => contentAfter writes e.1 e.2 ≠ e.2).map
        fun e => e.1.data).map (· ++ ['\n'])).flatten := by
    simp [gitDiffNames, String.data_join, Function.comp_def]
  rw [hdata] at h
  obtain ⟨p, hp, hup⟩ := infix_of_infix_lines hu hne h
  obtain ⟨e, he, rfl⟩ := List.mem_map.1 hp
  obtain ⟨w, hw, hwe⟩ := written_of_contentAfter_ne (by simpa using (List.mem_filter.1 he).2)
  exact ⟨w, hw, hwe ▸ hup⟩

/-- The filter keeps nothing of output in which `eidc/` does not occur. -/
theorem changedMdFiles_eq_nil {stdout : String} (h : ¬"eidc/".data <:+: stdout.data) :
    changedMdFiles stdout = [] := by
  refine List.filter_eq_nil_iff.2 fun f hf hdoc => h ?_
  obtain ⟨piece, hpiece, rfl⟩ := List.mem_map.1 hf
  exact ((isSubstr_iff _ _).1 (Bool.and_eq_true _ _ ▸ hdoc).2).trans
    ((infix_of_mem_splitChar hpiece).trans (infix_stripSpace _))

/-- Where no directory below `eidc` has a name ending in `eidc`, a run of
`generate_docs` that succeeds is followed by a check that finds no drift,
whatever the regenerated documents hold. -/
theorem checkDocsDrift_ignores_regenerated {repo : Repo} (hcwd : ∀ c ∈ repo.cwd, Ordinary c)
    (htree : ∀ p d, ("eidc" :: p ++ [d], true) ∈ repo.tree.entries → ¬"eidc".data <:+ d.data)
    {writes : List (String × String)} (hgen : generateDocs repo [] = .ok true writes) :
    checkDocsDrift repo = .ok true := by
  have hnot : ¬"eidc/".data <:+: (gitDiffNames repo writes).data := fun h => by
    obtain ⟨w, hw, hinf⟩ := infix_gitDiffNames (by decide) (by decide) h
    obtain ⟨new, hnew, hP⟩ := writesOnly_generateDocs repo []
    rw [hgen, stateOf_ok, List.nil_append] at hnew
    obtain ⟨files, hfiles, f, hf, hdoc⟩ := hP w (hnew ▸ hw)
    exact not_eidc_infix_of_docOf hcwd htree hfiles hf hdoc hinf
  delta checkDocsDrift
  rw [hgen]
  exact congrArg (Except.ok ∘ List.isEmpty) (changedMdFiles_eq_nil hnot)

/-- A checkout with one schema, `eidc/core/schemas/scenario.yaml`, and its
document committed as the schema rendered before. -/
def driftTree : FileTree where
  entries := [(["docs"], true), (["docs", "generated"], true), (["docs", "generated", "core"], true),
    (["docs", "generated", "core", "schemas"], true),
    (["docs", "generated", "core", "schemas", "scenario.md"], false),
    (["eidc"], true), (["eidc", "core"], true), (["eidc", "core", "schemas"], true),
    (["eidc", "core", "schemas", "scenario.yaml"], false)]
  nodup := by decide
  not_root := by decide
  ancestors_dirs := by decide
  valid_names := by decide

/-- The job's view of that checkout: the schema loads as a mapping with a
title, and the committed document has a description the schema no longer has. -/
def driftRepo : Repo where
  tree := driftTree
  cwd := ["work"]
  load _ := .ok (.dict [(.str "title", .str "Scenario")])
  dump _ := ""
  makedirs _ := .ok ()
  openWrite _ := .ok ()
  committed := [("docs/generated/core/schemas/scenario.md", "# Scenario\n\nOld text\n")]

theorem checkDocsDrift_ignores_regenerated_drift :
    (∀ c ∈ driftRepo.cwd, Ordinary c) ∧
      (∀ p d, ("eidc" :: p ++ [d], true) ∈ driftRepo.tree.entries → ¬"eidc".data <:+ d.data) ∧
      checkDocsDrift driftRepo = .ok true := by
  have hcwd : ∀ c ∈ driftRepo.cwd, Ordinary c := by decide
  have htree : ∀ p d, ("eidc" :: p ++ [d], true) ∈ driftRepo.tree.entries → ¬"eidc".data <:+ d.data := by
    intro p d h
    simp [driftRepo, driftTree] at h
    rcases h with h | h <;>
    · obtain rfl : d = _ := by simpa using congrArg List.getLast? h
      decide
  exact ⟨hcwd, htree, checkDocsDrift_ignores_regenerated hcwd htree rfl⟩

/-- On that checkout `generate_docs` rewrites the tracked document with new
text, git lists it, and `check_docs_drift` still reports no drift. -/
theorem checkDocsDrift_misses_drift :
    generateDocs driftRepo [] = .ok true [("docs/generated/core/schemas/scenario.md", ""),
      ("docs/generated/core/schemas/scenario.md", "# Scenario\n\n## Table of Contents\n")] ∧
    gitDiffNames driftRepo [("docs/generated/core/schemas/scenario.md", ""),
      ("docs/generated/core/schemas/scenario.md", "# Scenario\n\n## Table of Contents\n")] =
        "docs/generated/core/schemas/scenario.md\n" ∧
    checkDocsDrift driftRepo = .ok true :=
  ⟨rfl, rfl, rfl⟩

end TfK8s.Ci
