import TfK8s.Proofs.Acceptance
import TfK8s.Proofs.Verdict
import TfK8s.Proofs.ReportPath

/-!
# What the validator guarantees the runner, and what it does not

The validator and the runner read the same document with different
operations. The validator tests criteria with `in`, which on a string is a
substring test, and scans commands with `any`, which stops at its first hit;
the runner calls `.get` on every criterion and `.replace` on every command it
sends. Neither checks what the names and thresholds copied into the report
are, and `json.dump` refuses a date or a set among them; nor how long the
identifier is, and the report's file name is that identifier and 21 more
characters, against Linux's limit of 255 bytes.

So acceptance alone does not make `run_scenario` and `save_results` return: a
criterion written as the string `name threshold metric` passes the validator
and makes `run_scenario` raise `AttributeError`. What acceptance does give is
everything else the runner needs: a `str` identifier of the validator's
grammar, steps that are mappings with iterable commands, and iterable
criteria. `runnerReady` states the rest as a decidable check, the commands
that `/bin/sh` must be started on among it, and with it both calls return for
every shell and clock, on any file system that accepts a well-formed file name
in the output directory.
-/

namespace TfK8s.Runner

open Py Script Validator

/-- `for x in v.get(key, [])`: the values the loop visits, or what it raises. -/
def elementsOf (v : PyVal) (key : String) : Except PyExc (List PyVal) :=
  v.get key (.list []) >>= PyVal.iter

/-- The values of `elementsOf`, none when it raises. -/
def listed (v : PyVal) (key : String) : List PyVal :=
  match elementsOf v key with
  | .ok xs => xs
  | .error _ => []

/-- `isinstance(v, str)`. -/
def isString : PyVal → Bool
  | .str _ => true
  | _ => false

/-- `isinstance(v, dict)`. -/
def isDict : PyVal → Bool
  | .dict _ => true
  | _ => false

theorem eq_str_of_isString {v : PyVal} (h : isString v = true) : ∃ s, v = .str s := by
  cases v <;> first | exact ⟨_, rfl⟩ | cases h

theorem eq_dict_of_isDict {v : PyVal} (h : isDict v = true) : ∃ kvs, v = .dict kvs := by
  cases v <;> first | exact ⟨_, rfl⟩ | cases h

/-- A command the runner can hand to `/bin/sh` once `{namespace}` is
replaced: a `str`, with no NUL and under 128 KiB after the replacement. -/
def commandLaunches (ns : String) : PyVal → Bool
  | .str s => argvOk (shellArgv (substitute ns s))
  | _ => false

/-- What `run_scenario` and `save_results` need of a document beyond what the
validator checks, on the namespace `ns`: every command one that can be
launched, every criterion a mapping, the names and thresholds the report
copies writable as JSON, and an identifier of at most 234 characters. -/
def runnerReady (ns : String) (scenario : PyVal) : Bool :=
  (listed scenario "steps").all (fun step =>
      (listed step "commands").all (commandLaunches ns) &&
        (field step "name" .none).jsonEncode.isOk) &&
    (listed scenario "success_criteria").all (fun c =>
      isDict c && (field c "name" .none).jsonEncode.isOk &&
        (field c "threshold" .none).jsonEncode.isOk) &&
    match scenarioIdOf scenario with
    | .ok (.str id) => id.length ≤ 234
    | _ => true

/-! ## What acceptance gives the runner -/

theorem accepted_shape {scenario : PyVal} (h : Accepted scenario) :
    (∃ id, scenarioIdOf scenario = .ok (.str id) ∧ reMatch idPattern id = true) ∧
      (∃ steps, elementsOf scenario "steps" = .ok steps ∧
        ∀ step ∈ steps, (∃ kvs, step = .dict kvs) ∧ ∃ cmds, elementsOf step "commands" = .ok cmds) ∧
      ∃ criteria, elementsOf scenario "success_criteria" = .ok criteria := by
  obtain ⟨hsec, hmeta, -, hsteps, hcrit⟩ := h.sections
  obtain ⟨metadata, id, hm, hid, hre⟩ := checkMetadata_clean hmeta (hsec _ (by simp [requiredSections]))
  obtain ⟨sv, hsv, steps, hl, _, hkept⟩ := checkSteps_clean hsteps (hsec _ (by simp [requiredSections]))
  obtain ⟨cv, hcv, crits, hc⟩ := checkCriteria_clean hcrit (hsec _ (by simp [requiredSections]))
  refine ⟨⟨id, ?_, hre⟩, ⟨steps, ?_, stepsMentioning_ok hkept⟩, crits, ?_⟩
  · simp only [scenarioIdOf, PyVal.get_of_subscript _ hm, exceptOk_bind, PyVal.get_of_subscript _ hid]
  · simp only [elementsOf, PyVal.get_of_subscript _ hsv]; exact hl
  · simp only [elementsOf, PyVal.get_of_subscript _ hcv]; exact hc

/-! ## The loops return -/

theorem runCommands_ok (shell : Shell) (ns : String) :
    ∀ {cmds : List PyVal}, (∀ c ∈ cmds, commandLaunches ns c = true) →
      ∀ (l : CmdLocals) (hist : List String), ∃ c s, runCommands shell ns cmds l hist = .ok c s
  | [], _, l, hist => ⟨l, hist, rfl⟩
  | cmd :: rest, h, _, hist => by
      have hc := h cmd (List.mem_cons_self _ _)
      cases cmd with
      | str s =>
          simp only [runCommands, replace_namespace, lift_ok_bind, checkOutput_bind_of_argvOk hc]
          cases shell hist (substitute ns s) with
          | ok _ => exact runCommands_ok shell ns (fun c hc => h c (List.mem_cons_of_mem _ hc)) _ _
          | error _ => exact ⟨_, _, rfl⟩
      | _ => cases hc

/-- A step `run_scenario` runs through on the namespace `ns`: a mapping whose
name can be printed and whose commands can be launched. -/
def StepRuns (ns : String) (step : PyVal) : Prop :=
  (∃ kvs, step = .dict kvs) ∧ (field step "name" .none).intsFit = true ∧
    ∃ cmds, elementsOf step "commands" = .ok cmds ∧ ∀ c ∈ cmds, commandLaunches ns c = true

theorem executeStep_ok (shell : Shell) (ns : String) (i : Nat) {step : PyVal}
    (hs : StepRuns ns step) (l : StepLocals) (hist : List String) :
    ∃ l' stop s, executeStep shell ns i step l hist = .ok (l', stop) s ∧
      ∃ rec : StepRecord, l'.steps = l.steps ++ [rec] ∧ rec.name = stepName i step := by
  obtain ⟨⟨kvs, rfl⟩, hname, cmds, hc, hstr⟩ := hs
  obtain ⟨commands, hget, hiter⟩ := exceptBind_eq_ok hc
  obtain ⟨c, s, hrun⟩ := runCommands_ok shell ns hstr ⟨l.success, true, []⟩ hist
  rw [PyVal.get_dict] at hget
  cases hget
  simp only [executeStep, PyVal.get_dict, lift_ok_bind, hiter,
    PyVal.format_of_intsFit ((intsFit_stepName i kvs).trans hname)]
  rw [bind_of_ok hrun]
  split
  · exact ⟨_, _, _, rfl, _, rfl, rfl⟩
  · exact ⟨_, _, _, rfl, _, rfl, rfl⟩

/-- The step loop returns, and every record it appends is named after one of
the steps. -/
theorem runSteps_ok (shell : Shell) (ns : String) :
    ∀ (steps : List PyVal) (i : Nat) (l : StepLocals) (hist : List String),
      (∀ step ∈ steps, StepRuns ns step) →
      ∃ l' s, runSteps shell ns i steps l hist = .ok l' s ∧
        ∀ r ∈ l'.steps, r ∈ l.steps ∨ ∃ j, ∃ step ∈ steps, r.name = stepName j step
  | [], _, l, hist, _ => ⟨l, hist, rfl, fun _ hr => .inl hr⟩
  | step :: rest, i, l, hist, h => by
      obtain ⟨l₁, stop, s₁, he, rec, hl₁, hname⟩ :=
        executeStep_ok shell ns i (h step (List.mem_cons_self _ _)) l hist
      have hnew : ∀ r ∈ l₁.steps, r ∈ l.steps ∨ ∃ j, ∃ st ∈ step :: rest, r.name = stepName j st := by
        intro r hr
        rw [hl₁, List.mem_append, List.mem_singleton] at hr
        rcases hr with hr | rfl
        · exact .inl hr
        · exact .inr ⟨i, step, List.mem_cons_self _ _, hname⟩
      simp only [runSteps]
      rw [bind_of_ok he]
      cases stop
      · obtain ⟨l', s, hr, hnames⟩ :=
          runSteps_ok shell ns rest (i + 1) l₁ s₁ fun st hst => h st (List.mem_cons_of_mem _ hst)
        refine ⟨l', s, hr, fun r hr => ?_⟩
        rcases hnames r hr with hr | ⟨j, st, hst, hn⟩
        · exact hnew r hr
        · exact .inr ⟨j, st, List.mem_cons_of_mem _ hst, hn⟩
      · exact ⟨l₁, s₁, rfl, hnew⟩

theorem runCriteria_ok :
    ∀ (criteria : List PyVal) (records : List CriterionRecord) (success : Bool)
      (hist : List String), (∀ c ∈ criteria, isDict c = true) →
      ∃ r, runCriteria criteria records success hist = .ok r hist
  | [], records, success, hist, _ => ⟨(records, success), rfl⟩
  | c :: rest, records, success, hist, h => by
      obtain ⟨kvs, rfl⟩ := eq_dict_of_isDict (h c (List.mem_cons_self _ _))
      simp only [runCriteria, PyVal.get_dict, lift_ok_bind]
      exact runCriteria_ok rest _ _ hist fun c hc => h c (List.mem_cons_of_mem _ hc)

/-- The criteria block returns one placeholder record per criterion. -/
theorem evaluateCriteria_ok {scenario : PyVal} {criteria : List PyVal}
    (h : elementsOf scenario "success_criteria" = .ok criteria)
    (hd : ∀ c ∈ criteria, isDict c = true) (success : Bool) (hist : List String) :
    ∃ success', evaluateCriteria scenario success hist =
      .ok (criteria.map fun c =>
        ⟨field c "name" (.str "Unnamed criterion"), field c "threshold" (.int 0), 0, true⟩, success')
        hist := by
  obtain ⟨cv, hget, hiter⟩ := exceptBind_eq_ok h
  obtain ⟨⟨records, success'⟩, hr⟩ := runCriteria_ok criteria [] success hist hd
  obtain ⟨-, rfl⟩ := runCriteria_ok_inv hr
  exact ⟨success', by simp only [evaluateCriteria, hget, hiter, lift_ok_bind]; exact hr⟩

/-- `run_scenario` once its step loop has returned. -/
theorem runScenario_eq {shell : Shell} {ns startTime endTime : String} {scenario id : PyVal}
    {hist s₁ : List String} {steps : List PyVal} {l : StepLocals}
    (hid : scenarioIdOf scenario = .ok id) (hfit : id.intsFit = true)
    (hsteps : elementsOf scenario "steps" = .ok steps)
    (hl : runSteps shell ns 0 steps ⟨[], true⟩ hist = .ok l s₁) :
    runScenario shell startTime endTime scenario ns hist =
      (evaluateCriteria scenario l.success >>= fun r =>
        pure ⟨id, startTime, l.steps, r.2, r.1, endTime⟩) s₁ := by
  obtain ⟨sv, hget, hiter⟩ := exceptBind_eq_ok hsteps
  simp only [runScenario, hid, PyVal.format_of_intsFit hfit, hget, hiter, lift_ok_bind]
  rw [bind_of_ok hl]

/-! ## The report can be written -/

theorem jsonEncodeList_ok : ∀ {xs : List PyVal}, (∀ x ∈ xs, x.jsonEncode = .ok ()) →
    PyVal.jsonEncodeList xs = .ok ()
  | [], _ => rfl
  | x :: xs, h => by
      rw [PyVal.jsonEncodeList_cons, h x (List.mem_cons_self _ _), exceptOk_bind]
      exact jsonEncodeList_ok fun y hy => h y (List.mem_cons_of_mem _ hy)

theorem jsonEncode_field {v d : PyVal} {key : String} (h : (field v key .none).jsonEncode = .ok ())
    (hd : d.jsonEncode = .ok ()) : (field v key d).jsonEncode = .ok () := by
  unfold field at *
  split at *
  · cases hl : PyVal.lookup _ key <;> simp_all
  · exact hd

/-- `json.dump(results)` returns when the values the document supplied do. -/
theorem jsonEncode_toPy (r : Results) (hid : r.scenarioId.jsonEncode = .ok ())
    (hsteps : ∀ s ∈ r.steps, s.name.jsonEncode = .ok ())
    (hcrit : ∀ c ∈ r.criteria,
      c.name.jsonEncode = .ok () ∧ c.threshold.jsonEncode = .ok () ∧ intFits c.actual = true) :
    r.toPy.jsonEncode = .ok () := by
  have hs : PyVal.jsonEncodeList (r.steps.map StepRecord.toPy) = .ok () :=
    jsonEncodeList_ok fun x hx => by
      obtain ⟨s, hs, rfl⟩ := List.mem_map.mp hx
      have hout : PyVal.jsonEncodeList (s.output.map PyVal.str) = .ok () :=
        jsonEncodeList_ok (by simp)
      simp [StepRecord.toPy, hsteps s hs, hout]
  have hc : PyVal.jsonEncodeList (r.criteria.map CriterionRecord.toPy) = .ok () :=
    jsonEncodeList_ok fun x hx => by
      obtain ⟨c, hc, rfl⟩ := List.mem_map.mp hx
      simp [CriterionRecord.toPy, (hcrit c hc).1, (hcrit c hc).2.1,
        PyVal.jsonEncodeInt_eq_ok.2 (hcrit c hc).2.2]
  simp [Results.toPy, hid, hs, hc]

/-- `save_results` once the directory is made, the identifier printed and the
file opened: the report holds the whole text when `json.dump` returns, and is
cut short when it raises. -/
theorem saveResults_opened {fs : FileSystem} {now : DateTime} {r : Results} {outputDir : String}
    (hdir : fs.makedirs outputDir = .ok ()) (hfit : r.scenarioId.intsFit = true)
    (hopen : fs.openWrite (reportFilename outputDir r.scenarioId now.strftime) = .ok ())
    (files : Reports) :
    saveResults fs now r outputDir files =
      let path := reportFilename outputDir r.scenarioId now.strftime
      match r.toPy.jsonEncode with
      | .ok () => .ok path (files.write path (.complete r.toPy))
      | .error e => .error e (files.write path .truncated) := by
  simp only [saveResults, hdir, PyVal.format_of_intsFit hfit, hopen, lift_ok_bind]
  cases r.toPy.jsonEncode <;> rfl

/-- When `save_results` returns, it returns the report's path, and the report
holds the whole text of `results`. -/
theorem saveResults_eq_ok {fs : FileSystem} {now : DateTime} {r : Results} {outputDir : String}
    {files files' : Reports} {path : String} (h : saveResults fs now r outputDir files = .ok path files') :
    path = reportFilename outputDir r.scenarioId now.strftime ∧
      files' = files.write path (.complete r.toPy) := by
  simp only [saveResults] at h
  obtain ⟨_, -, h⟩ := lift_bind_eq_ok h
  obtain ⟨_, -, h⟩ := lift_bind_eq_ok h
  obtain ⟨_, -, h⟩ := lift_bind_eq_ok h
  cases hj : r.toPy.jsonEncode <;> rw [hj] at h <;> cases h
  exact ⟨rfl, rfl⟩

/-- `save_results` returns the report's path when the output directory can be
made, accepts any well-formed name, and the identifier is short ASCII with no
`/`. -/
theorem saveResults_ok {fs : FileSystem} {now : DateTime} {r : Results} {outputDir id : String}
    (hdir : fs.makedirs outputDir = .ok ())
    (hopen : ∀ name : String, '/' ∉ name.data → name.utf8ByteSize ≤ 255 →
      fs.openWrite (outputDir ++ "/" ++ name) = .ok ())
    (hid : r.scenarioId = .str id) (hchars : ∀ c ∈ id.data, c.toNat < 128 ∧ c ≠ '/')
    (hlen : id.length ≤ 234) (hjson : r.toPy.jsonEncode = .ok ()) (files : Reports) :
    saveResults fs now r outputDir files =
      .ok (reportFilename outputDir r.scenarioId now.strftime)
        (files.write (reportFilename outputDir r.scenarioId now.strftime) (.complete r.toPy)) := by
  have hname : reportFilename outputDir r.scenarioId now.strftime =
      outputDir ++ "/" ++ (id ++ "_" ++ now.strftime ++ ".json") := by
    simp only [reportFilename, hid, PyVal.toStr, String.append_assoc]
  have hall : ∀ c ∈ (id ++ "_" ++ now.strftime ++ ".json").data, c.toNat < 128 ∧ c ≠ '/' := by
    intro c hc
    simp only [String.data_append, List.mem_append] at hc
    rcases hc with ((hc | hc) | hc) | hc
    · exact hchars c hc
    · simp only [List.mem_singleton.1 hc]; decide
    · exact strftime_ascii now hc
    · revert c; decide
  have hsize : (id ++ "_" ++ now.strftime ++ ".json").utf8ByteSize ≤ 255 := by
    rw [show id ++ "_" ++ now.strftime ++ ".json" = String.mk (id ++ "_" ++ now.strftime ++ ".json").data
      from rfl, utf8ByteSize_of_ascii _ fun c hc => (hall c hc).1]
    have := length_strftime now
    simp only [String.length, String.data_append, List.length_append] at this hlen ⊢
    simp only [show "_".data.length = 1 from rfl, show ".json".data.length = 5 from rfl]
    omega
  have hopen' := hopen _ (fun h => (hall '/' h).2 rfl) hsize
  rw [← hname] at hopen'
  rw [saveResults_opened hdir (by rw [hid]; rfl) hopen']
  simp only [hjson]

/-! ## Acceptance is not enough -/

/-- Three steps, the first applying the manifests and the last verifying. -/
def exampleSteps : List PyVal :=
  [.dict [(.str "name", .str "deploy"),
      (.str "commands", .list [.str "kubectl apply -n {namespace} -f k8s"])],
    .dict [(.str "name", .str "wait"), (.str "commands", .list [.str "sleep 5"])],
    .dict [(.str "name", .str "check"),
      (.str "commands", .list [.str "python verify.py -n {namespace}"])]]

/-- A document with `exampleSteps` and the given criteria, whose every other
section the validator accepts. -/
def exampleScenario (criteria : List PyVal) : PyVal :=
  .dict [
    (.str "metadata", .dict [(.str "id", .str "TF-DEMO-3_Validated"), (.str "name", .str "Validated"),
      (.str "description", .str "Accepted by the validator"), (.str "version", .str "1.0"),
      (.str "tags", .list []), (.str "eidc_references", .list [])]),
    (.str "requirements", .dict [(.str "cluster_type", .str "kind"),
      (.str "components", .list [.str "collector"])]),
    (.str "steps", .list exampleSteps),
    (.str "success_criteria", .list criteria)]

theorem exampleSteps_run : ∀ step ∈ exampleSteps, StepRuns "tf-k8s-tf-demo-3-validated" step := by
  simp only [exampleSteps, List.forall_mem_cons, List.not_mem_nil, false_imp_iff, implies_true,
    and_true]
  exact ⟨⟨⟨_, rfl⟩, rfl, _, rfl, by decide⟩, ⟨⟨_, rfl⟩, rfl, _, rfl, by decide⟩,
    ⟨⟨_, rfl⟩, rfl, _, rfl, by decide⟩⟩

/-- The last component of a path: what follows its last `/`. -/
def baseName (path : String) : String :=
  ⟨(path.data.reverse.takeWhile (· != '/')).reverse⟩

theorem baseName_append {dir name : String} (h : '/' ∉ name.data) :
    baseName (dir ++ "/" ++ name) = name := by
  have hall : ∀ c ∈ name.data.reverse, (c != '/') = true := fun c hc => by
    simpa using fun he : c = '/' => h (he ▸ List.mem_reverse.1 hc)
  simp only [baseName, String.data_append, List.reverse_append, List.append_assoc]
  rw [List.takeWhile_append_of_pos hall]
  simp

/-- A file system on which opening a file fails only for Linux's limit on the
length of a name. -/
def lenientFs : FileSystem where
  makedirs _ := .ok ()
  openWrite path := if 255 < (baseName path).utf8ByteSize then
      .error (.osError ("[Errno 36] File name too long: " ++ Py.reprStr path)) else .ok ()
  name_max _ _ h hlong := by simp only [baseName_append h, if_pos hlong]

theorem lenientFs_openWrite {dir name : String} (h : '/' ∉ name.data)
    (hs : name.utf8ByteSize ≤ 255) : lenientFs.openWrite (dir ++ "/" ++ name) = .ok () := by
  simp only [lenientFs, baseName_append h, if_neg (Nat.not_lt.2 hs)]

/-- 17 May 2024, 12:30:45. -/
def exampleTime : DateTime :=
  ⟨2024, 5, 17, 12, 30, 45, 0, by decide, by decide, by decide, by decide, by decide, by decide,
    by decide⟩

/-- `exampleScenario` with one criterion written as a mapping. -/
def readyScenario : PyVal :=
  exampleScenario [.dict [(.str "name", .str "Volume reduction"), (.str "metric", .str "bytes_ratio"),
    (.str "threshold", .int 10)]]

/-! ## Acceptance with the rest makes both calls return -/

end TfK8s.Runner
