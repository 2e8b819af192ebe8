import TfK8s.Validator.Validate
import TfK8s.Proofs.Precondition

/-!
# `validate()` returns `True` exactly when `self.errors` is empty

`validate()` ANDs the answers of its five checks and never reads the lists
itself, so its answer agrees with `self.errors` only because of how each check
answers. Every check appends and never removes; it answers `True` only when it
appended nothing, and `False` only when `self.errors` holds something. That is
`Honest` below. The first check also answers `True` only when the list is
empty, through its final `len(self.errors) == 0` (`Strict`), so the agreement
holds from the first check on, whatever the list held before `validate()`.

The checks are built from a handful of statements: evaluating an expression,
appending a warning, appending an error, `try`, and the final
`len(self.errors) == 0`. Each section states once what those do to
`self.errors`, and each check's lemma follows its code through them. Then
`print_results()` returns `len(self.errors) == 0` as well, and the exit status
agrees with it.
-/

namespace TfK8s.Validator

open Py Script

variable {α β : Type}

/-! ## What a statement does to `self.errors` -/

/-- Only appends to `self.errors`, whether it returns or raises. -/
def Appends (m : Method α) : Prop := ∀ v, v.errors <+: (stateOf (m v)).errors

/-- Leaves `self.errors` as it found it, whether it returns or raises. -/
def Keeps (m : Method α) : Prop := ∀ v, (stateOf (m v)).errors = v.errors

theorem Keeps.appends {m : Method α} (h : Keeps m) : Appends m := fun v => by
  rw [h v]

theorem keeps_pure (a : α) : Keeps (pure a : Method α) := fun _ => rfl

theorem keeps_lift (e : Except PyExc α) : Keeps (lift e : Method α) := fun v => by
  cases e <;> rfl

theorem keeps_appendWarning (m : String) : Keeps (appendWarning m) := fun _ => rfl

theorem keeps_noErrors : Keeps noErrors := fun _ => rfl

theorem appends_appendError (m : String) : Appends (appendError m) := fun v =>
  List.prefix_append v.errors [m]

theorem Keeps.bind {x : Method α} {f : α → Method β} (hx : Keeps x) (hf : ∀ a, Keeps (f a)) :
    Keeps (x >>= f) := fun v => by
  cases h : x v with
  | ok a v₁ => rw [bind_of_ok h, hf a v₁]; simpa [h] using hx v
  | error e v₁ => rw [bind_of_error h]; simpa [h] using hx v

theorem Appends.bind {x : Method α} {f : α → Method β} (hx : Appends x)
    (hf : ∀ a, Appends (f a)) : Appends (x >>= f) := fun v => by
  cases h : x v with
  | ok a v₁ =>
      have h₁ : v.errors <+: v₁.errors := by simpa [h] using hx v
      rw [bind_of_ok h]
      exact h₁.trans (hf a v₁)
  | error e v₁ => rw [bind_of_error h]; simpa [h] using hx v

theorem Keeps.catchAll {x : Method α} {handler : PyExc → Method α} (hx : Keeps x)
    (hh : ∀ e, Keeps (handler e)) : Keeps (catchAll x handler) := fun v => by
  cases h : x v with
  | ok a v₁ => rw [catchAll_of_ok h]; simpa [h] using hx v
  | error e v₁ => rw [catchAll_of_error h, hh e v₁]; simpa [h] using hx v

theorem Appends.catchAll {x : Method α} {handler : PyExc → Method α} (hx : Appends x)
    (hh : ∀ e, Appends (handler e)) : Appends (catchAll x handler) := fun v => by
  cases h : x v with
  | ok a v₁ => rw [catchAll_of_ok h]; simpa [h] using hx v
  | error e v₁ =>
      have h₁ : v.errors <+: v₁.errors := by simpa [h] using hx v
      rw [catchAll_of_error h]
      exact h₁.trans (hh e v₁)

/-- What both branches of an `if` have, the `if` has; every property of
methods below is taken through the checks' `if`s this way. -/
theorem ite_of_branches {P : Method β → Prop} {p : Prop} [Decidable p] {x y : Method β}
    (hx : P x) (hy : P y) : P (if p then x else y) :=
  iteInduction (fun _ => hx) (fun _ => hy)

/-! ## What a check answers -/

/-- What the answer `b` of a check run from `v` says of the `v'` it leaves:
`True` that it appended nothing, `False` that `self.errors` holds something. -/
def Settles (v : TestValidator) (b : Bool) (v' : TestValidator) : Prop :=
  (b = true → v'.errors = v.errors) ∧ (b = false → v'.errors ≠ [])

/-- What `validate()` needs of a check: it only appends to `self.errors`, and
its answer settles the list it leaves. -/
def Honest (check : Method Bool) : Prop :=
  Appends check ∧ ∀ v b v', check v = .ok b v' → Settles v b v'

/-- Keeps `self.errors` and answers `True`. -/
def Passes (check : Method Bool) : Prop :=
  Keeps check ∧ ∀ v b v', check v = .ok b v' → b = true

/-- Answers `len(self.errors) == 0` of the list it leaves. -/
def Verdict (check : Method Bool) : Prop :=
  ∀ v b v', check v = .ok b v' → b = v'.errors.isEmpty

/-- Answers `True` only when it leaves `self.errors` empty. -/
def Strict (check : Method Bool) : Prop :=
  ∀ v b v', check v = .ok b v' → b = true → v'.errors = []

/-- `return len(self.errors) == 0` after only appending settles the list. -/
theorem settles_of_isEmpty {v v' : TestValidator} {b : Bool} (hp : v.errors <+: v'.errors)
    (hb : b = v'.errors.isEmpty) : Settles v b v' := by
  refine ⟨fun ht => ?_, fun hf hnil => ?_⟩
  · have hnil : v'.errors = [] := List.isEmpty_iff.1 (hb.symm.trans ht)
    rw [hnil] at hp ⊢
    exact (List.prefix_nil.1 hp).symm
  · rw [hnil] at hb
    exact absurd (hb.symm.trans hf) (by decide)

/-- `if p: self.warnings.append(m)`, then `f`. -/
theorem Keeps.warnIf {p : Prop} [Decidable p] {m : String} {f : Unit → Method α}
    (hf : ∀ u, Keeps (f u)) : Keeps (if p then appendWarning m >>= f else pure () >>= f) :=
  ite_of_branches ((keeps_appendWarning m).bind hf) ((keeps_pure ()).bind hf)

theorem passes_pure_true : Passes (pure true) := ⟨keeps_pure _, fun _ _ _ h => by cases h; rfl⟩

theorem Passes.bind {x : Method α} {f : α → Method Bool} (hx : Keeps x)
    (hf : ∀ a, Passes (f a)) : Passes (x >>= f) :=
  ⟨hx.bind fun a => (hf a).1, fun v b v' h => by
    obtain ⟨a, v₁, -, h₂⟩ := bind_eq_ok h
    exact (hf a).2 _ _ _ h₂⟩

theorem Passes.catchAll {x : Method Bool} {handler : PyExc → Method Bool} (hx : Passes x)
    (hh : ∀ e, Passes (handler e)) : Passes (catchAll x handler) :=
  ⟨hx.1.catchAll fun e => (hh e).1, fun v b v' h => by
    cases hv : x v with
    | ok a v₁ => exact hx.2 _ _ _ (hv.trans ((catchAll_of_ok hv).symm.trans h))
    | error e v₁ => exact (hh e).2 _ _ _ ((catchAll_of_error hv).symm.trans h)⟩

theorem Passes.honest {check : Method Bool} (h : Passes check) : Honest check :=
  ⟨h.1.appends, fun v b v' hc => by
    have hk : v'.errors = v.errors := by simpa [hc] using h.1 v
    exact ⟨fun _ => hk, fun hf => absurd ((h.2 _ _ _ hc).symm.trans hf) (by decide)⟩⟩

theorem verdict_noErrors : Verdict noErrors := fun _ _ _ h => by cases h; rfl

theorem Verdict.bind {x : Method α} {f : α → Method Bool} (hf : ∀ a, Verdict (f a)) :
    Verdict (x >>= f) := fun v b v' h => by
  obtain ⟨a, v₁, -, h₂⟩ := bind_eq_ok h
  exact hf a _ _ _ h₂

/-- A check that ends in `return len(self.errors) == 0` after only appending. -/
theorem Verdict.honest {check : Method Bool} (ha : Appends check) (hv : Verdict check) :
    Honest check :=
  ⟨ha, fun v b v' h => settles_of_isEmpty (by simpa [h] using ha v) (hv _ _ _ h)⟩

theorem honest_report_false (m : String) : Honest (appendError m >>= fun _ => pure false) :=
  ⟨(appends_appendError m).bind fun _ => (keeps_pure _).appends, fun v b v' h => by
    cases h
    exact ⟨nofun, fun _ => by simp [appendError]⟩⟩

theorem Honest.bind_keeps {x : Method α} {f : α → Method Bool} (hx : Keeps x)
    (hf : ∀ a, Honest (f a)) : Honest (x >>= f) :=
  ⟨hx.appends.bind fun a => (hf a).1, fun v b v' h => by
    obtain ⟨a, v₁, h₁, h₂⟩ := bind_eq_ok h
    have hk : v₁.errors = v.errors := by simpa [h₁] using hx v
    rw [Settles, ← hk]
    exact (hf a).2 _ _ _ h₂⟩

/-- `if not x(): return False`, then `y`. -/
theorem Honest.andThen {x y : Method Bool} (hx : Honest x) (hy : Honest y) :
    Honest (x >>= fun found => if !found then pure false else y) :=
  ⟨hx.1.bind fun b => ite_of_branches (keeps_pure _).appends hy.1, fun v b v' h => by
    obtain ⟨found, v₁, h₁, h₂⟩ := bind_eq_ok h
    cases found
    · cases h₂
      exact ⟨nofun, fun _ => (hx.2 _ _ _ h₁).2 rfl⟩
    · rw [Settles, ← (hx.2 _ _ _ h₁).1 rfl]
      exact hy.2 _ _ _ h₂⟩

theorem Strict.bind {x : Method α} {f : α → Method Bool} (hf : ∀ a, Strict (f a)) :
    Strict (x >>= f) := fun v b v' h => by
  obtain ⟨a, v₁, -, h₂⟩ := bind_eq_ok h
  exact hf a _ _ _ h₂

theorem strict_pure_false : Strict (pure false) := fun _ _ _ h hb => by
  cases h; cases hb

theorem Verdict.strict {check : Method Bool} (h : Verdict check) : Strict check :=
  fun _ _ _ hc hb => List.isEmpty_iff.1 (h _ _ _ hc ▸ hb)

/-! ## The five checks -/

theorem honest_checkRequiredFiles (dir : ScenarioDir) :
    ∀ files, Honest (checkRequiredFiles dir files)
  | [] => passes_pure_true.honest
  | _ :: rest => (Honest.bind_keeps (keeps_lift _)) fun _ =>
      ite_of_branches (honest_report_false _) (honest_checkRequiredFiles dir rest)

theorem keeps_yamlFilesIn (dir : ScenarioDir) (k8sDir : String) : Keeps (yamlFilesIn dir k8sDir) :=
  (keeps_lift _).bind fun _ => (keeps_lift _).bind fun _ => keeps_pure _

theorem keeps_warnK8sDirectory (dir : ScenarioDir) (k8sDir : String) :
    Keeps (warnK8sDirectory dir k8sDir) :=
  (keeps_lift _).bind fun _ => ite_of_branches (keeps_appendWarning _)
    ((keeps_yamlFilesIn dir k8sDir).bind fun _ => ite_of_branches (keeps_appendWarning _) (keeps_pure _))

theorem honest_checkDirectoryStructure (dir : ScenarioDir) : Honest (checkDirectoryStructure dir) :=
  (Honest.bind_keeps (keeps_lift _)) fun _ => ite_of_branches (honest_report_false _)
    (Honest.andThen (honest_checkRequiredFiles dir requiredFiles)
      (Verdict.honest ((keeps_warnK8sDirectory dir _).appends.bind fun _ => keeps_noErrors.appends)
        (Verdict.bind fun _ => verdict_noErrors)))

theorem strict_checkDirectoryStructure (dir : ScenarioDir) : Strict (checkDirectoryStructure dir) :=
  Strict.bind fun _ => ite_of_branches (Strict.bind fun _ => strict_pure_false)
    (Strict.bind fun _ => ite_of_branches strict_pure_false (Verdict.bind fun _ => verdict_noErrors).strict)

/-- `validate_scenario_definition` answers `len(self.errors) == 0` of the list
it leaves, whichever way it got there. -/
theorem validateScenarioDefinition_result (earlier : List String) (loaded : Except String PyVal)
    {b : Bool} (h : (validateScenarioDefinition earlier loaded).result = .ok b) :
    b = (earlier ++ (validateScenarioDefinition earlier loaded).errors).isEmpty := by
  cases loaded with
  | error m => cases h; simp [validateScenarioDefinition, Check.report, bind]
  | ok scenario =>
      simp only [validateScenarioDefinition, Check.catchAll, Check.verdict] at h ⊢
      generalize checkDefinition scenario = x at h ⊢
      obtain ⟨errs, r⟩ := x
      cases r with
      | ok u => cases h; rfl
      | error e => cases h; simp [Except.map, Check.report, bind]

theorem toMethod_eq_ok {x : Check α} {v v' : TestValidator} {a : α} (h : x.toMethod v = .ok a v') :
    x.result = .ok a ∧ v'.errors = v.errors ++ x.errors := by
  obtain ⟨errs, r⟩ := x
  cases r with
  | ok a' => cases h; exact ⟨rfl, rfl⟩
  | error e => cases h

theorem appends_toMethod (x : Check α) : Appends x.toMethod := fun v => by
  obtain ⟨errs, r⟩ := x
  cases r <;> exact List.prefix_append _ _

theorem honest_validateScenarioDefinitionFile (dir : ScenarioDir) :
    Honest (validateScenarioDefinitionFile dir) := by
  refine ⟨fun v => ?_, fun v b v' h => ?_⟩
  · unfold validateScenarioDefinitionFile
    split
    · exact (honest_report_false _).1 v
    · exact appends_toMethod _ v
  · unfold validateScenarioDefinitionFile at h
    split at h
    · exact (honest_report_false _).2 _ _ _ h
    · obtain ⟨hr, he⟩ := toMethod_eq_ok h
      refine settles_of_isEmpty (he ▸ List.prefix_append _ _) ?_
      rw [he]
      exact validateScenarioDefinition_result _ _ hr

theorem keeps_warnMissingPatterns (content : String) :
    ∀ patterns, Keeps (warnMissingPatterns content patterns)
  | [] => keeps_pure _
  | (_, _) :: rest => Keeps.warnIf fun _ => keeps_warnMissingPatterns content rest

theorem passes_checkVerificationScript (dir : ScenarioDir) : Passes (checkVerificationScript dir) :=
  Passes.bind (keeps_lift _) fun scripts => by
    cases scripts with
    | nil => exact Passes.bind (keeps_appendWarning _) fun _ => passes_pure_true
    | cons script _ =>
        have body : ∀ u, Passes ((fun _ : Unit => do
            let content ← lift (dir.read script)
            warnMissingPatterns content verificationPatterns
            pure true : Unit → Method Bool) u) := fun _ =>
          Passes.bind (keeps_lift _) fun _ =>
            Passes.bind (keeps_warnMissingPatterns _ _) fun _ => passes_pure_true
        refine Passes.catchAll ?_ fun _ => Passes.bind (keeps_appendWarning _) fun _ => passes_pure_true
        exact ite_of_branches (Passes.bind (keeps_appendWarning _) body) (Passes.bind (keeps_pure _) body)

theorem keeps_checkDocuments (yamlFile : String) :
    ∀ i docs, Keeps (checkDocuments yamlFile i docs)
  | _, [] => keeps_pure _
  | i, _ :: rest =>
      have ih := keeps_checkDocuments yamlFile (i + 1) rest
      ite_of_branches ((keeps_appendWarning _).bind fun _ => ih)
        ((keeps_lift _).bind fun _ => Keeps.warnIf fun _ =>
          (keeps_lift _).bind fun _ => ite_of_branches ((keeps_appendWarning _).bind fun _ => ih)
            ((keeps_lift _).bind fun _ => (keeps_lift _).bind fun _ => Keeps.warnIf fun _ => ih))

theorem appends_checkK8sFile (dir : ScenarioDir) (yamlFile : String) :
    Appends (checkK8sFile dir yamlFile) := by
  refine Appends.catchAll ((keeps_lift _).appends.bind fun _ => (keeps_lift _).appends.bind
    fun loaded => ?_) fun _ => (keeps_appendWarning _).appends
  cases loaded with
  | error m => exact appends_appendError _
  | ok docs => exact ite_of_branches (keeps_appendWarning _).appends (keeps_checkDocuments _ _ _).appends

theorem appends_checkK8sFiles (dir : ScenarioDir) : ∀ files, Appends (checkK8sFiles dir files)
  | [] => (keeps_pure _).appends
  | _ :: rest => (appends_checkK8sFile dir _).bind fun _ => appends_checkK8sFiles dir rest

theorem honest_checkK8sResources (dir : ScenarioDir) : Honest (checkK8sResources dir) :=
  (Honest.bind_keeps (keeps_lift _)) fun _ => ite_of_branches passes_pure_true.honest
    ((Honest.bind_keeps (keeps_yamlFilesIn _ _)) fun _ => ite_of_branches passes_pure_true.honest
      (Verdict.honest ((appends_checkK8sFiles _ _).bind fun _ => keeps_noErrors.appends)
        (Verdict.bind fun _ => verdict_noErrors)))

theorem appends_compilePyFiles (dir : ScenarioDir) : ∀ files, Appends (compilePyFiles dir files)
  | [] => (keeps_pure _).appends
  | _ :: rest => Appends.bind
      (Appends.catchAll
        ((keeps_lift _).appends.bind fun _ => ite_of_branches (appends_appendError _) (keeps_pure _).appends)
        fun _ => (keeps_appendWarning _).appends)
      fun _ => appends_compilePyFiles dir rest

theorem keeps_lintYamlFiles (dir : ScenarioDir) : ∀ files, Keeps (lintYamlFiles dir files)
  | [] => keeps_pure _
  | _ :: rest => Keeps.bind
      (Keeps.catchAll
        ((keeps_lift _).bind fun _ => ite_of_branches (keeps_appendWarning _) (keeps_pure _))
        fun _ => keeps_appendWarning _)
      fun _ => keeps_lintYamlFiles dir rest

theorem keeps_lintYaml (dir : ScenarioDir) : Keeps (lintYaml dir) :=
  Keeps.catchAll ((keeps_lift _).bind fun _ => ite_of_branches
    ((keeps_lift _).bind fun _ => (keeps_lift _).bind fun _ => keeps_lintYamlFiles _ _) (keeps_pure _))
    fun _ => keeps_pure _

theorem honest_checkSyntax (dir : ScenarioDir) : Honest (checkSyntax dir) :=
  Verdict.honest
    ((keeps_lift _).appends.bind fun _ => (appends_compilePyFiles _ _).bind fun _ =>
      (keeps_lintYaml _).appends.bind fun _ => keeps_noErrors.appends)
    (Verdict.bind fun _ => Verdict.bind fun _ => Verdict.bind fun _ => verdict_noErrors)

/-! ## `validate` -/

theorem honest_checks (dir : ScenarioDir) : ∀ c ∈ checks dir, Honest c := by
  simp only [checks, List.mem_cons, List.not_mem_nil, or_false]
  rintro c (rfl | rfl | rfl | rfl | rfl)
  · exact honest_checkDirectoryStructure dir
  · exact honest_validateScenarioDefinitionFile dir
  · exact (passes_checkVerificationScript dir).honest
  · exact honest_checkK8sResources dir
  · exact honest_checkSyntax dir

/-- The loop keeps `all_passed` equal to `len(self.errors) == 0`. -/
theorem runChecks_spec : ∀ (cs : List (Method Bool)), (∀ c ∈ cs, Honest c) →
    ∀ allPassed v b v', (allPassed = true ↔ v.errors = []) →
      runChecks allPassed cs v = .ok b v' → (b = true ↔ v'.errors = [])
  | [], _, _, _, _, _, hinv, h => by cases h; exact hinv
  | c :: rest, hc, allPassed, v, b, v', hinv, h => by
      obtain ⟨passed, v₁, h₁, h₂⟩ := bind_eq_ok h
      refine runChecks_spec rest (fun c' h' => hc c' (List.mem_cons_of_mem _ h')) _ _ _ _ ?_ h₂
      have hc₁ := (hc c (List.mem_cons_self _ _)).2 _ _ _ h₁
      cases passed
      · simpa using hc₁.2 rfl
      · simpa [← hc₁.1 rfl] using hinv

/-- `validate()` answers `True` exactly when it leaves `self.errors` empty,
whatever the list held before it. -/
theorem validate_spec (dir : ScenarioDir) {v v' : TestValidator} {valid : Bool}
    (h : validate dir v = .ok valid v') : valid = true ↔ v'.errors = [] := by
  obtain ⟨passed, v₁, h₁, h₂⟩ := bind_eq_ok h
  refine runChecks_spec _ (fun c hc => honest_checks dir c (List.mem_cons_of_mem _ hc)) _ _ _ _ ?_ h₂
  have hh := (honest_checkDirectoryStructure dir).2 _ _ _ h₁
  cases passed
  · simpa using hh.2 rfl
  · simpa using strict_checkDirectoryStructure dir _ _ _ h₁ rfl

theorem printResults_eq (v : TestValidator) : printResults v = v.errors.isEmpty := by
  unfold printResults
  split
  · next h => simp only [Bool.and_eq_true] at h; exact h.1.symm
  · rfl

/-- For every scenario directory, the answer of `validate()` is `True` exactly
when it leaves `self.errors` empty, and the script's exit status is 0 exactly
when `print_results()` returns `True`. -/
theorem validate_iff_errors_empty (dir : ScenarioDir) :
    (∀ v valid v', validate dir v = .ok valid v' → (valid = true ↔ v'.errors = [])) ∧
      ∀ code printed, validatorMain dir = .ok (code, printed) → (code = 0 ↔ printed = true) := by
  refine ⟨fun v valid v' h => validate_spec dir h, fun code printed h => ?_⟩
  unfold validatorMain at h
  split at h
  · next valid v hv =>
      cases h
      rw [printResults_eq, List.isEmpty_iff, ← validate_spec dir hv]
      cases valid <;> simp
  · cases h

/-- A directory holding `readyScenario`, an executable verification script
with every pattern the check looks for, and one manifest with a kind and a
name, on a machine without `yamllint`. -/
def readyDir : ScenarioDir where
  path := "scenarios/enabled/TF-DEMO-3_Validated"
  pathExists _ := .ok true
  glob _ pattern := .ok <|
    if pattern = "verify*.py" ∨ pattern = "*.py" then ["verify.py"]
    else if pattern = "*.yaml" then ["k8s/deploy.yaml"] else []
  access _ := true
  read _ := .ok "import argparse, sys\nclass Check:\n    pass\nif __name__ == \"__main__\":\n    sys.exit(0)\n"
  loadFile _ := .ok (.ok Runner.readyScenario)
  loadAll _ := .ok (.ok [.dict [(.str "kind", .str "Namespace"),
    (.str "metadata", .dict [(.str "name", .str "demo")])]])
  run argv := .ok (if argv.head? = some "which" then 1 else 0, "", "")

theorem validate_iff_errors_empty_ready :
    validatorMain readyDir = .ok (0, true) ∧ (0 = 0 ↔ true = true) :=
  ⟨rfl, (validate_iff_errors_empty readyDir).2 0 true rfl⟩

end TfK8s.Validator

