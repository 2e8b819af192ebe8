import TfK8s.Proofs.StepLoop

/-!
# The overall verdict, and the criteria that never fail

`results['success']` starts true and is cleared in two places: in the command
loop, next to the failing step's own flag, and in the criteria loop, after a
criterion whose verdict is false. The first place keeps an invariant, that the
overall flag is the conjunction of the step flags recorded so far, because the
step's record is appended right after the clearing with the step's flag in it.
The second place never runs: the criteria loop records the placeholder `0` as
the observed value and the placeholder `True` as the verdict, whatever the
threshold. So the overall flag is the conjunction of the step flags, and the
criteria contribute nothing to it.

These lemmas hold for every document on which `run_scenario` returns, with no
assumption on its shape: a step or a criterion of the wrong kind raises, and a
run that raises returns no `results` at all. Each loop body has one inversion
lemma saying what a normal return of it can be, and the invariants are read
off those.
-/

namespace TfK8s.Runner

open Py Script

variable {shell : Shell} {ns : String}

/-! ## Inversion of the loop bodies -/

theorem runCommands_flag :
    ∀ {cmds : List PyVal} {l c : CmdLocals} {s s' : List String} (b : Bool),
      l.success = (b && l.stepSuccess) → runCommands shell ns cmds l s = .ok c s' →
        c.success = (b && c.stepSuccess)
  | [], _, _, _, _, _, hl, h => by cases h; exact hl
  | _ :: rest, l, _, s, _, b, hl, h => by
      obtain ⟨cmd, -, h⟩ := lift_bind_eq_ok h
      obtain ⟨-, h⟩ := checkOutput_bind_eq_ok h
      cases hsh : shell s cmd with
      | ok o =>
          rw [hsh] at h
          exact @runCommands_flag _ { l with stepOutput := l.stepOutput ++ [o] } _ _ _ b hl h
      | error e => rw [hsh] at h; cases h; simp

/-- What a normal return of the step loop's body can be: the record of the
commands run, appended, with the overall flag the command loop left. -/
theorem executeStep_ok_inv {i : Nat} {step : PyVal} {l l' : StepLocals} {stop : Bool}
    {s s' : List String} (h : executeStep shell ns i step l s = .ok (l', stop) s') :
    ∃ name cmds c, runCommands shell ns cmds ⟨l.success, true, []⟩ s = .ok c s' ∧
      l' = ⟨l.steps ++ [⟨name, c.stepSuccess, c.stepOutput⟩], c.success⟩ := by
  simp only [executeStep] at h
  obtain ⟨name, -, h⟩ := lift_bind_eq_ok h
  obtain ⟨_, -, h⟩ := lift_bind_eq_ok h
  obtain ⟨_, -, h⟩ := lift_bind_eq_ok h
  obtain ⟨cmds, -, h⟩ := lift_bind_eq_ok h
  obtain ⟨c, s₁, hc, h⟩ := bind_eq_ok h
  refine ⟨name, cmds, c, ?_⟩
  split at h
  · cases h; exact ⟨hc, rfl⟩
  · obtain ⟨_, -, h⟩ := lift_bind_eq_ok h
    cases h; exact ⟨hc, rfl⟩

/-- What a normal return of the criteria loop can be: one placeholder record
per criterion, and the overall flag untouched. -/
theorem runCriteria_ok_inv :
    ∀ {criteria : List PyVal} {records records' : List CriterionRecord} {success success' : Bool}
      {s s' : List String},
      runCriteria criteria records success s = .ok (records', success') s' →
        success' = success ∧
          records' = records ++ criteria.map fun c =>
            ⟨field c "name" (.str "Unnamed criterion"), field c "threshold" (.int 0), 0, true⟩
  | [], _, _, _, _, _, _, h => by cases h; simp
  | c :: rest, records, _, success, _, _, _, h => by
      simp only [runCriteria] at h
      obtain ⟨name, hname, h⟩ := lift_bind_eq_ok h
      obtain ⟨threshold, hthr, h⟩ := lift_bind_eq_ok h
      obtain ⟨hs, hr⟩ := runCriteria_ok_inv h
      cases c <;> simp only [PyVal.get] at hname hthr <;> cases hname
      cases hthr
      simp [hs, hr, field]

/-! ## The invariant over a whole run -/

theorem runSteps_flag :
    ∀ {i : Nat} {steps : List PyVal} {l l' : StepLocals} {s s' : List String},
      l.success = l.steps.all (·.success) → runSteps shell ns i steps l s = .ok l' s' →
        l'.success = l'.steps.all (·.success)
  | _, [], _, _, _, _, hl, h => by cases h; exact hl
  | _, step :: rest, l, _, s, _, hl, h => by
      simp only [runSteps] at h
      obtain ⟨⟨l₁, stop⟩, s₁, h₁, h⟩ := bind_eq_ok h
      obtain ⟨name, cmds, c, hc, rfl⟩ := executeStep_ok_inv h₁
      have hflag : c.success = (l.success && c.stepSuccess) := runCommands_flag _ (by simp) hc
      have hl₁ : c.success =
          (l.steps ++ [(⟨name, c.stepSuccess, c.stepOutput⟩ : StepRecord)]).all (·.success) := by
        simp [hflag, hl]
      split at h
      · cases h; exact hl₁
      · exact runSteps_flag hl₁ h

theorem evaluateCriteria_ok_inv {scenario : PyVal} {success success' : Bool}
    {records : List CriterionRecord} {s s' : List String}
    (h : evaluateCriteria scenario success s = .ok (records, success') s') :
    success' = success ∧ ∀ c ∈ records, c.actual = 0 ∧ c.success = true := by
  simp only [evaluateCriteria] at h
  obtain ⟨_, -, h⟩ := lift_bind_eq_ok h
  obtain ⟨_, -, h⟩ := lift_bind_eq_ok h
  obtain ⟨hs, rfl⟩ := runCriteria_ok_inv h
  exact ⟨hs, by simp⟩

/-- What a normal return of `run_scenario` is made of: the step loop's
locals, and the criteria block's records and flag. -/
theorem runScenario_ok_inv {startTime endTime : String} {scenario : PyVal} {hist sent : List String}
    {res : Results} (h : runScenario shell startTime endTime scenario ns hist = .ok res sent) :
    ∃ steps l s₁, runSteps shell ns 0 steps ⟨[], true⟩ hist = .ok l s₁ ∧ res.steps = l.steps ∧
      evaluateCriteria scenario l.success s₁ = .ok (res.criteria, res.success) sent := by
  simp only [runScenario] at h
  obtain ⟨_, -, h⟩ := lift_bind_eq_ok h
  obtain ⟨_, -, h⟩ := lift_bind_eq_ok h
  obtain ⟨_, -, h⟩ := lift_bind_eq_ok h
  obtain ⟨steps, -, h⟩ := lift_bind_eq_ok h
  obtain ⟨l, s₁, hl, h⟩ := bind_eq_ok h
  obtain ⟨⟨records, success⟩, s₂, hc, h⟩ := bind_eq_ok h
  cases h
  exact ⟨steps, l, s₁, hl, rfl, hc⟩

/-- The overall flag of every `results` that `run_scenario` returns is the
conjunction of the flags it recorded. -/
theorem runScenario_success_conjunction {startTime endTime : String} {scenario : PyVal}
    {hist sent : List String} {res : Results}
    (h : runScenario shell startTime endTime scenario ns hist = .ok res sent) :
    res.success = (res.steps.all (·.success) && res.criteria.all (·.success)) := by
  obtain ⟨_, l, _, hl, hsteps, hc⟩ := runScenario_ok_inv h
  obtain ⟨hs, hcrit⟩ := evaluateCriteria_ok_inv hc
  have hall : res.criteria.all (·.success) = true := List.all_eq_true.mpr fun c hc => (hcrit c hc).2
  rw [hs, runSteps_flag rfl hl, hsteps, hall, Bool.and_true]

theorem runScenario_success_conjunction_demo :
    ∃ res sent, runScenario demoShell "t0" "t1" demoScenario "tf-k8s-demo" [] = .ok res sent ∧
      res.success = (res.steps.all (·.success) && res.criteria.all (·.success)) := by
  obtain ⟨res, sent, h⟩ : ∃ res sent,
      runScenario demoShell "t0" "t1" demoScenario "tf-k8s-demo" [] = .ok res sent := ⟨_, _, rfl⟩
  exact ⟨res, sent, h, runScenario_success_conjunction h⟩

/-- A scenario whose one criterion has a threshold the placeholder `0` is below. -/
def thresholdScenario : PyVal :=
  .dict [(.str "metadata", .dict [(.str "id", .str "TF-DEMO-2_Threshold")]),
    (.str "success_criteria", .list [.dict [(.str "name", .str "volume_reduction"),
      (.str "metric", .str "bytes_ratio"), (.str "threshold", .int 10)]])]

theorem runScenario_criterion_below_threshold :
    ∃ res sent, runScenario demoShell "t0" "t1" thresholdScenario "tf-k8s-demo" [] = .ok res sent ∧
      ∃ c ∈ res.criteria, c.threshold = .int 10 ∧ c.success = true ∧ ¬ c.actual ≥ 10 :=
  ⟨_, _, rfl, _, List.mem_singleton_self _, rfl, rfl, by decide⟩

/-- Every criterion `run_scenario` records has the placeholder observed value
`0` and the placeholder verdict `True`, whatever its threshold, so the overall
flag is the conjunction of the step flags alone. -/
theorem runScenario_criteria_placeholder {startTime endTime : String} {scenario : PyVal}
    {hist sent : List String} {res : Results}
    (h : runScenario shell startTime endTime scenario ns hist = .ok res sent) :
    (∀ c ∈ res.criteria, c.actual = 0 ∧ c.success = true) ∧
      res.success = res.steps.all (·.success) := by
  obtain ⟨_, l, _, hl, hsteps, hc⟩ := runScenario_ok_inv h
  obtain ⟨hs, hcrit⟩ := evaluateCriteria_ok_inv hc
  exact ⟨hcrit, by rw [hs, runSteps_flag rfl hl, hsteps]⟩

theorem runScenario_criteria_placeholder_demo :
    ∃ res sent, runScenario demoShell "t0" "t1" thresholdScenario "tf-k8s-demo" [] = .ok res sent ∧
      (∀ c ∈ res.criteria, c.actual = 0 ∧ c.success = true) ∧
        res.success = res.steps.all (·.success) := by
  obtain ⟨res, sent, h⟩ : ∃ res sent,
      runScenario demoShell "t0" "t1" thresholdScenario "tf-k8s-demo" [] = .ok res sent :=
    ⟨_, _, rfl⟩
  exact ⟨res, sent, h, runScenario_criteria_placeholder h⟩

end TfK8s.Runner
