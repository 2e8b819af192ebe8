import TfK8s.Proofs.Namespace

/-!
# What an accepted scenario definition is made of

The definition check reports a problem by appending a message, and reports a
raise the same way, through its `except`. A document it accepts from a clean
start has therefore made every check append nothing and every expression
return: each `in` was true where a report would follow a false one, and each
subscript, iteration and `re.match` it evaluated found a value of the right
kind. This file reads those facts off acceptance, one check at a time.

What acceptance does not give is as important. `in` on a string is a substring
test and `any` stops at its first hit, so a criterion may be a string that
mentions `name`, `threshold` and `metric`, and a command after the first that
mentions `kubectl apply` and `verify` is never looked at.
-/

namespace TfK8s.Validator

open Py Check

variable {β : Type}

/-- A document the definition check accepts when nothing was reported before
it: nothing appended, verdict true. -/
def Accepted (scenario : PyVal) : Prop :=
  Clean (validateScenarioDefinition [] (.ok scenario)) true

/-! ## Clean checks -/

/-- A clean `if p: self.errors.append(m)` followed by more checks did not
report. -/
theorem clean_ite_report {p : Prop} [Decidable p] {m : String} {k : Unit → Check β} {y : Check β}
    {b : β} (h : Clean (if p then report m >>= k else y) b) : ¬p ∧ Clean y b := by
  by_cases hp : p
  · rw [if_pos hp] at h
    obtain ⟨_, hr, -⟩ := bind_clean h
    exact absurd hr (report_not_clean m)
  · rw [if_neg hp] at h
    exact ⟨hp, h⟩

/-- A clean `if p: self.errors.append(m)` at the end of a check did not report. -/
theorem clean_ite_report_last {p : Prop} [Decidable p] {m : String}
    (h : Clean (if p then report m else pure ()) ()) : ¬p := by
  by_cases hp : p
  · rw [if_pos hp] at h
    exact absurd h (report_not_clean m)
  · exact hp

/-- A clean check that evaluated `e` found a value. -/
theorem lift_bind_clean {α : Type} {e : Except PyExc α} {f : α → Check β} {b : β}
    (h : Clean (lift e >>= f) b) : ∃ a, e = .ok a ∧ Clean (f a) b :=
  let ⟨a, ha, hf⟩ := bind_clean h
  ⟨a, lift_clean ha, hf⟩

theorem reportMissing_clean {container : PyVal} {message : String → String} :
    ∀ {keys : List String}, Clean (reportMissing container message keys) () →
      ∀ k ∈ keys, container.contains k = .ok true
  | [], _, _, hk => absurd hk (List.not_mem_nil _)
  | key :: keys, h, k, hk => by
      rw [reportMissing] at h
      obtain ⟨b, hb, h⟩ := lift_bind_clean h
      obtain ⟨hnb, hrest⟩ := clean_ite_report h
      rcases List.mem_cons.1 hk with rfl | hk
      · rw [hb, show b = true by simpa using hnb]
      · exact reportMissing_clean hrest k hk

/-- The `try` body of an accepted document ran clean. -/
theorem Accepted.checkDefinition {scenario : PyVal} (h : Accepted scenario) :
    Clean (checkDefinition scenario) () := by
  change Clean (catchAll (verdict [] (Validator.checkDefinition scenario)) _) true at h
  generalize Validator.checkDefinition scenario = x at h ⊢
  obtain ⟨errs, r⟩ := x
  cases r with
  | ok u =>
      have he : errs = [] := congrArg Check.errors h
      rw [he]
      rfl
  | error e =>
      have he := congrArg Check.errors h
      simp [catchAll, verdict, Except.map, report, bind] at he

/-- The sections of an accepted document: each present, and each block of
checks clean. -/
theorem Accepted.sections {scenario : PyVal} (h : Accepted scenario) :
    (∀ k ∈ requiredSections, scenario.contains k = .ok true) ∧ Clean (checkMetadata scenario) () ∧
      Clean (checkRequirements scenario) () ∧ Clean (checkSteps scenario) () ∧
      Clean (checkCriteria scenario) () := by
  have h := h.checkDefinition
  obtain ⟨_, h₁, h⟩ := bind_clean h
  obtain ⟨_, h₂, h⟩ := bind_clean h
  obtain ⟨_, h₃, h⟩ := bind_clean h
  obtain ⟨_, h₄, h₅⟩ := bind_clean h
  exact ⟨reportMissing_clean h₁, h₂, h₃, h₄, h₅⟩

/-! ## The blocks the runner depends on -/

theorem matchId_eq_ok_true {v : PyVal} :
    matchId v = .ok true ↔ ∃ s, v = .str s ∧ reMatch idPattern s = true := by
  unfold matchId
  split <;> simp_all

theorem checkMetadata_clean {scenario : PyVal} (h : Clean (checkMetadata scenario) ())
    (hin : scenario.contains "metadata" = .ok true) :
    ∃ metadata id, scenario.subscript "metadata" = .ok metadata ∧
      metadata.subscript "id" = .ok (.str id) ∧ reMatch idPattern id = true := by
  obtain ⟨b, hb, h⟩ := lift_bind_clean h
  obtain rfl : b = true := Except.ok.inj (hb.symm.trans hin)
  obtain ⟨metadata, hm, h⟩ := lift_bind_clean h
  obtain ⟨_, hmissing, h⟩ := bind_clean h
  obtain ⟨b, hb, h⟩ := lift_bind_clean h
  obtain rfl : b = true := Except.ok.inj
    (hb.symm.trans (reportMissing_clean hmissing "id" (List.mem_cons_self _ _)))
  obtain ⟨idv, hidv, h⟩ := lift_bind_clean h
  obtain ⟨b, hb, h⟩ := lift_bind_clean h
  obtain rfl : b = true := by simpa using clean_ite_report_last h
  obtain ⟨id, rfl, hid⟩ := matchId_eq_ok_true.mp hb
  exact ⟨metadata, id, hm, hidv, hid⟩

/-- `[s for s in steps if ...]` returned: every step had a `.get`, and its
commands could be iterated. -/
theorem stepsMentioning_ok {needle : String} :
    ∀ {steps kept : List PyVal}, stepsMentioning needle steps = .ok kept →
      ∀ step ∈ steps, (∃ kvs, step = .dict kvs) ∧
        ∃ cmds, (step.get "commands" (.list []) >>= PyVal.iter) = .ok cmds
  | [], _, _, _, hs => absurd hs (List.not_mem_nil _)
  | s :: rest, _, h, step, hs => by
      obtain ⟨keep, hkeep, h⟩ := exceptBind_eq_ok h
      obtain ⟨kept, hkept, -⟩ := exceptBind_eq_ok h
      rcases List.mem_cons.1 hs with rfl | hs
      · obtain ⟨commands, hc, hm⟩ := exceptBind_eq_ok hkeep
        obtain ⟨cmds, hcmds, -⟩ := exceptBind_eq_ok hm
        refine ⟨?_, cmds, by rw [hc]; exact hcmds⟩
        cases step <;> simp [PyVal.get] at hc
        exact ⟨_, rfl⟩
      · exact stepsMentioning_ok hkept step hs

theorem checkSteps_clean {scenario : PyVal} (h : Clean (checkSteps scenario) ())
    (hin : scenario.contains "steps" = .ok true) :
    ∃ steps, scenario.subscript "steps" = .ok steps ∧ ∃ stepList, steps.iter = .ok stepList ∧
      ∃ kept, stepsMentioning "kubectl apply" stepList = .ok kept := by
  obtain ⟨b, hb, h⟩ := lift_bind_clean h
  obtain rfl : b = true := Except.ok.inj (hb.symm.trans hin)
  obtain ⟨steps, hsteps, h⟩ := lift_bind_clean h
  obtain ⟨-, h⟩ := clean_ite_report h
  obtain ⟨_, -, h⟩ := lift_bind_clean h
  obtain ⟨-, h⟩ := clean_ite_report h
  obtain ⟨_, -, h⟩ := bind_clean h
  obtain ⟨stepList, hl, h⟩ := lift_bind_clean h
  obtain ⟨kept, hkept, -⟩ := lift_bind_clean h
  exact ⟨steps, hsteps, stepList, hl, kept, hkept⟩

theorem checkCriteria_clean {scenario : PyVal} (h : Clean (checkCriteria scenario) ())
    (hin : scenario.contains "success_criteria" = .ok true) :
    ∃ criteria, scenario.subscript "success_criteria" = .ok criteria ∧
      ∃ criterionList, criteria.iter = .ok criterionList := by
  obtain ⟨b, hb, h⟩ := lift_bind_clean h
  obtain rfl : b = true := Except.ok.inj (hb.symm.trans hin)
  obtain ⟨criteria, hcriteria, h⟩ := lift_bind_clean h
  obtain ⟨-, h⟩ := clean_ite_report h
  obtain ⟨_, -, h⟩ := lift_bind_clean h
  obtain ⟨-, h⟩ := clean_ite_report h
  obtain ⟨_, -, h⟩ := bind_clean h
  obtain ⟨criterionList, hl, -⟩ := lift_bind_clean h
  exact ⟨criteria, hcriteria, criterionList, hl⟩

end TfK8s.Validator
