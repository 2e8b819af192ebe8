import TfK8s.Runner.Main

/-!
# `main` attempts every file, and exits 0 only when every file passed

`main`'s loop keeps one flag and one state. Its `try` turns any raise into a
cleared flag, so the loop over the files never raises and always reaches the
next file, in the state the failed attempt left. The flag ends true exactly
when every attempt returned normally with successful results, each starting
where the one before ended.

Which files `setup_scenario` is called on is not visible in the state of an
arbitrary set of phases, so it is read off a traced copy of them, whose setup
also appends the file to a log: main run with the traced phases returns what
it returns with the plain ones, and its log is the list of files, in order.
-/

namespace TfK8s.Runner

open Py Script

variable {σ : Type}

/-! ## One file -/

/-- All four phases returned for `file`, from `s` to `s'`, and the results were
a success. -/
def Passes (p : Phases σ) (file : String) (s s' : σ) : Prop :=
  ∃ scenario ns results filename s₁ s₂ s₃,
    p.setupScenario file s = .ok (scenario, ns) s₁ ∧
    p.runScenario scenario ns s₁ = .ok results s₂ ∧
    p.saveResults results s₂ = .ok filename s₃ ∧ results.success = true ∧
    p.cleanupScenario scenario ns s₃ = .ok () s'

/-- Every file passes, each from the state the one before it left. -/
def AllPass (p : Phases σ) : List String → σ → Prop
  | [], _ => True
  | file :: rest, s => ∃ s', Passes p file s s' ∧ AllPass p rest s'

/-- What the flag does to an attempt: it is anded into the verdict. -/
def andFlag (b : Bool) : EStateM.Result PyExc σ Bool → EStateM.Result PyExc σ Bool
  | .ok r s => .ok (b && r) s
  | .error e s => .error e s

theorem attemptScenario_flag (p : Phases σ) (file : String) (b : Bool) (s : σ) :
    attemptScenario p file b s = andFlag b (attemptScenario p file true s) := by
  simp only [attemptScenario]
  cases h₁ : p.setupScenario file s with
  | error e s₁ => simp only [bind_of_error h₁, andFlag]
  | ok a s₁ =>
    simp only [bind_of_ok h₁]
    cases h₂ : p.runScenario a.1 a.2 s₁ with
    | error e s₂ => simp only [bind_of_error h₂, andFlag]
    | ok res s₂ =>
      simp only [bind_of_ok h₂]
      cases h₃ : p.saveResults res s₂ with
      | error e s₃ => simp only [bind_of_error h₃, andFlag]
      | ok fn s₃ =>
        simp only [bind_of_ok h₃]
        cases h₄ : p.cleanupScenario a.1 a.2 s₃ with
        | error e s₄ => simp only [bind_of_error h₄, andFlag]
        | ok u s₄ =>
          simp only [bind_of_ok h₄, pure_apply, andFlag]
          cases res.success <;> cases b <;> rfl

theorem attemptScenario_ok_true_iff (p : Phases σ) (file : String) (s s' : σ) :
    attemptScenario p file true s = .ok true s' ↔ Passes p file s s' := by
  simp only [attemptScenario, Passes]
  constructor
  · intro h
    obtain ⟨⟨scenario, ns⟩, s₁, h₁, h⟩ := bind_eq_ok h
    obtain ⟨results, s₂, h₂, h⟩ := bind_eq_ok h
    obtain ⟨filename, s₃, h₃, h⟩ := bind_eq_ok h
    obtain ⟨⟨⟩, s₄, h₄, h⟩ := bind_eq_ok h
    obtain ⟨hv, rfl⟩ := EStateM.Result.ok.inj h
    cases hs : results.success
    · simp [hs] at hv
    · exact ⟨scenario, ns, results, filename, s₁, s₂, s₃, h₁, h₂, h₃, hs, h₄⟩
  · rintro ⟨scenario, ns, results, filename, s₁, s₂, s₃, h₁, h₂, h₃, hs, h₄⟩
    rw [bind_of_ok h₁]
    simp only [bind_of_ok h₂, bind_of_ok h₃, hs, Bool.not_true, Bool.false_eq_true, if_false]
    rw [bind_of_ok h₄]
    rfl

/-! ## The loop -/

/-- The state after attempting every file in turn. -/
def afterAll (p : Phases σ) (files : List String) (s : σ) : σ :=
  files.foldl (fun t file => stateOf (attemptScenario p file true t)) s

theorem afterAll_cons (p : Phases σ) (file : String) (rest : List String) (s : σ) :
    afterAll p (file :: rest) s = afterAll p rest (stateOf (attemptScenario p file true s)) := rfl

theorem runScenarioFiles_spec (p : Phases σ) :
    ∀ (files : List String) (b : Bool) (s : σ), ∃ r,
      runScenarioFiles p files b s = .ok r (afterAll p files s) ∧
        (r = true ↔ b = true ∧ AllPass p files s)
  | [], b, s => ⟨b, rfl, by simp [AllPass]⟩
  | file :: rest, b, s => by
      simp only [runScenarioFiles]
      cases h : attemptScenario p file true s with
      | ok r₀ s₁ =>
          have hc : catchAll (attemptScenario p file b) (fun _ => pure false) s = .ok (b && r₀) s₁ :=
            catchAll_of_ok (by rw [attemptScenario_flag, h]; rfl)
          obtain ⟨r, hr, hiff⟩ := runScenarioFiles_spec p rest (b && r₀) s₁
          refine ⟨r, by rw [bind_of_ok hc, hr, afterAll_cons, h]; rfl, ?_⟩
          rw [hiff, AllPass]
          constructor
          · rintro ⟨hb, hrest⟩
            simp only [Bool.and_eq_true] at hb
            exact ⟨hb.1, s₁, (attemptScenario_ok_true_iff p file s s₁).1 (hb.2 ▸ h), hrest⟩
          · rintro ⟨hb, s', hpass, hrest⟩
            obtain ⟨rfl, rfl⟩ : true = r₀ ∧ s' = s₁ := by
              have := (attemptScenario_ok_true_iff p file s s').2 hpass
              rw [h] at this
              cases this; exact ⟨rfl, rfl⟩
            simp [hb, hrest]
      | error e s₁ =>
          have hc : catchAll (attemptScenario p file b) (fun _ => pure false) s = .ok false s₁ :=
            catchAll_of_error (by rw [attemptScenario_flag, h]; rfl)
          obtain ⟨r, hr, hiff⟩ := runScenarioFiles_spec p rest false s₁
          refine ⟨r, by rw [bind_of_ok hc, hr, afterAll_cons, h]; rfl, ?_⟩
          rw [hiff, AllPass]
          constructor
          · rintro ⟨⟨⟩, _⟩
          · rintro ⟨-, s', hpass, -⟩
            have := (attemptScenario_ok_true_iff p file s s').2 hpass
            rw [h] at this
            cases this

/-! ## The traced phases -/

/-- A result of the plain phases, with the log set to `log`. -/
def withLog {α : Type} (log : List String) :
    EStateM.Result PyExc σ α → EStateM.Result PyExc (σ × List String) α
  | .ok a s => .ok a (s, log)
  | .error e s => .error e (s, log)

/-- The phases `p`, with a log of the files `setup_scenario` is called on. -/
def Phases.traced (p : Phases σ) : Phases (σ × List String) where
  setupScenario file := fun (s, log) => withLog (log ++ [file]) (p.setupScenario file s)
  runScenario scenario ns := fun (s, log) => withLog log (p.runScenario scenario ns s)
  saveResults results := fun (s, log) => withLog log (p.saveResults results s)
  cleanupScenario scenario ns := fun (s, log) => withLog log (p.cleanupScenario scenario ns s)

/-- A traced statement that does what a plain one does and leaves the log alone. -/
def Mirrors {α : Type} (x' : EStateM PyExc (σ × List String) α) (x : EStateM PyExc σ α) : Prop :=
  ∀ s log, x' (s, log) = withLog log (x s)

theorem bind_withLog {α β : Type} {x' : EStateM PyExc (σ × List String) α} {x : EStateM PyExc σ α}
    {f' : α → EStateM PyExc (σ × List String) β} {f : α → EStateM PyExc σ β} {s : σ}
    {log log' : List String} (hx : x' (s, log) = withLog log' (x s)) (hf : ∀ a, Mirrors (f' a) (f a)) :
    (x' >>= f') (s, log) = withLog log' ((x >>= f) s) := by
  cases h : x s with
  | ok a s₁ => rw [h] at hx; rw [bind_of_ok hx, bind_of_ok h, hf]
  | error e s₁ => rw [h] at hx; rw [bind_of_error hx, bind_of_error h]; rfl

theorem attemptScenario_traced (p : Phases σ) (file : String) (b : Bool) (s : σ)
    (log : List String) :
    attemptScenario p.traced file b (s, log) = withLog (log ++ [file]) (attemptScenario p file b s) :=
  bind_withLog rfl fun _ _ _ =>
    bind_withLog rfl fun _ _ _ =>
      bind_withLog rfl fun _ _ _ => bind_withLog rfl fun _ _ _ => rfl

theorem runScenarioFiles_traced (p : Phases σ) :
    ∀ (files : List String) (b : Bool) (s : σ) (log : List String),
      runScenarioFiles p.traced files b (s, log) = withLog (log ++ files) (runScenarioFiles p files b s)
  | [], _, _, _ => by simp [runScenarioFiles]; rfl
  | file :: rest, b, s, log => by
      obtain ⟨r, s₁, hc⟩ : ∃ r s₁,
          catchAll (attemptScenario p file b) (fun _ => pure false) s = .ok r s₁ := by
        cases h : attemptScenario p file b s with
        | ok r s₁ => exact ⟨r, s₁, catchAll_of_ok h⟩
        | error e s₁ => exact ⟨false, s₁, catchAll_of_error h⟩
      have hc' : catchAll (attemptScenario p.traced file b) (fun _ => pure false) (s, log) =
          .ok r (s₁, log ++ [file]) := by
        simp only [catchAll, attemptScenario_traced] at hc ⊢
        cases h : attemptScenario p file b s <;> simp only [h] at hc <;> cases hc <;> rfl
      simp only [runScenarioFiles]
      rw [bind_of_ok hc', bind_of_ok hc, runScenarioFiles_traced p rest r s₁, List.append_assoc]
      rfl

/-! ## The exit status -/

/-- `main` returns an exit status, in the state every file's attempt left in
turn; the status is 0 exactly when there was a file and every file passed, and
1 otherwise. Traced, it calls `setup_scenario` on the files in order, whatever
each phase did. -/
theorem main_exit_status (p : Phases σ) (files : List String) (s : σ) :
    ∃ code, main p files s = .ok code (afterAll p files s) ∧ (code = 0 ∨ code = 1) ∧
      (code = 0 ↔ files ≠ [] ∧ AllPass p files s) ∧
      main p.traced files (s, []) = withLog files (main p files s) := by
  cases files with
  | nil => exact ⟨1, rfl, .inr rfl, by simp, rfl⟩
  | cons file rest =>
      obtain ⟨r, hr, hiff⟩ := runScenarioFiles_spec p (file :: rest) true s
      refine ⟨if !r then 1 else 0, ?_, ?_, ?_, ?_⟩
      · simp only [main, List.isEmpty_cons, Bool.false_eq_true, if_false]
        rw [bind_of_ok hr]; rfl
      · cases r <;> simp
      · simp only [ne_eq, reduceCtorEq, not_false_eq_true, true_and]
        rw [← hiff.trans (and_iff_right rfl)]
        cases r <;> simp
      · simp only [main, List.isEmpty_cons, Bool.false_eq_true, if_false]
        rw [bind_of_ok hr]
        have ht := runScenarioFiles_traced p (file :: rest) true s []
        rw [hr] at ht
        rw [bind_of_ok ht]
        rfl

end TfK8s.Runner
