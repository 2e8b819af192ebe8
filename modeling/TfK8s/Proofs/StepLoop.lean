import TfK8s.Runner.Run

/-!
# The step loop sends what the spec says, and records what it sent

`run_scenario` nests two loops with two different `break`s, writes three
locals in the inner one and two in the outer one, and reads each step through
`.get`. The spec describes the same run without any of that: each step sends
its commands, namespace substituted, up to and including the first the shell
fails; the scenario stops after the first failed step whose `critical` is
truthy. This file states that account as plain recursions and proves the
loops compute it.

`stepRun` is one step of the account. The shell is an oracle that sees every
command sent before, so a step's run depends on the history it starts from;
`runAll` runs every step after the ones before it, as if none aborted, and
`abortAt` is the spec's `k`. Running past `k` costs nothing: the loop lemma
only ever looks at the first `k` runs, and those are exactly the runs the
loop performs, because each sees the history the loop has built.

The loop lemmas take steps that are mappings whose `commands` is a list of
strings; anything else raises in `.get`, `.replace` or iteration, which is
where the precondition file picks up. Two more things make the body raise
before its record is appended: a name whose f-string raises, and a command
`/bin/sh` cannot be started on, one with a NUL or of 128 KiB or more. So the
lemmas about the body say what it returns when neither happens, and that when
it returns, neither happened for the commands it sent.
-/

namespace TfK8s.Runner

open Py Script

/-- `cmd.replace('{namespace}', namespace)`. -/
def substitute (ns cmd : String) : String :=
  ⟨Py.replace cmd.data "{namespace}".data ns.data⟩

/-- One step's commands as the spec runs them. -/
structure StepRun where
  /-- the commands sent, in order -/
  sent : List String
  /-- the outputs of the commands that succeeded -/
  outputs : List String
  /-- the error text of the command that failed, if one did -/
  failure : Option String

/-- Send `cmds` in order after `hist`, up to and including the first one the
shell fails. -/
def stepRun (shell : Shell) (hist : List String) : List String → StepRun
  | [] => ⟨[], [], none⟩
  | c :: cs =>
      match shell hist c with
      | .ok o =>
          let r := stepRun shell (hist ++ [c]) cs
          ⟨c :: r.sent, o :: r.outputs, r.failure⟩
      | .error e => ⟨[c], [], some e⟩

/-- The output chunks a run leaves: one per successful command, then the
error marker of the failing one. -/
def StepRun.chunks (r : StepRun) : List String :=
  r.outputs ++ r.failure.toList.map ("ERROR: " ++ ·)

/-- The record the runner appends for a run under the name `name`. -/
def StepRun.record (r : StepRun) (name : PyVal) : StepRecord :=
  ⟨name, r.failure.isNone, r.chunks⟩

/-- `step.get(key, default)` on a step that is a mapping. -/
def field (step : PyVal) (key : String) (default : PyVal) : PyVal :=
  match step with
  | .dict kvs => (PyVal.lookup kvs key).getD default
  | _ => default

/-- `step.get('name', f"Step {i+1}")`. -/
def stepName (i : Nat) (step : PyVal) : PyVal :=
  field step "name" (.str ("Step " ++ toString (i + 1)))

/-- `step.get('critical', True)`, as the `and` tests it. -/
def critical (step : PyVal) : Bool :=
  (field step "critical" (.bool true)).truthy

/-- The string commands a step lists. -/
def commandsOf (step : PyVal) : List String :=
  match field step "commands" (.list []) with
  | .list xs => xs.filterMap fun | .str s => some s | _ => none
  | _ => []

/-- A step the spec speaks of: a mapping whose `commands`, if present, is a
list of strings. -/
def IsStepDict (step : PyVal) : Prop :=
  (∃ kvs, step = .dict kvs) ∧
    field step "commands" (.list []) = .list ((commandsOf step).map .str)

/-- A step dict the loop body gets through on the namespace `ns`: its name
can be printed, and each of its commands, namespace substituted, can be handed
to `/bin/sh`. -/
def StepLaunches (ns : String) (step : PyVal) : Prop :=
  IsStepDict step ∧ (field step "name" .none).intsFit = true ∧
    ∀ c ∈ commandsOf step, argvOk (shellArgv (substitute ns c)) = true

/-- Every step run after the ones before it, as though none aborted. -/
def runAll (shell : Shell) (ns : String) (hist : List String) : List PyVal → List StepRun
  | [] => []
  | step :: rest =>
      let r := stepRun shell hist ((commandsOf step).map (substitute ns))
      r :: runAll shell ns (hist ++ r.sent) rest

/-- Which runs end the scenario: a failed step whose `critical` is truthy. -/
def abortFlags (runs : List StepRun) (steps : List PyVal) : List Bool :=
  List.zipWith (fun r s => r.failure.isSome && critical s) runs steps

/-- The spec's `k`: one plus the index of the first flag set, or the number of
flags when none is. -/
def abortAt (flags : List Bool) : Nat :=
  match flags.findIdx? id with
  | some j => j + 1
  | none => flags.length

/-- The records of steps `i, i + 1, …`, each run as in `runs`. -/
def recordsFrom : Nat → List PyVal → List StepRun → List StepRecord
  | i, s :: ss, r :: rs => r.record (stepName i s) :: recordsFrom (i + 1) ss rs
  | _, _, _ => []

/-- The shell's answer to each command of `sent`, sent in order after `hist`. -/
def answers (shell : Shell) (hist : List String) : List String → List (Except String String)
  | [] => []
  | c :: cs => shell hist c :: answers shell (hist ++ [c]) cs

/-- The text of a failed answer. -/
def errorText : Except String String → Option String
  | .error e => some e
  | .ok _ => none

/-! ## One step -/

theorem stepRun_answers (shell : Shell) :
    ∀ (hist cmds : List String), answers shell hist (stepRun shell hist cmds).sent =
      (stepRun shell hist cmds).outputs.map .ok ++ (stepRun shell hist cmds).failure.toList.map .error
  | _, [] => rfl
  | hist, c :: cs => by
      cases h : shell hist c <;> simp [stepRun, answers, h, stepRun_answers shell _ cs]

theorem stepRun_sent_prefix (shell : Shell) :
    ∀ (hist cmds : List String), (stepRun shell hist cmds).sent <+: cmds
  | _, [] => List.prefix_refl _
  | hist, c :: cs => by
      cases h : shell hist c
      · simp [stepRun, h]
      · simpa [stepRun, h] using stepRun_sent_prefix shell (hist ++ [c]) cs

theorem stepRun_sent_of_none (shell : Shell) :
    ∀ (hist cmds : List String), (stepRun shell hist cmds).failure = none →
      (stepRun shell hist cmds).sent = cmds
  | _, [] => fun _ => rfl
  | hist, c :: cs => by
      cases h : shell hist c <;> simp [stepRun, h]
      exact stepRun_sent_of_none shell _ cs

theorem replace_namespace (ns c : String) :
    (PyVal.str c).replace "{namespace}" ns = .ok (substitute ns c) := rfl

theorem mem_stepRun_sent_head (shell : Shell) (hist : List String) (c : String) (cs : List String) :
    c ∈ (stepRun shell hist (c :: cs)).sent := by
  unfold stepRun; split <;> simp

theorem mem_stepRun_sent_tail {shell : Shell} {hist : List String} {c o : String} {cs : List String}
    (h : shell hist c = .ok o) {x : String} (hx : x ∈ (stepRun shell (hist ++ [c]) cs).sent) :
    x ∈ (stepRun shell hist (c :: cs)).sent := by
  simp [stepRun, h, hx]

/-- The command loop on string commands is `stepRun` when every command it
sends can be started: it sends what the spec sends, and leaves the flags
cleared exactly when the run failed. -/
theorem runCommands_str (shell : Shell) (ns : String) :
    ∀ (cmds : List String) (l : CmdLocals) (hist : List String),
    (∀ c ∈ (stepRun shell hist (cmds.map (substitute ns))).sent, argvOk (shellArgv c) = true) →
    runCommands shell ns (cmds.map .str) l hist =
      let r := stepRun shell hist (cmds.map (substitute ns))
      .ok ⟨l.success && r.failure.isNone, l.stepSuccess && r.failure.isNone,
        l.stepOutput ++ r.chunks⟩ (hist ++ r.sent)
  | [], l, hist, _ => by simp [runCommands, stepRun, StepRun.chunks]
  | c :: cs, l, hist, h => by
      simp only [List.map_cons] at h ⊢
      simp only [runCommands, replace_namespace, lift_ok_bind,
        checkOutput_bind_of_argvOk (h _ (mem_stepRun_sent_head ..))]
      cases hsh : shell hist (substitute ns c) with
      | ok o =>
          simp [hsh, runCommands_str shell ns cs _ _ fun x hx => h x (mem_stepRun_sent_tail hsh hx),
            stepRun, StepRun.chunks]
      | error e => simp [hsh, stepRun, StepRun.chunks]

/-- When the command loop returns, every command it sent could be started. -/
theorem argvOk_of_runCommands (shell : Shell) (ns : String) :
    ∀ (cmds : List String) (l : CmdLocals) (hist : List String) {c : CmdLocals} {s : List String},
    runCommands shell ns (cmds.map .str) l hist = .ok c s →
      ∀ x ∈ (stepRun shell hist (cmds.map (substitute ns))).sent, argvOk (shellArgv x) = true
  | [], _, _, _, _, _ => by simp [stepRun]
  | c :: cs, l, hist, _, _, h => by
      simp only [List.map_cons, runCommands, replace_namespace, lift_ok_bind] at h ⊢
      obtain ⟨hc, h⟩ := checkOutput_bind_eq_ok h
      cases hsh : shell hist (substitute ns c) with
      | ok o =>
          rw [hsh] at h
          simpa [stepRun, hsh, hc] using argvOk_of_runCommands shell ns cs _ _ h
      | error e => simp [stepRun, hsh, hc]

theorem intsFit_of_format {v : PyVal} {t : String} (h : v.format = .ok t) : v.intsFit = true := by
  unfold PyVal.format at h; split at h <;> simp_all

/-- The name the body formats is the step's own when it has one, and a `str`
otherwise. -/
theorem intsFit_stepName (i : Nat) (kvs : List (PyVal × PyVal)) :
    ((PyVal.lookup kvs "name").getD (.str ("Step " ++ toString (i + 1)))).intsFit =
      (field (.dict kvs) "name" .none).intsFit := by
  simp only [field]
  cases PyVal.lookup kvs "name" <;> rfl

theorem executeStep_dict {ns : String} {step : PyVal} (hs : IsStepDict step)
    (hname : (field step "name" .none).intsFit = true) (shell : Shell) (i : Nat) (l : StepLocals)
    (hist : List String)
    (hsent : ∀ c ∈ (stepRun shell hist ((commandsOf step).map (substitute ns))).sent,
      argvOk (shellArgv c) = true) :
    executeStep shell ns i step l hist =
      let r := stepRun shell hist ((commandsOf step).map (substitute ns))
      .ok (⟨l.steps ++ [r.record (stepName i step)], l.success && r.failure.isNone⟩,
          r.failure.isSome && critical step) (hist ++ r.sent) := by
  obtain ⟨⟨kvs, rfl⟩, hc⟩ := hs
  simp only [field] at hc
  simp only [executeStep, PyVal.get_dict, hc, PyVal.iter_list, lift_ok_bind,
    PyVal.format_of_intsFit ((intsFit_stepName i kvs).trans hname)]
  rw [bind_of_ok (runCommands_str shell ns _ _ _ hsent)]
  cases hf : (stepRun shell hist ((commandsOf (.dict kvs)).map (substitute ns))).failure <;>
    simp [hf, stepName, critical, field, StepRun.record]

/-- When the body returns on a step dict, the step's name printed and every
command it sent could be started. -/
theorem executeStep_launched {shell : Shell} {ns : String} {i : Nat} {step : PyVal} {l : StepLocals}
    {hist : List String} (hs : IsStepDict step) {r : StepLocals × Bool} {s : List String}
    (h : executeStep shell ns i step l hist = .ok r s) :
    (field step "name" .none).intsFit = true ∧
      ∀ c ∈ (stepRun shell hist ((commandsOf step).map (substitute ns))).sent,
        argvOk (shellArgv c) = true := by
  obtain ⟨⟨kvs, rfl⟩, hc⟩ := hs
  simp only [field] at hc
  simp only [executeStep, PyVal.get_dict, lift_ok_bind] at h
  obtain ⟨_, hf, h⟩ := lift_bind_eq_ok h
  simp only [hc, PyVal.iter_list, lift_ok_bind] at h
  obtain ⟨_, _, hrun, -⟩ := bind_eq_ok h
  exact ⟨(intsFit_stepName i kvs).symm.trans (intsFit_of_format hf),
    argvOk_of_runCommands shell ns _ _ _ hrun⟩

theorem answers_length (shell : Shell) :
    ∀ (hist cmds : List String), (answers shell hist cmds).length = cmds.length
  | _, [] => rfl
  | hist, _ :: cs => by simp [answers, answers_length shell _ cs]

theorem stepRun_oks (shell : Shell) (hist cmds : List String) :
    (answers shell hist (stepRun shell hist cmds).sent).filterMap Except.toOption =
      (stepRun shell hist cmds).outputs := by
  rw [stepRun_answers]
  cases (stepRun shell hist cmds).failure <;>
    simp [List.filterMap_map, Function.comp_def, Except.toOption, List.filterMap_some]

theorem stepRun_errs (shell : Shell) (hist cmds : List String) :
    (answers shell hist (stepRun shell hist cmds).sent).filterMap errorText =
      (stepRun shell hist cmds).failure.toList := by
  rw [stepRun_answers]
  cases (stepRun shell hist cmds).failure <;>
    simp [List.filterMap_map, Function.comp_def, errorText]

theorem stepRun_sent_length (shell : Shell) (hist cmds : List String) :
    (stepRun shell hist cmds).sent.length =
      (stepRun shell hist cmds).outputs.length + (stepRun shell hist cmds).failure.toList.length := by
  simpa [answers_length] using congrArg List.length (stepRun_answers shell hist cmds)

/-- A shell on which `false` fails and every other command prints nothing. -/
def demoShell : Shell := fun _ cmd =>
  if cmd = "false" then .error "Command 'false' returned non-zero exit status 1." else .ok ""

/-- A non-critical step whose second command fails. -/
def demoStep : PyVal :=
  .dict [(.str "name", .str "deploy"),
    (.str "commands", .list [.str "kubectl apply -n {namespace} -f k8s", .str "false", .str "true"]),
    (.str "critical", .bool false)]

@[simp] theorem abortFlags_cons (r : StepRun) (runs : List StepRun) (s : PyVal)
    (steps : List PyVal) :
    abortFlags (r :: runs) (s :: steps) = (r.failure.isSome && critical s) :: abortFlags runs steps :=
  rfl

@[simp] theorem abortAt_nil : abortAt [] = 0 := rfl

@[simp] theorem abortAt_true (fs : List Bool) : abortAt (true :: fs) = 1 := rfl

@[simp] theorem abortAt_false (fs : List Bool) : abortAt (false :: fs) = abortAt fs + 1 := by
  unfold abortAt
  rw [List.findIdx?_cons, if_neg (by simp), List.findIdx?_start_succ]
  cases fs.findIdx? id <;> simp

theorem abortAt_le_length : ∀ fs : List Bool, abortAt fs ≤ fs.length
  | [] => le_refl _
  | true :: _ => by simp
  | false :: fs => by simpa using abortAt_le_length fs

theorem length_runAll (shell : Shell) (ns : String) :
    ∀ (hist : List String) (steps : List PyVal), (runAll shell ns hist steps).length = steps.length
  | _, [] => rfl
  | _, _ :: rest => by simp [runAll, length_runAll shell ns _ rest]

theorem recordsFrom_names :
    ∀ (i : Nat) (ss : List PyVal) (rs : List StepRun), ss.length ≤ rs.length →
      (recordsFrom i ss rs).map StepRecord.name = ss.mapIdx fun j s => stepName (i + j) s
  | _, [], _, _ => rfl
  | _, _ :: _, [], h => absurd h (by simp)
  | i, s :: ss, r :: rs, h => by
      simp only [recordsFrom, List.map_cons, List.mapIdx_cons, Nat.add_zero, StepRun.record]
      rw [recordsFrom_names (i + 1) ss rs (by simpa using h)]
      simp [Nat.add_assoc, Nat.add_comm 1]

theorem StepLaunches.sent {ns : String} {step : PyVal} (h : StepLaunches ns step) (shell : Shell)
    (hist : List String) :
    ∀ c ∈ (stepRun shell hist ((commandsOf step).map (substitute ns))).sent,
      argvOk (shellArgv c) = true := fun c hc => by
  have hp := stepRun_sent_prefix shell hist ((commandsOf step).map (substitute ns))
  obtain ⟨x, hx, rfl⟩ := List.mem_map.1 (hp.subset hc)
  exact h.2.2 x hx

theorem runSteps_dicts (shell : Shell) (ns : String) :
    ∀ (steps : List PyVal) (i : Nat) (l : StepLocals) (hist : List String),
    (∀ s ∈ steps, StepLaunches ns s) →
    runSteps shell ns i steps l hist =
      let runs := runAll shell ns hist steps
      let k := abortAt (abortFlags runs steps)
      .ok ⟨l.steps ++ recordsFrom i (steps.take k) runs,
           l.success && ((runs.take k).all fun r => r.failure.isNone)⟩
        (hist ++ ((runs.take k).map StepRun.sent).flatten)
  | [], i, l, hist, _ => by simp [runSteps, runAll, recordsFrom]
  | s :: rest, i, l, hist, h => by
      have ih := runSteps_dicts shell ns rest (i + 1)
      simp only [runSteps]
      have hs := h s (List.mem_cons_self _ _)
      rw [bind_of_ok (executeStep_dict hs.1 hs.2.1 shell i l hist (hs.sent shell hist))]
      simp only [runAll, abortFlags_cons]
      generalize stepRun shell hist ((commandsOf s).map (substitute ns)) = r
      cases hstop : r.failure.isSome && critical s
      · simp only [hstop, abortAt_false, Bool.false_eq_true, if_false]
        rw [ih _ _ (fun x hx => h x (List.mem_cons_of_mem _ hx))]
        simp [recordsFrom, Bool.and_assoc]
      · simp [hstop, recordsFrom]

theorem runCriteria_silent :
    ∀ (criteria : List PyVal) (records : List CriterionRecord) (success : Bool),
      Silent (runCriteria criteria records success)
  | [], _, _ => silent_pure _
  | _ :: rest, _, _ =>
      (silent_lift _).bind fun _ => (silent_lift _).bind fun _ => runCriteria_silent rest _ _

theorem evaluateCriteria_silent (scenario : PyVal) (success : Bool) :
    Silent (evaluateCriteria scenario success) :=
  (silent_lift _).bind fun _ => (silent_lift _).bind fun _ => runCriteria_silent _ _ _

/-- The shell sees each step's commands through its first failure, step after
step, and nothing past the first failed critical step; when `run_scenario`
returns, it has recorded exactly those steps, under their names. This needs
the identifier to be found and printed, and each step to be a step dict that
the loop body gets through. -/
theorem runScenario_step_sequence (shell : Shell) (startTime endTime : String)
    (scenario : PyVal) (ns : String) (hist : List String) (steps : List PyVal)
    (hid : ∃ id, scenarioIdOf scenario = .ok id ∧ id.intsFit = true)
    (hsteps : scenario.get "steps" (.list []) = .ok (.list steps))
    (hshape : ∀ s ∈ steps, StepLaunches ns s) :
    let runs := runAll shell ns hist steps
    let k := abortAt (abortFlags runs steps)
    sentBy (runScenario shell startTime endTime scenario ns hist) =
        hist ++ ((runs.take k).map StepRun.sent).flatten ∧
      ∀ res sent, runScenario shell startTime endTime scenario ns hist = .ok res sent →
        res.steps.length = k ∧ res.steps.map StepRecord.name = (steps.take k).mapIdx stepName := by
  obtain ⟨id, hid, hfit⟩ := hid
  have hk : abortAt (abortFlags (runAll shell ns hist steps) steps) ≤ steps.length :=
    (abortAt_le_length _).trans (by simp [abortFlags, length_runAll])
  simp only [runScenario, hid, PyVal.format_of_intsFit hfit, hsteps, PyVal.iter_list, lift_ok_bind]
  rw [bind_of_ok (runSteps_dicts shell ns steps 0 ⟨[], true⟩ hist hshape)]
  refine ⟨(evaluateCriteria_silent _ _).bind (fun _ => silent_pure _) _, fun res sent h => ?_⟩
  obtain ⟨_, _, -, hres⟩ := bind_eq_ok h
  cases hres
  have hnames := recordsFrom_names 0 (steps.take (abortAt (abortFlags (runAll shell ns hist steps)
    steps))) (runAll shell ns hist steps) (by rw [length_runAll]; exact List.length_take_le' _ _)
  simp only [Nat.zero_add] at hnames
  refine ⟨?_, by simpa using hnames⟩
  simpa [hk] using congrArg List.length hnames

/-- Two steps: the non-critical `demoStep`, then one that verifies. -/
def demoSteps : List PyVal :=
  [demoStep, .dict [(.str "commands", .list [.str "python verify.py --namespace {namespace}"])]]

/-- A scenario made of `demoSteps`. -/
def demoScenario : PyVal :=
  .dict [(.str "metadata", .dict [(.str "id", .str "TF-DEMO-1_Steps")]),
    (.str "steps", .list demoSteps)]

theorem demoSteps_launch : ∀ s ∈ demoSteps, StepLaunches "tf-k8s-demo" s := by
  simp only [demoSteps, List.forall_mem_cons, List.not_mem_nil, false_imp_iff, implies_true,
    and_true]
  exact ⟨⟨⟨⟨_, rfl⟩, rfl⟩, rfl, by decide⟩, ⟨⟨_, rfl⟩, rfl⟩, rfl, by decide⟩

theorem runScenario_step_sequence_demo :
    (∃ id, scenarioIdOf demoScenario = .ok id ∧ id.intsFit = true) ∧
      demoScenario.get "steps" (.list []) = .ok (.list demoSteps) ∧
      (∀ s ∈ demoSteps, StepLaunches "tf-k8s-demo" s) ∧
      let runs := runAll demoShell "tf-k8s-demo" [] demoSteps
      let k := abortAt (abortFlags runs demoSteps)
      sentBy (runScenario demoShell "t0" "t1" demoScenario "tf-k8s-demo" []) =
          [] ++ ((runs.take k).map StepRun.sent).flatten ∧
        ∀ res sent, runScenario demoShell "t0" "t1" demoScenario "tf-k8s-demo" [] = .ok res sent →
          res.steps.length = k ∧ res.steps.map StepRecord.name = (demoSteps.take k).mapIdx stepName :=
  have hid : ∃ id, scenarioIdOf demoScenario = .ok id ∧ id.intsFit = true := ⟨_, rfl, rfl⟩
  ⟨hid, rfl, demoSteps_launch,
    runScenario_step_sequence demoShell "t0" "t1" demoScenario "tf-k8s-demo" [] demoSteps hid rfl
      demoSteps_launch⟩

/-- `demoScenario` with `metadata: null`. -/
def nullMetadataScenario : PyVal :=
  .dict [(.str "metadata", .none), (.str "steps", .list demoSteps)]

/-- With `metadata: null` the identifier's lookup raises before any step runs:
nothing is sent, where the step sequence the spec gives is not empty. -/
theorem runScenario_null_metadata :
    nullMetadataScenario.get "steps" (.list []) = .ok (.list demoSteps) ∧
      (∀ s ∈ demoSteps, StepLaunches "tf-k8s-demo" s) ∧
      runScenario demoShell "t0" "t1" nullMetadataScenario "tf-k8s-demo" [] =
        .error (.attributeError "NoneType" "get") [] ∧
      let runs := runAll demoShell "tf-k8s-demo" [] demoSteps
      ((runs.take (abortAt (abortFlags runs demoSteps))).map StepRun.sent).flatten ≠ [] :=
  ⟨rfl, demoSteps_launch, rfl, by decide⟩

end TfK8s.Runner
