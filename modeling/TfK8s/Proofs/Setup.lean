import TfK8s.Proofs.StepLoop
import TfK8s.Runner.Phases

/-!
# Setup creates the namespace, then applies the manifests, and rolls nothing back

`setup_scenario` loads the document, derives the namespace from its
identifier, and then sends one `kubectl` command after another under
`check=True`: the `create` of the namespace, then an `apply` of each manifest
in the order they are listed. The first command the shell fails raises
`CalledProcessError`, and nothing after it is sent. Nothing undoes what was
sent before: a namespace whose manifests failed to apply stays, and no
`delete` follows.

That is the account `stepRun` already gives of a step's commands, so
`setupScenario_eq` states setup through it: the commands it sends are
`stepRun`'s over the `create` and the `apply`s, and it returns exactly when
none failed. It does so when `kubectl` is found on `PATH` and every argument
vector passes the checks of `execve`; an identifier holding a NUL, for one,
makes the `create` raise `ValueError` with nothing sent.
-/

namespace TfK8s.Runner

open Py Script

/-! ## The commands -/

/-- `['kubectl', 'create', 'namespace', namespace]`. -/
def createArgv (ns : String) : List String := ["kubectl", "create", "namespace", ns]

/-- `['kubectl', 'apply', '-f', manifest, '-n', namespace]`. -/
def applyArgv (ns manifest : String) : List String := ["kubectl", "apply", "-f", manifest, "-n", ns]

/-- The `create`, as `subprocess.run` hands it to the shell. -/
def createCommand (ns : String) : String := " ".intercalate (createArgv ns)

/-- An `apply`, as sent. -/
def applyCommand (ns manifest : String) : String := " ".intercalate (applyArgv ns manifest)

/-- The argument vectors setup runs when none fails: the `create`, then an
`apply` of each manifest in listing order. -/
def setupArgvs (ns : String) (manifests : List String) : List (List String) :=
  createArgv ns :: manifests.map (applyArgv ns)

/-- The commands setup sends when none fails. -/
def setupCommands (ns : String) (manifests : List String) : List String :=
  createCommand ns :: manifests.map (applyCommand ns)

/-- What a run of checked commands raises: nothing when none failed, and the
`CalledProcessError` of the one that failed. -/
def StepRun.raised (r : StepRun) : Except PyExc Unit :=
  match r.failure with
  | none => .ok ()
  | some e => .error (.calledProcessError e)

/-- The document and its namespace, or what loading the file, reading its
identifier or deriving the namespace raised. -/
def loadNamed (disk : Disk) (scenarioPath : String) : Except PyExc (PyVal × String) := do
  let scenario ← disk.load scenarioPath
  let scenarioId ← scenarioIdOf scenario
  let ns ← namespaceOf scenarioId
  pure (scenario, ns)

/-! ## Checked commands -/

@[simp] theorem stepRun_nil (shell : Shell) (hist : List String) :
    stepRun shell hist [] = ⟨[], [], none⟩ := rfl

theorem stepRun_cons (shell : Shell) (hist : List String) (c : String) (cs : List String) :
    stepRun shell hist (c :: cs) = match shell hist c with
      | .ok o => ⟨c :: (stepRun shell (hist ++ [c]) cs).sent, o :: (stepRun shell (hist ++ [c]) cs).outputs,
          (stepRun shell (hist ++ [c]) cs).failure⟩
      | .error e => ⟨[c], [], some e⟩ := rfl

section Checked

variable {path : ExecPath} {shell : Shell}

/-- One checked command whose program is found and whose arguments pass:
`subprocess.run(argv, check=True)` sends it, and raises when the shell fails
it. -/
theorem subprocessRun_eq {argv : List String} (hpath : path (argv.headD "") = .ok ())
    (hargv : argvOk argv = true) (hist : List String) :
    subprocessRun path shell argv hist =
      lift (stepRun shell hist [" ".intercalate argv]).raised (hist ++ [" ".intercalate argv]) := by
  obtain ⟨hn, hl⟩ := argvOk_iff.1 hargv
  simp only [subprocessRun, hn, hl, hpath, lift_ok_bind, send_bind]
  cases h : shell hist (" ".intercalate argv) <;> simp only [stepRun_cons, h, StepRun.raised] <;> rfl

/-- A checked command, then checked commands after it: `stepRun` over all of
them, the rest only sent when the first succeeded. -/
theorem subprocessRun_then {α : Type} {a : α} {argv : List String}
    (hpath : path (argv.headD "") = .ok ()) (hargv : argvOk argv = true) (rest : List String)
    (k : Script α) (hk : ∀ hist, k hist =
      lift ((stepRun shell hist rest).raised.map fun _ => a) (hist ++ (stepRun shell hist rest).sent))
    (hist : List String) :
    (subprocessRun path shell argv >>= fun _ => k) hist =
      lift ((stepRun shell hist (" ".intercalate argv :: rest)).raised.map fun _ => a)
        (hist ++ (stepRun shell hist (" ".intercalate argv :: rest)).sent) := by
  rw [show (subprocessRun path shell argv >>= fun _ => k) hist =
    EStateM.bind (subprocessRun path shell argv) (fun _ => k) hist from rfl, EStateM.bind,
    subprocessRun_eq hpath hargv]
  cases h : shell hist (" ".intercalate argv) with
  | error e => simp only [stepRun_cons, h]; rfl
  | ok o =>
      simp only [stepRun_cons, h]
      show k (hist ++ [_]) = _
      rw [hk, List.append_assoc, List.singleton_append]
      rfl

/-- `for manifest in manifest_files: subprocess.run([... 'apply' ...], check=True)`,
then a return: the `apply`s are sent up to and including the first that fails,
and the return is reached when none failed. -/
theorem applyManifests_then {α : Type} {a : α} (hpath : path "kubectl" = .ok ()) (ns : String) :
    ∀ (manifests : List String), (∀ m ∈ manifests, argvOk (applyArgv ns m) = true) →
      ∀ hist, (applyManifests path shell ns manifests >>= fun _ => (pure a : Script α)) hist =
        lift ((stepRun shell hist (manifests.map (applyCommand ns))).raised.map fun _ => a)
          (hist ++ (stepRun shell hist (manifests.map (applyCommand ns))).sent)
  | [], _, hist => by simp [applyManifests, StepRun.raised, lift, Except.map]
  | manifest :: rest, h, hist => by
      rw [applyManifests, List.map_cons, bind_assoc]
      exact subprocessRun_then hpath (h _ (List.mem_cons_self _ _)) _ _
        (applyManifests_then hpath ns rest fun m hm => h m (List.mem_cons_of_mem _ hm)) hist

end Checked

/-! ## Setup -/

theorem lift_exceptBind {α β σ : Type} (x : Except PyExc α) (f : α → Except PyExc β) :
    (lift (x >>= f) : EStateM PyExc σ β) = lift x >>= fun a => lift (f a) := by
  cases x <;> rfl

/-- Setup is `loadNamed`, then the commands. -/
theorem setupScenario_loadNamed (disk : Disk) (path : ExecPath) (shell : Shell)
    (scenarioPath : String) :
    setupScenario disk path shell scenarioPath = lift (loadNamed disk scenarioPath) >>= fun r => (do
      subprocessRun path shell (createArgv r.2)
      applyManifests path shell r.2 (disk.manifests scenarioPath)
      pure r) := by
  simp only [setupScenario, loadNamed, lift_exceptBind, bind_assoc]
  rfl

/-- For every disk, shell and history: once the document is loaded and named,
and with `kubectl` on `PATH` and every argument vector one `execve` takes,
`setup_scenario` sends the `create` of its namespace and then an `apply` of
each manifest in listing order, up to and including the first command the
shell fails. It returns the document and the namespace exactly when no command
failed, and otherwise raises that command's `CalledProcessError`; whatever was
sent stays sent. -/
theorem setupScenario_eq (disk : Disk) (path : ExecPath) (shell : Shell) {scenarioPath : String}
    {scenario : PyVal} {ns : String} (h : loadNamed disk scenarioPath = .ok (scenario, ns))
    (hpath : path "kubectl" = .ok ())
    (hargv : ∀ argv ∈ setupArgvs ns (disk.manifests scenarioPath), argvOk argv = true)
    (hist : List String) :
    setupScenario disk path shell scenarioPath hist =
      lift ((stepRun shell hist (setupCommands ns (disk.manifests scenarioPath))).raised.map
          fun _ => (scenario, ns))
        (hist ++ (stepRun shell hist (setupCommands ns (disk.manifests scenarioPath))).sent) := by
  rw [setupScenario_loadNamed, h, lift_ok_bind]
  exact subprocessRun_then hpath (hargv _ (List.mem_cons_self _ _)) _ _
    (applyManifests_then hpath ns _ fun m hm =>
      hargv _ (List.mem_cons_of_mem _ (List.mem_map_of_mem _ hm))) hist

/-- A scenario with two manifests. -/
def twoManifestDisk : Disk where
  load _ := .ok (.dict [(.str "metadata", .dict [(.str "id", .str "TF-A-1_a")])])
  manifests _ := ["k8s/a.yaml", "k8s/b.yaml"]

/-- A machine with `kubectl` on `PATH`. -/
def kubectlPath : ExecPath := fun _ => .ok ()

/-- A shell that fails to apply the second manifest. -/
def rejectingShell : Shell := fun _ cmd =>
  if cmd = applyCommand "tf-k8s-tf-a-1-a" "k8s/b.yaml" then .error "error: invalid manifest" else .ok ""

/-- The second `apply` fails: setup raises its error with the `create` and both
`apply`s sent, and sends nothing that would remove the namespace. -/
theorem setupScenario_eq_rejected :
    loadNamed twoManifestDisk "s" =
        .ok (.dict [(.str "metadata", .dict [(.str "id", .str "TF-A-1_a")])], "tf-k8s-tf-a-1-a") ∧
      kubectlPath "kubectl" = .ok () ∧
      (∀ argv ∈ setupArgvs "tf-k8s-tf-a-1-a" (twoManifestDisk.manifests "s"), argvOk argv = true) ∧
      setupScenario twoManifestDisk kubectlPath rejectingShell "s" [] =
        .error (.calledProcessError "error: invalid manifest")
          [createCommand "tf-k8s-tf-a-1-a", applyCommand "tf-k8s-tf-a-1-a" "k8s/a.yaml",
            applyCommand "tf-k8s-tf-a-1-a" "k8s/b.yaml"] :=
  have h : loadNamed twoManifestDisk "s" =
      .ok (.dict [(.str "metadata", .dict [(.str "id", .str "TF-A-1_a")])], "tf-k8s-tf-a-1-a") := rfl
  have hargv : ∀ argv ∈ setupArgvs "tf-k8s-tf-a-1-a" (twoManifestDisk.manifests "s"),
      argvOk argv = true := by decide
  ⟨h, rfl, hargv,
    (setupScenario_eq twoManifestDisk kubectlPath rejectingShell h rfl hargv []).trans rfl⟩

end TfK8s.Runner
