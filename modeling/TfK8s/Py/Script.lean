import TfK8s.Py.Value

/-!
# Statements that raise and talk to the shell

A script's statement either returns or raises, and in both cases what it has
already done stays done: nothing rolls a shell command back, and nothing takes
an error back out of a validator's list. So a statement is a function of that
state, returning its value or its exception together with the state at the
end. That is Lean's `EStateM`, which keeps the state on the error side; the
lemmas here are stated for any state.

For the runner the state is the record of commands sent. The shell itself is an
oracle: `subprocess.check_output(cmd, shell=True)` either returns the command's
output or raises `CalledProcessError`, and which one, with what text, may
depend on everything sent before, so the oracle sees the record. Quantifying
over every oracle covers every cluster and every machine state.

Before any program runs, `subprocess` hands the argument vector to `execve`,
and two checks there raise in the runner with nothing sent. An argument holding
a NUL is refused with `ValueError` before the fork. An argument of 128 KiB or
more, counting its terminating NUL, is Linux's `E2BIG`, which the child reports
and `subprocess` raises as an `OSError` naming the program. `/bin/sh` is taken
to exist; a program found through `PATH` is looked up by an oracle, between the
two checks, as `execve` opens the program before it copies the arguments.
-/

namespace TfK8s.Py

/-- The shell's answer to a command, given the commands sent before it: the
output `check_output` returns, or the `str` of the `CalledProcessError` it
raises. -/
abbrev Shell := List String → String → Except String String

/-- A statement that may raise, run against the record of commands sent. -/
abbrev Script := EStateM PyExc (List String)

namespace Script

variable {σ α β : Type}

/-- Evaluate a pure expression that may raise. -/
def lift : Except PyExc α → EStateM PyExc σ α
  | .ok a => pure a
  | .error e => throw e

/-- What the `PATH` search for a program name ends in: nothing when an
executable of that name is found, or the `OSError` the child reports, such as
`FileNotFoundError`. -/
abbrev ExecPath := String → Except PyExc Unit

/-- `subprocess` refuses an argument holding a NUL before it forks. -/
def checkNul (argv : List String) : Except PyExc Unit :=
  if argv.any fun a => a.data.contains '\x00' then .error (.valueError "embedded null byte")
  else .ok ()

/-- `execve` refuses an argument of 128 KiB or more with its terminating NUL
(`MAX_ARG_STRLEN`), and `subprocess` raises the `E2BIG` naming the program. -/
def checkArgLen (argv : List String) : Except PyExc Unit :=
  if argv.any fun a => 131072 ≤ a.utf8ByteSize then
    .error (.osError ("[Errno 7] Argument list too long: " ++ reprStr (argv.headD "")))
  else .ok ()

/-- The arguments `execve` accepts: no NUL, and under 128 KiB each. -/
def argvOk (argv : List String) : Bool :=
  argv.all fun a => !a.data.contains '\x00' && a.utf8ByteSize < 131072

/-- The argument vector of `check_output(cmd, shell=True)`. -/
def shellArgv (cmd : String) : List String := ["/bin/sh", "-c", cmd]

/-- A command the shell runs: it joins the record whatever the shell answers,
and the answer comes back as a value so that the caller's `try` decides what a
failure does. -/
def send (shell : Shell) (cmd : String) : Script (Except String String) :=
  fun sent => .ok (shell sent cmd) (sent ++ [cmd])

/-- `subprocess.check_output(cmd, shell=True, text=True)`. -/
def checkOutput (shell : Shell) (cmd : String) : Script (Except String String) := do
  lift (checkNul (shellArgv cmd))
  lift (checkArgLen (shellArgv cmd))
  send shell cmd

/-- The state a statement left, whether it returned or raised. -/
def stateOf : EStateM.Result PyExc σ α → σ
  | .ok _ s => s
  | .error _ s => s

/-- The record of commands sent when a statement has returned or raised. -/
abbrev sentBy : EStateM.Result PyExc (List String) α → List String := stateOf

@[simp] theorem pure_apply (a : α) (s : σ) :
    (pure a : EStateM PyExc σ α) s = .ok a s := rfl

@[simp] theorem lift_ok (a : α) (s : σ) : (lift (.ok a) : EStateM PyExc σ α) s = .ok a s := rfl

@[simp] theorem lift_error (e : PyExc) (s : σ) :
    (lift (.error e) : EStateM PyExc σ α) s = .error e s := rfl

@[simp] theorem send_apply (shell : Shell) (cmd : String) (s : List String) :
    send shell cmd s = .ok (shell s cmd) (s ++ [cmd]) := rfl

@[simp] theorem stateOf_ok (a : α) (s : σ) : stateOf (.ok a s : EStateM.Result PyExc σ α) = s :=
  rfl

@[simp] theorem stateOf_error (e : PyExc) (s : σ) :
    stateOf (.error e s : EStateM.Result PyExc σ α) = s := rfl

@[simp] theorem lift_ok_bind (a : α) (f : α → EStateM PyExc σ β) (s : σ) :
    (lift (.ok a) >>= f) s = f a s := rfl

@[simp] theorem lift_error_bind (e : PyExc) (f : α → EStateM PyExc σ β) (s : σ) :
    (lift (.error e) >>= f) s = .error e s := rfl

@[simp] theorem send_bind (shell : Shell) (cmd : String) (f : Except String String → Script β)
    (s : List String) : (send shell cmd >>= f) s = f (shell s cmd) (s ++ [cmd]) := rfl

theorem bind_of_ok {x : EStateM PyExc σ α} {f : α → EStateM PyExc σ β} {s s' : σ} {a : α}
    (h : x s = .ok a s') : (x >>= f) s = f a s' := by
  show EStateM.bind x f s = _
  simp only [EStateM.bind, h]

theorem bind_of_error {x : EStateM PyExc σ α} {f : α → EStateM PyExc σ β} {s s' : σ}
    {e : PyExc} (h : x s = .error e s') : (x >>= f) s = .error e s' := by
  show EStateM.bind x f s = _
  simp only [EStateM.bind, h]

theorem bind_eq_ok {x : EStateM PyExc σ α} {f : α → EStateM PyExc σ β} {s s' : σ} {b : β}
    (h : (x >>= f) s = .ok b s') : ∃ a s₁, x s = .ok a s₁ ∧ f a s₁ = .ok b s' := by
  change EStateM.bind x f s = _ at h
  unfold EStateM.bind at h
  split at h
  · exact ⟨_, _, ‹_›, h⟩
  · cases h

theorem lift_bind_eq_ok {e : Except PyExc α} {f : α → EStateM PyExc σ β} {s s' : σ} {b : β}
    (h : (lift e >>= f) s = .ok b s') : ∃ a, e = .ok a ∧ f a s = .ok b s' := by
  cases e with
  | ok a => exact ⟨a, rfl, h⟩
  | error e => cases h

/-! ## The argument checks -/

theorem checkNul_eq_ok {argv : List String} :
    checkNul argv = .ok () ↔ ∀ a ∈ argv, a.data.contains '\x00' = false := by
  unfold checkNul
  split <;> simp_all

theorem checkArgLen_eq_ok {argv : List String} :
    checkArgLen argv = .ok () ↔ ∀ a ∈ argv, a.utf8ByteSize < 131072 := by
  unfold checkArgLen
  split <;> simp_all

theorem argvOk_iff {argv : List String} :
    argvOk argv = true ↔ checkNul argv = .ok () ∧ checkArgLen argv = .ok () := by
  simp only [argvOk, checkNul_eq_ok, checkArgLen_eq_ok, List.all_eq_true, Bool.and_eq_true,
    Bool.not_eq_true', decide_eq_true_eq]
  exact forall₂_and

theorem argvOk_shellArgv (cmd : String) :
    argvOk (shellArgv cmd) = (!cmd.data.contains '\x00' && decide (cmd.utf8ByteSize < 131072)) := by
  simp only [argvOk, shellArgv, List.all_cons, List.all_nil, Bool.and_true]
  rfl

/-- A command whose arguments pass both checks reaches the shell. -/
theorem checkOutput_bind_of_argvOk {cmd : String} (h : argvOk (shellArgv cmd) = true)
    (shell : Shell) (f : Except String String → Script β) (s : List String) :
    (checkOutput shell cmd >>= f) s = f (shell s cmd) (s ++ [cmd]) := by
  obtain ⟨hn, hl⟩ := argvOk_iff.1 h
  simp only [checkOutput, bind_assoc, hn, hl, lift_ok_bind, send_bind]

/-- A command the caller went on from passed both checks and reached the shell. -/
theorem checkOutput_bind_eq_ok {shell : Shell} {cmd : String} {f : Except String String → Script β}
    {s s' : List String} {b : β} (h : (checkOutput shell cmd >>= f) s = .ok b s') :
    argvOk (shellArgv cmd) = true ∧ f (shell s cmd) (s ++ [cmd]) = .ok b s' := by
  simp only [checkOutput, bind_assoc] at h
  obtain ⟨_, hn, h⟩ := lift_bind_eq_ok h
  obtain ⟨_, hl, h⟩ := lift_bind_eq_ok h
  exact ⟨argvOk_iff.2 ⟨hn, hl⟩, h⟩

/-- `try: x except Exception as e: handler(e)`: the handler starts in the state
the raise left. -/
def catchAll (x : EStateM PyExc σ α) (handler : PyExc → EStateM PyExc σ α) : EStateM PyExc σ α :=
  fun s => match x s with
    | .ok a s' => .ok a s'
    | .error e s' => handler e s'

theorem catchAll_of_ok {x : EStateM PyExc σ α} {handler : PyExc → EStateM PyExc σ α} {s s' : σ}
    {a : α} (h : x s = .ok a s') : catchAll x handler s = .ok a s' := by
  simp only [catchAll, h]

theorem catchAll_of_error {x : EStateM PyExc σ α} {handler : PyExc → EStateM PyExc σ α}
    {s s' : σ} {e : PyExc} (h : x s = .error e s') : catchAll x handler s = handler e s' := by
  simp only [catchAll, h]

/-- A statement that sends nothing to the shell, whether it returns or raises. -/
def Silent (x : Script α) : Prop := ∀ s, sentBy (x s) = s

theorem silent_pure (a : α) : Silent (pure a : Script α) := fun _ => rfl

theorem silent_lift (e : Except PyExc α) : Silent (lift e) := by
  intro s; cases e <;> rfl

theorem Silent.bind {x : Script α} {f : α → Script β} (hx : Silent x)
    (hf : ∀ a, Silent (f a)) : Silent (x >>= f) := by
  intro s
  cases h : x s with
  | ok a s' => rw [bind_of_ok h, hf a s']; simpa [h] using hx s
  | error e s' => rw [bind_of_error h]; simpa [h] using hx s

end Script

end TfK8s.Py
