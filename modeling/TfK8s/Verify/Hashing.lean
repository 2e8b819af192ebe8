import TfK8s.Py.Equality
import TfK8s.Py.Hashlib

/-!
# `verify_hashing.py`

The verifier of the command-line hashing scenario reads a metrics file and
decides from three numbers whether the Edge-Probe hashed the command lines it
reported. `re.findall` collects the 64-digit groups of every label
`process.command_line_hash="..."` or `process_command_line_hash="..."`; three
fixed secrets of the test process are searched as plain substrings; and the
hashes found are compared with the SHA-256 hex digest of the test process's
command line. The script passes when some hash was found, no secret was, and
`sum(hash_matches) / len(hashed_commands) * 100 == 100` holds in floating
point.

The pattern has no repetition but `{64}`, so a match is fixed in length and
`findallGo` scans for it directly: at each position it either finds the whole
label and moves past it, or moves one character on. The three sensitive
patterns hold no character special to `re`, so `re.search` is a substring
test. The printed report is not modelled; only the exit status is.
-/

namespace TfK8s.Verify

open Py Hashlib

/-- `process` and the separator `[._]` and `command_line_hash="`: what a label
starts with, 27 characters. -/
def labelHead (sep : Char) : List Char :=
  "process".data ++ sep :: "command_line_hash=\"".data

/-- A match of `process[._]command_line_hash="([a-f0-9]{64})"` at the start of
`cs`, by its group. The match is 92 characters long. -/
def hashLabelAt (cs : List Char) : Option (List Char) :=
  if (labelHead '.').isPrefixOf cs || (labelHead '_').isPrefixOf cs then
    let group := (cs.drop 27).take 64
    if group.length = 64 && group.all isLowerHex && (cs.drop 91).head? == some '"' then some group
    else none
  else none

/-- `re.findall(hash_pattern, ...)` over the text from a position `skip`
characters before the next one where a match may start. -/
def findallGo : Nat → List Char → List (List Char)
  | _, [] => []
  | skip + 1, _ :: cs => findallGo skip cs
  | 0, c :: cs =>
      match hashLabelAt (c :: cs) with
      | some group => group :: findallGo 91 cs
      | none => findallGo 0 cs

/-- `re.findall(hash_pattern, metrics_content)`. -/
def findallHash (s : List Char) : List (List Char) := findallGo 0 s

/-- `sensitive_patterns`. -/
def sensitivePatterns : List String :=
  ["username=admin", "password=S3cr3tP@ssw0rd", "api_key=12345abcdef"]

/-- The command line of the test process. -/
def testCommand : String :=
  "Running test process with username=admin password=S3cr3tP@ssw0rd api_key=12345abcdef"

/-- `expected_hash`. -/
def expectedHash : List Char := hexdigest (sha256 (encode testCommand))

/-- The `results` dict. The consistency percentage is the `int` `0` when no
hash was found and a `float` otherwise. -/
structure HashingResults where
  hashingSuccessPercentage : Int
  originalCommandFoundCount : Nat
  hashConsistencyPercentage : Int ⊕ PyFloat

/-- Everything before `# Print results`. -/
def hashingResults (metricsContent : List Char) : Except PyExc HashingResults := do
  let hashedCommands := findallHash metricsContent
  let leakedSensitiveInfo := sensitivePatterns.filter fun p => isSubstr p.data metricsContent
  let hashMatches := hashedCommands.map (· == expectedHash)
  let consistency ← if hashedCommands.isEmpty then pure (.inl 0) else do
    let share ← PyFloat.trueDiv (hashMatches.count true) hashedCommands.length
    .inr <$> share.mulInt 100
  pure ⟨if hashedCommands.isEmpty then 0 else 100, leakedSensitiveInfo.length, consistency⟩

/-- `check_hashed_command_lines` on the file's content: `0` for PASS. -/
def checkHashedCommandLines (metricsContent : String) : Except PyExc Nat := do
  let results ← hashingResults metricsContent.data
  pure (if results.hashingSuccessPercentage == 100 && results.originalCommandFoundCount == 0 &&
      PyVal.numEq results.hashConsistencyPercentage (.inl 100) then 0 else 1)

/-- The exit status for the arguments after the script's name, `read` giving
the content of a file or what opening it raises. -/
def verifyHashingMain (args : List String) (read : String → Except PyExc String) :
    Except PyExc Nat :=
  match args with
  | [metricsFile] => do checkHashedCommandLines (← read metricsFile)
  | _ => .ok 1

end TfK8s.Verify
