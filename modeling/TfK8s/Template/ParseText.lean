import TfK8s.Py.Float
import TfK8s.Py.Text

/-!
# `ScenarioValidator._parse_text_format`

The verification template reads Prometheus-style metrics from a `.txt` or
`.log` file. Every line that does not start with `#` and matches
`^([a-zA-Z_:][a-zA-Z0-9_:]*)\{([^}]*)\}\s+([0-9.eE+-]+)` adds one sample to
the list of its metric name: the label text between the braces is split at
`,`, each piece with a `=` at its first `=`, quote characters are stripped
from the value, and the third group goes through `float`.

Each repetition in the pattern is followed by a character its class excludes:
`{` after the name, `}` after the label text, a value character after the
spaces. Backtracking therefore never shortens one, so each group is the
longest run of its class where it starts, and `metricMatch` scans for those
runs directly.

A Python dictionary is kept as a list of its entries in insertion order:
assigning to a key that is present replaces its value in place, and a new key
goes to the end.
-/

namespace TfK8s.Template

open Py

/-- `[a-zA-Z_:]`. -/
def isNameStart (c : Char) : Bool := c.isAlpha || c = '_' || c = ':'

/-- `[a-zA-Z0-9_:]`. -/
def isNameChar (c : Char) : Bool := c.isAlphanum || c = '_' || c = ':'

/-- `[0-9.eE+-]`. -/
def isValueChar (c : Char) : Bool :=
  c.isDigit || c = '.' || c = 'e' || c = 'E' || c = '+' || c = '-'

/-- `re.match(metric_pattern, line)`: the three groups, or `None`. -/
def metricMatch : List Char → Option (List Char × List Char × List Char)
  | [] => none
  | c :: rest =>
      if isNameStart c then
        match rest.dropWhile isNameChar with
        | '{' :: more =>
            match more.dropWhile (· ≠ '}') with
            | '}' :: after =>
                let value := (after.dropWhile isPySpace).takeWhile isValueChar
                if (after.takeWhile isPySpace).isEmpty || value.isEmpty then none
                else some (c :: rest.takeWhile isNameChar, more.takeWhile (· ≠ '}'), value)
            | _ => none
        | _ => none
      else none

/-- `d[key] = value` on a dictionary kept as its entries in insertion order. -/
def dictSet {α : Type} (d : List (String × α)) (key : String) (value : α) : List (String × α) :=
  if d.any (·.1 = key) then d.map fun e => if e.1 = key then (key, value) else e
  else d ++ [(key, value)]

/-- The body of `for label_pair in labels_str.split(',')`. -/
def addLabel (labels : List (String × String)) (pair : List Char) : List (String × String) :=
  if '=' ∈ pair then
    let (key, val) := splitFirst '=' pair
    dictSet labels ⟨key⟩ ⟨stripChars ['"', '\''] val⟩
  else labels

/-- The `labels` dictionary of a line. -/
def parseLabels (labelsStr : List Char) : List (String × String) :=
  if labelsStr.isEmpty then [] else (splitChar ',' labelsStr).foldl addLabel []

/-- A sample, `{'labels': labels, 'value': value}`. -/
abbrev Sample := List (String × String) × PyFloat

/-- `results[metric_name].append(sample)`, after adding an empty list for a new name. -/
def addSample (results : List (String × List Sample)) (name : String) (sample : Sample) :
    List (String × List Sample) :=
  match results.find? (·.1 = name) with
  | some (_, samples) => dictSet results name (samples ++ [sample])
  | none => results ++ [(name, [sample])]

/-- One pass of `for line in content.splitlines()`. -/
def parseLine (results : List (String × List Sample)) (line : List Char) :
    Except PyExc (List (String × List Sample)) :=
  if line.head? = some '#' then pure results
  else match metricMatch line with
    | some (name, labelsStr, valueStr) => do
        let value ← PyFloat.parse ⟨valueStr⟩
        pure (addSample results ⟨name⟩ (parseLabels labelsStr, value))
    | none => pure results

/-- `_parse_text_format(content)`. -/
def parseTextFormat (content : String) : Except PyExc (List (String × List Sample)) :=
  (splitlines content.data).foldlM parseLine []

end TfK8s.Template
