import TfK8s.Py.Unicode
import TfK8s.Py.Text
import TfK8s.Py.Value
import TfK8s.Py.Script
import TfK8s.Py.Regex
import TfK8s.Py.Float
import TfK8s.Py.Equality
import TfK8s.Py.DateTime
import TfK8s.Py.Fnmatch
import TfK8s.Py.Glob
import TfK8s.Py.Hashlib
import TfK8s.Py.Json
import TfK8s.Runner.Run
import TfK8s.Runner.Phases
import TfK8s.Runner.Main
import TfK8s.Runner.Catalog
import TfK8s.Ci.DocsDrift
import TfK8s.Template.ParseText
import TfK8s.Verify.Hashing
import TfK8s.Validator.Definition
import TfK8s.Validator.Validate
import TfK8s.Proofs.StepLoop
import TfK8s.Proofs.Setup
import TfK8s.Proofs.Verdict
import TfK8s.Proofs.Namespace
import TfK8s.Proofs.ReportPath
import TfK8s.Proofs.Driver
import TfK8s.Proofs.Acceptance
import TfK8s.Proofs.Precondition
import TfK8s.Proofs.Report
import TfK8s.Proofs.ValidatorVerdict
import TfK8s.Proofs.Glob
import TfK8s.Proofs.Wildcard
import TfK8s.Proofs.Catalog
import TfK8s.Proofs.Manifests
import TfK8s.Proofs.GlobRecursive
import TfK8s.Proofs.Found
import TfK8s.Proofs.DocsDrift
import TfK8s.Proofs.DocsWrite
import TfK8s.Proofs.ParseText
import TfK8s.Proofs.Exposition
import TfK8s.Proofs.Hashing
import TfK8s.Proofs.Findall
