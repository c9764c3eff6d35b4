import Verdict.Check
import Verdict.CommandLine
import Verdict.Decimal.Shortest
import Verdict.Display
import Verdict.Evaluation
import Verdict.Main
import Verdict.PathQuery
import Verdict.PathQuery.Language
import Verdict.Probe
import Verdict.Recorder
import Verdict.Reporter
import Verdict.Script.Loading
import Verdict.Script.Reading
import Verdict.Script.Run
import Verdict.Script.Writing
import Verdict.Text.Alphanumeric
import Verdict.Text.Blank
import Verdict.Text.Quoted
import Verdict.Yaml.Cursor
import Verdict.Yaml.Directive
import Verdict.Yaml.Fault
import Verdict.Yaml.Folding
import Verdict.Yaml.Frame
import Verdict.Yaml.Property
import Verdict.Yaml.Scalar.Block
import Verdict.Yaml.Scalar.Meaning
import Verdict.Yaml.Scalar.Plain
import Verdict.Yaml.Scalar.Quoted
import Verdict.Yaml.Token.Scanner
import Verdict.Yaml.Tokens
import Verdict.Proofs.Probe.Comparison
import Verdict.Proofs.Probe.Reading
import Verdict.Proofs.Evaluation.Outcome
import Verdict.Proofs.PathQuery.Stripping
import Verdict.Proofs.PathQuery.Probing
import Verdict.Proofs.Evaluation.Trail
import Verdict.Proofs.Script.Running
import Verdict.Proofs.Script.Preview
import Verdict.Proofs.Evaluation.Account
import Verdict.Proofs.Evaluation.Reuse
import Verdict.Proofs.Reporter.Memory
import Verdict.Proofs.Script.Events
import Verdict.Proofs.Script.Checking
import Verdict.Proofs.Yaml.Quoted
import Verdict.Proofs.Yaml.Line
import Verdict.Proofs.Script.Lines
import Verdict.Proofs.Script.Nodes
import Verdict.Proofs.Script.RoundTrip
import Verdict.Proofs.PathQuery.Grammar
import Verdict.Proofs.PathQuery.Agreement
import Verdict.Proofs.Engine.Deriving
import Verdict.Proofs.Display.Truncation
import Verdict.Proofs.Probe.Chain
import Verdict.Proofs.Script.Printing
import Verdict.Proofs.Yaml.Whole
import Verdict.Proofs.Script.Strictness
import Verdict.Proofs.Display.Colors
import Verdict.Proofs.Failure.Wording
import Verdict.Proofs.CommandLine.Report
import Verdict.Proofs.Script.Loading
import Verdict.Proofs.Evaluation.Sources
import Verdict.Proofs.Probe.Octets
