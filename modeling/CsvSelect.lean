import CsvSelect.Main
import CsvSelect.Proofs.Csv.FirstFault
import CsvSelect.Proofs.Csv.WrittenTables
import CsvSelect.Proofs.Query.Clauses
import CsvSelect.Proofs.Query.Failures
import CsvSelect.Proofs.Query.Forms
import CsvSelect.Proofs.Query.Grammar
import CsvSelect.Proofs.Query.Locations
import CsvSelect.Proofs.Query.Partition
import CsvSelect.Proofs.Query.Quoting
import CsvSelect.Proofs.Query.Recognition
import CsvSelect.Proofs.Query.Rendering
import CsvSelect.Proofs.Query.Scanning
import CsvSelect.Proofs.Requests
import CsvSelect.Proofs.Selection.Acceptance
import CsvSelect.Proofs.Selection.Bounds
import CsvSelect.Proofs.Selection.Faults
import CsvSelect.Proofs.Selection.Independence
import CsvSelect.Proofs.Selection.Rows
import CsvSelect.Proofs.Session.Conduct
import CsvSelect.Proofs.Session.Effects
import CsvSelect.Proofs.Session.LogLines
import CsvSelect.Proofs.Storage.Actions
import CsvSelect.Proofs.Storage.Frame
import CsvSelect.Proofs.Tables
import CsvSelect.Proofs.Text.Letters
import CsvSelect.Proofs.Text.Lines
import CsvSelect.Proofs.Text.Utf8
import CsvSelect.Proofs.Query.Derivations
import CsvSelect.Proofs.Session.Submission
import CsvSelect.Proofs.CommandLine
import CsvSelect.Proofs.Selection.Spelling
import CsvSelect.Proofs.Selection.Positions
import CsvSelect.Proofs.Selection.Operators
import CsvSelect.Proofs.Selection.Lookups
import CsvSelect.Proofs.Selection.Numerals
import CsvSelect.Proofs.Text.Integers
import CsvSelect.Proofs.Query.Literals
import CsvSelect.Proofs.Query.Munch
import CsvSelect.Proofs.Selection.Priority
import CsvSelect.Proofs.Query.NumeralScan
import CsvSelect.Proofs.Query.Repetition
import CsvSelect.Proofs.Normalization
import CsvSelect.Proofs.Query.Lookahead
import CsvSelect.Proofs.Query.Layout
import CsvSelect.Proofs.Query.OptionScan
import CsvSelect.Proofs.Requests.Answers
import CsvSelect.Proofs.TableNames
