import Intake.Batch
import Intake.Expectation
import Intake.Log
import Intake.Registry.Builtin
import Intake.Settings
import Intake.Proofs.Entries
import Intake.Proofs.Text.Letter
import Intake.Proofs.Text.Trim
import Intake.Proofs.Filter.Fixed
import Intake.Proofs.Filter.Kind
import Intake.Proofs.Report.Exact
import Intake.Proofs.Report.Collapse
import Intake.Proofs.Report.Origin
import Intake.Proofs.Cast.Composite
import Intake.Proofs.Cast.Success
import Intake.Proofs.Cast.Conformance
import Intake.Proofs.Cast.Idempotence
import Intake.Proofs.Cast.Failure
import Intake.Proofs.Processing
import Intake.Proofs.Cast.Agreement
import Intake.Proofs.Cast.Lazy
import Intake.Proofs.Report.Addressing
import Intake.Proofs.Report.Undeclared
import Intake.Proofs.Filter.WellFormed
import Intake.Proofs.Filter.Shape
import Intake.Proofs.Path
import Intake.Proofs.Report.Unambiguous
import Intake.Proofs.Settings
import Intake.Proofs.Batch.Order
import Intake.Proofs.Text.Scope
import Intake.Proofs.ClassName
import Intake.Proofs.Registry
import Intake.Proofs.Numeral
import Intake.Proofs.Decimal.Value
import Intake.Proofs.Decimal.Reading
import Intake.Proofs.Calendar.DayNumber
import Intake.Proofs.Calendar.Moment
import Intake.Proofs.Calendar.Number
import Intake.Proofs.Calendar.Text
import Intake.Proofs.Cast.Number
import Intake.Proofs.Cast.Picker
import Intake.Proofs.Cast.Zone
import Intake.Proofs.Cast.CalendarText
import Intake.Proofs.Cast.Merge
import Intake.Proofs.Filter.Renamed
import Intake.Proofs.Report.Renaming
import Intake.Proofs.Slug
import Intake.Proofs.Document
import Intake.Proofs.Zone
import Intake.Proofs.Settings.Meaning
import Intake.Proofs.Log
import Intake.Proofs.Text.Split
import Intake.Proofs.ClassName.Camelize
import Intake.Proofs.ClassName.Refused
