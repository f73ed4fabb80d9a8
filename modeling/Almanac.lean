import Almanac.Calendar.Date
import Almanac.Calendar.DateTime
import Almanac.Calendar.Instant
import Almanac.Calendar.Moment
import Almanac.Calendar.TimeOfDay
import Almanac.Calendar.Weekday
import Almanac.Calendar.Written
import Almanac.Cursor.Basic
import Almanac.Cursor.Dates
import Almanac.Cursor.Error
import Almanac.Cursor.ZonedTimes
import Almanac.Expansion.Basic
import Almanac.Expansion.DaySet
import Almanac.Expansion.Occurrences
import Almanac.Expansion.Step
import Almanac.Expansion.WeekNumber
import Almanac.Line.Caret
import Almanac.Line.ContentLine
import Almanac.Line.DateForms
import Almanac.Line.DateList
import Almanac.Line.Error
import Almanac.Line.Property
import Almanac.Line.Unfold
import Almanac.LogFilter
import Almanac.RecurrenceSet
import Almanac.RecurrenceSet.Run
import Almanac.Rule.Basic
import Almanac.Rule.Completion
import Almanac.Rule.Error
import Almanac.Rule.Reading
import Almanac.Rule.Validity
import Almanac.Rule.Written
import Almanac.Series.Basic
import Almanac.Series.Contribution
import Almanac.Series.Dates
import Almanac.Series.Error
import Almanac.Series.ZonedTimes
import Almanac.Settings.Basic
import Almanac.Settings.Environment
import Almanac.Settings.Node
import Almanac.Supply
import Almanac.Text.Basic
import Almanac.Text.Case
import Almanac.Text.CaseTable
import Almanac.Text.Double
import Almanac.Text.Number
import Almanac.Text.PrintableTable
import Almanac.Text.Quoted
import Almanac.Toml.Document
import Almanac.Toml.Scalar
import Almanac.Toml.Text
import Almanac.Toml.Value
import Almanac.Zone.Aliases
import Almanac.Zone.Basic
import Almanac.Zone.Clock
import Almanac.Zone.Error
import Almanac.Zone.History
import Almanac.Zone.History.Africa
import Almanac.Zone.History.America
import Almanac.Zone.History.Antarctica
import Almanac.Zone.History.Asia
import Almanac.Zone.History.Atlantic
import Almanac.Zone.History.Australia
import Almanac.Zone.History.Etc
import Almanac.Zone.History.Europe
import Almanac.Zone.History.Indian
import Almanac.Zone.History.Pacific
import Almanac.Zone.History.Shared
import Almanac.Zone.Moments
import Almanac.Zone.Placement
import Almanac.Zone.Resolution
import Almanac.Zone.Windows
import Almanac.Proofs.Except
import Almanac.Proofs.Text.Number
import Almanac.Proofs.RecurrenceSet.Ending
import Almanac.Proofs.Calendar.Moment
import Almanac.Proofs.Calendar.Instant
import Almanac.Proofs.Cursor.Order
import Almanac.Proofs.Cursor.Session
import Almanac.Proofs.RecurrenceSet.Exclusion
import Almanac.Proofs.RecurrenceSet.Merge
import Almanac.Proofs.RecurrenceSet.Occurrences
import Almanac.Proofs.Line.DateList
import Almanac.Proofs.Line.Numbers
import Almanac.Proofs.Line.Unfold
import Almanac.Proofs.Line.WrittenValues
import Almanac.Proofs.Series.Reading
import Almanac.Proofs.Series.Lines
import Almanac.Proofs.Series.Strictness
import Almanac.Proofs.Series.Parts
import Almanac.Proofs.Series.ListedDays
import Almanac.Proofs.Series.Occurrences
import Almanac.Proofs.Series.Cursors
import Almanac.Proofs.Series.Repeats
import Almanac.Proofs.Calendar.Months
import Almanac.Proofs.Expansion.Step
import Almanac.Proofs.Expansion.Period
import Almanac.Proofs.Expansion.Order
import Almanac.Proofs.Series.Order
import Almanac.Proofs.RecurrenceSet.Rising
import Almanac.Proofs.Series.Stream
import Almanac.Proofs.Series.SameLines
import Almanac.Proofs.Cursor.ZonedTimes
import Almanac.Proofs.RecurrenceSet.Sources
import Almanac.Proofs.Zone.Placement
import Almanac.Proofs.Series.Anchor
import Almanac.Proofs.Rule.Weekdays
import Almanac.Proofs.Series.Lenient
import Almanac.Proofs.Series.Governing
import Almanac.Proofs.Series.Shapes
import Almanac.Proofs.Cursor.RunningMaxima
import Almanac.Proofs.Cursor.Record
import Almanac.Proofs.Cursor.Fixed
import Almanac.Proofs.Line.DateForms
import Almanac.Proofs.Series.WrittenDates
import Almanac.Proofs.Cursor.Views
import Almanac.Proofs.Line.Unquoted
import Almanac.Proofs.Line.Grammar
import Almanac.Proofs.Line.Encoding
import Almanac.Proofs.Rule.Endings
import Almanac.Proofs.Series.Endings
import Almanac.Proofs.Line.NormalForm
import Almanac.Proofs.Line.Folding
import Almanac.Proofs.Line.Columns
import Almanac.Proofs.Series.Placement
import Almanac.Proofs.Series.Undone
import Almanac.Proofs.Cursor.Ledger
import Almanac.Proofs.Cursor.Dates
import Almanac.Proofs.Zone.Shown
import Almanac.Proofs.Line.DateItems
import Almanac.Proofs.Line.DateGrammar
import Almanac.Proofs.Text.Order
import Almanac.Proofs.Calendar.Order
import Almanac.Proofs.Line.MomentTexts
import Almanac.Proofs.Zone.Moments
import Almanac.Proofs.Line.Refusals
import Almanac.Proofs.Toml.Written
import Almanac.Proofs.Settings.Layers
import Almanac.Proofs.Settings.Agreement
import Almanac.Proofs.Calendar.Rounding
import Almanac.Proofs.Calendar.Precedence
