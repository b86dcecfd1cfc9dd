import ParamFilter.Main
import ParamFilter.Proofs.Slots
import ParamFilter.Proofs.EntryOrder
import ParamFilter.Proofs.FilterKeys
import ParamFilter.Proofs.FilterShapes
import ParamFilter.Proofs.WrittenOperands
import ParamFilter.Proofs.FixedFilter
import ParamFilter.Proofs.PageWindow
import ParamFilter.Proofs.RepeatedBounds
import ParamFilter.Proofs.Combinations
import ParamFilter.Proofs.CalendarDays
import ParamFilter.Proofs.InstantText
import ParamFilter.Proofs.Rendering
import ParamFilter.Proofs.PassedOver
import ParamFilter.Proofs.BoundOrder
import ParamFilter.Proofs.PageTiling
import ParamFilter.Proofs.SortTerms
import ParamFilter.Proofs.Configurations
import ParamFilter.Proofs.RunOutcome
import ParamFilter.Proofs.Descent
import ParamFilter.Proofs.GroupSpans
import ParamFilter.Proofs.Redeclarations
import ParamFilter.Proofs.BraceSpans
import ParamFilter.Proofs.ByteOrder
import ParamFilter.Proofs.FilterRuns
import ParamFilter.Proofs.ParamRuns
import ParamFilter.Proofs.FormText
import ParamFilter.Proofs.Templates
import ParamFilter.Proofs.InstantForms
import ParamFilter.Proofs.SignedNumbers
import ParamFilter.Proofs.KeptTexts
import ParamFilter.Proofs.SchemaForms
import ParamFilter.Proofs.DoubleRange
import ParamFilter.Proofs.DecimalNotation
import ParamFilter.Proofs.Places
import ParamFilter.Proofs.LeadingNumbers
import ParamFilter.Proofs.TracedPaths
