import FormReport.Engine
import FormReport.Exchange.Form
import FormReport.Exchange.Output
import FormReport.Exchange.Report
import FormReport.Exchange.Settings
import FormReport.Proofs.Sequence
import FormReport.Proofs.Grouping
import FormReport.Proofs.Planning
import FormReport.Proofs.Scope
import FormReport.Proofs.Closure
import FormReport.Proofs.Manifest
import FormReport.Proofs.Grammar
import FormReport.Proofs.Meaning
import FormReport.Proofs.Base
import FormReport.Proofs.Reading
import FormReport.Proofs.Derivation
import FormReport.Proofs.Double
import FormReport.Proofs.Finiteness
import FormReport.Proofs.Frame
import FormReport.Proofs.Overflow
import FormReport.Proofs.Placement
import FormReport.Proofs.Prefilter
import FormReport.Proofs.Encoding
import FormReport.Proofs.Rounding
import FormReport.Proofs.Nearest
import FormReport.Proofs.Digits
import FormReport.Proofs.Spelling
import FormReport.Proofs.FirstSeen
import FormReport.Proofs.Alike
import FormReport.Proofs.Arrival
import FormReport.Proofs.Retired
import FormReport.Proofs.Clean
import FormReport.Proofs.Admission
import FormReport.Proofs.Aggregates
import FormReport.Proofs.DisplayKeys
import FormReport.Proofs.Whole
import FormReport.Proofs.Headcount
import FormReport.Proofs.Chains
import FormReport.Proofs.OwnFormula
import FormReport.Proofs.StorageKeys
import FormReport.Proofs.CellOrder
import FormReport.Proofs.RowOrder
import FormReport.Proofs.Comparison
import FormReport.Proofs.Totals
import FormReport.Proofs.Operators
import FormReport.Proofs.Labels
import FormReport.Proofs.AggregateNames
import FormReport.Proofs.SortColumns
import FormReport.Proofs.SharedIds
import FormReport.Proofs.DisplayCells
import FormReport.Proofs.History
import FormReport.Proofs.NumberGroups
import FormReport.Proofs.ReadBack
import FormReport.Proofs.CellDocuments
import FormReport.Proofs.Rendering
import FormReport.Proofs.Accumulation
import FormReport.Catalog.KeyMemo
import FormReport.Proofs.CandidateKeys
import FormReport.Proofs.Phrases
import FormReport.Proofs.UnknownNames
import FormReport.Proofs.BackendFailures
import FormReport.Proofs.Probing
