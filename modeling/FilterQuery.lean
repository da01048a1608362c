import FilterQuery.Main
import FilterQuery.Proofs.Casting
import FilterQuery.Proofs.Grammar
import FilterQuery.Proofs.Items
import FilterQuery.Proofs.Priority
import FilterQuery.Proofs.WellFormed
import FilterQuery.Proofs.QueryForms
import FilterQuery.Proofs.Layouts
import FilterQuery.Proofs.Timestamps
import FilterQuery.Proofs.RoundTrip
import FilterQuery.Proofs.Display
import FilterQuery.Proofs.Literals
import FilterQuery.Proofs.Noninterference
import FilterQuery.Proofs.Unambiguity
import FilterQuery.Proofs.JsonText
import FilterQuery.Proofs.JsonForm
import FilterQuery.Proofs.OutputLines
import FilterQuery.Proofs.Ordering
import FilterQuery.Proofs.Negation
import FilterQuery.Proofs.Failures
import FilterQuery.Proofs.Intervals
import FilterQuery.Proofs.Padding
import FilterQuery.Proofs.Sets
import FilterQuery.Proofs.WallClocks
import FilterQuery.Proofs.DayNumbers
import FilterQuery.Proofs.Offsets
import FilterQuery.Proofs.Overrides
import FilterQuery.Proofs.Integers
import FilterQuery.Proofs.TableOperations
import FilterQuery.Proofs.WrittenTypes
