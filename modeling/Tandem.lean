import Tandem.Dispatch.Session
import Tandem.Main
import Tandem.Sorting.Order
import Tandem.Sorting.Rule
import Tandem.Sorting.Workbench
import Tandem.Proofs.Sorting.Arrangement
import Tandem.Proofs.Sorting.Layout
import Tandem.Proofs.Sorting.Account
import Tandem.Proofs.Sorting.Comparison
import Tandem.Proofs.Sorting.Ordered
import Tandem.Proofs.Sorting.Guarded
import Tandem.Proofs.Sorting.Slice
import Tandem.Proofs.Dispatch.Ancestry
import Tandem.Proofs.Dispatch.Climb
import Tandem.Proofs.Dispatch.Conformity
import Tandem.Proofs.Dispatch.Cycle
import Tandem.Proofs.Dispatch.MethodTable
import Tandem.Proofs.Dispatch.Definition
import Tandem.Proofs.Dispatch.Placement
import Tandem.Proofs.Dispatch.Inheritance
import Tandem.Proofs.Dispatch.Join
import Tandem.Proofs.Sorting.Renaming
import Tandem.Proofs.Sorting.Encounter
import Tandem.Proofs.Sorting.Workload
import Tandem.Proofs.Dispatch.Determination
import Tandem.Proofs.Dispatch.Holding
import Tandem.Proofs.Dispatch.Typing
import Tandem.Proofs.Output.Admission
import Tandem.Proofs.Output.Emission
import Tandem.Proofs.Dispatch.Override
import Tandem.Proofs.Sorting.Demonstration
import Tandem.Proofs.Output.Limits
import Tandem.Proofs.Integer.Numeral
import Tandem.Proofs.Integer.Counting
import Tandem.Proofs.Command.NumberList
import Tandem.Proofs.Command.Reading
import Tandem.Proofs.Command.Course
import Tandem.Proofs.Command.SortRequest
import Tandem.Proofs.Command.SeparateList
import Tandem.Proofs.Sorting.Metering
import Tandem.Proofs.Sorting.Lopsided
import Tandem.Proofs.Sorting.Measurement
import Tandem.Proofs.Dispatch.LateDefinition
import Tandem.Proofs.Dispatch.Relocation
import Tandem.Proofs.Sorting.Division
import Tandem.Proofs.Sorting.Inspection
