import Litrace.Lib.Transition
import Litrace.Lib.HashTable
import Litrace.Lib.Filepath
import Litrace.Bpf.Pairing
import Litrace.Bpf.Entries
import Litrace.Bpf.Targets
import Litrace.Bpf.LivingTargets
import Litrace.Bpf.Follow
import Litrace.Bpf.FilterIndependence
import Litrace.Bpf.FilteredEvents
import Litrace.Bpf.Family
import Litrace.Bpf.Timeline
import Litrace.Bpf.Leftovers
import Litrace.Trace.PathFilter
import Litrace.Trace.PathView
import Litrace.Trace.PathRefinement
import Litrace.Trace.ForkIsolation
import Litrace.Trace.SelectorHides
import Litrace.Trace.PathInvariant
import Litrace.Lib.ClosableQueue
import Litrace.Trace.Run
import Litrace.Trace.TailLoss
import Litrace.Trace.ReusedDescriptor
import Litrace.Trace.WorkingDirectory
import Litrace.Trace.CloneDelivery
import Litrace.Trace.Naming
import Litrace.Bpf.ArgvCapture
import Litrace.Bpf.CapturePlan
import Litrace.Bpf.SubmittedVars
import Litrace.Trace.Payload
import Litrace.Bpf.ReadableMemory
import Litrace.Trace.Truncation
import Litrace.Lib.Abi
import Litrace.WireFormat
import Litrace.Lib.Checked
import Litrace.Lib.Strconv
import Litrace.Lib.Quoting
import Litrace.Lib.Nesting
import Litrace.Syscalls
import Litrace.Trace.VarArgs
import Litrace.Trace.Format
import Litrace.Trace.ExecveArgv
import Litrace.Bpf.VarSchema
import Litrace.Trace.VarPointers
import Litrace.Trace.IndexedFilter
import Litrace.Trace.ConsumerSafety
import Litrace.Trace.DescriptorArgs
import Litrace.Trace.Duplication
import Litrace.Trace.FailedCalls
import Litrace.Trace.PathPrefix
import Litrace.Trace.Rename
import Litrace.Bpf.SchemaGenerator
import Litrace.Trace.Modes
import Litrace.Lib.Cover
import Litrace.Trace.Flags
import Litrace.Lib.Aggregate
import Litrace.Trace.SummaryTable
import Litrace.Cli.Parse
import Litrace.Cli.AttachTargets
import Litrace.Cli.TraceSelectors
import Litrace.Lib.OneShot
import Litrace.Trace.SignalForwarding
import Litrace.Cli.Arguments
import Litrace.Trace.Pipeline
import Litrace.Bpf.Loading
import Litrace.Lib.Fallible
import Litrace.Trace.Session
import Litrace.Cli.Loaded
import Litrace.Trace.SummaryMode
import Litrace.Lib.Progress
import Litrace.Trace.Returns
import Litrace.Trace.ExitStatus
import Litrace.Trace.LineGrammar
import Litrace.Trace.WrittenLines
import Litrace.Trace.CapturedText
import Litrace.Trace.ShownMemory
import Litrace.Trace.ShownStatus
import Litrace.Trace.StartUp
import Litrace.Bpf.SchemaTable
