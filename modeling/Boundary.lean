import Boundary.Config.Settings
import Boundary.Contract.Guard
import Boundary.Form.Call
import Boundary.Form.Typed
import Boundary.Proofs.Buffer.Composite
import Boundary.Proofs.Buffer.Construction
import Boundary.Proofs.Buffer.Holding
import Boundary.Proofs.Buffer.Lowering
import Boundary.Proofs.Buffer.Ownership
import Boundary.Proofs.Call.Checking
import Boundary.Proofs.Call.Frame
import Boundary.Proofs.Call.HandBack
import Boundary.Proofs.Call.Lifting
import Boundary.Proofs.Call.Likeness
import Boundary.Proofs.Call.Message
import Boundary.Proofs.Call.Report
import Boundary.Proofs.Call.Return
import Boundary.Proofs.Call.Unwinding
import Boundary.Proofs.Callback.Agreement
import Boundary.Proofs.Callback.AsyncCalls
import Boundary.Proofs.Callback.Freeing
import Boundary.Proofs.Contract.Declaration
import Boundary.Proofs.Contract.Guard
import Boundary.Proofs.Contract.Text
import Boundary.Proofs.Future.AwaitDrop
import Boundary.Proofs.Future.AwaitRun
import Boundary.Proofs.Future.Bridge
import Boundary.Proofs.Future.ConcurrentAwaits
import Boundary.Proofs.Future.Resolution
import Boundary.Proofs.Future.Stage
import Boundary.Proofs.Future.StoredContinuation
import Boundary.Proofs.Future.Stranded
import Boundary.Proofs.Future.TracedBridge
import Boundary.Proofs.Future.UnfetchedResult
import Boundary.Proofs.Handle.History
import Boundary.Proofs.Job.AwaitRun
import Boundary.Proofs.Job.Completion
import Boundary.Proofs.Ledger
import Boundary.Proofs.NameMap
import Boundary.Proofs.Object.Lifetime
import Boundary.Proofs.Object.Unwinding
import Boundary.Proofs.Schema.Canonical
import Boundary.Proofs.Schema.Conformance
import Boundary.Proofs.Schema.Limits
import Boundary.Proofs.Schema.Locality
import Boundary.Proofs.Schema.Panics
import Boundary.Proofs.Schema.RoundTrip
import Boundary.Proofs.Schema.Text
import Boundary.Proofs.Schema.Thrift
import Boundary.Proofs.Shape.Agreement
import Boundary.Proofs.Shape.Writing
import Boundary.Proofs.Text.Order
import Boundary.Proofs.Time.Acceptance
import Boundary.Proofs.Wire.Panics
import Boundary.Proofs.Wire.Production
import Boundary.Proofs.Wire.Program
import Boundary.Proofs.Wire.Slice
import Boundary.Sample.Contract
import Boundary.Sample.FaultyCore
import Boundary.Session.Await
import Boundary.Session.Buffers
import Boundary.Session.Callbacks
import Boundary.Session.Counters
import Boundary.Session.Futures
import Boundary.Session.Jobs
import Boundary.Wire.Slice
