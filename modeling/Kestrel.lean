import Kestrel.A2A.QuestionContract
import Kestrel.A2A.TaskRetention
import Kestrel.Agent.SalvageRuns
import Kestrel.Agent.TokenBudgetSafety
import Kestrel.Base.Horn
import Kestrel.Hold.LatchContract
import Kestrel.Hold.MandateKeys
import Kestrel.Identity.ChainResolution
import Kestrel.Knowledge.RecordedProofs
import Kestrel.Knowledge.StructuralGraph
import Kestrel.Knowledge.TargetCompleteness
import Kestrel.Llm.LeaseContract
import Kestrel.Lock.ReaderWriterSafety
import Kestrel.Scheduler.ProtocolVersion
import Kestrel.Scheduler.CronGrammar
import Kestrel.A2A.TaskContract
import Kestrel.Security.ApprovalContract
import Kestrel.Security.RotationContract
import Kestrel.Sessions.AppendTest
import Kestrel.Sessions.Coalescing
import Kestrel.Signals.DeliveryContract
import Kestrel.Signals.LockOrder
import Kestrel.Signals.SourceNumbering
import Kestrel.Stop.CircuitSafety
import Kestrel.Stop.ClaimFencing
import Kestrel.Stop.ObservedStops
import Kestrel.Stop.OwnerFencing
import Kestrel.Stop.ReceiptReplay
import Kestrel.Storage.CarRoundTrip
import Kestrel.Storage.ErasureContract
import Kestrel.Storage.PremiseCompleteness
import Kestrel.Storage.Reconciliation
import Kestrel.Storage.ReconciledRuns
import Kestrel.Storage.PlaceholderContract
import Kestrel.Storage.PublishedClosures
import Kestrel.Storage.SyncCoverage
import Kestrel.Base.LockFile
import Kestrel.Base.Search
import Kestrel.Chat.StreamContract
import Kestrel.Spawn.AuthorityContract
import Kestrel.Storage.GovernedContract
import Kestrel.Strategy.Migration
import Kestrel.Strategy.CommitContract
