import Retargeting.History
import Retargeting.Json.Record
import Retargeting.Network
import Retargeting.Store
import Retargeting.Rules.Expectation
import Retargeting.Documents.Schedule
import Retargeting.Documents.Header
import Retargeting.Documents.Network
import Retargeting.Proofs.Encoding
import Retargeting.Proofs.Rounding
import Retargeting.Proofs.Precision
import Retargeting.Proofs.Declarations
import Retargeting.Proofs.Linkage
import Retargeting.Proofs.Replay
import Retargeting.Proofs.Walks
import Retargeting.Proofs.Lookups
import Retargeting.Proofs.Runs
import Retargeting.Proofs.Pruning
import Retargeting.Proofs.Indexes
import Retargeting.Proofs.Cuts
import Retargeting.Proofs.MainChain
import Retargeting.Proofs.Admission
import Retargeting.Proofs.WireForm
import Retargeting.Proofs.HexDigits
import Retargeting.Proofs.Tokens
import Retargeting.Proofs.Grammar
import Retargeting.Proofs.Acceptance
import Retargeting.Proofs.RoundTrip
import Retargeting.Proofs.Records
import Retargeting.Proofs.ScheduleDocuments
import Retargeting.Proofs.HexLiterals
import Retargeting.Proofs.HeaderDocuments
import Retargeting.Proofs.ReliefCost
import Retargeting.Proofs.Scaling
import Retargeting.Proofs.Pace
import Retargeting.Proofs.Approximation
import Retargeting.Proofs.Machine
import Retargeting.Proofs.MachineArithmetic
