import Microbench.Main
import Microbench.Registry.Describe
import Microbench.Link.Interleaving
import Microbench.Link.Closing
import Microbench.Link.Session
import Microbench.Proofs.Merging
import Microbench.Proofs.RunMerge
import Microbench.Proofs.Link.Delivery
import Microbench.Proofs.StoreMerge
import Microbench.Proofs.Effect
import Microbench.Proofs.Trace
import Microbench.Proofs.Bracket
import Microbench.Proofs.Link.Handling
import Microbench.Proofs.Link.Packets
import Microbench.Proofs.Link.Scanning
import Microbench.Proofs.Link.Turns
import Microbench.Proofs.Link.Barrier
import Microbench.Proofs.Link.Closing
import Microbench.Proofs.Link.Session
import Microbench.Proofs.Script
import Microbench.Proofs.WorkerFrames
import Microbench.Proofs.Link.Forwarding
import Microbench.Proofs.Forked
import Microbench.Proofs.Conduct
import Microbench.Proofs.Rounds
import Microbench.Proofs.InProcess
import Microbench.Proofs.Attempts
import Microbench.Proofs.Resolution
import Microbench.Proofs.Schedule
import Microbench.Proofs.ForkOrder
import Microbench.Proofs.RoundOrder
import Microbench.Proofs.Strictness
import Microbench.Proofs.Tolerance
import Microbench.Proofs.Totals
import Microbench.Proofs.Conservation
import Microbench.Proofs.WorkerProtocol
import Microbench.Proofs.Slots
import Microbench.Proofs.Recording
import Microbench.Proofs.Splitting
import Microbench.Proofs.RunSplit
import Microbench.Proofs.Settings
import Microbench.Proofs.LaunchArguments
import Microbench.Proofs.Configuration
import Microbench.Proofs.Link.Misnamed
import Microbench.Proofs.Selection
import Microbench.Proofs.Stages
import Microbench.Proofs.Buckets
import Microbench.Proofs.MeanTime
import Microbench.Proofs.SampledFrames
import Microbench.Proofs.StoreContents
import Microbench.Proofs.IterationTime
import Microbench.Proofs.ThreadCounts
import Microbench.Proofs.Alignment
import Microbench.Proofs.Live.Alone
import Microbench.Proofs.Live.Forks
import Microbench.Proofs.Live.Steps
import Microbench.Proofs.Live.Refinement
