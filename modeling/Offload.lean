import Offload.Batch
import Offload.Code.Json
import Offload.Log.Json
import Offload.Plan.Planner
import Offload.Proofs.Memory
import Offload.Proofs.Device
import Offload.Proofs.Bindings
import Offload.Proofs.Session
import Offload.Proofs.Buffers
import Offload.Proofs.Release
import Offload.Proofs.Passes
import Offload.Proofs.History
import Offload.Proofs.Accounting
import Offload.Proofs.Binaries
import Offload.Proofs.Slots
import Offload.Proofs.LaunchedBatch
import Offload.Proofs.BatchNumbers
import Offload.Proofs.Alike
import Offload.Proofs.Readiness
import Offload.Proofs.Warmup
import Offload.Proofs.Encoding
import Offload.Proofs.AtomicsSlot
import Offload.Proofs.EventHistory
import Offload.Proofs.EventSearch
import Offload.Proofs.EventTable
import Offload.Proofs.Completion
import Offload.Proofs.EventLists
import Offload.Proofs.PassHistory
import Offload.Proofs.Waits
import Offload.Proofs.LiveHandles
import Offload.Proofs.Switches
import Offload.Proofs.BatchedRuns
import Offload.Proofs.Neighbours
import Offload.Proofs.Limits
import Offload.Proofs.StaleHandles
import Offload.Proofs.Contents
import Offload.Proofs.Assemblies
import Offload.Proofs.Refusals
import Offload.Proofs.Resets
import Offload.Proofs.Replays
import Offload.Proofs.WarmPasses
import Offload.Proofs.CompileHistory
import Offload.Proofs.PlannedGrids
import Offload.Proofs.LostReleases
import Offload.Proofs.Rejections
import Offload.Proofs.Arguments
import Offload.Proofs.Transfers
import Offload.Proofs.Rebuilds
import Offload.Proofs.EntryAtomics
import Offload.Proofs.Bookkeeping
import Offload.Proofs.Retirement
import Offload.Proofs.WaitedEvents
import Offload.Proofs.MemoryBooks
import Offload.Proofs.Prologues
import Offload.Proofs.PlanSettings
import Offload.Proofs.WrittenSizes
import Offload.Proofs.ResizedGrids
import Offload.Proofs.RefusedWaits
import Offload.Proofs.AuditedRuns
