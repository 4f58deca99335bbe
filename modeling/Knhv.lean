import Knhv.Lib.Run
import Knhv.Nested.Control
import Knhv.Nested.Step
import Knhv.Nested.Effect
import Knhv.Nested.Invariant
import Knhv.Nested.Operation
import Knhv.Nested.Vmptrld
import Knhv.Nested.RunningGuest
import Knhv.Nested.Switching
import Knhv.Ept.Pointer
import Knhv.Nested.Vmcs02
import Knhv.Nested.EntryCheck
import Knhv.Nested.EntryMerge
import Knhv.VmcsShadow.Model
import Knhv.VmcsShadow.Access
import Knhv.VmcsShadow.Image
import Knhv.VmcsShadow.Lifecycle
import Knhv.VmcsShadow.History
import Knhv.Vpid.Model
import Knhv.Vpid.Table
import Knhv.Vpid.Shootdown
import Knhv.Vpid.Reclaim
import Knhv.Interrupt.Model
import Knhv.Interrupt.Queue
import Knhv.Interrupt.History
import Knhv.Interrupt.Nmi
import Knhv.Time.Model
import Knhv.Time.Monotonic
import Knhv.Ept.Mapping
import Knhv.Ept.Generation
import Knhv.Iommu.Model
import Knhv.Ept.Resolve
import Knhv.Iommu.Translation
import Knhv.Iommu.CpuAgreement
import Knhv.Iommu.Assignment
import Knhv.Whp.Drain
import Knhv.Boot.Model
import Knhv.Boot.Ownership
import Knhv.Provider.Model
import Knhv.Control.Model
import Knhv.Provider.Lease
import Knhv.Provider.Agreement
import Knhv.Control.Sessions
import Knhv.Control.Isolation
import Knhv.Control.Exclusive
import Knhv.Matrix.Cpu
import Knhv.Matrix.Vmx
import Knhv.Evidence.Manifest
import Knhv.Evidence.Snapshot
import Knhv.Evidence.Validation
import Knhv.Evidence.StageEvidence
import Knhv.Evidence.SnapshotGate
import Knhv.Evidence.Wire
import Knhv.Evidence.RoundTrip
import Knhv.Vmx.Checks
import Knhv.Vmx.Emulation
import Knhv.Vmx.Exit
import Knhv.Vmx.Settled
import Knhv.Vmx.Resume
import Knhv.Vmx.Handler
import Knhv.Driver.Image
import Knhv.Driver.ImageSafety
import Knhv.Ept.Hook
import Knhv.Ept.HookProtocol
import Knhv.Ept.HookRate
import Knhv.Nested.EptPointers
import Knhv.Nested.ErrorState
import Knhv.Nested.Failure
import Knhv.Vmx.Features
import Knhv.Vmx.XstateFrame
import Knhv.Vmx.XstateRun
import Knhv.Lib.Exclusive
import Knhv.Teardown.Claims
import Knhv.Teardown.Protocol
import Knhv.Exit.Gate
import Knhv.Interrupt.Posted
import Knhv.Interrupt.Selection
import Knhv.Interrupt.Posting
import Knhv.Iommu.AssignmentGate
import Knhv.Lib.Masks
import Knhv.Lib.Truncation
import Knhv.Nested.Invvpid
import Knhv.Nested.Vmcs02Merge
import Knhv.Time.Calibration
import Knhv.Time.Drift
import Knhv.Lifecycle.Safety
import Knhv.Exit.FailClosed
import Knhv.Provider.Honour
import Knhv.CpuPolicy.Narrowing
import Knhv.CpuPolicy.Msr
import Knhv.Matrix.FeatureReport
import Knhv.Matrix.CpuSoundness
import Knhv.Matrix.VmxSoundness
import Knhv.Owner.GateSoundness
import Knhv.Control.Upgrade
import Knhv.Evidence.GateFlags
import Knhv.Evidence.WriterSoundness
import Knhv.Evidence.ManifestReady
import Knhv.Whp.Partition
import Knhv.Evidence.DecodeMemory
import Knhv.Evidence.CollectorSoundness
import Knhv.Vmx.LaunchRollback
import Knhv.Vmx.AccessFrame
import Knhv.Vmx.UnloadGate
import Knhv.Vmx.Refusal
import Knhv.Vmx.MsrRoundTrip
import Knhv.Vmx.CrContract
import Knhv.Vmx.Fatal
import Knhv.Vmx.FatalEvidence
import Knhv.Vmx.FatalReport
import Knhv.Vmx.ProbeFrame
import Knhv.Vmx.ProbeExit
import Knhv.Vmx.FirstExitProof
import Knhv.Crash.Trace
import Knhv.Crash.TraceHonest
import Knhv.Crash.Dump
import Knhv.Crash.DumpTransaction
import Knhv.Lifecycle.Cancellation
import Knhv.Lifecycle.Cancelled
import Knhv.Lib.Packing
import Knhv.Vmx.XsaveLayout
import Knhv.Lib.Pages
import Knhv.Nested.PageTransfer
import Knhv.Nested.RegionProbe
import Knhv.Vmx.SetupRun
import Knhv.Vmx.SetupImage
import Knhv.Vmx.SetupSound
import Knhv.Vmx.InstructionSync
import Knhv.Entry.Native
import Knhv.Time.Composition
import Knhv.Vmx.MsrBitmap
