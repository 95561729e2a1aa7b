import VirtioWddm.Adapter.LogFile
import VirtioWddm.Build.GenerateHeader
import VirtioWddm.Build.HeaderPublished
import VirtioWddm.Build.HeaderRewritten
import VirtioWddm.Build.VersionStream
import VirtioWddm.Device.AllOrNothing
import VirtioWddm.Dxgi.Display
import VirtioWddm.Dxgi.HostLedger
import VirtioWddm.Dxgi.Lifetime
import VirtioWddm.Dxgi.PresentFence
import VirtioWddm.Dxgi.Residency
import VirtioWddm.Dxgi.RotateReport
import VirtioWddm.Dxgi.StaleBinding
import VirtioWddm.Lib.BitFields
import VirtioWddm.Resource.ImageAtomic
import VirtioWddm.Resource.Nested
import VirtioWddm.Resource.PlaneBounds
import VirtioWddm.Triton.BoundObjects
import VirtioWddm.Triton.Dxbc.HashBlocks
import VirtioWddm.Triton.Dxbc.LiveRegisters
import VirtioWddm.Triton.Dxbc.ParseSafe
import VirtioWddm.Triton.Dxbc.ProgramScan
import VirtioWddm.Triton.Dxbc.RoundTrip
import VirtioWddm.Triton.Dxbc.SemanticIndex
import VirtioWddm.Triton.Dxbc.SystemOutputs
import VirtioWddm.Triton.Dxbc.TokenProgram
import VirtioWddm.Triton.Dxbc.TokenScan
import VirtioWddm.Triton.ForeignLayout
import VirtioWddm.Triton.LayoutLedger
import VirtioWddm.Triton.LayoutSignature
import VirtioWddm.Triton.MsaaAgreement
import VirtioWddm.Triton.QueryOrder
import VirtioWddm.Triton.QueryThreads
import VirtioWddm.Triton.SlotSetters
import VirtioWddm.Triton.StateObjects
import VirtioWddm.Triton.StreamOutput
import VirtioWddm.Triton.ViewCoverage
import VirtioWddm.Triton.ViewList
