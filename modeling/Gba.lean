import Gba.Desktop.AsyncSaveWriter
import Gba.Core.AndroidCoreBridge
import Gba.Core.SessionClocks
import Gba.Core.WorkAccounts
import Gba.Core.StrandedReturn
import Gba.Core.RegisterFrame
import Gba.Core.SavedRegisters
import Gba.Core.UserMode
import Gba.Core.SpriteRow
import Gba.Core.SpriteAdmission
import Gba.Core.CpuSetCopies
import Gba.Core.DecoderAgreement
import Gba.Core.UnpackedCalls
import Gba.Core.RunLengthSplits
import Gba.Core.Lz77
import Gba.Core.DifferentialFilters
import Gba.Core.ArcTanSafety
import Gba.Core.ArithmeticFlags
import Gba.Core.FastPaths
import Gba.Core.DmaCopy
import Gba.Core.SoundQueues
import Gba.Core.DmaService
import Gba.Core.FifoBurst
import Gba.Core.FrameEvents
import Gba.Core.IoByteStores
import Gba.Core.IoWidths
import Gba.Core.ReadWidths
import Gba.Core.StoreLoads
import Gba.Core.FramePresentation
import Gba.Core.AndroidRuntime
import Gba.Core.CompositorPixel
import Gba.Core.CompositorLayers
import Gba.Core.Compositor
import Gba.Library.LeastTwo
import Gba.Core.PpuRenderer
import Gba.Core.PpuSprites
import Gba.Core.PpuBackground
import Gba.Core.HleRefusals
import Gba.Core.Refusals
import Gba.Core.TransferParity
import Gba.Core.RamTransfers
import Gba.Core.ExceptionReturn
import Gba.Core.MultiplierArray
import Gba.Core.ThumbDataProcessing
import Gba.Core.TimerRestore
import Gba.Core.FetchStep
import Gba.Core.InstructionStep
import Gba.Core.HleWork
import Gba.Core.HleServices
import Gba.Core.HleMemoryServices
import Gba.Core.HleArithmetic
import Gba.Core.AccessTiming
import Gba.Core.CpuStep
import Gba.Core.CycleEstimates
import Gba.Core.ThumbExecute
import Gba.Core.ArmExecute
import Gba.Core.ArmMultiplier
import Gba.Core.ArmDecode
import Gba.Core.GamePakSave
import Gba.Core.SaveMemory
import Gba.Core.BankedRegisters
import Gba.Core.TimeConservation
import Gba.Core.AdvanceSplit
import Gba.Core.ConditionalExecution
import Gba.Core.NestedCalls
import Gba.Core.ApuRestore
import Gba.Desktop.SaveStateGuard
import Gba.Core.TimerTicks
import Gba.Core.DmaSafety
import Gba.Core.DmaController
import Gba.Core.MemoryBus
import Gba.Core.WaitStates
import Gba.Core.Keypad
import Gba.Core.PpuTiming
import Gba.Desktop.DirtyTracking
import Gba.Desktop.SaveWrites
import Gba.Library.Cascade
