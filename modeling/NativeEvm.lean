import NativeEvm.Word
import NativeEvm.Word.Codec
import NativeEvm.Types.UInt256
import NativeEvm.AccountWitness
import NativeEvm.Frame
import NativeEvm.Storage
import NativeEvm.Loop
import NativeEvm.Optimized
import NativeEvm.Jumptable
import NativeEvm.Run
import NativeEvm.Effect
import NativeEvm.Optimized.Effect
import NativeEvm.Jumptable.Effect
import NativeEvm.Switch
import NativeEvm.Switch.Effect
import NativeEvm.Switch.Run
import NativeEvm.Switch.Simulation
import NativeEvm.Switch.Gas
import NativeEvm.Build
import NativeEvm.Termination
import NativeEvm.Optimized.Stack
import NativeEvm.Gas
import NativeEvm.Bounds
import NativeEvm.Arithmetic
import NativeEvm.Footprint
import NativeEvm.MemoryView
import NativeEvm.Mock
import NativeEvm.GasBudget
import NativeEvm.Tracing
import NativeEvm.Replay
import NativeEvm.HaltReasons
import NativeEvm.StorageOpcodes
import NativeEvm.StoragePlane
import NativeEvm.Agreement
import NativeEvm.StorageIsolation
