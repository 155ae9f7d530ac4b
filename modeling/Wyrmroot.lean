import Wyrmroot.Accounting.ReplayWindow
import Wyrmroot.Bootfs.PolicyCodec
import Wyrmroot.Bootstrap.Custody
import Wyrmroot.Bootstrap.Diagnosis
import Wyrmroot.Console.Session
import Wyrmroot.Consoled.Line
import Wyrmroot.Consoled.Restarts
import Wyrmroot.Device.Generations
import Wyrmroot.Device.ManifestText
import Wyrmroot.DeviceProto.ControlV11
import Wyrmroot.DeviceProto.ControllerV11
import Wyrmroot.Devmgr.ControlTransactions
import Wyrmroot.Devmgr.ResidentIdentity
import Wyrmroot.Devmgr.RetryBudget
import Wyrmroot.Devmgr.StreamAgreement
import Wyrmroot.Diagnostics.Attribution
import Wyrmroot.Launching.TransactionRuns
import Wyrmroot.Loader.Confinement
import Wyrmroot.Loader.Correlation
import Wyrmroot.Loader.ElfOrder
import Wyrmroot.Loader.InitAgreement
import Wyrmroot.Registry.Failures
import Wyrmroot.Registry.Faults
import Wyrmroot.Registry.Generations
import Wyrmroot.Registry.LiveTransactions
import Wyrmroot.Registry.Watches
import Wyrmroot.Restart.Recovery
import Wyrmroot.Rrc.Closure
import Wyrmroot.Runtime.Input
import Wyrmroot.Runtime.Output
import Wyrmroot.Shell.Quarantine
import Wyrmroot.Shell.Typing
import Wyrmroot.Succession.Replacement
import Wyrmroot.Transition.KernelElfOrder
import Wyrmroot.Uefi.MemoryMap
