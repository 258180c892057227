import RustJsi.Runtime.DrainCoalescing
import RustJsi.Runtime.IngressAdmission
import RustJsi.Host.EntryLifecycle
import RustJsi.Runtime.MailboxWakeup
import RustJsi.Runtime.MailboxConservation
import RustJsi.Runtime.StrandedWork
import RustJsi.Interleaving.Wrapping
import RustJsi.NonZero
import RustJsi.Host.Identity
import RustJsi.Host.WorkMailbox
import RustJsi.Runtime.MailboxSignal
import RustJsi.Host.WorkPosts
import RustJsi.Host.AttachmentIsolation
import RustJsi.Interleaving.Solitude
import RustJsi.Interleaving.Linearizable
import RustJsi.Runtime.ClosingCompletes
import RustJsi.Testkit.MailboxRefinement
import RustJsi.Runtime.UnreachableArms
import RustJsi.Runtime.SignalPacing
import RustJsi.Testkit.HostLifecycle
import RustJsi.BackendJsc.ExternalLedger
import RustJsi.BackendJsc.RootHistory
import RustJsi.BackendJsc.FinalizerDelivery
import RustJsi.BackendJsc.FinalizerLinearization
import RustJsi.BackendJsc.FinalizerPacing
import RustJsi.BackendJsc.LocalBalance
import RustJsi.Nested.CallStack
import RustJsi.Counted.Heap
import RustJsi.BackendJsc.ProtectionBalance
import RustJsi.BackendJsc.DetachAccount
import RustJsi.Host.Work
import RustJsi.Testkit.LifecycleTrace
import RustJsi.Interleaving.Tokens
import RustJsi.Testkit.WorkQueueHistory
import RustJsi.Text.Unicode
import RustJsi.BackendJsc.EngineString
import RustJsi.BackendJsc.ExceptionMessage
import RustJsi.BackendJsc.InboundStrings
import RustJsi.BackendJsc.ExternalTransfer
import RustJsi.Testkit.ModelBackend
import RustJsi.Testkit.ModelValues
import RustJsi.BackendJsc.AttachedRoots
import RustJsi.Testkit.RootContract
import RustJsi.Testkit.ModelHistory
import RustJsi.Testkit.ModelRoots
import RustJsi.Testkit.ParallelRoots
import RustJsi.Testkit.SameRoots
import RustJsi.BackendJsc.LocalRootSlots
import RustJsi.Host.IdentityAllocation
import RustJsi.BackendJsc.ContextCall
import RustJsi.BackendJsc.InstallationOutcome
import RustJsi.Testkit.BufferAccounting
import RustJsi.BackendJsc.DeferredTeardown
import RustJsi.BackendJsc.NativeInstallationOutcome
import RustJsi.BackendJsc.PersistentHandles
import RustJsi.BackendJsc.PersistentLifetimes
import RustJsi.BackendJsc.RootTurns
import RustJsi.BackendJsc.PersistentTracking
