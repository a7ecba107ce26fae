import InstanceRegistry.Proofs.Deadlock
import InstanceRegistry.Proofs.Recovery
import InstanceRegistry.Proofs.Refinement
import InstanceRegistry.Scenario.Run
import InstanceRegistry.Ty.Catalogue
import InstanceRegistry.Proofs.Notice
import InstanceRegistry.Proofs.Staleness
import InstanceRegistry.Proofs.SlotView
import InstanceRegistry.Proofs.Solo
import InstanceRegistry.Proofs.Restriction
import InstanceRegistry.Proofs.Mirror
import InstanceRegistry.Proofs.Independence
import InstanceRegistry.Proofs.Typing
import InstanceRegistry.Proofs.Reentry
import InstanceRegistry.Proofs.Ledger
import InstanceRegistry.Proofs.Accounting
import InstanceRegistry.Proofs.Unobserved
import InstanceRegistry.Proofs.Infallible
import InstanceRegistry.Proofs.Retry
import InstanceRegistry.Proofs.FaultTree
import InstanceRegistry.Proofs.Sequential
import InstanceRegistry.Proofs.Wrapping
import InstanceRegistry.Proofs.ReturnedFault
import InstanceRegistry.Proofs.Logging
import InstanceRegistry.Proofs.LogEntry
import InstanceRegistry.Proofs.Unwinding
import InstanceRegistry.Proofs.Correspondence
import InstanceRegistry.Proofs.Sharing
import InstanceRegistry.Proofs.SlotText
import InstanceRegistry.Proofs.Naming
import InstanceRegistry.Proofs.Views
import InstanceRegistry.Proofs.LogStream
