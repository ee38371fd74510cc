import CallSites.ErrorTerm
import CallSites.Folder
import CallSites.Main
import CallSites.Proofs.Data.IndexedMap
import CallSites.Proofs.Errors
import CallSites.Proofs.Platform.FullNames
import CallSites.Proofs.Program.Allocations
import CallSites.Proofs.Program.Atomicity
import CallSites.Proofs.Program.CallableTypes
import CallSites.Proofs.Program.CellNames
import CallSites.Proofs.Program.CellTyping
import CallSites.Proofs.Program.Counters
import CallSites.Proofs.Program.NormalForm
import CallSites.Proofs.Program.PassModes
import CallSites.Proofs.Program.RegistryContents
import CallSites.Proofs.Program.SynthesizedNames
import CallSites.Proofs.Program.UnitTables
import CallSites.Proofs.Program.Units
import CallSites.Proofs.Report.Bootstrapping
import CallSites.Proofs.Report.ContainerNames
import CallSites.Proofs.Report.Failures
import CallSites.Proofs.Report.Order
import CallSites.Proofs.Report.Totals
import CallSites.Proofs.Text.CommaLists
import CallSites.Proofs.Types.InstanceMembers
