import ProgramTrace.Host.System
import ProgramTrace.Main
import ProgramTrace.Proofs.Aftermath
import ProgramTrace.Proofs.CommandLine.NormalForm
import ProgramTrace.Proofs.CommandLine.Refusals
import ProgramTrace.Proofs.CommandLine.Unfinished
import ProgramTrace.Proofs.CommandLine.Wording
import ProgramTrace.Proofs.Events
import ProgramTrace.Proofs.Export.ArgumentsCell
import ProgramTrace.Proofs.Export.FullDevice
import ProgramTrace.Proofs.Export.XmlConformance
import ProgramTrace.Proofs.Launch
import ProgramTrace.Proofs.LogSetup
import ProgramTrace.Proofs.Report
import ProgramTrace.Proofs.Time.Order
import ProgramTrace.Tool
