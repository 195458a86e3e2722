import TaskRunner.Json.Printer
import TaskRunner.Main
import TaskRunner.Proofs.ClosedDeclarations
import TaskRunner.Proofs.CommandWords
import TaskRunner.Proofs.DeclarationOrder
import TaskRunner.Proofs.DeclarationState
import TaskRunner.Proofs.Decorators
import TaskRunner.Proofs.Diagnostics
import TaskRunner.Proofs.Directories
import TaskRunner.Proofs.EvaluationEnd
import TaskRunner.Proofs.ExitStatus
import TaskRunner.Proofs.HelpListing
import TaskRunner.Proofs.LogHistories
import TaskRunner.Proofs.MergeOrder
import TaskRunner.Proofs.NearestRunfile
import TaskRunner.Proofs.OriginDirectories
import TaskRunner.Proofs.RefusedRequests
import TaskRunner.Proofs.ScopeLookup
import TaskRunner.Proofs.SettingsDocuments
import TaskRunner.Proofs.SettingsTables
import TaskRunner.Proofs.Stages
import TaskRunner.Proofs.TaskNames
import TaskRunner.Proofs.TaskTable
import TaskRunner.Proofs.WorkingDirectory
import TaskRunner.Proofs.StartingDirectory
