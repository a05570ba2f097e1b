import FixBatch.CommandLine.Help
import FixBatch.Files.Tree
import FixBatch.Main
import FixBatch.Program
import FixBatch.Program.Scene
import FixBatch.Proofs.Arguments.Sides
import FixBatch.Proofs.Call
import FixBatch.Proofs.Check.Alike
import FixBatch.Proofs.Check.Spelling
import FixBatch.Proofs.Cleanup
import FixBatch.Proofs.Distinct.Operation
import FixBatch.Proofs.Imports.Comment
import FixBatch.Proofs.Imports.Lasting
import FixBatch.Proofs.Imports.Names
import FixBatch.Proofs.Imports.Rebuilt
import FixBatch.Proofs.Imports.Size
import FixBatch.Proofs.Options.Items
import FixBatch.Proofs.Plan.Targets
import FixBatch.Proofs.Plan.Written
import FixBatch.Proofs.Program.DryRun
import FixBatch.Proofs.Program.Obstacle
import FixBatch.Proofs.Program.Status
import FixBatch.Proofs.Report.Json
import FixBatch.Proofs.Run.Aborted
import FixBatch.Proofs.Run.Cleanup
import FixBatch.Proofs.Settings
import FixBatch.Shell.Launch
