import BuildPlan.Main
import BuildPlan.Proofs.Draft.Finishing
import BuildPlan.Proofs.BuildFile.RoundTrip
import BuildPlan.Proofs.Plan.Replay
import BuildPlan.Proofs.Files.Growth
import BuildPlan.Proofs.Files.Replacing
import BuildPlan.Proofs.Run.Emission
import BuildPlan.Proofs.Files.Landing
import BuildPlan.Proofs.Run.Inputs
import BuildPlan.Proofs.Plan.Shape
import BuildPlan.Proofs.Plan.Makers
import BuildPlan.Proofs.Plan.Leaves
import BuildPlan.Proofs.Files.Rewriting
import BuildPlan.Proofs.Run.Idempotence
import BuildPlan.Proofs.BuildFile.LineBreaks
import BuildPlan.Proofs.CommandLine.Values
import BuildPlan.Proofs.Program.Injection
import BuildPlan.Proofs.Graph.Waiting
import BuildPlan.Proofs.Plan.Apart
import BuildPlan.Proofs.Graph.Turning
import BuildPlan.Proofs.Draft.Circle
import BuildPlan.Proofs.Template.Grammar
import BuildPlan.Proofs.Template.Display
import BuildPlan.Proofs.Path.Joining
import BuildPlan.Proofs.Plan.Overwriting
import BuildPlan.Proofs.Draft.Refusals
import BuildPlan.Proofs.Run.Flags
import BuildPlan.Proofs.Plan.Faults
import BuildPlan.Proofs.Toolchain.Locating
import BuildPlan.Proofs.CommandLine.Passthrough
import BuildPlan.Proofs.Graph.Rotation
import BuildPlan.Proofs.Graph.Recursion
import BuildPlan.Proofs.Draft.Midway
import BuildPlan.Proofs.Run.Verdicts
import BuildPlan.Proofs.BuildFile.PathLists
