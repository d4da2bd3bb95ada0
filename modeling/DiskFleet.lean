import DiskFleet.Agent.Scripted
import DiskFleet.Config.Yaml
import DiskFleet.Engine.Basic
import DiskFleet.Json.Reader
import DiskFleet.Logging.Logger
import DiskFleet.Pool.Summary
import DiskFleet.Proofs.Action.Along
import DiskFleet.Proofs.Resource.Step
import DiskFleet.Proofs.Registry.Move
import DiskFleet.Proofs.Image.Define
import DiskFleet.Proofs.Image.Move
import DiskFleet.Proofs.Engine.Run
import DiskFleet.Proofs.Registry.Sound
import DiskFleet.Proofs.Registry.Change
import DiskFleet.Proofs.Registry.Copy
import DiskFleet.Proofs.Engine.Registry
import DiskFleet.Proofs.Engine.Storage
import DiskFleet.Proofs.Registry.Release
import DiskFleet.Proofs.Engine.Commands
import DiskFleet.Proofs.Registry.Without
import DiskFleet.Proofs.Engine.Access
import DiskFleet.Proofs.Image.WellFormed
import DiskFleet.Proofs.Image.Edit
import DiskFleet.Proofs.Image.Clone
import DiskFleet.Proofs.Image.Object
import DiskFleet.Proofs.Image.Lineage
import DiskFleet.Proofs.Image.Holding
import DiskFleet.Proofs.Image.Lifetime
import DiskFleet.Proofs.Engine.Ownership
import DiskFleet.Proofs.Image.Compensation
import DiskFleet.Proofs.Image.Rebase
import DiskFleet.Proofs.Resource.Refusal
import DiskFleet.Proofs.Registry.Refusal
import DiskFleet.Proofs.Image.Refusal
import DiskFleet.Proofs.Image.Backup
import DiskFleet.Proofs.Image.Copies
import DiskFleet.Proofs.Engine.Recovery
import DiskFleet.Proofs.Engine.Refusal
import DiskFleet.Proofs.Engine.Cloning
import DiskFleet.Proofs.Image.Unmaking
import DiskFleet.Proofs.Engine.Teardown
import DiskFleet.Proofs.Engine.Creation
import DiskFleet.Proofs.Action.Ensures
import DiskFleet.Proofs.Registry.Confined
import DiskFleet.Proofs.Image.Confined
import DiskFleet.Proofs.Engine.Isolation
import DiskFleet.Proofs.Engine.Definition
import DiskFleet.Proofs.Registry.Prepared
import DiskFleet.Proofs.Image.BackupStorage
import DiskFleet.Proofs.Engine.Backup
import DiskFleet.Proofs.Registry.Errand
import DiskFleet.Proofs.Registry.Twin
import DiskFleet.Proofs.Image.Twins
import DiskFleet.Proofs.Engine.Twins
import DiskFleet.Proofs.Registry.Place
import DiskFleet.Proofs.Engine.Apart
import DiskFleet.Proofs.Cluster.Names
import DiskFleet.Proofs.Text.Words
import DiskFleet.Proofs.Engine.Startup
import DiskFleet.Proofs.Image.Legality
import DiskFleet.Proofs.Engine.Legality
import DiskFleet.Proofs.Engine.Pipeline
import DiskFleet.Proofs.Json.Record
import DiskFleet.Proofs.Json.RoundTrip
import DiskFleet.Proofs.Engine.Mediation
import DiskFleet.Proofs.Engine.Arrival
import DiskFleet.Proofs.Engine.TapPorts
import DiskFleet.Proofs.Engine.OnePlace
import DiskFleet.Proofs.Image.Added
import DiskFleet.Proofs.Image.Rebased
import DiskFleet.Proofs.Engine.Layering
import DiskFleet.Proofs.Image.Access
import DiskFleet.Proofs.Engine.Inheritance
import DiskFleet.Proofs.Json.Commands
import DiskFleet.Proofs.Resource.Union
import DiskFleet.Proofs.Engine.Transfer
import DiskFleet.Proofs.Json.Path
import DiskFleet.Proofs.Image.Shown
import DiskFleet.Proofs.Image.Asked
import DiskFleet.Proofs.Engine.Shown
import DiskFleet.Proofs.Params.Override
import DiskFleet.Proofs.Engine.LayerObject
import DiskFleet.Proofs.Text.Trim
import DiskFleet.Proofs.Size.Grammar
import DiskFleet.Proofs.Number.Exact
import DiskFleet.Proofs.Size.Whole
