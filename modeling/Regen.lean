import Regen.Main
import Regen.Proofs.Template.Rule
import Regen.Template.Session
import Regen.Proofs.Template.Edits
import Regen.Proofs.Template.Rendering
import Regen.Proofs.Template.RoundTrip
import Regen.Proofs.Template.Directory
import Regen.Proofs.Template.Warnings
import Regen.Proofs.Template.Intact
import Regen.Proofs.Template.Survival
import Regen.Proofs.Template.Merging
import Regen.Proofs.Template.Regeneration
import Regen.Proofs.Template.Sessions
import Regen.Proofs.Template.Existing
import Regen.Proofs.Cli.Refinement
import Regen.Proofs.Generation.Calls
import Regen.Proofs.Cli.Editing
import Regen.Proofs.Cli.Tracking
import Regen.Proofs.Manifest.Saved
import Regen.Proofs.Template.Coherence
import Regen.Proofs.Template.Isolation
import Regen.Proofs.Number.Rounding
import Regen.Proofs.Template.Outcome
import Regen.Proofs.Number.Shortest
import Regen.Proofs.Toml.Numbers
import Regen.Proofs.Toml.Lines
import Regen.Proofs.Toml.RoundTrip
import Regen.Proofs.Config.Saved
import Regen.Proofs.Template.Grammar
import Regen.Proofs.Template.Notices
import Regen.Proofs.Template.Addressing
import Regen.Proofs.Manifest.Naming
import Regen.Proofs.Manifest.Refused
import Regen.Proofs.Config.Limits
import Regen.Proofs.Project.Setup
import Regen.Proofs.Text.Order
import Regen.Proofs.Generation.Arguments
import Regen.Proofs.Catalog.Board
import Regen.Proofs.Generation.Discovery
import Regen.Proofs.Generation.Timeouts
import Regen.Proofs.Cli.Reporting
import Regen.Proofs.Template.Termination
