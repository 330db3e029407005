import HostBindings.Address
import HostBindings.Main
import HostBindings.Record
import HostBindings.SinkTable
import HostBindings.Text.Layout
import HostBindings.Proofs.Emission.Growth
import HostBindings.Proofs.Emission.Parts
import HostBindings.Proofs.Emission.Declarations
import HostBindings.Proofs.Printing.Templates
import HostBindings.Proofs.Emission.Progress
import HostBindings.Proofs.Emission.Drain
import HostBindings.Proofs.Runs.Blocks
import HostBindings.Proofs.Runs.Units
import HostBindings.Proofs.Runs.Nested
import HostBindings.Proofs.Runs.Names
import HostBindings.Proofs.Runs.Isolation
import HostBindings.Proofs.Layout.Grammar
import HostBindings.Proofs.Layout.Members
import HostBindings.Proofs.Layout.Declarations
import HostBindings.Proofs.Layout.Sections
import HostBindings.Proofs.Layout.Files
import HostBindings.Proofs.Layout.Plain
import HostBindings.Proofs.Layout.Standard
import HostBindings.Proofs.Layout.Generations
import HostBindings.Proofs.Names.Sharing
import HostBindings.Proofs.Shapes.Generations
import HostBindings.Proofs.Batches.Listings
import HostBindings.Proofs.Sinks.Units
import HostBindings.Proofs.Sinks.Files
import HostBindings.Proofs.Runs.Prefixes
import HostBindings.Proofs.Runs.Repeats
import HostBindings.Proofs.Runs.Outcomes
import HostBindings.Proofs.Runs.Complete
import HostBindings.Proofs.Comments.Generations
import HostBindings.Proofs.Reading.Spellings
import HostBindings.Proofs.Registry.Registrations
import HostBindings.Proofs.Registry.Growth
import HostBindings.Proofs.Runs.Modes
import HostBindings.Proofs.Files.Crossings
import HostBindings.Proofs.Reserved.Orders
import HostBindings.Proofs.Runs.Independence
import HostBindings.Proofs.Settings.Saved
import HostBindings.Proofs.Imports.Headers
import HostBindings.Proofs.Literals.Fields
import HostBindings.Proofs.Events.Modes
import HostBindings.Proofs.Events.Names
import HostBindings.Proofs.Emission.Enumerations
import HostBindings.Proofs.Naming.Packages
import HostBindings.Proofs.Naming.Identifiers
import HostBindings.Proofs.Naming.Exported
import HostBindings.Proofs.Events.Constants
import HostBindings.Proofs.Naming.Members
import HostBindings.Proofs.Reviews.Malformed
import HostBindings.Proofs.Names.Scopes
import HostBindings.Proofs.Settings.Types
import HostBindings.Proofs.Batches.Discovery
import HostBindings.Proofs.Naming.Boundaries
import HostBindings.Proofs.Text.NormalForm
