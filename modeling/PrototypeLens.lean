import PrototypeLens.Archive.Generator
import PrototypeLens.Archive.TemplateManifest
import PrototypeLens.Augment.Basic
import PrototypeLens.Config.Workspace
import PrototypeLens.Descriptor.Naming
import PrototypeLens.Editor.Highlight
import PrototypeLens.Editor.LiteralReference
import PrototypeLens.Editor.Marker
import PrototypeLens.Editor.Problems
import PrototypeLens.Editor.Suppression
import PrototypeLens.Editor.Usage
import PrototypeLens.Log.Filter
import PrototypeLens.Program
import PrototypeLens.Proofs.Session.Classification
import PrototypeLens.Proofs.Session.Denials
import PrototypeLens.Proofs.Session.Faithful
import PrototypeLens.Proofs.Augment.Distinct
import PrototypeLens.Proofs.Registry.Evolution
import PrototypeLens.Proofs.Template.Discipline
import PrototypeLens.Proofs.Session.Conduct
import PrototypeLens.Proofs.Session.Asking
import PrototypeLens.Proofs.Origin.Meaning
import PrototypeLens.Proofs.Registry.Attribution
import PrototypeLens.Proofs.Session.History
import PrototypeLens.Proofs.Session.Origins
import PrototypeLens.Proofs.Host.Written
import PrototypeLens.Proofs.Host.Assignability
import PrototypeLens.Proofs.Walk.Mapping
import PrototypeLens.Proofs.Augment.Growth
import PrototypeLens.Proofs.Augment.Merging
import PrototypeLens.Proofs.Augment.Inheritance
import PrototypeLens.Proofs.Augment.Repetition
import PrototypeLens.Proofs.Host.Echo
import PrototypeLens.Proofs.Session.Interruption
import PrototypeLens.Proofs.Session.Determinacy
import PrototypeLens.Proofs.Session.Resilience
import PrototypeLens.Proofs.Augment.Completeness
import PrototypeLens.Proofs.Session.Coherence
import PrototypeLens.Proofs.Session.Enrichment
import PrototypeLens.Proofs.Session.Termination
import PrototypeLens.Proofs.Session.Validation
import PrototypeLens.Proofs.Editor.Retrying
import PrototypeLens.Proofs.Session.Memoising
import PrototypeLens.Proofs.Session.Roots
import PrototypeLens.Proofs.Session.Archives
import PrototypeLens.Proofs.Session.Repeating
import PrototypeLens.Proofs.Augment.Isolation
import PrototypeLens.Proofs.Session.Exclusion
import PrototypeLens.Proofs.Session.Hiding
import PrototypeLens.Proofs.Editor.Symmetry
import PrototypeLens.Proofs.Editor.Finding
import PrototypeLens.Proofs.Expression.Root
import PrototypeLens.Proofs.Registry.Refreshing
import PrototypeLens.Proofs.Session.Restoring
import PrototypeLens.Proofs.Expression.Search
import PrototypeLens.Proofs.Descriptor.Ordering
import PrototypeLens.Proofs.Descriptor.Relocation
import PrototypeLens.Proofs.Archive.Records
import PrototypeLens.Proofs.Archive.Headers
import PrototypeLens.Proofs.Program.NameIndex
import PrototypeLens.Proofs.Archive.Versions
import PrototypeLens.Proofs.Enricher.Placeholders
import PrototypeLens.Proofs.Augment.Accessors
import PrototypeLens.Proofs.Editor.Revisiting
import PrototypeLens.Proofs.Editor.Innermost
import PrototypeLens.Proofs.Model.Sites
import PrototypeLens.Proofs.Session.Barring
