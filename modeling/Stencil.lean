import Stencil.Engine.Basic
import Stencil.Markup.Compiler
import Stencil.Render.Step
import Stencil.Proofs.Depth
import Stencil.Proofs.Super
import Stencil.Proofs.Interpreted
import Stencil.Proofs.Emission
import Stencil.Proofs.Lookup
import Stencil.Proofs.Forms
import Stencil.Proofs.Revisions
import Stencil.Proofs.Coherence
import Stencil.Proofs.Sessions
import Stencil.Proofs.Transparency
import Stencil.Proofs.Heights
import Stencil.Proofs.Parsing
import Stencil.Proofs.Flattening
import Stencil.Proofs.Safety
import Stencil.Proofs.Lineage
import Stencil.Proofs.Inheritance
import Stencil.Proofs.Staleness
import Stencil.Proofs.Actions
import Stencil.Proofs.Effects
import Stencil.Proofs.Regularity
import Stencil.Proofs.Atomicity
import Stencil.Proofs.Honesty
import Stencil.Proofs.Ownership
import Stencil.Proofs.Attempts
import Stencil.Proofs.Instances
import Stencil.Proofs.SearchOrder
import Stencil.Proofs.Interleaving
import Stencil.Proofs.Apart
import Stencil.Proofs.Eagerness
import Stencil.Proofs.Sites
import Stencil.Proofs.Blame
import Stencil.Proofs.Underflow
import Stencil.Proofs.Succession
import Stencil.Proofs.Expressions
import Stencil.Proofs.Growth
import Stencil.Proofs.Dependence
import Stencil.Proofs.Ranks
import Stencil.Proofs.Partition
import Stencil.Proofs.Descent
import Stencil.Proofs.Containment
import Stencil.Proofs.Reports
import Stencil.Proofs.Layers
import Stencil.Proofs.Scanning
import Stencil.Proofs.Writing
import Stencil.Proofs.Escaping
import Stencil.Proofs.Entities
import Stencil.Proofs.TitleCase
import Stencil.Proofs.Refusals
