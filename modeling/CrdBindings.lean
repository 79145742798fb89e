import CrdBindings.Json.Reading
import CrdBindings.Json.Writing
import CrdBindings.Bundle.OfDisk
import CrdBindings.Main
import CrdBindings.Proofs.Compilation
import CrdBindings.Proofs.Tree
import CrdBindings.Proofs.Layout.Laid
import CrdBindings.Proofs.Layout.Flattening
import CrdBindings.Proofs.Ident
import CrdBindings.Proofs.Layout.Region
import CrdBindings.Proofs.Layout.Line
import CrdBindings.Proofs.Layout.Sanitised
import CrdBindings.Proofs.Layout.Containment
import CrdBindings.Proofs.Layout.WireNames
import CrdBindings.Proofs.Objects
import CrdBindings.Proofs.Ident.Reserved
import CrdBindings.Proofs.Ident.Runs
import CrdBindings.Proofs.Ident.Characters
import CrdBindings.Proofs.Claiming
import CrdBindings.Proofs.Layout.UniqueNames
import CrdBindings.Proofs.Equality
import CrdBindings.Proofs.Admission
import CrdBindings.Importer.Overlap
import CrdBindings.Proofs.Overlap
import CrdBindings.Proofs.Resolution
import CrdBindings.Importer.Session
import CrdBindings.Proofs.Session
import CrdBindings.Proofs.Enumeration
import CrdBindings.Proofs.Declared
import CrdBindings.Proofs.Disk
import CrdBindings.Proofs.Writing
import CrdBindings.Proofs.Skipping
import CrdBindings.Proofs.Depth
import CrdBindings.Catalog.Session
import CrdBindings.Proofs.Registration
import CrdBindings.Proofs.Numeral
import CrdBindings.Proofs.Version
import CrdBindings.Proofs.Fragment
import CrdBindings.Proofs.Reference
import CrdBindings.Proofs.Url
import CrdBindings.Proofs.Source
import CrdBindings.Proofs.Addressing
import CrdBindings.Proofs.Merging
import CrdBindings.Proofs.Pruning
import CrdBindings.Proofs.Grammar.Word
import CrdBindings.Proofs.Grammar.Version
import CrdBindings.Proofs.Grammar.Reference
import CrdBindings.Proofs.Shape
import CrdBindings.Proofs.Usable
import CrdBindings.Proofs.Collecting
import CrdBindings.Proofs.Layout.Borrowed
import CrdBindings.Proofs.Layout.Appended
import CrdBindings.Proofs.Outline
import CrdBindings.Proofs.Reordering
import CrdBindings.Proofs.Grammar.Tag
import CrdBindings.Proofs.Pinning
import CrdBindings.Proofs.Growth
import CrdBindings.Proofs.Detection
import CrdBindings.Proofs.Stages
import CrdBindings.Proofs.Ident.Legal
