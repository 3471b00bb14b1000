import HdlClosure.Main
import HdlClosure.Proofs.Analysis.Batch
import HdlClosure.Proofs.Analysis.ListingOrder
import HdlClosure.Proofs.Analysis.SelfDuplicates
import HdlClosure.Proofs.Instantiation.Keys
import HdlClosure.Proofs.Instantiation.LetterCase
import HdlClosure.Proofs.ModuleGraph.Counts
import HdlClosure.Proofs.ModuleGraph.Independence
import HdlClosure.Proofs.ModuleGraph.Traversal
import HdlClosure.Proofs.Naming
import HdlClosure.Proofs.Program.Effects
import HdlClosure.Proofs.Report
import HdlClosure.Proofs.Settings.Merging
