import Weaver.Main
import Weaver.Package.Rehearsal
import Weaver.Pass.Insertion
import Weaver.Text.Hex
import Weaver.Proofs.Jimple.Chain
import Weaver.Proofs.Jimple.FreshLocals
import Weaver.Proofs.Jimple.Rereading
import Weaver.Proofs.Jimple.RoundTrip.Class
import Weaver.Proofs.Jimple.Scope
import Weaver.Proofs.Pass.InjectedCode
import Weaver.Proofs.Pass.Atomicity
import Weaver.Proofs.Pass.InjectedTyping
import Weaver.Proofs.Pass.BodyHistory
import Weaver.Proofs.Pass.Reloading
import Weaver.Proofs.Package.Protocol
import Weaver.Proofs.Pass.SubstitutionFrame
import Weaver.Proofs.Pass.Repetition
import Weaver.Proofs.Pass.EditOrder
import Weaver.Proofs.Pass.Hygiene
import Weaver.Proofs.Pass.Accounting
import Weaver.Proofs.Text.Replacing
import Weaver.Proofs.Jimple.TypeImage
import Weaver.Proofs.Pass.ConstructorImage
import Weaver.Proofs.Pass.Splicing
import Weaver.Proofs.Pass.Delegation
import Weaver.Proofs.Pass.WrappedCalls
import Weaver.Proofs.Jimple.LiteralValues
import Weaver.Proofs.Pass.HandlerCalls
import Weaver.Proofs.Jimple.CanonicalForm
import Weaver.Proofs.Jimple.Hierarchy
import Weaver.Proofs.Jimple.Resolution
import Weaver.Proofs.Pass.Discovery
import Weaver.Proofs.Command.Quoting
import Weaver.Proofs.Cli.Replacement
import Weaver.Proofs.Pass.EntryPoints
import Weaver.Proofs.Jimple.GeneratedNames
import Weaver.Proofs.Package.ModifiedArchive
import Weaver.Proofs.Jimple.Regrouping
import Weaver.Proofs.Pass.RegroupedSubstitution
import Weaver.Proofs.Pass.RegroupedPasses
import Weaver.Proofs.Jimple.Bounds.Scanner
import Weaver.Proofs.Jimple.Bounds.Value
import Weaver.Proofs.Jimple.Bounds.Header
import Weaver.Proofs.Jimple.Bounds.Reader
import Weaver.Proofs.Jimple.Bounds.Outline
import Weaver.Proofs.Jimple.Bounds.Blame
import Weaver.Proofs.Jimple.Bounds.Law
import Weaver.Proofs.Jimple.Renaming.Scanning
