import Formula.Complaint
import Formula.Main
import Formula.Stream
import Formula.Tree.Steps
import Formula.Proofs.Grammar.Earliest
import Formula.Proofs.Grammar.Kinds
import Formula.Proofs.Grammar.Limits
import Formula.Proofs.Grammar.Substitution
import Formula.Proofs.Grammar.Yield
import Formula.Proofs.Token.Munch
import Formula.Proofs.Tree.Document
import Formula.Proofs.Tree.RoundTrip
import Formula.Proofs.Text.Lines
import Formula.Proofs.Token.Placement
import Formula.Proofs.Excerpt
import Formula.Proofs.Numeral.Scaling
import Formula.Proofs.Tree.Canonical
import Formula.Proofs.Tree.Reprint
import Formula.Proofs.Command.Output
import Formula.Proofs.Token.Tracking
import Formula.Proofs.Token.Offence
import Formula.Proofs.Grammar.Adjacency
import Formula.Proofs.Token.Gaps
import Formula.Proofs.Spacing
import Formula.Proofs.Grammar.Groups
import Formula.Proofs.Grammar.Pairs
import Formula.Proofs.Grammar.Powers
import Formula.Proofs.Grammar.Indices
import Formula.Proofs.Token.Symbols
import Formula.Proofs.Grammar.Letters
import Formula.Proofs.Grammar.Calls
import Formula.Proofs.Numeral.Signed
import Formula.Proofs.Binding
import Formula.Proofs.Tree.Outline
import Formula.Proofs.Grammar.Heights
import Formula.Proofs.Stream
import Formula.Proofs.Numeral.Exact
import Formula.Proofs.Tree.Reread
