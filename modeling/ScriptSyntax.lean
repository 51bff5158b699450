/-
ScriptSyntax — tokens and syntax trees of a small scripting language.

* `Tokenize` cuts a script into tokens; `Lexeme` says what the pieces of
  a script are, and `Cursor` is a place in one.
* `Token` holds the tokens and the vocabulary, `Fault` what can be wrong.
* `Json` writes token lists as JSON text and reads them back.
* `Tree` holds syntax trees, and `Numeral` the numbers in their leaves.
* `CommandLine` is the program that lists the tokens of one file.
-/
import ScriptSyntax.Tokenize
import ScriptSyntax.Json.Writing
import ScriptSyntax.Json.Reading
import ScriptSyntax.Tree.Equality
import ScriptSyntax.Tree.Nodes
import ScriptSyntax.Tree.Leaf
import ScriptSyntax.CommandLine
import ScriptSyntax.Main
import ScriptSyntax.Proofs.Lexeme.Grammar
import ScriptSyntax.Proofs.Lexeme.Cuts
import ScriptSyntax.Proofs.Lexeme.Sequence
import ScriptSyntax.Proofs.Tokenize.Run
import ScriptSyntax.Proofs.Tokenize.Grammar
import ScriptSyntax.Proofs.Tokenize.Faults
import ScriptSyntax.Proofs.Token.WellFormed
import ScriptSyntax.Proofs.Tokenize.Rendering
import ScriptSyntax.Proofs.Tokenize.Extension
import ScriptSyntax.Proofs.Tokenize.Behind
import ScriptSyntax.Proofs.Tokenize.Concatenation
import ScriptSyntax.Proofs.Tokenize.Layout
import ScriptSyntax.Proofs.Tokenize.Desugaring
import ScriptSyntax.Proofs.Json.RoundTrip
import ScriptSyntax.Proofs.Json.Grammar
import ScriptSyntax.Proofs.Json.Literals
import ScriptSyntax.Proofs.Json.Numbers
import ScriptSyntax.Proofs.Json.Values
import ScriptSyntax.Proofs.Json.Acceptance
import ScriptSyntax.Proofs.Json.Truncation
import ScriptSyntax.Proofs.Tokenize.Literals
import ScriptSyntax.Proofs.Tokenize.Neighbours
import ScriptSyntax.Proofs.Tokenize.Spelling
import ScriptSyntax.Proofs.Numeral.Reading
import ScriptSyntax.Proofs.Tree.Leaf
import ScriptSyntax.Proofs.Cursor.Calls
import ScriptSyntax.Proofs.Tokenize.Rules
import ScriptSyntax.Proofs.Tokenize.Progress
import ScriptSyntax.Proofs.Tokenize.Positions
import ScriptSyntax.Proofs.Tokenize.Growth
import ScriptSyntax.Proofs.Numeral.Magnitudes
import ScriptSyntax.Proofs.Numeral.Rounding
import ScriptSyntax.Proofs.Numeral.Grammar
import ScriptSyntax.Proofs.Tree.Numbers
import ScriptSyntax.Proofs.Tree.Equality
import ScriptSyntax.Proofs.FileSystem.Paths
import ScriptSyntax.Proofs.CommandLine.Arguments
import ScriptSyntax.Proofs.CommandLine.Outcome
import ScriptSyntax.Proofs.Text.Parts
import ScriptSyntax.Proofs.Token.Display
import ScriptSyntax.Proofs.Fault.Report
import ScriptSyntax.Proofs.Tokenize.Listing
