import LoxSyntax.Trace
import LoxSyntax.Toml.Document
import LoxSyntax.Config.Path
import LoxSyntax.CommandLine.Arguments
import LoxSyntax.CommandLine.Run
import LoxSyntax.Main
import LoxSyntax.Pattern.Basic
import LoxSyntax.Pattern.Brackets
import LoxSyntax.Pattern.Grammar
import LoxSyntax.Proofs.Parsing.Grammar
import LoxSyntax.Proofs.Parsing.Ahead
import LoxSyntax.Proofs.Parsing.Reading
import LoxSyntax.Proofs.Parsing.Soundness
import LoxSyntax.Proofs.Parsing.RoundTrip
import LoxSyntax.Proofs.Parsing.Height
import LoxSyntax.Proofs.Lexing.Tiling
import LoxSyntax.Proofs.Lexing.Joining
import LoxSyntax.Proofs.Parsing.History
import LoxSyntax.Proofs.Pipeline.Readback
import LoxSyntax.Proofs.CommandLine.Prompt
import LoxSyntax.Proofs.CommandLine.Script
import LoxSyntax.Proofs.Parsing.Invariant
import LoxSyntax.Proofs.Pipeline.Preconditions
import LoxSyntax.Proofs.Pipeline.Spacing
import LoxSyntax.Proofs.Parsing.Nesting
import LoxSyntax.Proofs.Parsing.Restart
import LoxSyntax.Proofs.Lexing.Respacing
import LoxSyntax.Proofs.Pipeline.Journal
import LoxSyntax.Proofs.Lexing.Requests
import LoxSyntax.Proofs.Pipeline.Refusal
import LoxSyntax.Proofs.Pipeline.Rendering
import LoxSyntax.Proofs.Pipeline.Listing
import LoxSyntax.Proofs.Data.Yaml.Values
import LoxSyntax.Proofs.Parsing.Recovery
import LoxSyntax.Proofs.Config.Layers
