import Fieldwise.Aggregate.Attributes
import Fieldwise.Aggregate.Basic
import Fieldwise.Assertion
import Fieldwise.Body.Basic
import Fieldwise.Body.Meaning
import Fieldwise.CallCounter
import Fieldwise.Capability
import Fieldwise.Collection
import Fieldwise.Combine
import Fieldwise.Container.Basic
import Fieldwise.Container.Model
import Fieldwise.Context
import Fieldwise.Definition
import Fieldwise.Diagnostic
import Fieldwise.Either
import Fieldwise.Expansion
import Fieldwise.Event
import Fieldwise.Generator.Basic
import Fieldwise.Generator.Builtin
import Fieldwise.Grammar.Declaration
import Fieldwise.Grammar.Expression
import Fieldwise.Grammar.Field
import Fieldwise.Grammar.Generics
import Fieldwise.Grammar.Item
import Fieldwise.Grammar.Nonterminal
import Fieldwise.Grammar.Operand
import Fieldwise.Grammar.Path
import Fieldwise.Grammar.Pattern
import Fieldwise.Grammar.Phrase
import Fieldwise.Grammar.Reader
import Fieldwise.Grammar.Statement
import Fieldwise.Grammar.Type
import Fieldwise.Token.Basic
import Fieldwise.Interchange.Coded
import Fieldwise.Interchange.Declared
import Fieldwise.Interchange.Document
import Fieldwise.Interchange.Reader
import Fieldwise.Interchange.Report
import Fieldwise.Proofs.Collecting
import Fieldwise.Proofs.Focus
import Fieldwise.Proofs.PureLaws
import Fieldwise.Proofs.Rebuilding
import Fieldwise.Proofs.Simulation
import Fieldwise.Reconstruction
import Fieldwise.Registry
import Fieldwise.Route
import Fieldwise.Synthesis
import Fieldwise.Text.Brackets
import Fieldwise.Text.Quoted
import Fieldwise.Token.Lexer
import Fieldwise.Token.Literal
import Fieldwise.Token.Printer
import Fieldwise.Traversal
import Fieldwise.Traverse
import Fieldwise.TypeExpression.Basic
import Fieldwise.Unicode.Identifier
import Fieldwise.Unicode.Ranges
import Fieldwise.Unicode.Uppercase
import Fieldwise.Unicode.Visible
import Fieldwise.Validated
import Fieldwise.Value.Basic
import Fieldwise.Value.Collection
import Fieldwise.Value.Order
import Fieldwise.Written.Declaration
import Fieldwise.Written.Position
import Fieldwise.Written.Type
import Fieldwise.Proofs.Derived
import Fieldwise.Proofs.Identity
import Fieldwise.Proofs.Calls
import Fieldwise.Proofs.Conversion
import Fieldwise.Proofs.FirstFailure
import Fieldwise.Proofs.Evidence
import Fieldwise.Proofs.Diagnosed
import Fieldwise.Proofs.Dispatch
import Fieldwise.Proofs.Hygiene
import Fieldwise.Proofs.SlotUpdate
import Fieldwise.Proofs.Entries
import Fieldwise.Proofs.AllOrNothing
import Fieldwise.Proofs.Delegation
import Fieldwise.Proofs.Overlap
import Fieldwise.Proofs.Flags
import Fieldwise.Proofs.Selections
import Fieldwise.Proofs.Listening
import Fieldwise.Proofs.UniqueNames
import Fieldwise.Proofs.RebuiltTypes
import Fieldwise.Proofs.SpellingNoise
import Fieldwise.Proofs.Recollecting
import Fieldwise.Proofs.Replacing
import Fieldwise.Proofs.Coherence
import Fieldwise.Proofs.ItemLists
import Fieldwise.Proofs.ItemReaders
import Fieldwise.Proofs.Listings
import Fieldwise.Proofs.Scanning
import Fieldwise.Proofs.Carried
import Fieldwise.Proofs.Composing
import Fieldwise.Proofs.Yielding
import Fieldwise.Proofs.KeyedFields
import Fieldwise.Proofs.ArraySlots
import Fieldwise.Proofs.Origins
import Fieldwise.Proofs.BracketPositions
import Fieldwise.Proofs.ReadingBack
import Fieldwise.Proofs.EffectLaws
import Fieldwise.Proofs.Precedence
