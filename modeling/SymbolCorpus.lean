import SymbolCorpus.Address
import SymbolCorpus.Command.Arguments
import SymbolCorpus.Command.Build
import SymbolCorpus.Command.Extract
import SymbolCorpus.Command.Project
import SymbolCorpus.Command.Reach
import SymbolCorpus.Command.Request
import SymbolCorpus.Command.Run
import SymbolCorpus.Command.Session
import SymbolCorpus.Command.Text
import SymbolCorpus.Corpus.Builder
import SymbolCorpus.Corpus.Files
import SymbolCorpus.Corpus.Record
import SymbolCorpus.Corpus.Render
import SymbolCorpus.Digest.Sha256
import SymbolCorpus.Extraction.Dump
import SymbolCorpus.Extraction.Extractor
import SymbolCorpus.Extraction.Host
import SymbolCorpus.Extraction.Selection
import SymbolCorpus.Extraction.Sidecar
import SymbolCorpus.Files.Digest
import SymbolCorpus.Files.Disk
import SymbolCorpus.Files.Error
import SymbolCorpus.Files.Path
import SymbolCorpus.Files.Tree
import SymbolCorpus.Identifier.Score
import SymbolCorpus.Identifier.Segmenter
import SymbolCorpus.Identifier.Subword
import SymbolCorpus.Identifier.Suffix
import SymbolCorpus.Identifier.Vocabulary
import SymbolCorpus.Identifier.Words
import SymbolCorpus.Instruction.Abstraction
import SymbolCorpus.Instruction.Representation
import SymbolCorpus.Instruction.Token
import SymbolCorpus.Integer
import SymbolCorpus.Json.Fields
import SymbolCorpus.Json.Reader
import SymbolCorpus.Json.Value
import SymbolCorpus.Json.Writer
import SymbolCorpus.Ledger.Basic
import SymbolCorpus.Ledger.Document
import SymbolCorpus.Ledger.Record
import SymbolCorpus.Main
import SymbolCorpus.Name.Filter
import SymbolCorpus.Name.NameMap
import SymbolCorpus.Name.Signature
import SymbolCorpus.Project.Config
import SymbolCorpus.Project.Context
import SymbolCorpus.Project.Layout
import SymbolCorpus.Project.Resource
import SymbolCorpus.Project.Settings
import SymbolCorpus.Proofs.Alignment
import SymbolCorpus.Proofs.Characters
import SymbolCorpus.Proofs.CorpusPaths
import SymbolCorpus.Proofs.Deduplication
import SymbolCorpus.Proofs.Enclosure
import SymbolCorpus.Proofs.ExtractionRuns
import SymbolCorpus.Proofs.GreedyChoice
import SymbolCorpus.Proofs.Lanes
import SymbolCorpus.Proofs.LastGiven
import SymbolCorpus.Proofs.Lexing
import SymbolCorpus.Proofs.Lines
import SymbolCorpus.Proofs.LowerCase
import SymbolCorpus.Proofs.Masking
import SymbolCorpus.Proofs.MovedAddresses
import SymbolCorpus.Proofs.OwnName
import SymbolCorpus.Proofs.Ranges
import SymbolCorpus.Proofs.Reextraction
import SymbolCorpus.Proofs.Relocation
import SymbolCorpus.Proofs.Rendering
import SymbolCorpus.Proofs.Rules
import SymbolCorpus.Proofs.SecondPass
import SymbolCorpus.Proofs.Segments
import SymbolCorpus.Proofs.Siblings
import SymbolCorpus.Proofs.Sessions
import SymbolCorpus.Proofs.SidecarFiles
import SymbolCorpus.Proofs.Subwords
import SymbolCorpus.Proofs.Trees
import SymbolCorpus.Proofs.Words
import SymbolCorpus.Proofs.Writes
import SymbolCorpus.PseudoCode.Category
import SymbolCorpus.PseudoCode.Lexeme
import SymbolCorpus.PseudoCode.Mask
import SymbolCorpus.PseudoCode.Rule
import SymbolCorpus.PseudoCode.Token
import SymbolCorpus.Text.Alphabetic
import SymbolCorpus.Text.Blank
import SymbolCorpus.Text.CaseContext
import SymbolCorpus.Text.CharClass
import SymbolCorpus.Text.Cut
import SymbolCorpus.Text.Key
import SymbolCorpus.Text.LetterCase
import SymbolCorpus.Text.Lowering
import SymbolCorpus.Text.Numeral
import SymbolCorpus.Text.Octets
import SymbolCorpus.Text.Quoted
import SymbolCorpus.Text.Raw
import SymbolCorpus.Text.Span
import SymbolCorpus.Text.Visible
import SymbolCorpus.Timestamp
import SymbolCorpus.Yaml.Reader
import SymbolCorpus.Yaml.Value
import SymbolCorpus.Proofs.Tokens
import SymbolCorpus.Proofs.AnonymousNames
import SymbolCorpus.Proofs.Gaps
import SymbolCorpus.Proofs.InStep
import SymbolCorpus.Proofs.Parentheses
import SymbolCorpus.Proofs.DefinedName
import SymbolCorpus.Proofs.LineBreaks
import SymbolCorpus.Proofs.FixedTokens
import SymbolCorpus.Proofs.LedgerFile
import SymbolCorpus.Proofs.LedgerEntries
import SymbolCorpus.Proofs.SchemaVersions
import SymbolCorpus.Proofs.ExtractionLedger
import SymbolCorpus.Proofs.CorpusLedger
import SymbolCorpus.Proofs.IncidentalOrder
import SymbolCorpus.Proofs.BracketMatching
import SymbolCorpus.Proofs.BracketRegions
import SymbolCorpus.Proofs.MethodNames
import SymbolCorpus.Proofs.BestCuts
import SymbolCorpus.Proofs.SameFiles
import SymbolCorpus.Proofs.RecordsFiles
import SymbolCorpus.Proofs.WrittenDocuments
import SymbolCorpus.Proofs.DecodedFields
import SymbolCorpus.Proofs.StoredValues
import SymbolCorpus.Proofs.IdentifierRuns
import SymbolCorpus.Proofs.Acronyms
import SymbolCorpus.Proofs.LiteralRuns
import SymbolCorpus.Proofs.Literals
import SymbolCorpus.Proofs.WholeWords
import SymbolCorpus.Proofs.WantedNames
import SymbolCorpus.Proofs.NumericLiterals
import SymbolCorpus.Proofs.SingleLines
import SymbolCorpus.Proofs.RawTexts
import SymbolCorpus.Proofs.ShownWords
