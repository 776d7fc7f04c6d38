import OpcodeForge.Addressing
import OpcodeForge.CommandLine.Arguments
import OpcodeForge.CommandLine.Run
import OpcodeForge.Disk.Basic
import OpcodeForge.Disk.Path
import OpcodeForge.Failure
import OpcodeForge.Generation
import OpcodeForge.Log
import OpcodeForge.Main
import OpcodeForge.Markdown.Cells
import OpcodeForge.Markdown.Definition
import OpcodeForge.Markdown.Document
import OpcodeForge.Markdown.Html
import OpcodeForge.Markdown.Line
import OpcodeForge.Markdown.Marker
import OpcodeForge.Markdown.Token
import OpcodeForge.Number.Binary64
import OpcodeForge.Number.Decimal
import OpcodeForge.Number.Hex
import OpcodeForge.Number.Numeral
import OpcodeForge.Number.Shortest
import OpcodeForge.Opcode.Builder
import OpcodeForge.Opcode.DefaultReference
import OpcodeForge.Opcode.Entry
import OpcodeForge.Opcode.Reference
import OpcodeForge.Opcode.ReferenceFile
import OpcodeForge.Opcode.Row
import OpcodeForge.Opcode.Table
import OpcodeForge.Output
import OpcodeForge.Proofs.Opcode.Declaration
import OpcodeForge.Rendering.Bodies
import OpcodeForge.Rendering.Dispatch
import OpcodeForge.Settings.Basic
import OpcodeForge.Settings.File
import OpcodeForge.Specification.Block
import OpcodeForge.Specification.Instruction
import OpcodeForge.Specification.Library
import OpcodeForge.Specification.Section
import OpcodeForge.Text.Blank
import OpcodeForge.Text.Casing
import OpcodeForge.Text.Casing.Table
import OpcodeForge.Text.Digit
import OpcodeForge.Text.Encoding
import OpcodeForge.Text.Pieces
import OpcodeForge.Text.Printable
import OpcodeForge.Text.Quoted
import OpcodeForge.Value.Basic
import OpcodeForge.Value.Date
import OpcodeForge.Value.Text
import OpcodeForge.Yaml.Construct
import OpcodeForge.Yaml.Cursor
import OpcodeForge.Yaml.Graph
import OpcodeForge.Yaml.Node
import OpcodeForge.Yaml.Scalar
import OpcodeForge.Yaml.Tag
import OpcodeForge.Yaml.Token
import OpcodeForge.Proofs.Opcode.Run
import OpcodeForge.Proofs.Disk.Spares
import OpcodeForge.Proofs.Disk.Directories
import OpcodeForge.Proofs.Disk.Destinations
import OpcodeForge.Proofs.Disk.Names
import OpcodeForge.Proofs.Text.LineEnds
import OpcodeForge.Proofs.Specification.Listing
import OpcodeForge.Proofs.Output.Replacing
import OpcodeForge.Proofs.Output.Repeating
import OpcodeForge.Proofs.Unseen
import OpcodeForge.Proofs.Repetition
import OpcodeForge.Proofs.Output.Staging
import OpcodeForge.Proofs.Output.Keeping
import OpcodeForge.Proofs.Output.Clearing
import OpcodeForge.Proofs.Addressing
import OpcodeForge.Proofs.Opcode.Faults
import OpcodeForge.Proofs.Rendering.Dispatch
import OpcodeForge.Proofs.Rendering.KeyOrder
import OpcodeForge.Proofs.Specification.Documents
import OpcodeForge.Proofs.Outcome
import OpcodeForge.Proofs.Markdown.Lines
import OpcodeForge.Proofs.Markdown.Reads
import OpcodeForge.Proofs.Markdown.Tables
import OpcodeForge.Proofs.Specification.Blocks
import OpcodeForge.Proofs.Specification.Roundtrip
import OpcodeForge.Proofs.Specification.Forest
import OpcodeForge.Proofs.Specification.Rectangular
import OpcodeForge.Proofs.Specification.Insertion
import OpcodeForge.Proofs.Output.Ordinary
import OpcodeForge.Proofs.Opcode.Calls
import OpcodeForge.Proofs.Opcode.Slots
import OpcodeForge.Proofs.Opcode.Order
import OpcodeForge.Proofs.Opcode.Columns
import OpcodeForge.Proofs.Opcode.Fields
import OpcodeForge.Proofs.Opcode.Spelling
import OpcodeForge.Proofs.Number.Hex
import OpcodeForge.Proofs.Number.Decimal
import OpcodeForge.Proofs.Rendering.Coherence
import OpcodeForge.Proofs.Rendering.Coverage
import OpcodeForge.Proofs.Opcode.Placeholders
import OpcodeForge.Proofs.Generation
import OpcodeForge.Proofs.Rendering.Bodies
import OpcodeForge.Proofs.Text.Marks
import OpcodeForge.Proofs.Rendering.Definitions
import OpcodeForge.Proofs.Rendering.Arms
import OpcodeForge.Proofs.Rendering.Closure
import OpcodeForge.Proofs.Rendering.Uniqueness
import OpcodeForge.Proofs.Addressing.Variants
import OpcodeForge.Proofs.Flags
import OpcodeForge.Proofs.Opcode.ReferenceFile
import OpcodeForge.Proofs.Output.Written
import OpcodeForge.Proofs.Stopping
import OpcodeForge.Proofs.Course
import OpcodeForge.Proofs.Limits
import OpcodeForge.Proofs.CommandLine
import OpcodeForge.Proofs.Text.Digit
import OpcodeForge.Proofs.Addressing.Queries
import OpcodeForge.Proofs.Addressing.Overrides
import OpcodeForge.Proofs.Number.Numeral
import OpcodeForge.Proofs.Opcode.Integers
import OpcodeForge.Proofs.Yaml.Words
import OpcodeForge.Proofs.Yaml.Steps
import OpcodeForge.Proofs.Yaml.Scanning
import OpcodeForge.Proofs.Yaml.Listing
import OpcodeForge.Proofs.Yaml.Numbers
import OpcodeForge.Proofs.Opcode.ReferenceText
import OpcodeForge.Proofs.Specification.NameOrder
import OpcodeForge.Proofs.Rendering.PrintedCycles
