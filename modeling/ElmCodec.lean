import ElmCodec.FileTree.Disk
import ElmCodec.Main
import ElmCodec.Proofs.Codec.Definitions
import ElmCodec.Proofs.Codec.Coherence
import ElmCodec.Proofs.Codec.Alignment
import ElmCodec.Proofs.Codec.Circles
import ElmCodec.Proofs.Codec.Comments
import ElmCodec.Proofs.Codec.Refusals
import ElmCodec.Proofs.Codec.ImportBlock
import ElmCodec.Proofs.Build.Schemas
import ElmCodec.Proofs.Build.Checks
import ElmCodec.Proofs.Build.Runs
import ElmCodec.Proofs.Path.Names
import ElmCodec.Proofs.Build.ModuleNames
import ElmCodec.Proofs.Build.Outputs
import ElmCodec.Proofs.FileTree.Places
import ElmCodec.Proofs.Build.Alone
import ElmCodec.Proofs.Build.Independence
import ElmCodec.Proofs.FileTree.Steps
import ElmCodec.Proofs.FileTree.Parts
import ElmCodec.Proofs.FieldType.Grammar
import ElmCodec.Proofs.Schema.Documents
import ElmCodec.Proofs.Codec.Pieces
import ElmCodec.Proofs.Codec.SelfReference
import ElmCodec.Proofs.Codec.WireKeys
import ElmCodec.Proofs.Codec.ImportedNames
import ElmCodec.Proofs.Schema.WellFormed
import ElmCodec.Proofs.Schema.Unambiguous
import ElmCodec.Proofs.Codec.References
import ElmCodec.Proofs.Build.Regeneration
import ElmCodec.Proofs.Codec.FieldNames
import ElmCodec.Proofs.Build.SchemaFiles
import ElmCodec.Proofs.Build.Endings
import ElmCodec.Proofs.Build.Layouts
import ElmCodec.Proofs.Codec.Defaults
import ElmCodec.Proofs.Codec.RecordOrder
import ElmCodec.Proofs.Schema.Marks
import ElmCodec.Proofs.Reading.Literals
import ElmCodec.Proofs.Elm.StableNames
import ElmCodec.Proofs.Elm.WordBoundaries
