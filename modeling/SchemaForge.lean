import SchemaForge.Main
import SchemaForge.Proofs.Android.Statements
import SchemaForge.Proofs.Android.HandEdits
import SchemaForge.Proofs.Android.Languages
import SchemaForge.Proofs.Android.Packages
import SchemaForge.Proofs.Android.Paths
import SchemaForge.Proofs.Android.References
import SchemaForge.Proofs.Schema.Grammar
import SchemaForge.Proofs.Schema.Validity
import SchemaForge.Proofs.Files.Placement
import SchemaForge.Proofs.Files.Account
import SchemaForge.Proofs.Files.Repetition
import SchemaForge.Proofs.Schema.Fields
import SchemaForge.Proofs.Schema.Writing
import SchemaForge.Proofs.Code.Declarations
import SchemaForge.Proofs.Code.Operations
import SchemaForge.Proofs.Literal.Default
import SchemaForge.Proofs.Android.Ordinals
import SchemaForge.Proofs.Android.Coverage
import SchemaForge.Proofs.Android.KeyBinding
import SchemaForge.Proofs.Android.NestedEnums
import SchemaForge.Proofs.Android.EnumDefaults
import SchemaForge.Proofs.Android.Conversions
import SchemaForge.Proofs.Android.Nullability
import SchemaForge.Proofs.Sql.Indexes
import SchemaForge.Proofs.Android.ColumnOrder
import SchemaForge.Proofs.Schema.Lookup
import SchemaForge.Proofs.Schema.EnumLists
import SchemaForge.Proofs.Android.EnumLiterals
import SchemaForge.Proofs.Android.EmbeddedLiterals
import SchemaForge.Proofs.Sql.Parts
import SchemaForge.Proofs.Android.TruthDefaults
import SchemaForge.Proofs.Android.DatabaseNames
import SchemaForge.Proofs.Xml.Regular
import SchemaForge.Proofs.Schema.Edits
import SchemaForge.Proofs.CommandLine.Generation
import SchemaForge.Proofs.Code.Indentation
import SchemaForge.Proofs.Literal.Form
