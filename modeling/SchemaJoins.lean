import SchemaJoins.Declaration.Bind
import SchemaJoins.Main
import SchemaJoins.Reference.Parse
import SchemaJoins.Validation.Content
import SchemaJoins.Proofs.Relationship.Accounting
import SchemaJoins.Proofs.Relationship.Cycles
import SchemaJoins.Proofs.Relationship.Reading
import SchemaJoins.Proofs.Reference.Division
import SchemaJoins.Proofs.Reference.Grammar
import SchemaJoins.Proofs.Reference.Spelling
import SchemaJoins.Proofs.Join.Junctions
import SchemaJoins.Proofs.Join.Mirrored
import SchemaJoins.Proofs.Join.Passes
import SchemaJoins.Proofs.Adapter.Upgrades
import SchemaJoins.Proofs.Validation.Flags
import SchemaJoins.Proofs.Source.Fragment
import SchemaJoins.Proofs.Source.Literal
import SchemaJoins.Proofs.Source.Outermost
import SchemaJoins.Proofs.Source.Written
import SchemaJoins.Proofs.Declaration.Binding
import SchemaJoins.Proofs.Analysis.Downgrades
import SchemaJoins.Proofs.Analysis.Independence
import SchemaJoins.Proofs.Analysis.Cycles
import SchemaJoins.Proofs.Analysis.Appended
import SchemaJoins.Proofs.Analysis.Loaded
import SchemaJoins.Proofs.Analysis.Locality
import SchemaJoins.Proofs.Analysis.Origins
import SchemaJoins.Proofs.Analysis.Suggestions
import SchemaJoins.Proofs.Settings.Merging
import SchemaJoins.Proofs.Settings.Overrides
import SchemaJoins.Proofs.Schema.Loading
import SchemaJoins.Proofs.Command.Commas
import SchemaJoins.Proofs.Command.SettingsFile
import SchemaJoins.Proofs.Reference.Totality
import SchemaJoins.Proofs.Validation.Addressable
import SchemaJoins.Proofs.Validation.Bound
import SchemaJoins.Proofs.Validation.Composition
import SchemaJoins.Proofs.Validation.Content
import SchemaJoins.Proofs.Validation.Paths
