import SchemaJoins.Analysis.Basic

/-! # Analyses as values -/

namespace SchemaJoins.Analysis

def toValue (a : Analysis) : Value :=
  .record [("entity", .text a.entity),
    ("joins", .map (a.joins.map fun c => (c.name, c.toValue))),
    ("relationships", .record (a.relationships.map fun (c, names) => (c.name, .list names))),
    ("hierarchies", .list (a.hierarchies.map Hierarchy.toValue)),
    ("dimensions", .list (a.dimensions.map Schema.Dimension.toValue)),
    ("junction_tables", .list a.junctions), ("cycles", .list (a.cycles.map Value.list)),
    ("warnings", Value.texts a.warnings), ("suggestions", Value.texts a.suggestions)]

end SchemaJoins.Analysis
