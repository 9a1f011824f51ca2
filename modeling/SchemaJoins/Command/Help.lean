/-! # Help

What the program and its commands say of their use.
-/

namespace SchemaJoins.Command.Help

def program : List String := [
  "Usage: joinscope [OPTIONS] COMMAND [ARGS]...",
  "",
  "  joinscope - Join relationship analysis for schema graphs",
  "",
  "  Classify associations, detect cycles, configure joins per database adapter and",
  "  validate parameterized join declarations.",
  "",
  "Options:",
  "  --version      Show the version and exit.",
  "  -v, --verbose  Enable verbose output",
  "  --help         Show this message and exit.",
  "",
  "Commands:",
  "  analyze      Analyze join relationships of a schema export.",
  "  init-config  Write a commented default configuration file.",
  "  validate     Validate parameterized join declarations in Python domain..."]

def analyze : List String := [
  "Usage: joinscope analyze [OPTIONS] SCHEMA_FILE",
  "",
  "  Analyze join relationships of a schema export.",
  "",
  "  Examples:",
  "",
  "      # Analyze every entity of an introspection export     joinscope analyze",
  "      schema.yml",
  "",
  "      # One entity, MySQL 8.0, saving the join config     joinscope analyze",
  "      schema.yml --entity orders \\         --adapter mysql --adapter_version 8.0",
  "      --output joins.yml",
  "",
  "Options:",
  "  --entity TEXT                   Analyze a single entity (default: all",
  "                                  entities)",
  "  --config PATH                   Configuration file (default: .joinscope.yml if",
  "                                  present)",
  "  --adapter TEXT                  Database adapter (postgres, mysql, sqlite)",
  "  --adapter_version TEXT          Database version used for version-gated join",
  "                                  support",
  "  --join_depth INTEGER            Maximum cycle search depth",
  "  --strategy [eager|lazy|optimized]",
  "                                  Join loading strategy",
  "  --include_junction_edges / --no_junction_edges",
  "                                  Route many-to-many edges through junction",
  "                                  entities during cycle search",
  "  --output PATH                   Write the analysis and emitter join config to",
  "                                  a YAML file",
  "  --help                          Show this message and exit."]

def validate : List String := [
  "Usage: joinscope validate [OPTIONS] [FILES]...",
  "",
  "  Validate parameterized join declarations in Python domain files.",
  "",
  "  Examples:",
  "",
  "      # Validate domain files     joinscope validate domains/products.py",
  "      domains/orders.py",
  "",
  "      # Test field reference parsing     joinscope validate --test_references",
  "      \"products:electronics:true.name,discounts:seasonal.amount\"",
  "",
  "Options:",
  "  --test_references TEXT  Comma-separated field references to parse",
  "  --help                  Show this message and exit."]

def initConfig : List String := [
  "Usage: joinscope init-config [OPTIONS]",
  "",
  "  Write a commented default configuration file.",
  "",
  "Options:",
  "  --path PATH  Where to write the configuration template",
  "  --force      Overwrite an existing file",
  "  --help       Show this message and exit."]

end SchemaJoins.Command.Help
