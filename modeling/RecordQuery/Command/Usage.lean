/-!
# What the program says about itself
-/

namespace RecordQuery

def versionLine : String := "odata-lite 0.1.0"

def usage : List String :=
  [ "Usage: odata-lite query --records FILE [OPTIONS]",
    "       odata-lite parse [OPTIONS]",
    "",
    "Options:",
    "  --query TEXT       decoded query string",
    "  --config FILE      engine configuration",
    "  --strict           reject malformed query input instead of dropping it",
    "  --log-level LEVEL  trace, info, warn, error or off; overrides the configuration" ]

end RecordQuery
