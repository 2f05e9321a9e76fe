import RecordQuery.Log.Severity

/-!
# Command lines

There are two commands, `query` and `parse`, which take options by long names.  An option's value
follows as the next argument or after an equals sign; a value that starts with a dash needs the
equals sign.  Options may come in any order, each of them once, and nothing else may be given.

Arguments are taken from left to right.  The first one that is wrong, or that asks for help,
decides; that the records are missing shows at the end only.
-/

namespace RecordQuery

/-- What both commands can be told. -/
structure Options where
  query : String := ""
  config : Option String := none
  strict : Bool := false
  logLevel : Option Severity := none
deriving DecidableEq

/-- A command. -/
inductive Command where
  /-- Run a query over the records of a file. -/
  | query (records : String) (options : Options)
  /-- Read a query and show its parts. -/
  | parse (options : Options)
deriving DecidableEq

/-- What a command line asks for. -/
inductive Request where
  | run (command : Command)
  | help
  | version
  /-- The command line is wrong. -/
  | misuse
deriving DecidableEq

namespace Request

/-- The options given so far. -/
structure Draft where
  records : Option String := none
  query : Option String := none
  config : Option String := none
  strict : Bool := false
  logLevel : Option Severity := none

namespace Draft

/-- The options of a draft, with the default for a query that is not given. -/
def options (d : Draft) : Options where
  query := d.query.getD ""
  config := d.config
  strict := d.strict
  logLevel := d.logLevel

/-- The draft with the value of a named option, which must be new and fit the option. -/
def give? (d : Draft) (takesRecords : Bool) (name : List Char) (value : String) : Option Draft :=
  match String.ofList name with
  | "records" =>
    if takesRecords ∧ d.records = none ∧ value ≠ "" then some { d with records := some value }
    else none
  | "query" => if d.query = none then some { d with query := some value } else none
  | "config" =>
    if d.config = none ∧ value ≠ "" then some { d with config := some value } else none
  | "log-level" =>
    if d.logLevel = none then
      (Severity.ofWord? value).map fun level => { d with logLevel := some level }
    else none
  | _ => none

def finish (d : Draft) (takesRecords : Bool) : Request :=
  if takesRecords then
    match d.records with
    | some records => .run (.query records d.options)
    | none => .misuse
  else .run (.parse d.options)

end Draft

def isValue (arg : String) : Bool := arg = "-" || arg.toList.head? ≠ some '-'

def ofOptions (takesRecords : Bool) : Draft → List String → Request
  | d, [] => d.finish takesRecords
  | d, arg :: rest =>
    match arg.toList with
    | ['-', '-'] => if rest = [] then d.finish takesRecords else .misuse
    | '-' :: '-' :: long =>
      match Text.cutAt '=' long with
      | some (name, value) =>
        match d.give? takesRecords name (String.ofList value) with
        | some d => ofOptions takesRecords d rest
        | none => .misuse
      | none =>
        if long = "help".toList then .help
        else if long = "strict".toList then
          if d.strict then .misuse else ofOptions takesRecords { d with strict := true } rest
        else
          match rest with
          | [] => .misuse
          | value :: rest =>
            if isValue value then
              match d.give? takesRecords long value with
              | some d => ofOptions takesRecords d rest
              | none => .misuse
            else .misuse
    | '-' :: 'h' :: _ => .help
    | _ => .misuse

def ofHelpTopics (topics : List String) : Request :=
  if topics ∈ [[], ["query"], ["parse"], ["help"]] then .help else .misuse

/-- The request of a command line, the name of the program left out. -/
def ofArguments : List String → Request
  | [] => .misuse
  | arg :: rest =>
    if arg = "query" then ofOptions true {} rest
    else if arg = "parse" then ofOptions false {} rest
    else if arg = "help" then ofHelpTopics rest
    else
      match arg.toList with
      | '-' :: 'h' :: _ => .help
      | '-' :: 'V' :: _ => .version
      | cs =>
        if cs = "--help".toList then .help
        else if cs = "--version".toList then .version
        else .misuse

end Request

end RecordQuery
