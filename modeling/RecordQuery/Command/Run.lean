import RecordQuery.Command.Arguments
import RecordQuery.Command.Failure
import RecordQuery.Engine

/-!
# Running commands

What a command does, as a function of its options and of the files that it can see.  A command
answers with one line: the result of the query or the report on it, or the report on a failure.
Its configuration is read first, then its query, then its records, and the first of them that
fails decides.  The steps are those of the engine's `load_config`, `query_file`, `read_records`,
`parse_report` and `run_command`.
-/

namespace RecordQuery

/-- The words in which the reader of JSON refuses a text.  They are its own affair: a command passes
them on and looks at none of them. -/
class RefusalWording where
  /-- Why a text is no JSON text. -/
  json : String → String
  /-- Why a text is not the JSON text of a configuration. -/
  config : String → String

instance : RefusalWording where
  json _ := "not a JSON text"
  config _ := "not the JSON text of a configuration"

/-- Logs that the configuration was read from the path, under the threshold that it sets itself. -/
def Config.logLoaded (c : Config) (path : String) : Logged Unit :=
  c.logger.event .configLoaded .info [("path", path)]

namespace Command

variable [RefusalWording]

/-- The configuration of a file, within its ranges (the engine's `EngineConfig::load`). -/
def readConfig (files : Files) (path : String) : Logged (Except ConfigFailure Config) :=
  match files.read path with
  | .error why => .silent (.error (.unreadable path why))
  | .ok text =>
    match Config.ofText? text with
    | none => .silent (.error (.malformed ⟨path, RefusalWording.config text⟩))
    | some c =>
      match c.validate with
      | .error setting => .silent (.error (.invalid setting))
      | .ok () => do
        c.logLoaded path
        return .ok c

/-- The configuration for a command: that of the file or, without one, the default that logs
warnings; a threshold and strictness given on the command line win. -/
def config (files : Files) (path : Option String) (strict : Bool) (level : Option Severity) :
    Logged (Except ConfigFailure Config) :=
  let given :=
    match path with
    | some path => readConfig files path
    | none => .silent (.ok { logLevel := .warn })
  given.map fun outcome => outcome.map fun c =>
    { c with strict := strict || c.strict, logLevel := level.getD c.logLevel }

def readRecords (files : Files) (path : String) (c : Config) :
    Logged (Except Failure (List Record)) :=
  match files.read path with
  | .error why => .silent (.error (.unreadable path why))
  | .ok text =>
    match Json.read? text with
    | none => .silent (.error (.malformed (RefusalWording.json text)))
    | some document => (Engine.load c document).map fun
      | some records => .ok records
      | none => .error (.notAnArray path)

def queryFile (files : Files) (path query : String) (c : Config) : Logged (Except Failure Result) :=
  ((Engine.readChecked c query).mapError .rejected).andThen fun q =>
    (readRecords files path c).andThen fun records => (Engine.execute c q records).map .ok

/-- The reading of a query; under a strict configuration it must have nothing wrong. -/
def report (query : String) (c : Config) : Logged (Except Failure Reading) :=
  if c.strict then
    ((Engine.readStrictly c query).mapError .rejected).map fun outcome =>
      outcome.map fun q => ⟨q, []⟩
  else (Engine.read c query).map .ok

def configOf (files : Files) (o : Options) : Logged (Except Failure Config) :=
  (config files o.config o.strict o.logLevel).mapError .config

/-- The answer of a command, one line of JSON. -/
def answer (files : Files) : Command → Logged (Except Failure String)
  | query records options =>
    (configOf files options).andThen fun c =>
      (queryFile files records options.query c).map fun outcome =>
        outcome.map fun r => String.ofList r.write
  | parse options =>
    (configOf files options).andThen fun c =>
      (report options.query c).map fun outcome => outcome.map fun r => r.toJson.text

end Command

/-- What a run of the program shows. -/
structure Outcome where
  exit : Nat
  stdout : List String
  stderr : List String

/-- The program for a command: a failure is reported on both channels. -/
def Command.run [RefusalWording] (files : Files) (c : Command) : Outcome :=
  let answer := c.answer files
  match answer.value with
  | .ok line => ⟨0, [line], answer.log⟩
  | .error f => ⟨1, [f.toJson.text], answer.log ++ [f.text]⟩

end RecordQuery
