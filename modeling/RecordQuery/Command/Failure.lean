import RecordQuery.Command.Files
import RecordQuery.Config
import RecordQuery.Query.Diagnostic

/-!
# Failures of commands

Why a command fails, with the code and the message that it reports.
-/

namespace RecordQuery

/-- A file whose text is refused, and the reason that the reader of JSON gives. -/
structure RefusedFile where
  path : String
  reason : String
deriving DecidableEq

/-- Why a configuration file is of no use. -/
inductive ConfigFailure where
  | unreadable (path : String) (why : ReadFailure)
  | malformed (file : RefusedFile)
  | invalid (setting : InvalidSetting)
deriving DecidableEq

def ConfigFailure.message : ConfigFailure → String
  | unreadable path why => "Cannot read config file " ++ path ++ ": " ++ why.message
  | malformed file => "Invalid config file " ++ file.path ++ ": " ++ file.reason
  | invalid setting => setting.message

/-- Why a command fails. -/
inductive Failure where
  | config (cause : ConfigFailure)
  /-- The records file cannot be read. -/
  | unreadable (path : String) (why : ReadFailure)
  /-- The records file is no JSON text, for the reason that the reader of JSON gives. -/
  | malformed (reason : String)
  /-- The records file holds something else than an array. -/
  | notAnArray (path : String)
  /-- The query was refused by a strict reading. -/
  | rejected (cause : Diagnostic)
deriving DecidableEq

namespace Failure

def code : Failure → String
  | config _ => "CLI_CONFIG_ERROR"
  | unreadable _ _ | malformed _ => "CLI_IO_ERROR"
  | notAnArray _ => "CLI_INVALID_RECORDS"
  | rejected _ => "CLI_QUERY_REJECTED"

def message : Failure → String
  | config cause => cause.message
  | unreadable path why => path ++ ": " ++ why.message
  | malformed reason => "JSON error: " ++ reason
  | notAnArray path => path ++ ": expected a JSON array"
  | rejected cause => cause.message

def text (f : Failure) : String := f.code ++ ": " ++ f.message

def toJson (f : Failure) : Json :=
  .object [("status", .string "error"), ("code", .string f.code), ("message", .string f.message)]

end Failure

end RecordQuery
