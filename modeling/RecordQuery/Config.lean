import RecordQuery.Json.Reader
import RecordQuery.Log.Logger

/-!
# Configuration

Four settings, each with a default, so that an empty object is a configuration.  A configuration
is given as an object whose other members are ignored, or as an array of the settings in order, of
which trailing ones may be missing.  A setting of the wrong type is refused, and so is one that is
given twice.

In the text of a configuration an ignored member is not looked into: it has to be well spelled and
no more.
-/

namespace RecordQuery

/-- The settings of the query engine. -/
structure Config where
  /-- Refuse malformed queries instead of ignoring what is malformed in them. -/
  strict : Bool := false
  /-- The greatest page size that a query may ask for. -/
  maxTop : Option Nat := none
  /-- Take strings that name an instant as dates when records are loaded. -/
  detectDates : Bool := true
  /-- The threshold of the log. -/
  logLevel : Severity := .off
deriving DecidableEq

/-- A setting has a value outside its range. -/
inductive InvalidSetting where
  /-- The greatest page size is zero. -/
  | zeroMaxTop
deriving DecidableEq

namespace InvalidSetting

def message : InvalidSetting → String
  | zeroMaxTop => "Invalid config value for max_top: must be greater than zero when set"

end InvalidSetting

namespace Config

instance : Inhabited Config := ⟨{}⟩

/-- The logger that honours the threshold. -/
def logger (c : Config) : Logger := ⟨c.logLevel⟩

def validate (c : Config) : Except InvalidSetting Unit :=
  if c.maxTop = some 0 then .error .zeroMaxTop else .ok ()

/-! ### JSON -/

def names : List String := ["strict", "max_top", "detect_dates", "log_level"]

def bool? : Json → Option Bool
  | .bool b => some b
  | _ => none

/-- The bound that a setting holds, null for none. -/
def bound? : Json → Option (Option Nat)
  | .null => some none
  | .integer (.ofNat n) => some (some n)
  | _ => none

def set? (c : Config) (name : String) (value : Json) : Option Config :=
  match name with
  | "strict" => (bool? value).map fun b => { c with strict := b }
  | "max_top" => (bound? value).map fun n => { c with maxTop := n }
  | "detect_dates" => (bool? value).map fun b => { c with detectDates := b }
  | "log_level" => (Severity.ofJson? value).map fun s => { c with logLevel := s }
  | _ => some c

/-- The configuration with named settings, none of them given twice. -/
def ofSettings? (settings : List (String × Json)) : Option Config :=
  if (settings.map Prod.fst).Nodup then
    settings.foldlM (fun c (name, value) => c.set? name value) {}
  else none

def ofValues? (values : List Json) : Option Config :=
  if values.length ≤ names.length then ofSettings? (names.zip values) else none

def ofJson? : Json → Option Config
  | .object members => ofSettings? (members.filter fun (name, _) => names.contains name)
  | .array values => ofValues? values
  | _ => none

/-- The value of a setting.  No setting is an object of several members, and several of one name
count as several. -/
def settingValue? : Json.Document → Option Json
  | .object (_ :: _ :: _) => none
  | document => document.value? Json.greatestDepth

def settingsOf : List (List Json.Piece × Json.Document) → Option (List (String × Json))
  | [] => some []
  | (name, value) :: rest => do
    let name ← Json.stringOf name
    if names.contains name then
      let value ← settingValue? value
      return (name, value) :: (← settingsOf rest)
    else settingsOf rest

def ofText? (text : String) : Option Config := do
  match ← Json.Document.read? text.toList with
  | .object members => ofSettings? (← settingsOf members)
  | .array values => ofValues? (← values.mapM settingValue?)
  | _ => none

def toJson (c : Config) : Json :=
  .object [("strict", .bool c.strict),
    ("max_top", (c.maxTop.map fun n => Json.integer n).getD .null),
    ("detect_dates", .bool c.detectDates), ("log_level", .string c.logLevel.name)]

end Config

end RecordQuery
