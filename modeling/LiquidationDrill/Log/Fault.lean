import LiquidationDrill.Json.Reader
import LiquidationDrill.Value.Display

/-!
# What can be wrong with a log

- `Log.Reason`: why a line is no record, or a record has no transaction hash;
- `Log.Fault`: the fault with its place;
- `Log.Fault.message`: the wording.
-/

namespace LiquidationDrill.Log

/-- Why a line is no record, or a record has no transaction hash. -/
inductive Reason where
  | notJson (fault : Json.Fault)
  | notObject
  | missingLevel
  | unknownLevel (value : Value)
  | missingFields
  /-- A record with this message has no field for a hash. -/
  | noHash (message : Value)
  /-- The field for a hash holds something else. -/
  | unreadableHash (value : Value)

/-- A line of a log and its number. -/
structure Place where
  lineNumber : Int
  line : Text
  deriving DecidableEq

/-- What stops the reading of a log. -/
inductive Fault where
  /-- A line or a record is malformed. -/
  | malformed (reason : Reason) (place : Option Place)
  /-- A line exceeds a limit of the reader. -/
  | beyond (limit : Json.Limit)
  /-- The spans of a line are a number or a truth value. -/
  | spansNotIterable (spans : Value)
  /-- A level was asked for that there is none of. -/
  | unknownLevelName (name : Value)

/-- The wording of a reason. -/
def Reason.message : Reason → Text
  | .notJson fault => "invalid JSON (" ++ fault.message ++ ")"
  | .notObject => "not a JSON object"
  | .missingLevel => "missing 'level'"
  | .unknownLevel value => "unknown level " ++ value.quoted
  | .missingFields => "missing 'fields' object"
  | .noHash message => message.quoted ++ " record has no tx_hash"
  | .unreadableHash value => "no tx_hash in " ++ value.quoted

/-- The wording of a fault: a malformed line is named by its number and shown in quotes. -/
def Fault.message : Fault → Text
  | .malformed reason none => reason.message
  | .malformed reason (some place) =>
    "line " ++ Text.ofInt place.lineNumber ++ ": " ++ reason.message ++ ": " ++ place.line.quoted
  | .beyond limit => limit.message
  | .spansNotIterable spans => "'" ++ spans.kind ++ "' object is not iterable"
  | .unknownLevelName name => name.quoted ++ " is not a valid LogLevel"

end LiquidationDrill.Log
