import LiquidationDrill.Json.Writer
import LiquidationDrill.Text.Encoded
import LiquidationDrill.Value.Parts

/-!
# The configuration file

The liquidator reads the contracts it works with from a file in JSON.

- `Launch.Config`: the contracts and the thresholds;
- `Launch.Config.members`: the content of the file as members of an object;
- `Launch.Config.text`: the content of the file, or the `Launch.Unwritable` that there is none.
-/

namespace LiquidationDrill.Launch

/-- The contracts that the liquidator works with. -/
structure Config where
  witch : Value
  flash : Value
  multicall2 : Value
  /-- The debt below which a vault is left alone, by its base: an object or a list of pairs, or null for none. -/
  debtThresholds : Value := .null
  /-- The newer router, or null for none. -/
  swapRouter02 : Value := .null

/-- Why an input file cannot be written. -/
inductive Unwritable where
  /-- Bytes stand in it, which have no form in JSON. -/
  | bytes
  /-- A threshold is called by bytes. -/
  | bytesName
  /-- The thresholds are no table. -/
  | thresholds (fault : Value.Misshapen)
  /-- The key is a text without bytes. -/
  | unencodableKey (fault : Utf8.Unencodable)

/-- The wording. -/
def Unwritable.message : Unwritable → Text
  | bytes => "Object of type bytes is not JSON serializable"
  | bytesName => "keys must be str, int, float, bool or None, not bytes"
  | thresholds fault => fault.message
  | unencodableKey fault => fault.message

namespace Config

/-- The members that are always there. -/
def contracts (config : Config) : Value.Members :=
  [("Witch", config.witch), ("Flash", config.flash), ("Multicall2", config.multicall2)]

/-- The thresholds, if there are any. -/
def thresholds (config : Config) : Except Value.Misshapen (Option (List Value.Entry)) :=
  match config.debtThresholds with
  | .null => .ok none
  | thresholds => thresholds.entries.map some

/-- The member with the thresholds under some names, if there are any. -/
def thresholdMembers (nameOf : Value → Text) (thresholds : Option (List Value.Entry)) : Value.Members :=
  match thresholds with
  | some thresholds =>
    [("BaseToDebtThreshold", .object (thresholds.map fun threshold => (nameOf threshold.name, threshold.value)))]
  | none => []

/-- The newer router, if it is set. -/
def routerMember (config : Config) : Value.Members :=
  match config.swapRouter02 with
  | .null => []
  | router => [("SwapRouter02", router)]

/-- The members of the configuration, in the order in which they are written. A threshold is named as it is shown. -/
def members (config : Config) : Except Value.Misshapen Value.Members :=
  config.thresholds.map fun thresholds =>
    config.contracts ++ thresholdMembers Value.display thresholds ++ config.routerMember

/-- The configuration as an object. -/
def toValue (config : Config) : Except Value.Misshapen Value := config.members.map .object

/-! ## Writing -/

/-- What a member is called in JSON that has the name of a threshold. -/
def writtenName (name : Value) : Text := (Json.memberName? name).getD name.display

/-- Members have a form in JSON. -/
def checkMembers (members : Value.Members) : Except Unwritable Unit :=
  if Json.membersAreWritable members then .ok () else .error .bytes

/-- A threshold has a form in JSON. Its name is looked at before its value. -/
def checkThreshold (threshold : Value.Entry) : Except Unwritable Unit :=
  match Json.memberName? threshold.name with
  | none => .error .bytesName
  | some name => checkMembers [(name, threshold.value)]

/-- The content of the configuration file. What has no form in JSON is found in the order of writing. -/
def text (config : Config) : Except Unwritable Text :=
  match config.thresholds with
  | .error fault => .error (.thresholds fault)
  | .ok thresholds => do
    checkMembers config.contracts
    (thresholds.getD []).forM checkThreshold
    checkMembers config.routerMember
    return Json.indented
      (.object (config.contracts ++ thresholdMembers writtenName thresholds ++ config.routerMember))

end Config

end LiquidationDrill.Launch
