import LiquidationDrill.Launch.Config
import LiquidationDrill.Launch.Options

/-!
# The liquidator's input files

- `Launch.PrivateKey`: a key, as bytes or as text;
- `Launch.inputFiles`: the configuration and the key, as files of a folder;
- `Launch.Options.reading`: options that read these files.
-/

namespace LiquidationDrill.Launch

/-- The key of the liquidator's account. -/
inductive PrivateKey where
  | text (key : Text)
  | bytes (key : List UInt8)

/-- The content of the file with the key: the text of a key without one `0x` before it, or bytes as digits. -/
def PrivateKey.content : PrivateKey → Text
  | text key => (key.dropStart? "0x").getD key
  | bytes key => Text.hexBytes key

/-- The name of the configuration file. -/
def configName : Text := "config.json"

/-- The name of the file with the key. -/
def keyName : Text := "private_key"

/-- The path of a file in a folder. -/
def pathIn (folder name : Text) : Text := folder ++ "/" ++ name

/-- The content of the file with the key, if it has bytes. -/
def PrivateKey.file (key : PrivateKey) : Except Unwritable Text :=
  match Utf8.encode key.content with
  | .error fault => .error (.unencodableKey fault)
  | .ok _ => .ok key.content

/-- The input files, by name. -/
def inputFiles (config : Config) (key : PrivateKey) : Except Unwritable (List (Text × Text)) := do
  let text ← config.text
  let content ← key.file
  return [(configName, text), (keyName, content)]

/-- The same options, but reading the input files of a folder. -/
def Options.reading (folder : Text) (options : Options) : Options :=
  { options with config := pathIn folder configName, privateKey := pathIn folder keyName }

end LiquidationDrill.Launch
