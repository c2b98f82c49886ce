import LiquidationDrill.Node.Request
import LiquidationDrill.Text.File

/-!
# Where a fork starts

A fork takes the chain from a service, to which a key gives access.

- `KeySource`: where the key is looked for; `KeySource.key`, `KeySource.hasKey`;
- `ForkPoint`: a block of the service; `ForkPoint.ofKey`.
-/

namespace LiquidationDrill

/-- Where the key of the service is looked for. -/
structure KeySource where
  /-- The variable of the environment. -/
  variableValue : Option Text
  /-- The bytes of the key file. -/
  file : Option (List UInt8)

/-- Why there is no key. -/
inductive KeyFault where
  | notConfigured
  /-- The key file is no text. -/
  | undecodable (malformed : Utf8.Malformed)

/-- The wording of a fault. -/
def KeyFault.message : KeyFault → Text
  | notConfigured => "ALCHEMY_KEY is not set and there is no .alchemyKey file"
  | undecodable malformed => malformed.message

namespace KeySource

/-- The key: the variable, unless it is empty, and else the file, without white space around it. -/
def key (source : KeySource) : Except KeyFault Text :=
  match source.variableValue, source.file with
  | some (c :: rest), _ => .ok (Text.strip (c :: rest))
  | _, some bytes =>
    match Text.ofFile bytes with
    | .ok text => .ok text.strip
    | .error malformed => .error (.undecodable malformed)
  | _, none => .error .notConfigured

/-- There is a key. A key file that is no text is a fault all the same. -/
def hasKey (source : KeySource) : Except KeyFault Bool :=
  match source.key with
  | .ok _ => .ok true
  | .error .notConfigured => .ok false
  | .error fault => .error fault

end KeySource

/-- A block of a service that has the whole chain. -/
structure ForkPoint where
  block : Value
  url : Text

namespace ForkPoint

/-- The address of the service, before the key. -/
def service : Text := "https://eth-mainnet.alchemyapi.io/v2/"

/-- A block of the service. A key that is not empty goes before that of the source. -/
def ofKey (block : Value) (key : Option Text) (source : KeySource) : Except KeyFault ForkPoint :=
  match key with
  | some (c :: rest) => .ok ⟨block, service ++ (c :: rest)⟩
  | _ => source.key.map fun key => ⟨block, service ++ key⟩

/-- What a node is asked to fork from. -/
def parameters (point : ForkPoint) : List Value := (Request.reset point.url point.block).arguments

end ForkPoint

end LiquidationDrill
