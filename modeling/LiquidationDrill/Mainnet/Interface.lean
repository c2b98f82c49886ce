import LiquidationDrill.Value.Basic

/-!
# Contract interfaces

What a contract offers: functions with named and typed inputs and outputs, and events. `Interface.toValue` is the form
that nodes understand.
-/

namespace LiquidationDrill.Mainnet

/-- An input or output. -/
structure Parameter where
  name : Text
  type : Text

/-- An input of an event. -/
structure EventParameter where
  name : Text
  type : Text
  isIndexed : Bool

/-- What a function may do to the chain. -/
inductive Mutability where
  | view
  | nonpayable
  | payable

/-- What a contract offers. -/
inductive Feature where
  | function (name : Text) (inputs outputs : List Parameter) (mutability : Mutability)
  | event (name : Text) (inputs : List EventParameter)

/-- What a contract offers, in order. -/
abbrev Interface := List Feature

/-! ## As values -/

/-- The name of a mutability. -/
def Mutability.name : Mutability → Text
  | view => "view"
  | nonpayable => "nonpayable"
  | payable => "payable"

/-- A parameter as a value. -/
def Parameter.toValue (p : Parameter) : Value := .object [("name", .string p.name), ("type", .string p.type)]

/-- A parameter of an event as a value. -/
def EventParameter.toValue (p : EventParameter) : Value :=
  .object [("name", .string p.name), ("type", .string p.type), ("indexed", .bool p.isIndexed)]

/-- A feature as a value. -/
def Feature.toValue : Feature → Value
  | function name inputs outputs mutability =>
    .object [("type", .string "function"), ("name", .string name), ("stateMutability", .string mutability.name),
      ("inputs", .array (inputs.map Parameter.toValue)), ("outputs", .array (outputs.map Parameter.toValue))]
  | event name inputs =>
    .object [("type", .string "event"), ("name", .string name), ("anonymous", .bool false),
      ("inputs", .array (inputs.map EventParameter.toValue))]

/-- An interface as a value. -/
def Interface.toValue (interface : Interface) : Value := .array (interface.map Feature.toValue)

/-! ## The contracts -/

namespace Interface

/-- The books of vaults. -/
def cauldron : Interface := [
  .function "series" [⟨"seriesId", "bytes6"⟩]
    [⟨"fyToken", "address"⟩, ⟨"baseId", "bytes6"⟩, ⟨"maturity", "uint32"⟩] .view,
  .function "debt" [⟨"baseId", "bytes6"⟩, ⟨"ilkId", "bytes6"⟩]
    [⟨"max", "uint96"⟩, ⟨"min", "uint24"⟩, ⟨"dec", "uint8"⟩, ⟨"sum", "uint128"⟩] .view,
  .function "spotOracles" [⟨"baseId", "bytes6"⟩, ⟨"ilkId", "bytes6"⟩]
    [⟨"oracle", "address"⟩, ⟨"ratio", "uint32"⟩] .view,
  .function "setSpotOracle"
    [⟨"baseId", "bytes6"⟩, ⟨"ilkId", "bytes6"⟩, ⟨"oracle", "address"⟩, ⟨"ratio", "uint32"⟩] [] .nonpayable,
  .event "VaultBuilt"
    [⟨"vaultId", "bytes12", true⟩, ⟨"owner", "address", true⟩, ⟨"seriesId", "bytes6", true⟩, ⟨"ilkId", "bytes6", false⟩]]

/-- The use of vaults. -/
def ladle : Interface := [
  .function "build" [⟨"seriesId", "bytes6"⟩, ⟨"ilkId", "bytes6"⟩, ⟨"salt", "uint8"⟩]
    [⟨"vaultId", "bytes12"⟩] .payable,
  .function "joins" [⟨"assetId", "bytes6"⟩] [⟨"join", "address"⟩] .view,
  .function "pour" [⟨"vaultId", "bytes12"⟩, ⟨"to", "address"⟩, ⟨"ink", "int128"⟩, ⟨"art", "int128"⟩] [] .payable]

/-- The auction of vaults. -/
def witch : Interface := [.function "auction" [⟨"vaultId", "bytes12"⟩] [] .nonpayable]

/-- The prices of assets. -/
def oracle : Interface := [
  .function "peek" [⟨"base", "bytes32"⟩, ⟨"quote", "bytes32"⟩, ⟨"amount", "uint256"⟩]
    [⟨"value", "uint256"⟩, ⟨"updateTime", "uint256"⟩] .view]

/-- A token. -/
def token : Interface := [
  .function "balanceOf" [⟨"account", "address"⟩] [⟨"", "uint256"⟩] .view,
  .function "decimals" [] [⟨"", "uint8"⟩] .view,
  .function "transfer" [⟨"to", "address"⟩, ⟨"amount", "uint256"⟩] [⟨"", "bool"⟩] .nonpayable,
  .function "approve" [⟨"spender", "address"⟩, ⟨"amount", "uint256"⟩] [⟨"", "bool"⟩] .nonpayable]

/-- A token that wraps staked ether. -/
def wrappedToken : Interface :=
  token ++ [.function "wrap" [⟨"stETHAmount", "uint256"⟩] [⟨"", "uint256"⟩] .nonpayable]

end Interface

end LiquidationDrill.Mainnet
