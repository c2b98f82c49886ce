import LiquidationDrill.Text.Utf8
import LiquidationDrill.Value.Arithmetic

/-!
# Assets and series

The contracts name assets and series by six bytes: a short name in UTF-8, filled up with zeros. Oracles name assets by
thirty two bytes, filled up in the same way.

- `assetId`: the id of a name;
- `oracleId`, `oracleIdOfBytes`, `oracleIdOf`: what an oracle calls an asset.
-/

namespace LiquidationDrill.Mainnet

/-- An address of the chain, as text. -/
abbrev Address := Text

/-- The id of an asset or a series: `0x` and twelve hexadecimal digits. -/
abbrev AssetId := Text

/-- The number of hexadecimal digits of an id. -/
def assetIdDigits : Nat := 12

/-- The id of a name: its bytes, cut or filled up with zeros to six. -/
def assetId (name : Text) : AssetId :=
  let digits := Text.hexBytes name.utf8
  "0x" ++ (digits ++ List.replicate (assetIdDigits - digits.length) (CodePoint.ofDigit 0)).take assetIdDigits

/-- The zeros between an id of six bytes and one of thirty two. -/
def oracleFilling : Text := List.replicate (2 * 26) (CodePoint.ofDigit 0)

/-- What an oracle calls an asset. -/
def oracleId (id : AssetId) : Text := id ++ oracleFilling

/-- The same for an id that is given by its bytes. -/
def oracleIdOfBytes (bytes : List UInt8) : Text := oracleId ("0x" ++ Text.hexBytes bytes)

/-- The same for an id as a contract answers it, which has to be text or bytes. -/
def oracleIdOf (id : Value) : Except Value.Fault Value :=
  match id with
  | .bytes bytes => .ok (oracleIdOfBytes bytes)
  | id => id.add oracleFilling

/-! ## The assets -/

/-- An asset that vaults hold or owe. -/
inductive Asset where
  | eth
  | dai
  | usdc
  | wbtc
  | wsteth
  | steth
  | link
  | ens
  | yvdai
  | yvusdc
  | uni
  deriving DecidableEq

namespace Asset

/-- Every asset, by age. -/
def all : List Asset := [eth, dai, usdc, wbtc, wsteth, steth, link, ens, yvdai, yvusdc, uni]

/-- The name by which a command line asks for an asset. -/
def name : Asset → Text
  | eth => "ETH"
  | dai => "DAI"
  | usdc => "USDC"
  | wbtc => "WBTC"
  | wsteth => "WSTETH"
  | steth => "STETH"
  | link => "LINK"
  | ens => "ENS"
  | yvdai => "YVDAI"
  | yvusdc => "YVUSDC"
  | uni => "UNI"

/-- The number by which the contracts name an asset. -/
def number : Asset → Text
  | eth => "00"
  | dai => "01"
  | usdc => "02"
  | wbtc => "03"
  | wsteth => "04"
  | steth => "05"
  | link => "06"
  | ens => "07"
  | yvdai => "08"
  | yvusdc => "09"
  | uni => "10"

/-- The id of an asset. -/
def id (asset : Asset) : AssetId := assetId asset.number

/-- The asset of a name. -/
def ofName? (t : Text) : Option Asset := all.find? fun asset => asset.name = t

/-- The token contract of wrapped ether. -/
def wethToken : Address := "0xC02aaA39b223FE8D0A0e5C4F27eAD9083C756Cc2"

/-- The token contract of staked ether. -/
def stethToken : Address := "0xae7ab96520DE3A18E5e111B5EaAb095312D7fE84"

/-- The token contract of wrapped staked ether. -/
def wstethToken : Address := "0x7f39C581F595B53c5cb19bD0b3f8dA6c935E2Ca0"

/-- The token contract of the exchange. -/
def uniToken : Address := "0x1f9840a85d5aF5bf1D1762F925BDADdC4201F984"

/-- The token contract of an asset, where it is known. -/
def token? : Asset → Option Address
  | eth => some wethToken
  | dai => some "0x6B175474E89094C44Da98b954EedeAC495271d0F"
  | usdc => some "0xA0b86991c6218b36c1d19D4a2e9Eb0cE3606eB48"
  | wbtc => some "0x2260FAC5E5542a773Aa44fBCfeDf7C193bc2C599"
  | wsteth => some wstethToken
  | steth => some stethToken
  | link => some "0x514910771af9ca656af840dff83e8264ecf986ca"
  | ens => some "0xC18360217D8F7Ab5e7c516566761Ea12Ce7F9D72"
  | uni => some uniToken
  | yvdai | yvusdc => none

end Asset

/-! ## The series -/

/-- A series of debt with one date of maturity. -/
inductive Series where
  | fydai2112
  | fydai2203
  | fyusdc2112
  | fyusdc2203
  deriving DecidableEq

/-- The number by which the contracts name a series. -/
def Series.number : Series → Text
  | fydai2112 => "0104"
  | fydai2203 => "0105"
  | fyusdc2112 => "0204"
  | fyusdc2203 => "0205"

/-- The id of a series. -/
def Series.id (series : Series) : AssetId := assetId series.number

/-- Every series, in the order in which they are drilled. -/
def Series.all : List Series := [fydai2112, fydai2203, fyusdc2112, fyusdc2203]

end LiquidationDrill.Mainnet
