import LiquidationDrill.Mainnet.Asset
import LiquidationDrill.Text.Case

/-!
# Addresses and amounts

The contracts and accounts of the drills, and the amounts they start from.
-/

namespace LiquidationDrill.Mainnet

/-! ## Accounts and contracts -/

/-- The account that a fresh fork gives to its owner. -/
def forkOwner : Address := "0xf39Fd6e51aad88F6F4ce6aB8827279cffFb92266"

/-- Addresses are the same in either case. -/
def isForkOwner (address : Address) : Bool := address.lower = forkOwner.lower

/-- The contract that auctions vaults. -/
def witch : Address := "0x53C3760670f6091E1eC76B4dd27f73ba4CAd5061"

/-- The contract that keeps the books of vaults. -/
def cauldron : Address := "0xc88191F8cb8e6D4a668B047c1C8503432c3Ca867"

/-- The contract that governs the others. -/
def timelock : Address := "0x3b870db67a45611CF4723d44487EAF398fAc51E3"

/-- The contract through which owners use their vaults. -/
def ladle : Address := "0x6cB18fF2A33e981D1e38A663Ca056c0a5265066A"

/-- The factory of exchange pools. -/
def uniFactory : Address := "0x1F98431c8aD98523631AE4a59f267346ea31F984"

/-- The router of the exchange. -/
def uniRouter : Address := "0xE592427A0AEce92De3Edee1F18E0157C05861564"

/-- The newer router of the exchange. -/
def swapRouter02 : Address := "0x68b3465833fb72A70ecDF485E0e4C7bD8665Fc45"

/-- The contract that makes several calls in one. -/
def multicall2 : Address := "0x5ba1e12693dc8f9c48aad8770482f4739beed696"

/-- Collateral of which someone holds enough to open vaults on a fork. -/
inductive Collateral where
  | uni
  | wsteth
  deriving DecidableEq

namespace Collateral

/-- Every such collateral, in the order of their names. -/
def all : List Collateral := [uni, wsteth]

/-- The asset that is posted. -/
def asset : Collateral → Asset
  | uni => .uni
  | wsteth => .wsteth

/-- The token contract of the asset. -/
def token : Collateral → Address
  | uni => Asset.uniToken
  | wsteth => Asset.wstethToken

theorem token?_asset (collateral : Collateral) : collateral.asset.token? = some collateral.token := by
  cases collateral <;> rfl

/-- The account that holds enough of it. -/
def whale : Collateral → Address
  | uni => "0x5f246d7d19aa612d6718d27c1da1ee66859586b0"
  | wsteth => "0x06920c9fc643de77b99cb7670a944ad31eaaa260"

/-- The collateral of a name. -/
def ofName? (t : Text) : Option Collateral := all.find? fun collateral => collateral.asset.name = t

end Collateral

/-! ## Amounts -/

/-- One token of eighteen decimals. -/
def wad : Int := 1000000000000000000

/-- The ratio of a hundred per cent. -/
def ratioPrecision : Int := 1000000

/-- The ratio at which every vault can be liquidated: three thousand per cent. -/
def liquidationRatio : Int := 3000 * ratioPrecision / 100

/-- A debt below this one is dust. -/
def dustDebtThreshold : Int := 1000 * wad

/-! ## Recorded history -/

/-- The chain id of a fork. -/
def forkChainId : Int := 31337

/-- Where a fork listens. -/
def forkUrl : Text := "http://127.0.0.1:8545/"

/-- The block at which buy orders for vaults with ENS were issued. -/
def ensIssuedBlock : Int := 13738305

/-- The block by which they were mined. -/
def ensLiquidationBlock : Int := 13738315

/-- How many of them there were. -/
def ensExpectedBuys : Int := 3

/-- A vault that owes dust. -/
def dustVaultId : Text := "00cbb039b7b8103611a9717f"

end LiquidationDrill.Mainnet
