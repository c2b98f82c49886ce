import LiquidationDrill.Drill.Run
import LiquidationDrill.Vault.Amount
import LiquidationDrill.Vault.Liquidation
import LiquidationDrill.Vault.SpotRatio

/-!
# The drill `liquidate_series`

Opens a vault on every series with the collateral of a whale, then auctions it and buys it. Each vault borrows the
least debt with one per cent more collateral than the ratio of its pair requires; then the ratio is raised until the
vault has been liquidated.
-/

namespace LiquidationDrill.LiquidateSeries

open CommandLine Mainnet Vault

/-- What the arguments ask for. -/
inductive Setting where
  | liquidator (address : Address)
  | collateral (collateral : Collateral)
  | ladle (address : Address)
  | oracle (address : Address)
  | recipient (address : Address)

/-- What the drill works on. -/
structure Options where
  /-- The contract that buys the vaults. -/
  liquidator : Address
  collateral : Collateral
  ladle : Address
  /-- Prices the debt in the collateral; the oracle of the pair if none is given. -/
  oracle : Option Address
  /-- Whose profit is shown; that of the account if no one is given. -/
  recipient : Option Address

/-- An address that is not empty. -/
def nonempty? (address : Address) : Option Address := if address.isEmpty then none else some address

/-- What settings ask for. The liquidator has no default, since its flag is required. -/
def Options.ofSettings (settings : List Setting) : Options where
  liquidator := setting settings (fun | .liquidator address => some address | _ => none) []
  collateral := setting settings (fun | .collateral collateral => some collateral | _ => none) .uni
  ladle := setting settings (fun | .ladle address => some address | _ => none) Mainnet.ladle
  oracle := setting settings (fun | .oracle address => some (nonempty? address) | _ => none) none
  recipient := setting settings (fun | .recipient address => some (nonempty? address) | _ => none) none

/-- What each account is given for its transactions, and how much of what it holds the whale wraps. -/
def tenTokens : Value := .int (10 * wad)

/-- Wraps staked ether of the whale, which holds no wrapped one. -/
def wrapCollateral (collateral : Collateral) : Script Unit := do
  Script.request (.approve Asset.stethToken collateral.token tenTokens collateral.whale)
  Script.request (.wrap collateral.token tenTokens collateral.whale)

/-- Gives the accounts what they need. -/
def prepare (account : Address) (options : Options) : Script Unit := do
  Script.setBalance account tenTokens
  Script.setBalance timelock tenTokens
  Script.setBalance options.collateral.whale tenTokens
  Script.impersonate timelock
  Script.impersonate options.collateral.whale
  if options.collateral = .wsteth then wrapCollateral options.collateral

/-- Builds a vault; of several ones in the receipt it is the last. -/
def buildVault (ladle : Address) (series ilk : AssetId) (owner : Address) : Script Value := do
  let vaults ← Script.request (.build ladle series ilk owner)
  match vaults.getLast? with
  | some vault => return vault
  | none => .fail .noVaultBuilt

/-- Auctions and buys a vault. -/
def liquidate (account : Address) (options : Options) (vault : Value) : Script Unit := do
  let hash ← Script.auctionAndLiquidate witch options.liquidator vault account auctionWait
  Script.say ("liquidated " ++ vault.display ++ ": " ++ hash)

/-- A drill on one series. -/
def drillSeries (account : Address) (options : Options) (series : Series) : Script Unit := do
  let ilk := options.collateral.asset.id
  let token := options.collateral.token
  let whale := options.collateral.whale
  Script.say ("series: " ++ series.id)
  let entry ← Script.request (.series cauldron series.id)
  let dust ← Script.request (.debt cauldron entry.base ilk)
  let spot ← Script.request (.spotOracles cauldron entry.base ilk)
  let decimals ← Script.request (.decimals entry.token)
  let borrowed ← Script.amount (dustDebtOf dust decimals)
  let oracle := (options.oracle.map Value.string).getD spot.oracle
  let pricedBase ← Script.amount (oracleIdOf entry.base)
  let value ← Script.request (.peek oracle pricedBase (oracleId ilk) borrowed)
  let posted ← Script.amount (collateralOf value spot.ratio)
  let vault ← buildVault options.ladle series.id ilk account
  Script.say ("vault: " ++ vault.display)
  let postedText ← Script.amount posted.shown
  let available ← Script.request (.balanceOf token whale)
  Script.say ("posting " ++ postedText ++ " " ++ options.collateral.asset.name ++ " out of " ++ available.display)
  let join ← Script.request (.joins options.ladle ilk)
  Script.request (.transfer token join posted whale)
  let borrowedText ← Script.amount borrowed.shown
  Script.say ("borrowing " ++ borrowedText ++ " " ++ entry.base.display ++ " with " ++ series.id)
  Script.request (.pour options.ladle vault whale posted borrowed account)
  Script.withSpotRatio cauldron timelock entry.base ilk (.int liquidationRatio) (liquidate account options vault)
  let profit ← Script.request (.balanceOf Asset.wethToken (options.recipient.getD account))
  Script.say ("profit: " ++ profit.display)

/-- The script of the drill. -/
def script (account : Address) (options : Options) : Script Unit := do
  prepare account options
  Series.all.forM (drillSeries account options)

/-- The names of collateral, in order. -/
def collateralNames : List Text := Collateral.all.map fun collateral => collateral.asset.name

/-- The drill. -/
def drill : Drill Setting where
  command := {
    path := "liquidate_series"
    flags := [
      { textFlag "--flash-liquidator" .liquidator with
        isRequired := true, about := "address of a deployed FlashLiquidator" },
      { choiceFlag "--ilk" collateralNames Collateral.ofName? .collateral with
        shownDefault := some Collateral.uni.asset.name },
      { textFlag "--ladle" .ladle with shownDefault := some Mainnet.ladle },
      { textFlag "--oracle" .oracle with
        about := "oracle pricing the debt in the ilk; defaults to the series spot oracle" },
      { textFlag "--recipient" .recipient with
        about := "WETH profit recipient to report; defaults to the account" }] }
  script account settings := script account (.ofSettings settings)

end LiquidationDrill.LiquidateSeries
