import LiquidationDrill.Drill.Run
import LiquidationDrill.Number.Decimal
import LiquidationDrill.Vault.Liquidation
import LiquidationDrill.Vault.SpotRatio

/-!
# The drill `liquidate_vault`

Auctions a vault of the chain and buys it. The ratio of its pair of assets is raised meanwhile, so that a healthy
vault can be liquidated.
-/

namespace LiquidationDrill.LiquidateVault

open CommandLine Mainnet

/-- What the arguments ask for. -/
inductive Setting where
  | liquidator (address : Address)
  | vault (id : Text)
  | base (asset : Asset)
  | ilk (asset : Asset)
  | ratio (ratio : Int)

/-- What the drill works on. -/
structure Options where
  /-- The contract that buys the vault. -/
  liquidator : Address
  vault : Text
  base : Asset
  ilk : Asset
  ratio : Int

/-- A vault that has always been well above its ratio. -/
def defaultVault : Text := "0xd22a8e6260143034ccb99398"

/-- Three hundred per cent. -/
def defaultRatio : Int := 3000000

/-- What settings ask for. The liquidator has no default, since its flag is required. -/
def Options.ofSettings (settings : List Setting) : Options where
  liquidator := setting settings (fun | .liquidator address => some address | _ => none) []
  vault := setting settings (fun | .vault id => some id | _ => none) defaultVault
  base := setting settings (fun | .base asset => some asset | _ => none) .dai
  ilk := setting settings (fun | .ilk asset => some asset | _ => none) .eth
  ratio := setting settings (fun | .ratio ratio => some ratio | _ => none) defaultRatio

/-- What each account is given for its transactions. -/
def gasMoney : Value := .int (10 * wad)

/-- A ratio in per cent without a fraction, if it is not too large. A ratio of a hundred per cent is a million. -/
def percentage? (ratio : Int) : Option Text :=
  match (Double.ofInt? ratio).bind Double.toRat? with
  | some x => some ((Double.nearest (x / 10000)).wholeText ++ "%")
  | none => none

/-- A ratio in per cent. -/
def percentage (ratio : Int) : Script Text :=
  match percentage? ratio with
  | some text => .done text
  | none => .fail (.amount (.number .tooLarge))

/-- What happens under the raised ratio. -/
def liquidate (account : Address) (options : Options) : Script Unit := do
  let percentage ← percentage options.ratio
  Script.say (options.base.id ++ "/" ++ options.ilk.id ++ " spot ratio set to " ++ percentage)
  let hash ← Script.auctionAndLiquidate witch options.liquidator options.vault account auctionWait
  Script.say ("liquidated " ++ options.vault ++ ": " ++ hash)

/-- The script of the drill. -/
def script (account : Address) (options : Options) : Script Unit := do
  Script.setBalance account gasMoney
  Script.setBalance timelock gasMoney
  Script.impersonate timelock
  Script.withSpotRatio cauldron timelock options.base.id options.ilk.id (.int options.ratio)
    (liquidate account options)

/-- The names of assets, in order. -/
def assetNames : List Text := (Asset.all.map Asset.name).mergeSort fun s t => s.notAfter t

/-- The drill. -/
def drill : Drill Setting where
  command := {
    path := "liquidate_vault"
    flags := [
      { textFlag "--flash-liquidator" .liquidator with
        isRequired := true, about := "address of a deployed FlashLiquidator" },
      { textFlag "--vault-id" .vault with shownDefault := some defaultVault },
      { choiceFlag "--base" assetNames Asset.ofName? .base with
        shownDefault := some Asset.dai.name, about := "base asset of the vault" },
      { choiceFlag "--ilk" assetNames Asset.ofName? .ilk with
        shownDefault := some Asset.eth.name, about := "collateral asset of the vault" },
      { intFlag "--ratio" .ratio with
        shownDefault := some (Text.ofInt defaultRatio), about := "new spot oracle ratio, 1e6 == 100%" }] }
  script account settings := script account (.ofSettings settings)

end LiquidationDrill.LiquidateVault
