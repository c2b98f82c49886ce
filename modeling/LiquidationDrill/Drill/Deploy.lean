import LiquidationDrill.Drill.Run
import LiquidationDrill.Node.Control

/-!
# The drill `deploy`

Deploys the contract that buys auctioned vaults. The owner of a fork starts with nothing and is given a balance.
-/

namespace LiquidationDrill.Deploy

open CommandLine Mainnet

/-- What the arguments ask for. -/
inductive Setting where
  | witch (address : Address)
  | uniFactory (address : Address)
  | uniRouter (address : Address)

/-- The contracts that the deployed one works with. -/
structure Options where
  witch : Address
  uniFactory : Address
  uniRouter : Address

/-- The contracts that settings name, or those of the chain. -/
def Options.ofSettings (settings : List Setting) : Options where
  witch := setting settings (fun | .witch address => some address | _ => none) Mainnet.witch
  uniFactory := setting settings (fun | .uniFactory address => some address | _ => none) Mainnet.uniFactory
  uniRouter := setting settings (fun | .uniRouter address => some address | _ => none) Mainnet.uniRouter

/-- What the owner of a fork is given. -/
def ownerBalance : Value := .int (1000000 * wad)

/-- The script of the drill. -/
def script (account : Address) (options : Options) : Script Unit := do
  if isForkOwner account then Script.setBalance account ownerBalance
  let address ← Script.deployLiquidator account options.witch options.uniFactory options.uniRouter
  Script.say ("FlashLiquidator deployed at " ++ address.display)
  Script.say ("constructor args: " ++ options.witch ++ " " ++ options.uniFactory ++ " " ++ options.uniRouter)

/-- The drill. -/
def drill : Drill Setting where
  command := {
    path := "deploy"
    flags := [
      { textFlag "--witch" .witch with shownDefault := some Mainnet.witch },
      { textFlag "--uni-factory" .uniFactory with shownDefault := some Mainnet.uniFactory },
      { textFlag "--uni-router" .uniRouter with shownDefault := some Mainnet.uniRouter }] }
  script account settings := script account (.ofSettings settings)

end LiquidationDrill.Deploy
