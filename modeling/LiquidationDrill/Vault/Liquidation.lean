import LiquidationDrill.Node.Control

/-!
# Auctions

A vault is auctioned first and bought when the price has fallen.
-/

namespace LiquidationDrill

open Mainnet (Address)

/-- The seconds after which the price of an auction covers a flash loan and its fee. -/
def auctionWait : Value := .int 3600

/-- Auctions a vault, lets time pass, and buys the vault; the value is the hash of the liquidation. -/
def Script.auctionAndLiquidate (witch liquidator : Address) (vault : Value) (sender : Address) (wait : Value) :
    Script Text := do
  request (.auction witch vault sender)
  info ("auction started for " ++ vault.display)
  let timestamp ← request .latestBlock
  let due ← amount (timestamp.add wait)
  mine (some due)
  request (.liquidate liquidator vault sender)

end LiquidationDrill
