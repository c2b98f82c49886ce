import LiquidationDrill.Node.Script

/-!
# Raised spot ratios

A drill raises the ratio of a pair of assets to make a vault liquidatable, and puts the old one back.

- `SpotBlock.enter`, `SpotBlock.leave`: raises a ratio and puts the old one back;
- `SpotBlock.leaveAll`: leaves blocks within blocks, the innermost first;
- `Script.withSpotRatio`: a script under a raised ratio.
-/

namespace LiquidationDrill

open Mainnet (Address)

/-- A pair of assets whose ratio is raised, with the spot that it had before. -/
structure SpotBlock where
  cauldron : Address
  /-- The account that sets spots. -/
  timelock : Address
  base : Value
  ilk : Value
  previous : Spot

namespace SpotBlock

/-- The pair of a block, as notices show it. -/
def pairText (base ilk : Value) : Text := base.display ++ "/" ++ ilk.display

/-- Raises the ratio of a pair and keeps its oracle. -/
def enter (cauldron timelock : Address) (base ilk ratio : Value) : Script SpotBlock := do
  let previous ← Script.request (.spotOracles cauldron base ilk)
  Script.request (.setSpotOracle cauldron base ilk { previous with ratio } timelock)
  Script.info
    ("spot ratio " ++ pairText base ilk ++ ": " ++ previous.ratio.display ++ " -> " ++ ratio.display)
  return { cauldron, timelock, base, ilk, previous }

/-- Puts the old spot of a pair back. -/
def leave (block : SpotBlock) : Script Unit := do
  Script.request (.setSpotOracle block.cauldron block.base block.ilk block.previous block.timelock)
  Script.info
    ("spot ratio " ++ pairText block.base block.ilk ++ " restored to " ++ block.previous.ratio.display)

/-- Leaves blocks in their order. A block that cannot be left does not keep the others from being left. -/
def leaveAll : List SpotBlock → Script Unit
  | [] => .done ()
  | block :: blocks => block.leave.ensuring (leaveAll blocks)

end SpotBlock

/-- Runs a script under a raised ratio, and puts the old one back however the script ends. -/
def Script.withSpotRatio {α : Type} (cauldron timelock : Address) (base ilk ratio : Value)
    (body : Script α) : Script α := do
  let block ← SpotBlock.enter cauldron timelock base ilk ratio
  body.ensuring block.leave

end LiquidationDrill
