import LiquidationDrill.Node.Script

/-!
# Controlling a node

- `Script.fork`, `Script.setBalance`, `Script.impersonate`, `Script.mine`: a fork of the chain and its accounts;
- `Script.deployLiquidator`: the contract that buys auctioned vaults;
- `Script.fetchTransactions`, `Script.replayTransactions`: sends transactions once more.
-/

namespace LiquidationDrill

open Mainnet (Address)

namespace Script

/-- Forks the chain of a service at a block. -/
def fork (url block : Value) : Script Unit := do
  info ("Forking mainnet at block " ++ block.display)
  request (.reset url block)

/-- Gives an account a balance, which has to be an integer. -/
def setBalance (address balance : Value) : Script Unit := do
  let balance ← amount balance.integer
  request (.setBalance address.display balance)

/-- Lets an account send without its key. -/
def impersonate (address : Value) : Script Unit := request (.impersonate address.display)

/-- Mines a block, at a timestamp if one is given. -/
def mine (timestamp : Option Value) : Script Unit := request (.mine timestamp)

/-- Deploys the contract that buys auctioned vaults. -/
def deployLiquidator (sender : Address) (witch uniFactory uniRouter : Value) : Script Value := do
  let address ← request (.deploy witch uniFactory uniRouter sender)
  info ("Liquidator deployed: " ++ address.display)
  return address

/-! ## Transactions sent again -/

/-- The transaction of a hash. -/
def fetchTransaction (hash : Value) : Script Transaction := do
  let transaction ← request (.receipt hash)
  info ("TX hash found: " ++ hash.display ++ " [" ++ transaction.nonce.display ++ "]")
  return transaction

/-- The transactions of hashes, in their order. -/
def fetchTransactions (hashes : List Value) : Script (List Transaction) := hashes.mapM fetchTransaction

/-- Sends a transaction once more, as another sender. -/
def replayTransaction (sender : Address) (transaction : Transaction) : Script Nat := do
  info ("Sending to " ++ transaction.receiver.display ++ " [" ++ transaction.nonce.display ++ "]")
  request (.send sender transaction)

/-- Sends transactions once more, in their order; the first one that is refused ends it. -/
def replayTransactions (sender : Address) (transactions : List Transaction) : Script (List Nat) :=
  transactions.mapM (replayTransaction sender)

end Script

end LiquidationDrill
