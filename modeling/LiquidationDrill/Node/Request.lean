import LiquidationDrill.Mainnet.Address
import LiquidationDrill.Value.Parts

/-!
# Requests

What a drill asks of a node and of the contracts on it. Ids, addresses and amounts that a contract has answered are
passed on as they are: text, bytes or numbers.

- `Request`: the requests, with `Request.Answer`, the type of what each one is answered with;
- `Request.method`, `Request.contract?`, `Request.arguments`, `Request.sender?`: the call that a request makes.
-/

namespace LiquidationDrill

open Mainnet (Address)

/-- A transaction that was sent once. The receiver is null where it deploys a contract. -/
structure Transaction where
  nonce : Value
  receiver : Value
  chainId : Value
  data : Value
  gasLimit : Value
  value : Value

/-- How debt in one asset is priced in another: the oracle, and the ratio of collateral to debt that is required. -/
structure Spot where
  oracle : Value
  ratio : Value
  deriving DecidableEq

/-- The oracle and the ratio that a contract answers. -/
def Spot.ofValue (answer : Value) : Except Value.Misshapen Spot :=
  answer.pair.map fun (oracle, ratio) => ⟨oracle, ratio⟩

/-- What the books say about a series: the token of its debt, its asset, and when it is due. -/
structure SeriesEntry where
  token : Value
  base : Value
  maturity : Value

/-- The entry of a series that a contract answers. -/
def SeriesEntry.ofValue (answer : Value) : Except Value.Misshapen SeriesEntry :=
  answer.triple.map fun (token, base, maturity) => ⟨token, base, maturity⟩

/-- A request to the node, or a call of a contract by a sender where it changes something. -/
inductive Request where
  | reset (url block : Value)
  | setBalance (address : Text) (amount : Int)
  | impersonate (address : Text)
  | mine (timestamp : Option Value)
  | latestBlock
  | receipt (hash : Value)
  | deploy (witch uniFactory uniRouter : Value) (sender : Address)
  | send (sender : Address) (transaction : Transaction)
  | series (cauldron : Address) (id : Value)
  | debt (cauldron : Address) (base ilk : Value)
  | spotOracles (cauldron : Address) (base ilk : Value)
  | setSpotOracle (cauldron : Address) (base ilk : Value) (spot : Spot) (sender : Address)
  | decimals (token : Value)
  | peek (oracle base ilk amount : Value)
  | build (ladle : Address) (id ilk : Value) (sender : Address)
  | joins (ladle asset : Address)
  | pour (ladle : Address) (vault receiver ink art : Value) (sender : Address)
  | balanceOf (token account : Address)
  | transfer (token : Address) (receiver amount : Value) (sender : Address)
  | approve (token : Address) (spender amount : Value) (sender : Address)
  | wrap (token : Address) (amount : Value) (sender : Address)
  | auction (witch : Address) (vault : Value) (sender : Address)
  | liquidate (liquidator : Address) (vault : Value) (sender : Address)

namespace Request

/-- What a request is answered with: the timestamp of a block, the address of a deployed contract, the number of a
sent transaction, the least debt of a pair of assets, the vaults that were built, the hash of a liquidation. -/
abbrev Answer : Request → Type
  | latestBlock => Value
  | receipt _ => Transaction
  | deploy .. => Value
  | send .. => Nat
  | series .. => SeriesEntry
  | debt .. => Value
  | spotOracles .. => Spot
  | decimals _ => Value
  | peek .. => Value
  | build .. => List Value
  | joins .. => Address
  | balanceOf .. => Value
  | liquidate .. => Text
  | _ => Unit

/-- The name of the call. -/
def method : Request → Text
  | reset .. => "hardhat_reset"
  | setBalance .. => "hardhat_setBalance"
  | impersonate _ => "hardhat_impersonateAccount"
  | mine _ => "evm_mine"
  | latestBlock => "get_block"
  | receipt _ => "get_receipt"
  | deploy .. => "deploy"
  | send .. => "send"
  | series .. => "series"
  | debt .. => "debt"
  | spotOracles .. => "spotOracles"
  | setSpotOracle .. => "setSpotOracle"
  | decimals _ => "decimals"
  | peek .. => "peek"
  | build .. => "build"
  | joins .. => "joins"
  | pour .. => "pour"
  | balanceOf .. => "balanceOf"
  | transfer .. => "transfer"
  | approve .. => "approve"
  | wrap .. => "wrap"
  | auction .. => "auction"
  | liquidate .. => "liquidate"

/-- The contract or account that is called; none where the node itself is asked. -/
def contract? : Request → Option Value
  | reset .. | setBalance .. | impersonate _ | mine _ | latestBlock | receipt _ => none
  | deploy .. => some ("FlashLiquidator" : Text)
  | send sender _ => some sender
  | series cauldron _ => some cauldron
  | debt cauldron _ _ => some cauldron
  | spotOracles cauldron _ _ => some cauldron
  | setSpotOracle cauldron _ _ _ _ => some cauldron
  | decimals token => some token
  | peek oracle _ _ _ => some oracle
  | build ladle _ _ _ => some ladle
  | joins ladle _ => some ladle
  | pour ladle _ _ _ _ _ => some ladle
  | balanceOf token _ => some token
  | transfer token _ _ _ => some token
  | approve token _ _ _ => some token
  | wrap token _ _ => some token
  | auction witch _ _ => some witch
  | liquidate liquidator _ _ => some liquidator

/-- The account that calls, where one has to. -/
def sender? : Request → Option Address
  | deploy _ _ _ sender => some sender
  | setSpotOracle _ _ _ _ sender => some sender
  | build _ _ _ sender => some sender
  | pour _ _ _ _ _ sender => some sender
  | transfer _ _ _ sender => some sender
  | approve _ _ _ sender => some sender
  | wrap _ _ sender => some sender
  | auction _ _ sender => some sender
  | liquidate _ _ sender => some sender
  | _ => none

/-- A transaction as it is sent: its nonce is chosen by the node. -/
def sentTransaction (transaction : Transaction) : Value :=
  .object [("chain_id", transaction.chainId), ("receiver", transaction.receiver), ("data", transaction.data),
    ("gas_limit", transaction.gasLimit), ("value", transaction.value)]

/-- Where a fork starts from. -/
def forking (url block : Value) : Value :=
  .object [("forking", .object [("jsonRpcUrl", url), ("blockNumber", block)])]

/-- The arguments of the call. Amounts of money go to the node as hexadecimal numerals; the salt of a vault is zero. -/
def arguments : Request → List Value
  | reset url block => [forking url block]
  | setBalance address amount => [address, Text.hexOfInt amount]
  | impersonate address => [address]
  | mine timestamp => timestamp.toList
  | latestBlock => [("latest" : Text)]
  | receipt hash => [hash]
  | deploy witch uniFactory uniRouter _ => [witch, uniFactory, uniRouter]
  | send _ transaction => [sentTransaction transaction]
  | series _ id => [id]
  | debt _ base ilk => [base, ilk]
  | spotOracles _ base ilk => [base, ilk]
  | setSpotOracle _ base ilk spot _ => [base, ilk, spot.oracle, spot.ratio]
  | decimals _ => []
  | peek _ base ilk amount => [base, ilk, amount]
  | build _ id ilk _ => [id, ilk, .int 0]
  | joins _ asset => [asset]
  | pour _ vault receiver ink art _ => [vault, receiver, ink, art]
  | balanceOf _ account => [account]
  | transfer _ receiver amount _ => [receiver, amount]
  | approve _ spender amount _ => [spender, amount]
  | wrap _ amount _ => [amount]
  | auction _ vault _ => [vault]
  | liquidate _ vault _ => [vault]

end Request

end LiquidationDrill
