import LiquidationDrill.Node.Control
import LiquidationDrill.Proofs.Log.Hashes
import LiquidationDrill.Proofs.Node.InTurn
import LiquidationDrill.Proofs.Node.Spots

/-!
# Orders that are sent again

A transaction is fetched by one request for its receipt, and sent again by one request (`fetchTransaction_asks`,
`replayTransaction_asks`). So the receipts of hashes are asked for in turn, what is fetched is what the node answered, and
it is sent in turn. With the hashes that a log shows this is `orders_replayed`.
-/

namespace LiquidationDrill

open Mainnet (Address)

namespace Script

variable {node : Node}

/-- A transaction is fetched by one request for its receipt. -/
theorem fetchTransaction_asks (node : Node) (hash : Value) :
    (fetchTransaction hash).Asks node (.receipt hash) fun transaction => transaction :=
  (asks_request (.receipt hash)).then_info fun transaction : Transaction =>
    "TX hash found: " ++ hash.display ++ " [" ++ transaction.nonce.display ++ "]"

/-- A transaction is sent again by one request. -/
theorem replayTransaction_asks (node : Node) (sender : Address) (transaction : Transaction) :
    (replayTransaction sender transaction).Asks node (.send sender transaction) fun number => number :=
  (asks_request _).after_info _

end Script

/-- **Orders are fetched and sent again as the log shows them.** Where a log shows the hashes of its buy orders, there is
one for each record of an order, in order. Whatever the node, their receipts are asked for in turn. If transactions come
out, they are the answers, one for each hash; and whenever and by whom they are sent again, they are sent in turn, each
with the chain, the receiver, the data, the gas limit and the value of the original. -/
theorem orders_replayed {log : Text} {hashes : List Text} (h : Log.txHashes log Log.buyOrder = .ok hashes) :
    (∃ rs, Log.records log = .ok rs ∧
      (rs.filter (·.hasMessage Log.buyOrder (some .info))).map Log.Record.txHash? =
        hashes.map fun hash => .ok (some hash)) ∧
    ∀ (node : Node) (session : Session),
      InTurn node (hashes.map fun hash : Text => .receipt hash) (Script.fetchTransactions (hashes.map .string)) session ∧
      ∀ transactions, ((Script.fetchTransactions (hashes.map .string)).run node session).1 = .ok transactions →
        transactions.length = hashes.length ∧
        granted node ((Script.fetchTransactions (hashes.map .string)).moments node session) =
          List.zipWith (fun (hash : Text) transaction => ⟨.receipt hash, transaction⟩) hashes transactions ∧
        ∀ (other : Node) (later : Session) (sender : Address),
          InTurn other (transactions.map (.send sender)) (Script.replayTransactions sender transactions) later ∧
          ∀ transaction ∈ transactions, (Request.send sender transaction).arguments =
            [.object [("chain_id", transaction.chainId), ("receiver", transaction.receiver),
              ("data", transaction.data), ("gas_limit", transaction.gasLimit), ("value", transaction.value)]] := by
  refine ⟨Log.txHashes_eq_ok.mp h, fun node session => ⟨?_, fun transactions ht => ?_⟩⟩
  · have hturn := Script.mapM_inTurn (Script.fetchTransaction_asks node) (hashes.map .string) session
    rwa [List.map_map] at hturn
  · obtain ⟨hlength, hgranted⟩ := Script.mapM_granted (e := fun hash transaction => ⟨.receipt hash, transaction⟩)
      (fun hash session transaction hf => by
        obtain ⟨answer, rfl, hanswer⟩ := (Script.fetchTransaction_asks node hash).granted_eq hf
        exact hanswer) ht
    rw [List.length_map] at hlength
    rw [List.zipWith_map_left] at hgranted
    refine ⟨hlength, hgranted, fun other later sender => ⟨?_, ?_⟩⟩
    · exact Script.mapM_inTurn (Script.replayTransaction_asks other sender) transactions later
    · intro transaction _
      rfl

/-- Two buy orders of one transaction, and what is none between them. -/
def boughtAgain : Text :=
  "\x7b\"level\":\"INFO\",\"fields\":\x7b\"message\":\"Submitted buy order\",\"tx_hash\":\"0xab\"\x7d\x7d\n" ++
    "\x7b\"level\":\"WARN\",\"fields\":\x7b\"message\":\"Submitted buy order\"\x7d\x7d\n" ++
    "\x7b\"level\":\"INFO\",\"fields\":\x7b\"message\":\"Submitted buy order\",\"tx_hash\":\"tx_hash: 0xab,\"\x7d\x7d\n"

/-- A transaction that was sent once. -/
def sale : Transaction where
  nonce := .int 7
  receiver := .string "liquidator"
  chainId := .int 1
  data := .string "0x2f"
  gasLimit := .int 300000
  value := .int 0

/-- A node that keeps this transaction. -/
def Node.archive : Node where
  spot := Node.steady.spot
  reply earlier
    | .receipt _ => .ok sale
    | request => Node.steady.reply earlier request

/-- Its receipt is asked for twice, and a node that refuses the second of two sales is sent both. -/
theorem boughtAgain_replayed :
    Log.txHashes boughtAgain Log.buyOrder = .ok ["0xab", "0xab"] ∧
      InTurn Node.archive [.receipt (.string "0xab"), .receipt (.string "0xab")]
        (Script.fetchTransactions [.string "0xab", .string "0xab"]) {} ∧
      InTurn (Node.archive.refusing ⟨"send", 2, "reverted"⟩) [.send "me" sale, .send "me" sale]
        (Script.replayTransactions "me" [sale, sale]) {} := by
  have hshown : (Log.txHashes boughtAgain Log.buyOrder).toOption = some [Text.ofString "0xab", "0xab"] := by
    decide +kernel
  have hhashes := Result.toOption_eq_some.mp hshown
  obtain ⟨-, hnode⟩ := orders_replayed hhashes
  obtain ⟨hfetch, hsend⟩ := hnode Node.archive {}
  obtain ⟨-, -, hsend⟩ := hsend [sale, sale] rfl
  exact ⟨hhashes, hfetch, (hsend (Node.archive.refusing ⟨"send", 2, "reverted"⟩) {} "me").1⟩

end LiquidationDrill
