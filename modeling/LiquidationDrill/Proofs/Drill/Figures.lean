import LiquidationDrill.Drill.LiquidateSeries
import LiquidationDrill.Proofs.Drill.Places

/-!
# The figures of a series

What is found out about a series before anything is moved (`Findings`) fits if it is computed as it should be, from the
spot that the pair had before the run (`Findings.Fits`). Together with what is found out on the way it makes the figures
of the series (`Figures`). They decide what is exchanged with the node on the series, in order (`Figures.exchanges`).

On a node that answers with natural numbers the findings are integers (`Findings.Fits.exists_counts`), and what is moved
is told by them (`charged_of_exchanges_eq`).
-/

namespace LiquidationDrill.LiquidateSeries

open Mainnet Vault

/-- What is found out about a series before anything is moved. -/
structure Findings where
  series : Series
  entry : SeriesEntry
  dust : Value
  /-- The spot of the base and the collateral. -/
  spot : Spot
  decimals : Value
  borrowed : Value
  /-- What oracles call the base. -/
  priced : Value
  /-- What the debt is worth in collateral. -/
  value : Value
  posted : Value
  /-- The vaults of the receipt. -/
  vaults : List Value
  vault : Value

namespace Findings

/-- The oracle that is asked: the one that was given, or else that of the spot. -/
def oracle (options : Options) (f : Findings) : Value := (options.oracle.map Value.string).getD f.spot.oracle

/-- The block in which the vault is sold. -/
def block (options : Options) (f : Findings) : SpotBlock where
  cauldron := cauldron
  timelock := timelock
  base := f.entry.base
  ilk := .string options.collateral.asset.id
  previous := f.spot

/-- The findings are computed from each other, and from the spot that the pair has at the start of a run. -/
structure Fits (node : Node) (options : Options) (f : Findings) : Prop where
  spot : node.spotIn [] f.entry.base (.string options.collateral.asset.id) = .ok f.spot
  borrowed : dustDebtOf f.dust f.decimals = .ok f.borrowed
  priced : oracleIdOf f.entry.base = .ok f.priced
  posted : collateralOf f.value f.spot.ratio = .ok f.posted
  vault : f.vaults.getLast? = some f.vault

/-- A block on the pair of the series that is entered with its spot at the start is this block. -/
theorem Fits.block_eq {node : Node} {options : Options} {f : Findings} (h : f.Fits node options) {block : SpotBlock}
    (hblock : block = { f.block options with previous := block.previous })
    (hstart : node.spotIn [] f.entry.base (.string options.collateral.asset.id) = .ok block.previous) :
    f.block options = block := by
  rw [hblock, ← Except.ok.inj (h.spot.symm.trans hstart)]
  rfl

/-- What is exchanged until there is a vault, in order. -/
def inquiry (account : Address) (options : Options) (f : Findings) : List Exchange :=
  [⟨.series cauldron (.string f.series.id), f.entry⟩,
    ⟨.debt cauldron f.entry.base (.string options.collateral.asset.id), f.dust⟩,
    ⟨.spotOracles cauldron f.entry.base (.string options.collateral.asset.id), f.spot⟩,
    ⟨.decimals f.entry.token, f.decimals⟩,
    ⟨.peek (f.oracle options) f.priced (.string (oracleId options.collateral.asset.id)) f.borrowed, f.value⟩,
    ⟨.build options.ladle (.string f.series.id) (.string options.collateral.asset.id) account, f.vaults⟩]

end Findings

/-- What is found out about a series in all. -/
structure Figures extends Findings where
  /-- What the whale holds. -/
  available : Value
  /-- Where its collateral goes. -/
  join : Address
  /-- The time of the latest block after the auction has begun. -/
  timestamp : Value
  hash : Text
  profit : Value

namespace Figures

/-- What is exchanged to fill the vault, in order. -/
def payment (account : Address) (options : Options) (f : Figures) : List Exchange :=
  [⟨.balanceOf options.collateral.token options.collateral.whale, f.available⟩,
    ⟨.joins options.ladle options.collateral.asset.id, f.join⟩,
    ⟨.transfer options.collateral.token (.string f.join) f.posted options.collateral.whale, ()⟩,
    ⟨.pour options.ladle f.vault (.string options.collateral.whale) f.posted f.borrowed account, ()⟩]

/-- What is exchanged to sell it. -/
def sale (account : Address) (options : Options) (f : Figures) : List Exchange :=
  (f.block options).entering (.int liquidationRatio) ++
    auctionExchanges witch options.liquidator f.vault account auctionWait f.timestamp f.hash ++
      [⟨(f.block options).restoring, ()⟩]

/-- Everything that is exchanged, in order. The profit comes last. -/
def exchanges (account : Address) (options : Options) (f : Figures) : List Exchange :=
  f.inquiry account options ++ f.payment account options ++ f.sale account options ++
    [⟨.balanceOf Asset.wethToken (options.recipient.getD account), f.profit⟩]

end Figures

/-- What is exchanged before the first series, in order. -/
def preparation (account : Address) (options : Options) : List Exchange :=
  [⟨.setBalance account (10 * wad), ()⟩, ⟨.setBalance timelock (10 * wad), ()⟩,
    ⟨.setBalance options.collateral.whale (10 * wad), ()⟩, ⟨.impersonate timelock, ()⟩,
    ⟨.impersonate options.collateral.whale, ()⟩] ++
    if options.collateral = .wsteth then
      [⟨.approve Asset.stethToken (.string options.collateral.token) tenTokens options.collateral.whale, ()⟩,
        ⟨.wrap options.collateral.token tenTokens options.collateral.whale, ()⟩]
    else []

/-- An oracle has a name for ids only. -/
theorem isId_of_oracleIdOf {id name : Value} (h : oracleIdOf id = .ok name) : id.IsId := by
  cases id with
  | string t => exact .text t
  | bytes bs => exact .bytes bs
  | null | number _ | array _ | object _ => cases h
  | bool b => cases b <;> cases h

/-! ## Figures as numbers -/

/-- The contracts answer with natural numbers, whatever was asked before. -/
structure NaturalAnswers (node : Node) : Prop where
  dust : ∀ {earlier cauldron base ilk} {x : Value}, node.reply earlier (.debt cauldron base ilk) = .ok x →
    ∃ n : Nat, x = .int n
  decimals : ∀ {earlier token} {x : Value}, node.reply earlier (.decimals token) = .ok x → ∃ n : Nat, x = .int n
  ratio : ∀ {base ilk spot}, node.spot base ilk = .ok spot → ∃ n : Nat, spot.ratio = .int n
  price : ∀ {earlier oracle base ilk} {amount : Nat} {x : Value},
    node.reply earlier (.peek oracle base ilk (.int amount)) = .ok x → ∃ n : Nat, x = .int n
  timestamp : ∀ {earlier} {x : Value}, node.reply earlier .latestBlock = .ok x → ∃ n : Nat, x = .int n

/-- The findings are numbers. -/
structure Findings.Counted (f : Findings) (minimum digits worth percentage : Nat) : Prop where
  dust : f.dust = .int minimum
  decimals : f.decimals = .int digits
  value : f.value = .int worth
  ratio : f.spot.ratio = .int percentage
  borrowed : f.borrowed = .int (dustDebt minimum digits)
  posted : f.posted = .int (collateralToPost worth percentage)

/-- What is moved for a series with these debts and this collateral, after what has been exchanged. -/
def Charged (account : Address) (options : Options) (f : Findings) (debt collateral : Int) (asked : List Exchange) :
    Request → Prop
  | .transfer token receiver amount sender =>
    token = options.collateral.token ∧ amount = .int collateral ∧ sender = options.collateral.whale ∧
      ∃ join : Address, receiver = .string join ∧
        [⟨.joins options.ladle options.collateral.asset.id, join⟩] <:+ asked
  | .pour ladle vault receiver ink art sender =>
    ladle = options.ladle ∧ vault = f.vault ∧ receiver = .string options.collateral.whale ∧ ink = .int collateral ∧
      art = .int debt ∧ sender = account
  | .auction _ vault sender => vault = f.vault ∧ sender = account
  | .mine due => ∃ timestamp : Nat, due = some (.int (timestamp + 3600)) ∧
      [⟨.latestBlock, .int timestamp⟩] <:+ asked
  | .liquidate liquidator vault sender =>
    liquidator = options.liquidator ∧ vault = f.vault ∧ sender = account ∧ ∃ timestamp : Nat,
      [⟨.auction witch f.vault account, ()⟩, ⟨.latestBlock, .int timestamp⟩,
        ⟨.mine (some (.int (timestamp + 3600))), ()⟩] <:+ asked
  | _ => True

section Numbers

variable {node : Node} {account : Address} {options : Options} {f : Findings}

/-- Natural answers make natural findings. -/
theorem Findings.Fits.exists_counts (h : f.Fits node options) (hn : NaturalAnswers node)
    (ha : ∀ exchange ∈ f.inquiry account options, ∃ session, node.answer session exchange.1 = .ok exchange.2) :
    ∃ dust decimals value ratio : Nat, f.Counted dust decimals value ratio := by
  simp only [inquiry, List.forall_mem_cons] at ha
  obtain ⟨-, ⟨_, hdust⟩, -, ⟨_, hdecimals⟩, ⟨_, hvalue⟩, -⟩ := ha
  obtain ⟨dust, hdust⟩ := hn.dust hdust
  obtain ⟨decimals, hdecimals⟩ := hn.decimals hdecimals
  have hborrowed : f.borrowed = .int (dustDebt dust decimals) := by
    have hb := h.borrowed
    rw [hdust, hdecimals, dustDebtOf_int] at hb
    exact (Except.ok.inj hb).symm
  obtain ⟨ratio, hratio⟩ : ∃ ratio : Nat, f.spot.ratio = .int ratio := by
    obtain ⟨pair, hpair⟩ := Node.pairOf_of_spotIn h.spot
    have hspot := h.spot
    rw [Node.spotIn_of_pairOf hpair] at hspot
    exact hn.ratio hspot
  obtain ⟨value, hvalue⟩ : ∃ value : Nat, f.value = .int value := by
    have hcast : dustDebt dust decimals = ((dust * 10 ^ decimals : Nat) : Int) := by
      simp [dustDebt]
    rw [hborrowed, hcast] at hvalue
    exact hn.price hvalue
  refine ⟨dust, decimals, value, ratio, hdust, hdecimals, hvalue, hratio, hborrowed, ?_⟩
  have hp := h.posted
  rw [hvalue, hratio, collateralOf_int] at hp
  exact (Except.ok.inj hp).symm

/-- What a series exchanges moves what its findings tell. -/
theorem charged_of_exchanges_eq {f : Figures} {dust decimals value ratio : Nat}
    (h : f.Counted dust decimals value ratio) {before earlier later : List Exchange} {exchange : Exchange}
    (ht : ⟨.latestBlock, f.timestamp⟩ ∈ earlier → ∃ n : Nat, f.timestamp = .int n)
    (he : f.exchanges account options = earlier ++ exchange :: later) :
    Charged account options f.toFindings (dustDebt dust decimals) (collateralToPost value ratio) (before ++ earlier)
      exchange.1 := by
  have hearlier : earlier = (f.exchanges account options).take earlier.length := by
    rw [he]
    simp
  have hexchange : (f.exchanges account options)[earlier.length]? = some exchange := by
    rw [he]
    simp
  have hlength : earlier.length < 18 := by
    have hl := congrArg List.length he
    simp [Figures.exchanges, Findings.inquiry, Figures.payment, Figures.sale, SpotBlock.entering, auctionExchanges] at hl
    omega
  -- what was exchanged last is at the end of what was exchanged before this exchange
  have hlast (n k : Nat) : ((f.exchanges account options).take n).drop k <:+
      before ++ (f.exchanges account options).take n :=
    (List.drop_suffix k _).trans (List.suffix_append before _)
  have hclock : 14 ≤ earlier.length → ∃ timestamp : Nat,
      f.timestamp = .int timestamp ∧ (f.timestamp.add auctionWait).toOption = some (.int (timestamp + 3600)) := by
    intro hn
    obtain ⟨timestamp, htime⟩ := ht (by
      rw [hearlier]
      exact ((List.take_prefix_take_left hn).subset ((List.drop_suffix 13 _).subset List.mem_cons_self)))
    refine ⟨timestamp, htime, ?_⟩
    rw [htime]
    rfl
  rw [hearlier]
  generalize earlier.length = n at hexchange hlength hclock
  -- one case for each exchange of the series, by its position
  rcases n with _ | _ | _ | _ | _ | _ | _ | _ | _ | _ | _ | _ | _ | _ | _ | _ | _ | _ | n
  all_goals
    first
      | omega
      | obtain rfl := Option.some.inj hexchange; exact trivial
      | obtain rfl := Option.some.inj hexchange
  · exact ⟨rfl, h.posted, rfl, f.join, rfl, hlast 8 7⟩
  · exact ⟨rfl, rfl, rfl, h.posted, h.borrowed, rfl⟩
  · exact ⟨rfl, rfl⟩
  · obtain ⟨timestamp, htime, hdue⟩ := hclock (by omega)
    refine ⟨timestamp, hdue, ?_⟩
    rw [← htime]
    exact hlast 14 13
  · obtain ⟨timestamp, htime, hdue⟩ := hclock (by omega)
    refine ⟨rfl, rfl, rfl, timestamp, ?_⟩
    rw [← htime, ← hdue]
    exact hlast 15 12

end Numbers

end LiquidationDrill.LiquidateSeries
