import LiquidationDrill.Drill.Run
import LiquidationDrill.Proofs.Vault.Watched
import LiquidationDrill.Vault.Liquidation

/-!
# What is done where

A drill reads, builds and pours while no block is open, and auctions and buys inside of one (`InItsPlace`). The law of a
drill (`SpotLaw`) says this of each moment and compares the spots with those at the start. In a watched run the law holds
of every request that is made in its place (`Watched.outside`, `Watched.inside`, `Watched.raising`, `Watched.restoring`);
auctions are granted in one order (`Watched.through_auctionAndLiquidate`).
-/

namespace LiquidationDrill

open Mainnet (Address)

namespace Request

/-- The request is made while no block is open. -/
def isOutside : Request → Bool
  | debt .. | peek .. | build .. | transfer .. | pour .. | spotOracles .. => true
  | _ => false

/-- The request is made while a block is open. -/
def isInside : Request → Bool
  | auction .. | liquidate .. => true
  | _ => false

end Request

/-- A moment is in its place: `isOwn` tells the blocks that may be open. -/
structure InItsPlace (node : Node) (isOwn : SpotBlock → Prop) (open? : Option SpotBlock) (m : Moment) : Prop where
  own : ∀ block, open? = some block → isOwn block
  inside : m.request.isInside = true → open?.isSome = true
  outside : m.request.isOutside = true → open? = none
  raises : m.request.setsSpot = true → open? = none →
    ∃ block ratio, isOwn block ∧ m.request = block.raising ratio ∧
      node.spotIn m.session.spots block.base block.ilk = .ok block.previous
  restores : m.request.setsSpot = true → ∀ block, open? = some block → m.request = block.restoring

/-- The law of a drill. What has been granted so far tells the blocks that may be open. -/
def SpotLaw (node : Node) (start : Spots) (isOwn : List Exchange → SpotBlock → Prop) (past : List Moment) (m : Moment) :
    Prop :=
  RaisedOnly node start m.session.spots (openIn node past) ∧
    InItsPlace node (isOwn (granted node past)) (openIn node past) m

namespace Watched

variable {node : Node} {start : Spots} {isOwn : List Exchange → SpotBlock → Prop} {asked : List Exchange}
  {past : List Moment} {session : Session} {r : Request} {block : SpotBlock}

/-- Outside of blocks nothing is auctioned or bought. -/
theorem outside (h : Watched node start none asked past session) (hs : r.setsSpot = false)
    (hi : r.isInside = false) : SpotLaw node start isOwn past ⟨session, r⟩ := by
  unfold SpotLaw
  rw [h.open_eq]
  refine ⟨h.raised, ?_, fun hin => ?_, fun _ => rfl, fun hset => ?_, fun hset => ?_⟩
  · intro block hb
    cases hb
  · rw [hi] at hin
    cases hin
  · rw [hs] at hset
    cases hset
  · rw [hs] at hset
    cases hset

/-- Inside of a block nothing is read, built or poured. -/
theorem inside (h : Watched node start (some block) asked past session) (hs : r.setsSpot = false)
    (ho : r.isOutside = false) (hown : isOwn asked block) : SpotLaw node start isOwn past ⟨session, r⟩ := by
  unfold SpotLaw
  rw [h.open_eq, h.granted_eq]
  refine ⟨h.raised, ?_, fun _ => rfl, fun hout => ?_, fun hset => ?_, fun hset => ?_⟩
  · intro other hb
    obtain rfl : block = other := Option.some.inj hb
    exact hown
  · rw [ho] at hout
    cases hout
  · rw [hs] at hset
    cases hset
  · rw [hs] at hset
    cases hset

/-- A block is entered with the spot that its pair had at the start. -/
theorem raising (h : Watched node start none asked past session) (hown : isOwn asked block)
    (hstart : node.spotIn start block.base block.ilk = .ok block.previous) (ratio : Value) :
    SpotLaw node start isOwn past ⟨session, block.raising ratio⟩ := by
  have hnow : node.spotIn session.spots block.base block.ilk = .ok block.previous := by
    rw [h.raised]
    exact hstart
  unfold SpotLaw
  rw [h.open_eq, h.granted_eq]
  refine ⟨h.raised, ?_, fun hin => ?_, fun _ => rfl, fun _ _ => ⟨block, ratio, hown, rfl, hnow⟩, fun _ => ?_⟩
  · intro other hb
    cases hb
  · cases hin
  · intro other hb
    cases hb

/-- A block is left with the spot that its pair had. -/
theorem restoring (h : Watched node start (some block) asked past session) (hown : isOwn asked block) :
    SpotLaw node start isOwn past ⟨session, block.restoring⟩ := by
  unfold SpotLaw
  rw [h.open_eq, h.granted_eq]
  refine ⟨h.raised, ?_, fun hin => ?_, fun hout => ?_, fun _ hnone => ?_, fun _ => ?_⟩
  · intro other hb
    obtain rfl : block = other := Option.some.inj hb
    exact hown
  · cases hin
  · cases hout
  · cases hnone
  · intro other hb
    obtain rfl : block = other := Option.some.inj hb
    rfl

end Watched

/-! ## Drills -/

namespace Drill

variable {S : Type} {drill : Drill S} {node : Node} {account : Address} {arguments : List Text} {settings : List S}

/-- The moments of a drill. -/
def moments (drill : Drill S) (node : Node) (account : Address) (arguments : List Text) : List Moment :=
  match drill.command.settings arguments with
  | .error _ => []
  | .ok settings => (drill.script account settings).moments node {}

theorem moments_of_settings (h : drill.command.settings arguments = .ok settings) :
    drill.moments node account arguments = (drill.script account settings).moments node {} := by
  rw [moments, h]

theorem run_of_settings (h : drill.command.settings arguments = .ok settings) :
    drill.run node account arguments =
      (.ofRun ((drill.script account settings).run node {}).2 ((drill.script account settings).run node {}).1,
        ((drill.script account settings).run node {}).2) := by
  rw [run, h]

/-- What holds of a run of the script holds of the drill. -/
theorem through {law : List Moment → Moment → Prop} {goal : List Moment → Except Failure Unit → Session → Prop}
    (h : drill.command.settings arguments = .ok settings)
    (ht : Script.Through node law goal [] (drill.script account settings) {}) :
    (∀ earlier m later, drill.moments node account arguments = earlier ++ m :: later → law earlier m) ∧
      ∃ result, (drill.run node account arguments).1 = .ofRun (drill.run node account arguments).2 result ∧
        goal (drill.moments node account arguments) result (drill.run node account arguments).2 := by
  rw [moments_of_settings h, run_of_settings h]
  refine ⟨fun earlier m later hm => ?_, _, rfl, ht.ends⟩
  have hlaw := ht.moment hm
  rwa [List.nil_append] at hlaw

end Drill

/-! ## Auctions -/

/-- What an auction exchanges, in order: the block of the sale is the latest one but for the wait. -/
def auctionExchanges (witch liquidator : Address) (vault : Value) (sender : Address) (wait timestamp : Value)
    (hash : Text) : List Exchange :=
  [⟨.auction witch vault sender, ()⟩, ⟨.latestBlock, timestamp⟩, ⟨.mine (timestamp.add wait).toOption, ()⟩,
    ⟨.liquidate liquidator vault sender, hash⟩]

section Auction

variable {node : Node} {start : Spots} {open? : Option SpotBlock} {asked : List Exchange} {past : List Moment}
  {session : Session} {law : List Moment → Moment → Prop} {witch liquidator sender : Address} {vault wait : Value}

/-- An auction sets no spot, and reads, builds and pours nothing. -/
theorem auctionExchanges_inside {timestamp : Value} {hash : Text} {exchange : Exchange}
    (h : exchange ∈ auctionExchanges witch liquidator vault sender wait timestamp hash) :
    exchange.1.setsSpot = false ∧ exchange.1.isOutside = false := by
  simp only [auctionExchanges, List.mem_cons, List.not_mem_nil, or_false] at h
  rcases h with rfl | rfl | rfl | rfl <;> exact ⟨rfl, rfl⟩

/-- **An auction**, in a watched run: the requests are granted in their order, up to one that is refused. -/
theorem Watched.through_auctionAndLiquidate (h : Watched node start open? asked past session)
    (hlaw : ∀ timestamp hash earlier exchange later past' now,
      auctionExchanges witch liquidator vault sender wait timestamp hash = earlier ++ exchange :: later →
      Watched node start open? (asked ++ earlier) past' now → law past' ⟨now, exchange.1⟩) :
    Script.Through node law
      (fun past' result after =>
        match result with
        | .ok hash => ∃ timestamp,
            Watched node start open? (asked ++ auctionExchanges witch liquidator vault sender wait timestamp hash) past'
              after
        | .error _ => ∃ timestamp hash earlier,
            earlier <+: auctionExchanges witch liquidator vault sender wait timestamp hash ∧
            Watched node start open? (asked ++ earlier) past' after)
      past (Script.auctionAndLiquidate witch liquidator vault sender wait) session := by
  have hstart : Watched node start open? (asked ++ []) past session := by
    rw [List.append_nil]
    exact h
  unfold Script.auctionAndLiquidate
  -- the first two requests come before any time is known, and all but the last answer before the hash is
  refine h.through_ask rfl (hlaw .null [] [] _ _ _ _ rfl hstart) (fun _ past₁ now₁ _ h₁ => ?_) fun _ _ _ hw => ?_
  · replace h₁ := h₁.add (.note (.info ("auction started for " ++ vault.display)))
    refine h₁.through_ask rfl (hlaw .null [] [_] _ _ _ _ rfl h₁) (fun timestamp past₂ now₂ _ h₂ => ?_) fun _ _ _ hw =>
      ⟨.null, [], [_], ⟨_, rfl⟩, hw⟩
    rw [List.append_assoc] at h₂
    refine Script.through_amount (fun due hdue => ?_) fun _ => ⟨timestamp, [], [_, _], ⟨_, rfl⟩, h₂⟩
    have hmine : (timestamp.add wait).toOption = some due := by
      rw [hdue]
      rfl
    unfold auctionExchanges at hlaw ⊢
    refine h₂.through_ask (r := .mine (some due)) rfl ?_ (fun _ past₃ now₃ _ h₃ => ?_) fun _ _ _ hw =>
      ⟨timestamp, [], [_, _], ⟨_, rfl⟩, hw⟩
    · rw [← hmine]
      exact hlaw timestamp [] [_, _] _ _ _ _ rfl h₂
    rw [List.append_assoc, ← hmine] at h₃
    refine (h₃.through_request (r := .liquidate liquidator vault sender) rfl
      (hlaw timestamp [] [_, _, _] _ [] _ _ rfl h₃)).imp fun past₄ hash after h₄ => ?_
    cases hash with
    | error failure => exact ⟨timestamp, [], [_, _, _], ⟨_, rfl⟩, h₄⟩
    | ok hash =>
      dsimp only at h₄
      rw [List.append_assoc] at h₄
      exact ⟨timestamp, h₄⟩
  · refine ⟨.null, [], [], List.nil_prefix, ?_⟩
    rwa [List.append_nil]

/-- An auction inside of a block, and a line about it: the block may be left however it ends. -/
theorem Watched.through_sale {block : SpotBlock} {line : Text → Text}
    (h : Watched node start (some block) asked past session)
    (hlaw : ∀ timestamp hash earlier exchange later past' now,
      auctionExchanges witch liquidator vault sender wait timestamp hash = earlier ++ exchange :: later →
      Watched node start (some block) (asked ++ earlier) past' now → law past' ⟨now, exchange.1⟩)
    (hrestore : ∀ timestamp hash earlier past' now,
      earlier <+: auctionExchanges witch liquidator vault sender wait timestamp hash →
      Watched node start (some block) (asked ++ earlier) past' now → law past' ⟨now, block.restoring⟩) :
    Script.Through node law
      (fun past' result after => law past' ⟨after, block.restoring⟩ ∧ ∃ inner,
        Watched node start (some block) (asked ++ inner) past' after ∧
          (result = .ok () →
            ∃ timestamp hash, inner = auctionExchanges witch liquidator vault sender wait timestamp hash))
      past (Script.auctionAndLiquidate witch liquidator vault sender wait >>= fun hash => Script.say (line hash))
      session := by
  rw [Script.through_bind]
  refine (h.through_auctionAndLiquidate hlaw).imp fun past' sold after hsold => ?_
  cases sold with
  | error failure =>
    obtain ⟨timestamp, hash, earlier, hcut, hw⟩ := hsold
    refine ⟨hrestore timestamp hash earlier past' after hcut hw, _, hw, fun hok => ?_⟩
    cases hok
  | ok hash =>
    obtain ⟨timestamp, hw⟩ := hsold
    refine Script.through_say_last ?_ fun failure => ?_
    · have hw := hw.print (line hash)
      exact ⟨hrestore timestamp hash _ past' _ List.prefix_rfl hw, _, hw, fun _ => ⟨timestamp, hash, rfl⟩⟩
    · refine ⟨hrestore timestamp hash _ past' after List.prefix_rfl hw, _, hw, fun hok => ?_⟩
      cases hok

end Auction

end LiquidationDrill
