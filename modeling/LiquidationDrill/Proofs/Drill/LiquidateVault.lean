import LiquidationDrill.Drill.LiquidateVault
import LiquidationDrill.Proofs.Drill.Places

/-!
# The moments of `liquidate_vault`

One block is open while the vault is sold, on the pair that the command line names (`script_through`).
-/

namespace LiquidationDrill.LiquidateVault

open CommandLine Mainnet

/-- The block of a run is on the pair that was asked for. -/
def IsOwn (options : Options) (_ : List Exchange) (block : SpotBlock) : Prop :=
  block.base = .string options.base.id ∧ block.ilk = .string options.ilk.id

variable {node : Node} {start : Spots} {asked : List Exchange} {past : List Moment} {session : Session}

/-- The vault is sold inside of the block. -/
theorem liquidate_through (account : Address) (options : Options) {block : SpotBlock}
    (h : Watched node start (some block) asked past session) (hown : IsOwn options asked block) :
    Script.Through node (SpotLaw node start (IsOwn options))
      (fun past' _ after => SpotLaw node start (IsOwn options) past' ⟨after, block.restoring⟩ ∧
        ∃ inner, Watched node start (some block) (asked ++ inner) past' after)
      past (liquidate account options) session := by
  have hstays : SpotLaw node start (IsOwn options) past ⟨session, block.restoring⟩ ∧
      ∃ inner, Watched node start (some block) (asked ++ inner) past session := by
    refine ⟨h.restoring hown, [], ?_⟩
    rwa [List.append_nil]
  unfold liquidate percentage
  cases percentage? options.ratio with
  | none => exact hstays
  | some text =>
    refine Script.through_say ?_ fun _ => hstays
    refine (Watched.through_sale (h.print _) ?_ ?_).imp fun past' result after hsold => ?_
    · intro timestamp hash earlier exchange later past' now he hw
      have hmem : exchange ∈ auctionExchanges witch options.liquidator options.vault account auctionWait timestamp hash := by
        rw [he]
        simp
      obtain ⟨hs, ho⟩ := auctionExchanges_inside hmem
      exact hw.inside hs ho hown
    · intro timestamp hash earlier past' now _ hw
      exact hw.restoring hown
    · obtain ⟨hlaw, inner, hw, -⟩ := hsold
      exact ⟨hlaw, inner, hw⟩

/-- **Every moment is in its place**, and the spots are left as they were. -/
theorem script_through (account : Address) (options : Options)
    (h : Watched node start none asked past session) :
    Script.Through node (SpotLaw node start (IsOwn options)) (Settled node start) past (script account options)
      session := by
  have hfail : ∀ asked (failure : Failure) past' after, Watched node start none asked past' after →
      Settled node start past' (.error failure) after := fun _ _ _ _ hw => hw.settled _
  unfold script
  refine h.through_ask (r := .setBalance account (10 * wad)) rfl (h.outside rfl rfl) (fun _ _ _ _ h₁ => ?_)
    (hfail _)
  refine h₁.through_ask (r := .setBalance timelock (10 * wad)) rfl (h₁.outside rfl rfl) (fun _ _ _ _ h₂ => ?_)
    (hfail _)
  refine h₂.through_ask (r := .impersonate timelock) rfl (h₂.outside rfl rfl) (fun _ _ _ _ h₃ => ?_) (hfail _)
  refine (h₃.through_withSpotRatio (fun _ => True) (.text _) (.text _) (h₃.outside rfl rfl) ?_ ?_).imp ?_
  · intro previous past' now hstart hw
    exact hw.raising ⟨rfl, rfl⟩ hstart _
  · intro block past' now hblock _ hw
    have hown (asked : List Exchange) : IsOwn options asked block := by
      rw [hblock]
      exact ⟨rfl, rfl⟩
    refine (liquidate_through account options hw (hown _)).imp fun past' result after hsold => ?_
    obtain ⟨hlaw, inner, hw⟩ := hsold
    exact ⟨hlaw, inner, hw, fun _ => trivial⟩
  · intro past' result after hdone
    cases result with
    | error failure => exact hdone
    | ok _ =>
      obtain ⟨block, inner, -, -, -, hw⟩ := hdone
      exact hw.settled _

end LiquidationDrill.LiquidateVault
