import LiquidationDrill.Proofs.Drill.LiquidateSeries
import LiquidationDrill.Proofs.Drill.LiquidateVault

/-!
# Drills keep the spots

Whatever a node answers and refuses: at any moment of a drill at most one pair is answered otherwise than at the start,
with another ratio and inside of a block, and at the end none is, unless the last request was to leave the block and was
refused (`spots_kept`).
-/

namespace LiquidationDrill

open CommandLine Mainnet

/-- What a drill does to the spots, as its moments and its end show it. -/
structure SpotsKept (node : Node) (isOwn : List Exchange → SpotBlock → Prop) (moments : List Moment) (exit : Exit)
    (last : Session) : Prop where
  /-- At every moment the spots differ by the open block only, and the moment is in its place. -/
  during : ∀ earlier m later, moments = earlier ++ m :: later → SpotLaw node [] isOwn earlier m
  /-- At the end they do not differ, or the last request was to leave the open block and was refused. -/
  after : (∀ base ilk, node.spotIn last.spots base ilk = node.spotIn [] base ilk) ∨
    ∃ earlier m block failure, moments = earlier ++ [m] ∧ openIn node earlier = some block ∧
      m.request = block.restoring ∧ m.outcome node = .error failure ∧
      exit = .crashed last.output (.script failure) ∧ RaisedOnly node [] last.spots (some block)

/-- A run that is settled keeps the spots. -/
theorem Drill.spotsKept {S : Type} {drill : Drill S} {node : Node} {account : Address} {arguments : List Text}
    {settings : List S} {isOwn : List Exchange → SpotBlock → Prop} (h : drill.command.settings arguments = .ok settings)
    (ht : Script.Through node (SpotLaw node [] isOwn) (Settled node []) [] (drill.script account settings) {}) :
    SpotsKept node isOwn (drill.moments node account arguments) (drill.run node account arguments).1
      (drill.run node account arguments).2 := by
  obtain ⟨hduring, result, hexit, hsettled⟩ := Drill.through h ht
  refine ⟨hduring, ?_⟩
  rcases hsettled with hkept | ⟨earlier, m, block, failure, hm, hopen, hrequest, houtcome, rfl, hraised⟩
  · exact Or.inl hkept
  · exact Or.inr ⟨earlier, m, block, failure, hm, hopen, hrequest, houtcome, hexit, hraised⟩

/-- **Both drills keep the spots**, whatever the node answers and refuses. -/
theorem spots_kept (node : Node) (account : Address) (arguments : List Text) :
    (∀ settings, LiquidateVault.drill.command.settings arguments = .ok settings →
      SpotsKept node (LiquidateVault.IsOwn (.ofSettings settings))
        (LiquidateVault.drill.moments node account arguments) (LiquidateVault.drill.run node account arguments).1
        (LiquidateVault.drill.run node account arguments).2) ∧
    (∀ settings, LiquidateSeries.drill.command.settings arguments = .ok settings →
      SpotsKept node (LiquidateSeries.IsOwn (.ofSettings settings))
        (LiquidateSeries.drill.moments node account arguments) (LiquidateSeries.drill.run node account arguments).1
        (LiquidateSeries.drill.run node account arguments).2) := by
  refine ⟨fun settings h => Drill.spotsKept h ?_, fun settings h => Drill.spotsKept h ?_⟩
  · exact LiquidateVault.script_through account (.ofSettings settings) (Watched.initial node {})
  · refine (LiquidateSeries.script_through.weaken fun _ _ hlaw => hlaw.1).imp fun past' result after hend => ?_
    cases result with
    | error failure => exact hend
    | ok _ =>
      obtain ⟨done, -, hdone⟩ := hend
      exact hdone.watched.settled _

/-- The spots are kept where a sale is refused. -/
theorem spots_kept_of_refused_sale :
    SpotsKept (Node.steady.refusing ⟨"liquidate", 1, "reverted"⟩) (LiquidateVault.IsOwn (.ofSettings [.liquidator "at"]))
        (LiquidateVault.drill.moments (Node.steady.refusing ⟨"liquidate", 1, "reverted"⟩) "me"
          ["--flash-liquidator", "at"])
        (LiquidateVault.drill.run (Node.steady.refusing ⟨"liquidate", 1, "reverted"⟩) "me"
          ["--flash-liquidator", "at"]).1
        (LiquidateVault.drill.run (Node.steady.refusing ⟨"liquidate", 1, "reverted"⟩) "me"
          ["--flash-liquidator", "at"]).2 ∧
      SpotsKept (Node.steady.refusing ⟨"liquidate", 1, "reverted"⟩)
        (LiquidateSeries.IsOwn (.ofSettings [.liquidator "at"]))
        (LiquidateSeries.drill.moments (Node.steady.refusing ⟨"liquidate", 1, "reverted"⟩) "me"
          ["--flash-liquidator", "at"])
        (LiquidateSeries.drill.run (Node.steady.refusing ⟨"liquidate", 1, "reverted"⟩) "me"
          ["--flash-liquidator", "at"]).1
        (LiquidateSeries.drill.run (Node.steady.refusing ⟨"liquidate", 1, "reverted"⟩) "me"
          ["--flash-liquidator", "at"]).2 := by
  obtain ⟨hvault, hseries⟩ := spots_kept (Node.steady.refusing ⟨"liquidate", 1, "reverted"⟩) "me"
    ["--flash-liquidator", "at"]
  exact ⟨hvault _ rfl, hseries _ rfl⟩

end LiquidationDrill
