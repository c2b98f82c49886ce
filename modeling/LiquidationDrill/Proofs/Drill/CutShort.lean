import LiquidationDrill.Proofs.Drill.LiquidateSeries
import LiquidationDrill.Proofs.Drill.LiquidateVault
import LiquidationDrill.Proofs.Vault.Careful

/-!
# Drills that are cut short

A drill in which one request more is refused is the drill without that refusal, up to the request; then it leaves the
open block, if there is one, and ends with the refusal (`drills_cut_short`). The scripts of both drills are careful, and
that is all that is used of them.
-/

namespace LiquidationDrill

open CommandLine Mainnet

/-! ## Both drills are careful -/

section Careful

open Script

theorem plain_setBalance (address balance : Value) : (setBalance address balance).Plain :=
  (plain_amount _).bind fun _ => plain_request rfl

theorem plain_auctionAndLiquidate (witch liquidator : Address) (vault : Value) (sender : Address) (wait : Value) :
    (auctionAndLiquidate witch liquidator vault sender wait).Plain := by
  refine (plain_request rfl).bind fun _ => (plain_info _).bind fun _ => (plain_request rfl).bind fun _ => ?_
  exact (plain_amount _).bind fun _ => (plain_request rfl).bind fun _ => plain_request rfl

theorem LiquidateVault.plain_liquidate (account : Address) (options : Options) : (liquidate account options).Plain := by
  unfold liquidate percentage
  cases percentage? options.ratio with
  | none => exact trivial
  | some text =>
    refine Plain.bind (x := .done text) trivial fun _ => (plain_say _).bind fun _ => ?_
    exact (plain_auctionAndLiquidate _ _ _ _ _).bind fun _ => plain_say _

theorem LiquidateVault.script_careful (account : Address) (options : Options) : Careful none (script account options) := by
  refine (plain_setBalance _ _).careful.bind fun _ => (plain_setBalance _ _).careful.bind fun _ => ?_
  refine (plain_request rfl).careful.bind fun _ => ?_
  exact (plain_liquidate account options).withSpotRatio_careful

namespace LiquidateSeries

variable (account : Address) (options : Options)

theorem plain_prepare : (prepare account options).Plain := by
  refine (plain_setBalance _ _).bind fun _ => (plain_setBalance _ _).bind fun _ => (plain_setBalance _ _).bind fun _ => ?_
  refine (plain_request rfl).bind fun _ => (plain_request rfl).bind fun _ => ?_
  by_cases hw : options.collateral = .wsteth
  · rw [if_pos hw]
    exact (plain_request rfl).bind fun _ => plain_request rfl
  · rw [if_neg hw]
    exact trivial

theorem plain_findOut (series : Series) : (findOut account options series).Plain := by
  refine (plain_say _).bind fun _ => (plain_request rfl).bind fun entry => (plain_request rfl).bind fun dust => ?_
  refine (plain_request rfl).bind fun spot => (plain_request rfl).bind fun decimals => ?_
  refine (plain_amount _).bind fun borrowed => (plain_amount _).bind fun priced => (plain_request rfl).bind fun value => ?_
  refine (plain_amount _).bind fun posted => (plain_request rfl).bind fun vaults => ?_
  cases vaults.getLast? with
  | none => exact trivial
  | some vault => exact trivial

theorem plain_fill (f : Findings) : (fill account options f).Plain := by
  refine (plain_say _).bind fun _ => (plain_amount _).bind fun _ => (plain_request rfl).bind fun _ => ?_
  refine (plain_say _).bind fun _ => (plain_request rfl).bind fun _ => (plain_request rfl).bind fun _ => ?_
  exact (plain_amount _).bind fun _ => (plain_say _).bind fun _ => plain_request rfl

theorem sell_careful (f : Findings) : Careful none (sell account options f) := by
  have hliquidate : (liquidate account options f.vault).Plain :=
    (plain_auctionAndLiquidate _ _ _ _ _).bind fun _ => plain_say _
  refine hliquidate.withSpotRatio_careful.bind fun _ => ?_
  exact (plain_request rfl).careful.bind fun _ => (plain_say _).careful

theorem drillSeries_careful (series : Series) : Careful none (drillSeries account options series) := by
  rw [drillSeries_eq]
  refine (plain_findOut account options series).careful.bind fun f => ?_
  exact (plain_fill account options f).careful.bind fun _ => sell_careful account options f

theorem script_careful : Careful none (script account options) := by
  refine (plain_prepare account options).careful.bind fun _ => ?_
  generalize Series.all = rest
  induction rest with
  | nil => exact .done ()
  | cons series rest ih => exact (drillSeries_careful account options series).bind fun _ => ih

end LiquidateSeries

end Careful

/-! ## One refusal more -/

/-- A drill with one refusal more, against the drill without it. -/
structure CutShort {S : Type} (drill : Drill S) (node : Node) (account : Address) (arguments : List Text)
    (method : Text) (nth : Nat) (message : Text) : Prop where
  /-- Without such a request nothing is different. -/
  same : (drill.run node account arguments).2.count method < nth →
    drill.run (node.refusing ⟨method, nth, message⟩) account arguments = drill.run node account arguments
  /-- Otherwise the drill crashes with the refusal in the moment of the request, after the open block is left. -/
  cut : nth ≤ (drill.run node account arguments).2.count method →
    ∃ earlier m later, drill.moments node account arguments = earlier ++ m :: later ∧
      m.request.method = method ∧ m.session.count method + 1 = nth ∧
      m.session.trace ++ [.request m.request] <+: (drill.run node account arguments).2.trace ∧
      m.session.output <+: (drill.run node account arguments).1.output ∧
      (drill.run (node.refusing ⟨method, nth, message⟩) account arguments).1 =
        .crashed m.session.output (.script (.refused message)) ∧
      (drill.run (node.refusing ⟨method, nth, message⟩) account arguments).2.trace =
        m.session.trace ++ .request m.request :: closing (openIn node earlier) m.request ∧
      ∀ block, openIn node earlier = some block →
        ∃ now, ⟨now, block.reading⟩ ∈ earlier ∧ (node.respond now block.reading).1 = .ok block.previous

theorem Exit.output_ofRun (session : Session) (result : Except Failure Unit) :
    (Exit.ofRun session result).output = session.output := by
  cases result <;> rfl

/-- A request that a run has come to is counted at its end. -/
theorem le_count_of_moment {node : Node} {x : Script Unit} {session : Session} {earlier later : List Moment} {m : Moment}
    (h : x.moments node session = earlier ++ m :: later) :
    m.session.count m.request.method + 1 ≤ (x.run node session).2.count m.request.method := by
  have hmem : m ∈ x.moments node session := by
    rw [h]
    simp
  have hprefix := (Script.prefix_of_mem_moments hmem).1
  have hcount := Session.count_add_request m.session m.request.method m.request
  rw [if_pos rfl] at hcount
  rw [← hcount]
  exact hprefix.sublist.countP_le

/-- A drill with careful scripts is cut short. -/
theorem Drill.cutShort {S : Type} {drill : Drill S} {node : Node} {account : Address} (arguments : List Text)
    {method message : Text} {nth : Nat} (hn : ∀ method nth, node.refusal? method nth = none) (hnth : 1 ≤ nth)
    (hc : ∀ settings, Script.Careful none (drill.script account settings)) :
    CutShort drill node account arguments method nth message := by
  cases hs : drill.command.settings arguments with
  | error stop =>
    have hrun : ∀ node, drill.run node account arguments =
        (.notRun drill.command.usage drill.command.help stop, {}) := by
      intro node
      rw [Drill.run, hs]
    refine ⟨fun _ => ?_, fun hmore => ?_⟩
    · rw [hrun, hrun]
    · rw [hrun] at hmore
      have hzero : nth ≤ 0 := hmore
      omega
  | ok settings =>
    have hstart : ({} : Session).count method < nth := hnth
    have hcut : CutAt node method nth message [] (drill.script account settings) {} :=
      (hc settings).cutAt hn (opened_none rfl) hstart
    refine ⟨fun hless => ?_, fun hmore => ?_⟩
    · rw [Drill.run_of_settings hs] at hless
      rw [Drill.run_of_settings hs, Drill.run_of_settings hs]
      rcases hcut with ⟨-, hsame⟩ | ⟨earlier, m, later, hm, hr⟩
      · rw [hsame]
      · have hle := le_count_of_moment hm
        rw [hr.method_eq, hr.nth_eq] at hle
        exact absurd hless (Nat.not_lt.mpr hle)
    · rw [Drill.run_of_settings hs] at hmore
      rw [Drill.run_of_settings hs, Drill.run_of_settings hs, Drill.moments_of_settings hs]
      rcases hcut with ⟨hless, -⟩ | ⟨earlier, m, later, hm, hr⟩
      · exact absurd hless (Nat.not_lt.mpr hmore)
      · have hmem : m ∈ (drill.script account settings).moments node {} := by
          rw [hm]
          simp
        obtain ⟨htrace, houtput⟩ := Script.prefix_of_mem_moments hmem
        refine ⟨earlier, m, later, hm, hr.method_eq, hr.nth_eq, htrace, ?_, ?_, hr.trace, hr.read⟩
        · rw [Exit.output_ofRun]
          exact houtput
        · rw [hr.result, ← hr.output]
          rfl

/-- **Both drills are cut short** by one request more that is refused, whichever it is. -/
theorem drills_cut_short (node : Node) (hn : ∀ method nth, node.refusal? method nth = none) (account : Address)
    (arguments : List Text) (method : Text) (nth : Nat) (hnth : 1 ≤ nth) (message : Text) :
    CutShort LiquidateVault.drill node account arguments method nth message ∧
      CutShort LiquidateSeries.drill node account arguments method nth message := by
  refine ⟨Drill.cutShort arguments hn hnth fun settings => ?_, Drill.cutShort arguments hn hnth fun settings => ?_⟩
  · exact LiquidateVault.script_careful account (.ofSettings settings)
  · exact LiquidateSeries.script_careful account (.ofSettings settings)

/-- A refused sale cuts both drills short, which make it otherwise. -/
theorem drills_cut_short_at_sale :
    1 ≤ (LiquidateVault.drill.run Node.steady "me" ["--flash-liquidator", "at"]).2.count "liquidate" ∧
      CutShort LiquidateVault.drill Node.steady "me" ["--flash-liquidator", "at"] "liquidate" 1 "reverted" ∧
      CutShort LiquidateSeries.drill Node.steady "me" ["--flash-liquidator", "at"] "liquidate" 1 "reverted" := by
  have hcount : 1 ≤ (LiquidateVault.drill.run Node.steady "me" ["--flash-liquidator", "at"]).2.count "liquidate" := by
    decide +kernel
  exact ⟨hcount, drills_cut_short Node.steady (fun _ _ => rfl) "me" ["--flash-liquidator", "at"] "liquidate" 1
    (by decide) "reverted"⟩

end LiquidationDrill
