import LiquidationDrill.Proofs.Drill.LiquidateSeries

/-!
# What a series is charged

On a node that answers with natural numbers a drill moves for each series what its figures tell: the least debt, and the
collateral at the ratio that the pair had before the run, for the vault that was built for it (`series_charged`).
-/

namespace LiquidationDrill.LiquidateSeries

open CommandLine Mainnet Vault

/-- Nothing is moved until there is a vault. -/
theorem Findings.moves_of_mem_inquiry {account : Address} {options : Options} {f : Findings} {exchange : Exchange}
    (h : exchange ∈ f.inquiry account options) : moves exchange.1 = false := by
  simp only [inquiry, List.mem_cons, List.not_mem_nil, or_false] at h
  rcases h with rfl | rfl | rfl | rfl | rfl | rfl <;> rfl

/-- What moves something comes after the inquiry. -/
theorem Figures.inquiry_prefix {account : Address} {options : Options} {f : Figures} {earlier later : List Exchange}
    {exchange : Exchange} (he : f.exchanges account options = earlier ++ exchange :: later)
    (hm : moves exchange.1 = true) : f.inquiry account options <+: earlier := by
  have hinquiry : f.inquiry account options <+: f.exchanges account options := by
    rw [exchanges, List.append_assoc, List.append_assoc]
    exact List.prefix_append _ _
  have hearlier : earlier ++ [exchange] <+: f.exchanges account options := by
    rw [he]
    exact List.prefix_append_right_inj earlier |>.mpr ⟨later, rfl⟩
  have hnot : exchange ∉ f.inquiry account options := by
    intro hmem
    rw [Findings.moves_of_mem_inquiry hmem] at hm
    cases hm
  rcases List.prefix_or_prefix_of_prefix hinquiry hearlier with h | h
  · rcases List.prefix_concat_iff.mp h with h | h
    · exact absurd (h ▸ List.mem_append_right earlier List.mem_cons_self) hnot
    · exact h
  · exact absurd (h.subset (List.mem_append_right earlier List.mem_cons_self)) hnot

/-- **Every series is charged by its own figures**, in order, on the way to whatever end. If the run ends well, all
series have been drilled and nothing else has been exchanged. -/
theorem series_charged (node : Node) (account : Address) (arguments : List Text) {settings : List Setting}
    (h : drill.command.settings arguments = .ok settings) (hn : NaturalAnswers node) :
    (∀ earlier m later, drill.moments node account arguments = earlier ++ m :: later → moves m.request = true →
      ∃ done current, InOrder node account (.ofSettings settings) earlier m.request done current ∧
        ∃ dust decimals value ratio : Nat, current.Counted dust decimals value ratio ∧
          Charged account (.ofSettings settings) current.toFindings (dustDebt dust decimals)
            (collateralToPost value ratio) (granted node earlier) m.request) ∧
      ((drill.run node account arguments).1.code = 0 →
        ∃ done : List Figures, done.map (·.series) = Series.all ∧
          Reached node (.ofSettings settings) (done.map Figures.toFindings) ∧
          granted node (drill.moments node account arguments) = askedFor account (.ofSettings settings) done) := by
  have hrun : Script.Through node (SeriesLaw node account (.ofSettings settings)) _ [] (drill.script account settings) {} :=
    script_through
  obtain ⟨hlaw, result, hexit, hend⟩ := Drill.through h hrun
  constructor
  · intro earlier m later hm hmoves
    obtain ⟨done, current, horder⟩ := (hlaw earlier m later hm).2 hmoves
    have hfits := horder.reached.fits current.toFindings (List.mem_append_right _ List.mem_cons_self)
    obtain ⟨before, exchange, after, hexchange, hsplit, hgranted⟩ := horder.exchanges
    -- what was exchanged on the series so far was granted, and so answered by the node
    have hanswer : ∀ other ∈ before, ∃ session, node.answer session other.1 = .ok other.2 := by
      intro other hother
      have hmem : other ∈ granted node earlier := by
        rw [hgranted]
        exact List.mem_append_right _ hother
      exact Node.exists_answer_of_mem_granted hmem
    rw [← hexchange] at hmoves ⊢
    have hinquiry := Figures.inquiry_prefix hsplit hmoves
    obtain ⟨dust, decimals, value, ratio, hcounted⟩ :=
      hfits.exists_counts hn fun other hother => hanswer other (hinquiry.subset hother)
    refine ⟨done, current, hexchange ▸ horder, dust, decimals, value, ratio, hcounted, ?_⟩
    rw [hgranted]
    refine charged_of_exchanges_eq hcounted (fun hclock => ?_) hsplit
    obtain ⟨_, htime⟩ := hanswer _ hclock
    exact hn.timestamp htime
  · intro hcode
    cases result with
    | error failure =>
      rw [hexit] at hcode
      cases hcode
    | ok _ =>
      obtain ⟨done, hall, hdone⟩ := hend
      refine ⟨done, hall, ⟨?_, List.forall_mem_map.mpr hdone.fits⟩, hdone.watched.granted_eq⟩
      rw [List.map_map]
      exact hall ▸ List.prefix_rfl

/-- A node that refuses nothing, and whose clock goes on, lets all series be drilled. -/
theorem steady_series_charged :
    NaturalAnswers Node.steady ∧ (drill.run Node.steady "me" ["--flash-liquidator", "at"]).1.code = 0 ∧
      ∃ done : List Figures, done.map (·.series) = Series.all ∧
        Reached Node.steady (.ofSettings [.liquidator "at"]) (done.map Figures.toFindings) ∧
        granted Node.steady (drill.moments Node.steady "me" ["--flash-liquidator", "at"]) =
          askedFor "me" (.ofSettings [.liquidator "at"]) done := by
  have hnatural : NaturalAnswers Node.steady := by
    refine ⟨fun h => ⟨40, ?_⟩, fun h => ⟨6, ?_⟩, fun h => ⟨1400000, ?_⟩, fun h => ⟨2000, ?_⟩, fun {earlier} _ h =>
      ⟨1000 + earlier.length, ?_⟩⟩
    · exact (Except.ok.inj h).symm
    · exact (Except.ok.inj h).symm
    · exact (congrArg Spot.ratio (Except.ok.inj h)).symm
    · exact (Except.ok.inj h).symm
    · exact (Except.ok.inj h).symm
  have hcode : (drill.run Node.steady "me" ["--flash-liquidator", "at"]).1.code = 0 := by
    decide +kernel
  exact ⟨hnatural, hcode, (series_charged Node.steady "me" ["--flash-liquidator", "at"] rfl hnatural).2 hcode⟩

end LiquidationDrill.LiquidateSeries
