import LiquidationDrill.Proofs.Drill.Figures

/-!
# The moments of `liquidate_series`

A drill on a series finds out its figures, fills the vault and sells it (`drillSeries_eq`). Each of these stages asks
for what the figures tell, in their order (`findOut_through`, `fill_through`, `sell_through`), so that a run asks for what
the figures of all its series tell, one series after the other (`forM_through`). The law of a run (`SeriesLaw`) says this
of every moment that moves something, besides being in its place (`script_through`).
-/

namespace LiquidationDrill.LiquidateSeries

open CommandLine Mainnet Vault

/-! ## The law -/

/-- The request asks for the entry of a series. -/
def asksSeries : Request → Bool
  | .series .. => true
  | _ => false

/-- The request moves tokens, or sells a vault. -/
def moves : Request → Bool
  | .transfer .. | .pour .. | .auction .. | .mine _ | .liquidate .. => true
  | _ => false

/-- A block is on the base of the series whose entry was read last. -/
def IsOwn (options : Options) (asked : List Exchange) (block : SpotBlock) : Prop :=
  ∃ (before : List Exchange) (id : Value) (entry : SeriesEntry) (since : List Exchange),
    asked = before ++ ⟨.series cauldron id, entry⟩ :: since ∧ (∀ exchange ∈ since, asksSeries exchange.1 = false) ∧
      block.base = entry.base ∧ block.ilk = .string options.collateral.asset.id

/-- What is exchanged until some series are done. -/
def askedFor (account : Address) (options : Options) (done : List Figures) : List Exchange :=
  preparation account options ++ done.flatMap (·.exchanges account options)

/-- The series are drilled in their order, and their findings fit. -/
structure Reached (node : Node) (options : Options) (reached : List Findings) : Prop where
  series : reached.map Findings.series <+: Series.all
  fits : ∀ f ∈ reached, f.Fits node options

/-- A request comes in order: `done` are the series before, and `current` is the one that is drilled. Figures of this one
that are not found out yet may be anything. -/
structure InOrder (node : Node) (account : Address) (options : Options) (past : List Moment) (r : Request)
    (done : List Figures) (current : Figures) : Prop where
  reached : Reached node options (done.map Figures.toFindings ++ [current.toFindings])
  exchanges : ∃ earlier exchange later, exchange.1 = r ∧
    current.exchanges account options = earlier ++ exchange :: later ∧
      granted node past = askedFor account options done ++ earlier

/-- The law of the drill. -/
def SeriesLaw (node : Node) (account : Address) (options : Options) (past : List Moment) (m : Moment) : Prop :=
  SpotLaw node [] (IsOwn options) past m ∧
    (moves m.request = true → ∃ done current, InOrder node account options past m.request done current)

section Law

variable {node : Node} {account : Address} {options : Options} {past : List Moment} {session : Session} {r : Request}
  {asked earlier later : List Exchange} {done : List Figures} {f : Figures}

/-- A request outside of blocks that moves nothing. -/
theorem law_of_not_moves (h : SpotLaw node [] (IsOwn options) past ⟨session, r⟩) (hm : moves r = false) :
    SeriesLaw node account options past ⟨session, r⟩ := by
  refine ⟨h, fun hmoves => ?_⟩
  have hmoves : moves r = true := hmoves
  rw [hm] at hmoves
  cases hmoves

/-- A request that is the next one of a series. -/
theorem law_of_next {open? : Option SpotBlock} {e : Exchange}
    (h : SpotLaw node [] (IsOwn options) past ⟨session, e.1⟩)
    (hr : Reached node options (done.map Figures.toFindings ++ [f.toFindings]))
    (hw : Watched node [] open? (askedFor account options done ++ earlier) past session)
    (he : f.exchanges account options = earlier ++ e :: later) :
    SeriesLaw node account options past ⟨session, e.1⟩ :=
  ⟨h, fun _ => ⟨done, f, hr, earlier, e, later, rfl, he, hw.granted_eq⟩⟩

/-- Only the first request of a series asks for its entry. -/
theorem asksSeries_of_mem_tail {exchange : Exchange} (h : exchange ∈ (f.exchanges account options).tail) :
    asksSeries exchange.1 = false := by
  simp only [Figures.exchanges, Findings.inquiry, Figures.payment, Figures.sale, SpotBlock.entering, auctionExchanges,
    List.cons_append, List.nil_append, List.tail_cons, List.mem_cons, List.not_mem_nil, or_false] at h
  rcases h with rfl | rfl | rfl | rfl | rfl | rfl | rfl | rfl | rfl | rfl | rfl | rfl | rfl | rfl | rfl | rfl | rfl <;>
    rfl

/-- The block of a series is its own from its first request on. -/
theorem isOwn_block {first : Exchange} {before : List Exchange}
    (he : first :: earlier <+: f.exchanges account options) :
    IsOwn options (before ++ first :: earlier) (f.block options) := by
  obtain ⟨later, hl⟩ := he
  have hfirst : first = ⟨.series cauldron (.string f.series.id), f.entry⟩ := (List.cons.inj hl).1
  have htail : (f.exchanges account options).tail = earlier ++ later := by
    rw [← hl]
    rfl
  refine ⟨before, .string f.series.id, f.entry, earlier, ?_, fun exchange hexchange => ?_, rfl, rfl⟩
  · rw [hfirst]
  · have hmem : exchange ∈ (f.exchanges account options).tail := by
      rw [htail]
      exact List.mem_append_left _ hexchange
    exact asksSeries_of_mem_tail hmem

end Law

/-! ## The stages of a series -/

section Stages

variable (account : Address) (options : Options)

/-- Finds out about a series, and builds the vault. -/
def findOut (series : Series) : Script Findings := do
  let ilk := options.collateral.asset.id
  Script.say ("series: " ++ series.id)
  let entry ← Script.request (.series cauldron series.id)
  let dust ← Script.request (.debt cauldron entry.base ilk)
  let spot ← Script.request (.spotOracles cauldron entry.base ilk)
  let decimals ← Script.request (.decimals entry.token)
  let borrowed ← Script.amount (dustDebtOf dust decimals)
  let priced ← Script.amount (oracleIdOf entry.base)
  let value ← Script.request
    (.peek ((options.oracle.map Value.string).getD spot.oracle) priced (oracleId ilk) borrowed)
  let posted ← Script.amount (collateralOf value spot.ratio)
  let vaults ← Script.request (.build options.ladle series.id ilk account)
  match vaults.getLast? with
  | some vault => return { series, entry, dust, spot, decimals, borrowed, priced, value, posted, vaults, vault }
  | none => .fail .noVaultBuilt

/-- Posts the collateral of the whale and borrows. -/
def fill (f : Findings) : Script Unit := do
  Script.say ("vault: " ++ f.vault.display)
  let postedText ← Script.amount f.posted.shown
  let available ← Script.request (.balanceOf options.collateral.token options.collateral.whale)
  Script.say ("posting " ++ postedText ++ " " ++ options.collateral.asset.name ++ " out of " ++ available.display)
  let join ← Script.request (.joins options.ladle options.collateral.asset.id)
  Script.request (.transfer options.collateral.token join f.posted options.collateral.whale)
  let borrowedText ← Script.amount f.borrowed.shown
  Script.say ("borrowing " ++ borrowedText ++ " " ++ f.entry.base.display ++ " with " ++ f.series.id)
  Script.request (.pour options.ladle f.vault options.collateral.whale f.posted f.borrowed account)

/-- Sells the vault under the raised ratio and shows the profit. -/
def sell (f : Findings) : Script Unit := do
  Script.withSpotRatio cauldron timelock f.entry.base options.collateral.asset.id (.int liquidationRatio)
    (liquidate account options f.vault)
  let profit ← Script.request (.balanceOf Asset.wethToken (options.recipient.getD account))
  Script.say ("profit: " ++ profit.display)

/-- A drill on a series is these three stages. -/
theorem drillSeries_eq (series : Series) : drillSeries account options series = (do
    let f ← findOut account options series
    fill account options f
    sell account options f) := by
  simp only [drillSeries, findOut, fill, sell, buildVault, bind_assoc]
  refine bind_congr fun _ => bind_congr fun entry => bind_congr fun dust => bind_congr fun spot =>
    bind_congr fun decimals => bind_congr fun borrowed => bind_congr fun priced => bind_congr fun value =>
    bind_congr fun posted => bind_congr fun vaults => ?_
  cases vaults.getLast? with
  | none => rfl
  | some vault => simp only [pure_bind]

end Stages

section Through

variable {node : Node} {account : Address} {options : Options} {past : List Moment} {session : Session}
  {done : List Figures}

/-- A request outside of blocks that moves nothing, in a watched run. -/
theorem through_next {α : Type} {r : Request} {f : r.Answer → Script α} {before earlier : List Exchange}
    {goal : List Moment → Except Failure α → Session → Prop}
    (h : Watched node [] none (before ++ earlier) past session) (hs : r.setsSpot = false) (hi : r.isInside = false)
    (hm : moves r = false)
    (hok : ∀ a past' after, node.answer session r = .ok a →
      Watched node [] none (before ++ (earlier ++ [⟨r, a⟩])) past' after →
      Script.Through node (SeriesLaw node account options) goal past' (f a) after)
    (herror : ∀ failure past' after, Settled node [] past' (.error failure) after → goal past' (.error failure) after) :
    Script.Through node (SeriesLaw node account options) goal past (Script.request r >>= f) session := by
  have hlaw : SeriesLaw node account options past ⟨session, r⟩ := law_of_not_moves (h.outside hs hi) hm
  refine h.through_ask hs hlaw (fun a past' after ha hw => ?_) fun failure past' after hw => ?_
  · rw [List.append_assoc] at hw
    exact hok a past' after ha hw
  · exact herror failure past' after (hw.settled _)

/-- The findings of a series fit, and its vault is built. -/
theorem findOut_through {before : List Exchange} {series : Series} (h : Watched node [] none before past session) :
    Script.Through node (SeriesLaw node account options)
      (fun past' result after =>
        match result with
        | .ok f => f.series = series ∧ f.Fits node options ∧
            Watched node [] none (before ++ f.inquiry account options) past' after
        | .error failure => Settled node [] past' (.error failure) after)
      past (findOut account options series) session := by
  have h₀ : Watched node [] none (before ++ []) past (session.print ("series: " ++ series.id)) := by
    rw [List.append_nil]
    exact h.print _
  unfold findOut
  refine Script.through_say ?_ fun _ => h.settled _
  refine through_next h₀ rfl rfl rfl (fun entry _ _ _ h₁ => ?_) fun _ _ _ hs => hs
  refine through_next h₁ rfl rfl rfl (fun dust _ _ _ h₂ => ?_) fun _ _ _ hs => hs
  refine through_next h₂ rfl rfl rfl (fun spot _ now hspot h₃ => ?_) fun _ _ _ hs => hs
  have hstart : node.spotIn [] entry.base (.string options.collateral.asset.id) = .ok spot := by
    rw [← h₂.raised]
    exact hspot
  refine through_next h₃ rfl rfl rfl (fun decimals _ _ _ h₄ => ?_) fun _ _ _ hs => hs
  refine Script.through_amount (fun borrowed hborrowed => ?_) fun _ => h₄.settled _
  refine Script.through_amount (fun priced hpriced => ?_) fun _ => h₄.settled _
  refine through_next h₄ rfl rfl rfl (fun value _ _ _ h₅ => ?_) fun _ _ _ hs => hs
  refine Script.through_amount (fun posted hposted => ?_) fun _ => h₅.settled _
  refine through_next h₅ rfl rfl rfl (fun vaults _ _ _ h₆ => ?_) fun _ _ _ hs => hs
  cases hlast : vaults.getLast? with
  | none => exact h₆.settled _
  | some vault => exact ⟨rfl, ⟨hstart, hborrowed, hpriced, hposted, hlast⟩, h₆⟩

/-- The vault is filled with what was found out. -/
theorem fill_through {f : Findings} (hr : Reached node options (done.map Figures.toFindings ++ [f]))
    (h : Watched node [] none (askedFor account options done ++ f.inquiry account options) past session) :
    Script.Through node (SeriesLaw node account options)
      (fun past' result after =>
        match result with
        | .ok _ => ∃ g : Figures, g.toFindings = f ∧ Watched node [] none
            (askedFor account options done ++ (g.inquiry account options ++ g.payment account options)) past' after
        | .error failure => Settled node [] past' (.error failure) after)
      past (fill account options f) session := by
  unfold fill
  refine Script.through_say ?_ fun _ => h.settled _
  replace h := h.print ("vault: " ++ f.vault.display)
  refine Script.through_amount (fun postedText _ => ?_) fun _ => h.settled _
  refine through_next h rfl rfl rfl (fun available _ now₁ _ h₁ => ?_) fun _ _ _ hs => hs
  refine Script.through_say ?_ fun _ => h₁.settled _
  replace h₁ := h₁.print
    ("posting " ++ postedText ++ " " ++ options.collateral.asset.name ++ " out of " ++ available.display)
  refine through_next h₁ rfl rfl rfl (fun join _ now₂ _ h₂ => ?_) fun _ _ _ hs => hs
  -- the figures of the sale are not found out yet
  let g : Figures := { f with available, join, timestamp := .null, hash := [], profit := .null }
  have hlaw₂ : SeriesLaw node account options _
      ⟨now₂, .transfer options.collateral.token join f.posted options.collateral.whale⟩ :=
    law_of_next (f := g) (e := ⟨.transfer _ _ _ _, ()⟩) (h₂.outside rfl rfl) hr h₂ rfl
  refine h₂.through_ask rfl hlaw₂ (fun _ _ now₃ _ h₃ => ?_) fun _ _ _ hw => hw.settled _
  rw [List.append_assoc] at h₃
  refine Script.through_amount (fun borrowedText _ => ?_) fun _ => h₃.settled _
  refine Script.through_say ?_ fun _ => h₃.settled _
  replace h₃ := h₃.print
    ("borrowing " ++ borrowedText ++ " " ++ f.entry.base.display ++ " with " ++ f.series.id)
  have hlaw₃ : SeriesLaw node account options _
      ⟨_, .pour options.ladle f.vault options.collateral.whale f.posted f.borrowed account⟩ :=
    law_of_next (f := g) (e := ⟨.pour _ _ _ _ _ _, ()⟩) (h₃.outside rfl rfl) hr h₃ rfl
  refine (h₃.through_request rfl hlaw₃).imp fun _ result _ h₄ => ?_
  cases result with
  | error failure => exact h₄.settled _
  | ok _ =>
    dsimp only at h₄
    rw [List.append_assoc] at h₄
    exact ⟨g, rfl, h₄⟩

/-- The vault is sold inside of the block of its series. -/
theorem liquidate_through {g : Figures} (hr : Reached node options (done.map Figures.toFindings ++ [g.toFindings]))
    (h : Watched node [] (some (g.block options))
      (askedFor account options done ++ (g.inquiry account options ++ g.payment account options) ++
        (g.block options).entering (.int liquidationRatio)) past session) :
    Script.Through node (SeriesLaw node account options)
      (fun past' result after => SeriesLaw node account options past' ⟨after, (g.block options).restoring⟩ ∧ ∃ inner,
        Watched node [] (some (g.block options))
          (askedFor account options done ++ (g.inquiry account options ++ g.payment account options) ++
            (g.block options).entering (.int liquidationRatio) ++ inner) past' after ∧
          (result = .ok () → ∃ timestamp hash,
            inner = auctionExchanges witch options.liquidator g.vault account auctionWait timestamp hash))
      past (liquidate account options g.vault) session := by
  -- the block is the own one of the series, however much of the auction has been granted
  have hown : ∀ timestamp hash earlier,
      earlier <+: auctionExchanges witch options.liquidator g.vault account auctionWait timestamp hash →
      IsOwn options (askedFor account options done ++ (g.inquiry account options ++ g.payment account options) ++
        (g.block options).entering (.int liquidationRatio) ++ earlier) (g.block options) := by
    intro timestamp hash earlier ⟨rest, he⟩
    rw [List.append_assoc, List.append_assoc]
    have hcut : g.inquiry account options ++ g.payment account options ++
        ((g.block options).entering (.int liquidationRatio) ++ earlier) <+:
        { g with timestamp, hash }.exchanges account options := by
      refine ⟨rest ++ [⟨(g.block options).restoring, ()⟩] ++
        [⟨.balanceOf Asset.wethToken (options.recipient.getD account), g.profit⟩], ?_⟩
      rw [Figures.exchanges, Figures.sale, ← he]
      simp [Figures.payment]
    exact isOwn_block (f := { g with timestamp, hash }) hcut
  unfold liquidate
  refine h.through_sale ?_ ?_
  · intro timestamp hash earlier exchange later past' now he hw
    have hmem : exchange ∈ auctionExchanges witch options.liquidator g.vault account auctionWait timestamp hash := by
      rw [he]
      simp
    obtain ⟨hs, ho⟩ := auctionExchanges_inside hmem
    have hspot := hw.inside hs ho (hown timestamp hash earlier ⟨_, he.symm⟩)
    rw [List.append_assoc, List.append_assoc] at hw
    have hnext : { g with timestamp, hash }.exchanges account options =
        (g.inquiry account options ++ g.payment account options ++
          ((g.block options).entering (.int liquidationRatio) ++ earlier)) ++
        exchange :: (later ++ [⟨(g.block options).restoring, ()⟩] ++
          [⟨.balanceOf Asset.wethToken (options.recipient.getD account), g.profit⟩]) := by
      rw [Figures.exchanges, Figures.sale, he]
      simp [Figures.payment]
    exact law_of_next (f := { g with timestamp, hash }) hspot hr hw hnext
  · intro timestamp hash earlier past' now he hw
    exact law_of_not_moves (hw.restoring (hown timestamp hash earlier he)) rfl

/-- The vault is sold, and the profit is shown. -/
theorem sell_through {g : Figures} (hr : Reached node options (done.map Figures.toFindings ++ [g.toFindings]))
    (h : Watched node [] none
      (askedFor account options done ++ (g.inquiry account options ++ g.payment account options)) past session) :
    Script.Through node (SeriesLaw node account options)
      (fun past' result after =>
        match result with
        | .ok _ => ∃ f : Figures, f.toFindings = g.toFindings ∧
            Watched node [] none (askedFor account options (done ++ [f])) past' after
        | .error failure => Settled node [] past' (.error failure) after)
      past (sell account options g.toFindings) session := by
  have hg : g.Fits node options := hr.fits _ (List.mem_append_right _ List.mem_cons_self)
  unfold sell
  rw [Script.through_bind]
  refine (h.through_withSpotRatio
    (fun inner => ∃ timestamp hash,
      inner = auctionExchanges witch options.liquidator g.vault account auctionWait timestamp hash)
    (isId_of_oracleIdOf hg.priced) (.text _) (law_of_not_moves (h.outside rfl rfl) rfl) ?_ ?_).imp ?_
  · intro previous past' now hstart hw
    -- earlier series have put back what they raised, so that the block reads the spot of the findings
    obtain rfl : g.spot = previous := Except.ok.inj (hg.spot.symm.trans hstart)
    rw [List.append_assoc] at hw
    have hown : IsOwn options (askedFor account options done ++
        (g.inquiry account options ++ g.payment account options ++ [⟨(g.block options).reading, g.spot⟩]))
        (g.block options) :=
      isOwn_block (f := g) ⟨(g.exchanges account options).drop 11, rfl⟩
    exact law_of_not_moves (hw.raising hown hstart _) rfl
  · intro block past' now hblock hstart hw
    obtain rfl := hg.block_eq hblock hstart
    exact liquidate_through hr hw
  · intro past' result after hdone
    cases result with
    | error failure => exact hdone
    | ok _ =>
      obtain ⟨block, _, hblock, hstart, ⟨timestamp, hash, rfl⟩, hw⟩ := hdone
      obtain rfl := hg.block_eq hblock hstart
      refine hw.through_ask rfl (law_of_not_moves (hw.outside rfl rfl) rfl) (fun profit _ _ _ hlast => ?_)
        fun _ _ _ hlast => hlast.settled _
      refine Script.through_say_last ⟨{ g with timestamp, hash, profit }, rfl, ?_⟩ fun _ => hlast.settled _
      have hasked : askedFor account options (done ++ [{ g with timestamp, hash, profit }]) =
          askedFor account options done ++ (g.inquiry account options ++ g.payment account options) ++
            (g.block options).entering (.int liquidationRatio) ++
            auctionExchanges witch options.liquidator g.vault account auctionWait timestamp hash ++
            [⟨(g.block options).restoring, ()⟩] ++
            [⟨.balanceOf Asset.wethToken (options.recipient.getD account), profit⟩] := by
        simp [askedFor, Figures.exchanges, Figures.sale, Figures.payment]
      rw [hasked]
      exact hlast.print _

/-! ## The whole run -/

/-- A run after some series are done. -/
structure Drilled (node : Node) (account : Address) (options : Options) (done : List Figures) (past : List Moment)
    (session : Session) : Prop where
  fits : ∀ f ∈ done, f.Fits node options
  watched : Watched node [] none (askedFor account options done) past session

/-- One more series is drilled, or the spots are settled. -/
theorem drillSeries_through {series : Series} (h : Drilled node account options done past session)
    (hseries : done.map (·.series) ++ [series] <+: Series.all) :
    Script.Through node (SeriesLaw node account options)
      (fun past' result after =>
        match result with
        | .ok _ => ∃ f : Figures, f.series = series ∧ Drilled node account options (done ++ [f]) past' after
        | .error failure => Settled node [] past' (.error failure) after)
      past (drillSeries account options series) session := by
  rw [drillSeries_eq, Script.through_bind]
  refine (findOut_through h.watched).imp fun past₁ found after₁ h₁ => ?_
  cases found with
  | error failure => exact h₁
  | ok f =>
    obtain ⟨rfl, hf, hw₁⟩ := h₁
    have hr : Reached node options (done.map Figures.toFindings ++ [f]) := by
      refine ⟨?_, List.forall_mem_append.mpr ⟨List.forall_mem_map.mpr h.fits, List.forall_mem_singleton.mpr hf⟩⟩
      rw [List.map_append, List.map_map]
      exact hseries
    show Script.Through node _ _ past₁ (fill account options f >>= fun _ => sell account options f) after₁
    rw [Script.through_bind]
    refine (fill_through hr hw₁).imp fun past₂ filled after₂ h₂ => ?_
    cases filled with
    | error failure => exact h₂
    | ok _ =>
      obtain ⟨g, rfl, hw₂⟩ := h₂
      refine (sell_through hr hw₂).imp fun past₃ sold after₃ h₃ => ?_
      cases sold with
      | error failure => exact h₃
      | ok _ =>
        obtain ⟨f, hfindings, hw₃⟩ := h₃
        rw [← hfindings] at hf
        refine ⟨f, congrArg Findings.series hfindings, ?_, hw₃⟩
        exact List.forall_mem_append.mpr ⟨h.fits, List.forall_mem_singleton.mpr hf⟩

/-- The series are drilled one after the other. -/
theorem forM_through {rest : List Series} (h : Drilled node account options done past session)
    (hseries : done.map (·.series) ++ rest = Series.all) :
    Script.Through node (SeriesLaw node account options)
      (fun past' result after =>
        match result with
        | .ok _ => ∃ done : List Figures, done.map (·.series) = Series.all ∧
            Drilled node account options done past' after
        | .error failure => Settled node [] past' (.error failure) after)
      past (rest.forM (drillSeries account options)) session := by
  -- `done ++ rest` stays the list of all series, and `Drilled` is kept by each of them
  induction rest generalizing done past session with
  | nil =>
    rw [List.append_nil] at hseries
    exact ⟨done, hseries, h⟩
  | cons series rest ih =>
    have hnext : done.map (·.series) ++ [series] ++ rest = Series.all := by
      rw [List.append_assoc]
      exact hseries
    show Script.Through node _ _ past
      (drillSeries account options series >>= fun _ => rest.forM (drillSeries account options)) session
    rw [Script.through_bind]
    refine (drillSeries_through h ⟨rest, hnext⟩).imp fun past' drilled after hd => ?_
    cases drilled with
    | error failure => exact hd
    | ok _ =>
      obtain ⟨f, rfl, hd⟩ := hd
      refine ih hd ?_
      rw [List.map_append]
      exact hnext

/-- The accounts are prepared. -/
theorem prepare_through (h : Watched node [] none [] past session) :
    Script.Through node (SeriesLaw node account options)
      (fun past' result after =>
        match result with
        | .ok _ => Drilled node account options [] past' after
        | .error failure => Settled node [] past' (.error failure) after)
      past (prepare account options) session := by
  have hdone : ∀ past' after, Watched node [] none (preparation account options) past' after →
      Drilled node account options [] past' after := by
    intro past' after hw
    refine ⟨fun f hf => absurd hf List.not_mem_nil, ?_⟩
    rw [askedFor, List.flatMap_nil, List.append_nil]
    exact hw
  unfold prepare
  replace h : Watched node [] none ([] ++ []) past session := h
  refine through_next (r := .setBalance account (10 * wad)) h rfl rfl rfl (fun _ _ _ _ h₁ => ?_) fun _ _ _ hs => hs
  refine through_next (r := .setBalance timelock (10 * wad)) h₁ rfl rfl rfl (fun _ _ _ _ h₂ => ?_) fun _ _ _ hs => hs
  refine through_next (r := .setBalance options.collateral.whale (10 * wad)) h₂ rfl rfl rfl (fun _ _ _ _ h₃ => ?_)
    fun _ _ _ hs => hs
  refine through_next (r := .impersonate timelock) h₃ rfl rfl rfl (fun _ _ _ _ h₄ => ?_) fun _ _ _ hs => hs
  refine through_next (r := .impersonate options.collateral.whale) h₄ rfl rfl rfl (fun _ past₅ now₅ _ h₅ => ?_)
    fun _ _ _ hs => hs
  by_cases hw : options.collateral = .wsteth
  · rw [if_pos hw]
    unfold wrapCollateral
    refine through_next h₅ rfl rfl rfl (fun _ _ _ _ h₆ => ?_) fun _ _ _ hs => hs
    refine (h₆.through_request rfl (law_of_not_moves (h₆.outside rfl rfl) rfl)).imp fun past' result after hlast => ?_
    cases result with
    | error failure => exact hlast.settled _
    | ok _ =>
      refine hdone past' after ?_
      rw [preparation, if_pos hw]
      exact hlast
  · rw [if_neg hw]
    refine hdone past₅ now₅ ?_
    rw [preparation, if_neg hw]
    exact h₅

/-- **Every moment of a run** satisfies the law. If the run ends well all series are drilled, and the spots are settled
in any case. -/
theorem script_through :
    Script.Through node (SeriesLaw node account options)
      (fun past' result after =>
        match result with
        | .ok _ => ∃ done : List Figures, done.map (·.series) = Series.all ∧
            Drilled node account options done past' after
        | .error failure => Settled node [] past' (.error failure) after)
      [] (script account options) {} := by
  unfold script
  rw [Script.through_bind]
  refine (prepare_through (Watched.initial node {})).imp fun past' prepared after hp => ?_
  cases prepared with
  | error failure => exact hp
  | ok _ => exact forM_through hp rfl

end Through

end LiquidationDrill.LiquidateSeries
