import LiquidationDrill.Proofs.Vault.Blocks

/-!
# Watching spots

`RaisedOnly` compares the spots of a run with those at its start: only the pair of the open block is answered otherwise,
and only with another ratio. A run is watched (`Watched`) by this and by what it has been granted so far. A request that
is refused changes nothing (`Watched.refuse`). One that is granted changes the spots only if it sets one
(`Watched.ask_ok`): raising a ratio enters a block, and putting the spot back leaves it (`Watched.raise`,
`Watched.restore`). `Watched.through_withSpotRatio` puts these together: a block leaves the spots as they were at the
start, unless its own leaving fails (`Settled`).
-/

namespace LiquidationDrill

open Mainnet (Address)

/-! ## What is watched -/

/-- The spots of a run, against those at its start: only the pair of the open block is answered otherwise, and only with
another ratio. -/
def RaisedOnly (node : Node) (start now : Spots) : Option SpotBlock → Prop
  | none => ∀ base ilk, node.spotIn now base ilk = node.spotIn start base ilk
  | some block =>
    node.spotIn start block.base block.ilk = .ok block.previous ∧
      (∃ ratio, node.spotIn now block.base block.ilk = .ok { block.previous with ratio }) ∧
      ∀ base ilk, (base, ilk) ≠ (block.base, block.ilk) → node.spotIn now base ilk = node.spotIn start base ilk

section RaisedOnly

variable {node : Node} {start now : Spots} {block : SpotBlock} {pair : Pair}

/-- A raised ratio is that of the open block. -/
theorem RaisedOnly.raise (h : RaisedOnly node start now none) (hb : block.base.IsId) (hi : block.ilk.IsId)
    (hread : node.spotIn now block.base block.ilk = .ok block.previous)
    (hpair : Node.pairOf block.base block.ilk = .ok pair) (ratio : Value) :
    RaisedOnly node start (now.put pair ⟨block.base, block.ilk, { block.previous with ratio }⟩) (some block) := by
  refine ⟨?_, ⟨ratio, Node.spotIn_put_self hpair⟩, fun base ilk hne => ?_⟩
  · rw [← h, hread]
  · rw [Node.spotIn_put_of_ids hb hi hpair hne, h]

/-- Without it the spots are as they were. -/
theorem RaisedOnly.restore (h : RaisedOnly node start now (some block)) (hb : block.base.IsId) (hi : block.ilk.IsId)
    (hpair : Node.pairOf block.base block.ilk = .ok pair) :
    RaisedOnly node start (now.put pair ⟨block.base, block.ilk, block.previous⟩) none := by
  obtain ⟨hstart, -, hothers⟩ := h
  intro base ilk
  by_cases he : (base, ilk) = (block.base, block.ilk)
  · obtain ⟨rfl, rfl⟩ := Prod.mk.inj he
    rw [hstart]
    exact Node.spotIn_put_self hpair
  · rw [Node.spotIn_put_of_ids hb hi hpair he, hothers base ilk he]

end RaisedOnly

/-- What is known of a run: which block is open, how the spots differ from those at the start, and what has been
granted. -/
structure Watched (node : Node) (start : Spots) (open? : Option SpotBlock) (asked : List Exchange) (past : List Moment)
    (session : Session) : Prop where
  open_eq : openIn node past = open?
  raised : RaisedOnly node start session.spots open?
  granted_eq : granted node past = asked

/-! ## Single moments -/

namespace Watched

variable {node : Node} {start : Spots} {open? : Option SpotBlock} {asked : List Exchange} {past : List Moment}
  {session : Session} {r : Request}

/-- At the start of a run nothing has happened. -/
theorem initial (node : Node) (session : Session) : Watched node session.spots none [] [] session where
  open_eq := rfl
  raised _ _ := rfl
  granted_eq := rfl

/-- Notices and output are not watched. -/
theorem add (h : Watched node start open? asked past session) (event : Event) :
    Watched node start open? asked past (session.add event) :=
  ⟨h.open_eq, h.raised, h.granted_eq⟩

theorem print (h : Watched node start open? asked past session) (line : Text) :
    Watched node start open? asked past (session.print line) :=
  ⟨h.open_eq, h.raised, h.granted_eq⟩

/-- A request that is granted. -/
theorem grant {other? : Option SpotBlock} (h : Watched node start open? asked past session) {a : r.Answer}
    (ho : (node.respond session r).1 = .ok a) (hopen : openIn node (past ++ [⟨session, r⟩]) = other?)
    (hraised : RaisedOnly node start (node.respond session r).2.spots other?) :
    Watched node start other? (asked ++ [⟨r, a⟩]) (past ++ [⟨session, r⟩]) (node.respond session r).2 := by
  refine ⟨hopen, hraised, ?_⟩
  rw [granted_snoc_ok ho, h.granted_eq]

/-- A request that is refused changes nothing. -/
theorem refuse (h : Watched node start open? asked past session) {failure : Failure}
    (hf : (node.respond session r).1 = .error failure) :
    Watched node start open? asked (past ++ [⟨session, r⟩]) (node.respond session r).2 := by
  refine ⟨?_, ?_, ?_⟩
  · rw [openIn_snoc_of_none (Moment.entered?_of_error (Moment.outcome_of_error hf)), h.open_eq]
  · rw [Node.spots_of_error hf]
    exact h.raised
  · rw [granted_snoc_error hf, h.granted_eq]

/-- A request that sets no spot changes no block and no spot. -/
theorem ask_ok (h : Watched node start open? asked past session) (hs : r.setsSpot = false) {a : r.Answer}
    (ho : (node.respond session r).1 = .ok a) :
    Watched node start open? (asked ++ [⟨r, a⟩]) (past ++ [⟨session, r⟩]) (node.respond session r).2 := by
  refine h.grant ho ?_ ?_
  · rw [openIn_snoc_of_none (Moment.entered?_of_not_setsSpot hs), h.open_eq]
  · rw [Node.respond_of_not_setsSpot hs]
    exact h.raised

section Blocks

variable {block : SpotBlock} {ratio : Value}

/-- Raising a ratio enters a block. -/
theorem raise (h : Watched node start none asked past session) (hb : block.base.IsId) (hi : block.ilk.IsId)
    (hread : node.spotIn session.spots block.base block.ilk = .ok block.previous)
    (ho : (node.respond session (block.raising ratio)).1 = .ok ()) :
    Watched node start (some block) (asked ++ [⟨block.raising ratio, ()⟩]) (past ++ [⟨session, block.raising ratio⟩])
      (node.respond session (block.raising ratio)).2 := by
  have hentered := SpotBlock.entered?_raising (Moment.outcome_of_ok ho) hread
  obtain ⟨pair, hpair, hspots⟩ := Node.spots_of_setSpotOracle_ok ho
  have hraised := h.raised.raise hb hi hread hpair ratio
  rw [← hspots] at hraised
  exact h.grant ho (openIn_snoc_enter hentered h.open_eq) hraised

/-- Putting the spot back leaves it, with all spots as they were at the start. -/
theorem restore (h : Watched node start (some block) asked past session) (hb : block.base.IsId)
    (hi : block.ilk.IsId) (ho : (node.respond session block.restoring).1 = .ok ()) :
    Watched node start none (asked ++ [⟨block.restoring, ()⟩]) (past ++ [⟨session, block.restoring⟩])
      (node.respond session block.restoring).2 := by
  obtain ⟨-, ⟨ratio, hnow⟩, -⟩ := h.raised
  have hentered := SpotBlock.entered?_restoring (Moment.outcome_of_ok ho) hnow
  obtain ⟨pair, hpair, hspots⟩ := Node.spots_of_setSpotOracle_ok ho
  have hraised := h.raised.restore hb hi hpair
  rw [← hspots] at hraised
  exact h.grant ho (openIn_snoc_leave hentered h.open_eq) hraised

end Blocks

end Watched

/-! ## Watched runs -/

/-- How the spots are left: as they were at the start, unless the last request was to put one back and was refused. -/
def Settled (node : Node) (start : Spots) (past : List Moment) (result : Except Failure Unit) (last : Session) : Prop :=
  (∀ base ilk, node.spotIn last.spots base ilk = node.spotIn start base ilk) ∨
    ∃ earlier m block failure, past = earlier ++ [m] ∧ openIn node earlier = some block ∧
      m.request = block.restoring ∧ m.outcome node = .error failure ∧ result = .error failure ∧
      RaisedOnly node start last.spots (some block)

/-- What entering a block exchanges. -/
def SpotBlock.entering (block : SpotBlock) (ratio : Value) : List Exchange :=
  [⟨block.reading, block.previous⟩, ⟨block.raising ratio, ()⟩]

namespace Watched

variable {node : Node} {start : Spots} {open? : Option SpotBlock} {asked : List Exchange} {past : List Moment}
  {session : Session} {law : List Moment → Moment → Prop}

/-- Outside of blocks the spots are as they were. -/
theorem settled (h : Watched node start none asked past session) (result : Except Failure Unit) :
    Settled node start past result session := Or.inl h.raised

/-- A request that sets no spot, in a watched run. -/
theorem through_ask {α : Type} {r : Request} {f : r.Answer → Script α}
    {goal : List Moment → Except Failure α → Session → Prop} (h : Watched node start open? asked past session)
    (hs : r.setsSpot = false) (hlaw : law past ⟨session, r⟩)
    (hok : ∀ a past' after, node.answer session r = .ok a →
      Watched node start open? (asked ++ [⟨r, a⟩]) past' after → Script.Through node law goal past' (f a) after)
    (herror : ∀ failure past' after, Watched node start open? asked past' after → goal past' (.error failure) after) :
    Script.Through node law goal past (Script.request r >>= f) session := by
  refine Script.through_ask hlaw (fun a ha => ?_) fun failure hf => ?_
  · exact hok a _ _ (Node.answer_of_respond ha) (h.ask_ok hs ha)
  · exact herror failure _ _ (h.refuse hf)

/-- And one with nothing after it. -/
theorem through_request {r : Request} (h : Watched node start open? asked past session) (hs : r.setsSpot = false)
    (hlaw : law past ⟨session, r⟩) :
    Script.Through node law
      (fun past' result after =>
        match result with
        | .ok a => Watched node start open? (asked ++ [⟨r, a⟩]) past' after
        | .error _ => Watched node start open? asked past' after)
      past (Script.request r) session := by
  refine Script.through_request hlaw ?_
  cases ha : (node.respond session r).1 with
  | ok a => exact h.ask_ok hs ha
  | error failure => exact h.refuse ha

/-- Entering a block, in a watched run. -/
theorem through_enter {cauldron timelock : Address} {base ilk ratio : Value}
    (h : Watched node start none asked past session) (hb : base.IsId) (hi : ilk.IsId)
    (hread : law past ⟨session, .spotOracles cauldron base ilk⟩)
    (hraise : ∀ previous past' now, node.spotIn start base ilk = .ok previous →
      Watched node start none (asked ++ [⟨.spotOracles cauldron base ilk, previous⟩]) past' now →
      law past' ⟨now, SpotBlock.raising { cauldron, timelock, base, ilk, previous } ratio⟩) :
    Script.Through node law
      (fun past' result after =>
        match result with
        | .ok block => block = { cauldron, timelock, base, ilk, previous := block.previous } ∧
            node.spotIn start base ilk = .ok block.previous ∧
            Watched node start (some block) (asked ++ block.entering ratio) past' after
        | .error _ => ∃ asked, Watched node start none asked past' after)
      past (SpotBlock.enter cauldron timelock base ilk ratio) session := by
  unfold SpotBlock.enter
  refine h.through_ask rfl hread (fun previous past' now ha hw => ?_) fun _ _ _ hw => ⟨_, hw⟩
  have hstart : node.spotIn start base ilk = .ok previous := by
    rw [← h.raised]
    exact ha
  have hnow : node.spotIn now.spots base ilk = .ok previous := by
    rw [hw.raised]
    exact hstart
  let block : SpotBlock := { cauldron, timelock, base, ilk, previous }
  refine Script.through_ask (r := block.raising ratio) (hraise previous past' now hstart hw) (fun _ ho => ?_)
    fun failure hf => ⟨_, hw.refuse hf⟩
  have hentered : Watched node start (some block) _ _ _ := hw.raise hb hi hnow ho
  rw [List.append_assoc] at hentered
  exact ⟨rfl, hstart, hentered.add _⟩

/-- Leaving a block, in a watched run. -/
theorem through_leave {block : SpotBlock} (h : Watched node start (some block) asked past session)
    (hb : block.base.IsId) (hi : block.ilk.IsId) (hlaw : law past ⟨session, block.restoring⟩) :
    Script.Through node law
      (fun past' left after =>
        match left with
        | .ok () => Watched node start none (asked ++ [⟨block.restoring, ()⟩]) past' after
        | .error failure => Settled node start past' (.error failure) after)
      past block.leave session := by
  unfold SpotBlock.leave
  refine Script.through_ask (r := block.restoring) hlaw (fun _ ho => ?_) fun failure hf => ?_
  · exact (h.restore hb hi ho).add _
  · have houtcome := Moment.outcome_of_error hf
    exact Or.inr ⟨past, _, block, failure, rfl, h.open_eq, rfl, houtcome, rfl, (h.refuse hf).raised⟩

/-- **A script under a raised ratio**, in a watched run. What the script is granted comes after the raising, and putting
the spot back is the last; the spots are left as they were at the start, unless that fails. `Whole` tells what the script
is granted if it ends well. -/
theorem through_withSpotRatio {cauldron timelock : Address} {base ilk ratio : Value} {body : Script Unit}
    (Whole : List Exchange → Prop) (h : Watched node start none asked past session) (hb : base.IsId) (hi : ilk.IsId)
    (hread : law past ⟨session, .spotOracles cauldron base ilk⟩)
    (hraise : ∀ previous past' now, node.spotIn start base ilk = .ok previous →
      Watched node start none (asked ++ [⟨.spotOracles cauldron base ilk, previous⟩]) past' now →
      law past' ⟨now, SpotBlock.raising { cauldron, timelock, base, ilk, previous } ratio⟩)
    (hbody : ∀ block past' now, block = { cauldron, timelock, base, ilk, previous := block.previous } →
      node.spotIn start base ilk = .ok block.previous →
      Watched node start (some block) (asked ++ block.entering ratio) past' now →
      Script.Through node law
        (fun past' result after => law past' ⟨after, block.restoring⟩ ∧ ∃ inner,
          Watched node start (some block) (asked ++ block.entering ratio ++ inner) past' after ∧
            (result = .ok () → Whole inner))
        past' body now) :
    Script.Through node law
      (fun past' result after =>
        match result with
        | .ok () => ∃ (block : SpotBlock) (inner : List Exchange),
            block = { cauldron, timelock, base, ilk, previous := block.previous } ∧
            node.spotIn start base ilk = .ok block.previous ∧ Whole inner ∧
            Watched node start none (asked ++ block.entering ratio ++ inner ++ [⟨block.restoring, ()⟩]) past' after
        | .error failure => Settled node start past' (.error failure) after)
      past (Script.withSpotRatio cauldron timelock base ilk ratio body) session := by
  unfold Script.withSpotRatio
  rw [Script.through_bind]
  refine (h.through_enter hb hi hread hraise).imp fun past₁ entered now hentered => ?_
  cases entered with
  | error failure =>
    obtain ⟨asked', hw⟩ := hentered
    exact hw.settled _
  | ok block =>
    obtain ⟨hblock, hstart, hw⟩ := hentered
    have hids : block.base.IsId ∧ block.ilk.IsId := by
      rw [hblock]
      exact ⟨hb, hi⟩
    show Script.Through node law _ past₁ (body.ensuring block.leave) now
    rw [Script.through_ensuring]
    refine (hbody block past₁ now hblock hstart hw).imp fun past₂ result left hended => ?_
    obtain ⟨hlaw, inner, hw, hwhole⟩ := hended
    refine (hw.through_leave hids.1 hids.2 hlaw).imp fun past₃ left after hleft => ?_
    cases left with
    | error failure => exact hleft
    | ok _ =>
      cases result with
      | error failure => exact hleft.settled _
      | ok _ => exact ⟨block, inner, hblock, hstart, hwhole rfl, hleft⟩

end Watched

end LiquidationDrill
