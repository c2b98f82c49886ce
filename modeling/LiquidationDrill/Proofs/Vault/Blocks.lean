import LiquidationDrill.Proofs.Node.Spots
import LiquidationDrill.Vault.SpotRatio

/-!
# Which block is open

A block is open from the moment in which its ratio is raised to the next one that sets a spot (`openIn`). What entering
and leaving do is told once, with all that can go wrong (`enter_run`, `leave_run`).
-/

namespace LiquidationDrill

open Mainnet (Address)

/-! ## Blocks in a run -/

namespace SpotBlock

/-- The request that reads the spot of a block before it is entered. -/
def reading (block : SpotBlock) : Request := .spotOracles block.cauldron block.base block.ilk

/-- The request that enters a block: the pair keeps its oracle. -/
def raising (block : SpotBlock) (ratio : Value) : Request :=
  .setSpotOracle block.cauldron block.base block.ilk { block.previous with ratio } block.timelock

/-- The request that leaves a block. -/
def restoring (block : SpotBlock) : Request :=
  .setSpotOracle block.cauldron block.base block.ilk block.previous block.timelock

/-- What is told when a block is left. -/
def restored (block : SpotBlock) : Notice :=
  .info ("spot ratio " ++ pairText block.base block.ilk ++ " restored to " ++ block.previous.ratio.display)

end SpotBlock

/-- The block that a moment enters if none is open: the pair that is set, with the spot that it had until then. -/
def Moment.entered? (node : Node) (m : Moment) : Option SpotBlock :=
  match m.request, m.outcome node with
  | .setSpotOracle cauldron base ilk _ timelock, .ok () =>
    match node.spotIn m.session.spots base ilk with
    | .ok previous => some { cauldron, timelock, base, ilk, previous }
    | .error _ => none
  | _, _ => none

/-- The open block after one more moment: a spot that is set enters a block, or leaves the open one. -/
def openAfter (node : Node) (open? : Option SpotBlock) (m : Moment) : Option SpotBlock :=
  match m.entered? node, open? with
  | none, _ => open?
  | some block, none => some block
  | some _, some _ => none

/-- The block that is open after some moments. -/
def openIn (node : Node) (past : List Moment) : Option SpotBlock := past.foldl (openAfter node) none

section OpenIn

variable {node : Node} {past : List Moment} {m : Moment} {block other : SpotBlock}

theorem openIn_snoc (node : Node) (past : List Moment) (m : Moment) :
    openIn node (past ++ [m]) = openAfter node (openIn node past) m := by
  rw [openIn, List.foldl_append]
  rfl

/-- A moment that enters no block leaves none. -/
theorem openIn_snoc_of_none (h : m.entered? node = none) : openIn node (past ++ [m]) = openIn node past := by
  simp only [openIn_snoc, openAfter, h]

theorem openIn_snoc_enter (h : m.entered? node = some block) (hp : openIn node past = none) :
    openIn node (past ++ [m]) = some block := by
  simp only [openIn_snoc, openAfter, h, hp]

theorem openIn_snoc_leave (h : m.entered? node = some other) (hp : openIn node past = some block) :
    openIn node (past ++ [m]) = none := by
  simp only [openIn_snoc, openAfter, h, hp]

/-- A request that sets no spot enters no block. -/
theorem Moment.entered?_of_not_setsSpot (h : m.request.setsSpot = false) : m.entered? node = none := by
  obtain ⟨session, request⟩ := m
  cases request <;> first | rfl | cases h

/-- A request that fails enters no block. -/
theorem Moment.entered?_of_error {failure : Failure} (h : m.outcome node = .error failure) :
    m.entered? node = none := by
  unfold Moment.entered?
  rw [h]
  split
  · next he => cases he
  · rfl

end OpenIn

/-! ## Entering and leaving -/

namespace SpotBlock

variable {node : Node}

/-- The moments between two sessions enter a block: its spot is read, and its ratio is raised. -/
structure Entering (node : Node) (block : SpotBlock) (ratio : Value) (before : Session) (ms : List Moment)
    (after : Session) : Prop where
  read : node.spotIn before.spots block.base block.ilk = .ok block.previous
  moments : ∃ session : Session, session.spots = before.spots ∧
    ms = [⟨before, block.reading⟩, ⟨session, block.raising ratio⟩] ∧
      Moment.outcome node ⟨session, block.raising ratio⟩ = .ok ()
  spots : ∃ pair, Node.pairOf block.base block.ilk = .ok pair ∧
    after.spots = before.spots.put pair ⟨block.base, block.ilk, { block.previous with ratio }⟩

/-- The moments between two sessions try to enter a block, but do not: reading fails, or raising. -/
structure NotEntering (node : Node) (cauldron timelock : Address) (base ilk ratio : Value) (before : Session)
    (ms : List Moment) (after : Session) : Prop where
  moments : ms = [⟨before, .spotOracles cauldron base ilk⟩] ∨
    ∃ (session : Session) (spot : Spot) (failure : Failure), session.spots = before.spots ∧
      ms = [⟨before, .spotOracles cauldron base ilk⟩,
        ⟨session, .setSpotOracle cauldron base ilk { spot with ratio } timelock⟩] ∧
      Moment.outcome node ⟨session, .setSpotOracle cauldron base ilk { spot with ratio } timelock⟩ = .error failure
  spots : after.spots = before.spots

/-- A raised ratio enters the block that the reading told. -/
theorem entered?_raising {block : SpotBlock} {ratio : Value} {session : Session}
    (ho : Moment.outcome node ⟨session, block.raising ratio⟩ = .ok ())
    (hs : node.spotIn session.spots block.base block.ilk = .ok block.previous) :
    Moment.entered? node ⟨session, block.raising ratio⟩ = some block := by
  unfold Moment.entered?
  rw [ho]
  dsimp only [raising]
  rw [hs]

/-- Putting a spot back enters a block as well, or leaves the open one. -/
theorem entered?_restoring {block : SpotBlock} {spot : Spot} {session : Session}
    (ho : Moment.outcome node ⟨session, block.restoring⟩ = .ok ())
    (hs : node.spotIn session.spots block.base block.ilk = .ok spot) :
    Moment.entered? node ⟨session, block.restoring⟩ = some { block with previous := spot } := by
  unfold Moment.entered?
  rw [ho]
  dsimp only [restoring]
  rw [hs]

/-- **Entering a block** enters it, or fails and leaves all spots as they are. -/
theorem enter_run (node : Node) (cauldron timelock : Address) (base ilk ratio : Value) (session : Session) :
    match ((enter cauldron timelock base ilk ratio).run node session).1 with
    | .ok block => block.cauldron = cauldron ∧ block.timelock = timelock ∧ block.base = base ∧ block.ilk = ilk ∧
        Entering node block ratio session ((enter cauldron timelock base ilk ratio).moments node session)
          ((enter cauldron timelock base ilk ratio).run node session).2
    | .error _ =>
        NotEntering node cauldron timelock base ilk ratio session
          ((enter cauldron timelock base ilk ratio).moments node session)
          ((enter cauldron timelock base ilk ratio).run node session).2 := by
  have hspots : (node.respond session (.spotOracles cauldron base ilk)).2.spots = session.spots := by
    rw [Node.respond_of_not_setsSpot rfl]
    rfl
  have h : Script.Through node (fun _ _ => True)
      (fun past' result after =>
        match result with
        | .ok block => block.cauldron = cauldron ∧ block.timelock = timelock ∧ block.base = base ∧ block.ilk = ilk ∧
            Entering node block ratio session past' after
        | .error _ => NotEntering node cauldron timelock base ilk ratio session past' after)
      [] (enter cauldron timelock base ilk ratio) session := by
    unfold enter
    refine Script.through_ask trivial (fun previous ha => ?_) fun failure _ => ⟨Or.inl rfl, hspots⟩
    have hanswer : node.spotIn session.spots base ilk = .ok previous := Node.answer_of_respond ha
    generalize (node.respond session (.spotOracles cauldron base ilk)).2 = now at hspots
    refine Script.through_ask trivial (fun _ ho => ?_) fun failure ho => ?_
    · obtain ⟨pair, hpair, hafter⟩ := Node.spots_of_setSpotOracle_ok ho
      refine ⟨rfl, rfl, rfl, rfl, ⟨hanswer, ⟨now, hspots, rfl, Moment.outcome_of_ok ho⟩, pair, hpair, ?_⟩⟩
      show (node.respond now _).2.spots = _
      rw [hafter, hspots]
    · have hafter := Node.spots_of_error ho
      refine ⟨Or.inr ⟨now, previous, failure, hspots, rfl, Moment.outcome_of_error ho⟩, ?_⟩
      rw [hafter, hspots]
  exact h.ends

/-- **Leaving a block** puts its spot back, or fails and leaves all spots as they are. -/
theorem leave_run (node : Node) (block : SpotBlock) (session : Session) :
    block.leave.moments node session = [⟨session, block.restoring⟩] ∧
      Moment.outcome node ⟨session, block.restoring⟩ = (block.leave.run node session).1 ∧
      match (block.leave.run node session).1 with
      | .ok () => ∃ pair, Node.pairOf block.base block.ilk = .ok pair ∧
          (block.leave.run node session).2.spots =
            session.spots.put pair ⟨block.base, block.ilk, block.previous⟩
      | .error _ => (block.leave.run node session).2.spots = session.spots := by
  have h : Script.Through node (fun _ _ => True)
      (fun past' result after =>
        past' = [⟨session, block.restoring⟩] ∧ Moment.outcome node ⟨session, block.restoring⟩ = result ∧
          match result with
          | .ok () => ∃ pair, Node.pairOf block.base block.ilk = .ok pair ∧
              after.spots = session.spots.put pair ⟨block.base, block.ilk, block.previous⟩
          | .error _ => after.spots = session.spots)
      [] block.leave session := by
    unfold leave
    refine Script.through_ask (r := block.restoring) trivial (fun _ ho => ?_) fun failure ho => ?_
    · obtain ⟨pair, hpair, hafter⟩ := Node.spots_of_setSpotOracle_ok ho
      exact ⟨rfl, Moment.outcome_of_ok ho, pair, hpair, hafter⟩
    · exact ⟨rfl, Moment.outcome_of_error ho, Node.spots_of_error ho⟩
  exact h.ends

/-- A block whose leaving is granted is left, and this is told. -/
theorem run_leave {block : SpotBlock} {session : Session} (h : (node.respond session block.restoring).1 = .ok ()) :
    block.leave.run node session = (.ok (), (node.respond session block.restoring).2.add (.note block.restored)) := by
  have hrequest : (Script.request block.restoring).run node session =
      (.ok (), (node.respond session block.restoring).2) := by
    rw [Script.run_request, ← h]
  exact (Script.then_of_ok hrequest).1

end SpotBlock

end LiquidationDrill
