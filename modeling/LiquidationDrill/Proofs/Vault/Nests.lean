import LiquidationDrill.Proofs.Vault.Blocks

/-!
# Blocks within blocks

A nest is a body in any number of blocks (`Nest`). Its way in enters the blocks and runs the body but leaves nothing
(`Nest.inward`); running the nest leaves them again. `Unwound` says how: which blocks are left in which order, what comes
out, and which spots there are in the end. A body leaves nothing (`unwinds_of_quiet`), and one more block is left after
the blocks inside of it (`Unwound.block`), so that every nest is unwound (`script_unwinds`). Its blocks are entered in
their order (`inward_entersInOrder`).
-/

namespace LiquidationDrill

open Mainnet (Address)

/-- A body in blocks, the outermost first. With each block stands what is done before it and after it, inside of the
block around it. -/
inductive Nest where
  | body (script : Script Unit)
  | block (before : Script Unit) (base ilk ratio : Value) (inner : Nest) (after : Script Unit)

namespace Nest

/-- The script of a nest. -/
def script (cauldron timelock : Address) : Nest → Script Unit
  | body script => script
  | block before base ilk ratio inner after => do
    before
    Script.withSpotRatio cauldron timelock base ilk ratio (inner.script cauldron timelock)
    after

/-- The way into a nest, up to the end of its body. -/
def inward (cauldron timelock : Address) : Nest → Script Unit
  | body script => script
  | block before base ilk ratio inner _ => do
    before
    let _ ← SpotBlock.enter cauldron timelock base ilk ratio
    inner.inward cauldron timelock

/-- The pairs of the blocks, the outermost first. -/
def pairs : Nest → List (Value × Value)
  | body _ => []
  | block _ base ilk _ inner _ => (base, ilk) :: inner.pairs

/-- Only the blocks set spots. After an inner block is left nothing fails but the leaving of the others. -/
def Proper (node : Node) : Nest → Prop
  | body script => script.Quiet
  | block before _ _ _ inner after =>
    before.Quiet ∧ inner.Proper node ∧ after.Quiet ∧ ∀ session, (after.run node session).1 = .ok ()

end Nest

/-! ## What moments show of blocks -/

/-- The blocks that moments enter, in order. -/
def enteredBlocks (node : Node) (ms : List Moment) : List SpotBlock := ms.filterMap (Moment.entered? node)

/-- The requests that set spots, in order, and how the node took them. -/
def setAttempts (node : Node) (ms : List Moment) : List (Request × Except Failure Unit) :=
  (ms.filter fun m => m.request.setsSpot).map fun m => (m.request, m.outcome node)

/-- A block that is left, and how the node took the request that leaves it. -/
abbrev Leaving := SpotBlock × Except Failure Unit

/-- Why the last one fails of those that fail. -/
def lastFailure? (leavings : List Leaving) : Option Failure :=
  (leavings.filterMap fun (_, outcome) =>
    match outcome with
    | .ok () => none
    | .error failure => some failure).getLast?

section Shown

variable {node : Node} {ms : List Moment}

theorem enteredBlocks_append (node : Node) (ms others : List Moment) :
    enteredBlocks node (ms ++ others) = enteredBlocks node ms ++ enteredBlocks node others := List.filterMap_append

theorem setAttempts_append (node : Node) (ms others : List Moment) :
    setAttempts node (ms ++ others) = setAttempts node ms ++ setAttempts node others := by
  rw [setAttempts, List.filter_append, List.map_append]
  rfl

/-- Moments that set no spot enter no block. -/
theorem enteredBlocks_of_quiet (h : ∀ m ∈ ms, m.request.setsSpot = false) : enteredBlocks node ms = [] :=
  List.filterMap_eq_nil_iff.mpr fun m hm => Moment.entered?_of_not_setsSpot (h m hm)

theorem setAttempts_of_quiet (h : ∀ m ∈ ms, m.request.setsSpot = false) : setAttempts node ms = [] := by
  rw [setAttempts, List.filter_eq_nil_iff.mpr, List.map_nil]
  intro m hm
  rw [h m hm]
  decide

/-- The failure of the block that is left last counts, if there is one. -/
theorem lastFailure?_snoc (leavings : List Leaving) (block : SpotBlock) (outcome : Except Failure Unit) :
    lastFailure? (leavings ++ [(block, outcome)]) =
      match outcome with
      | .ok () => lastFailure? leavings
      | .error failure => some failure := by
  cases outcome <;> simp [lastFailure?, List.filterMap_append]

namespace SpotBlock

variable {block : SpotBlock} {ratio : Value} {before after : Session}

theorem Entering.enteredBlocks_eq (h : Entering node block ratio before ms after) : enteredBlocks node ms = [block] := by
  obtain ⟨session, hs, rfl, ho⟩ := h.moments
  have hread : Moment.entered? node ⟨before, block.reading⟩ = none := Moment.entered?_of_not_setsSpot rfl
  have hraise : Moment.entered? node ⟨session, block.raising ratio⟩ = some block :=
    entered?_raising ho (hs ▸ h.read)
  simp [enteredBlocks, hread, hraise]

theorem NotEntering.enteredBlocks_eq {cauldron timelock : Address} {base ilk : Value}
    (h : NotEntering node cauldron timelock base ilk ratio before ms after) : enteredBlocks node ms = [] := by
  have hread : Moment.entered? node ⟨before, .spotOracles cauldron base ilk⟩ = none :=
    Moment.entered?_of_not_setsSpot rfl
  rcases h.moments with rfl | ⟨session, spot, failure, -, rfl, ho⟩
  · simp [enteredBlocks, hread]
  · simp [enteredBlocks, hread, Moment.entered?_of_error ho]

end SpotBlock

end Shown

/-! ## Leaving a nest -/

/-- How a run leaves the blocks that the way in entered. `own` is how the way in ends, and `result` what comes out. -/
structure Unwound (node : Node) (start : Spots) (way all : List Moment) (own result : Except Failure Unit)
    (last : Spots) (leavings : List Leaving) : Prop where
  /-- Every block that was entered is left once, the innermost one first. -/
  blocks : leavings.map Prod.fst = (enteredBlocks node way).reverse
  /-- It is left with the spot that it had, and nothing else sets a spot. -/
  attempts : setAttempts node all = setAttempts node way ++ leavings.map fun (block, outcome) => (block.restoring, outcome)
  /-- The last leaving that fails counts, and else the end of the way in. -/
  result : result = (lastFailure? leavings).elim own .error
  /-- A pair has its old spot again if the outermost block on it is left, whatever happened to the inner ones. -/
  outermost : ∀ inner block outer, leavings = inner ++ (block, .ok ()) :: outer →
    (∀ other ∈ outer, Node.pairOf other.1.base other.1.ilk ≠ Node.pairOf block.base block.ilk) →
    node.spotIn start block.base block.ilk = .ok block.previous ∧
      ∀ base ilk, Node.pairOf base ilk = Node.pairOf block.base block.ilk →
        node.spotIn last base ilk = .ok block.previous
  /-- The other pairs are untouched. -/
  untouched : ∀ base ilk,
    (∀ block ∈ enteredBlocks node way, Node.pairOf block.base block.ilk ≠ Node.pairOf base ilk) →
    node.spotIn last base ilk = node.spotIn start base ilk

section Unwound

variable {node : Node} {start last : Spots} {way all : List Moment} {own result : Except Failure Unit}
  {leavings : List Leaving}

/-- Without blocks there is nothing to leave. -/
theorem unwound_of_none (h : enteredBlocks node way = []) : Unwound node start way way own own start [] where
  blocks := by rw [h]; rfl
  attempts := (List.append_nil _).symm
  result := rfl
  outermost inner block outer he := by simp at he
  untouched _ _ _ := rfl

/-- What happens around a nest without setting a spot changes nothing. -/
theorem Unwound.around (h : Unwound node start way all own result last leavings) {before after : List Moment}
    (hb : ∀ m ∈ before, m.request.setsSpot = false) (ha : ∀ m ∈ after, m.request.setsSpot = false) :
    Unwound node start (before ++ way) (before ++ all ++ after) own result last leavings := by
  have hway : enteredBlocks node (before ++ way) = enteredBlocks node way := by
    rw [enteredBlocks_append, enteredBlocks_of_quiet hb, List.nil_append]
  refine ⟨?_, ?_, h.result, h.outermost, ?_⟩
  · rw [hway]
    exact h.blocks
  · rw [setAttempts_append, setAttempts_append, setAttempts_append, setAttempts_of_quiet hb, setAttempts_of_quiet ha]
    simpa using h.attempts
  · rw [hway]
    exact h.untouched

/-- **One more block** around a nest is left after all the others. -/
theorem Unwound.block {block : SpotBlock} {ratio : Value} {before entered left : Session} {ms : List Moment}
    {outcome : Except Failure Unit} {after : Spots} (he : SpotBlock.Entering node block ratio before ms entered)
    (hl : match outcome with
      | .ok () => ∃ pair, Node.pairOf block.base block.ilk = .ok pair ∧
          after = left.spots.put pair ⟨block.base, block.ilk, block.previous⟩
      | .error _ => after = left.spots)
    (h : Unwound node entered.spots way all own result left.spots leavings)
    (ho : Moment.outcome node ⟨left, block.restoring⟩ = outcome) :
    Unwound node before.spots (ms ++ way) (ms ++ all ++ [⟨left, block.restoring⟩]) own (Script.endOf result outcome)
      after (leavings ++ [(block, outcome)]) := by
  obtain ⟨pair, hpair, hspots⟩ := he.spots
  have hentered : enteredBlocks node (ms ++ way) = block :: enteredBlocks node way := by
    rw [enteredBlocks_append, he.enteredBlocks_eq]
    rfl
  -- the pairs of other blocks are answered alike before and after this one is entered, and left
  have hother : ∀ base ilk, Node.pairOf base ilk ≠ Node.pairOf block.base block.ilk →
      node.spotIn entered.spots base ilk = node.spotIn before.spots base ilk ∧
        node.spotIn after base ilk = node.spotIn left.spots base ilk := by
    intro base ilk hne
    rw [hpair] at hne
    refine ⟨by rw [hspots, Node.spotIn_put_of_ne hne], ?_⟩
    cases outcome with
    | ok _ =>
      obtain ⟨pair', hpair', rfl⟩ := hl
      obtain rfl : pair = pair' := Except.ok.inj (hpair ▸ hpair')
      exact Node.spotIn_put_of_ne hne
    | error failure => rw [hl]
  refine ⟨?_, ?_, ?_, ?_, ?_⟩
  · rw [hentered, List.map_append, h.blocks, List.reverse_cons]
    rfl
  · have hleft : setAttempts node [⟨left, block.restoring⟩] = [(block.restoring, outcome)] := by
      rw [← ho]
      rfl
    rw [setAttempts_append, setAttempts_append, setAttempts_append, h.attempts, hleft, List.map_append]
    simp
  · rw [lastFailure?_snoc]
    cases outcome with
    | ok _ => exact h.result
    | error failure => rfl
  · intro inner other outer hsplit hout
    -- either this block is the outermost one on its pair, or a block inside of it is, on another pair
    rcases List.eq_nil_or_concat outer with rfl | ⟨outer, final, rfl⟩
    · obtain ⟨-, hfinal⟩ := List.append_inj' hsplit rfl
      obtain ⟨rfl, rfl⟩ := Prod.mk.inj (List.singleton_inj.mp hfinal)
      refine ⟨he.read, fun base ilk hp => ?_⟩
      obtain ⟨pair', hpair', rfl⟩ := hl
      exact Node.spotIn_put_self (hp.trans hpair')
    · rw [List.concat_eq_append] at hsplit hout
      rw [← List.cons_append, ← List.append_assoc] at hsplit
      obtain ⟨hinner, hfinal⟩ := List.append_inj' hsplit rfl
      obtain rfl : (block, outcome) = final := List.singleton_inj.mp hfinal
      obtain ⟨hstart, hlast⟩ := h.outermost inner other outer hinner fun r hr => hout r (List.mem_append_left _ hr)
      have hne := hout (block, outcome) (List.mem_append_right _ List.mem_cons_self)
      refine ⟨by rw [← (hother _ _ hne.symm).1, hstart], fun base ilk hp => ?_⟩
      rw [(hother base ilk (hp ▸ hne.symm)).2, hlast base ilk hp]
  · intro base ilk hne
    rw [hentered] at hne
    have hfirst := hne block List.mem_cons_self
    have hrest := h.untouched base ilk fun other ho => hne other (List.mem_cons_of_mem _ ho)
    rw [(hother base ilk hfirst.symm).2, hrest, (hother base ilk hfirst.symm).1]

end Unwound

/-! ## Running a nest -/

/-- A run of the whole leaves the blocks that a run of the way in enters. -/
def Unwinds (node : Node) (way all : Script Unit) (start : Session) : Prop :=
  ∃ leavings, Unwound node start.spots (way.moments node start) (all.moments node start) (way.run node start).1
    (all.run node start).1 (all.run node start).2.spots leavings

section Runs

variable {node : Node} {way all : Script Unit} {session : Session}

/-- A quiet script has nothing to leave. -/
theorem unwinds_of_quiet {x : Script Unit} (h : x.Quiet) (session : Session) : Unwinds node x x session := by
  have hnone : enteredBlocks node (x.moments node session) = [] :=
    enteredBlocks_of_quiet fun m hm => h.setsSpot_of_mem hm
  refine ⟨[], ?_⟩
  rw [h.spots_run session]
  exact unwound_of_none hnone

/-- What is done before a block changes nothing. -/
theorem unwinds_before {before : Script Unit} (hb : before.Quiet) (h : ∀ session, Unwinds node way all session) :
    Unwinds node (before >>= fun _ => way) (before >>= fun _ => all) session := by
  have hquiet : ∀ m ∈ before.moments node session, m.request.setsSpot = false := fun m hm => hb.setsSpot_of_mem hm
  have hspots : (before.run node session).2.spots = session.spots := hb.spots_run session
  unfold Unwinds
  rcases hrun : before.run node session with ⟨failure | ⟨⟩, outside⟩
  · rw [hrun] at hspots
    obtain ⟨hway, hwayMoments⟩ := Script.then_of_error (f := fun _ => way) hrun
    obtain ⟨hall, hallMoments⟩ := Script.then_of_error (f := fun _ => all) hrun
    rw [hway, hall, hwayMoments, hallMoments]
    dsimp only at hspots ⊢
    rw [hspots]
    exact ⟨[], unwound_of_none (enteredBlocks_of_quiet hquiet)⟩
  · rw [hrun] at hspots
    obtain ⟨hway, hwayMoments⟩ := Script.then_of_ok (f := fun _ => way) hrun
    obtain ⟨hall, hallMoments⟩ := Script.then_of_ok (f := fun _ => all) hrun
    obtain ⟨leavings, hl⟩ := h outside
    rw [hway, hall, hwayMoments, hallMoments, ← hspots]
    refine ⟨leavings, ?_⟩
    have := hl.around hquiet fun m (hm : m ∈ []) => absurd hm List.not_mem_nil
    rwa [List.append_nil] at this

/-- And what is done after it neither, if it does not fail. -/
theorem Unwinds.after {after : Script Unit} (ha : after.Quiet) (hends : ∀ session, (after.run node session).1 = .ok ())
    (h : Unwinds node way all session) : Unwinds node way (all >>= fun _ => after) session := by
  obtain ⟨leavings, hl⟩ := h
  refine ⟨leavings, ?_⟩
  rcases hrun : all.run node session with ⟨failure | ⟨⟩, left⟩
  · obtain ⟨hall, hallMoments⟩ := Script.then_of_error (f := fun _ => after) hrun
    rw [hrun] at hl
    rwa [hall, hallMoments]
  · obtain ⟨hall, hallMoments⟩ := Script.then_of_ok (f := fun _ => after) hrun
    rw [hrun] at hl
    rw [hall, hallMoments, hends left, ha.spots_run left]
    exact hl.around (fun m (hm : m ∈ []) => absurd hm List.not_mem_nil) fun m hm => ha.setsSpot_of_mem hm

/-- One more block around a script. -/
theorem unwinds_withSpotRatio (cauldron timelock : Address) (base ilk ratio : Value)
    (h : ∀ session, Unwinds node way all session) :
    Unwinds node (SpotBlock.enter cauldron timelock base ilk ratio >>= fun _ => way)
      (Script.withSpotRatio cauldron timelock base ilk ratio all) session := by
  have henter := SpotBlock.enter_run node cauldron timelock base ilk ratio session
  unfold Unwinds Script.withSpotRatio
  rcases hrun : (SpotBlock.enter cauldron timelock base ilk ratio).run node session with ⟨failure | block, entered⟩
  · rw [hrun] at henter
    obtain ⟨hway, hwayMoments⟩ := Script.then_of_error (f := fun _ => way) hrun
    obtain ⟨hall, hallMoments⟩ := Script.then_of_error (f := fun block => all.ensuring block.leave) hrun
    have hspots : entered.spots = session.spots := henter.spots
    rw [hway, hall, hwayMoments, hallMoments]
    dsimp only
    rw [hspots]
    exact ⟨[], unwound_of_none henter.enteredBlocks_eq⟩
  · rw [hrun] at henter
    obtain ⟨-, -, -, -, henter⟩ := henter
    obtain ⟨hway, hwayMoments⟩ := Script.then_of_ok (f := fun _ => way) hrun
    obtain ⟨hall, hallMoments⟩ := Script.then_of_ok (f := fun block => all.ensuring block.leave) hrun
    obtain ⟨leavings, hl⟩ := h entered
    obtain ⟨hleaveMoments, hleave, hleaveSpots⟩ := SpotBlock.leave_run node block (all.run node entered).2
    have hensuring : (all.ensuring block.leave).run node entered =
        (Script.endOf (all.run node entered).1 (block.leave.run node (all.run node entered).2).1,
          (block.leave.run node (all.run node entered).2).2) := by
      rw [Script.run_ensuring]
      rcases block.leave.run node (all.run node entered).2 with ⟨_ | _, after⟩ <;> rfl
    rw [hway, hall, hwayMoments, hallMoments, hensuring, Script.moments_ensuring, hleaveMoments, ← List.append_assoc]
    refine ⟨leavings ++ [(block, (block.leave.run node (all.run node entered).2).1)], ?_⟩
    exact Unwound.block henter hleaveSpots hl hleave

end Runs

/-! ## The way in -/

/-- A run enters blocks on these pairs in their order, and on all of them if it ends well. -/
def EntersInOrder (node : Node) (way : Script Unit) (pairs : List (Value × Value)) (start : Session) : Prop :=
  (enteredBlocks node (way.moments node start)).map (fun block => (block.base, block.ilk)) <+: pairs ∧
    ((way.run node start).1 = .ok () →
      (enteredBlocks node (way.moments node start)).map (fun block => (block.base, block.ilk)) = pairs)

section WayIn

variable {node : Node} {way : Script Unit} {pairs : List (Value × Value)} {session : Session}

theorem entersInOrder_before {before : Script Unit} (hb : before.Quiet)
    (h : ∀ session, EntersInOrder node way pairs session) :
    EntersInOrder node (before >>= fun _ => way) pairs session := by
  have hquiet : enteredBlocks node (before.moments node session) = [] :=
    enteredBlocks_of_quiet fun m hm => hb.setsSpot_of_mem hm
  unfold EntersInOrder
  rcases hrun : before.run node session with ⟨failure | ⟨⟩, outside⟩
  · obtain ⟨hway, hwayMoments⟩ := Script.then_of_error (f := fun _ => way) hrun
    rw [hway, hwayMoments, hquiet]
    refine ⟨List.nil_prefix, fun he => ?_⟩
    cases he
  · obtain ⟨hway, hwayMoments⟩ := Script.then_of_ok (f := fun _ => way) hrun
    rw [hway, hwayMoments, enteredBlocks_append, hquiet, List.nil_append]
    exact h outside

theorem entersInOrder_enter (cauldron timelock : Address) (base ilk ratio : Value)
    (h : ∀ session, EntersInOrder node way pairs session) :
    EntersInOrder node (SpotBlock.enter cauldron timelock base ilk ratio >>= fun _ => way) ((base, ilk) :: pairs)
      session := by
  have henter := SpotBlock.enter_run node cauldron timelock base ilk ratio session
  unfold EntersInOrder
  rcases hrun : (SpotBlock.enter cauldron timelock base ilk ratio).run node session with ⟨failure | block, entered⟩
  · rw [hrun] at henter
    obtain ⟨hway, hwayMoments⟩ := Script.then_of_error (f := fun _ => way) hrun
    rw [hway, hwayMoments, henter.enteredBlocks_eq]
    refine ⟨List.nil_prefix, fun he => ?_⟩
    cases he
  · rw [hrun] at henter
    obtain ⟨-, -, rfl, rfl, henter⟩ := henter
    obtain ⟨hway, hwayMoments⟩ := Script.then_of_ok (f := fun _ => way) hrun
    obtain ⟨hinOrder, hall⟩ := h entered
    rw [hway, hwayMoments, enteredBlocks_append, henter.enteredBlocks_eq, List.singleton_append, List.map_cons]
    refine ⟨(List.prefix_cons_inj _).mpr hinOrder, fun hok => ?_⟩
    rw [hall hok]

end WayIn

/-- The way into a nest enters its blocks. -/
theorem inward_entersInOrder (node : Node) (cauldron timelock : Address) {nest : Nest} (h : nest.Proper node)
    (start : Session) : EntersInOrder node (nest.inward cauldron timelock) nest.pairs start := by
  induction nest generalizing start with
  | body script =>
    have hnone : enteredBlocks node (script.moments node start) = [] :=
      enteredBlocks_of_quiet fun m hm => h.setsSpot_of_mem hm
    unfold EntersInOrder Nest.inward Nest.pairs
    rw [hnone]
    exact ⟨List.prefix_rfl, fun _ => rfl⟩
  | block before base ilk ratio inner after ih =>
    obtain ⟨hbefore, hinner, -, -⟩ := h
    refine entersInOrder_before hbefore fun outside => ?_
    exact entersInOrder_enter cauldron timelock base ilk ratio fun entered => ih hinner entered

/-- And running the nest leaves those again. -/
theorem script_unwinds (node : Node) (cauldron timelock : Address) {nest : Nest} (h : nest.Proper node)
    (start : Session) : Unwinds node (nest.inward cauldron timelock) (nest.script cauldron timelock) start := by
  induction nest generalizing start with
  | body script => exact unwinds_of_quiet h start
  | block before base ilk ratio inner after ih =>
    obtain ⟨hbefore, hinner, hafter, hends⟩ := h
    refine unwinds_before hbefore fun outside => ?_
    refine Unwinds.after hafter hends ?_
    exact unwinds_withSpotRatio cauldron timelock base ilk ratio fun entered => ih hinner entered

/-- **Every nest is unwound.** The way in enters its blocks in order. However the nest is left then, each block that was
entered is left once, the innermost one first, with the spot that it had; the last leaving that fails decides what comes
out, and else the way in; and the outermost block on a pair, if it is left, gives the pair its old spot back. -/
theorem nest_unwinds (node : Node) (cauldron timelock : Address) (nest : Nest) (h : nest.Proper node) (start : Session) :
    EntersInOrder node (nest.inward cauldron timelock) nest.pairs start ∧
      Unwinds node (nest.inward cauldron timelock) (nest.script cauldron timelock) start :=
  ⟨inward_entersInOrder node cauldron timelock h start, script_unwinds node cauldron timelock h start⟩

/-- Two blocks on one pair, around a body that fails. -/
def raisedTwice : Nest :=
  .block (.done ()) (.string "DAI") (.string "ETH") (.int 2000000)
    (.block (.done ()) (.string "DAI") (.string "ETH") (.int 3000000) (.body (.fail .noVaultBuilt)) (.done ()))
    (.done ())

/-- The inner block on a pair cannot be left: the outer one gives the pair its old spot back all the same. -/
theorem raisedTwice_unwinds :
    raisedTwice.Proper (Node.steady.refusing ⟨"setSpotOracle", 3, "reverted"⟩) ∧
      (EntersInOrder (Node.steady.refusing ⟨"setSpotOracle", 3, "reverted"⟩) (raisedTwice.inward [] [])
          raisedTwice.pairs {} ∧
        Unwinds (Node.steady.refusing ⟨"setSpotOracle", 3, "reverted"⟩) (raisedTwice.inward [] [])
          (raisedTwice.script [] []) {}) ∧
      ((raisedTwice.script [] []).run (Node.steady.refusing ⟨"setSpotOracle", 3, "reverted"⟩) {}).1 =
        .error (.refused "reverted") ∧
      Node.steady.spotIn
          ((raisedTwice.script [] []).run (Node.steady.refusing ⟨"setSpotOracle", 3, "reverted"⟩) {}).2.spots
          (.string "DAI") (.string "ETH") =
        .ok ⟨.string "oracle", .int 1400000⟩ := by
  have hproper : raisedTwice.Proper (Node.steady.refusing ⟨"setSpotOracle", 3, "reverted"⟩) :=
    ⟨trivial, ⟨trivial, trivial, trivial, fun _ => rfl⟩, trivial, fun _ => rfl⟩
  exact ⟨hproper, nest_unwinds _ [] [] raisedTwice hproper {}, rfl, rfl⟩

end LiquidationDrill
