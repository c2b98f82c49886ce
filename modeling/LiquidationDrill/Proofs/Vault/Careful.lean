import LiquidationDrill.Proofs.Node.Refusal
import LiquidationDrill.Proofs.Vault.Blocks

/-!
# Careful scripts

A careful script gives up as soon as a request fails: it leaves the open block, if there is one, and does nothing else
(`Careful`). Scripts that set no spot and give up at once are careful (`Plain.careful`), also under a raised ratio
(`Plain.withSpotRatio_careful`) and one after another (`Careful.bind`).

With one refusal more a careful script runs as before, or it is cut at the refused request (`Careful.cut`).
-/

namespace LiquidationDrill

open Mainnet (Address)

namespace Script

variable {α β : Type}

/-- The end of a script in which a request has failed. -/
def giveUp : Option SpotBlock → Failure → Script α
  | none, failure => .fail failure
  | some block, failure => block.leave.bind fun _ => .fail failure

/-- A script that gives up as soon as a request fails. The block that is open at its start is left at its end. -/
inductive Careful {α : Type} : Option SpotBlock → Script α → Prop
  | done (a : α) : Careful none (.done a)
  | fail (failure : Failure) : Careful none (.fail failure)
  | note {open? notice next} : Careful open? next → Careful open? (.note notice next)
  | echo {open? line next} : Careful open? next → Careful open? (.echo line next)
  /-- A request that sets no spot. -/
  | ask {open? r next} : r.setsSpot = false → (∀ failure, next (.error failure) = giveUp open? failure) →
      (∀ answer, Careful open? (next answer)) → Careful open? (.ask r next)
  /-- A block is entered: its spot is read, and its ratio is raised. -/
  | enter {cauldron timelock base ilk ratio next} {raised : Spot → Except Failure Unit → Script α} :
      (∀ failure, next (.error failure) = .fail failure) →
      (∀ previous, next (.ok previous) =
        .ask (SpotBlock.raising { cauldron, timelock, base, ilk, previous } ratio) (raised previous)) →
      (∀ previous failure, raised previous (.error failure) = .fail failure) →
      (∀ previous, Careful (some { cauldron, timelock, base, ilk, previous }) (raised previous (.ok ()))) →
      Careful none (.ask (.spotOracles cauldron base ilk) next)
  /-- A block is left. -/
  | leave {block next} : (∀ failure, next (.error failure) = .fail failure) → Careful none (next (.ok ())) →
      Careful (some block) (.ask block.restoring next)

/-- A script that sets no spot, and ends as soon as a request fails. -/
def Plain : Script α → Prop
  | done _ => True
  | fail _ => True
  | note _ next => next.Plain
  | echo _ next => next.Plain
  | ask r next => r.setsSpot = false ∧ (∀ failure, next (.error failure) = .fail failure) ∧ ∀ a, (next (.ok a)).Plain

/-! ## Plain scripts -/

theorem plain_request {r : Request} (h : r.setsSpot = false) : (request r).Plain :=
  ⟨h, fun _ => rfl, fun _ => trivial⟩

theorem plain_amount (result : Except Value.Fault α) : (amount result).Plain := by
  cases result <;> exact trivial

theorem plain_say (line : Text) : (say line).Plain := by
  unfold say
  cases line.echoed <;> exact trivial

theorem plain_info (message : Text) : (info message).Plain := trivial

/-- A plain script and another one after it. -/
theorem Plain.bind {x : Script α} {f : α → Script β} (hx : x.Plain) (hf : ∀ a, (f a).Plain) : (x >>= f).Plain := by
  show (x.bind f).Plain
  induction x with
  | done a => exact hf a
  | fail failure => exact hx
  | note notice next ih => exact ih hx
  | echo line next ih => exact ih hx
  | ask r next ih =>
    obtain ⟨hs, herror, hok⟩ := hx
    refine ⟨hs, fun failure => ?_, fun a => ih _ (hok a)⟩
    show (next (.error failure)).bind f = .fail failure
    rw [herror]
    rfl

/-! ## Careful scripts from careful parts -/

/-- Nothing comes after giving up. -/
theorem giveUp_bind (open? : Option SpotBlock) (failure : Failure) (f : α → Script β) :
    (giveUp open? failure).bind f = giveUp open? failure := by
  cases open? with
  | none => rfl
  | some block =>
    unfold giveUp
    rw [bind_assoc]
    rfl

/-- A careful script and another one after it. -/
theorem Careful.bind {open? : Option SpotBlock} {x : Script α} {f : α → Script β} (h : Careful open? x)
    (hf : ∀ a, Careful none (f a)) : Careful open? (x >>= f) := by
  show Careful open? (x.bind f)
  induction h with
  | done a => exact hf a
  | fail failure => exact .fail failure
  | note _ ih => exact .note ih
  | echo _ ih => exact .echo ih
  | ask hs herror _ ih =>
    refine .ask hs (fun failure => ?_) ih
    rw [herror, giveUp_bind]
  | @enter cauldron timelock base ilk ratio next raised herror hraise hfailed _ ih =>
    refine @Careful.enter _ cauldron timelock base ilk ratio _ (fun previous answer => (raised previous answer).bind f)
      (fun failure => ?_) (fun previous => ?_) (fun previous failure => ?_) ih
    · rw [herror]
      rfl
    · rw [hraise]
      rfl
    · rw [hfailed]
      rfl
  | leave herror _ ih =>
    refine .leave (fun failure => ?_) ih
    rw [herror]
    rfl

/-- Leaving a block, and a careful script after it. -/
theorem careful_leave {block : SpotBlock} {x : Script α} (h : Careful none x) :
    Careful (some block) (block.leave.bind fun _ => x) := by
  refine .leave (fun failure => rfl) ?_
  exact .note h

/-- A plain script is careful. -/
theorem Plain.careful {x : Script α} (h : x.Plain) : Careful none x := by
  induction x with
  | done a => exact .done a
  | fail failure => exact .fail failure
  | note notice next ih => exact .note (ih h)
  | echo line next ih => exact .echo (ih h)
  | ask r next ih =>
    obtain ⟨hs, herror, hok⟩ := h
    refine .ask hs herror fun answer => ?_
    cases answer with
    | ok a => exact ih _ (hok a)
    | error failure =>
      rw [herror]
      exact .fail failure

/-- A plain script is careful inside of a block that is left after it. -/
theorem Plain.ensuring_careful {block : SpotBlock} {x : Script α} (h : x.Plain) :
    Careful (some block) (x.ensuring block.leave) := by
  induction x with
  | done a => exact careful_leave (.done a)
  | fail failure => exact careful_leave (.fail failure)
  | note notice next ih => exact .note (ih h)
  | echo line next ih => exact .echo (ih h)
  | ask r next ih =>
    obtain ⟨hs, herror, hok⟩ := h
    refine .ask hs (fun failure => ?_) fun answer => ?_
    · rw [herror]
      rfl
    · cases answer with
      | ok a => exact ih _ (hok a)
      | error failure =>
        rw [herror]
        exact careful_leave (.fail failure)

/-- And so it is under a raised ratio. -/
theorem Plain.withSpotRatio_careful {cauldron timelock : Address} {base ilk ratio : Value} {body : Script α}
    (h : body.Plain) : Careful none (withSpotRatio cauldron timelock base ilk ratio body) := by
  refine .enter (fun failure => rfl) (fun previous => rfl) (fun previous failure => rfl) fun previous => ?_
  exact .note h.ensuring_careful

end Script

/-! ## One refusal more -/

/-- What is known of the open block: how it was read, and that its pair has a spot. -/
structure Opened (node : Node) (open? : Option SpotBlock) (past : List Moment) (session : Session) : Prop where
  open_eq : openIn node past = open?
  read : ∀ block, open? = some block →
    ∃ now, ⟨now, block.reading⟩ ∈ past ∧ (node.respond now block.reading).1 = .ok block.previous
  spot : ∀ block, open? = some block → ∃ spot, node.spotIn session.spots block.base block.ilk = .ok spot

/-- What follows a refused request: the open block is left, if the request did not try so itself. -/
def closing : Option SpotBlock → Request → List Event
  | none, _ => []
  | some block, r => if r.setsSpot then [] else [.request block.restoring, .note block.restored]

/-- A run ends with the `nth` request of a method, which is refused with a message in a moment after the past. -/
structure Refused {α : Type} (node : Node) (method : Text) (nth : Nat) (message : Text) (past : List Moment) (m : Moment)
    (run : Except Failure α × Session) : Prop where
  method_eq : m.request.method = method
  nth_eq : m.session.count method + 1 = nth
  /-- The open block is left with the spot that was read when it was entered. -/
  read : ∀ block, openIn node past = some block →
    ∃ now, ⟨now, block.reading⟩ ∈ past ∧ (node.respond now block.reading).1 = .ok block.previous
  result : run.1 = .error (.refused message)
  trace : run.2.trace = m.session.trace ++ .request m.request :: closing (openIn node past) m.request
  output : run.2.output = m.session.output

/-- With one refusal more a run is the same, or it ends with the refused request. -/
def CutAt {α : Type} (node : Node) (method : Text) (nth : Nat) (message : Text) (past : List Moment) (x : Script α)
    (session : Session) : Prop :=
  ((x.run node session).2.count method < nth ∧
      x.run (node.refusing ⟨method, nth, message⟩) session = x.run node session) ∨
    ∃ earlier m later, x.moments node session = earlier ++ m :: later ∧
      Refused node method nth message (past ++ earlier) m (x.run (node.refusing ⟨method, nth, message⟩) session)

section Cut

variable {α : Type} {node : Node} {method message : Text} {nth : Nat} {past : List Moment} {session : Session}
  {open? : Option SpotBlock}

/-- A request that sets no spot leaves the open block as it is. -/
theorem Opened.ask {r : Request} (h : Opened node open? past session) (hs : r.setsSpot = false) :
    Opened node open? (past ++ [⟨session, r⟩]) (node.respond session r).2 := by
  refine ⟨?_, fun block hb => ?_, fun block hb => ?_⟩
  · rw [openIn_snoc_of_none (Moment.entered?_of_not_setsSpot hs)]
    exact h.open_eq
  · obtain ⟨now, hmem, hread⟩ := h.read block hb
    exact ⟨now, List.mem_append_left _ hmem, hread⟩
  · rw [Node.respond_of_not_setsSpot hs]
    exact h.spot block hb

/-- A block is open after its ratio has been raised. -/
theorem Opened.raise {block : SpotBlock} {ratio : Value} {now : Session} (h : Opened node none past session)
    (ha : (node.respond session block.reading).1 = .ok block.previous)
    (hnow : now = (node.respond session block.reading).2)
    (ho : (node.respond now (block.raising ratio)).1 = .ok ()) :
    Opened node (some block) (past ++ [⟨session, block.reading⟩] ++ [⟨now, block.raising ratio⟩])
      (node.respond now (block.raising ratio)).2 := by
  have hspot : node.spotIn now.spots block.base block.ilk = .ok block.previous := by
    rw [hnow, Node.respond_of_not_setsSpot rfl]
    exact Node.answer_of_respond ha
  have hread : openIn node (past ++ [⟨session, block.reading⟩]) = none := (h.ask rfl).open_eq
  obtain ⟨pair, hpair, hspots⟩ := Node.spots_of_setSpotOracle_ok ho
  refine ⟨?_, fun other hb => ?_, fun other hb => ?_⟩
  · exact openIn_snoc_enter (SpotBlock.entered?_raising (Moment.outcome_of_ok ho) hspot) hread
  · obtain rfl : block = other := Option.some.inj hb
    exact ⟨session, List.mem_append_left _ (List.mem_append_right _ List.mem_cons_self), ha⟩
  · obtain rfl : block = other := Option.some.inj hb
    refine ⟨{ block.previous with ratio }, ?_⟩
    have hspots : (node.respond now (block.raising ratio)).2.spots = _ := hspots
    rw [hspots]
    exact Node.spotIn_put_self hpair

/-- Without an open block nothing has to be known. -/
theorem opened_none (h : openIn node past = none) : Opened node none past session := by
  refine ⟨h, fun block hb => ?_, fun block hb => ?_⟩
  · cases hb
  · cases hb

/-- A script that fails at once is not cut. -/
theorem cutAt_fail (h : session.count method < nth) {failure : Failure} {x : Script α} (hx : x = .fail failure) :
    CutAt node method nth message past x session := by
  subst hx
  exact Or.inl ⟨h, rfl⟩

/-- A request is the refused one, or the cut comes after it. -/
theorem cutAt_ask {r : Request} {next : Except Failure r.Answer → Script α}
    (hn : ∀ method nth, node.refusal? method nth = none) (hcount : session.count method < nth)
    (hhit : r.method = method → session.count method + 1 = nth →
      Refused node method nth message past ⟨session, r⟩
        ((next (.error (.refused message))).run (node.refusing ⟨method, nth, message⟩) (session.add (.request r))))
    (hgo : (node.respond session r).2.count method < nth →
      CutAt node method nth message (past ++ [⟨session, r⟩]) (next (node.respond session r).1)
        (node.respond session r).2) :
    CutAt node method nth message past (.ask r next) session := by
  unfold CutAt
  rcases Node.respond_refusing_cases hn hcount r message with ⟨hm, he, hrespond⟩ | ⟨hrespond, hless⟩
  · refine Or.inr ⟨[], ⟨session, r⟩, _, rfl, ?_⟩
    rw [List.append_nil, Script.run_ask, hrespond]
    exact hhit hm he
  · rw [Script.run_ask, Script.run_ask, hrespond]
    rcases hgo hless with hsame | ⟨earlier, m, later, hmoments, hrefused⟩
    · exact Or.inl hsame
    · refine Or.inr ⟨⟨session, r⟩ :: earlier, m, later, ?_, ?_⟩
      · rw [Script.moments, hmoments]
        rfl
      · rwa [List.append_assoc] at hrefused

/-- A script that ends at once leaves nothing to be told after a refused request. -/
theorem refused_of_fail {r : Request} (h : Opened node open? past session) (hclosing : closing open? r = [])
    (hm : r.method = method) (he : session.count method + 1 = nth) {x : Script α}
    (hx : x = .fail (.refused message)) :
    Refused node method nth message past ⟨session, r⟩
      (x.run (node.refusing ⟨method, nth, message⟩) (session.add (.request r))) := by
  subst hx
  refine ⟨hm, he, ?_, rfl, ?_, rfl⟩
  · rw [h.open_eq]
    exact h.read
  · rw [h.open_eq, hclosing]
    rfl

/-- Giving up leaves the open block. -/
theorem refused_of_giveUp {r : Request} (hn : ∀ method nth, node.refusal? method nth = none)
    (h : Opened node open? past session) (hs : r.setsSpot = false) (hm : r.method = method)
    (he : session.count method + 1 = nth) :
    Refused node method nth message past ⟨session, r⟩
      ((Script.giveUp open? (.refused message) : Script α).run (node.refusing ⟨method, nth, message⟩)
        (session.add (.request r))) := by
  cases open? with
  | none => exact refused_of_fail h rfl hm he rfl
  | some block =>
    -- the request that leaves the block is of another method than the refused one, and its pair has a spot
    have hother : block.restoring.method ≠ method := by
      rw [← hm]
      intro heq
      have hset := (Request.setsSpot_iff r).mpr heq.symm
      rw [hs] at hset
      cases hset
    have hrespond : (node.refusing ⟨method, nth, message⟩).respond (session.add (.request r)) block.restoring =
        node.respond (session.add (.request r)) block.restoring := Node.respond_refusing_of_ne hother message
    have hok : (node.respond (session.add (.request r)) block.restoring).1 = .ok () := by
      obtain ⟨spot, hspot⟩ := h.spot block rfl
      obtain ⟨pair, hpair⟩ := Node.pairOf_of_spotIn hspot
      rw [Node.respond_of_not_refused hn]
      show (Node.pairOf block.base block.ilk).map (fun _ => ()) = .ok ()
      rw [hpair]
      rfl
    have hleave := SpotBlock.run_leave (hrespond ▸ hok)
    have hrun : (Script.giveUp (some block) (.refused message) : Script α).run
          (node.refusing ⟨method, nth, message⟩) (session.add (.request r)) =
        (.error (.refused message),
          (node.respond (session.add (.request r)) block.restoring).2.add (.note block.restored)) := by
      rw [Script.giveUp, Script.run_bind, hleave, hrespond]
      rfl
    rw [hrun]
    refine ⟨hm, he, ?_, rfl, ?_, ?_⟩
    · rw [h.open_eq]
      exact h.read
    · have hclosing : closing (some block) r = [.request block.restoring, .note block.restored] := by
        rw [closing, hs]
        rfl
      rw [h.open_eq, hclosing]
      simp [Session.add, Node.respond_trace]
    · show (node.respond _ block.restoring).2.output = session.output
      rw [Node.respond_output]
      rfl

/-- **A careful script is cut** by one refusal more, or it runs as before. -/
theorem Script.Careful.cutAt {x : Script α} (hx : Careful open? x) (hn : ∀ method nth, node.refusal? method nth = none)
    (h : Opened node open? past session) (hcount : session.count method < nth) :
    CutAt node method nth message past x session := by
  -- until the refused request both nodes respond alike, so that `Opened` need only be kept by the node without it
  induction hx generalizing past session with
  | done a => exact Or.inl ⟨hcount, rfl⟩
  | fail failure => exact cutAt_fail hcount rfl
  | note _ ih =>
    rw [← Session.count_add_note] at hcount
    exact ih ⟨h.open_eq, h.read, h.spot⟩ hcount
  | @echo _ line _ _ ih =>
    have hp : Opened node _ past (session.print line) := ⟨h.open_eq, h.read, h.spot⟩
    exact ih hp hcount
  | ask hs herror _ ih =>
    refine cutAt_ask hn hcount (fun hm he => ?_) fun hless => ih _ (h.ask hs) hless
    rw [herror]
    exact refused_of_giveUp hn h hs hm he
  | @enter cauldron timelock base ilk ratio next raised herror hraise hfailed _ ih =>
    refine cutAt_ask hn hcount (fun hm he => refused_of_fail h rfl hm he (herror _)) fun hless => ?_
    cases ha : (node.respond session (.spotOracles cauldron base ilk)).1 with
    | error failure => exact cutAt_fail hless (herror failure)
    | ok previous =>
      rw [hraise]
      refine cutAt_ask hn hless (fun hm he => refused_of_fail (h.ask rfl) rfl hm he (hfailed previous _)) fun hless => ?_
      cases ho : (node.respond (node.respond session (.spotOracles cauldron base ilk)).2
        (SpotBlock.raising { cauldron, timelock, base, ilk, previous } ratio)).1 with
      | error failure => exact cutAt_fail hless (hfailed previous failure)
      | ok _ => exact ih previous (Opened.raise h ha rfl ho) hless
  | @leave block next herror _ ih =>
    refine cutAt_ask hn hcount (fun hm he => refused_of_fail h rfl hm he (herror _)) fun hless => ?_
    cases ho : (node.respond session block.restoring).1 with
    | error failure => exact cutAt_fail hless (herror failure)
    | ok _ =>
      obtain ⟨spot, hspot⟩ := h.spot block rfl
      have hentered := SpotBlock.entered?_restoring (Moment.outcome_of_ok ho) hspot
      exact ih (opened_none (openIn_snoc_leave hentered h.open_eq)) hless

end Cut

end LiquidationDrill
