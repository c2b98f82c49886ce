import LiquidationDrill.Node.Session

/-!
# Moments of a run

A moment is a request with the session in which it is asked (`Moment`), and the moments of a run are all of them, in
order (`Script.moments`). They are the requests that the trace shows (`requests_run`), and what was seen and written
until a moment stays in the trace and in the output of the whole run (`trace_run`, `output_run`).

A node may answer every request by all that was asked before. So what a run is granted are its requests together with
their answers (`Exchange`, `granted`).

`Script.Through` says of a run that each of its moments satisfies a law, which may look back on the moments before it,
and that it ends as it should (`Through.moment`, `Through.ends`). It is proved piece by piece (`through_bind`,
`through_ensuring`, `through_request`, `through_ask`, `through_amount`, `through_say`).
-/

namespace LiquidationDrill

/-- A request, with the session in which it is asked. -/
structure Moment where
  session : Session
  request : Request

namespace Moment

/-- How a node takes the request of a moment. -/
def outcome (node : Node) (m : Moment) : Except Failure Unit := (node.respond m.session m.request).1.map fun _ => ()

theorem outcome_of_ok {node : Node} {session : Session} {r : Request} {a : r.Answer}
    (h : (node.respond session r).1 = .ok a) : outcome node ⟨session, r⟩ = .ok () := by
  rw [outcome, h]
  rfl

theorem outcome_of_error {node : Node} {session : Session} {r : Request} {failure : Failure}
    (h : (node.respond session r).1 = .error failure) : outcome node ⟨session, r⟩ = .error failure := by
  rw [outcome, h]
  rfl

end Moment

/-! ## What is granted -/

/-- A request and its answer. -/
abbrev Exchange := (request : Request) × request.Answer

/-- What is exchanged in a moment, unless its request is refused. -/
def Moment.exchange? (node : Node) (m : Moment) : Option Exchange :=
  match (node.respond m.session m.request).1 with
  | .ok answer => some ⟨m.request, answer⟩
  | .error _ => none

/-- What was exchanged, in order. -/
def granted (node : Node) (past : List Moment) : List Exchange := past.filterMap (Moment.exchange? node)

section Granted

variable {node : Node} {past : List Moment} {session : Session} {r : Request}

theorem granted_append (node : Node) (past later : List Moment) :
    granted node (past ++ later) = granted node past ++ granted node later := List.filterMap_append

/-- A request that is answered is granted. -/
theorem granted_snoc_ok {a : r.Answer} (h : (node.respond session r).1 = .ok a) :
    granted node (past ++ [⟨session, r⟩]) = granted node past ++ [⟨r, a⟩] := by
  have hm : Moment.exchange? node ⟨session, r⟩ = some ⟨r, a⟩ := by
    rw [Moment.exchange?, h]
  simp [granted, hm]

theorem granted_snoc_error {failure : Failure} (h : (node.respond session r).1 = .error failure) :
    granted node (past ++ [⟨session, r⟩]) = granted node past := by
  have hm : Moment.exchange? node ⟨session, r⟩ = none := by
    rw [Moment.exchange?, h]
  simp [granted, hm]

end Granted

/-! ## One request -/

namespace Node

variable (node : Node) (session : Session) (request : Request)

theorem effect_trace : (effect session request).trace = session.trace := by
  cases request <;> try rfl
  unfold effect
  dsimp only
  split <;> rfl

theorem effect_output : (effect session request).output = session.output := by
  cases request <;> try rfl
  unfold effect
  dsimp only
  split <;> rfl

/-- A request comes last in the trace, whether it is refused or not. -/
theorem respond_trace : (node.respond session request).2.trace = session.trace ++ [.request request] := by
  unfold respond
  dsimp only
  split
  · rfl
  · exact effect_trace _ _

/-- A request writes nothing. -/
theorem respond_output : (node.respond session request).2.output = session.output := by
  unfold respond
  dsimp only
  split
  · rfl
  · exact effect_output _ _

end Node

namespace Script

variable {α β : Type} {node : Node}

/-- The moments of a run, in order. -/
def moments (node : Node) : Script α → Session → List Moment
  | done _, _ => []
  | fail _, _ => []
  | note notice next, session => next.moments node (session.add (.note notice))
  | echo line next, session => next.moments node (session.print line)
  | ask request next, session =>
    ⟨session, request⟩ :: (next (node.respond session request).1).moments node (node.respond session request).2

/-- A run goes on by the answer, in the session after the request. -/
theorem run_ask (request : Request) (next : Except Failure request.Answer → Script α) (session : Session) :
    (ask request next).run node session =
      (next (node.respond session request).1).run node (node.respond session request).2 := rfl

theorem run_note (notice : Notice) (next : Script α) (session : Session) :
    (note notice next).run node session = next.run node (session.add (.note notice)) := rfl

theorem run_echo (line : Text) (next : Script α) (session : Session) :
    (echo line next).run node session = next.run node (session.print line) := rfl

/-! ## Compound scripts -/

/-- A script after another one has its moments after those of that one, if that one does not fail. -/
theorem moments_bind (x : Script α) (f : α → Script β) (session : Session) :
    (x.bind f).moments node session =
      x.moments node session ++
        match x.run node session with
        | (.ok a, session) => (f a).moments node session
        | (.error _, _) => [] := by
  induction x generalizing session with
  | done a => rfl
  | fail failure => rfl
  | note notice next ih => exact ih _
  | echo line next ih => exact ih _
  | ask request next ih =>
    show _ :: _ = _
    rw [ih]
    rfl

/-- A cleanup has its moments after those of its script, however that one ends. -/
theorem moments_ensuring (x : Script α) (cleanup : Script Unit) (session : Session) :
    (x.ensuring cleanup).moments node session =
      x.moments node session ++ cleanup.moments node (x.run node session).2 := by
  have hend (y : Script α) (hy : ∀ session, y.moments node session = []) (session : Session) :
      (cleanup.bind fun _ => y).moments node session = cleanup.moments node session := by
    rw [moments_bind]
    rcases cleanup.run node session with ⟨_ | _, after⟩
    · exact List.append_nil _
    · show _ ++ y.moments node after = _
      rw [hy, List.append_nil]
  induction x generalizing session with
  | done a => exact hend (done a) (fun _ => rfl) session
  | fail failure => exact hend (fail failure) (fun _ => rfl) session
  | note notice next ih => exact ih _
  | echo line next ih => exact ih _
  | ask request next ih =>
    show _ :: _ = _
    rw [ih]
    rfl

section Then

variable {x : Script α} {f : α → Script β} {session after : Session}

/-- After a script that fails nothing is run. -/
theorem then_of_error {failure : Failure} (h : x.run node session = (.error failure, after)) :
    (x >>= f).run node session = (.error failure, after) ∧ (x >>= f).moments node session = x.moments node session := by
  constructor
  · exact (run_bind _ _ _ _).trans (by rw [h])
  · exact (moments_bind _ _ _).trans (by rw [h, List.append_nil])

/-- After a script that does not fail the next one is run. -/
theorem then_of_ok {a : α} (h : x.run node session = (.ok a, after)) :
    (x >>= f).run node session = (f a).run node after ∧
      (x >>= f).moments node session = x.moments node session ++ (f a).moments node after := by
  constructor
  · exact (run_bind _ _ _ _).trans (by rw [h])
  · exact (moments_bind _ _ _).trans (by rw [h])

end Then

/-- A request alone ends with its answer. -/
theorem run_request (node : Node) (r : Request) (session : Session) :
    (request r).run node session = node.respond session r := by
  rw [request, run_ask]
  generalize node.respond session r = response
  rcases response with ⟨_ | _, after⟩ <;> rfl

/-! ## What stays of a moment -/

/-- The trace shows the moments of a run. -/
theorem requests_run (node : Node) (x : Script α) (session : Session) :
    (x.run node session).2.requests = session.requests ++ (x.moments node session).map Moment.request := by
  induction x generalizing session with
  | done a => exact (List.append_nil _).symm
  | fail failure => exact (List.append_nil _).symm
  | note notice next ih =>
    rw [run_note, ih]
    simp [moments, Session.requests, Session.add, Event.request?]
  | echo line next ih => exact ih _
  | ask request next ih =>
    have hfirst : (node.respond session request).2.requests = session.requests ++ [request] := by
      rw [Session.requests, Node.respond_trace]
      simp [Session.requests, Event.request?]
    rw [run_ask, ih, hfirst, moments, List.map_cons, List.append_assoc]
    rfl

/-- A trace only grows. -/
theorem trace_run (node : Node) (x : Script α) (session : Session) : session.trace <+: (x.run node session).2.trace := by
  induction x generalizing session with
  | done a => exact List.prefix_rfl
  | fail failure => exact List.prefix_rfl
  | note notice next ih =>
    have h := ih (session.add (.note notice))
    exact (List.prefix_append _ _).trans h
  | echo line next ih =>
    rw [run_echo]
    exact ih (session.print line)
  | ask request next ih =>
    have h := ih (node.respond session request).1 (node.respond session request).2
    rw [Node.respond_trace] at h
    rw [run_ask]
    exact (List.prefix_append _ _).trans h

/-- An output only grows. -/
theorem output_run (node : Node) (x : Script α) (session : Session) :
    session.output <+: (x.run node session).2.output := by
  induction x generalizing session with
  | done a => exact List.prefix_rfl
  | fail failure => exact List.prefix_rfl
  | note notice next ih =>
    rw [run_note]
    exact ih (session.add (.note notice))
  | echo line next ih =>
    have h := ih (session.print line)
    exact (List.prefix_append _ _).trans h
  | ask request next ih =>
    have h := ih (node.respond session request).1 (node.respond session request).2
    rwa [Node.respond_output] at h

/-- The trace of a run goes on from that of any of its moments, and so does the output. -/
theorem prefix_of_mem_moments {x : Script α} {session : Session} {m : Moment} (h : m ∈ x.moments node session) :
    m.session.trace ++ [.request m.request] <+: (x.run node session).2.trace ∧
      m.session.output <+: (x.run node session).2.output := by
  induction x generalizing session with
  | done a => cases h
  | fail failure => cases h
  | note notice next ih => exact ih h
  | echo line next ih => exact ih h
  | ask request next ih =>
    rcases List.mem_cons.mp h with rfl | h
    · have ht := trace_run node (next (node.respond session request).1) (node.respond session request).2
      have ho := output_run node (next (node.respond session request).1) (node.respond session request).2
      rw [Node.respond_trace] at ht
      rw [Node.respond_output] at ho
      exact ⟨ht, ho⟩
    · exact ih _ h

/-! ## Laws of runs -/

/-- From a session on, after some moments of the past, every moment of the run satisfies the law, and the run ends at
the goal. The law and the goal may look back on all moments so far. -/
def Through (node : Node) (law : List Moment → Moment → Prop)
    (goal : List Moment → Except Failure α → Session → Prop) : List Moment → Script α → Session → Prop
  | past, done a, session => goal past (.ok a) session
  | past, fail failure, session => goal past (.error failure) session
  | past, note notice next, session => Through node law goal past next (session.add (.note notice))
  | past, echo line next, session => Through node law goal past next (session.print line)
  | past, ask request next, session =>
    law past ⟨session, request⟩ ∧
      Through node law goal (past ++ [⟨session, request⟩]) (next (node.respond session request).1)
        (node.respond session request).2

section Through

variable {law law' : List Moment → Moment → Prop} {goal goal' : List Moment → Except Failure α → Session → Prop}
  {past : List Moment} {session : Session}

/-- Every moment satisfies the law. -/
theorem Through.moment {x : Script α} (h : Through node law goal past x session) {earlier later : List Moment}
    {m : Moment} (hm : x.moments node session = earlier ++ m :: later) : law (past ++ earlier) m := by
  induction x generalizing past session earlier with
  | done a => simp [moments] at hm
  | fail failure => simp [moments] at hm
  | note notice next ih => exact ih h hm
  | echo line next ih => exact ih h hm
  | ask request next ih =>
    obtain ⟨hlaw, h⟩ := h
    rw [moments] at hm
    cases earlier with
    | nil =>
      obtain ⟨rfl, -⟩ := List.cons.inj hm
      rwa [List.append_nil]
    | cons first earlier =>
      rw [List.cons_append] at hm
      obtain ⟨rfl, hlater⟩ := List.cons.inj hm
      have := ih _ h hlater
      rwa [List.append_assoc] at this

/-- The run ends at the goal. -/
theorem Through.ends {x : Script α} (h : Through node law goal past x session) :
    goal (past ++ x.moments node session) (x.run node session).1 (x.run node session).2 := by
  induction x generalizing past session with
  | done a =>
    show goal (past ++ []) _ _
    rwa [List.append_nil]
  | fail failure =>
    show goal (past ++ []) _ _
    rwa [List.append_nil]
  | note notice next ih => exact ih h
  | echo line next ih => exact ih h
  | ask request next ih =>
    have := ih _ h.2
    rwa [List.append_assoc] at this

/-- A weaker goal is reached too. -/
theorem Through.imp {x : Script α} (h : Through node law goal past x session)
    (hgoal : ∀ past result session, goal past result session → goal' past result session) :
    Through node law goal' past x session := by
  induction x generalizing past session with
  | done a => exact hgoal _ _ _ h
  | fail failure => exact hgoal _ _ _ h
  | note notice next ih => exact ih h
  | echo line next ih => exact ih h
  | ask request next ih => exact ⟨h.1, ih _ h.2⟩

/-- A weaker law is satisfied too. -/
theorem Through.weaken {x : Script α} (h : Through node law goal past x session)
    (hlaw : ∀ past m, law past m → law' past m) : Through node law' goal past x session := by
  induction x generalizing past session with
  | done a => exact h
  | fail failure => exact h
  | note notice next ih => exact ih h
  | echo line next ih => exact ih h
  | ask request next ih => exact ⟨hlaw _ _ h.1, ih _ h.2⟩

/-- A script after another one starts where that one ends. -/
theorem through_bind {goal : List Moment → Except Failure β → Session → Prop} {x : Script α} {f : α → Script β} :
    Through node law goal past (x >>= f) session ↔
      Through node law
        (fun past result session =>
          match result with
          | .ok a => Through node law goal past (f a) session
          | .error failure => goal past (.error failure) session)
        past x session := by
  show Through node law goal past (x.bind f) session ↔ _
  induction x generalizing past session with
  | done a => exact Iff.rfl
  | fail failure => exact Iff.rfl
  | note notice next ih => exact ih
  | echo line next ih => exact ih
  | ask request next ih => exact and_congr_right fun _ => ih _

/-- The end of a script with a cleanup: that of the script, unless the cleanup fails. -/
def endOf (result : Except Failure α) : Except Failure Unit → Except Failure α
  | .ok () => result
  | .error failure => .error failure

/-- A cleanup after which a script ends anyhow. -/
theorem through_cleanup {cleanup : Script Unit} {ending : Script α} {result : Except Failure α}
    (h : ∀ past session, Through node law goal past ending session ↔ goal past result session) :
    Through node law goal past (cleanup >>= fun _ => ending) session ↔
      Through node law (fun past left => goal past (endOf result left)) past cleanup session := by
  rw [through_bind]
  constructor
  all_goals
    intro ht
    refine ht.imp fun past left session hg => ?_
    cases left with
    | ok _ => first | exact (h _ _).mp hg | exact (h _ _).mpr hg
    | error _ => exact hg

/-- A cleanup starts where its script ends. -/
theorem through_ensuring {x : Script α} {cleanup : Script Unit} :
    Through node law goal past (x.ensuring cleanup) session ↔
      Through node law
        (fun past result session =>
          Through node law (fun past left => goal past (endOf result left)) past cleanup session)
        past x session := by
  induction x generalizing past session with
  | done a => exact through_cleanup fun _ _ => Iff.rfl
  | fail failure => exact through_cleanup fun _ _ => Iff.rfl
  | note notice next ih => exact ih
  | echo line next ih => exact ih
  | ask request next ih => exact and_congr_right fun _ => ih _

/-- One request is one moment. -/
theorem through_request {r : Request} {goal : List Moment → Except Failure r.Answer → Session → Prop}
    (hlaw : law past ⟨session, r⟩)
    (hgoal : goal (past ++ [⟨session, r⟩]) (node.respond session r).1 (node.respond session r).2) :
    Through node law goal past (request r) session := by
  refine ⟨hlaw, ?_⟩
  revert hgoal
  cases (node.respond session r).1 <;> exact id

/-- A script after a request goes on with the answer, or the request fails. -/
theorem through_ask {r : Request} {f : r.Answer → Script α} (hlaw : law past ⟨session, r⟩)
    (hok : ∀ a, (node.respond session r).1 = .ok a →
      Through node law goal (past ++ [⟨session, r⟩]) (f a) (node.respond session r).2)
    (herror : ∀ failure, (node.respond session r).1 = .error failure →
      goal (past ++ [⟨session, r⟩]) (.error failure) (node.respond session r).2) :
    Through node law goal past (request r >>= f) session := by
  rw [through_bind]
  refine through_request hlaw ?_
  cases ha : (node.respond session r).1 with
  | ok a => exact hok a ha
  | error failure => exact herror failure ha

/-- An amount is there, or the script fails. -/
theorem through_amount {result : Except Value.Fault β} {f : β → Script α}
    (hok : ∀ b, result = .ok b → Through node law goal past (f b) session)
    (herror : ∀ failure, goal past (.error failure) session) :
    Through node law goal past (amount result >>= f) session := by
  cases result with
  | ok b => exact hok b rfl
  | error fault => exact herror (.amount fault)

/-- A line is written, or the script fails. -/
theorem through_say {line : Text} {f : Unit → Script α}
    (hok : Through node law goal past (f ()) (session.print line))
    (herror : ∀ failure, goal past (.error failure) session) :
    Through node law goal past (say line >>= f) session := by
  unfold say
  cases line.echoed with
  | ok written => exact hok
  | error fault => exact herror (.unencodable fault)

/-- And so it is with a line that comes last. -/
theorem through_say_last {line : Text} {goal : List Moment → Except Failure Unit → Session → Prop}
    (hok : goal past (.ok ()) (session.print line)) (herror : ∀ failure, goal past (.error failure) session) :
    Through node law goal past (say line) session := by
  unfold say
  cases line.echoed with
  | ok written => exact hok
  | error fault => exact herror (.unencodable fault)

end Through

end Script

end LiquidationDrill
