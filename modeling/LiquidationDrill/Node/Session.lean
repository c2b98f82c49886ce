import LiquidationDrill.Node.Script

/-!
# Sessions

A session is what a node remembers of the scripts that were run on it.

- `Node`: what a node answers, and which requests it refuses; `Node.refusing`: one refusal more;
- `Spots`: the pairs of assets whose spot was set, told apart by their keys;
- `Session`: the events so far, the spots and the output;
- `Script.run`: the end of a script and the session after it.
-/

namespace LiquidationDrill

open Mainnet (Address)

/-- What a node answers. -/
structure Node where
  /-- The spot of a pair of assets that was never set. -/
  spot : (base ilk : Value) → Except Failure Spot
  /-- What any other request is answered with, after all requests before it. -/
  reply : (earlier : List Request) → (request : Request) → Except Failure request.Answer
  /-- The words with which a request is refused, by its method and the number of such requests until then; none where
  it is answered. -/
  refusal? : (method : Text) → (nth : Nat) → Option Text := fun _ _ => none

/-- A request that is refused: the `nth` of its method. -/
structure Node.Refusal where
  method : Text
  nth : Int
  message : Text

/-- The node, but with one refusal more. -/
def Node.refusing (node : Node) (refusal : Node.Refusal) : Node :=
  { node with
    refusal? := fun method nth =>
      if refusal.method = method ∧ refusal.nth = nth then some refusal.message else node.refusal? method nth }

/-! ## Spots -/

/-- The keys of two assets. -/
structure Pair where
  base : Value.Key
  ilk : Value.Key
  deriving DecidableEq

/-- The keys of two assets, which have to be keys. -/
def Pair.ofAssets (base ilk : Value) : Except Value.Unhashable Pair := do
  let base ← base.key
  let ilk ← ilk.key
  return ⟨base, ilk⟩

/-- A pair of assets whose spot was set, under the names that were given first. -/
structure SetSpot where
  base : Value
  ilk : Value
  spot : Spot

/-- The spots that were set, in the order in which their pairs were first set. -/
abbrev Spots := List (Pair × SetSpot)

namespace Spots

/-- The spot of a pair, if it was set. -/
def get? : Spots → Pair → Option Spot
  | [], _ => none
  | (key, entry) :: rest, pair => if key = pair then some entry.spot else get? rest pair

/-- Sets the spot of a pair, at its place and under its names if it was set before. -/
def put : Spots → Pair → SetSpot → Spots
  | [], pair, entry => [(pair, entry)]
  | (key, old) :: rest, pair, entry =>
    if key = pair then (key, { old with spot := entry.spot }) :: rest else (key, old) :: put rest pair entry

/-- A pair has the spot that was set. -/
theorem get?_put_self (spots : Spots) (pair : Pair) (entry : SetSpot) :
    (spots.put pair entry).get? pair = some entry.spot := by
  induction spots with
  | nil => simp [put, get?]
  | cons first rest ih =>
    obtain ⟨key, old⟩ := first
    by_cases h : key = pair <;> simp [put, get?, h, ih]

/-- The other pairs keep their spots. -/
theorem get?_put_of_ne (spots : Spots) {pair other : Pair} (entry : SetSpot) (h : pair ≠ other) :
    (spots.put pair entry).get? other = spots.get? other := by
  induction spots with
  | nil => simp [put, get?, h]
  | cons first rest ih =>
    obtain ⟨key, old⟩ := first
    by_cases hk : key = pair
    · subst hk
      simp [put, get?, h]
    · simp [put, get?, hk, ih]

end Spots

/-! ## Sessions -/

/-- What happens in a session. -/
inductive Event where
  | request (request : Request)
  | note (notice : Notice)

/-- The request that an event is. -/
def Event.request? : Event → Option Request
  | request r => some r
  | note _ => none

/-- What a node remembers. -/
structure Session where
  trace : List Event := []
  spots : Spots := []
  output : Text := []

namespace Session

/-- The requests so far, in order. -/
def requests (session : Session) : List Request := session.trace.filterMap Event.request?

/-- The number of requests of a method. -/
def count (session : Session) (method : Text) : Nat :=
  session.trace.countP fun
    | .request r => r.method = method
    | .note _ => false

/-- The session after one more event. -/
def add (session : Session) (event : Event) : Session := { session with trace := session.trace ++ [event] }

/-- The session after a line of output. -/
def print (session : Session) (line : Text) : Session :=
  { session with output := session.output ++ (line ++ "\n").plain }

end Session

namespace Node

/-- The pair of two assets, which have to be keys. -/
def pairOf (base ilk : Value) : Except Failure Pair :=
  match Pair.ofAssets base ilk with
  | .ok pair => .ok pair
  | .error fault => .error (.misshapen (.unhashable fault))

/-- The spot of two assets: the one that was set last, if any was. -/
def spotIn (node : Node) (spots : Spots) (base ilk : Value) : Except Failure Spot := do
  match spots.get? (← pairOf base ilk) with
  | some spot => return spot
  | none => node.spot base ilk

/-- What a request is answered with in a session. Only for pairs of keys is a spot read or set. -/
def answer (node : Node) (session : Session) : (request : Request) → Except Failure request.Answer
  | .spotOracles _ base ilk => node.spotIn session.spots base ilk
  | .setSpotOracle _ base ilk _ _ => (pairOf base ilk).map fun _ => ()
  | request => node.reply session.requests request

/-- The session after a request that was answered. -/
def effect (session : Session) : Request → Session
  | .setSpotOracle _ base ilk spot _ =>
    match Pair.ofAssets base ilk with
    | .ok pair => { session with spots := session.spots.put pair ⟨base, ilk, spot⟩ }
    | .error _ => session
  | _ => session

/-- Answers or refuses a request. A request that is refused is remembered and has no effect. -/
def respond (node : Node) (session : Session) (request : Request) : Except Failure request.Answer × Session :=
  let asked := session.add (.request request)
  match node.refusal? request.method (asked.count request.method) with
  | some message => (.error (.refused message), asked)
  | none => (node.answer session request, effect asked request)

end Node

/-- Runs a script on a node: how it ends, and the session after it. -/
def Script.run {α : Type} (node : Node) : Script α → Session → Except Failure α × Session
  | .done a, session => (.ok a, session)
  | .fail failure, session => (.error failure, session)
  | .note notice next, session => next.run node (session.add (.note notice))
  | .echo line next, session => next.run node (session.print line)
  | .ask request next, session =>
    let (answer, session) := node.respond session request
    (next answer).run node session

namespace Script

variable {α β : Type}

/-- A script after another one starts where that one ends, and is not run if that one fails. -/
theorem run_bind (node : Node) (x : Script α) (f : α → Script β) (session : Session) :
    (x.bind f).run node session =
      match x.run node session with
      | (.ok a, session) => (f a).run node session
      | (.error failure, session) => (.error failure, session) := by
  induction x generalizing session with
  | done a => rfl
  | fail failure => rfl
  | note notice next ih => exact ih _
  | echo line next ih => exact ih _
  | ask request next ih => exact ih _ _

/-- A cleanup starts where its script ends. The end of the script counts unless the cleanup fails. -/
theorem run_ensuring (node : Node) (x : Script α) (cleanup : Script Unit) (session : Session) :
    (x.ensuring cleanup).run node session =
      match cleanup.run node (x.run node session).2 with
      | (.ok (), after) => ((x.run node session).1, after)
      | (.error failure, after) => (.error failure, after) := by
  induction x generalizing session with
  | done a =>
    rw [ensuring, run_bind, run]
    rcases cleanup.run node session with ⟨_ | _, after⟩ <;> rfl
  | fail failure =>
    rw [ensuring, run_bind, run]
    rcases cleanup.run node session with ⟨_ | _, after⟩ <;> rfl
  | note notice next ih => exact ih _
  | echo line next ih => exact ih _
  | ask request next ih => exact ih _ _

end Script

end LiquidationDrill
