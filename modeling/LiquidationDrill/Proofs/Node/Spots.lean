import LiquidationDrill.Proofs.Node.Moments
import LiquidationDrill.Proofs.Result

/-!
# What changes spots

Only a `setSpotOracle` that is answered changes spots (`respond_of_not_setsSpot`, `spots_of_error`), and only those of
its pair (`spots_of_setSpotOracle_ok`, `spotIn_put_self`, `spotIn_put_of_ne`). A script is quiet if it asks for none
(`Script.Quiet`): it leaves all spots as they are (`Quiet.spots_run`).

Texts and bytes are ids (`Value.IsId`). Ids are keys that no other value shares, so that two of them name a pair that
no other values name (`pairOf_eq_iff`).
-/

namespace LiquidationDrill

open Mainnet (Address)

/-! ## Pairs and ids -/

/-- A value by which contracts name assets: text or bytes. -/
inductive Value.IsId : Value → Prop
  | text (t : Text) : IsId (.string t)
  | bytes (bs : List UInt8) : IsId (.bytes bs)

/-- The key of an id is that of no other value. -/
theorem Value.IsId.key_eq_iff {id other : Value} (h : id.IsId) : other.key = id.key ↔ other = id := by
  constructor
  · intro he
    cases h with
    | text t =>
      cases other with
      | string s =>
        obtain rfl : s = t := by simpa [Value.key] using he
        rfl
      | bool b => cases b <;> simp [Value.key] at he
      | _ => simp [Value.key] at he
    | bytes bs =>
      cases other with
      | bytes cs =>
        obtain rfl : cs = bs := by simpa [Value.key] using he
        rfl
      | bool b => cases b <;> simp [Value.key] at he
      | _ => simp [Value.key] at he
  · rintro rfl
    rfl

/-- An id is a key. -/
theorem Value.IsId.exists_key {id : Value} (h : id.IsId) : ∃ k, id.key = .ok k := by
  cases h with
  | text t => exact ⟨_, rfl⟩
  | bytes bs => exact ⟨_, rfl⟩

namespace Node

variable {node : Node} {base ilk : Value} {pair : Pair} {spots : Spots}

/-- Two values are a pair iff both are keys. -/
theorem pairOf_eq_ok :
    pairOf base ilk = .ok pair ↔ base.key = .ok pair.base ∧ ilk.key = .ok pair.ilk := by
  obtain ⟨k, l⟩ := pair
  unfold pairOf Pair.ofAssets
  cases base.key with
  | error fault => simp [bind, Except.bind]
  | ok b => cases ilk.key <;> simp [bind, Except.bind, pure, Except.pure]

/-- And no pair because of the same fault, whatever asks. -/
theorem ofAssets_of_pairOf (h : pairOf base ilk = .ok pair) : Pair.ofAssets base ilk = .ok pair := by
  unfold pairOf at h
  split at h
  · next p hp =>
    cases h
    exact hp
  · cases h

/-- Ids are a pair that no other values are. -/
theorem pairOf_eq_iff {base' ilk' : Value} (hb : base.IsId) (hi : ilk.IsId) :
    pairOf base' ilk' = pairOf base ilk ↔ base' = base ∧ ilk' = ilk := by
  obtain ⟨k, hk⟩ := hb.exists_key
  obtain ⟨l, hl⟩ := hi.exists_key
  have hpair : pairOf base ilk = .ok ⟨k, l⟩ := pairOf_eq_ok.mpr ⟨hk, hl⟩
  rw [hpair, pairOf_eq_ok]
  dsimp only
  rw [← hk, ← hl, hb.key_eq_iff, hi.key_eq_iff]

/-- A value with a spot is half of a pair. -/
theorem pairOf_of_spotIn {spot : Spot} (h : node.spotIn spots base ilk = .ok spot) :
    ∃ pair, pairOf base ilk = .ok pair := by
  unfold spotIn at h
  obtain ⟨pair, hp, -⟩ := Result.bind_eq_ok.mp h
  exact ⟨pair, hp⟩

/-- What is answered for a pair: the spot that was set, or the one it has from the beginning. -/
theorem spotIn_of_pairOf (h : pairOf base ilk = .ok pair) :
    node.spotIn spots base ilk =
      match spots.get? pair with
      | some spot => .ok spot
      | none => node.spot base ilk := by
  unfold spotIn
  rw [h]
  rfl

/-- Equal spots of a pair are answered alike. -/
theorem spotIn_congr {others : Spots} (h : ∀ pair, pairOf base ilk = .ok pair → others.get? pair = spots.get? pair) :
    node.spotIn others base ilk = node.spotIn spots base ilk := by
  cases hp : pairOf base ilk with
  | ok pair => rw [spotIn_of_pairOf hp, spotIn_of_pairOf hp, h pair hp]
  | error failure =>
    unfold spotIn
    rw [hp]
    rfl

/-- A pair is answered with the spot that was set last. -/
theorem spotIn_put_self {entry : SetSpot} (h : pairOf base ilk = .ok pair) :
    node.spotIn (spots.put pair entry) base ilk = .ok entry.spot := by
  rw [spotIn_of_pairOf h, Spots.get?_put_self]

/-- Other pairs are answered as before. -/
theorem spotIn_put_of_ne {entry : SetSpot} (h : pairOf base ilk ≠ .ok pair) :
    node.spotIn (spots.put pair entry) base ilk = node.spotIn spots base ilk := by
  refine spotIn_congr fun other ho => Spots.get?_put_of_ne _ _ fun he => h ?_
  rw [ho, he]

/-- The pair of two ids is that of no other values. -/
theorem spotIn_put_of_ids {base' ilk' : Value} {entry : SetSpot} (hb : base.IsId) (hi : ilk.IsId)
    (h : pairOf base ilk = .ok pair) (hne : (base', ilk') ≠ (base, ilk)) :
    node.spotIn (spots.put pair entry) base' ilk' = node.spotIn spots base' ilk' := by
  refine spotIn_put_of_ne fun h' => hne ?_
  rw [← h] at h'
  obtain ⟨rfl, rfl⟩ := (pairOf_eq_iff hb hi).mp h'
  rfl

end Node

/-! ## Single requests -/

/-- The request sets a spot. -/
def Request.setsSpot : Request → Bool
  | setSpotOracle .. => true
  | _ => false

/-- Setting a spot has a method of its own. -/
theorem Request.setsSpot_iff (r : Request) : r.setsSpot = true ↔ r.method = "setSpotOracle" := by
  cases r
  all_goals
    dsimp only [setsSpot, method]
    decide

namespace Node

variable {node : Node} {session : Session} {request : Request}

/-- What is answered is the node's answer. -/
theorem answer_of_respond {a : request.Answer} (h : (node.respond session request).1 = .ok a) :
    node.answer session request = .ok a := by
  unfold respond at h
  dsimp only at h
  split at h
  · cases h
  · exact h

/-- What is granted is the node's answer in some session. -/
theorem exists_answer_of_mem_granted {past : List Moment} {exchange : Exchange} (h : exchange ∈ granted node past) :
    ∃ session, node.answer session exchange.1 = .ok exchange.2 := by
  obtain ⟨m, -, hm⟩ := List.mem_filterMap.mp h
  unfold Moment.exchange? at hm
  split at hm
  next answer ha =>
    obtain rfl := Option.some.inj hm
    exact ⟨m.session, answer_of_respond ha⟩
  next => cases hm

/-- What is not refused is answered. -/
theorem respond_of_not_refused (h : ∀ method nth, node.refusal? method nth = none) :
    node.respond session request =
      (node.answer session request, effect (session.add (.request request)) request) := by
  unfold respond
  dsimp only
  rw [h]

/-- A request that sets no spot changes the trace only. -/
theorem respond_of_not_setsSpot (h : request.setsSpot = false) :
    (node.respond session request).2 = session.add (.request request) := by
  unfold respond
  dsimp only
  split
  · rfl
  · cases request <;> first | rfl | cases h

/-- Setting a spot fails and changes no spot, or is answered and sets the spot of the pair. -/
theorem respond_setSpotOracle (node : Node) (session : Session) (cauldron : Address) (base ilk : Value) (spot : Spot)
    (sender : Address) :
    (∃ failure, (node.respond session (.setSpotOracle cauldron base ilk spot sender)).1 = .error failure ∧
        (node.respond session (.setSpotOracle cauldron base ilk spot sender)).2.spots = session.spots) ∨
      ∃ pair, pairOf base ilk = .ok pair ∧
        (node.respond session (.setSpotOracle cauldron base ilk spot sender)).1 = .ok () ∧
        (node.respond session (.setSpotOracle cauldron base ilk spot sender)).2.spots =
          session.spots.put pair ⟨base, ilk, spot⟩ := by
  unfold respond
  dsimp only
  split
  · exact Or.inl ⟨_, rfl, rfl⟩
  · cases hp : pairOf base ilk with
    | ok pair =>
      refine Or.inr ⟨pair, rfl, ?_, ?_⟩
      · rw [answer, hp]
        rfl
      · rw [effect, ofAssets_of_pairOf hp]
        rfl
    | error failure =>
      refine Or.inl ⟨failure, ?_, ?_⟩
      · rw [answer, hp]
        rfl
      · unfold pairOf at hp
        split at hp
        · cases hp
        · next he =>
          rw [effect, he]
          rfl

section SetSpot

variable {cauldron sender : Address} {base ilk : Value} {spot : Spot}

/-- A spot that is set is that of a pair. -/
theorem spots_of_setSpotOracle_ok (h : (node.respond session (.setSpotOracle cauldron base ilk spot sender)).1 = .ok ()) :
    ∃ pair, pairOf base ilk = .ok pair ∧
      (node.respond session (.setSpotOracle cauldron base ilk spot sender)).2.spots =
        session.spots.put pair ⟨base, ilk, spot⟩ := by
  rcases respond_setSpotOracle node session cauldron base ilk spot sender with ⟨failure, hf, -⟩ | ⟨pair, hpair, -, hspots⟩
  · rw [hf] at h
    cases h
  · exact ⟨pair, hpair, hspots⟩

end SetSpot

/-- A request that fails changes no spot. -/
theorem spots_of_error {failure : Failure} (h : (node.respond session request).1 = .error failure) :
    (node.respond session request).2.spots = session.spots := by
  cases hs : request.setsSpot with
  | false =>
    rw [respond_of_not_setsSpot hs]
    rfl
  | true =>
    cases request with
    | setSpotOracle cauldron base ilk spot sender =>
      rcases respond_setSpotOracle node session cauldron base ilk spot sender with ⟨_, -, hspots⟩ | ⟨_, -, ho, -⟩
      · exact hspots
      · rw [ho] at h
        cases h
    | _ => cases hs

end Node

/-! ## Quiet scripts -/

namespace Script

variable {α β : Type} {node : Node}

/-- The script sets no spot, whatever it is answered. -/
def Quiet : Script α → Prop
  | done _ => True
  | fail _ => True
  | note _ next => next.Quiet
  | echo _ next => next.Quiet
  | ask request next => request.setsSpot = false ∧ ∀ answer, (next answer).Quiet

/-- The moments of a quiet script set no spot. -/
theorem Quiet.setsSpot_of_mem {x : Script α} (h : x.Quiet) {session : Session} {m : Moment}
    (hm : m ∈ x.moments node session) : m.request.setsSpot = false := by
  induction x generalizing session with
  | done a => cases hm
  | fail failure => cases hm
  | note notice next ih => exact ih h hm
  | echo line next ih => exact ih h hm
  | ask request next ih =>
    obtain ⟨hr, hnext⟩ := h
    rcases List.mem_cons.mp hm with rfl | hm
    · exact hr
    · exact ih _ (hnext _) hm

/-- A quiet script leaves the spots as they are. -/
theorem Quiet.spots_run {x : Script α} (h : x.Quiet) (session : Session) :
    (x.run node session).2.spots = session.spots := by
  induction x generalizing session with
  | done a => rfl
  | fail failure => rfl
  | note notice next ih => exact ih h (session.add (.note notice))
  | echo line next ih => exact ih h (session.print line)
  | ask request next ih =>
    obtain ⟨hr, hnext⟩ := h
    rw [run_ask, ih _ (hnext _), Node.respond_of_not_setsSpot hr]
    rfl

end Script

/-! ## A node -/

/-- A node that refuses nothing. It has one series entry, one price and one balance, and its clock goes on by a second
with each request. -/
def Node.steady : Node where
  spot _ _ := .ok ⟨.string "oracle", .int 1400000⟩
  reply earlier
    | .latestBlock => .ok (.int (1000 + earlier.length : Nat))
    | .receipt _ => .error .noTransactions
    | .deploy .. => .ok .null
    | .send .. => .ok earlier.length
    | .series .. => .ok ⟨.string "token", .string (Mainnet.Asset.id .dai), .int 1640919600⟩
    | .debt .. => .ok (.int 40)
    | .spotOracles .. => .ok ⟨.string "oracle", .int 1400000⟩
    | .decimals _ => .ok (.int 6)
    | .peek .. => .ok (.int 2000)
    | .build .. => .ok [.string ("vault " ++ Text.ofNat earlier.length)]
    | .joins .. => .ok "join"
    | .balanceOf .. => .ok (.int 5000)
    | .liquidate .. => .ok "hash"
    | .reset .. | .setBalance .. | .impersonate _ | .mine _ | .setSpotOracle .. | .pour .. | .transfer .. | .approve ..
      | .wrap .. | .auction .. => .ok ()

end LiquidationDrill
