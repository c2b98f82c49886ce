import LiquidationDrill.Proofs.Node.Moments
import LiquidationDrill.Proofs.Result

/-!
# Requests in turn

A script asks for one thing if it makes one request, whatever it tells before and after it, and takes its value from the
answer (`Script.Asks`). A script for each item of a list, one after the other, makes the requests of the items in turn
(`InTurn`, `Script.mapM_inTurn`): all of them, or those up to the first one that fails, whose failure comes out.
-/

namespace LiquidationDrill

variable {α β : Type} {node : Node} {session : Session}

/-- Requests are made in turn by a script in a session: in their order, none of them twice, and none after one that
fails. -/
structure InTurn (node : Node) (requests : List Request) (x : Script α) (session : Session) : Prop where
  /-- The trace shows the requests that are made, and no others. -/
  shown : (x.run node session).2.requests = session.requests ++ (x.moments node session).map Moment.request
  /-- They are the first ones. -/
  made : (x.moments node session).map Moment.request <+: requests
  /-- If none fails, they are all, and the script does not fail. -/
  whole : (∀ m ∈ x.moments node session, m.outcome node = .ok ()) →
    (x.moments node session).map Moment.request = requests ∧ ∃ a, (x.run node session).1 = .ok a
  /-- One that fails is the last one, and its failure comes out. -/
  stops : ∀ k m failure, (x.moments node session)[k]? = some m → m.outcome node = .error failure →
    (x.moments node session).length = k + 1 ∧ (x.run node session).1 = .error failure

namespace Script

/-- The script makes one request, and ends with what it takes from the answer or as the request fails. -/
def Asks (node : Node) (x : Script α) (r : Request) (value : r.Answer → α) : Prop :=
  ∀ session, ∃ asked, x.moments node session = [⟨asked, r⟩] ∧
    (x.run node session).1 = (node.respond asked r).1.map value

/-- A request alone asks for one thing. -/
theorem asks_request (r : Request) : (request r).Asks node r fun a => a := by
  intro session
  refine ⟨session, ?_, ?_⟩
  · rw [request, moments]
    cases (node.respond session r).1 <;> rfl
  · rw [run_request]
    cases (node.respond session r).1 <;> rfl

section Asks

variable {x : Script α} {r : Request} {value : r.Answer → α} (h : x.Asks node r value)
include h

/-- If it ends well, this is all that is exchanged. -/
theorem Asks.granted_eq {b : α} (hb : (x.run node session).1 = .ok b) :
    ∃ a, value a = b ∧ granted node (x.moments node session) = [⟨r, a⟩] := by
  obtain ⟨asked, hmoment, hresult⟩ := h session
  rw [hresult] at hb
  obtain ⟨a, ha, hvalue⟩ := Result.map_eq_ok.mp hb
  refine ⟨a, hvalue, ?_⟩
  rw [hmoment]
  exact @granted_snoc_ok node [] asked r a ha

/-- Something may be told before it. -/
theorem Asks.after_info (message : Text) : (info message >>= fun _ => x).Asks node r value :=
  fun session => h (session.add (.note (.info message)))

/-- Something may be told after it. -/
theorem Asks.then_info (message : α → Text) : (x >>= fun a => info (message a) >>= fun _ => pure a).Asks node r value := by
  intro session
  obtain ⟨asked, hmoment, hresult⟩ := h session
  refine ⟨asked, ?_, ?_⟩
  · refine (moments_bind _ _ _).trans ?_
    rw [hmoment]
    rcases x.run node session with ⟨_ | _, after⟩ <;> rfl
  · rw [← hresult]
    refine (congrArg Prod.fst (run_bind _ _ _ _)).trans ?_
    rcases x.run node session with ⟨_ | _, after⟩ <;> rfl

end Asks

/-! ## Values that are made into others -/

/-- Nothing is asked for to make a value into another one. -/
theorem moments_map (x : Script α) (f : α → β) (session : Session) :
    (x >>= fun a => pure (f a)).moments node session = x.moments node session := by
  refine (moments_bind _ _ _).trans ?_
  rcases x.run node session with ⟨_ | _, after⟩ <;> exact List.append_nil _

theorem run_map (x : Script α) (f : α → β) (session : Session) :
    (x >>= fun a => pure (f a)).run node session = ((x.run node session).1.map f, (x.run node session).2) := by
  refine (run_bind _ _ _ _).trans ?_
  rcases x.run node session with ⟨_ | _, after⟩ <;> rfl

end Script

namespace InTurn

open Script

variable {requests : List Request} {r : Request}

/-- No requests are made in turn by a script that ends at once. -/
theorem nil (a : α) : InTurn node [] (pure a : Script α) session where
  shown := requests_run node _ session
  made := List.nil_prefix
  whole _ := ⟨rfl, a, rfl⟩
  stops k m failure hm := by cases hm

/-- The value may be made into another one. -/
theorem map {x : Script α} (h : InTurn node requests x session) (f : α → β) :
    InTurn node requests (x >>= fun a => pure (f a)) session := by
  refine ⟨requests_run node _ session, ?_, ?_, ?_⟩
  · rw [moments_map]
    exact h.made
  · rw [moments_map, run_map]
    intro hall
    obtain ⟨hm, a, ha⟩ := h.whole hall
    exact ⟨hm, f a, by rw [ha]; rfl⟩
  · rw [moments_map, run_map]
    intro k m failure hm hf
    obtain ⟨hl, hr⟩ := h.stops k m failure hm hf
    exact ⟨hl, by rw [hr]; rfl⟩

section Cons

variable {x : Script α} {m : Moment} (hr : m.request = r)
include hr

/-- A request that fails is the only one, whichever were to come after it. -/
theorem refused {failure : Failure} (hx : x.moments node session = [m]) (ho : m.outcome node = .error failure)
    (he : (x.run node session).1 = .error failure) : InTurn node (r :: requests) x session where
  shown := requests_run node x session
  made := by
    rw [hx, List.map_singleton, hr]
    exact List.prefix_append [r] requests
  whole hall := by
    have hok := hall m (by rw [hx]; exact List.mem_singleton_self m)
    rw [ho] at hok
    cases hok
  stops k other failure' hm hf := by
    rw [hx] at hm ⊢
    cases k with
    | zero =>
      obtain rfl : m = other := Option.some.inj hm
      rw [ho] at hf
      exact ⟨rfl, he.trans (congrArg _ (Except.error.inj hf))⟩
    | succ k => cases hm

/-- A request that is answered comes before those of the script that goes on. -/
theorem answered {y : Script α} {after : Session} (hx : x.moments node session = m :: y.moments node after)
    (ho : m.outcome node = .ok ()) (he : (x.run node session).1 = (y.run node after).1)
    (hy : InTurn node requests y after) : InTurn node (r :: requests) x session where
  shown := requests_run node x session
  made := by
    rw [hx, List.map_cons, hr]
    exact List.cons_prefix_cons.mpr ⟨rfl, hy.made⟩
  whole hall := by
    rw [hx] at hall ⊢
    obtain ⟨hm, a, ha⟩ := hy.whole fun other hmem => hall other (List.mem_cons_of_mem m hmem)
    exact ⟨by rw [List.map_cons, hr, hm], a, he.trans ha⟩
  stops k other failure hm hf := by
    rw [hx] at hm ⊢
    cases k with
    | zero =>
      obtain rfl : m = other := Option.some.inj hm
      rw [ho] at hf
      cases hf
    | succ k =>
      obtain ⟨hl, hend⟩ := hy.stops k other failure hm hf
      exact ⟨by rw [List.length_cons, hl], he.trans hend⟩

end Cons

/-- One request more is made first. The others are made after it is answered, and not at all if it fails. -/
theorem cons {x : Script α} {value : r.Answer → α} {f : α → Script β} (hx : x.Asks node r value)
    (hf : ∀ a after, InTurn node requests (f a) after) : InTurn node (r :: requests) (x >>= f) session := by
  obtain ⟨asked, hmoment, hresult⟩ := hx session
  generalize hrun : x.run node session = ended at hresult
  obtain ⟨result, after⟩ := ended
  -- the script ends at the first request, or goes on from where its answer left the session
  cases ha : (node.respond asked r).1 with
  | error failure =>
    obtain rfl : result = .error failure := hresult.trans (by rw [ha]; rfl)
    obtain ⟨hthen, hmoments⟩ := then_of_error (f := f) hrun
    exact refused rfl (hmoments.trans hmoment) (Moment.outcome_of_error ha) (congrArg Prod.fst hthen)
  | ok a =>
    obtain rfl : result = .ok (value a) := hresult.trans (by rw [ha]; rfl)
    obtain ⟨hthen, hmoments⟩ := then_of_ok (f := f) hrun
    refine answered (m := ⟨asked, r⟩) rfl ?_ (Moment.outcome_of_ok ha) (congrArg Prod.fst hthen) (hf (value a) after)
    rw [hmoments, hmoment, List.singleton_append]

end InTurn

namespace Script

/-- **Where each item of a list is asked for, the requests of the items are made in turn.** -/
theorem mapM_inTurn {f : α → Script β} {r : α → Request} {value : ∀ a, (r a).Answer → β}
    (h : ∀ a, (f a).Asks node (r a) (value a)) (l : List α) (session : Session) :
    InTurn node (l.map r) (l.mapM f) session := by
  induction l generalizing session with
  | nil =>
    rw [List.mapM_nil]
    exact .nil []
  | cons a l ih =>
    rw [List.mapM_cons]
    exact .cons (h a) fun b after => (ih after).map (b :: ·)

/-- What a list is made into comes item by item out of what is exchanged for the items. -/
theorem mapM_granted {f : α → Script β} {e : α → β → Exchange}
    (h : ∀ a session b, ((f a).run node session).1 = .ok b → granted node ((f a).moments node session) = [e a b])
    {l : List α} {session : Session} {bs : List β} (hl : ((l.mapM f).run node session).1 = .ok bs) :
    bs.length = l.length ∧ granted node ((l.mapM f).moments node session) = List.zipWith e l bs := by
  induction l generalizing session bs with
  | nil =>
    rw [List.mapM_nil] at hl ⊢
    cases hl
    exact ⟨rfl, rfl⟩
  | cons a l ih =>
    rw [List.mapM_cons] at hl ⊢
    cases hrun : (f a).run node session with
    | mk result after =>
      cases result with
      | error failure =>
        rw [(then_of_error hrun).1] at hl
        cases hl
      | ok b =>
        obtain ⟨hthen, hmoments⟩ := then_of_ok (f := fun b => l.mapM f >>= fun bs => pure (b :: bs)) hrun
        rw [hthen, run_map] at hl
        obtain ⟨rest, hrest, rfl⟩ := Result.map_eq_ok.mp hl
        obtain ⟨hlength, hgranted⟩ := ih hrest
        refine ⟨congrArg (· + 1) hlength, ?_⟩
        rw [hmoments, moments_map, granted_append, h a session b (congrArg Prod.fst hrun), hgranted]
        rfl

end Script

end LiquidationDrill
