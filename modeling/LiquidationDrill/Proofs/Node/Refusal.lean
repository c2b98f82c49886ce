import LiquidationDrill.Proofs.Node.Spots

/-!
# One refusal more

A node that refuses nothing, against the same node with one refusal (`Node.refusing`): a request is the refused one, or
both nodes respond alike and the refused one is still to come (`Node.respond_refusing_cases`).
-/

namespace LiquidationDrill

/-! ## Counting requests -/

namespace Session

variable (session : Session) (method : Text)

theorem count_add_request (r : Request) :
    (session.add (.request r)).count method = session.count method + if r.method = method then 1 else 0 := by
  simp only [count, add, List.countP_append, List.countP_singleton, decide_eq_true_eq]

theorem count_add_note (notice : Notice) : (session.add (.note notice)).count method = session.count method := by
  simp [count, add, List.countP_append]

end Session

namespace Node

variable {node : Node} {session : Session} {r : Request}

/-- Every request counts, whether it is refused or not. -/
theorem count_respond (node : Node) (session : Session) (r : Request) (method : Text) :
    (node.respond session r).2.count method = session.count method + if r.method = method then 1 else 0 := by
  rw [← Session.count_add_request, Session.count, Session.count, respond_trace]
  rfl

/-! ## Answers -/

/-- A refusal changes no answer. -/
theorem answer_refusing (node : Node) (refusal : Refusal) (session : Session) (r : Request) :
    (node.refusing refusal).answer session r = node.answer session r := by
  cases r <;> rfl

/-- What is not refused is answered alike. -/
theorem respond_congr {other : Node} (ha : ∀ session r, other.answer session r = node.answer session r)
    (hr : other.refusal? r.method ((session.add (.request r)).count r.method) =
      node.refusal? r.method ((session.add (.request r)).count r.method)) :
    other.respond session r = node.respond session r := by
  unfold respond
  dsimp only
  rw [hr, ha]

section Refusing

variable {method : Text} {n : Nat}

/-- Requests of other methods are not refused. -/
theorem respond_refusing_of_ne (h : r.method ≠ method) (message : Text) :
    (node.refusing ⟨method, n, message⟩).respond session r = node.respond session r := by
  refine respond_congr (answer_refusing node _) ?_
  show (if method = r.method ∧ _ then _ else _) = _
  rw [if_neg fun hm => h hm.1.symm]

/-- A request is the refused one, or the refused one is still to come. -/
theorem respond_refusing_cases (hn : ∀ method nth, node.refusal? method nth = none) (hcount : session.count method < n)
    (r : Request) (message : Text) :
    (r.method = method ∧ session.count method + 1 = n ∧
        (node.refusing ⟨method, n, message⟩).respond session r =
          (.error (.refused message), session.add (.request r))) ∨
      ((node.refusing ⟨method, n, message⟩).respond session r = node.respond session r ∧
        (node.respond session r).2.count method < n) := by
  by_cases hm : r.method = method
  · subst hm
    have hasked : (session.add (.request r)).count r.method = session.count r.method + 1 := by
      rw [Session.count_add_request, if_pos rfl]
    have hrefusal : (node.refusing ⟨r.method, n, message⟩).refusal? r.method
          ((session.add (.request r)).count r.method) =
        if session.count r.method + 1 = n then some message else none := by
      show (if r.method = r.method ∧ (n : Int) = ((session.add (.request r)).count r.method : Nat) then _ else _) = _
      rw [hasked, hn]
      by_cases he : session.count r.method + 1 = n
      · rw [if_pos he, if_pos ⟨rfl, by omega⟩]
      · rw [if_neg he, if_neg fun h => he (by omega)]
    by_cases he : session.count r.method + 1 = n
    · refine Or.inl ⟨rfl, he, ?_⟩
      rw [if_pos he] at hrefusal
      unfold respond
      dsimp only
      rw [hrefusal]
    · refine Or.inr ⟨respond_congr (answer_refusing node _) ?_, ?_⟩
      · rw [hrefusal, if_neg he, hn]
      · rw [count_respond, if_pos rfl]
        omega
  · refine Or.inr ⟨respond_refusing_of_ne hm message, ?_⟩
    rw [count_respond, if_neg hm]
    exact hcount

end Refusing

end Node

end LiquidationDrill
