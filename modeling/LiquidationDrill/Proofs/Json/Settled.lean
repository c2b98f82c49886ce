import LiquidationDrill.Proofs.Json.Grammar
import Mathlib.Data.List.Induction

/-!
# Repeated names

The reader gives a name its value where the name first appeared, member by member. In the end the names stand in the
order of their first appearance and each has the value that it was given last (`Json.ofWritten_eq_settled`). So every
member that is left is one that was written (`Json.mem_of_mem_settled`).
-/

namespace LiquidationDrill

/-- One more name comes last if it is new. -/
theorem eraseDups_concat (names : List Text) (name : Text) :
    (names ++ [name]).eraseDups = if name ∈ names then names.eraseDups else names.eraseDups ++ [name] := by
  rw [List.eraseDups_append]
  split <;> simp [List.removeAll, List.eraseDups_cons, *]

theorem nodup_eraseDups (names : List Text) : names.eraseDups.Nodup := by
  induction names using List.reverseRecOn with
  | nil => exact List.nodup_nil
  | append_singleton names name ih =>
    rw [eraseDups_concat]
    split
    case isTrue => exact ih
    case isFalse hn =>
      refine List.nodup_append.mpr ⟨ih, List.pairwise_singleton _ name, fun other ho _ hm => ?_⟩
      rintro rfl
      exact hn (List.mem_eraseDups.mp (by rwa [List.mem_singleton.mp hm] at ho))

/-- A name among others that are all different gets its value at its place. -/
theorem Value.Members.insert_map {names : List Text} (hn : names.Nodup) {name : Text} (h : name ∈ names)
    (valueOf : Text → Value) (x : Value) :
    insert (names.map fun other => (other, valueOf other)) name x =
      names.map fun other => (other, if other = name then x else valueOf other) := by
  induction names with
  | nil => cases h
  | cons other names ih =>
    obtain ⟨hother, hn⟩ := List.nodup_cons.mp hn
    simp only [List.map_cons, insert]
    split
    case isTrue he =>
      subst he
      refine congrArg ((other, x) :: ·) (List.map_congr_left fun name hm => ?_)
      rw [if_neg fun e : name = other => hother (e ▸ hm)]
    case isFalse he => rw [ih hn ((List.mem_cons.mp h).resolve_left fun e => he e.symm)]

/-- The value of a name is that of a member. -/
theorem Value.Members.mem_of_get? {members : Value.Members} {name : Text} {x : Value}
    (h : members.get? name = some x) : (name, x) ∈ members := by
  induction members with
  | nil => cases h
  | cons member members ih =>
    obtain ⟨other, y⟩ := member
    rw [get?] at h
    split at h
    case isTrue hn =>
      cases h
      exact hn ▸ List.mem_cons_self
    case isFalse => exact List.mem_cons_of_mem _ (ih h)

/-- A name that is there has a value. -/
theorem Value.Members.get?_isSome {members : Value.Members} {name : Text} (h : name ∈ members.map Prod.fst) :
    ∃ x, members.get? name = some x := by
  induction members with
  | nil => cases h
  | cons member members ih =>
    obtain ⟨other, y⟩ := member
    rw [get?]
    split
    case isTrue => exact ⟨y, rfl⟩
    case isFalse hn => exact ih ((List.mem_cons.mp h).resolve_left fun e => hn e.symm)

/-- **The reader settles repeated names as the grammar does.** -/
theorem Json.ofWritten_eq_settled (written : List (Text × Value)) :
    Value.Members.ofWritten written = Json.settled written := by
  induction written using List.reverseRecOn with
  | nil => rfl
  | append_singleton written member ih =>
    obtain ⟨name, x⟩ := member
    have hnext : Value.Members.ofWritten (written ++ [(name, x)]) =
        (Value.Members.ofWritten written).insert name x := List.foldl_append
    have hlast (other : Text) : (Value.Members.get? (written ++ [(name, x)]).reverse other).getD .null =
        if other = name then x else (Value.Members.get? written.reverse other).getD .null := by
      rw [List.reverse_append, List.reverse_singleton, List.singleton_append, Value.Members.get?]
      by_cases h : name = other
      · rw [if_pos h, if_pos h.symm, Option.getD_some]
      · rw [if_neg h, if_neg fun e => h e.symm]
    rw [hnext, ih, settled, settled, List.map_append, List.map_singleton, eraseDups_concat]
    simp only [hlast]
    split
    case isTrue hm =>
      exact Value.Members.insert_map (nodup_eraseDups _) (List.mem_eraseDups.mpr hm) _ x
    case isFalse hm =>
      have hne : ∀ other ∈ (written.map Prod.fst).eraseDups, other ≠ name := fun other ho e =>
        hm (e ▸ List.mem_eraseDups.mp ho)
      rw [Value.Members.insert_of_not_mem, List.map_append, List.map_singleton, if_pos rfl]
      · refine congrArg (· ++ _) (List.map_congr_left fun other ho => ?_)
        rw [if_neg (hne other ho)]
      · simpa using hm

/-- **Every member that is settled was written.** -/
theorem Json.mem_of_mem_settled {written : List (Text × Value)} {name : Text} {x : Value}
    (h : (name, x) ∈ settled written) : (name, x) ∈ written := by
  obtain ⟨other, ho, he⟩ := List.mem_map.mp h
  obtain ⟨rfl, hx⟩ := Prod.mk.inj he
  have hmem : other ∈ written.reverse.map Prod.fst := by
    rw [List.map_reverse, List.mem_reverse]
    exact List.mem_eraseDups.mp ho
  obtain ⟨y, hy⟩ := Value.Members.get?_isSome hmem
  rw [hy, Option.getD_some] at hx
  exact List.mem_reverse.mp (hx ▸ Value.Members.mem_of_get? hy)

end LiquidationDrill
