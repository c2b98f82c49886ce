import LiquidationDrill.Proofs.Json.Numbers
import LiquidationDrill.Proofs.Json.Settled
import LiquidationDrill.Proofs.Json.Strings

/-!
# Values that are read are spelled

The reader is sound: it takes from a text what spells the value that it reads (`value_sound`), and a text that is read
as a whole spells the value (`read_sound`). Values without parts are those of the grammar one by one (`scalar_sound`).
For items and members the induction is on the number of values that are left, and the white space around each of them
is kept with it (`items_sound`, `members_sound`).
-/

namespace LiquidationDrill.Json

/-! ## White space and commas -/

theorem isSpace_iff {c : CodePoint} : isSpace c = true ↔ c = ' ' ∨ c = '\t' ∨ c = '\n' ∨ c = '\r' := by
  simp [isSpace, or_assoc]

/-- White space is what the reader skips. -/
theorem isWhite_iff {t : Text} : IsWhite t ↔ ∀ c ∈ t, isSpace c = true := by
  simp only [IsWhite, isSpace_iff]

theorem exists_white (t : Text) : ∃ space rest, t = space ++ rest ∧ skipSpace t = rest ∧ IsWhite space := by
  refine ⟨t.takeWhile isSpace, _, List.takeWhile_append_dropWhile.symm, rfl, isWhite_iff.mpr fun c hc => ?_⟩
  exact List.all_eq_true.mp List.all_takeWhile c hc

/-- A text before others, with what parts it from them. -/
theorem join_cons {between t : Text} {ts : List Text} (h : ts ≠ []) :
    Text.join between (t :: ts) = t ++ (between ++ Text.join between ts) := by
  obtain ⟨u, ts, rfl⟩ := List.exists_cons_of_ne_nil h
  exact List.append_assoc t between _

/-- The first of several texts is the beginning. -/
theorem exists_join_cons (between t : Text) (ts : List Text) : ∃ more, Text.join between (t :: ts) = t ++ more := by
  cases ts with
  | nil => exact ⟨[], (List.append_nil t).symm⟩
  | cons u ts => exact ⟨_, join_cons (List.cons_ne_nil u ts)⟩

/-! ## Soundness -/

/-- A value without parts that is read is spelled. -/
theorem scalar_sound {t rest : Text} {x : Value} (h : scalar t = .ok (x, rest)) :
    ∃ used, t = used ++ rest ∧ Spells used x := by
  unfold scalar at h
  split at h
  next hn =>
    cases h
    obtain ⟨name, hm, rfl⟩ := named?_eq_some.mp hn
    refine ⟨name, rfl, ?_⟩
    simp only [names, List.mem_cons, Prod.mk.injEq, List.not_mem_nil, or_false] at hm
    rcases hm with ⟨rfl, rfl⟩ | ⟨rfl, rfl⟩ | ⟨rfl, rfl⟩ | ⟨rfl, rfl⟩ | ⟨rfl, rfl⟩ | ⟨rfl, rfl⟩
    · exact .null
    · exact .true
    · exact .false
    · exact .nan
    · exact .infinity
    · exact .negativeInfinity
  next =>
    split at h
    · cases h
    next n after hn =>
      obtain ⟨y, hy, he⟩ := Result.map_eq_ok.mp h
      cases he
      obtain ⟨used, ht, hs⟩ := numeral?_sound hn hy
      exact ⟨used, ht, .number hs⟩

section Parts

variable {readValue : Text → Except Fault (Value × Text)}
  (hread : ∀ {t rest : Text} {x : Value}, readValue t = .ok (x, rest) → ∃ used, t = used ++ rest ∧ Spells used x)
include hread

/-- Items that are read are spelled, each with the white space around it. -/
theorem items_sound {fuel : Nat} {before t rest : Text} {xs : List Value} (hb : IsWhite before)
    (h : items readValue fuel t = .ok (xs, rest)) :
    ∃ spelled : List (Text × Value), spelled ≠ [] ∧ (∀ item ∈ spelled, Spells item.1 item.2) ∧
      before ++ t = Text.join [','] (spelled.map Prod.fst) ++ .ofChar ']' :: rest ∧ xs = spelled.map Prod.snd := by
  induction fuel generalizing before t xs with
  | zero => cases h
  | succ fuel ih =>
    obtain ⟨x, after, hx, hparts⟩ := items_eq_ok.mp h
    obtain ⟨space, tail, rfl, htail, hspace⟩ := exists_white after
    obtain ⟨used, rfl, hs⟩ := hread hx
    rw [htail] at hparts
    have hitem : Spells (before ++ (used ++ space)) x := .spaced hb hs hspace
    rcases hparts with ⟨rfl, rfl⟩ | ⟨next, ys, rfl, hy, rfl⟩
    · refine ⟨[(before ++ (used ++ space), x)], List.cons_ne_nil _ _, List.forall_mem_singleton.mpr hitem, ?_, rfl⟩
      simp [Text.join]
    · obtain ⟨space', tail', rfl, htail', hspace'⟩ := exists_white next
      rw [htail'] at hy
      obtain ⟨spelled, hne, hall, ht, rfl⟩ := ih hspace' hy
      refine ⟨(before ++ (used ++ space), x) :: spelled, List.cons_ne_nil _ _, List.forall_mem_cons.mpr ⟨hitem, hall⟩,
        ?_, rfl⟩
      rw [ht, List.map_cons, join_cons (by simpa using hne)]
      simp

/-- So are members. -/
theorem members_sound {fuel : Nat} {before t rest : Text} {xs : List (Text × Value)} (hb : IsWhite before)
    (h : members readValue fuel t = .ok (xs, rest)) :
    ∃ spelled : List Member, spelled ≠ [] ∧ (∀ member ∈ spelled, member.IsLabelled) ∧
      (∀ member ∈ spelled, Spells member.body member.value) ∧
      before ++ t = Text.join [','] (spelled.map Member.text) ++ .ofChar '\x7d' :: rest ∧
      xs = spelled.map Member.named := by
  induction fuel generalizing before t xs with
  | zero => cases h
  | succ fuel ih =>
    obtain ⟨name, mid, x, after, hm, hx, hparts⟩ := members_eq_ok.mp h
    obtain ⟨string, closed, colon, rfl, hstring, hcolon, rfl⟩ := memberName_eq_ok.mp hm
    -- white space stands before the colon, after it, and after the value
    obtain ⟨space, tail, rfl, htail, hspace⟩ := exists_white closed
    obtain ⟨space₁, start, rfl, hstart, hspace₁⟩ := exists_white colon
    obtain ⟨space₂, tail₂, rfl, htail₂, hspace₂⟩ := exists_white after
    obtain ⟨inside, rfl, hinside⟩ := stringBody_sound hstring
    obtain ⟨used, hused, hs⟩ := hread hx
    rw [hstart] at hused
    rw [htail] at hcolon
    rw [htail₂] at hparts
    subst hused hcolon
    let member : Member :=
      { label := before ++ ((.ofChar '"' :: (inside ++ [.ofChar '"'])) ++ space)
        name
        body := space₁ ++ (used ++ space₂)
        value := x }
    have hlabel : member.IsLabelled := ⟨before, _, space, rfl, hb, ⟨inside, rfl, hinside⟩, hspace⟩
    have hbody : Spells member.body member.value := .spaced hspace₁ hs hspace₂
    rcases hparts with ⟨rfl, rfl⟩ | ⟨next, ys, rfl, hy, rfl⟩
    · refine ⟨[member], List.cons_ne_nil _ _, List.forall_mem_singleton.mpr hlabel,
        List.forall_mem_singleton.mpr hbody, ?_, rfl⟩
      simp [Text.join, Member.text, member]
    · obtain ⟨space₃, tail₃, rfl, htail₃, hspace₃⟩ := exists_white next
      rw [htail₃] at hy
      obtain ⟨spelled, hne, hlabels, hbodies, ht, rfl⟩ := ih hspace₃ hy
      refine ⟨member :: spelled, List.cons_ne_nil _ _, List.forall_mem_cons.mpr ⟨hlabel, hlabels⟩,
        List.forall_mem_cons.mpr ⟨hbody, hbodies⟩, ?_, rfl⟩
      rw [ht, List.map_cons, join_cons (by simpa using hne)]
      simp [Member.text, member]

end Parts

/-- A string that is read is spelled with its quotes. -/
theorem string_sound {t s rest : Text} (h : stringBody t = .ok (s, rest)) :
    ∃ used, .ofChar '"' :: t = used ++ rest ∧ Spells used (.string s) := by
  obtain ⟨inside, rfl, hs⟩ := stringBody_sound h
  exact ⟨.ofChar '"' :: (inside ++ [.ofChar '"']), by simp, .string ⟨inside, rfl, hs⟩⟩

/-- **A value that is read is spelled by the beginning of the text.** -/
theorem value_sound {depth : Nat} {t rest : Text} {x : Value} (h : value depth t = .ok (x, rest)) :
    ∃ used, t = used ++ rest ∧ Spells used x := by
  induction depth generalizing t x rest with
  | zero =>
    cases value_eq_ok.mp h with
    | string hs => exact string_sound hs
    | scalar _ hs => exact scalar_sound hs
  | succ depth ih =>
    cases value_eq_ok.mp h with
    | string hs => exact string_sound hs
    | @emptyArray _ t _ hd =>
      obtain ⟨space, tail, rfl, htail, hspace⟩ := exists_white t
      obtain rfl := htail.symm.trans hd
      exact ⟨_, by simp, .emptyArray hspace⟩
    | @array _ t next _ d xs hd _ hi =>
      obtain ⟨space, tail, rfl, htail, hspace⟩ := exists_white t
      obtain rfl := htail.symm.trans hd
      obtain ⟨spelled, hne, hall, htext, rfl⟩ := items_sound ih hspace hi
      exact ⟨_, by rw [htext]; simp, .array hne hall⟩
    | @emptyObject _ t _ hd =>
      obtain ⟨space, tail, rfl, htail, hspace⟩ := exists_white t
      obtain rfl := htail.symm.trans hd
      exact ⟨_, by simp, .emptyObject hspace⟩
    | @object _ t next _ d xs hd _ hi =>
      obtain ⟨space, tail, rfl, htail, hspace⟩ := exists_white t
      obtain rfl := htail.symm.trans hd
      obtain ⟨spelled, hne, hlabels, hbodies, htext, rfl⟩ := members_sound ih hspace hi
      rw [ofWritten_eq_settled]
      exact ⟨_, by rw [htext]; simp, .object hne hlabels hbodies⟩
    | scalar _ hs => exact scalar_sound hs

/-- **A text that is read spells what is read.** -/
theorem read_sound {t : Text} {x : Value} (h : read t = .ok x) : Spells t x := by
  obtain ⟨-, rest, hv, he⟩ := read_eq_ok.mp h
  obtain ⟨used, ht, hs⟩ := value_sound hv
  obtain ⟨space, tail, rfl, htail, hspace⟩ := exists_white t
  obtain ⟨space', tail', rfl, htail', hspace'⟩ := exists_white rest
  obtain rfl := htail'.symm.trans he
  obtain rfl := htail.symm.trans ht
  rw [List.append_nil]
  exact .spaced hspace hs hspace'

/-! ## What is spelled -/

/-- No text spells bytes. -/
theorem Spells.ne_bytes {t : Text} {x : Value} (h : Spells t x) (bs : List UInt8) : x ≠ .bytes bs := by
  induction h with
  | spaced _ _ _ ih => exact ih
  | _ => exact fun he => by cases he

/-- The members of an object that is spelled are spelled. -/
theorem Spells.of_mem {t name : Text} {x : Value} {members : Value.Members} (h : Spells t (.object members))
    (hm : (name, x) ∈ members) : ∃ body, Spells body x := by
  generalize hv : Value.object members = v at h
  induction h with
  | spaced _ _ _ ih => exact ih hv
  | emptyObject =>
    cases hv
    cases hm
  | @object spelled _ _ hbodies =>
    cases hv
    obtain ⟨member, hmember, he⟩ := List.mem_map.mp (mem_of_mem_settled hm)
    cases he
    exact ⟨member.body, hbodies member hmember⟩
  | _ => cases hv

end LiquidationDrill.Json
