import LiquidationDrill.Proofs.Json.Passing

/-!
# Texts beyond the limits of the reader

The reader gives up on a text for three limits only, at a value that it comes to from value to value (`Reaches`) and
that exceeds the limit there (`Stuck`); strings exceed nothing (`stringBody_ne_beyond`). Each limit shows in the text
(`Exceeds`): a row of more digits than `Text.maxDigits`, or arrays and objects that are nested deeper than the reader
goes. `value_stuck` and `read_stuck` name the value, `read_beyond` what shows in the text.
-/

namespace LiquidationDrill.Json

/-! ## Where the reader comes to -/

/-- The reader comes from a value at `t` to one at `t'`; of `depth` levels `depth'` are left there. -/
inductive Reaches : (depth : Nat) → (t : Text) → (depth' : Nat) → (t' : Text) → Prop
  | here (depth : Nat) (t : Text) : Reaches depth t depth t
  | firstItem {depth depth' : Nat} {t t' : Text} :
      Reaches depth (skipSpace t) depth' t' → Reaches (depth + 1) ('[' :: t) depth' t'
  | firstMember {depth depth' : Nat} {t t' name rest : Text} : memberName (skipSpace t) = .ok (name, rest) →
      Reaches depth rest depth' t' → Reaches (depth + 1) ('\x7b' :: t) depth' t'
  | nextItem {depth depth' : Nat} {t t' after next : Text} {x : Value} : value depth t = .ok (x, after) →
      skipSpace after = .ofChar ',' :: next → Reaches depth (skipSpace next) depth' t' → Reaches depth t depth' t'
  | nextMember {depth depth' : Nat} {t t' after next name rest : Text} {x : Value} : value depth t = .ok (x, after) →
      skipSpace after = .ofChar ',' :: next → memberName (skipSpace next) = .ok (name, rest) →
        Reaches depth rest depth' t' → Reaches depth t depth' t'

/-- A value that the reader does not begin to read, or an integer that it does not convert. -/
inductive Stuck : (depth : Nat) → Text → Limit → Prop
  | integer {depth : Nat} {t rest : Text} {n : Numeral} : numeral? t = some (n, rest) → n.fraction = [] →
      n.exponent = none → Text.maxDigits < n.whole.length → Stuck depth t (.integerTooLong n.whole.length)
  | array (t : Text) : Stuck 0 ('[' :: t) .arrayTooDeep
  | object (t : Text) : Stuck 0 ('\x7b' :: t) .objectTooDeep

/-- What a text exceeds when it is read with arrays and objects nested at most `depth` deep. -/
def Exceeds (depth : Nat) (t : Text) : Limit → Prop
  | .integerTooLong n =>
    Text.maxDigits < n ∧ ∃ ds : Text, ds.length = n ∧ ds <:+: t ∧ ∀ c ∈ ds, c.isDigit = true
  | .arrayTooDeep | .objectTooDeep => ∀ n, n + depth < nestingFrom .between n t

namespace Exceeds

variable {depth : Nat} {t rest : Text} {limit : Limit}

/-- What the rest of a text exceeds, the text does. -/
theorem of_passes (h : Passes t rest) (he : Exceeds depth rest limit) : Exceeds depth t limit := by
  cases limit with
  | integerTooLong n =>
    obtain ⟨hn, ds, hl, hi, hd⟩ := he
    exact ⟨hn, ds, hl, hi.trans h.suffix.isInfix, hd⟩
  | arrayTooDeep => exact fun n => Nat.lt_of_lt_of_le (he n) (h.nesting_le n)
  | objectTooDeep => exact fun n => Nat.lt_of_lt_of_le (he n) (h.nesting_le n)

/-- Before a bracket or a brace one level less is left. -/
theorem opening {c : CodePoint} (hc : c = '[' ∨ c = '\x7b') (he : Exceeds depth t limit) :
    Exceeds (depth + 1) (c :: t) limit := by
  have hq : c ≠ '"' := by rcases hc with rfl | rfl <;> decide
  have hdeep (h : ∀ n, n + depth < nestingFrom .between n t) (n : Nat) :
      n + (depth + 1) < nestingFrom .between n (c :: t) := by
    rw [nestingFrom, if_neg hq, if_pos hc]
    have := h (n + 1)
    omega
  cases limit with
  | integerTooLong n =>
    obtain ⟨hn, ds, hl, hi, hd⟩ := he
    exact ⟨hn, ds, hl, hi.trans (List.suffix_cons c t).isInfix, hd⟩
  | arrayTooDeep => exact hdeep he
  | objectTooDeep => exact hdeep he

/-- Where no level is left a bracket or a brace is too much. -/
theorem opening_zero {c : CodePoint} (hc : c = '[' ∨ c = '\x7b') (t : Text) (n : Nat) :
    n + 0 < nestingFrom .between n (c :: t) := by
  have hq : c ≠ '"' := by rcases hc with rfl | rfl <;> decide
  rw [nestingFrom, if_neg hq, if_pos hc]
  exact le_nestingFrom .between (n + 1) t

end Exceeds

/-! ## Strings and numbers -/

/-- A string exceeds nothing. -/
theorem stringBody_ne_beyond (t : Text) (limit : Limit) : stringBody t ≠ .error (.beyond limit) := by
  intro h
  fun_induction stringBody t
  case case5 ih | case6 ih | case7 ih | case8 ih | case9 ih | case11 ih | case14 ih =>
    exact ih (Result.map_eq_error.mp h)
  all_goals cases h

/-- Nor does the name of a member. -/
theorem memberName_ne_beyond (t : Text) (limit : Limit) : memberName t ≠ .error (.beyond limit) := by
  intro h
  unfold memberName at h
  split at h
  · cases h
  split at h
  case isFalse => cases h
  case isTrue =>
    rcases Result.bind_eq_error.mp h with h | ⟨⟨name, after⟩, -, h⟩
    · exact stringBody_ne_beyond _ limit h
    · dsimp only at h
      split at h
      · cases h
      split at h <;> cases h

/-- A number exceeds a limit only as an integer, by its digits. -/
theorem number_eq_beyond {n : Numeral} {limit : Limit} (h : n.number = .error (.beyond limit)) :
    n.fraction = [] ∧ n.exponent = none ∧ Text.maxDigits < n.whole.length ∧
      limit = .integerTooLong n.whole.length := by
  unfold Numeral.number at h
  split at h
  next hf he =>
    split at h
    case isTrue hl =>
      cases h
      exact ⟨hf, he, hl, rfl⟩
    case isFalse => cases h
  · cases h

/-- So does a value without parts. -/
theorem scalar_stuck {t : Text} {limit : Limit} (depth : Nat) (h : scalar t = .error (.beyond limit)) :
    Stuck depth t limit := by
  unfold scalar at h
  split at h
  · cases h
  split at h
  · cases h
  next n rest hn =>
    obtain ⟨hf, he, hl, rfl⟩ := number_eq_beyond (Result.map_eq_error.mp h)
    exact .integer hn hf he hl

/-! ## Values -/

section Parts

variable {depth : Nat} {limit : Limit}
  (hvalue : ∀ {t : Text}, value depth t = .error (.beyond limit) →
    ∃ depth' t', Reaches depth t depth' t' ∧ Stuck depth' t' limit)
include hvalue

/-- Items are stuck where one of them is. -/
theorem items_stuck {fuel : Nat} {t : Text} (h : items (value depth) fuel t = .error (.beyond limit)) :
    ∃ depth' t', Reaches depth t depth' t' ∧ Stuck depth' t' limit := by
  induction fuel generalizing t with
  | zero => cases h
  | succ fuel ih =>
    rw [items, Result.bind_eq_error] at h
    rcases h with h | ⟨⟨x, after⟩, hx, h⟩
    · exact hvalue h
    dsimp only at h
    split at h
    · cases h
    next c next hn =>
      split at h
      · cases h
      split at h
      case isFalse => cases h
      case isTrue hc =>
        subst hc
        rcases Result.bind_eq_error.mp h with h | ⟨_, -, h⟩
        · obtain ⟨depth', t', hr, hs⟩ := ih h
          exact ⟨depth', t', .nextItem hx hn hr, hs⟩
        · cases h

/-- Members are stuck where the value of one of them is. -/
theorem members_stuck {fuel : Nat} {t : Text} (h : members (value depth) fuel t = .error (.beyond limit)) :
    ∃ name rest, memberName t = .ok (name, rest) ∧
      ∃ depth' t', Reaches depth rest depth' t' ∧ Stuck depth' t' limit := by
  induction fuel generalizing t with
  | zero => cases h
  | succ fuel ih =>
    rw [members, Result.bind_eq_error] at h
    rcases h with h | ⟨⟨name, mid⟩, hm, h⟩
    · exact absurd h (memberName_ne_beyond t limit)
    refine ⟨name, mid, hm, ?_⟩
    rcases Result.bind_eq_error.mp h with h | ⟨⟨x, after⟩, hx, h⟩
    · exact hvalue h
    dsimp only at h
    split at h
    · cases h
    next c next hn =>
      split at h
      · cases h
      split at h
      case isFalse => cases h
      case isTrue hc =>
        subst hc
        rcases Result.bind_eq_error.mp h with h | ⟨_, -, h⟩
        · obtain ⟨name', rest, hm', depth', t', hr, hs⟩ := ih h
          exact ⟨depth', t', .nextMember hx hn hm' hr, hs⟩
        · cases h

end Parts

/-- **A value that the reader gives up on leads to one that exceeds the limit.** -/
theorem value_stuck {depth : Nat} {t : Text} {limit : Limit} (h : value depth t = .error (.beyond limit)) :
    ∃ depth' t', Reaches depth t depth' t' ∧ Stuck depth' t' limit := by
  induction depth using Nat.strongRecOn generalizing t with
  | ind depth ih =>
    rw [value.eq_def] at h
    split at h
    · cases h
    next c t =>
      split at h
      · exact absurd (Result.map_eq_error.mp h) (stringBody_ne_beyond t limit)
      split at h
      case isTrue hc =>
        subst hc
        split at h
        · cases h
          exact ⟨0, _, .here _ _, .array t⟩
        · cases h
        next k d next hd =>
          split at h
          · cases h
          · obtain ⟨depth', t', hr, hs⟩ := items_stuck (ih k (Nat.lt_succ_self k)) (Result.map_eq_error.mp h)
            exact ⟨depth', t', .firstItem (hd ▸ hr), hs⟩
      case isFalse =>
        split at h
        case isTrue hc =>
          subst hc
          split at h
          · cases h
            exact ⟨0, _, .here _ _, .object t⟩
          · cases h
          next k d next hd =>
            split at h
            · cases h
            · obtain ⟨name, rest, hm, depth', t', hr, hs⟩ :=
                members_stuck (ih k (Nat.lt_succ_self k)) (Result.map_eq_error.mp h)
              exact ⟨depth', t', .firstMember (hd ▸ hm) hr, hs⟩
        case isFalse => exact ⟨depth, _, .here _ _, scalar_stuck depth h⟩

/-- So does a text. -/
theorem read_stuck {t : Text} {limit : Limit} (h : read t = .error (.beyond limit)) :
    ∃ depth t', Reaches maxDepth (skipSpace t) depth t' ∧ Stuck depth t' limit := by
  unfold read at h
  split at h
  · cases h
  rcases Result.bind_eq_error.mp h with h | ⟨⟨x, rest⟩, -, h⟩
  · exact value_stuck h
  · dsimp only at h
    split at h <;> cases h

/-! ## What shows in the text -/

/-- A value that is stuck exceeds the limit. -/
theorem Stuck.exceeds {depth : Nat} {t : Text} {limit : Limit} (h : Stuck depth t limit) : Exceeds depth t limit := by
  cases h with
  | integer hn _ _ hl =>
    obtain ⟨-, -, -, -, hi, hd⟩ := numeral?_used hn
    exact ⟨hl, _, rfl, hi, hd⟩
  | array t => exact Exceeds.opening_zero (Or.inl rfl) t
  | object t => exact Exceeds.opening_zero (Or.inr rfl) t

/-- What a value exceeds that the reader comes to, the text does. -/
theorem Reaches.exceeds {depth depth' : Nat} {t t' : Text} {limit : Limit} (h : Reaches depth t depth' t')
    (he : Exceeds depth' t' limit) : Exceeds depth t limit := by
  induction h with
  | here => exact he
  | firstItem _ ih => exact .opening (Or.inl rfl) (.of_passes (passes_skipSpace _) (ih he))
  | firstMember hm _ ih =>
    exact .opening (Or.inr rfl) (.of_passes ((passes_skipSpace _).trans (memberName_passes hm)) (ih he))
  | nextItem hx hn _ ih => exact .of_passes ((value_passes hx).trans (.of_mark (by decide) hn)) (ih he)
  | nextMember hx hn hm _ ih =>
    exact .of_passes ((value_passes hx).trans ((Passes.of_mark (by decide) hn).trans (memberName_passes hm))) (ih he)

/-- **A text that the reader gives up on exceeds the limit.** -/
theorem read_beyond {t : Text} {limit : Limit} (h : read t = .error (.beyond limit)) : Exceeds maxDepth t limit := by
  obtain ⟨depth, t', hr, hs⟩ := read_stuck h
  exact .of_passes (passes_skipSpace t) (hr.exceeds hs.exceeds)

/-- A text that is nested no deeper than the reader goes can only have too many digits in a row. -/
theorem read_beyond_of_nesting_le {t : Text} {limit : Limit} (hn : nesting t ≤ maxDepth)
    (h : read t = .error (.beyond limit)) : ∃ n, limit = .integerTooLong n := by
  have he := read_beyond h
  cases limit with
  | integerTooLong n => exact ⟨n, rfl⟩
  | arrayTooDeep =>
    have h0 := he 0
    rw [Nat.zero_add] at h0
    exact absurd hn (Nat.not_le.mpr h0)
  | objectTooDeep =>
    have h0 := he 0
    rw [Nat.zero_add] at h0
    exact absurd hn (Nat.not_le.mpr h0)

end LiquidationDrill.Json
