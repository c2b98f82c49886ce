import LiquidationDrill.Json.Reader
import LiquidationDrill.Proofs.Result

/-!
# Steps of reading JSON

One step of each reader that calls others, for the runs that end well: `prepend_eq_ok` for strings,
`memberName_eq_ok`, `items_eq_ok` and `members_eq_ok` for the parts of arrays and objects, and `value_eq_ok` for
values, where `ValueRead` lists the kinds of values by their first code point. Later proofs take reading apart with
these and do not open the readers.
-/

namespace LiquidationDrill.Json

/-- A code point before a string that is read. -/
theorem prepend_eq_ok {c : CodePoint} {result : Except Fault (Text × Text)} {s rest : Text} :
    prepend c result = .ok (s, rest) ↔ ∃ s', result = .ok (s', rest) ∧ s = c :: s' := by
  rw [prepend, Result.map_eq_ok]
  constructor
  · rintro ⟨⟨s', rest'⟩, hr, h⟩
    cases h
    exact ⟨s', hr, rfl⟩
  · rintro ⟨s', hr, rfl⟩
    exact ⟨(s', rest), hr, rfl⟩

/-- A name is a string with a colon after it. -/
theorem memberName_eq_ok {t name rest : Text} :
    memberName t = .ok (name, rest) ↔ ∃ body after next, t = .ofChar '"' :: body ∧ stringBody body = .ok (name, after) ∧
      skipSpace after = .ofChar ':' :: next ∧ rest = skipSpace next := by
  constructor
  · intro h
    unfold memberName at h
    split at h
    · cases h
    split at h
    case isFalse => cases h
    case isTrue hc =>
      subst hc
      obtain ⟨⟨name', after⟩, hs, h⟩ := Result.bind_eq_ok.mp h
      dsimp only at h
      split at h
      · cases h
      next hn =>
        split at h
        case isFalse => cases h
        case isTrue hc =>
          subst hc
          cases h
          exact ⟨_, after, _, rfl, hs, hn, rfl⟩
  · rintro ⟨body, after, next, rfl, hs, hn, rfl⟩
    rw [memberName, if_pos rfl, Result.bind_eq_ok]
    refine ⟨(name, after), hs, ?_⟩
    dsimp only
    rw [hn]
    exact if_pos rfl

section Parts

variable {readValue : Text → Except Fault (Value × Text)} {fuel : Nat} {t rest : Text}

/-- Items are one value and the closing bracket, or one value, a comma and more items. -/
theorem items_eq_ok {xs : List Value} :
    items readValue (fuel + 1) t = .ok (xs, rest) ↔ ∃ x after, readValue t = .ok (x, after) ∧
      ((skipSpace after = .ofChar ']' :: rest ∧ xs = [x]) ∨
        ∃ next ys, skipSpace after = .ofChar ',' :: next ∧ items readValue fuel (skipSpace next) = .ok (ys, rest) ∧
          xs = x :: ys) := by
  rw [items, Result.bind_eq_ok]
  constructor
  · rintro ⟨⟨x, after⟩, hx, h⟩
    refine ⟨x, after, hx, ?_⟩
    dsimp only at h
    split at h
    · cases h
    next hn =>
      split at h
      case isTrue hc =>
        subst hc
        cases h
        exact Or.inl ⟨hn, rfl⟩
      case isFalse =>
        split at h
        case isFalse => cases h
        case isTrue hc =>
          subst hc
          obtain ⟨⟨ys, rest'⟩, hy, h⟩ := Result.bind_eq_ok.mp h
          cases h
          exact Or.inr ⟨_, ys, hn, hy, rfl⟩
  · rintro ⟨x, after, hx, h⟩
    refine ⟨(x, after), hx, ?_⟩
    dsimp only
    rcases h with ⟨hn, rfl⟩ | ⟨next, ys, hn, hy, rfl⟩
    · rw [hn]
      exact if_pos rfl
    · rw [hn]
      dsimp only
      rw [if_neg (by decide), if_pos rfl, hy]
      rfl

/-- Members are a name, a value and the closing brace, or a name, a value, a comma and more members. -/
theorem members_eq_ok {xs : List (Text × Value)} :
    members readValue (fuel + 1) t = .ok (xs, rest) ↔ ∃ name mid x after, memberName t = .ok (name, mid) ∧
      readValue mid = .ok (x, after) ∧
      ((skipSpace after = .ofChar '\x7d' :: rest ∧ xs = [(name, x)]) ∨
        ∃ next ys, skipSpace after = .ofChar ',' :: next ∧
          members readValue fuel (skipSpace next) = .ok (ys, rest) ∧ xs = (name, x) :: ys) := by
  rw [members, Result.bind_eq_ok]
  constructor
  · rintro ⟨⟨name, mid⟩, hm, h⟩
    obtain ⟨⟨x, after⟩, hx, h⟩ := Result.bind_eq_ok.mp h
    refine ⟨name, mid, x, after, hm, hx, ?_⟩
    dsimp only at h
    split at h
    · cases h
    next hn =>
      split at h
      case isTrue hc =>
        subst hc
        cases h
        exact Or.inl ⟨hn, rfl⟩
      case isFalse =>
        split at h
        case isFalse => cases h
        case isTrue hc =>
          subst hc
          obtain ⟨⟨ys, rest'⟩, hy, h⟩ := Result.bind_eq_ok.mp h
          cases h
          exact Or.inr ⟨_, ys, hn, hy, rfl⟩
  · rintro ⟨name, mid, x, after, hm, hx, h⟩
    refine ⟨(name, mid), hm, Result.bind_eq_ok.mpr ⟨(x, after), hx, ?_⟩⟩
    dsimp only
    rcases h with ⟨hn, rfl⟩ | ⟨next, ys, hn, hy, rfl⟩
    · rw [hn]
      exact if_pos rfl
    · rw [hn]
      dsimp only
      rw [if_neg (by decide), if_pos rfl, hy]
      rfl

end Parts

/-! ## Values and whole texts -/

/-- A code point with which a string, an array or an object begins. -/
def IsOpening (c : CodePoint) : Prop := c = '"' ∨ c = '[' ∨ c = '\x7b'

/-- A value that is read, by the code point with which it begins. -/
inductive ValueRead : (depth : Nat) → Text → Value → Text → Prop
  | string {depth : Nat} {t s rest : Text} :
      stringBody t = .ok (s, rest) → ValueRead depth ('"' :: t) (.string s) rest
  | emptyArray {depth : Nat} {t rest : Text} :
      skipSpace t = .ofChar ']' :: rest → ValueRead (depth + 1) ('[' :: t) (.array []) rest
  | array {depth : Nat} {t next rest : Text} {d : CodePoint} {xs : List Value} :
      skipSpace t = d :: next → d ≠ ']' → items (value depth) t.length (d :: next) = .ok (xs, rest) →
        ValueRead (depth + 1) ('[' :: t) (.array xs) rest
  | emptyObject {depth : Nat} {t rest : Text} :
      skipSpace t = .ofChar '\x7d' :: rest → ValueRead (depth + 1) ('\x7b' :: t) (.object []) rest
  | object {depth : Nat} {t next rest : Text} {d : CodePoint} {xs : List (Text × Value)} :
      skipSpace t = d :: next → d ≠ '\x7d' → members (value depth) t.length (d :: next) = .ok (xs, rest) →
        ValueRead (depth + 1) ('\x7b' :: t) (.object (Value.Members.ofWritten xs)) rest
  | scalar {depth : Nat} {c : CodePoint} {t rest : Text} {x : Value} :
      ¬IsOpening c → scalar (c :: t) = .ok (x, rest) → ValueRead depth (c :: t) x rest

/-- **A value is read in one of these ways.** -/
theorem value_eq_ok {depth : Nat} {t rest : Text} {x : Value} :
    value depth t = .ok (x, rest) ↔ ValueRead depth t x rest := by
  constructor
  · intro h
    unfold value at h
    split at h
    · cases h
    next c t =>
      split at h
      case isTrue hc =>
        subst hc
        obtain ⟨⟨s, rest'⟩, hs, h⟩ := Result.map_eq_ok.mp h
        cases h
        exact .string hs
      case isFalse hq =>
        split at h
        case isTrue hc =>
          subst hc
          split at h
          · cases h
          · cases h
          next hd =>
            split at h
            case isTrue hc =>
              subst hc
              cases h
              exact .emptyArray hd
            case isFalse hc =>
              obtain ⟨⟨xs, rest'⟩, hi, h⟩ := Result.map_eq_ok.mp h
              cases h
              exact .array hd hc hi
        case isFalse ha =>
          split at h
          case isTrue hc =>
            subst hc
            split at h
            · cases h
            · cases h
            next hd =>
              split at h
              case isTrue hc =>
                subst hc
                cases h
                exact .emptyObject hd
              case isFalse hc =>
                obtain ⟨⟨xs, rest'⟩, hi, h⟩ := Result.map_eq_ok.mp h
                cases h
                exact .object hd hc hi
          case isFalse ho => exact .scalar (by simp [IsOpening, hq, ha, ho]) h
  · intro h
    rw [value.eq_def]
    cases h with
    | string hs =>
      dsimp only
      rw [if_pos rfl, hs]
      rfl
    | emptyArray hd =>
      dsimp only
      rw [if_neg (by decide), if_pos rfl, hd]
      exact if_pos rfl
    | array hd hne hi =>
      dsimp only
      rw [if_neg (by decide), if_pos rfl, hd]
      dsimp only
      rw [if_neg hne, hi]
      rfl
    | emptyObject hd =>
      dsimp only
      rw [if_neg (by decide), if_neg (by decide), if_pos rfl, hd]
      exact if_pos rfl
    | object hd hne hi =>
      dsimp only
      rw [if_neg (by decide), if_neg (by decide), if_pos rfl, hd]
      dsimp only
      rw [if_neg hne, hi]
      rfl
    | scalar hc hs =>
      simp only [IsOpening, not_or] at hc
      dsimp only
      rw [if_neg hc.1, if_neg hc.2.1, if_neg hc.2.2, hs]

theorem ValueRead.ne_nil {depth : Nat} {t rest : Text} {x : Value} (h : ValueRead depth t x rest) : t ≠ [] := by
  cases h <;> exact List.cons_ne_nil _ _

/-- A text that is read is one value with white space around it. -/
theorem read_eq_ok {t : Text} {x : Value} :
    read t = .ok x ↔ t.head? ≠ some byteOrderMark ∧ ∃ rest, value maxDepth (skipSpace t) = .ok (x, rest) ∧
      skipSpace rest = [] := by
  unfold read
  split
  case isTrue hb => simp [hb]
  case isFalse hb =>
    rw [Result.bind_eq_ok]
    constructor
    · rintro ⟨⟨y, rest⟩, hv, h⟩
      dsimp only at h
      split at h
      case isFalse => cases h
      case isTrue he =>
        cases h
        exact ⟨hb, rest, hv, List.isEmpty_iff.mp he⟩
    · rintro ⟨-, rest, hv, he⟩
      exact ⟨(x, rest), hv, by simp [he]⟩

end LiquidationDrill.Json
