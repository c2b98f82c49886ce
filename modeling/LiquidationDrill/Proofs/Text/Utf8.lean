import LiquidationDrill.Proofs.Result
import LiquidationDrill.Text.File

/-!
# Reading UTF-8

Bytes are read as a text iff they are the bytes of that text, and it holds no halves of surrogate pairs
(`decode_eq_ok`). The table of well-formed sequences stands between the two: `Sequence` lists the bytes of one code
point, `Sequence.utf8_eq` and `sequence_utf8` say that these are the bytes that `CodePoint.utf8` gives, and
`decodeFrom_eq_ok` that they are the ones that are read. So a text that is kept in a file is read with line feeds for
its line ends (`ofFile_utf8`).
-/

namespace LiquidationDrill.Text

@[simp] theorem utf8_cons (c : CodePoint) (t : Text) : utf8 (c :: t) = c.utf8 ++ utf8 t := List.flatMap_cons

end LiquidationDrill.Text

namespace LiquidationDrill.Utf8

/-- A byte that continues a sequence. -/
def IsTail (b : UInt8) : Prop := 0x80 ≤ b.toNat ∧ b.toNat ≤ 0xBF

/-- The bytes of one code point. The second byte leaves out what a shorter sequence could say, halves of surrogate
pairs and numbers beyond the last code point. -/
inductive Sequence : List UInt8 → CodePoint → Prop
  | one {b : UInt8} : b.toNat < 0x80 → Sequence [b] (.ofNat b.toNat)
  | two {b d : UInt8} : 0xC2 ≤ b.toNat → b.toNat < 0xE0 → IsTail d →
      Sequence [b, d] (.ofNat ((b.toNat - 0xC0) * 0x40 + (d.toNat - 0x80)))
  | three {b d e : UInt8} : 0xE0 ≤ b.toNat → b.toNat < 0xF0 → IsTail d → (b.toNat = 0xE0 → 0xA0 ≤ d.toNat) →
      (b.toNat = 0xED → d.toNat ≤ 0x9F) → IsTail e → Sequence [b, d, e]
        (.ofNat (((b.toNat - 0xE0) * 0x40 + (d.toNat - 0x80)) * 0x40 + (e.toNat - 0x80)))
  | four {b d e f : UInt8} : 0xF0 ≤ b.toNat → b.toNat < 0xF5 → IsTail d → (b.toNat = 0xF0 → 0x90 ≤ d.toNat) →
      (b.toNat = 0xF4 → d.toNat ≤ 0x8F) → IsTail e → IsTail f → Sequence [b, d, e, f]
        (.ofNat ((((b.toNat - 0xF0) * 0x40 + (d.toNat - 0x80)) * 0x40 + (e.toNat - 0x80)) * 0x40 + (f.toNat - 0x80)))

/-! ## Sequences and code points -/

theorem eq_of_toNat {n : Nat} {b : UInt8} (h : n = b.toNat) : UInt8.ofNat n = b := by
  rw [h, UInt8.ofNat_toNat]

theorem toNat_ofNat {n : Nat} (h : n < 0x100) : (UInt8.ofNat n).toNat = n := by
  rw [UInt8.toNat_ofNat']
  exact Nat.mod_eq_of_lt h

theorem isSurrogate_eq_false {c : CodePoint} : c.isSurrogate = false ↔ c.val < 0xD800 ∨ 0xDFFF < c.val := by
  simp only [CodePoint.isSurrogate, Bool.and_eq_false_iff, decide_eq_false_iff_not]
  omega

/-- A sequence is made of the bytes of its code point, which is no half of a surrogate pair. -/
theorem Sequence.utf8_eq {bytes : List UInt8} {c : CodePoint} (h : Sequence bytes c) :
    c.isSurrogate = false ∧ c.utf8 = bytes := by
  rw [isSurrogate_eq_false]
  cases h with
  | @one b hb =>
    have hv : b.toNat < 0x110000 := by omega
    simp only [CodePoint.utf8, CodePoint.val_ofNat hv]
    refine ⟨by omega, ?_⟩
    rw [if_pos (by omega), UInt8.ofNat_toNat]
  | @two b d hb hb' hd =>
    obtain ⟨h1, h2⟩ := hd
    have hv : (b.toNat - 0xC0) * 0x40 + (d.toNat - 0x80) < 0x110000 := by omega
    simp only [CodePoint.utf8, CodePoint.val_ofNat hv, Nat.shiftRight_eq_div_pow]
    refine ⟨by omega, ?_⟩
    rw [if_neg (by omega), if_pos (by omega), eq_of_toNat (b := b) (by omega), eq_of_toNat (b := d) (by omega)]
  | @three b d e hb hb' hd hlow hhigh he =>
    obtain ⟨h1, h2⟩ := hd
    obtain ⟨h3, h4⟩ := he
    have hv : ((b.toNat - 0xE0) * 0x40 + (d.toNat - 0x80)) * 0x40 + (e.toNat - 0x80) < 0x110000 := by omega
    simp only [CodePoint.utf8, CodePoint.val_ofNat hv, Nat.shiftRight_eq_div_pow]
    refine ⟨by omega, ?_⟩
    rw [if_neg (by omega), if_neg (by omega), if_pos (by omega), eq_of_toNat (b := b) (by omega),
      eq_of_toNat (b := d) (by omega), eq_of_toNat (b := e) (by omega)]
  | @four b d e f hb hb' hd hlow hhigh he hf =>
    obtain ⟨h1, h2⟩ := hd
    obtain ⟨h3, h4⟩ := he
    obtain ⟨h5, h6⟩ := hf
    have hv : (((b.toNat - 0xF0) * 0x40 + (d.toNat - 0x80)) * 0x40 + (e.toNat - 0x80)) * 0x40 + (f.toNat - 0x80) <
        0x110000 := by omega
    simp only [CodePoint.utf8, CodePoint.val_ofNat hv, Nat.shiftRight_eq_div_pow]
    refine ⟨by omega, ?_⟩
    rw [if_neg (by omega), if_neg (by omega), if_neg (by omega), eq_of_toNat (b := b) (by omega),
      eq_of_toNat (b := d) (by omega), eq_of_toNat (b := e) (by omega), eq_of_toNat (b := f) (by omega)]

/-- A code point of this number. -/
theorem Sequence.of_val {bytes : List UInt8} {n : Nat} {c : CodePoint} (h : Sequence bytes (.ofNat n))
    (hn : n = c.val) : Sequence bytes c := by
  subst hn
  have hc : CodePoint.ofNat c.val = c := CodePoint.ext (CodePoint.val_ofNat c.val_lt)
  rwa [hc] at h

/-- The bytes of a code point are a sequence. -/
theorem sequence_utf8 {c : CodePoint} (h : c.isSurrogate = false) : Sequence c.utf8 c := by
  rw [isSurrogate_eq_false] at h
  have hlt := c.val_lt
  simp only [CodePoint.utf8, Nat.shiftRight_eq_div_pow]
  -- each byte is replaced by its number
  split
  case isTrue h1 =>
    have hb : (UInt8.ofNat c.val).toNat = c.val := toNat_ofNat (by omega)
    generalize UInt8.ofNat c.val = b at hb ⊢
    exact .of_val (.one (by omega)) hb
  case isFalse h1 =>
    have hz : (UInt8.ofNat (0x80 + c.val / 2 ^ 0 % 0x40)).toNat = 0x80 + c.val % 0x40 := by
      rw [toNat_ofNat (by omega)]
      omega
    generalize UInt8.ofNat (0x80 + c.val / 2 ^ 0 % 0x40) = z at hz ⊢
    have hy : (UInt8.ofNat (0x80 + c.val / 2 ^ 6 % 0x40)).toNat = 0x80 + c.val / 0x40 % 0x40 := toNat_ofNat (by omega)
    generalize UInt8.ofNat (0x80 + c.val / 2 ^ 6 % 0x40) = y at hy ⊢
    have hx : (UInt8.ofNat (0x80 + c.val / 2 ^ 12 % 0x40)).toNat = 0x80 + c.val / 0x1000 % 0x40 :=
      toNat_ofNat (by omega)
    generalize UInt8.ofNat (0x80 + c.val / 2 ^ 12 % 0x40) = x at hx ⊢
    split
    case isTrue h2 =>
      have hb : (UInt8.ofNat (0xC0 + c.val / 2 ^ 6)).toNat = 0xC0 + c.val / 0x40 := toNat_ofNat (by omega)
      generalize UInt8.ofNat (0xC0 + c.val / 2 ^ 6) = b at hb ⊢
      exact .of_val (.two (by omega) (by omega) ⟨by omega, by omega⟩) (by omega)
    case isFalse h2 =>
      split
      case isTrue h3 =>
        have hb : (UInt8.ofNat (0xE0 + c.val / 2 ^ 12)).toNat = 0xE0 + c.val / 0x1000 := toNat_ofNat (by omega)
        generalize UInt8.ofNat (0xE0 + c.val / 2 ^ 12) = b at hb ⊢
        exact .of_val (.three (by omega) (by omega) ⟨by omega, by omega⟩ (by omega) (by omega)
          ⟨by omega, by omega⟩) (by omega)
      case isFalse h3 =>
        have hb : (UInt8.ofNat (0xF0 + c.val / 2 ^ 18)).toNat = 0xF0 + c.val / 0x40000 := toNat_ofNat (by omega)
        generalize UInt8.ofNat (0xF0 + c.val / 2 ^ 18) = b at hb ⊢
        exact .of_val (.four (by omega) (by omega) ⟨by omega, by omega⟩ (by omega) (by omega)
          ⟨by omega, by omega⟩ ⟨by omega, by omega⟩) (by omega)

/-! ## The reader -/

/-- One byte is read, and then the others. -/
theorem decodeFrom_cons_eq_ok {n : Nat} {p : Option Partial} {b : UInt8} {bytes : List UInt8} {t : Text} :
    decodeFrom n p (b :: bytes) = .ok t ↔
      ∃ c p' t', feed p b = .ok (c, p') ∧ decodeFrom (n + 1) p' bytes = .ok t' ∧ t = c.toList ++ t' := by
  cases hf : feed p b with
  | ok result =>
    obtain ⟨c, p'⟩ := result
    have hd : decodeFrom n p (b :: bytes) = (decodeFrom (n + 1) p' bytes).map (c.toList ++ ·) := by
      cases p <;> simp only [decodeFrom, hf]
    rw [hd, Result.map_eq_ok]
    constructor
    · rintro ⟨t', ht, rfl⟩
      exact ⟨c, p', t', rfl, ht, rfl⟩
    · rintro ⟨_, _, t', hr, ht, rfl⟩
      cases hr
      exact ⟨t', ht, rfl⟩
  | error flaw =>
    constructor
    · intro h
      cases p <;> simp only [decodeFrom, hf] at h <;> cases h
    · rintro ⟨_, _, _, hr, -⟩
      cases hr

theorem decodeFrom_nil_eq_ok {n : Nat} {p : Option Partial} {t : Text} :
    decodeFrom n p [] = .ok t ↔ p = none ∧ t = [] := by
  cases p <;> simp [decodeFrom, eq_comm]

/-- The last byte of a sequence completes its code point. -/
theorem decodeFrom_last {n k bits low high : Nat} {a : UInt8} {bytes : List UInt8} {t : Text} :
    decodeFrom n (some ⟨a, k, bits, 0, low, high⟩) bytes = .ok t ↔
      ∃ d rest t', bytes = d :: rest ∧ (low ≤ d.toNat ∧ d.toNat ≤ high) ∧
        t = .ofNat (bits * 0x40 + (d.toNat - 0x80)) :: t' ∧ decodeFrom (n + 1) none rest = .ok t' := by
  constructor
  · intro h
    cases bytes with
    | nil => cases h
    | cons d rest =>
      obtain ⟨c, p', t', hf, ht, rfl⟩ := decodeFrom_cons_eq_ok.mp h
      simp only [feed, next] at hf
      split at hf
      case isTrue hd =>
        cases hf
        exact ⟨d, rest, t', rfl, hd, rfl, ht⟩
      case isFalse => cases hf
  · rintro ⟨d, rest, t', rfl, hd, rfl, ht⟩
    exact decodeFrom_cons_eq_ok.mpr ⟨some _, none, t', by simp only [feed, next]; rw [if_pos hd], ht, rfl⟩

/-- Every other one but the first adds its bits. -/
theorem decodeFrom_more {n k bits r low high : Nat} {a : UInt8} {bytes : List UInt8} {t : Text} :
    decodeFrom n (some ⟨a, k, bits, r + 1, low, high⟩) bytes = .ok t ↔
      ∃ d rest, bytes = d :: rest ∧ (low ≤ d.toNat ∧ d.toNat ≤ high) ∧
        decodeFrom (n + 1) (some ⟨a, k + 1, bits * 0x40 + (d.toNat - 0x80), r, 0x80, 0xBF⟩) rest = .ok t := by
  constructor
  · intro h
    cases bytes with
    | nil => cases h
    | cons d rest =>
      obtain ⟨c, p', t', hf, ht, rfl⟩ := decodeFrom_cons_eq_ok.mp h
      simp only [feed, next] at hf
      split at hf
      case isTrue hd =>
        cases hf
        exact ⟨d, rest, rfl, hd, ht⟩
      case isFalse => cases hf
  · rintro ⟨d, rest, rfl, hd, ht⟩
    exact decodeFrom_cons_eq_ok.mpr ⟨none, some _, t, by simp only [feed, next]; rw [if_pos hd], ht, rfl⟩

/-- A first byte is a sequence of its own, or begins one of two, three or four bytes. -/
theorem first_eq_ok {b : UInt8} {c : Option CodePoint} {p : Option Partial} :
    first b = .ok (c, p) ↔
      (b.toNat < 0x80 ∧ c = some (.ofNat b.toNat) ∧ p = none) ∨
      (0xC2 ≤ b.toNat ∧ b.toNat < 0xE0 ∧ c = none ∧ p = some ⟨b, 1, b.toNat - 0xC0, 0, 0x80, 0xBF⟩) ∨
      (0xE0 ≤ b.toNat ∧ b.toNat < 0xF0 ∧ c = none ∧ p = some ⟨b, 1, b.toNat - 0xE0, 1,
        if b.toNat = 0xE0 then 0xA0 else 0x80, if b.toNat = 0xED then 0x9F else 0xBF⟩) ∨
      (0xF0 ≤ b.toNat ∧ b.toNat < 0xF5 ∧ c = none ∧ p = some ⟨b, 1, b.toNat - 0xF0, 2,
        if b.toNat = 0xF0 then 0x90 else 0x80, if b.toNat = 0xF4 then 0x8F else 0xBF⟩) := by
  unfold first
  dsimp only
  constructor
  · intro h
    split at h
    case isTrue h1 =>
      cases h
      exact Or.inl ⟨h1, rfl, rfl⟩
    split at h
    case isTrue => cases h
    split at h
    case isTrue h3 =>
      cases h
      exact Or.inr (Or.inl ⟨by omega, h3, rfl, rfl⟩)
    split at h
    case isTrue h4 =>
      cases h
      exact Or.inr (Or.inr (Or.inl ⟨by omega, h4, rfl, rfl⟩))
    split at h
    case isTrue h5 =>
      cases h
      exact Or.inr (Or.inr (Or.inr ⟨by omega, h5, rfl, rfl⟩))
    case isFalse => cases h
  · rintro (⟨h1, rfl, rfl⟩ | ⟨h1, h2, rfl, rfl⟩ | ⟨h1, h2, rfl, rfl⟩ | ⟨h1, h2, rfl, rfl⟩)
    · rw [if_pos h1]
    · rw [if_neg (by omega), if_neg (by omega), if_pos h2]
    · rw [if_neg (by omega), if_neg (by omega), if_neg (by omega), if_pos h2]
    · rw [if_neg (by omega), if_neg (by omega), if_neg (by omega), if_neg (by omega), if_pos h2]

/-- The range of a second byte is that of the others, but narrower after two of the first bytes. -/
theorem second_iff {m u v w z d : Nat} (hv : 0x80 ≤ v) (hz : z ≤ 0xBF) :
    ((if m = u then v else 0x80) ≤ d ∧ d ≤ (if m = w then z else 0xBF)) ↔
      (0x80 ≤ d ∧ d ≤ 0xBF) ∧ (m = u → v ≤ d) ∧ (m = w → d ≤ z) := by
  split <;> split <;> omega

/-- **What is read is a sequence, and then the rest.** -/
theorem decodeFrom_eq_ok {n : Nat} {bytes : List UInt8} {t : Text} :
    decodeFrom n none bytes = .ok t ↔ (bytes = [] ∧ t = []) ∨
      ∃ used rest c t', Sequence used c ∧ bytes = used ++ rest ∧ t = c :: t' ∧
        decodeFrom (n + used.length) none rest = .ok t' := by
  constructor
  · intro h
    cases bytes with
    | nil => exact Or.inl ⟨rfl, (decodeFrom_nil_eq_ok.mp h).2⟩
    | cons b bytes =>
      right
      obtain ⟨c, p, t', hf, ht, rfl⟩ := decodeFrom_cons_eq_ok.mp h
      rcases first_eq_ok.mp hf with ⟨h1, rfl, rfl⟩ | ⟨h1, h2, rfl, rfl⟩ | ⟨h1, h2, rfl, rfl⟩ | ⟨h1, h2, rfl, rfl⟩
      · exact ⟨[b], bytes, _, t', .one h1, rfl, rfl, ht⟩
      · obtain ⟨d, rest, t'', rfl, hd, rfl, hr⟩ := decodeFrom_last.mp ht
        exact ⟨[b, d], rest, _, t'', .two h1 h2 hd, rfl, rfl, hr⟩
      · obtain ⟨d, rest, rfl, hd, ht⟩ := decodeFrom_more.mp ht
        obtain ⟨e, rest, t'', rfl, he, rfl, hr⟩ := decodeFrom_last.mp ht
        obtain ⟨hd, hlow, hhigh⟩ := (second_iff (by omega) (by omega)).mp hd
        exact ⟨[b, d, e], rest, _, t'', .three h1 h2 hd hlow hhigh he, rfl, rfl, hr⟩
      · obtain ⟨d, rest, rfl, hd, ht⟩ := decodeFrom_more.mp ht
        obtain ⟨e, rest, rfl, he, ht⟩ := decodeFrom_more.mp ht
        obtain ⟨f, rest, t'', rfl, hf, rfl, hr⟩ := decodeFrom_last.mp ht
        obtain ⟨hd, hlow, hhigh⟩ := (second_iff (by omega) (by omega)).mp hd
        exact ⟨[b, d, e, f], rest, _, t'', .four h1 h2 hd hlow hhigh he hf, rfl, rfl, hr⟩
  · rintro (⟨rfl, rfl⟩ | ⟨used, rest, c, t', hs, rfl, rfl, ht⟩)
    · rfl
    cases hs with
    | one h1 => exact decodeFrom_cons_eq_ok.mpr ⟨_, _, t', first_eq_ok.mpr (Or.inl ⟨h1, rfl, rfl⟩), ht, rfl⟩
    | two h1 h2 hd =>
      refine decodeFrom_cons_eq_ok.mpr ⟨_, _, _, first_eq_ok.mpr (Or.inr (Or.inl ⟨h1, h2, rfl, rfl⟩)), ?_, rfl⟩
      exact decodeFrom_last.mpr ⟨_, rest, t', rfl, hd, rfl, ht⟩
    | three h1 h2 hd hlow hhigh he =>
      refine decodeFrom_cons_eq_ok.mpr
        ⟨_, _, _, first_eq_ok.mpr (Or.inr (Or.inr (Or.inl ⟨h1, h2, rfl, rfl⟩))), ?_, rfl⟩
      refine decodeFrom_more.mpr ⟨_, _, rfl, (second_iff (by omega) (by omega)).mpr ⟨hd, hlow, hhigh⟩, ?_⟩
      exact decodeFrom_last.mpr ⟨_, rest, t', rfl, he, rfl, ht⟩
    | four h1 h2 hd hlow hhigh he hf =>
      refine decodeFrom_cons_eq_ok.mpr
        ⟨_, _, _, first_eq_ok.mpr (Or.inr (Or.inr (Or.inr ⟨h1, h2, rfl, rfl⟩))), ?_, rfl⟩
      refine decodeFrom_more.mpr ⟨_, _, rfl, (second_iff (by omega) (by omega)).mpr ⟨hd, hlow, hhigh⟩, ?_⟩
      refine decodeFrom_more.mpr ⟨_, _, rfl, he, ?_⟩
      exact decodeFrom_last.mpr ⟨_, rest, t', rfl, hf, rfl, ht⟩

/-- Bytes are read as a text iff they are the bytes of the text, wherever they begin. -/
theorem decodeFrom_none_iff {n : Nat} {bytes : List UInt8} {t : Text} :
    decodeFrom n none bytes = .ok t ↔ t.isScalar = true ∧ t.utf8 = bytes := by
  induction t generalizing n bytes with
  | nil =>
    rw [decodeFrom_eq_ok]
    constructor
    · rintro (⟨rfl, -⟩ | ⟨_, _, _, _, _, _, h, _⟩)
      · exact ⟨rfl, rfl⟩
      · cases h
    · rintro ⟨-, rfl⟩
      exact Or.inl ⟨rfl, rfl⟩
  | cons c t ih =>
    rw [decodeFrom_eq_ok]
    simp only [Text.isScalar, Text.utf8_cons, List.all_cons, Bool.and_eq_true, Bool.not_eq_true'] at ih ⊢
    constructor
    · rintro (⟨-, h⟩ | ⟨used, rest, _, _, hs, rfl, h, ht⟩)
      · cases h
      · cases h
        obtain ⟨hc, rfl⟩ := hs.utf8_eq
        obtain ⟨hsc, rfl⟩ := ih.mp ht
        exact ⟨⟨hc, hsc⟩, rfl⟩
    · rintro ⟨⟨hc, hsc⟩, rfl⟩
      exact Or.inr ⟨c.utf8, _, c, t, sequence_utf8 hc, rfl, rfl, ih.mpr ⟨hsc, rfl⟩⟩

/-- **Bytes are read as a text iff they are the bytes of this text and it holds no halves of surrogate pairs.** -/
theorem decode_eq_ok {bytes : List UInt8} {t : Text} :
    decode bytes = .ok t ↔ t.isScalar = true ∧ t.utf8 = bytes := decodeFrom_none_iff

/-- **A text that is kept in a file is read with line feeds for its line ends.** -/
theorem ofFile_utf8 {t : Text} (h : t.isScalar = true) : Text.ofFile t.utf8 = .ok t.unifyNewlines := by
  rw [Text.ofFile, decode_eq_ok.mpr ⟨h, rfl⟩]
  rfl

end LiquidationDrill.Utf8
