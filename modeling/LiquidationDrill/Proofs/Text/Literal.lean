import LiquidationDrill.Proofs.Text.Numeral
import LiquidationDrill.Proofs.Text.Rows
import Mathlib.Data.List.Induction
import Mathlib.Data.Nat.Digits.Lemmas

/-!
# Integer literals

An integer literal is white space, perhaps a sign, digits of any scripts with single underscores between them, and white
space again (`Text.SpellsInteger`). The texts that are read as integers are these literals (`Text.toInt?_eq_some`): the
digits are read as they are spelled (`Text.digits?_eq_some`), and neither white space nor a sign stands among them, so
trimming leaves the sign and the digits (`Text.trim_literal`). Decimal numerals are such literals, so an integer is read
back from its numeral (`Text.toInt?_ofInt`).
-/

namespace LiquidationDrill

/-! ## Digits of all scripts -/

/-- The code point is the digit of this value in a script that counts in tens. -/
def CodePoint.IsDecimal (c : CodePoint) (d : Nat) : Prop := d < 10 ∧ ∃ origin ∈ digitZeros, c.val = origin + d

/-- Where runs of ten do not overlap, a number has the value that its run gives it. -/
theorem digitValue?_eq_some {origins : List Nat} (h : origins.Pairwise fun origin next => origin + 10 ≤ next)
    {n d : Nat} : digitValue? origins n = some d ↔ d < 10 ∧ ∃ origin ∈ origins, n = origin + d := by
  induction origins with
  | nil => simp [digitValue?]
  | cons origin origins ih =>
    obtain ⟨hlater, hzeros⟩ := List.pairwise_cons.mp h
    rw [digitValue?]
    by_cases hbelow : n < origin
    · rw [if_pos hbelow]
      refine iff_of_false (by simp) ?_
      rintro ⟨-, other, hm, rfl⟩
      rcases List.mem_cons.mp hm with rfl | hm
      · omega
      · have hother := hlater other hm
        omega
    · rw [if_neg hbelow]
      by_cases hin : n < origin + 10
      · rw [if_pos hin, Option.some_inj]
        constructor
        · rintro rfl
          exact ⟨by omega, origin, List.mem_cons_self, by omega⟩
        · rintro ⟨-, other, hm, rfl⟩
          rcases List.mem_cons.mp hm with rfl | hm
          · omega
          · have hother := hlater other hm
            omega
      · rw [if_neg hin, ih hzeros]
        constructor
        · rintro ⟨hd, other, hm, hn⟩
          exact ⟨hd, other, List.mem_cons_of_mem origin hm, hn⟩
        · rintro ⟨hd, other, hm, hn⟩
          rcases List.mem_cons.mp hm with rfl | hm
          · omega
          · exact ⟨hd, other, hm, hn⟩

namespace CodePoint

/-- **A digit has the value of its place after the zero of its script.** -/
theorem decimal?_eq_some {c : CodePoint} {d : Nat} : c.decimal? = some d ↔ c.IsDecimal d :=
  digitValue?_eq_some (by decide +kernel)

theorem isDecimal_ofDigit {d : Nat} (h : d < 10) : (ofDigit d).IsDecimal d :=
  ⟨h, 0x30, by simp [digitZeros], val_ofDigit h⟩

/-- No white space is a digit. -/
theorem IsDecimal.isBlank_eq_false {c : CodePoint} {d : Nat} (h : c.IsDecimal d) : c.isBlank = false := by
  have hall : ∀ origin ∈ digitZeros, ∀ d < 10, blankRanges.has (origin + d) = false := by decide +kernel
  obtain ⟨hd, origin, hm, hc⟩ := h
  rw [isBlank, hc]
  exact hall origin hm d hd

/-- Signs and underscores are no digits. -/
theorem IsDecimal.ne {c : CodePoint} {d : Nat} (h : c.IsDecimal d) : c ≠ '-' ∧ c ≠ '+' ∧ c ≠ '_' := by
  have hsome := decimal?_eq_some.mpr h
  refine ⟨?_, ?_, ?_⟩
  · rintro rfl
    exact absurd hsome (by simp [show decimal? '-' = none by decide])
  · rintro rfl
    exact absurd hsome (by simp [show decimal? '+' = none by decide])
  · rintro rfl
    exact absurd hsome (by simp [show decimal? '_' = none by decide])

end CodePoint

namespace Text

/-! ## Rows of digits -/

/-- The digits of a numeral, which single underscores may part. -/
inductive SpellsDigits : Text → List Nat → Prop
  | last {c : CodePoint} {d : Nat} : c.IsDecimal d → SpellsDigits [c] [d]
  | next {c : CodePoint} {d : Nat} {t : Text} {ds : List Nat} :
      c.IsDecimal d → SpellsDigits t ds → SpellsDigits (c :: t) (d :: ds)
  | parted {c : CodePoint} {d : Nat} {t : Text} {ds : List Nat} :
      c.IsDecimal d → SpellsDigits t ds → SpellsDigits (c :: .ofChar '_' :: t) (d :: ds)

section Digits

variable {t : Text} {ds : List Nat}

/-- It begins with a digit. -/
theorem SpellsDigits.head (h : SpellsDigits t ds) : ∃ c d rest, t = c :: rest ∧ c.IsDecimal d := by
  cases h with
  | last hc => exact ⟨_, _, _, rfl, hc⟩
  | next hc _ => exact ⟨_, _, _, rfl, hc⟩
  | parted hc _ => exact ⟨_, _, _, rfl, hc⟩

/-- And it is made of digits and underscores. -/
theorem SpellsDigits.mem (h : SpellsDigits t ds) {c : CodePoint} (hc : c ∈ t) : c = '_' ∨ ∃ d, c.IsDecimal d := by
  induction h with
  | last hd =>
    obtain rfl := List.mem_singleton.mp hc
    exact Or.inr ⟨_, hd⟩
  | next hd _ ih =>
    rcases List.mem_cons.mp hc with rfl | hc
    · exact Or.inr ⟨_, hd⟩
    · exact ih hc
  | parted hd _ ih =>
    rcases List.mem_cons.mp hc with rfl | hc
    · exact Or.inr ⟨_, hd⟩
    · rcases List.mem_cons.mp hc with rfl | hc
      · exact Or.inl rfl
      · exact ih hc

/-- Every digit is below ten. -/
theorem SpellsDigits.lt (h : SpellsDigits t ds) : ∀ d ∈ ds, d < 10 := by
  induction h with
  | last hd => exact List.forall_mem_singleton.mpr hd.1
  | next hd _ ih => exact List.forall_mem_cons.mpr ⟨hd.1, ih⟩
  | parted hd _ ih => exact List.forall_mem_cons.mpr ⟨hd.1, ih⟩

/-- **Digits are read as they are spelled.** -/
theorem digits?_eq_some : digits? t = some ds ↔ SpellsDigits t ds := by
  constructor
  · intro h
    fun_induction digits? t generalizing ds with
    | case1 => cases h
    | case2 c t hc => cases h
    | case3 c d hc =>
      cases h
      exact .last (CodePoint.decimal?_eq_some.mp hc)
    | case4 c d t hc ih =>
      obtain ⟨ds, hds, rfl⟩ := Option.map_eq_some_iff.mp h
      exact .parted (CodePoint.decimal?_eq_some.mp hc) (ih hds)
    | case5 c d e t hc he ih =>
      obtain ⟨ds, hds, rfl⟩ := Option.map_eq_some_iff.mp h
      exact .next (CodePoint.decimal?_eq_some.mp hc) (ih hds)
  · intro h
    induction h with
    | last hc => simp [digits?, CodePoint.decimal?_eq_some.mpr hc]
    | next hc ht ih =>
      obtain ⟨e, d, rest, rfl, he⟩ := ht.head
      rw [digits?.eq_def]
      simp only [CodePoint.decimal?_eq_some.mpr hc, if_neg he.ne.2.2, ih, Option.map_some]
    | parted hc _ ih => simp [digits?, CodePoint.decimal?_eq_some.mpr hc, ih]

/-- The digits of a row in ASCII. -/
theorem spellsDigits_map (hne : ds ≠ []) (h : ∀ d ∈ ds, d < 10) : SpellsDigits (ds.map CodePoint.ofDigit) ds := by
  induction ds with
  | nil => exact absurd rfl hne
  | cons d ds ih =>
    obtain ⟨hd, hds⟩ := List.forall_mem_cons.mp h
    cases ds with
    | nil => exact .last (CodePoint.isDecimal_ofDigit hd)
    | cons e ds => exact .next (CodePoint.isDecimal_ofDigit hd) (ih (List.cons_ne_nil e ds) hds)

/-- The value of digits by their places. -/
theorem ofDigits_eq (ds : List Nat) : ofDigits ds = Nat.ofDigits 10 ds.reverse := by
  induction ds using List.reverseRecOn with
  | nil => rfl
  | append_singleton ds d ih =>
    rw [List.reverse_append, List.reverse_singleton, List.singleton_append, Nat.ofDigits_cons, ← ih]
    simp [ofDigits, Nat.add_comm]

end Digits

/-! ## Literals -/

/-- What may stand before the digits of an integer, and what it makes of their value. -/
def signs : List (Text × Int) := [([], 1), ("+", 1), ("-", -1)]

/-- The text is a literal of this integer: white space, perhaps a sign, no more than `maxDigits` digits, and white space
again. -/
def SpellsInteger (t : Text) (n : Int) : Prop :=
  ∃ (before sign row after : Text) (unit : Int) (ds : List Nat), t = before ++ (sign ++ row ++ after) ∧
    (∀ c ∈ before ++ after, isBlankAroundInt c = true) ∧ (sign, unit) ∈ signs ∧ SpellsDigits row ds ∧
    ds.length ≤ maxDigits ∧ n = unit * (Nat.ofDigits 10 ds.reverse : Nat)

/-- The value of a row of digits that is not too long. -/
def natural? (t : Text) : Option Nat :=
  (digits? t).bind fun ds => if ds.length ≤ maxDigits then some (ofDigits ds) else none

/-- The integer of a row of digits that a sign may go before. -/
def signed? : Text → Option Int
  | [] => none
  | c :: row =>
    if c = '-' then (natural? row).map fun k : Nat => -(k : Int)
    else if c = '+' then (natural? row).map fun k : Nat => (k : Int)
    else (natural? (c :: row)).map fun k : Nat => (k : Int)

/-- Integers are read without the white space around them. -/
theorem toInt?_eq (t : Text) : toInt? t = signed? (t.trim isBlankAroundInt) := by
  have hcast (x : Option Nat) : (do let k ← x; pure (k : Int)) = x.map fun k : Nat => (k : Int) := by
    cases x <;> rfl
  unfold toInt? signed? natural?
  cases t.trim isBlankAroundInt with
  | nil => rfl
  | cons c row => simp only [hcast, Option.map_map, Function.comp_def]

section Literals

variable {t : Text} {n : Int}

theorem natural?_eq_some {k : Nat} :
    natural? t = some k ↔ ∃ ds, SpellsDigits t ds ∧ ds.length ≤ maxDigits ∧ k = Nat.ofDigits 10 ds.reverse := by
  simp only [natural?, Option.bind_eq_some_iff, digits?_eq_some, Option.ite_none_right_eq_some, Option.some_inj,
    ofDigits_eq, @eq_comm Nat k]

/-- Signs are told from digits. -/
theorem signed?_eq_some : signed? t = some n ↔
    ∃ sign row unit k, t = sign ++ row ∧ (sign, unit) ∈ signs ∧ natural? row = some k ∧ n = unit * (k : Nat) := by
  constructor
  · intro h
    cases t with
    | nil => cases h
    | cons c row =>
      rw [signed?] at h
      split at h
      case isTrue hc =>
        obtain ⟨k, hk, rfl⟩ := Option.map_eq_some_iff.mp h
        exact ⟨"-", row, -1, k, by rw [hc]; rfl, by simp [signs], hk, by simp⟩
      case isFalse =>
        split at h
        case isTrue hc =>
          obtain ⟨k, hk, rfl⟩ := Option.map_eq_some_iff.mp h
          exact ⟨"+", row, 1, k, by rw [hc]; rfl, by simp [signs], hk, by simp⟩
        case isFalse =>
          obtain ⟨k, hk, rfl⟩ := Option.map_eq_some_iff.mp h
          exact ⟨[], c :: row, 1, k, rfl, by simp [signs], hk, by simp⟩
  · rintro ⟨sign, row, unit, k, rfl, hsign, hk, rfl⟩
    simp only [signs, List.mem_cons, Prod.mk.injEq, List.not_mem_nil, or_false] at hsign
    rcases hsign with ⟨rfl, rfl⟩ | ⟨rfl, rfl⟩ | ⟨rfl, rfl⟩
    · obtain ⟨ds, hds, -⟩ := natural?_eq_some.mp hk
      obtain ⟨c, d, rest, rfl, hc⟩ := hds.head
      rw [List.nil_append, signed?, if_neg hc.ne.1, if_neg hc.ne.2.1, hk]
      simp
    · show signed? (.ofChar '+' :: row) = _
      rw [signed?, if_neg (by decide), if_pos rfl, hk]
      simp
    · show signed? (.ofChar '-' :: row) = _
      rw [signed?, if_pos rfl, hk]
      simp

/-- Of a literal trimming leaves the sign and the digits. -/
theorem trim_literal {before sign row after : Text} {unit : Int} {ds : List Nat}
    (hblank : ∀ c ∈ before ++ after, isBlankAroundInt c = true) (hsign : (sign, unit) ∈ signs)
    (hrow : SpellsDigits row ds) : trim isBlankAroundInt (before ++ (sign ++ row ++ after)) = sign ++ row := by
  obtain ⟨hbefore, hafter⟩ := List.forall_mem_append.mp hblank
  refine trim_around hbefore ⟨?_, ?_⟩ hafter
  · obtain ⟨c, d, rest, rfl, -⟩ := hrow.head
    simp
  · intro c hc
    rcases List.mem_append.mp hc with hc | hc
    · have hall : ∀ s ∈ signs, ∀ c ∈ s.1, (!isBlankAroundInt c) = true := by decide
      exact hall _ hsign c hc
    · rcases hrow.mem hc with rfl | ⟨d, hd⟩
      · decide
      · simp [isBlankAroundInt, hd.isBlank_eq_false]

/-- **The texts that are read as integers are their literals.** -/
theorem toInt?_eq_some : toInt? t = some n ↔ SpellsInteger t n := by
  rw [toInt?_eq]
  constructor
  · intro h
    obtain ⟨before, after, ht, hbefore, hafter⟩ := exists_trim isBlankAroundInt t
    obtain ⟨sign, row, unit, k, hcore, hsign, hk, rfl⟩ := signed?_eq_some.mp h
    obtain ⟨ds, hds, hlen, rfl⟩ := natural?_eq_some.mp hk
    rw [hcore] at ht
    exact ⟨before, sign, row, after, unit, ds, ht, List.forall_mem_append.mpr ⟨hbefore, hafter⟩, hsign, hds, hlen, rfl⟩
  · rintro ⟨before, sign, row, after, unit, ds, rfl, hblank, hsign, hds, hlen, rfl⟩
    rw [trim_literal hblank hsign hds]
    exact signed?_eq_some.mpr ⟨sign, row, unit, _, rfl, hsign, natural?_eq_some.mpr ⟨ds, hds, hlen, rfl⟩, rfl⟩

/-! ## Numerals -/

/-- The numeral of a natural number has its digits. -/
theorem natural?_ofNat {k : Nat} (h : (Nat.digits 10 k).length ≤ maxDigits) : natural? (ofNat k) = some k := by
  rw [natural?_eq_some]
  by_cases hk : k = 0
  · subst hk
    exact ⟨[0], .last (CodePoint.isDecimal_ofDigit (by decide)), by decide, rfl⟩
  · refine ⟨(Nat.digits 10 k).reverse, ?_, by rwa [List.length_reverse], ?_⟩
    · rw [ofNat, numeral_eq (by decide) hk, ← List.map_reverse]
      refine spellsDigits_map ?_ ?_
      · simpa [Nat.digits_eq_nil_iff_eq_zero] using hk
      · intro d hd
        exact Nat.digits_lt_base (by decide) (List.mem_reverse.mp hd)
    · rw [List.reverse_reverse, Nat.ofDigits_digits]

/-- A numeral is a literal without white space. -/
theorem spellsInteger_ofInt (h : (Nat.digits 10 n.natAbs).length ≤ maxDigits) : SpellsInteger (ofInt n) n := by
  obtain ⟨ds, hds, hlen, hk⟩ := natural?_eq_some.mp (natural?_ofNat h)
  by_cases hn : n < 0
  · refine ⟨[], "-", ofNat n.natAbs, [], -1, ds, ?_, by simp, by simp [signs], hds, hlen, ?_⟩
    · rw [ofInt, if_pos hn, List.append_nil]
      rfl
    · omega
  · refine ⟨[], [], ofNat n.natAbs, [], 1, ds, ?_, by simp, by simp [signs], hds, hlen, ?_⟩
    · rw [ofInt, if_neg hn, List.append_nil]
      rfl
    · omega

/-- **No integer has more digits than its literal.** -/
theorem SpellsInteger.length_digits_le (h : SpellsInteger t n) : (Nat.digits 10 n.natAbs).length ≤ maxDigits := by
  obtain ⟨before, sign, row, after, unit, ds, -, -, hsign, hds, hlen, rfl⟩ := h
  have hunit : unit.natAbs = 1 := by
    have hall : ∀ s ∈ signs, s.2.natAbs = 1 := by decide
    exact hall _ hsign
  rw [Int.natAbs_mul, hunit, Int.natAbs_natCast, Nat.one_mul, Nat.digits_length_le_iff (by decide)]
  have hlt : Nat.ofDigits 10 ds.reverse < 10 ^ ds.reverse.length :=
    Nat.ofDigits_lt_base_pow_length (by decide) fun d hd => hds.lt d (List.mem_reverse.mp hd)
  rw [List.length_reverse] at hlt
  exact Nat.lt_of_lt_of_le hlt (Nat.pow_le_pow_right (by decide) hlen)

/-- **An integer is read back from its numeral.** -/
theorem toInt?_ofInt (h : (Nat.digits 10 n.natAbs).length ≤ maxDigits) : toInt? (ofInt n) = some n :=
  toInt?_eq_some.mpr (spellsInteger_ofInt h)

end Literals

end Text

end LiquidationDrill
