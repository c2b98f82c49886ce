import LiquidationDrill.Proofs.Log.Appended
import LiquidationDrill.Proofs.Scenario.Verdict

/-!
# Judgements while a log grows

A judgement does not depend on where the lines stand, but for the number of the line that it cites (`verdict_moved`). A
predicate that forbids records (`Predicate.Forbids`) looks for the first one that it forbids (`Forbids.searches`): once
broken it stays so, and otherwise the records to come decide (`Searches.append_of_broken`, `Searches.append_of_kept`).
Counts add up, and the last message is that of the last record (`count_append`, `finalMessage_append`). Records that
follow others are judged so by every predicate (`continues_append`), and hence a log that goes on after a line feed
(`judged_while_growing`).
-/

namespace LiquidationDrill.Scenario

open Log (Record)

/-! ## Records on other lines -/

/-- The judgement, with the record that it cites so many lines further down. -/
def Verdict.moved (k : Nat) (verdict : Verdict) : Verdict :=
  { verdict with record := verdict.record.map (Record.moved k) }

namespace Predicate

variable {predicate : Predicate} {rs ss : List Record}

/-- **Judgements do not depend on where the records stand**, but for the line that they cite. -/
theorem verdict_moved (predicate : Predicate) (k : Nat) (rs : List Record) :
    predicate.verdict (rs.map (Record.moved k)) = (predicate.verdict rs).moved k := by
  cases predicate with
  | count message expected level =>
    simp only [verdict, Log.count, List.countP_map]
    rfl
  | noUnexpectedErrors allowed =>
    have hk : isUnexpected allowed ∘ Record.moved k = isUnexpected allowed := rfl
    have hl : (fun record : Record => decide (record.level = .error)) ∘ Record.moved k =
        fun record : Record => decide (record.level = .error) := rfl
    simp only [verdict, List.find?_map, List.countP_map, hk, hl]
    cases rs.find? (isUnexpected allowed) <;> rfl
  | vaultExcluded vaultId message =>
    have hk : isAboutVault vaultId message ∘ Record.moved k = isAboutVault vaultId message := rfl
    simp only [verdict, List.find?_map, hk]
    cases rs.find? (isAboutVault vaultId message) <;> rfl
  | finalMessage message =>
    simp only [verdict, List.getLast?_map]
    cases rs.getLast? with
    | none => rfl
    | some last =>
      have hc : (last.moved k).carries message = last.carries message := rfl
      simp only [Option.map_some, hc]
      split <;> rfl

/-! ## Predicates that forbid records -/

/-- The predicate forbids records: unexpected errors, or those about a vault. -/
inductive Forbids : Predicate → Prop
  | errors (allowed : List AllowedError) : Forbids (.noUnexpectedErrors allowed)
  | vault (vaultId message : Value) : Forbids (.vaultExcluded vaultId message)

/-- The predicate looks for the first record of some kind. If there is one, the judgement depends on nothing else. -/
structure Searches (predicate : Predicate) (kind : Record → Bool) : Prop where
  cites (rs : List Record) : CitesFirst kind rs (predicate.verdict rs)
  found {rs ss : List Record} {record : Record} : rs.find? kind = some record → ss.find? kind = some record →
    predicate.verdict rs = predicate.verdict ss

/-- A predicate that forbids records looks for them. -/
theorem Forbids.searches (h : predicate.Forbids) : ∃ kind, predicate.Searches kind := by
  cases h with
  | errors allowed =>
    refine ⟨isUnexpected allowed, noUnexpectedErrors_citesFirst allowed, fun hrs hss => ?_⟩
    simp only [verdict, hrs, hss]
  | vault vaultId message =>
    refine ⟨isAboutVault vaultId message, vaultExcluded_citesFirst vaultId message, fun hrs hss => ?_⟩
    simp only [verdict, hrs, hss]

section Searches

variable {kind : Record → Bool} (h : predicate.Searches kind)
include h

/-- Once a record is found, nothing that follows matters. -/
theorem Searches.append_of_broken (hb : (predicate.verdict rs).passed = false) (ss : List Record) :
    predicate.verdict (rs ++ ss) = predicate.verdict rs := by
  rw [(h.cites rs).passed_eq, Option.isNone_eq_false_iff, Option.isSome_iff_exists] at hb
  obtain ⟨record, hf⟩ := hb
  refine h.found ?_ hf
  rw [List.find?_append, hf, Option.some_or]

/-- Until then the records that follow decide. -/
theorem Searches.append_of_kept (hk : (predicate.verdict rs).passed = true) (ss : List Record) :
    (predicate.verdict (rs ++ ss)).passed = (predicate.verdict ss).passed ∧
      ((predicate.verdict ss).passed = false → predicate.verdict (rs ++ ss) = predicate.verdict ss) := by
  rw [(h.cites rs).passed_eq, Option.isNone_iff_eq_none] at hk
  have hfind : (rs ++ ss).find? kind = ss.find? kind := by rw [List.find?_append, hk, Option.none_or]
  refine ⟨by rw [(h.cites _).passed_eq, (h.cites _).passed_eq, hfind], fun hb => ?_⟩
  rw [(h.cites ss).passed_eq, Option.isNone_eq_false_iff, Option.isSome_iff_exists] at hb
  obtain ⟨record, hf⟩ := hb
  exact h.found (hfind.trans hf) hf

end Searches

/-! ## Counts and last messages -/

/-- Records are counted one after the other. -/
theorem count_append (message : Value) (level : Level) (rs ss : List Record) :
    Log.count message level (rs ++ ss) = Log.count message level rs + Log.count message level ss :=
  List.countP_append

/-- The last message is that of the records that follow, if there are any. -/
theorem finalMessage_append (message : Value) (rs : List Record) (h : ss ≠ []) :
    (finalMessage message).verdict (rs ++ ss) = (finalMessage message).verdict ss := by
  have hlast : (rs ++ ss).getLast? = ss.getLast? := by
    rw [List.getLast?_append, Option.or_of_isSome (List.getLast?_isSome.mpr h)]
  simp only [verdict, hlast]

end Predicate

/-! ## Logs -/

/-- How all records are judged where those of one log follow those of another, with numbers that are larger by `k`. -/
structure Continues (k : Nat) (rs ss whole : List Record) : Prop where
  /-- What is counted adds up. -/
  counts : ∀ message expected level,
    Log.count message level whole = Log.count message level rs + Log.count message level ss ∧
    (Predicate.count message expected level).verdict whole =
      ⟨(Predicate.count message expected level).name,
        (Value.int (Log.count message level rs + Log.count message level ss : Nat)).same expected,
        "found " ++ Text.ofNat (Log.count message level rs + Log.count message level ss), none⟩
  /-- What is broken stays broken, by the same record. -/
  broken : ∀ predicate : Predicate, predicate.Forbids → (predicate.verdict rs).passed = false →
    predicate.verdict whole = predicate.verdict rs
  /-- What is not yet broken is broken iff the records that follow break it, and by the same one of them. -/
  kept : ∀ predicate : Predicate, predicate.Forbids → (predicate.verdict rs).passed = true →
    (predicate.verdict whole).passed = (predicate.verdict ss).passed ∧
    ((predicate.verdict ss).passed = false → predicate.verdict whole = (predicate.verdict ss).moved k)
  /-- The errors that are allowed add up. -/
  tolerated : ∀ allowed, ((Predicate.noUnexpectedErrors allowed).verdict rs).passed = true →
    ((Predicate.noUnexpectedErrors allowed).verdict ss).passed = true → ∃ n m,
      ((Predicate.noUnexpectedErrors allowed).verdict rs).detail = Text.ofNat n ++ " allowed error(s)" ∧
      ((Predicate.noUnexpectedErrors allowed).verdict ss).detail = Text.ofNat m ++ " allowed error(s)" ∧
      ((Predicate.noUnexpectedErrors allowed).verdict whole).detail = Text.ofNat (n + m) ++ " allowed error(s)"
  /-- The last message is that of the records that follow. -/
  final : ∀ message, ss ≠ [] →
    (Predicate.finalMessage message).verdict whole = ((Predicate.finalMessage message).verdict ss).moved k
  /-- If there are none, it is as it was. -/
  final_of_none : ∀ message, ss = [] →
    (Predicate.finalMessage message).verdict whole = (Predicate.finalMessage message).verdict rs

/-- **Records that follow others are judged so by every predicate.** -/
theorem continues_append (k : Nat) (rs ss : List Record) :
    Continues k rs ss (rs ++ ss.map (Record.moved k)) where
  counts message expected level := by
    have hmoved : Log.count message level (ss.map (Record.moved k)) = Log.count message level ss := by
      simp only [Log.count, List.countP_map]
      rfl
    have hsum : Log.count message level (rs ++ ss.map (Record.moved k)) =
        Log.count message level rs + Log.count message level ss := by rw [Predicate.count_append, hmoved]
    refine ⟨hsum, ?_⟩
    simp only [Predicate.verdict, hsum]
  broken predicate hp hb := by
    obtain ⟨kind, hs⟩ := hp.searches
    exact hs.append_of_broken hb _
  kept predicate hp hk := by
    obtain ⟨kind, hs⟩ := hp.searches
    have happend := hs.append_of_kept hk (ss.map (Record.moved k))
    rwa [Predicate.verdict_moved] at happend
  tolerated allowed hrs hss := by
    obtain ⟨kind, hs⟩ := (Predicate.Forbids.errors allowed).searches
    have hmoved := Predicate.verdict_moved (.noUnexpectedErrors allowed) k ss
    have hwhole := (hs.append_of_kept hrs (ss.map (Record.moved k))).1
    rw [hmoved] at hwhole
    -- nothing is unexpected, so each detail counts all errors
    refine ⟨_, _, Predicate.noUnexpectedErrors_detail hrs, Predicate.noUnexpectedErrors_detail hss, ?_⟩
    rw [Predicate.noUnexpectedErrors_detail (hwhole.trans hss), List.countP_append, List.countP_map]
    rfl
  final message hss := by
    have hne : ss.map (Record.moved k) ≠ [] := fun h => hss (List.map_eq_nil_iff.mp h)
    rw [Predicate.finalMessage_append message rs hne, Predicate.verdict_moved]
  final_of_none message hss := by
    rw [hss, List.map_nil, List.append_nil]

/-- **A log that grows is judged by its parts.** Where a log that goes on after a line feed is well-formed, both of its
parts are, and every predicate judges the whole as it does the parts: counts and numbers of allowed errors add up; what
the first part breaks stays broken, with the same detail and the same record; what it does not break is broken iff the
second part breaks it, by the record of that part on its line in the whole; and the last message is that of the second
part, or of the first one if the second has no records. -/
theorem judged_while_growing {a b : Text} (h : a.Ended) {whole : List Record}
    (hw : Log.records (a ++ b) = .ok whole) :
    ∃ rs ss, Log.records a = .ok rs ∧ Log.records b = .ok ss ∧ Continues a.lines.length rs ss whole := by
  obtain ⟨rs, ss, ha, hb, rfl⟩ := Log.records_append_eq_ok h b hw
  exact ⟨rs, ss, ha, hb, continues_append a.lines.length rs ss⟩

/-- An error that may be expected, and a blank line. -/
def failedThenBlank : Text :=
  "\x7b\"level\":\"ERROR\",\"fields\":\x7b\"message\":\"gas\",\"error\":\"out of gas\"\x7d\x7d\r\n\n"

/-- An error of another kind, with no line end after it. -/
def revertedLast : Text := "\x7b\"level\":\"ERROR\",\"fields\":\x7b\"message\":\"gas\",\"error\":\"reverted\"\x7d\x7d"

/-- Where the second error follows the first, it stands two lines further down. -/
theorem reverted_while_growing : failedThenBlank.Ended ∧ ∃ rs ss whole,
    Log.records failedThenBlank = .ok rs ∧ Log.records revertedLast = .ok ss ∧
      Log.records (failedThenBlank ++ revertedLast) = .ok whole ∧ Continues 2 rs ss whole := by
  have hended : failedThenBlank.Ended := by decide
  have hlines : failedThenBlank.lines.length = 2 := by decide +kernel
  obtain ⟨whole, hw⟩ :=
    Result.isOk_iff.mp (show (Log.records (failedThenBlank ++ revertedLast)).isOk = true by decide +kernel)
  obtain ⟨rs, ss, ha, hb, hc⟩ := judged_while_growing hended hw
  rw [hlines] at hc
  exact ⟨hended, rs, ss, whole, ha, hb, hw, hc⟩

end LiquidationDrill.Scenario
