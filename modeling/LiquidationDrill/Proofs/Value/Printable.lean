import LiquidationDrill.Log.Fault
import LiquidationDrill.Proofs.Text.Printable

/-!
# Values and faults in messages

Values are shown with printable code points only (`Value.quoted_printable`), whatever strings they hold, and so are the
faults of a log (`Fault.message_printable`).
-/

namespace LiquidationDrill

open Text (Printable printable_append printable_cons printable_nil)

/-! ## Numbers -/

namespace Double

/-- Digits without the zeros at their end are printable. -/
theorem normal_printable (x : Decimal) : Printable x.normal.1 := by
  simp only [Decimal.normal]
  split
  · decide
  · refine (Text.ofNat_printable x.digits).of_subset fun c hc => ?_
    exact List.mem_reverse.mp (List.dropWhile_subset _ (List.mem_reverse.mp hc))

theorem positional_printable {digits : Text} (h : Printable digits) (lead : Int) :
    Printable (positional digits lead) := by
  unfold positional
  split
  · exact printable_append.mpr ⟨printable_append.mpr ⟨by decide, Text.printable_replicate _ (by decide)⟩, h⟩
  · have hp : Printable (digits ++ List.replicate (lead.toNat + 1 - digits.length) (CodePoint.ofChar '0')) :=
      printable_append.mpr ⟨h, Text.printable_replicate _ (by decide)⟩
    refine printable_append.mpr ⟨printable_append.mpr ⟨hp.of_subset (List.take_subset _ _), by decide⟩, ?_⟩
    split
    · decide
    · exact hp.of_subset (List.drop_subset _ _)

theorem scientific_printable {digits : Text} (h : Printable digits) (lead : Int) :
    Printable (scientific .log digits lead) := by
  unfold scientific
  simp only [printable_append]
  refine ⟨⟨⟨⟨⟨h.of_subset (List.take_subset _ _), ?_⟩, by decide⟩, ?_⟩, Text.printable_replicate _ (by decide)⟩,
    Text.ofNat_printable _⟩
  · split
    · exact printable_nil
    · exact printable_append.mpr ⟨by decide, h.of_subset (List.drop_subset _ _)⟩
  · split <;> decide

/-- A double is shown with printable code points. -/
theorem text_printable (x : Double) : Printable x.text := by
  unfold text textIn
  split
  · decide
  · decide
  · decide
  · decide
  next value =>
    dsimp only
    split
    · decide
    · refine printable_append.mpr ⟨by split <;> decide, ?_⟩
      unfold decimalText
      split
      · exact positional_printable (normal_printable _) _
      · exact scientific_printable (normal_printable _) _

end Double

theorem Number.text_printable (n : Number) : Printable n.text := by
  cases n with
  | int n => exact Text.ofInt_printable n
  | float x => exact x.text_printable

/-! ## Values -/

namespace Value

mutual

/-- **A value is shown with printable code points.** -/
theorem quoted_printable : (x : Value) → Printable x.quoted
  | null => by decide
  | bool true => by decide
  | bool false => by decide
  | number n => n.text_printable
  | string t => t.quoted_printable
  | bytes bs => Text.quotedBytes_printable bs
  | array items => by
    rw [quoted, printable_append, printable_append]
    exact ⟨⟨by decide, quotedItems_printable items⟩, by decide⟩
  | object members => by
    rw [quoted, printable_append, printable_append]
    exact ⟨⟨by decide, quotedMembers_printable members⟩, by decide⟩

theorem quotedItems_printable : (xs : List Value) → Printable (quotedItems xs)
  | [] => printable_nil
  | [x] => quoted_printable x
  | x :: y :: xs => by
    simp only [quotedItems, printable_append]
    exact ⟨⟨quoted_printable x, by decide⟩, quotedItems_printable (y :: xs)⟩

theorem quotedMembers_printable : (xs : List (Text × Value)) → Printable (quotedMembers xs)
  | [] => printable_nil
  | [(name, x)] => by
    simp only [quotedMembers, printable_append]
    exact ⟨⟨name.quoted_printable, by decide⟩, quoted_printable x⟩
  | (name, x) :: y :: xs => by
    simp only [quotedMembers, printable_append]
    exact ⟨⟨⟨⟨name.quoted_printable, by decide⟩, quoted_printable x⟩, by decide⟩, quotedMembers_printable (y :: xs)⟩

end

end Value

/-! ## Faults -/

theorem Json.Limit.message_printable (limit : Json.Limit) : Printable limit.message := by
  cases limit with
  | integerTooLong n =>
    simp only [message, printable_append]
    exact ⟨⟨by decide, Text.ofNat_printable n⟩, by decide⟩
  | arrayTooDeep => decide
  | objectTooDeep => decide

theorem Json.Fault.message_printable (fault : Json.Fault) : Printable fault.message := by
  cases fault with
  | beyond limit => exact limit.message_printable
  | _ => decide

namespace Log

theorem Reason.message_printable (reason : Reason) : Printable reason.message := by
  cases reason with
  | notJson fault => exact printable_append.mpr ⟨printable_append.mpr ⟨by decide, fault.message_printable⟩, by decide⟩
  | unknownLevel value => exact printable_append.mpr ⟨by decide, value.quoted_printable⟩
  | noHash message => exact printable_append.mpr ⟨message.quoted_printable, by decide⟩
  | unreadableHash value => exact printable_append.mpr ⟨by decide, value.quoted_printable⟩
  | _ => decide

/-- **A malformed line is reported with printable code points**, whatever the line holds. -/
theorem malformed_message_printable (reason : Reason) (place : Option Place) :
    Printable (Fault.malformed reason place).message := by
  cases place with
  | none => exact reason.message_printable
  | some place =>
    simp only [Fault.message, printable_append]
    exact ⟨⟨⟨⟨⟨by decide, Text.ofInt_printable _⟩, by decide⟩, reason.message_printable⟩, by decide⟩,
      place.line.quoted_printable⟩

end Log

end LiquidationDrill
