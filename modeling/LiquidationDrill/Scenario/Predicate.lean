import LiquidationDrill.Log.Stream

/-!
# Predicates on logs

A predicate judges the records of a log and cites the record that breaks it.

- `Predicate`: the four kinds;
- `Predicate.verdict`: the judgement, which shows the name of the predicate (`Predicate.isNameable`).
-/

namespace LiquidationDrill.Scenario

open Log (Record Fault)

/-- An error that a scenario tolerates: its message, and a piece of the error where one is given. -/
structure AllowedError where
  message : Value
  errorContains : Option Text

/-- The record reports this error. An error that is null, false, zero or empty counts as an empty text. -/
def AllowedError.matchesRecord (allowed : AllowedError) (record : Record) : Bool :=
  record.carries allowed.message &&
    match allowed.errorContains with
    | none => true
    | some piece => (if record.error.isTruthy then record.error.display else []).contains piece

/-- What a scenario expects of the records of a log. -/
inductive Predicate where
  /-- As many records with this message at this level as expected. -/
  | count (message expected : Value) (level : Level)
  /-- No record of an error but allowed ones. -/
  | noUnexpectedErrors (allowed : List AllowedError)
  /-- No record with this message is about this vault. -/
  | vaultExcluded (vaultId message : Value)
  /-- The last record has this message. -/
  | finalMessage (message : Value)

/-- The judgement of a predicate. -/
structure Verdict where
  name : Text
  passed : Bool
  detail : Text
  /-- The record that breaks the predicate. -/
  record : Option Record

/-- The message of a liquidation. -/
def liquidation : Text := "Submitted liquidation"

/-- A count at the level of a name, which need not be one. -/
def Predicate.countAt (message expected levelName : Value) : Except Fault Predicate :=
  (Log.levelNamed levelName).map (.count message expected)

namespace Predicate

/-- The name of a predicate. -/
def name : Predicate → Text
  | count message expected level =>
    "count[" ++ level.name ++ " " ++ message.quoted ++ "] == " ++ expected.display
  | noUnexpectedErrors _ => "no unexpected ERROR records"
  | vaultExcluded vaultId message => "vault " ++ plainVaultId vaultId ++ " never in " ++ message.quoted
  | finalMessage message => "last message == " ++ message.quoted

/-- The values in the name of a predicate can be shown. -/
def isNameable : Predicate → Bool
  | count message expected _ => message.isShowable && expected.isShowable
  | noUnexpectedErrors _ => true
  | vaultExcluded vaultId message => vaultId.isShowable && message.isShowable
  | finalMessage message => message.isShowable

/-- The record is an error that no one allows. -/
def isUnexpected (allowed : List AllowedError) (record : Record) : Bool :=
  record.level = .error && !allowed.any (·.matchesRecord record)

/-- The record is about the vault and has the message. -/
def isAboutVault (vaultId message : Value) (record : Record) : Bool :=
  record.carries message && record.vaultId? = some (plainVaultId vaultId)

/-- The judgement of a predicate on records. -/
def verdict (predicate : Predicate) (records : List Record) : Verdict :=
  let pass (detail : Text) : Verdict := ⟨predicate.name, true, detail, none⟩
  let fail (detail : Text) (record : Option Record) : Verdict := ⟨predicate.name, false, detail, record⟩
  match predicate with
  | count message expected level =>
    let found := Log.count message level records
    ⟨predicate.name, (Value.int found).same expected, "found " ++ Text.ofNat found, none⟩
  | noUnexpectedErrors allowed =>
    match records.find? (isUnexpected allowed) with
    | some record =>
      fail ("ERROR " ++ record.message.quoted ++ " (error=" ++ record.error.quoted ++ ") is not allowed")
        (some record)
    | none => pass (Text.ofNat (records.countP (·.level = .error)) ++ " allowed error(s)")
  | vaultExcluded vaultId message =>
    match records.find? (isAboutVault vaultId message) with
    | some record => fail "vault was submitted" (some record)
    | none => pass "vault not submitted"
  | finalMessage message =>
    match records.getLast? with
    | none => fail "no records" none
    | some last =>
      if last.carries message then pass "ok"
      else fail ("last message is " ++ last.message.quoted) (some last)

end Predicate

end LiquidationDrill.Scenario
