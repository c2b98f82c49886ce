import LiquidationDrill.Node.Request
import LiquidationDrill.Notice
import LiquidationDrill.Text.Encoded
import LiquidationDrill.Value.Arithmetic
import LiquidationDrill.Value.Parts

/-!
# Scripts

A script is a tree: it asks for something and goes on by the answer, tells something, or ends with a value or a
failure. What answers is a node (`LiquidationDrill.Node.Session`); the tree does not depend on it.

- `Script.bind`: one script after another;
- `Script.ensuring`: a script after another, however that one ends.
-/

namespace LiquidationDrill

/-- Why a script ends early. -/
inductive Failure where
  /-- The node refused a request with these words. -/
  | refused (message : Text)
  /-- A receipt shows no vault. -/
  | noVaultBuilt
  /-- There is no amount, or no text for it. -/
  | amount (fault : Value.Fault)
  /-- A line of output cannot be written. -/
  | unencodable (fault : Utf8.Unencodable)
  /-- An answer has other parts than it should, or was asked for by what is no key. -/
  | misshapen (fault : Value.Misshapen)
  /-- The node keeps transactions, but none of this hash. -/
  | unknownTransaction (hash : Value)
  /-- The node keeps no transactions at all. -/
  | noTransactions

/-- The wording of a failure. -/
def Failure.message : Failure → Text
  | refused message => message
  | noVaultBuilt => "list index out of range"
  | amount fault => fault.message
  | unencodable fault => fault.message
  | misshapen fault => fault.message
  | unknownTransaction hash => hash.quoted
  | noTransactions => Value.quoted (.string "transactions")

/-- A program that asks a node. -/
inductive Script (α : Type) where
  | done (value : α)
  | fail (failure : Failure)
  /-- Tells the operator something. -/
  | note (notice : Notice) (next : Script α)
  /-- Writes a line of output. -/
  | echo (line : Text) (next : Script α)
  /-- Asks a node, which answers or fails. -/
  | ask (request : Request) (next : Except Failure request.Answer → Script α)

namespace Script

variable {α β : Type}

/-- Goes on with the value of a script. -/
def bind : Script α → (α → Script β) → Script β
  | done a, f => f a
  | fail failure, _ => fail failure
  | note notice next, f => note notice (next.bind f)
  | echo line next, f => echo line (next.bind f)
  | ask request next, f => ask request fun answer => (next answer).bind f

/-- A script with nothing after it. -/
theorem bind_done (x : Script α) : x.bind done = x := by
  induction x with
  | done a => rfl
  | fail failure => rfl
  | note notice next ih => rw [bind, ih]
  | echo line next ih => rw [bind, ih]
  | ask request next ih => rw [bind, funext ih]

/-- Three scripts one after the other. -/
theorem bind_assoc {γ : Type} (x : Script α) (f : α → Script β) (g : β → Script γ) :
    (x.bind f).bind g = x.bind fun a => (f a).bind g := by
  induction x with
  | done a => rfl
  | fail failure => rfl
  | note notice next ih => rw [bind, bind, bind, ih]
  | echo line next ih => rw [bind, bind, bind, ih]
  | ask request next ih => rw [bind, bind, bind, funext ih]

instance : Monad Script where
  pure := done
  bind := bind

instance : LawfulMonad Script := LawfulMonad.mk' _ bind_done (fun _ _ => rfl) bind_assoc

/-- A script with a cleanup at its end, whether it fails or not. Where the cleanup fails itself, its failure counts. -/
def ensuring : Script α → (cleanup : Script Unit) → Script α
  | done a, cleanup => cleanup.bind fun _ => done a
  | fail failure, cleanup => cleanup.bind fun _ => fail failure
  | note notice next, cleanup => note notice (next.ensuring cleanup)
  | echo line next, cleanup => echo line (next.ensuring cleanup)
  | ask request next, cleanup => ask request fun answer => (next answer).ensuring cleanup

/-- Asks for something and fails if there is no answer. -/
def request (r : Request) : Script r.Answer :=
  ask r fun
    | .ok answer => done answer
    | .error failure => fail failure

/-- Goes on with an amount, if there is one. -/
def amount (result : Except Value.Fault α) : Script α :=
  match result with
  | .ok a => done a
  | .error fault => fail (.amount fault)

/-- Tells the operator something. -/
def info (message : Text) : Script Unit := note (.info message) (done ())

/-- Writes a line of output, if it can be written. -/
def say (line : Text) : Script Unit :=
  match line.echoed with
  | .ok _ => echo line (done ())
  | .error fault => fail (.unencodable fault)

end Script

end LiquidationDrill
