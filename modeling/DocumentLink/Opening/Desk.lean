import DocumentLink.Authentication.Prover
import DocumentLink.Connection

/-!
# The Desk

Everything that changes while one connection is opened: the connection and the
journal, what has been sent on speculation, and how many provers have been made.

Work at the desk either ends with a value or with an error, and the desk keeps
what was done before an error.

## Main definitions

* `Speculation`: A step sent inside a handshake, and the answer to it.
* `Desk`: What changes while a connection is opened.
* `Act`: Work at the desk that may fail.
* `Desk.answersLeft`: How many answers are still to come.

## Theorems

* `Act.runAt_bind`: Work in sequence stops at the first error.
* `Act.runAt_mapError`: Changing errors leaves the desk alone.
-/

namespace DocumentLink

/-- A step sent inside a handshake, and the answer to it. The two are filled and
    emptied at different times. -/
structure Speculation where
  /-- The prover that made the step. -/
  pending : Option Prover.Running := none
  /-- The server's answer. -/
  response : Option Document := none

/-- What changes while a connection is opened. -/
structure Desk where
  line : Line
  speculation : Speculation := {}
  /-- How many provers the provider has made. -/
  created : Nat := 0

/-- Work at the desk that may fail. -/
abbrev Act := ExceptT Error (StateM Desk)

namespace Desk

/-- How many answers are still to come. -/
def answersLeft (desk : Desk) : Nat :=
  desk.line.connection.transport.answers.length

/-- The address of the server. -/
def address (desk : Desk) : Address :=
  desk.line.connection.address

/-- Note what a prover was asked. -/
def note (desk : Desk) (observed : Bool) (call : MechanismCall) : Desk :=
  { desk with line.journal := desk.line.journal.note observed call }

end Desk

namespace Act

variable {α : Type}

/-- Do the work at a desk: how it ends, and the desk it leaves behind. -/
def runAt (act : Act α) (desk : Desk) : Except Error α × Desk :=
  (act.run).run desk

/-- Do the work and go on whatever the end. -/
def attempt (act : Act α) : StateM Desk (Except Error α) :=
  act.run

/-- Do the work and hold its error as a value. -/
def tried (act : Act α) : Act (Except Error α) :=
  ExceptT.lift act.run

/-- A result that is known already. -/
def ofResult (result : Except Error α) : Act α :=
  ExceptT.mk (pure result)

/-- The work with its errors changed. -/
def mapError (f : Error → Error) (act : Act α) : Act α :=
  ExceptT.adapt f act

/-- Note what a prover was asked. -/
def note (observed : Bool) (call : MechanismCall) : Act Unit :=
  modify fun desk => desk.note observed call

variable {β : Type}

@[simp] theorem runAt_pure (a : α) (desk : Desk) : (pure a : Act α).runAt desk = (.ok a, desk) :=
  rfl

@[simp] theorem runAt_throw (e : Error) (desk : Desk) :
    (throw e : Act α).runAt desk = (.error e, desk) :=
  rfl

/-- Work in sequence stops at the first error. -/
theorem runAt_bind (act : Act α) (f : α → Act β) (desk : Desk) :
    (act >>= f).runAt desk =
      match act.runAt desk with
      | (.ok a, desk) => (f a).runAt desk
      | (.error e, desk) => (.error e, desk) := by
  show (match act.runAt desk with | (r, desk) => (ExceptT.bindCont f r).run desk) = _
  split
  rename_i r desk' heq
  cases r <;> rw [heq] <;> rfl

@[simp] theorem runAt_ofResult (result : Except Error α) (desk : Desk) :
    (ofResult result).runAt desk = (result, desk) :=
  rfl

@[simp] theorem runAt_note (observed : Bool) (call : MechanismCall) (desk : Desk) :
    (note observed call).runAt desk = (.ok (), desk.note observed call) :=
  rfl

@[simp] theorem runAt_tried (act : Act α) (desk : Desk) :
    act.tried.runAt desk = (.ok (act.runAt desk).1, (act.runAt desk).2) :=
  rfl

theorem runAt_mapError (f : Error → Error) (act : Act α) (desk : Desk) :
    (act.mapError f).runAt desk = ((act.runAt desk).1.mapError f, (act.runAt desk).2) :=
  rfl

end Act

end DocumentLink
