import DocumentLink.Opening.Desk

/-!
# Suspending Exchanges

A command that is sent now and answered later. In between the client is
suspended: other work may be done on this or any other connection, and the
client may be dropped, in which case the answer is never taken.

What has to be remembered while suspended is a value of its own, and going on is
a function of that value. So a whole computation is a chain of values, each
made from the one before when an answer is due, and every order in which
suspended clients go on is an order of function calls.

## Main definitions

* `Progress`: How far a computation has come: suspended, or finished.
* `Suspending.begin`: Send a command and suspend.
* `Suspending.complete`: Take the answer.
* `Suspending.send`, `Suspending.receive`: The same with a prepared command and a
  checked reply, at the desk.
* `Suspending.goOn`, `Suspending.goOnFully`: Go on with a computation a number of
  times, or until the end.
-/

namespace DocumentLink

/-- How far a computation has come. -/
inductive Progress (ω α : Type) where
  | suspended (waiting : ω)
  | finished (result : Except Error α)

namespace Progress

variable {ω ω' α : Type}

/-- A finished computation with its error changed. -/
def mapError (f : Error → Error) : Progress ω α → Progress ω α
  | suspended waiting => suspended waiting
  | finished result => finished (result.mapError f)

/-- A suspended computation as part of a larger one. -/
def mapWaiting (f : ω → ω') : Progress ω α → Progress ω' α
  | suspended waiting => suspended (f waiting)
  | finished result => finished result

/-- The result, if the computation has come to an end. -/
def result? : Progress ω α → Option (Except Error α)
  | suspended _ => none
  | finished result => some result

end Progress

namespace Suspending

/-- Send a command and suspend. -/
def begin (line : Line) (command : Document) : Option Ticket × Line :=
  let (ticket, line) := line.announce command
  (ticket, line.send command)

/-- Take the answer to a command. -/
def complete (line : Line) (ticket : Option Ticket) : Answer × Line :=
  let (answer, line) := line.take
  (answer, line.report ticket answer)

/-- Send a prepared command from the desk and suspend. -/
def send (database : String) (command : Document) (api : Option ServerApi) :
    StateM Desk (Option Ticket) := fun desk =>
  let (ticket, line) := begin desk.line (Command.prepare command database api)
  (ticket, { desk with line := line })

/-- Take the answer at the desk; a reply has to report success. -/
def receive (ticket : Option Ticket) : Act Document := fun desk =>
  let (answer, line) := complete desk.line ticket
  (answer.bind fun reply => reply.checked line.connection.address, { desk with line := line })

variable {ω α : Type}

/-- Go on with a computation a number of times, or until the end. -/
def goOn (step : ω → StateM Desk (Progress ω α)) :
    Nat → Progress ω α → Desk → Progress ω α × Desk
  | n + 1, .suspended waiting, desk =>
    let (progress, desk) := (step waiting).run desk
    goOn step n progress desk
  | _, progress, desk => (progress, desk)

/-- Go on with a computation until the end. Every step takes an answer of the
    transport, and the first one that finds none is the last. -/
def goOnFully (step : ω → StateM Desk (Progress ω α)) (progress : Progress ω α) (desk : Desk) :
    Progress ω α × Desk :=
  goOn step (desk.answersLeft + 1) progress desk

end Suspending

end DocumentLink
