import DocumentLink.Error
import DocumentLink.Json.Value

/-!
# Transports

What carries commands to a server and replies back, seen from the client.

All that a client can ever see of a server is the sequence of answers it gets, so
a transport is given by the answers that are still to come. Sending a command
and taking an answer are separate steps, because a client that does not block
may stop between them. Once the answers are used up every exchange fails.

## Main definitions

* `Answer`: A reply, or the failure to get one.
* `Transport`: An address, the answers to come and the commands sent.
* `Transport.scripted`: A transport that gives fixed answers.
* `Transport.send`: Send a command.
* `Transport.take`: Take the next answer.

## Theorems

* `Transport.take_snd`: What taking an answer leaves.
-/

namespace DocumentLink

/-- A reply, or the failure to get one. -/
abbrev Answer := Except Error Document

/-- What carries commands to one server. -/
structure Transport where
  address : Address
  /-- The answers that are still to come. -/
  answers : List Answer
  /-- What an exchange fails with when there is no answer left. -/
  exhausted : Error
  /-- How long an exchange takes, in microseconds. -/
  latency : Nat := 0
  /-- The commands sent so far, in order. -/
  sent : List Document := []

namespace Transport

/-- A transport that gives fixed answers. -/
def scripted (address : Address) (answers : List Answer) : Transport where
  address := address
  answers := answers
  exhausted := .general "No scripted reply left"

/-- Send a command. -/
def send (t : Transport) (command : Document) : Transport :=
  { t with sent := t.sent ++ [command] }

/-- Take the next answer. -/
def take (t : Transport) : Answer × Transport :=
  match t.answers with
  | [] => (.error t.exhausted, t)
  | answer :: rest => (answer, { t with answers := rest })

/-- Taking an answer uses it up, if there is one, and does nothing else. -/
theorem take_snd (t : Transport) : t.take.2 = { t with answers := t.answers.tail } := by
  rcases t with ⟨address, answers, exhausted, latency, sent⟩
  cases answers <;> rfl

end Transport

end DocumentLink
