import DocumentLink.Blocking.Opening

/-!
# Courses

What is done on a connection, in order: commands are exchanged for answers, and
provers are asked things. A course is the list of these, and everything that can
be seen from outside follows from it. The commands of a course have been sent,
its answers have been taken from the transport, its calls are in the journal
where they are observed, and nothing else on the connection has changed.

Only the text of an exchange is in a course; what the listener was told about it
is decided by the exchange itself.

## Main definitions

* `Deed`, `Course`: What is done, one thing after the other.
* `Course.exchanges`, `Course.commands`, `Course.calls`: What a course consists of.
* `Course.challenges`: What one of its provers was given.
* `Line.Follows`: A course leads from one line to another.
* `Line.Takes`: What work at a desk came to was reached by a course of a kind.
* `Answer.checked`: What a client makes of an answer.
* `Transport.answer`: The answers to come, by their number.

## Theorems

* `Line.Follows.append`: A course after another one.
* `Line.Follows.connection_eq`: Everything but the transport stays.
* `Line.Follows.sent_eq`: The commands are what was sent.
* `Line.Follows.answer_eq`: The answers are those of the transport.
* `Line.Follows.calls_eq`: The calls are what was noted.
* `Blocking.runAt_command`: What a command comes to.
-/

namespace DocumentLink

/-- One thing that is done while a connection is opened. -/
inductive Deed where
  /-- A command was sent, and the transport gave an answer. -/
  | exchanged (command : Document) (answer : Answer)
  /-- A prover was made or was asked something. -/
  | asked (call : MechanismCall)

/-- The exchange, if the deed is one. -/
def Deed.exchange? : Deed → Option (Document × Answer)
  | exchanged command answer => some (command, answer)
  | asked _ => none

/-- The call, if the deed is one. -/
def Deed.call? : Deed → Option MechanismCall
  | exchanged .. => none
  | asked call => some call

/-- The challenge, if the call gives one to the prover with the number. -/
def MechanismCall.challenge? (number : Nat) : MechanismCall → Option Bytes
  | .challenge prover data => if prover = number then some data else none
  | _ => none

@[simp] theorem MechanismCall.challenge?_self (number : Nat) (data : Bytes) :
    (challenge number data).challenge? number = some data :=
  if_pos rfl

/-- What is done, one thing after the other. -/
abbrev Course := List Deed

namespace Course

/-- The commands with their answers. -/
def exchanges (course : Course) : List (Document × Answer) :=
  course.filterMap Deed.exchange?

def commands (course : Course) : List Document :=
  course.exchanges.map Prod.fst

def calls (course : Course) : List MechanismCall :=
  course.filterMap Deed.call?

/-- The challenges given to the prover with a number. -/
def challenges (number : Nat) (course : Course) : List Bytes :=
  course.calls.filterMap (MechanismCall.challenge? number)

@[simp] theorem exchanges_nil : exchanges [] = [] := rfl

@[simp] theorem exchanges_asked (call : MechanismCall) (course : Course) :
    exchanges (.asked call :: course) = exchanges course := rfl

@[simp] theorem exchanges_exchanged (command : Document) (answer : Answer) (course : Course) :
    exchanges (.exchanged command answer :: course) = (command, answer) :: exchanges course := rfl

@[simp] theorem exchanges_append (first second : Course) :
    exchanges (first ++ second) = exchanges first ++ exchanges second :=
  List.filterMap_append

@[simp] theorem commands_nil : commands [] = [] := rfl

@[simp] theorem commands_asked (call : MechanismCall) (course : Course) :
    commands (.asked call :: course) = commands course := rfl

@[simp] theorem commands_exchanged (command : Document) (answer : Answer) (course : Course) :
    commands (.exchanged command answer :: course) = command :: commands course := rfl

@[simp] theorem commands_append (first second : Course) :
    commands (first ++ second) = commands first ++ commands second := by
  rw [commands, exchanges_append, List.map_append]
  rfl

/-- The first exchange of a course that only asks before it. -/
theorem exchanges_append_exchanged {course : Course} (h : course.exchanges = [])
    (command : Document) (answer : Answer) (rest : Course) :
    exchanges (course ++ .exchanged command answer :: rest) =
      (command, answer) :: exchanges rest := by
  rw [exchanges_append, h]
  rfl

theorem commands_append_exchanged {course : Course} (h : course.exchanges = [])
    (command : Document) (answer : Answer) (rest : Course) :
    commands (course ++ .exchanged command answer :: rest) = command :: commands rest := by
  rw [commands, exchanges_append_exchanged h]
  rfl

@[simp] theorem calls_nil : calls [] = [] := rfl

@[simp] theorem calls_asked (call : MechanismCall) (course : Course) :
    calls (.asked call :: course) = call :: calls course := rfl

@[simp] theorem calls_exchanged (command : Document) (answer : Answer) (course : Course) :
    calls (.exchanged command answer :: course) = calls course := rfl

@[simp] theorem calls_append (first second : Course) :
    calls (first ++ second) = calls first ++ calls second :=
  List.filterMap_append

@[simp] theorem challenges_nil (number : Nat) : challenges number [] = [] := rfl

@[simp] theorem challenges_exchanged (number : Nat) (command : Document) (answer : Answer)
    (course : Course) :
    challenges number (.exchanged command answer :: course) = challenges number course := rfl

@[simp] theorem challenges_asked (number : Nat) (call : MechanismCall) (course : Course) :
    challenges number (.asked call :: course) =
      (call.challenge? number).toList ++ challenges number course := by
  rw [challenges, calls_asked, List.filterMap_cons]
  cases call.challenge? number <;> rfl

@[simp] theorem challenges_append (number : Nat) (first second : Course) :
    challenges number (first ++ second) = challenges number first ++ challenges number second := by
  rw [challenges, calls_append, List.filterMap_append]
  rfl

end Course

/-- What a client makes of an answer: a reply has to report success. -/
def Answer.checked (answer : Answer) (address : Address) : Except Error Document :=
  answer.bind fun reply => reply.checked address

/-- What a client goes on with is a reply as it came, and it reports success. -/
theorem Answer.checked_eq_ok {answer : Answer} {address : Address} {reply : Document} :
    answer.checked address = .ok reply ↔ answer = .ok reply ∧ reply.isOk = true := by
  cases answer with
  | error e =>
      constructor
      · intro h
        exact absurd h (by simp only [checked, Except.bind, reduceCtorEq, not_false_eq_true])
      · intro h
        exact absurd h.1 (by simp only [reduceCtorEq, not_false_eq_true])
  | ok given =>
      simp only [checked, Except.bind, Document.checked, Except.ok.injEq]
      by_cases hok : given.isOk = true
      · rw [if_pos hok]
        constructor
        · intro h
          injection h with h
          exact ⟨h, h ▸ hok⟩
        · intro h
          rw [h.1]
      · rw [if_neg hok]
        constructor
        · intro h
          exact absurd h (by simp only [reduceCtorEq, not_false_eq_true])
        · intro h
          rw [h.1] at hok
          exact absurd h.2 hok

namespace Transport

/-- The answer to an exchange, counted from those that are still to come. -/
def answer (t : Transport) (i : Nat) : Answer :=
  (t.answers[i]?).getD (.error t.exhausted)

theorem take_eq_answer (t : Transport) : t.take.1 = t.answer 0 := by
  rw [take, answer]
  cases t.answers <;> rfl

theorem answer_take (t : Transport) (i : Nat) : t.take.2.answer i = t.answer (i + 1) := by
  simp only [take, answer]
  cases hanswers : t.answers with
  | nil => simp only [hanswers, List.getElem?_nil]
  | cons answer rest => simp only [List.getElem?_cons_succ]

/-- A reply is among the answers to come, for once they are used up there is none. -/
theorem answer_eq_ok_iff {t : Transport} {i : Nat} {document : Document} :
    t.answer i = .ok document ↔ t.answers[i]? = some (.ok document) := by
  rw [answer]
  cases t.answers[i]? with
  | none => simp only [Option.getD_none, reduceCtorEq]
  | some answer => simp only [Option.getD_some, Option.some.injEq]

end Transport

namespace Line

/-- A course leads from one line to another. Commands are exchanged as a blocking
    client does it, and calls are noted if they are observed. -/
inductive Follows (observed : Bool) : Line → Course → Line → Prop where
  | refl (line : Line) : Follows observed line [] line
  | exchanged {line after : Line} {command : Document} {course : Course}
      (rest : Follows observed (Blocking.exchange line command).2 course after) :
      Follows observed line
        (.exchanged command (Blocking.exchange line command).1 :: course) after
  | asked {line after : Line} {call : MechanismCall} {course : Course}
      (rest : Follows observed { line with journal := line.journal.note observed call } course
        after) :
      Follows observed line (.asked call :: course) after

variable {observed : Bool} {line between after : Line} {course first second : Course}

theorem Follows.append (hfirst : Follows observed line first between)
    (hsecond : Follows observed between second after) :
    Follows observed line (first ++ second) after := by
  induction hfirst with
  | refl _ => exact hsecond
  | exchanged _ ih => exact .exchanged (ih hsecond)
  | asked _ ih => exact .asked (ih hsecond)

theorem connection_exchange (line : Line) (command : Document) :
    (Blocking.exchange line command).2.connection =
      { line.connection with transport := (line.connection.transport.send command).take.2 } := by
  simp only [Blocking.exchange, take, send, Blocking.connection_report,
    Blocking.connection_announce]

theorem transport_exchange (line : Line) (command : Document) :
    (Blocking.exchange line command).2.connection.transport =
      (line.connection.transport.send command).take.2 := by
  rw [connection_exchange]

theorem sent_exchange (line : Line) (command : Document) :
    (Blocking.exchange line command).2.connection.transport.sent =
      line.connection.transport.sent ++ [command] := by
  rw [transport_exchange, Transport.take_snd]
  rfl

theorem address_exchange (line : Line) (command : Document) :
    (Blocking.exchange line command).2.connection.address = line.connection.address := by
  rw [Connection.address, transport_exchange, Transport.take_snd]
  rfl

/-- An exchange tells its listener two things and notes no calls. -/
theorem calls_exchange (line : Line) (command : Document) :
    (Blocking.exchange line command).2.journal.calls = line.journal.calls := by
  -- Both events go to the listener, if there is one.
  simp only [Blocking.exchange, take, send, announce, number, tellStarted, report]
  cases line.connection.listener with
  | none => rfl
  | some listener =>
      simp only [Journal.calls_tell, Journal.hand]
      rfl

/-- Everything on the connection but its transport stays. -/
theorem Follows.connection_eq (h : Follows observed line course after) :
    after.connection = { line.connection with transport := after.connection.transport } := by
  induction h with
  | refl _ => rfl
  | exchanged _ ih =>
      rw [ih, connection_exchange]
  | asked _ ih => exact ih

theorem Follows.address_eq (h : Follows observed line course after) :
    after.connection.address = line.connection.address := by
  induction h with
  | refl _ => rfl
  | exchanged _ ih => rw [ih, address_exchange]
  | asked _ ih => exact ih

theorem Follows.latency_eq (h : Follows observed line course after) :
    after.connection.transport.latency = line.connection.transport.latency := by
  induction h with
  | refl _ => rfl
  | exchanged _ ih =>
      rw [ih, transport_exchange, Transport.take_snd]
      rfl
  | asked _ ih => exact ih

/-- The commands of a course are what was sent. -/
theorem Follows.sent_eq (h : Follows observed line course after) :
    after.connection.transport.sent = line.connection.transport.sent ++ course.commands := by
  induction h with
  | refl _ => rw [Course.commands_nil, List.append_nil]
  | exchanged _ ih => rw [ih, sent_exchange, Course.commands_exchanged, List.append_assoc,
      List.singleton_append]
  | asked _ ih => rw [ih, Course.commands_asked]

/-- The calls of a course are what was noted. -/
theorem Follows.calls_eq (h : Follows observed line course after) :
    after.journal.calls = line.journal.calls ++ if observed then course.calls else [] := by
  induction h with
  | refl _ => cases observed <;> exact (List.append_nil _).symm
  | exchanged _ ih => rw [ih, calls_exchange, Course.calls_exchanged]
  | asked _ ih =>
      rw [ih]
      cases observed with
      | false => rfl
      | true =>
          simp only [Journal.note, if_true, Course.calls_asked, List.append_assoc,
            List.singleton_append]

/-- The answers of a course are those the transport had to give, one after the
    other, and its failure once there is none left. -/
theorem Follows.answer_eq (h : Follows observed line course after) {i : Nat}
    {command : Document} {answer : Answer} (hi : course.exchanges[i]? = some (command, answer)) :
    answer = line.connection.transport.answer i := by
  induction h generalizing i with
  | refl _ => cases hi
  | exchanged _ ih =>
      rw [Course.exchanges_exchanged] at hi
      cases i with
      | zero =>
          -- The first exchange takes the first answer, and the others are left for the rest.
          injection hi with hi
          injection hi with _ hanswer
          rw [← hanswer, Blocking.exchange_fst, Transport.take_eq_answer]
      | succ k =>
          rw [List.getElem?_cons_succ] at hi
          rw [ih hi, transport_exchange, Transport.answer_take]
          rfl
  | asked _ ih => exact ih hi

end Line

namespace Line

variable {α : Type} {observed : Bool} {line : Line} {outcome : Except Error α × Desk}
  {kind kind' : Course → Except Error α → Prop}

/-- What work at a desk came to was reached by a course, and the course and the end
    are of a kind. -/
def Takes (observed : Bool) (line : Line) (outcome : Except Error α × Desk)
    (kind : Course → Except Error α → Prop) : Prop :=
  ∃ course, line.Follows observed course outcome.2.line ∧ kind course outcome.1

theorem Takes.mono (h : Takes observed line outcome kind)
    (himp : ∀ course result, kind course result → kind' course result) :
    Takes observed line outcome kind' := by
  rcases h with ⟨course, hfollows, hkind⟩
  exact ⟨course, hfollows, himp course _ hkind⟩

/-- Work that has followed a course and then takes another. -/
theorem Takes.after {first : Course} {between : Line} (hfirst : line.Follows observed first between)
    (h : between.Takes observed outcome fun course result => kind (first ++ course) result) :
    Takes observed line outcome kind := by
  rcases h with ⟨course, hfollows, hkind⟩
  exact ⟨_, hfirst.append hfollows, hkind⟩

theorem Takes.asked (call : MechanismCall)
    (h : Takes observed { line with journal := line.journal.note observed call } outcome
      fun course result => kind (.asked call :: course) result) :
    Takes observed line outcome kind :=
  .after (.asked (.refl _)) h

theorem Takes.exchanged (command : Document)
    (h : Takes observed (Blocking.exchange line command).2 outcome
      fun course result =>
        kind (.exchanged command (Blocking.exchange line command).1 :: course) result) :
    Takes observed line outcome kind :=
  .after (.exchanged (.refl _)) h

/-- Changing the errors of work changes neither its course nor its desk. -/
theorem Takes.mapError {act : Act α} {desk : Desk} (f : Error → Error)
    (h : line.Takes observed (act.runAt desk) kind) :
    line.Takes observed ((act.mapError f).runAt desk)
      fun course result => ∃ own, kind course own ∧ result = own.mapError f := by
  rcases h with ⟨course, hfollows, hkind⟩
  exact ⟨course, hfollows, _, hkind, rfl⟩

end Line

namespace Blocking

/-- A command is one exchange, and its answer is checked. -/
theorem runAt_command (database : String) (document : Document) (api : Option ServerApi)
    (desk : Desk) :
    (command database document api).runAt desk =
      (Answer.checked (exchange desk.line (Command.prepare document database api)).1 desk.address,
        { desk with line := (exchange desk.line (Command.prepare document database api)).2 }) := by
  have haddress := Line.address_exchange desk.line (Command.prepare document database api)
  rw [Desk.address, ← haddress]
  rfl

end Blocking

end DocumentLink
