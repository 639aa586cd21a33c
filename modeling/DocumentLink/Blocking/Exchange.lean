import DocumentLink.Opening.Desk

/-!
# Blocking Exchanges

A command sent and answered in one go. Nothing else happens on the connection
between the two, and the listener is told of both.

Every exchange that is answered uses up an answer of the transport. That is what
makes a conversation over blocking exchanges end.

## Main definitions

* `Blocking.exchange`: Send a command and wait for the answer.
* `Blocking.execute`: The same with a prepared command and a checked reply.
* `Blocking.command`: The same, as work at the desk.

## Theorems

* `Blocking.exchange_fst`, `Blocking.answers_exchange`: An exchange answers with
  the transport's next answer and takes it.
* `Blocking.answersLeft_command_lt`: A command that succeeds uses up an answer.
-/

namespace DocumentLink

namespace Blocking

/-- Send a command and wait for the answer. -/
def exchange (line : Line) (command : Document) : Answer × Line :=
  let (ticket, line) := line.announce command
  let (answer, line) := (line.send command).take
  (answer, line.report ticket answer)

/-- Send a prepared command and wait for a reply that reports success. -/
def execute (line : Line) (database : String) (command : Document) (api : Option ServerApi) :
    Answer × Line :=
  let (answer, line) := exchange line (Command.prepare command database api)
  (answer.bind fun reply => reply.checked line.connection.address, line)

/-- Send a prepared command from the desk and wait for a reply that reports
    success. -/
def command (database : String) (command : Document) (api : Option ServerApi) : Act Document :=
  fun desk =>
    let (answer, line) := execute desk.line database command api
    (answer, { desk with line := line })

theorem connection_number (line : Line) (command : Document) :
    (line.number command).2.connection = line.connection := by
  unfold Line.number
  split <;> rfl

theorem connection_tellStarted (line : Line) (ticket : Option Ticket) (command : Document) :
    (line.tellStarted ticket command).connection = line.connection := by
  unfold Line.tellStarted
  split <;> rfl

theorem connection_announce (line : Line) (command : Document) :
    (line.announce command).2.connection = line.connection := by
  rw [Line.announce, connection_tellStarted, connection_number]

theorem connection_report (line : Line) (ticket : Option Ticket) (answer : Answer) :
    (line.report ticket answer).connection = line.connection := by
  unfold Line.report
  split <;> rfl

/-- The answer of an exchange is the transport's next one. -/
theorem exchange_fst (line : Line) (command : Document) :
    (exchange line command).1 = line.connection.transport.take.1 := by
  simp only [exchange, Line.take, Line.send, connection_announce, Transport.send, Transport.take]
  split <;> rfl

/-- An exchange takes its answer from the transport. -/
theorem answers_exchange (line : Line) (command : Document) :
    (exchange line command).2.connection.transport.answers =
      line.connection.transport.take.2.answers := by
  simp only [exchange, Line.take, Line.send, connection_report, connection_announce,
    Transport.send, Transport.take_snd]

/-- A transport that gives a reply has one answer less. -/
theorem answers_take_lt {t : Transport} {reply : Document} (h : t.take.1 = .ok reply) :
    t.take.2.answers.length < t.answers.length := by
  unfold Transport.take at h ⊢
  split at h
  · exact absurd h (by simp only [reduceCtorEq, not_false_eq_true])
  · rename_i answer rest hanswers
    simp only [hanswers, List.length_cons]
    omega

/-- An exchange with a reply leaves one answer less. -/
theorem answers_exchange_lt {line : Line} {command reply : Document}
    (h : (exchange line command).1 = .ok reply) :
    (exchange line command).2.connection.transport.answers.length <
      line.connection.transport.answers.length := by
  rw [exchange_fst] at h
  rw [answers_exchange]
  exact answers_take_lt h

/-- A command that succeeds leaves one answer less. -/
theorem answersLeft_command_lt {database : String} {document reply : Document}
    {api : Option ServerApi} {desk : Desk}
    (h : ((command database document api).runAt desk).1 = .ok reply) :
    ((command database document api).runAt desk).2.answersLeft < desk.answersLeft := by
  have hexchange : ∃ answer,
      (exchange desk.line (Command.prepare document database api)).1 = .ok answer := by
    cases hanswer : (exchange desk.line (Command.prepare document database api)).1 with
    | ok answer => exact ⟨answer, rfl⟩
    | error e =>
        exfalso
        have herror : ((command database document api).runAt desk).1 =
            (exchange desk.line (Command.prepare document database api)).1.bind
              fun reply => reply.checked
                (exchange desk.line (Command.prepare document database api)).2.connection.address :=
          rfl
        rw [herror, hanswer] at h
        exact absurd h (by simp only [Except.bind, reduceCtorEq, not_false_eq_true])
  obtain ⟨answer, hanswer⟩ := hexchange
  exact answers_exchange_lt hanswer

end Blocking

end DocumentLink
