import DocumentLink.Opening.Mode
import DocumentLink.Proofs.Telling

/-!
# Commands on Their Way

Sending a command is five acts: a number is taken for it, the listener is told that it is
started, it is handed to the transport, an answer is taken, and the listener is told how it
ended. A call does these one after the other, and between any two of them another thread may
do something else. The acts are cut out of the exchanges, and an exchange of either mode is
the five of them. That says which of them comes first as well, because the trace in the
journal has the order in which numbers are taken, listeners are told and commands are handed
over.

From this it follows what the trace says about one command by itself, depending on how far
the command has come. One that nobody listens to is handed over, and nothing else is done for
it. Any other has a number. It is told about, with that number, before it is handed over, and
once more after it has been answered.

## Main definitions

* `Occurrence.event?`, `Occurrence.number?`, `Occurrence.command?`: The parts of a trace.
* `Journal.Adds`: What a journal has more than another.
* `Connection.Akin`: What becomes of a connection.
* `Errand`: A command on its way.
* `Errand.start`, `Errand.advance`: Its first act, and its next one.
* `Errand.Unwatched`, `Errand.Watched`: What has been done for a command.
* `Errand.Accounted`: A command for which has been done what should be.
* `Errand.Advances`: What an act does.

## Theorems

* `Errand.advanceBy_begin`, `Errand.advanceBy_complete`, `Errand.advanceBy_exchange`:
  Exchanges are made of these acts.
* `Errand.accounted_start`, `Errand.advances_advance`: Every act does what it should.
-/

namespace DocumentLink

namespace Event

/-- The number, if the event is told before a command is sent. -/
def startedRequest? : Event → Option Nat
  | started request .. => some request
  | succeeded .. | failed .. => none

theorem Starts.request_eq {event : Event} {request : Nat} {name : String} {command : Document}
    (h : event.Starts request name command) : event.request = request := by
  cases h
  rfl

theorem Ends.request_eq {event : Event} {request : Nat} {name : String} {command : Document}
    {answer : Answer} (h : event.Ends request name command answer) : event.request = request := by
  cases h <;> rfl

end Event

namespace Occurrence

/-- The event, if a listener is told that keeps it. -/
def event? : Occurrence → Option Event
  | told .recording event => some event
  | numbered _ | told .silent _ | handed .. => none

/-- The number, if one is taken. -/
def number? : Occurrence → Option Nat
  | numbered request => some request
  | told .. | handed .. => none

/-- The command, if it is handed over. -/
def command? : Occurrence → Option Document
  | handed _ command => some command
  | numbered _ | told .. => none

/-- The number, if a listener is told that a command is started. -/
def startedRequest? : Occurrence → Option Nat
  | told _ event => event.startedRequest?
  | numbered _ | handed .. => none

end Occurrence

/-- A journal has more than another: what has been done, the events that were kept, and the
    numbers that were taken. -/
structure Journal.Adds (journal after : Journal) (news : List Occurrence) : Prop where
  trace : after.trace = journal.trace ++ news
  events : after.events = journal.events ++ news.filterMap Occurrence.event?
  nextRequest : after.nextRequest =
    journal.nextRequest + (news.filterMap Occurrence.number?).length

namespace Journal

variable {journal between after : Journal} {first second : List Occurrence}

theorem Adds.refl (journal : Journal) : journal.Adds journal [] where
  trace := (List.append_nil _).symm
  events := (List.append_nil _).symm
  nextRequest := rfl

theorem Adds.trans (h : journal.Adds between first) (h' : between.Adds after second) :
    journal.Adds after (first ++ second) where
  trace := by rw [h'.trace, h.trace, List.append_assoc]
  events := by rw [h'.events, h.events, List.filterMap_append, List.append_assoc]
  nextRequest := by
    rw [h'.nextRequest, h.nextRequest, List.filterMap_append, List.length_append, Nat.add_assoc]

theorem adds_calls (journal : Journal) (calls : List MechanismCall) :
    journal.Adds { journal with calls := calls } [] :=
  ⟨(List.append_nil _).symm, (List.append_nil _).symm, rfl⟩

theorem adds_takeRequest (journal : Journal) :
    journal.Adds journal.takeRequest.2 [.numbered journal.nextRequest] :=
  ⟨rfl, (List.append_nil _).symm, rfl⟩

theorem adds_hand (journal : Journal) (connection : ConnectionId) (command : Document) :
    journal.Adds (journal.hand connection command) [.handed connection command] :=
  ⟨rfl, (List.append_nil _).symm, rfl⟩

theorem adds_tell (journal : Journal) (listener : Listener) (event : Event) :
    journal.Adds (journal.tell listener event) [.told listener event] where
  trace := journal.trace_tell listener event
  events := by
    rw [journal.events_tell]
    cases listener <;> rfl
  nextRequest := journal.nextRequest_tell listener event

end Journal

/-- The same connection, of which something else may be known. -/
structure Connection.Akin (c d : Connection) : Prop where
  listener : d.listener = c.listener
  server : d.description.id.server = c.description.id.server
  localValue : d.description.id.localValue = c.description.id.localValue

theorem Connection.Akin.refl (c : Connection) : c.Akin c :=
  ⟨rfl, rfl, rfl⟩

theorem Connection.Akin.trans {c d e : Connection} (h₁ : c.Akin d) (h₂ : d.Akin e) : c.Akin e :=
  ⟨h₂.listener.trans h₁.listener, h₂.server.trans h₁.server, h₂.localValue.trans h₁.localValue⟩

/-- How far a command has come. The number of one that nobody listens to is never taken. -/
inductive Errand.Stage where
  | numbered
  | announced
  | handed
  | answered (answer : Answer)
  | reported (answer : Answer)

/-- Whether the answer to the command has been reported. -/
def Errand.Stage.isReported : Errand.Stage → Bool
  | numbered | announced | handed | answered _ => false
  | reported _ => true

/-- A command on its way: who sends it, over which connection, and how far it has come. -/
structure Errand where
  caller : Nat
  place : Nat
  command : Document
  ticket : Option Ticket
  stage : Errand.Stage

namespace Errand

/-- The first act for a command. -/
def start (caller place : Nat) (command : Document) (line : Line) : Errand × Line :=
  let (ticket, line) := line.number command
  ({ caller, place, command, ticket, stage := .numbered }, line)

/-- The next act for a command, on the line of its connection. There is none when its answer
    has been reported. -/
def advance (errand : Errand) (line : Line) : Errand × Line :=
  match errand.stage with
  | .numbered =>
    ({ errand with stage := .announced }, line.tellStarted errand.ticket errand.command)
  | .announced => ({ errand with stage := .handed }, line.send errand.command)
  | .handed =>
    let (answer, line) := line.take
    ({ errand with stage := .answered answer }, line)
  | .answered answer =>
    ({ errand with stage := .reported answer }, line.report errand.ticket answer)
  | .reported _ => (errand, line)

/-- A number of acts, with nothing in between. -/
def advanceBy : Nat → Errand × Line → Errand × Line
  | 0, spot => spot
  | n + 1, (errand, line) => advanceBy n (errand.advance line)

/-- A command that is sent at once has a number taken, is told about, and is handed over. -/
theorem advanceBy_begin (caller place : Nat) (command : Document) (line : Line) :
    advanceBy 2 (start caller place command line) =
      (⟨caller, place, command, (Suspending.begin line command).1, .handed⟩,
        (Suspending.begin line command).2) :=
  rfl

/-- An answer that is waited for is taken and reported. -/
theorem advanceBy_complete {errand : Errand} (hstage : errand.stage = .handed) (line : Line) :
    advanceBy 2 (errand, line) =
      ({ errand with stage := .reported (Suspending.complete line errand.ticket).1 },
        (Suspending.complete line errand.ticket).2) := by
  rcases errand with ⟨caller, place, command, ticket, stage⟩
  cases hstage
  rfl

/-- What has been done for a command that nobody listens to: it is handed over. -/
inductive Unwatched (command : Document) (localValue : Nat) : Stage → List Occurrence → Prop where
  | numbered : Unwatched command localValue .numbered []
  | announced : Unwatched command localValue .announced []
  | handed {id : ConnectionId} (hid : id.localValue = localValue) :
      Unwatched command localValue .handed [.handed id command]
  | answered {id : ConnectionId} {answer : Answer} (hid : id.localValue = localValue) :
      Unwatched command localValue (.answered answer) [.handed id command]
  | reported {id : ConnectionId} {answer : Answer} (hid : id.localValue = localValue) :
      Unwatched command localValue (.reported answer) [.handed id command]

/-- What has been done for a command with a ticket: its number is taken, it is told about, it
    is handed over, and it is told about once more. Both events have the number and the name
    of the ticket, and all is done on the same connection. -/
inductive Watched (command : Document) (ticket : Ticket) (localValue : Nat) :
    Stage → List Occurrence → Prop where
  | numbered : Watched command ticket localValue .numbered [.numbered ticket.request]
  | announced {event : Event} (hstarts : event.Starts ticket.request ticket.name command)
      (hevent : event.connection.localValue = localValue) :
      Watched command ticket localValue .announced
        [.numbered ticket.request, .told ticket.listener event]
  | handed {event : Event} {id : ConnectionId}
      (hstarts : event.Starts ticket.request ticket.name command)
      (hevent : event.connection.localValue = localValue) (hid : id.localValue = localValue) :
      Watched command ticket localValue .handed
        [.numbered ticket.request, .told ticket.listener event, .handed id command]
  | answered {event : Event} {id : ConnectionId} {answer : Answer}
      (hstarts : event.Starts ticket.request ticket.name command)
      (hevent : event.connection.localValue = localValue) (hid : id.localValue = localValue) :
      Watched command ticket localValue (.answered answer)
        [.numbered ticket.request, .told ticket.listener event, .handed id command]
  | reported {event last : Event} {id : ConnectionId} {answer : Answer}
      (hstarts : event.Starts ticket.request ticket.name command)
      (hevent : event.connection.localValue = localValue) (hid : id.localValue = localValue)
      (hends : last.Ends ticket.request ticket.name command answer)
      (hlast : last.connection.localValue = localValue) :
      Watched command ticket localValue (.reported answer)
        [.numbered ticket.request, .told ticket.listener event, .handed id command,
          .told ticket.listener last]

/-- A command for which has been done what should be. It has a ticket if its connection has a
    listener, and the ticket is for this command. -/
structure Accounted (connection : Connection) (own : List Occurrence) (errand : Errand) :
    Prop where
  listener : errand.ticket.map Ticket.listener = connection.listener
  name : ∀ ticket, errand.ticket = some ticket → ticket.name = errand.command.name?.getD ""
  sensitive : ∀ ticket, errand.ticket = some ticket →
    ticket.sensitive = Command.isSensitive errand.command
  unwatched : errand.ticket = none →
    Unwatched errand.command connection.description.id.localValue errand.stage own
  watched : ∀ ticket, errand.ticket = some ticket →
    Watched errand.command ticket connection.description.id.localValue errand.stage own

/-- The numbers taken by the first act: one if there is a listener. -/
def taken (ticket : Option Ticket) : List Occurrence :=
  ticket.toList.map fun ticket => .numbered ticket.request

theorem connection_start (caller place : Nat) (command : Document) (line : Line) :
    (start caller place command line).2.connection = line.connection :=
  Blocking.connection_number line command

/-- The first act takes the next number, if there is a listener. -/
theorem adds_start (caller place : Nat) (command : Document) (line : Line) :
    line.journal.Adds (start caller place command line).2.journal
      (taken (start caller place command line).1.ticket) := by
  simp only [start, Line.number]
  cases line.connection.listener with
  | none => exact .refl _
  | some listener => exact line.journal.adds_takeRequest

theorem numbers_taken (ticket : Option Ticket) :
    (taken ticket).filterMap Occurrence.number? = (ticket.map Ticket.request).toList := by
  cases ticket <;> rfl

theorem commands_taken (ticket : Option Ticket) :
    (taken ticket).filterMap Occurrence.command? = [] := by
  cases ticket <;> rfl

theorem request_start (caller place : Nat) (command : Document) (line : Line) {ticket : Ticket}
    (h : (start caller place command line).1.ticket = some ticket) :
    ticket.request = line.journal.nextRequest := by
  simp only [start, Line.number] at h
  cases hlistener : line.connection.listener with
  | none =>
      rw [hlistener] at h
      cases h
  | some listener =>
      rw [hlistener] at h
      rw [← Option.some.inj h]
      rfl

/-- A command that is started has a ticket if there is a listener. -/
theorem accounted_start (caller place : Nat) (command : Document) {line : Line}
    {connection : Connection} (hakin : connection.Akin line.connection) :
    (start caller place command line).1.Accounted connection
      (taken (start caller place command line).1.ticket) := by
  simp only [start, Line.number]
  cases hlistener : line.connection.listener with
  | none =>
      exact
        { listener := hlistener.symm.trans hakin.listener
          name := fun _ hticket => absurd hticket (Option.some_ne_none _).symm
          sensitive := fun _ hticket => absurd hticket (Option.some_ne_none _).symm
          unwatched := fun _ => .numbered
          watched := fun _ hticket => absurd hticket (Option.some_ne_none _).symm }
  | some listener =>
      exact
        { listener := hlistener.symm.trans hakin.listener
          name := fun _ hticket => Option.some.inj hticket ▸ rfl
          sensitive := fun _ hticket => Option.some.inj hticket ▸ rfl
          unwatched := fun hticket => absurd hticket (Option.some_ne_none _)
          watched := fun _ hticket => Option.some.inj hticket ▸ .numbered }

section Accounted

variable {errand : Errand} {connection : Connection} {own before after : List Occurrence}
  {listener : Listener} {event : Event}

/-- What has been done for a command with a ticket begins with its number, and goes on with
    what its listener is told about that. -/
theorem Watched.eq_cons {command : Document} {ticket : Ticket} {localValue : Nat} {stage : Stage}
    (h : Watched command ticket localValue stage own) :
    ∃ rest, own = .numbered ticket.request :: rest ∧
      ∀ listener event, .told listener event ∈ rest → event.request = ticket.request := by
  refine ⟨own.tail, ?_, fun listener event hevent => ?_⟩
  · cases h <;> rfl
  · cases h with
    | numbered => cases hevent
    | announced hstarts _ =>
        rcases List.mem_singleton.mp hevent with ⟨⟩
        exact hstarts.request_eq
    | handed hstarts | answered hstarts =>
        simp only [List.tail_cons, List.mem_cons, Occurrence.told.injEq, reduceCtorEq,
          List.not_mem_nil, or_false] at hevent
        rw [hevent.2]
        exact hstarts.request_eq
    | reported hstarts _ _ hends =>
        simp only [List.tail_cons, List.mem_cons, Occurrence.told.injEq, reduceCtorEq,
          List.not_mem_nil, or_false, false_or] at hevent
        rcases hevent with ⟨_, rfl⟩ | ⟨_, rfl⟩
        · exact hstarts.request_eq
        · exact hends.request_eq

/-- A listener is told about the number of the ticket only. -/
theorem Accounted.request_eq (h : errand.Accounted connection own)
    (hevent : .told listener event ∈ own) :
    ∃ ticket, errand.ticket = some ticket ∧ event.request = ticket.request := by
  cases hticket : errand.ticket with
  | none =>
      exfalso
      have hrecord := h.unwatched hticket
      generalize errand.stage = stage at hrecord
      cases hrecord with
      | numbered | announced => cases hevent
      | handed | answered | reported => cases List.mem_singleton.mp hevent
  | some ticket =>
      rcases (h.watched ticket hticket).eq_cons with ⟨rest, rfl, htold⟩
      rcases List.mem_cons.mp hevent with hevent | hevent
      · cases hevent
      · exact ⟨ticket, rfl, htold listener event hevent⟩

end Accounted

/-- What an act does on the line of its command. The journal has more than before, and no
    number has been taken; what has been handed over has been sent; and what has been done
    for the command goes on as it should. -/
structure Advances (errand next : Errand) (line after : Line) (news : List Occurrence) :
    Prop where
  caller : next.caller = errand.caller
  place : next.place = errand.place
  ticket : next.ticket = errand.ticket
  akin : line.connection.Akin after.connection
  sent : after.connection.transport.sent =
    line.connection.transport.sent ++ news.filterMap Occurrence.command?
  journal : line.journal.Adds after.journal news
  numbers : news.filterMap Occurrence.number? = []
  accounted : ∀ connection own, connection.Akin line.connection →
    errand.Accounted connection own → next.Accounted connection (own ++ news)

variable {errand : Errand} {connection : Connection} {own news : List Occurrence} {stage : Stage}

/-- A command goes on, and what has been done for it is as it should be if it is by its
    ticket. -/
theorem Accounted.go (h : errand.Accounted connection own)
    (hunwatched : errand.ticket = none →
      Unwatched errand.command connection.description.id.localValue errand.stage own →
      Unwatched errand.command connection.description.id.localValue stage (own ++ news))
    (hwatched : ∀ ticket, errand.ticket = some ticket →
      ticket.sensitive = Command.isSensitive errand.command →
      Watched errand.command ticket connection.description.id.localValue errand.stage own →
      Watched errand.command ticket connection.description.id.localValue stage (own ++ news)) :
    { errand with stage := stage }.Accounted connection (own ++ news) where
  listener := h.listener
  name := h.name
  sensitive := h.sensitive
  unwatched hticket := hunwatched hticket (h.unwatched hticket)
  watched ticket hticket :=
    hwatched ticket hticket (h.sensitive ticket hticket) (h.watched ticket hticket)

/-- An act that leaves the connection as it is. -/
theorem advances_writing {line : Line} {journal : Journal} (hadds : line.journal.Adds journal news)
    (hnumbers : news.filterMap Occurrence.number? = [])
    (hcommands : news.filterMap Occurrence.command? = [])
    (haccounted : ∀ connection own, connection.Akin line.connection →
      errand.Accounted connection own →
        { errand with stage := stage }.Accounted connection (own ++ news)) :
    errand.Advances { errand with stage := stage } line { line with journal := journal } news where
  caller := rfl
  place := rfl
  ticket := rfl
  akin := .refl _
  sent := by rw [hcommands, List.append_nil]
  journal := hadds
  numbers := hnumbers
  accounted := haccounted

variable (caller place : Nat) (command : Document) (ticket : Option Ticket) (line : Line)

/-- The listener, if there is one, is told that the command is started. -/
theorem advances_announce :
    ∃ news, Advances ⟨caller, place, command, ticket, .numbered⟩
      ⟨caller, place, command, ticket, .announced⟩ line (line.tellStarted ticket command) news := by
  cases ticket with
  | none =>
      refine ⟨[], advances_writing (.refl _) rfl rfl fun connection own _ h =>
        h.go (fun _ hrecord => ?_) nofun⟩
      cases hrecord
      exact .announced
  | some ticket =>
      refine ⟨_, advances_writing (line.journal.adds_tell _ _) rfl rfl fun connection own hakin h =>
        h.go nofun fun same hticket hsensitive hrecord => ?_⟩
      rw [← Option.some.inj hticket] at hsensitive hrecord ⊢
      cases hrecord
      exact .announced (ticket.starts_started _ hsensitive) hakin.localValue

/-- The command is handed to the transport. -/
theorem advances_hand :
    Advances ⟨caller, place, command, ticket, .announced⟩
      ⟨caller, place, command, ticket, .handed⟩ line (line.send command)
      [.handed line.connection.description.id command] where
  caller := rfl
  place := rfl
  ticket := rfl
  akin := ⟨rfl, rfl, rfl⟩
  sent := rfl
  journal := line.journal.adds_hand _ _
  numbers := rfl
  accounted connection own hakin h := by
    refine h.go (fun _ hrecord => ?_) fun ticket _ _ hrecord => ?_
    · cases hrecord
      exact .handed hakin.localValue
    · cases hrecord with
      | announced hstarts hevent => exact .handed hstarts hevent hakin.localValue

/-- An answer is taken. -/
theorem advances_answer :
    Advances ⟨caller, place, command, ticket, .handed⟩
      ⟨caller, place, command, ticket, .answered line.take.1⟩ line line.take.2 [] where
  caller := rfl
  place := rfl
  ticket := rfl
  akin := ⟨rfl, rfl, rfl⟩
  sent := by
    show line.connection.transport.take.2.sent = _
    rw [Transport.take_snd]
    exact (List.append_nil _).symm
  journal := .refl _
  numbers := rfl
  accounted connection own _ h := by
    refine h.go (fun _ hrecord => ?_) fun ticket _ _ hrecord => ?_
    · cases hrecord with
      | handed hid => exact .answered hid
    · cases hrecord with
      | handed hstarts hevent hid => exact .answered hstarts hevent hid

/-- The listener, if there is one, is told how the command ended. -/
theorem advances_report (answer : Answer) :
    ∃ news, Advances ⟨caller, place, command, ticket, .answered answer⟩
      ⟨caller, place, command, ticket, .reported answer⟩ line (line.report ticket answer) news := by
  cases ticket with
  | none =>
      refine ⟨[], advances_writing (.refl _) rfl rfl fun connection own _ h =>
        h.go (fun _ hrecord => ?_) nofun⟩
      cases hrecord with
      | answered hid => exact .reported hid
  | some ticket =>
      rw [line.report_some]
      refine ⟨_, advances_writing (line.journal.adds_tell _ _) rfl rfl fun connection own hakin h =>
        h.go nofun fun same hticket hsensitive hrecord => ?_⟩
      rw [← Option.some.inj hticket] at hsensitive hrecord ⊢
      cases hrecord with
      | answered hstarts hevent hid =>
          refine .reported hstarts hevent hid (ticket.ends_ended _ hsensitive answer) ?_
          rw [ticket.connection_ended]
          exact hakin.localValue

/-- Every act does what it should. -/
theorem advances_advance (errand : Errand) :
    ∃ news, errand.Advances (errand.advance line).1 line (errand.advance line).2 news := by
  rcases errand with ⟨caller, place, command, ticket, stage⟩
  cases stage with
  | numbered => exact advances_announce caller place command ticket line
  | announced => exact ⟨_, advances_hand caller place command ticket line⟩
  | handed => exact ⟨_, advances_answer caller place command ticket line⟩
  | answered answer => exact advances_report caller place command ticket line answer
  | reported answer =>
      refine ⟨[], advances_writing (.refl _) rfl rfl fun connection own _ h => ?_⟩
      rw [List.append_nil]
      exact h

end Errand

end DocumentLink
