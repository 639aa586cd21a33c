import DocumentLink.Cluster.Access
import DocumentLink.Proofs.Namesakes

/-!
# The Passage of a Connection among Others

One connection is made and opened while others are. What it shares with them is the
journal, the providers, and the counter of local values. Whenever its call waits, others
may write into the journal, take numbers for their commands, and have provers made.

None of this matters. What is left of a call that waits comes to the same whatever the
others have done, but for the numbers, because a ticket holds everything that is to be
remembered about a command, and a provider makes the same prover again. A step of the call
keeps what is left of it. So from the moment at which the connection is made, what will
have come of it is what comes of opening it alone; and a connection alone is a namesake of
any other one that is made from the same.

## Main definitions

* `Line.Adds`: What has been told about a connection meanwhile.
* `Likeness.Accords`: Two calls come to results that are alike.
* `Opener.Status.stepsLeft`: The steps that a call has still to make.
* `Common`: What all connections share.
* `Berth`: A connection that is to be opened.
* `Upshot`: What has come of opening it.
* `Berth.alone`: Open it, and do nothing else meanwhile.
* `Berth.Underway`: The invariant of a connection that is being opened among others.

## Theorems

* `Line.Moves.adds`: A caller tells about its own connection only.
* `Opener.accords_elsewhere`: What is left of a call does not depend on the others.
* `Opener.stepsLeft_go`: Every step brings a call nearer to its end.
* `Berth.Underway.go`: A step keeps the invariant.
* `Berth.Underway.uncounted_eq`: What has come of a call is what comes of it alone.
* `Access.openConnection_alone`: Opening a connection of a cluster is opening it alone.
-/

namespace DocumentLink

namespace Line

/-- Which events have been told about a connection on the way from one line to another. -/
structure Adds (line after : Line) (news : List Event) : Prop where
  events : after.journal.events = line.journal.events ++ news
  grows : line.journal.nextRequest ≤ after.journal.nextRequest
  given : ∀ event ∈ news, event.request < after.journal.nextRequest
  server : ∀ event ∈ news, event.connection.server = line.connection.description.id.server
  localValue : ∀ event ∈ news,
    event.connection.localValue = line.connection.description.id.localValue

/-- The command that is on its way has a number that was given out. -/
def Numbered (next : Nat) (current : Option Errand) : Prop :=
  ∀ errand, current = some errand → ∀ ticket, errand.ticket = some ticket → ticket.request < next

variable {line between after : Line} {news first second : List Event} {caller place : Nat}
  {spot later : Line × Option Errand}

/-- Nothing is added as long as nothing is told. -/
theorem adds_nil (hevents : after.journal.events = line.journal.events)
    (hrequest : after.journal.nextRequest = line.journal.nextRequest) : line.Adds after [] where
  events := by rw [hevents, List.append_nil]
  grows := Nat.le_of_eq hrequest.symm
  given _ h := absurd h List.not_mem_nil
  server _ h := absurd h List.not_mem_nil
  localValue _ h := absurd h List.not_mem_nil

theorem Adds.trans (h : line.Adds between first) (hakin : line.connection.Akin between.connection)
    (h' : between.Adds after second) : line.Adds after (first ++ second) where
  events := by rw [h'.events, h.events, List.append_assoc]
  grows := Nat.le_trans h.grows h'.grows
  given := List.forall_mem_append.mpr
    ⟨fun event hevent => Nat.lt_of_lt_of_le (h.given event hevent) h'.grows, h'.given⟩
  server := List.forall_mem_append.mpr
    ⟨h.server, fun event hevent => (h'.server event hevent).trans hakin.server⟩
  localValue := List.forall_mem_append.mpr
    ⟨h.localValue, fun event hevent => (h'.localValue event hevent).trans hakin.localValue⟩

theorem Numbered.mono {next next' : Nat} {current : Option Errand} (h : Numbered next current)
    (hle : next ≤ next') : Numbered next' current :=
  fun errand herrand ticket hticket => Nat.lt_of_lt_of_le (h errand herrand ticket hticket) hle

/-- An event is told to a listener, if it is told at all. -/
theorem adds_tell (line : Line) (journal : Journal) (listener : Listener) {event : Event}
    (hevents : journal.events = line.journal.events)
    (hgrows : line.journal.nextRequest ≤ journal.nextRequest)
    (hgiven : event.request < journal.nextRequest)
    (hconnection : event.connection = line.connection.description.id) {after : Line}
    (hafter : after.journal.events = (journal.tell listener event).events)
    (hnext : after.journal.nextRequest = (journal.tell listener event).nextRequest) :
    ∃ news, line.Adds after news := by
  rw [Journal.nextRequest_tell] at hnext
  refine ⟨if listener = .recording then [event] else [], ?_, ?_, ?_, ?_, ?_⟩
  · rw [hafter, Journal.events_tell, hevents]
  · rw [hnext]
    exact hgrows
  all_goals
    intro own hown
    split at hown
    · rw [List.mem_singleton.mp hown]
      first | rw [hnext]; exact hgiven | rw [hconnection]
    · cases hown

/-- What a move tells is about its connection, with numbers that have been given out. -/
theorem Move.adds (h : Move caller place spot later)
    (hnumbered : Numbered spot.1.journal.nextRequest spot.2) :
    (∃ news, spot.1.Adds later.1 news) ∧ Numbered later.1.journal.nextRequest later.2 := by
  cases h with
  | ask calls => exact ⟨⟨[], adds_nil rfl rfl⟩, hnumbered⟩
  | store => exact ⟨⟨[], adds_nil rfl rfl⟩, hnumbered⟩
  | begin line command =>
      show (∃ news, line.Adds ((line.announce command).2.send command) news) ∧
        Numbered (line.announce command).2.journal.nextRequest
          (some ⟨caller, place, command, (line.announce command).1, .handed⟩)
      cases hlistener : line.connection.listener with
      | none =>
          rw [line.announce_of_none hlistener]
          refine ⟨⟨[], adds_nil rfl rfl⟩, ?_⟩
          rintro errand herrand ticket hticket
          rw [← Option.some.inj herrand] at hticket
          cases hticket
      | some listener =>
          rw [line.announce_of_some hlistener]
          have hnext : (line.journal.takeRequest.2.tell listener
              (line.started command)).nextRequest = line.journal.nextRequest + 1 :=
            Journal.nextRequest_tell _ _ _
          refine ⟨line.adds_tell line.journal.takeRequest.2 listener rfl (Nat.le_succ _)
            (Nat.lt_succ_self _) rfl rfl rfl, ?_⟩
          -- The ticket of the command has the number that has just been taken.
          rintro errand herrand ticket hticket
          rw [← Option.some.inj herrand] at hticket
          rw [← Option.some.inj hticket, hnext]
          exact Nat.lt_succ_self _
  | @complete line errand hstage =>
      refine ⟨?_, fun _ hnone => by cases hnone⟩
      have hgiven := hnumbered errand rfl
      cases hticket : errand.ticket with
      | none => exact ⟨[], adds_nil rfl rfl⟩
      | some ticket =>
          show ∃ news, line.Adds (line.take.2.report (some ticket) line.take.1) news
          rw [line.take.2.report_some]
          refine line.adds_tell line.journal ticket.listener rfl (Nat.le_refl _) ?_
            (ticket.connection_ended line.connection.description.id line.take.1) rfl rfl
          rw [ticket.request_ended]
          exact hgiven ticket hticket

/-- So is what many moves tell. -/
theorem Moves.adds (h : Moves caller place spot later)
    (hnumbered : Numbered spot.1.journal.nextRequest spot.2) :
    (∃ news, spot.1.Adds later.1 news) ∧ Numbered later.1.journal.nextRequest later.2 := by
  induction h with
  | refl => exact ⟨⟨[], adds_nil rfl rfl⟩, hnumbered⟩
  | @tail between last hmoves hmove ih =>
      rcases ih with ⟨⟨first, hfirst⟩, hbetween⟩
      rcases hmove.adds hbetween with ⟨⟨second, hsecond⟩, hlast⟩
      exact ⟨⟨first ++ second, hfirst.trans (Moves.akin hmoves) hsecond⟩, hlast⟩

/-- Taking an answer tells the same of a connection, whatever is in the journal. -/
theorem journal_complete (connection : Connection) (ticket : Option Ticket) :
    ∃ news : List Event,
      (∀ journal : Journal,
        (Suspending.complete ⟨connection, journal⟩ ticket).2.journal.events =
            journal.events ++ news ∧
          (Suspending.complete ⟨connection, journal⟩ ticket).2.journal.nextRequest =
            journal.nextRequest) ∧
      ∀ event ∈ news, ∃ own, ticket = some own ∧ event.request = own.request := by
  cases ticket with
  | none => exact ⟨[], fun _ => ⟨(List.append_nil _).symm, rfl⟩, fun _ h => by cases h⟩
  | some ticket =>
      -- The event depends on the ticket, the connection and the answer only.
      refine ⟨if ticket.listener = .recording then
        [ticket.ended connection.taking.description.id connection.transport.take.1] else [],
        fun journal => ?_, ?_⟩
      · show (Line.report ⟨connection.taking, journal⟩ (some ticket) _).journal.events = _ ∧
          (Line.report ⟨connection.taking, journal⟩ (some ticket) _).journal.nextRequest = _
        rw [report_some, Journal.events_tell, Journal.nextRequest_tell]
        exact ⟨rfl, rfl⟩
      · intro event hevent
        split at hevent
        · rw [List.mem_singleton.mp hevent]
          exact ⟨ticket, rfl, ticket.request_ended _ _⟩
        · cases hevent

end Line

namespace Likeness

/-- Two calls come to results that are alike, and so is what they leave behind. -/
def Accords (l : Likeness) (outcome outcome' : Option (Except Error Opened) × Desk) : Prop :=
  ∃ result result' after after', outcome = (some result, after) ∧
    outcome' = (some result', after') ∧ Paired l.errors l.opened result result' ∧
    l.Desks after after'

theorem Accords.trans {base earlier base' earlier' start first news : List Event}
    {outcome middle outcome' : Option (Except Error Opened) × Desk}
    (h : (namesakes base earlier (base' ++ news) (earlier' ++ news)).Accords outcome middle)
    (h' : (namesakes base' earlier' start first).Accords middle outcome') :
    (namesakes base earlier start first).Accords outcome outcome' := by
  rcases h with ⟨result, between, after, reached, rfl, rfl, hresult, hdesks⟩
  rcases h' with ⟨_, result', _, after', hsame, rfl, hresult', hdesks'⟩
  rcases Prod.mk.inj hsame with ⟨hbetween, rfl⟩
  rw [← Option.some.inj hbetween] at hresult'
  refine ⟨result, result', after, after', rfl, rfl, ?_, hdesks.line.trans hdesks'.line, trivial⟩
  cases hresult with
  | ok hopened =>
      cases hresult' with
      | ok hopened' => exact .ok (Eq.trans hopened hopened')
  | error herror =>
      cases hresult' with
      | error herror' => exact .error (Eq.trans herror herror')

end Likeness

/-- A step that waits has stored nothing. -/
theorem Desk.Reaches.onlySent {desk after : Desk} {progress : Progress Suspending.Waiting Opened}
    (h : desk.Reaches progress after) {waiting : Suspending.Waiting}
    (hwaiting : progress = .suspended waiting) : desk.OnlySent after := by
  rw [hwaiting] at h
  exact h

namespace Opener

/-- The call with a provider that has made so many provers. -/
def counting (opener : Opener) (made : Nat) : Opener :=
  { opener with seat := { opener.seat with created := made } }

/-- Whether the call has greeted the server. -/
def Status.Greeted : Status → Prop
  | .waiting _ | .ending .. => True
  | .idle | .entered | .refused _ | .dropped => False

theorem Status.greeted_ofProgress (progress : Progress Suspending.Waiting Opened) :
    (Status.ofProgress progress).Greeted := by
  cases progress <;> exact trivial

/-- Once a call has entered the opening, its next step greets the server. -/
theorem greeted_go {opener : Opener} (h : opener.status = .entered ∨ opener.status.Greeted)
    (line : Line) : (opener.go line).1.status.Greeted := by
  rcases opener with ⟨mode, seat, status⟩
  cases status with
  | entered => exact Status.greeted_ofProgress _
  | waiting place => exact Status.greeted_ofProgress _
  | ending result stored =>
      simp only [go]
      cases (Connection.settlements result)[stored]? <;> exact trivial
  | idle | refused | dropped =>
      rcases h with h | h
      · cases h
      · exact absurd h id

/-- What is left of a call that has greeted the server does not depend on what others do,
    in the journal or with the provider. -/
theorem accords_elsewhere {opener : Opener} (huniform : opener.seat.setup.authenticator.Uniform)
    (hgreeted : opener.status.Greeted) {current : Option Errand}
    (hholds : opener.status.Holds current) {next : Nat} (hnumbered : Line.Numbered next current)
    {told : List Event} (htold : ∀ event ∈ told, event.request < next) (connection : Connection)
    {journal journal' : Journal} (hnext : next ≤ journal.nextRequest)
    (hnext' : next ≤ journal'.nextRequest) (made made' : Nat) :
    (Likeness.namesakes journal.events told journal'.events told).Accords
      ((opener.counting made).outcome ⟨connection, journal⟩)
      ((opener.counting made').outcome ⟨connection, journal'⟩) := by
  rcases opener with ⟨mode, seat, status⟩
  have hexact := Likeness.exact_namesakes journal.events told journal'.events told
  cases status with
  | idle | entered | refused | dropped => exact absurd hgreeted id
  | ending result stored =>
      -- Only stores are left.
      refine ⟨result, result, _, _, rfl, rfl, ?_, ⟨rfl, told, told, ?_, ?_, rfl⟩, trivial⟩
      · cases result with
        | ok opened => exact .ok rfl
        | error e => exact .error rfl
      · exact ⟨⟨[], (List.append_nil _).symm, (List.append_nil _).symm⟩,
          fun event hevent => Nat.lt_of_lt_of_le (htold event hevent) hnext⟩
      · exact ⟨⟨[], (List.append_nil _).symm, (List.append_nil _).symm⟩,
          fun event hevent => Nat.lt_of_lt_of_le (htold event hevent) hnext'⟩
  | waiting waiting =>
      rcases hholds with ⟨errand, rfl, hticket, _⟩
      rcases Line.journal_complete connection waiting.ticket with ⟨news, hjournal, hnews⟩
      -- The command that is waited for is reported with the number that it has.
      have hrecounts : ∀ journal : Journal, next ≤ journal.nextRequest →
          (Suspending.complete ⟨connection, journal⟩ waiting.ticket).2.journal.Recounts
            journal.events told (told ++ news) := by
        intro journal hnext
        refine ⟨⟨news, (hjournal journal).1, rfl⟩, fun event hevent => ?_⟩
        rw [(hjournal journal).2]
        refine Nat.lt_of_lt_of_le ?_ hnext
        rcases List.mem_append.mp hevent with hevent | hevent
        · exact htold event hevent
        · rcases hnews event hevent with ⟨own, hown, hrequest⟩
          rw [hrequest]
          exact hnumbered errand rfl own (hticket.trans hown)
      have hsame : (Suspending.complete ⟨connection, journal⟩ waiting.ticket).2.connection =
          (Suspending.complete ⟨connection, journal'⟩ waiting.ticket).2.connection := by
        rw [Line.connection_complete, Line.connection_complete]
      have hreceives : (Likeness.namesakes journal.events told journal'.events told).Receives
          waiting.ticket ((counting ⟨mode, seat, .waiting waiting⟩ made).desk ⟨connection, journal⟩)
          ((counting ⟨mode, seat, .waiting waiting⟩ made').desk ⟨connection, journal'⟩) :=
        ⟨rfl, ⟨⟨congrArg Connection.uncounted hsame, _, _, hrecounts journal hnext,
          hrecounts journal' hnext', rfl⟩, trivial⟩, rfl⟩
      have hended := Likeness.ends_rest hexact (seat.setup.alike_of_exact hexact huniform) waiting
        hreceives
      exact ⟨_, _, _, _, rfl, rfl, hended.result, hended.desks⟩

/-- What has been sent is a part of what is sent in the end. -/
theorem sent_prefix_outcome (opener : Opener) (line : Line) :
    line.connection.transport.sent <+:
      (opener.outcome line).2.line.connection.transport.sent := by
  have hentered : ∀ (mode : Mode) (seat : Seat) (line : Line),
      line.connection.transport.sent <+:
        (outcome ⟨mode, seat, .entered⟩ line).2.line.connection.transport.sent := by
    intro mode seat line
    have hgreeted := Suspending.reaches_greet seat.setup (desk ⟨mode, seat, .entered⟩ line)
    have hrest := Suspending.sent_prefix_outcome seat.setup
      ((Suspending.greet seat.setup).run (desk ⟨mode, seat, .entered⟩ line)).1
      ((Suspending.greet seat.setup).run (desk ⟨mode, seat, .entered⟩ line)).2
    rw [Suspending.greet_outcome] at hrest
    exact hgreeted.sent_prefix.trans hrest
  rcases opener with ⟨mode, seat, status⟩
  cases status with
  | entered => exact hentered mode seat line
  | waiting waiting =>
      exact Suspending.sent_prefix_outcome seat.setup (.suspended waiting)
        (desk ⟨mode, seat, .waiting waiting⟩ line)
  | idle =>
      rw [← outcome_go]
      simp only [go]
      cases hbegin : line.connection.begin with
      | error e => exact List.prefix_refl _
      | ok connection =>
          rw [Connection.eq_entered_of_begin hbegin]
          exact hentered mode seat ⟨line.connection.entered, line.journal⟩
  | ending result stored =>
      show _ <+: (line.connection.storing
        ((Connection.settlements result).drop stored)).transport.sent
      have htransport := Connection.transport_storing
        (fun store hstore => List.mem_of_mem_drop hstore :
          ∀ store ∈ (Connection.settlements result).drop stored, store ∈ _) line.connection
      exact htransport ▸ List.prefix_refl _
  | refused e => exact List.prefix_refl _
  | dropped => exact List.prefix_refl _

/-- The steps that a call has still to make at most, if so many answers are to come. -/
def Status.stepsLeft (answers : Nat) : Status → Nat
  | .idle => answers + 6
  | .entered => answers + 5
  | .waiting _ => answers + 4
  | .ending result stored => (Connection.settlements result).length - stored
  | .refused _ | .dropped => 0

/-- The stores at an end are few. -/
theorem Status.stepsLeft_ofProgress {progress : Progress Suspending.Waiting Opened}
    {answers bound : Nat} (h : ∀ waiting, progress = .suspended waiting → answers < bound) :
    (Status.ofProgress progress).stepsLeft answers ≤ bound + 3 := by
  cases progress with
  | suspended waiting => exact Nat.add_le_add_right (h waiting rfl) 3
  | finished result =>
      have hfew : (Connection.settlements result).length ≤ 3 := by
        cases result with
        | ok opened => exact Nat.le_refl 3
        | error e => exact Nat.le_add_left 1 2
      exact Nat.le_trans hfew (Nat.le_add_left 3 bound)

/-- With every step there is one less to make. -/
theorem stepsLeft_go (opener : Opener) (line : Line) :
    (opener.go line).1.status.stepsLeft
        (opener.go line).2.connection.transport.answers.length ≤
      opener.status.stepsLeft line.connection.transport.answers.length - 1 := by
  rcases opener with ⟨mode, seat, status⟩
  cases status with
  | idle =>
      simp only [go]
      cases hbegin : line.connection.begin with
      | error e => exact Nat.zero_le _
      | ok connection =>
          rw [Connection.eq_entered_of_begin hbegin]
          exact Nat.le_refl _
  | entered =>
      have hreach := Suspending.reaches_greet seat.setup (desk ⟨mode, seat, .entered⟩ line)
      show (Status.ofProgress ((Suspending.greet seat.setup).run
        (desk ⟨mode, seat, .entered⟩ line)).1).stepsLeft _ ≤ _ + 1 + 3
      exact Status.stepsLeft_ofProgress fun _ hwaiting =>
        Nat.lt_succ_of_le (Nat.le_of_eq (hreach.onlySent hwaiting).answersLeft_eq)
  | waiting waiting =>
      -- To wait again an answer has to be taken.
      show (Status.ofProgress ((Suspending.continueOpening seat.setup waiting).run
        (desk ⟨mode, seat, .waiting waiting⟩ line)).1).stepsLeft _ ≤ _ + 3
      exact Status.stepsLeft_ofProgress
        (Suspending.consuming_continueOpening seat.setup waiting _)
  | ending result stored =>
      simp only [go]
      cases hstore : (Connection.settlements result)[stored]? with
      | none =>
          have hall := List.getElem?_eq_none_iff.mp hstore
          show (Connection.settlements result).length - stored ≤
            (Connection.settlements result).length - stored - 1
          omega
      | some store =>
          show (Connection.settlements result).length - (stored + 1) ≤
            (Connection.settlements result).length - stored - 1
          omega
  | refused e => exact Nat.zero_le _
  | dropped => exact Nat.zero_le _

/-- A step of a call leaves what it opens with. -/
theorem setup_go (opener : Opener) (line : Line) :
    (opener.go line).1.seat.setup = opener.seat.setup := by
  rcases opener with ⟨mode, seat, status⟩
  cases status with
  | idle =>
      simp only [go]
      cases line.connection.begin <;> rfl
  | ending result stored =>
      simp only [go]
      cases (Connection.settlements result)[stored]? <;> rfl
  | _ => rfl

/-- Nothing is left to be done by a call that has returned. -/
theorem outcome_of_result? {opener : Opener} {result : Except Error Opened}
    (h : opener.result? = some result) (line : Line) :
    opener.outcome line = (some result, opener.desk line) := by
  rcases opener with ⟨mode, seat, status⟩
  cases status with
  | refused e =>
      rw [← Option.some.inj h]
      rfl
  | ending own stored =>
      simp only [result?] at h
      split at h
      · rename_i hstored
        rw [← Option.some.inj h]
        simp only [outcome]
        rw [hstored, List.drop_length]
        rfl
      · cases h
  | _ => cases h

/-- What the call has learned that has entered the opening of a connection is about it. -/
theorem Owns.concerns {fresh c : Connection} {status : Status} (h : Owns fresh c status) :
    status.Concerns fresh.description.id := by
  cases h with
  | entered | dropped => exact trivial
  | waiting _ hplace => exact hplace
  | ending _ _ hresult => exact hresult

end Opener

/-- What all connections of a process share. -/
structure Common where
  journal : Journal := {}
  /-- How many provers each of the providers has made. -/
  made : Nat → Nat := fun _ => 0
  /-- The local value of the next connection. -/
  nextLocalValue : Nat := 1

/-- What has come of opening a connection. -/
structure Upshot where
  /-- The result, if the opening has returned. -/
  result : Option (Except Error Opened)
  /-- The connection, if there was a transport for it. -/
  connection : Option Connection
  /-- What has been told about its commands. -/
  told : List Event

namespace Upshot

/-- Without what was counted: the number of the connection and those of its commands. -/
def uncounted (upshot : Upshot) : Upshot where
  result := upshot.result.map fun result => result.map Opened.uncounted
  connection := upshot.connection.map Connection.uncounted
  told := Event.uncounted upshot.told

/-- The connection and the result. -/
def attempt (upshot : Upshot) : Access.Attempt :=
  ⟨upshot.connection, upshot.result⟩

/-- The commands that have been sent over the connection. -/
def sent (upshot : Upshot) : List Document :=
  upshot.connection.elim [] fun connection => connection.transport.sent

end Upshot

/-- A connection that is to be opened: to which server, with what, and over which transport
    if there will be one. -/
structure Berth where
  server : ServerId
  setup : Setup
  /-- The number of the provider in the setup, which others may use as well. -/
  provider : Nat := 0
  listener : Option Listener
  transport : Except Error Transport
  mode : Mode := .suspending

namespace Berth

/-- The connection that is made, with the local value that it is given. -/
def connection (berth : Berth) (transport : Transport) (localValue : Nat) : Connection :=
  .make transport { server := berth.server, localValue := localValue } berth.listener

/-- The call that opens it, with an authenticator of its own. -/
def opener (berth : Berth) : Opener where
  mode := berth.mode
  seat := { setup := berth.setup }

/-- The desk at which the connection is opened when nothing else is done. -/
def desk (berth : Berth) (transport : Transport) (common : Common) : Desk where
  line := ⟨berth.connection transport common.nextLocalValue, common.journal⟩
  created := common.made berth.provider

/-- Make the connection and open it, and do nothing else meanwhile. -/
def alone (berth : Berth) (common : Common) : Upshot :=
  match berth.transport with
  | .error e => ⟨some (.error e), none, []⟩
  | .ok transport =>
    let (result, desk) := berth.mode.openConnection berth.setup (berth.desk transport common)
    ⟨result, some desk.line.connection,
      desk.line.journal.events.drop common.journal.events.length⟩

/-- The steps after which the call has returned, however they are taken. -/
def patience (berth : Berth) : Nat :=
  match berth.transport with
  | .error _ => 1
  | .ok transport => transport.answers.length + 7

/-- What is known of a connection with a local value and of the call that opens it: the
    call has entered the opening if any has, everything told is about the connection, and
    what is left comes to the same as opening it alone, whatever others do from now on. -/
structure Underway (berth : Berth) (transport : Transport) (localValue next : Nat)
    (told : List Event) (connection : Connection) (opener : Opener) : Prop where
  setup : opener.seat.setup = berth.setup
  stage : opener.status = .idle ∧ connection = berth.connection transport localValue ∨
    Opener.Owns (berth.connection transport localValue) connection opener.status
  akin : (berth.connection transport localValue).Akin connection
  holds : ∃ current, opener.status.Holds current ∧ Line.Numbered next current
  given : ∀ event ∈ told, event.request < next
  server : ∀ event ∈ told, event.connection.server = berth.server
  localValue : ∀ event ∈ told, event.connection.localValue = localValue
  accords : ∀ (journal : Journal) (made : Nat) (elsewhere : Common), next ≤ journal.nextRequest →
    (Likeness.namesakes journal.events told elsewhere.journal.events []).Accords
      ((opener.counting made).outcome ⟨connection, journal⟩)
      (berth.mode.openConnection berth.setup (berth.desk transport elsewhere))

variable {berth : Berth} {transport : Transport} {localValue next : Nat} {told : List Event}
  {connection : Connection} {opener : Opener}

/-- More numbers may be given out to others. -/
theorem Underway.mono (h : berth.Underway transport localValue next told connection opener)
    {next' : Nat} (hle : next ≤ next') :
    berth.Underway transport localValue next' told connection opener where
  setup := h.setup
  stage := h.stage
  akin := h.akin
  holds := by
    rcases h.holds with ⟨current, hholds, hnumbered⟩
    exact ⟨current, hholds, hnumbered.mono hle⟩
  given event hevent := Nat.lt_of_lt_of_le (h.given event hevent) hle
  server := h.server
  localValue := h.localValue
  accords journal made elsewhere hnext :=
    h.accords journal made elsewhere (Nat.le_trans hle hnext)

/-- A connection that has just been made is under way. Two of them are namesakes. -/
theorem underway_make (huniform : berth.setup.authenticator.Uniform) (transport : Transport)
    (localValue next : Nat) :
    berth.Underway transport localValue next [] (berth.connection transport localValue)
      berth.opener where
  setup := rfl
  stage := .inl ⟨rfl, rfl⟩
  akin := .refl _
  holds := ⟨none, rfl, fun _ h => by cases h⟩
  given _ h := absurd h List.not_mem_nil
  server _ h := absurd h List.not_mem_nil
  localValue _ h := absurd h List.not_mem_nil
  accords journal made elsewhere _ := by
    have hexact := Likeness.exact_namesakes journal.events [] elsewhere.journal.events []
    have hdesks : (Likeness.namesakes journal.events [] elsewhere.journal.events []).Desks
        ((berth.opener.counting made).desk ⟨berth.connection transport localValue, journal⟩)
        (berth.desk transport elsewhere) := by
      refine ⟨⟨rfl, [], [], ?_, ?_, rfl⟩, trivial⟩
      · exact ⟨⟨[], (List.append_nil _).symm, rfl⟩, fun _ h => absurd h List.not_mem_nil⟩
      · exact ⟨⟨[], (List.append_nil _).symm, rfl⟩, fun _ h => absurd h List.not_mem_nil⟩
    exact Likeness.openConnection (berth.setup.alike_of_exact hexact huniform)
      (Setup.admits_empty _) (Setup.admits_empty _) hdesks rfl rfl berth.mode berth.mode

/-- The connection keeps its number. -/
theorem Underway.localValue_eq
    (h : berth.Underway transport localValue next told connection opener) :
    connection.description.id.localValue = localValue :=
  h.akin.localValue

/-- What the call has learned is about the connection. -/
theorem Underway.concerns (h : berth.Underway transport localValue next told connection opener) :
    opener.status.Concerns connection.description.id := by
  rcases h.stage with ⟨hidle, -⟩ | howns
  · rw [hidle]
    exact trivial
  · exact howns.concerns.of_akin h.akin

/-- A call that is under way has not been dropped. -/
theorem Underway.entered_or_greeted
    (h : berth.Underway transport localValue next told connection opener)
    (howns : Opener.Owns (berth.connection transport localValue) connection opener.status) :
    opener.status = .entered ∨ opener.status.Greeted := by
  -- It would come to no result, but what is left of it comes to one.
  rcases h.accords { nextRequest := next } 0 {} (Nat.le_refl _) with ⟨_, _, _, _, houtcome, _⟩
  rcases opener with ⟨mode, seat, status⟩
  cases howns with
  | entered => exact .inl rfl
  | waiting | ending => exact .inr trivial
  | dropped => cases congrArg Prod.fst houtcome

/-- The first step of a call enters the opening. -/
theorem go_idle (hidle : opener.status = .idle) (transport : Transport) (localValue : Nat)
    (journal : Journal) :
    opener.go ⟨berth.connection transport localValue, journal⟩ =
      ({ opener with status := .entered },
        ⟨(berth.connection transport localValue).entered, journal⟩) := by
  rw [Opener.go, hidle]
  rfl

/-- The first step of a call enters the opening. This tells nothing, and what is left comes
    to the same at any time. -/
theorem Underway.accords_enter
    (h : berth.Underway transport localValue next told connection opener)
    (hidle : opener.status = .idle) (hfresh : connection = berth.connection transport localValue)
    {journal : Journal} {made : Nat} {news : List Event}
    (hadds : Line.Adds ⟨connection, journal⟩
      ((opener.counting made).go ⟨connection, journal⟩).2 news)
    {journal' : Journal} (hnext' : next ≤ journal'.nextRequest) (made' : Nat)
    (elsewhere : Common) :
    (Likeness.namesakes journal'.events (told ++ news) elsewhere.journal.events []).Accords
      ((((opener.counting made).go ⟨connection, journal⟩).1.counting made').outcome
        ⟨((opener.counting made).go ⟨connection, journal⟩).2.connection, journal'⟩)
      (berth.mode.openConnection berth.setup (berth.desk transport elsewhere)) := by
  subst hfresh
  have hbefore := h.accords journal' made' elsewhere hnext'
  rw [← Opener.outcome_go,
    go_idle (show (opener.counting made').status = .idle from hidle)] at hbefore
  have hevents := hadds.events
  rw [go_idle (show (opener.counting made).status = .idle from hidle)] at hevents ⊢
  rw [List.self_eq_append_right.mp hevents, List.append_nil]
  exact hbefore

/-- A later step keeps what is left, and has greeted the server. From then on what is left
    does not depend on what others do. -/
theorem Underway.accords_go (h : berth.Underway transport localValue next told connection opener)
    (howns : Opener.Owns (berth.connection transport localValue) connection opener.status)
    (huniform : berth.setup.authenticator.Uniform) {journal : Journal}
    (hnext : next ≤ journal.nextRequest) {made : Nat} {news : List Event}
    (hadds : Line.Adds ⟨connection, journal⟩
      ((opener.counting made).go ⟨connection, journal⟩).2 news)
    {later : Option Errand}
    (hlater : ((opener.counting made).go ⟨connection, journal⟩).1.status.Holds later)
    (hnumbered : Line.Numbered
      ((opener.counting made).go ⟨connection, journal⟩).2.journal.nextRequest later)
    (hgiven : ∀ event ∈ told ++ news, event.request <
      ((opener.counting made).go ⟨connection, journal⟩).2.journal.nextRequest)
    {journal' : Journal} (made' : Nat) (elsewhere : Common)
    (hnext' : ((opener.counting made).go ⟨connection, journal⟩).2.journal.nextRequest ≤
      journal'.nextRequest) :
    (Likeness.namesakes journal'.events (told ++ news) elsewhere.journal.events []).Accords
      ((((opener.counting made).go ⟨connection, journal⟩).1.counting made').outcome
        ⟨((opener.counting made).go ⟨connection, journal⟩).2.connection, journal'⟩)
      (berth.mode.openConnection berth.setup (berth.desk transport elsewhere)) := by
  have hbefore := h.accords journal made elsewhere hnext
  rw [← Opener.outcome_go] at hbefore
  have hgreeted := Opener.greeted_go
    (show (opener.counting made).status = .entered ∨ (opener.counting made).status.Greeted from
      h.entered_or_greeted howns) ⟨connection, journal⟩
  have hsetup : ((opener.counting made).go ⟨connection, journal⟩).1.seat.setup = berth.setup :=
    ((opener.counting made).setup_go _).trans h.setup
  rw [← hsetup] at huniform
  have hafter := Opener.accords_elsewhere huniform hgreeted hlater hnumbered hgiven
    ((opener.counting made).go ⟨connection, journal⟩).2.connection hnext' (Nat.le_refl _) made'
    ((opener.counting made).go ⟨connection, journal⟩).1.seat.created
  -- In the middle of the chain the call goes on at once, at the line where the step has led.
  rw [hadds.events] at hafter
  exact hafter.trans hbefore

/-- The step of a call is one of its own, and leaves it under way. -/
theorem Underway.go (h : berth.Underway transport localValue next told connection opener)
    (huniform : berth.setup.authenticator.Uniform) {journal : Journal}
    (hnext : next ≤ journal.nextRequest) (made : Nat) :
    ∃ news,
      Line.Adds ⟨connection, journal⟩ ((opener.counting made).go ⟨connection, journal⟩).2 news ∧
      berth.Underway transport localValue
        ((opener.counting made).go ⟨connection, journal⟩).2.journal.nextRequest (told ++ news)
        ((opener.counting made).go ⟨connection, journal⟩).2.connection
        ((opener.counting made).go ⟨connection, journal⟩).1 := by
  rcases h.holds with ⟨current, hholds, hnumbered⟩
  rcases (opener.counting made).moves_go ⟨connection, journal⟩ h.concerns hholds 0 0 with
    ⟨later, hmoves, hlater⟩
  rcases hmoves.adds (hnumbered.mono hnext) with ⟨⟨news, hadds⟩, hnumbered'⟩
  have hakin : connection.Akin
    ((opener.counting made).go ⟨connection, journal⟩).2.connection := hmoves.akin
  have hgrows := Nat.le_trans hnext hadds.grows
  have hgiven : ∀ event ∈ told ++ news, event.request <
      ((opener.counting made).go ⟨connection, journal⟩).2.journal.nextRequest :=
    List.forall_mem_append.mpr
      ⟨fun event hevent => Nat.lt_of_lt_of_le (h.given event hevent) hgrows, hadds.given⟩
  have hserver : ∀ event ∈ told ++ news, event.connection.server = berth.server :=
    List.forall_mem_append.mpr
      ⟨h.server, fun event hevent => (hadds.server event hevent).trans h.akin.server⟩
  have hlocalValue : ∀ event ∈ told ++ news, event.connection.localValue = localValue :=
    List.forall_mem_append.mpr
      ⟨h.localValue, fun event hevent => (hadds.localValue event hevent).trans h.akin.localValue⟩
  refine ⟨news, hadds, ((opener.counting made).setup_go _).trans h.setup, ?_,
    h.akin.trans hakin, ⟨later, hlater, hnumbered'⟩, hgiven, hserver, hlocalValue,
    fun journal' made' elsewhere hnext' => ?_⟩
  · rcases h.stage with ⟨hidle, rfl⟩ | howns
    · rw [go_idle (show (opener.counting made).status = .idle from hidle)]
      exact .inr (.entered rfl)
    · have hown : Opener.Owns (berth.connection transport localValue)
          (Line.mk connection journal).connection (opener.counting made).status := howns
      exact .inr hown.go
  · rcases h.stage with ⟨hidle, hfresh⟩ | howns
    · exact h.accords_enter hidle hfresh hadds (Nat.le_trans hgrows hnext') made' elsewhere
    · exact h.accords_go howns huniform hnext hadds hlater hnumbered' hgiven made' elsewhere hnext'

/-- What has been sent is a part of what is sent when the connection is opened alone. -/
theorem Underway.sent_isPrefix
    (h : berth.Underway transport localValue next told connection opener)
    (htransport : berth.transport = .ok transport) (elsewhere : Common) :
    connection.transport.sent <+: (berth.alone elsewhere).sent := by
  -- What is left of the call sends the rest, whatever the journal is meanwhile.
  have haccords := h.accords { nextRequest := next } 0 elsewhere (Nat.le_refl _)
  have hprefix := (opener.counting 0).sent_prefix_outcome ⟨connection, { nextRequest := next }⟩
  rcases haccords with ⟨_, _, after, after', houtcome, halone, _, hdesks⟩
  rw [houtcome] at hprefix
  rw [alone, htransport]
  simp only [halone]
  show _ <+: after'.line.connection.transport.sent
  rw [← hdesks.line.congr (fun c => c.transport.sent) fun _ => rfl]
  exact hprefix

/-- What has come of a call that has returned is what comes of it when the connection is
    opened alone. -/
theorem Underway.uncounted_eq
    (h : berth.Underway transport localValue next told connection opener)
    (htransport : berth.transport = .ok transport) {result : Except Error Opened}
    (hresult : opener.result? = some result) (elsewhere : Common) :
    (Upshot.mk (some result) (some connection) told).uncounted =
      (berth.alone elsewhere).uncounted := by
  have haccords := h.accords { nextRequest := next } 0 elsewhere (Nat.le_refl _)
  rw [Opener.outcome_of_result? (show (opener.counting 0).result? = some result from hresult)]
    at haccords
  rcases haccords with ⟨_, result', _, after', houtcome, halone, hpaired, hdesks⟩
  rcases Prod.mk.inj houtcome with ⟨hsame, rfl⟩
  rw [← Option.some.inj hsame] at hpaired
  have hresults : result.map Opened.uncounted = result'.map Opened.uncounted := by
    cases hpaired with
    | ok hopened => exact congrArg Except.ok hopened
    | error herror => exact congrArg Except.error herror
  -- Nothing more is told of the one, and the other has been told of since it began.
  rcases hdesks.line.told with ⟨_, all, ⟨⟨none, hnone, rfl⟩, _⟩, ⟨⟨_, hall, rfl⟩, _⟩, htold⟩
  rw [← show [] = none from hnone, List.append_nil] at htold
  have hdrop : after'.line.journal.events.drop elsewhere.journal.events.length = all := by
    rw [hall, List.drop_left]
  rw [alone, htransport]
  simp only [halone, Upshot.uncounted, Option.map_some, hresults, hdrop, htold]
  exact congrArg (fun c => Upshot.mk _ (some c) _) hdesks.line.connection

/-- What a call has returned is about its connection. -/
theorem Underway.identity
    (h : berth.Underway transport localValue next told connection opener) {opened : Opened}
    (hresult : opener.result? = some (.ok opened)) :
    opened.connection.id.server = berth.server ∧ opened.connection.id.localValue = localValue := by
  have hconcerns := h.concerns
  rcases opener with ⟨mode, seat, status⟩
  cases status with
  | ending own stored =>
      simp only [Opener.result?] at hresult
      split at hresult
      · rw [Option.some.inj hresult] at hconcerns
        have hopened : opened.Concerns connection.description.id := hconcerns
        exact ⟨hopened.server.trans h.akin.server, hopened.localValue.trans h.akin.localValue⟩
      · cases hresult
  | _ => cases hresult

/-- A call that has no steps left has returned. -/
theorem Underway.returned (h : berth.Underway transport localValue next told connection opener)
    {answers : Nat} (hleft : opener.status.stepsLeft answers = 0) :
    opener.result?.isSome = true := by
  rcases h.stage with ⟨hidle, -⟩ | howns
  · rw [hidle] at hleft
    cases hleft
  · have hnot := h.entered_or_greeted howns
    rcases opener with ⟨mode, seat, status⟩
    cases howns with
    | entered => cases hleft
    | waiting => cases hleft
    | @ending result stored hstored _ _ =>
        have hall : stored = (Connection.settlements result).length :=
          Nat.le_antisymm hstored (Nat.le_of_sub_eq_zero hleft)
        simp only [Opener.result?, if_pos hall, Option.isSome_some]
    | dropped =>
        rcases hnot with hnot | hnot
        · cases hnot
        · exact absurd hnot id

end Berth

namespace Access

/-- What all other openings of the process share with those of a cluster. -/
def common (access : Access) : Common where
  journal := access.journal
  made := fun _ => access.created
  nextLocalValue := access.nextLocalValue

/-- A connection to a server of a cluster, with the transport that is next for it. -/
def berth (access : Access) (context : Context) (purpose : Purpose) (mode : Mode)
    (server : ServerId) : Berth where
  server := server
  setup := context.setup purpose
  listener := context.listenerFor purpose
  transport := (access.createTransport purpose server.address).1
  mode := mode

/-- To open a connection to a server of a cluster is to open it alone. -/
theorem openConnection_alone (access : Access) (context : Context) (purpose : Purpose)
    (mode : Mode) (server : ServerId) :
    (access.openConnection context purpose mode server).1 =
        ((access.berth context purpose mode server).alone access.common).attempt ∧
      (access.openConnection context purpose mode server).2.journal.events.drop
          access.journal.events.length =
        ((access.berth context purpose mode server).alone access.common).told := by
  -- Having a transport made changes nothing else that is shared.
  have hshared : (access.createTransport purpose server.address).2.common = access.common := by
    unfold createTransport
    cases purpose with
    | application => rfl
    | monitoring => cases access.heartbeat <;> rfl
  rw [show access.journal.events = access.common.journal.events from rfl, ← hshared,
    openConnection, connect, Berth.alone, berth]
  generalize access.createTransport purpose server.address = made
  rcases made with ⟨transport, shared⟩
  cases transport with
  | error e => exact ⟨rfl, List.drop_length⟩
  | ok transport => exact ⟨rfl, rfl⟩

end Access

end DocumentLink
