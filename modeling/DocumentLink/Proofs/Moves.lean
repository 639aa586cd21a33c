import DocumentLink.Proofs.Ledger
import DocumentLink.Proofs.Lifecycle

/-!
# What a Caller Does on a Line

A call that opens a connection goes from wait to wait. In between it takes the answer it has
waited for, asks provers, sends its next command, or stores what it has learned. These are
the moves on a line, and the only thing that goes from one move to another is the command
that is on its way.

That a step sends commands only was said before in terms of the connection. Here the
journal is kept as well: provers being asked is noted there, and everything else that is
written into it is written by sending a command or by taking an answer.

## Main definitions

* `Line.Asks`: Only calls of provers have been noted.
* `Line.Begins`: A command has been sent after that.
* `Desk.Pauses`: A step waits for an answer to its command, or ends.
* `Desk.Proceeds`: A step of an opening waits, or stores its end.
* `Line.Move`, `Line.Moves`: What is done on a line.
* `Opener.Status.Holds`: The command that a call has on its way.
* `Opener.Status.Concerns`: What a call has learned is about its connection.

## Theorems

* `Suspending.pauses_authenticate`, `Suspending.proceeds_greet`,
  `Suspending.proceeds_continueOpening`: What the steps of an opening do.
* `Opener.moves_go`, `Opener.holds_drop`: What a call does in one step, and when it is
  dropped.
-/

namespace DocumentLink

namespace Line

/-- Nothing is different but that calls of provers have been noted. -/
def Asks (line after : Line) : Prop :=
  ∃ calls, after = { line with journal.calls := calls }

theorem Asks.refl (line : Line) : line.Asks line :=
  ⟨line.journal.calls, rfl⟩

theorem Asks.trans {line between after : Line} (h₁ : line.Asks between)
    (h₂ : between.Asks after) : line.Asks after := by
  rcases h₁ with ⟨_, rfl⟩
  rcases h₂ with ⟨calls, rfl⟩
  exact ⟨calls, rfl⟩

/-- Provers have been asked and then a command has been sent. -/
def Begins (line after : Line) (ticket : Option Ticket) : Prop :=
  ∃ asked command, line.Asks asked ∧ Suspending.begin asked command = (ticket, after)

theorem Asks.begins {line between after : Line} {ticket : Option Ticket}
    (h : line.Asks between) (hbegins : between.Begins after ticket) :
    line.Begins after ticket := by
  rcases hbegins with ⟨asked, command, hasked, hbegin⟩
  exact ⟨asked, command, h.trans hasked, hbegin⟩

end Line

theorem Desk.asks_note (desk : Desk) (observed : Bool) (call : MechanismCall) :
    desk.line.Asks (desk.note observed call).line := by
  cases observed with
  | false => exact .refl _
  | true => exact ⟨_, rfl⟩

namespace Suspending

/-- The ticket of the command that an authentication waits for. -/
def Authenticating.ticket : Authenticating → Option Ticket
  | .conversation talk => talk.ticket
  | .certificate _ ticket => ticket

/-- The ticket of the command that an opening waits for. -/
def Waiting.ticket : Waiting → Option Ticket
  | .handshake ticket | .probe _ ticket => ticket
  | .authentication _ waiting => waiting.ticket

end Suspending

namespace Desk

variable {ω ω' α : Type}

/-- Where a step leads that asks provers and then sends a command, or ends. -/
def Pauses (ticket : ω → Option Ticket) (desk : Desk) (progress : Progress ω α) (after : Desk) :
    Prop :=
  match progress with
  | .suspended waiting => desk.line.Begins after.line (ticket waiting)
  | .finished _ => desk.line.Asks after.line

/-- Where a step of an opening leads. If it ends, then storing the end is all that it does
    besides asking provers. -/
def Proceeds (desk : Desk) (progress : Progress Suspending.Waiting Opened) (after : Desk) :
    Prop :=
  match progress with
  | .suspended waiting => desk.line.Begins after.line waiting.ticket
  | .finished result =>
    ∃ settling : Desk, desk.line.Asks settling.line ∧ after = settling.settle result

variable {ticket : ω → Option Ticket} {desk between after : Desk} {progress : Progress ω α}

theorem Pauses.of_asks (h : desk.line.Asks between.line)
    (hpauses : between.Pauses ticket progress after) : desk.Pauses ticket progress after := by
  cases progress with
  | suspended waiting => exact h.begins hpauses
  | finished result => exact h.trans hpauses

theorem Pauses.mapError (h : desk.Pauses ticket progress after) (f : Error → Error) :
    desk.Pauses ticket (progress.mapError f) after := by
  cases progress with
  | suspended waiting => exact h
  | finished result => exact h

theorem Pauses.mapWaiting {other : ω' → Option Ticket} {f : ω → ω'}
    (h : desk.Pauses ticket progress after)
    (hticket : ∀ waiting, other (f waiting) = ticket waiting) :
    desk.Pauses other (progress.mapWaiting f) after := by
  cases progress with
  | suspended waiting =>
      show desk.line.Begins after.line (other (f waiting))
      rw [hticket]
      exact h
  | finished result => exact h

theorem Proceeds.of_asks {progress : Progress Suspending.Waiting Opened}
    (h : desk.line.Asks between.line) (hproceeds : between.Proceeds progress after) :
    desk.Proceeds progress after := by
  cases progress with
  | suspended waiting => exact h.begins hproceeds
  | finished result =>
      rcases hproceeds with ⟨settling, hasks, hafter⟩
      exact ⟨settling, h.trans hasks, hafter⟩

end Desk

namespace Suspending

open Desk (Pauses)

theorem asks_createProver (login : Login) (mechanism : Mechanism) (desk : Desk) :
    desk.line.Asks ((login.createProver mechanism).runAt desk).2.line := by
  rw [Login.runAt_createProver]
  cases login.provider.create desk.created mechanism login.credential <;>
    exact desk.asks_note _ _

theorem asks_createFixedProver (login : Login) (desk : Desk) :
    desk.line.Asks (login.createFixedProver.runAt desk).2.line := by
  rw [Login.createFixedProver]
  cases login.credential.mechanism with
  | none => exact .refl _
  | some mechanism => exact asks_createProver login mechanism desk

/-- Making the handshake asks provers only, also where it speculates. -/
theorem asks_handshake (setup : Setup) (desk : Desk) :
    desk.line.Asks (setup.handshake.runAt desk).2.line := by
  cases hspeculative : setup.authenticator.speculative? with
  | none =>
      rw [Setup.runAt_handshake_of_none hspeculative]
      exact .refl _
  | some login =>
      rw [Setup.runAt_handshake_of_some hspeculative]
      cases hmay : login.maySpeculate with
      | false =>
          rw [Login.runAt_speculate_of_not hmay]
          exact .refl _
      | true =>
          have hmade := asks_createFixedProver login desk
          rw [Login.runAt_speculate hmay]
          generalize login.createFixedProver.runAt desk = created at hmade ⊢
          rcases created with ⟨prover, made⟩
          cases prover with
          | error e => exact hmade
          | ok running =>
              simp only []
              cases running.prover.initial <;> exact hmade.trans (made.asks_note _ _)

theorem begins_send (database : String) (command : Document) (api : Option ServerApi)
    (desk : Desk) :
    desk.line.Begins ((send database command api).run desk).2.line
      ((send database command api).run desk).1 :=
  ⟨desk.line, Command.prepare command database api, .refl _, rfl⟩

theorem pauses_say (login : Login) (running : Prover.Running) (document : Document)
    (desk : Desk) :
    desk.Pauses Talk.ticket ((say login running document).run desk).1
      ((say login running document).run desk).2 :=
  begins_send login.credential.source document login.api desk

/-- Taking in a reply asks the prover, and sends its answer if there is one. -/
theorem pauses_converse (login : Login) (running : Prover.Running) (reply : Sasl.Reply)
    (desk : Desk) :
    desk.Pauses Talk.ticket ((converse login running reply).run desk).1
      ((converse login running reply).run desk).2 := by
  cases hdone : reply.done with
  | true =>
      have hfinish : desk.line.Asks ((login.finish running reply).runAt desk).2.line := by
        rw [Login.runAt_finish]
        exact desk.asks_note _ _
      simp only [converse, hdone, if_true]
      exact hfinish
  | false =>
      have hasked : desk.line.Asks ((login.nextCommand running reply).runAt desk).2.line := by
        rw [Login.runAt_nextCommand]
        exact desk.asks_note _ _
      rw [run_converse_of_not_done hdone]
      refine Pauses.of_asks hasked ?_
      cases ((login.nextCommand running reply).runAt desk).1 with
      | error e => exact Line.Asks.refl _
      | ok step => exact pauses_say login step.2 step.1 _

theorem pauses_login (login : Login) (running : Prover.Running) (desk : Desk) :
    desk.Pauses Talk.ticket ((Suspending.login login running).run desk).1
      ((Suspending.login login running).run desk).2 := by
  have hasked : desk.line.Asks ((login.firstCommand running).runAt desk).2.line := by
    rw [Login.runAt_firstCommand]
    exact desk.asks_note _ _
  rw [run_login]
  refine Pauses.of_asks hasked ?_
  cases ((login.firstCommand running).runAt desk).1 with
  | error e => exact Line.Asks.refl _
  | ok document => exact pauses_say login running document _

theorem pauses_pickUp (login : Login) (running : Prover.Running) (document : Document)
    (desk : Desk) :
    desk.Pauses Talk.ticket ((pickUp login running document).run desk).1
      ((pickUp login running document).run desk).2 := by
  cases hread : Sasl.Reply.read document with
  | error e =>
      rw [run_pickUp_of_error hread]
      exact Line.Asks.refl _
  | ok reply =>
      rw [run_pickUp_of_ok hread]
      exact (pauses_converse login running reply desk).mapError _

theorem pauses_loginWith (login : Login) {make : Act Prover.Running}
    (h : ∀ desk : Desk, desk.line.Asks (make.runAt desk).2.line) (desk : Desk) :
    desk.Pauses Authenticating.ticket ((loginWith login make).run desk).1
      ((loginWith login make).run desk).2 := by
  rw [run_loginWith]
  refine Pauses.of_asks (h desk) ?_
  cases (make.runAt desk).1 with
  | error e => exact Line.Asks.refl _
  | ok running => exact (pauses_login login running _).mapWaiting fun _ => rfl

/-- Beginning an authentication asks provers and sends its first command, if it has one. -/
theorem pauses_authenticate (authenticator : Authenticator) (description : ConnectionDescription)
    (desk : Desk) :
    desk.Pauses Authenticating.ticket ((authenticate authenticator description).run desk).1
      ((authenticate authenticator description).run desk).2 := by
  cases authenticator with
  | none => exact Line.Asks.refl _
  | negotiating login =>
      exact pauses_loginWith login (asks_createProver login description.negotiated) desk
  | certificate credential api => exact begins_send _ _ _ desk
  | speculative login =>
      have htaken : desk.line.Asks
          { desk with speculation := desk.speculation.takeResumable.2 }.line := .refl _
      rw [authenticate, run_speculated]
      refine Pauses.of_asks htaken ?_
      cases desk.speculation.takeResumable.1 with
      | none => exact pauses_loginWith login (asks_createFixedProver login) _
      | some both => exact (pauses_pickUp login both.1 both.2 _).mapWaiting fun _ => rfl

/-- The desk after an answer has been taken. -/
def answered (desk : Desk) (ticket : Option Ticket) : Desk :=
  { desk with line := (complete desk.line ticket).2 }

theorem runAt_receive (ticket : Option Ticket) (desk : Desk) :
    ((receive ticket).runAt desk).2 = answered desk ticket :=
  rfl

theorem pauses_continueTalk (talk : Talk) (desk : Desk) :
    (answered desk talk.ticket).Pauses Talk.ticket ((continueTalk talk).run desk).1
      ((continueTalk talk).run desk).2 := by
  rw [run_continueTalk, runAt_receive]
  cases ((receive talk.ticket).runAt desk).1 with
  | error e => exact Line.Asks.refl _
  | ok document =>
      simp only []
      cases Sasl.Reply.read document with
      | error e => exact Line.Asks.refl _
      | ok reply => exact (pauses_converse talk.login talk.running reply _).mapError _

theorem pauses_continueAuthentication (waiting : Authenticating) (desk : Desk) :
    (answered desk waiting.ticket).Pauses Authenticating.ticket
      ((continueAuthentication waiting).run desk).1
      ((continueAuthentication waiting).run desk).2 := by
  cases waiting with
  | conversation talk => exact (pauses_continueTalk talk desk).mapWaiting fun _ => rfl
  | certificate credential ticket => exact Line.Asks.refl _

theorem proceeds_conclude (result : Except Error Opened) (desk : Desk) :
    desk.Proceeds ((conclude result).run desk).1 ((conclude result).run desk).2 :=
  ⟨desk, .refl _, rfl⟩

theorem proceeds_probe (setup : Setup) (opened : Opened) (desk : Desk) :
    desk.Proceeds ((probe setup opened).run desk).1 ((probe setup opened).run desk).2 := by
  rw [probe]
  cases opened.needsProbe with
  | true => exact begins_send _ _ _ desk
  | false => exact proceeds_conclude _ desk

theorem proceeds_afterAuthentication (setup : Setup) (opened : Opened) {desk between : Desk}
    {progress : Progress Authenticating Unit}
    (h : desk.Pauses Authenticating.ticket progress between) :
    desk.Proceeds ((afterAuthentication setup opened progress).run between).1
      ((afterAuthentication setup opened progress).run between).2 := by
  cases progress with
  | suspended waiting => exact h
  | finished result =>
      cases result with
      | error e => exact Desk.Proceeds.of_asks h (proceeds_conclude _ between)
      | ok done => exact Desk.Proceeds.of_asks h (proceeds_probe setup opened between)

theorem proceeds_afterHandshake (setup : Setup) (reply : Document) (desk : Desk) :
    desk.Proceeds ((afterHandshake setup reply).run desk).1
      ((afterHandshake setup reply).run desk).2 := by
  have hlearned : desk.line.Asks ((setup.learn reply).run desk).2.line := by
    rw [Setup.run_learn]
    simp only []
    split <;> exact .refl _
  refine Desk.Proceeds.of_asks hlearned ?_
  show Desk.Proceeds _
    (StateT.run (if setup.authenticates _ then _ else _ : StateM Desk _) _).1
    (StateT.run (if setup.authenticates _ then _ else _ : StateM Desk _) _).2
  split
  · exact proceeds_afterAuthentication setup _ (pauses_authenticate _ _ _)
  · exact proceeds_probe setup _ _

/-- Beginning an opening sends the handshake, or stores that there is none to send. -/
theorem proceeds_greet (setup : Setup) (desk : Desk) :
    desk.Proceeds ((greet setup).run desk).1 ((greet setup).run desk).2 := by
  rw [run_greet]
  refine Desk.Proceeds.of_asks (asks_handshake setup desk) ?_
  cases (setup.handshake.runAt desk).1 with
  | error e => exact proceeds_conclude _ _
  | ok document => exact begins_send _ _ _ _

/-- Going on with an opening takes the answer to the command that was waited for. Then the
    next command is sent, or the end is stored. -/
theorem proceeds_continueOpening (setup : Setup) (waiting : Waiting) (desk : Desk) :
    (answered desk waiting.ticket).Proceeds ((continueOpening setup waiting).run desk).1
      ((continueOpening setup waiting).run desk).2 := by
  cases waiting with
  | handshake ticket =>
      rw [run_continueOpening_handshake, runAt_receive]
      cases ((receive ticket).runAt desk).1 with
      | error e => exact proceeds_conclude _ _
      | ok reply => exact proceeds_afterHandshake setup reply _
  | authentication opened waiting =>
      rw [run_continueOpening_authentication]
      exact proceeds_afterAuthentication setup opened (pauses_continueAuthentication waiting desk)
  | probe opened ticket => exact proceeds_conclude _ _

end Suspending

namespace Line

theorem connection_begin (line : Line) (command : Document) :
    (Suspending.begin line command).2.connection =
      line.connection.rewired (line.connection.transport.send command) := by
  show ((line.announce command).2.send command).connection = _
  rw [send, Blocking.connection_announce]
  rfl

theorem connection_complete (line : Line) (ticket : Option Ticket) :
    (Suspending.complete line ticket).2.connection =
      line.connection.rewired line.connection.transport.take.2 := by
  show (line.take.2.report ticket line.take.1).connection = _
  rw [Blocking.connection_report]
  rfl

/-- One thing that a caller does on the line of the connection at a place, with the command
    that it has on its way. -/
inductive Move (caller place : Nat) : Line × Option Errand → Line × Option Errand → Prop where
  | ask {line : Line} {current : Option Errand} (calls : List MechanismCall) :
      Move caller place (line, current) ({ line with journal.calls := calls }, current)
  | store {line : Line} {current : Option Errand} {stored : Connection}
      (hakin : line.connection.Akin stored)
      (htransport : stored.transport = line.connection.transport) :
      Move caller place (line, current) ({ line with connection := stored }, current)
  | begin (line : Line) (command : Document) :
      Move caller place (line, none) ((Suspending.begin line command).2,
        some ⟨caller, place, command, (Suspending.begin line command).1, .handed⟩)
  | complete (line : Line) {errand : Errand} (hstage : errand.stage = .handed) :
      Move caller place (line, some errand) ((Suspending.complete line errand.ticket).2, none)

def Moves (caller place : Nat) : Line × Option Errand → Line × Option Errand → Prop :=
  Relation.ReflTransGen (Move caller place)

variable {caller place : Nat} {spot later : Line × Option Errand}

theorem Move.akin (h : Move caller place spot later) :
    spot.1.connection.Akin later.1.connection := by
  cases h with
  | ask => exact .refl _
  | store hakin _ => exact hakin
  | begin line command =>
      rw [connection_begin]
      exact ⟨rfl, rfl, rfl⟩
  | complete line hstage =>
      rw [connection_complete]
      exact ⟨rfl, rfl, rfl⟩

/-- A connection stays the same, whatever is done on its line. -/
theorem Moves.akin (h : Moves caller place spot later) :
    spot.1.connection.Akin later.1.connection := by
  induction h with
  | refl => exact .refl _
  | tail _ hmove ih => exact ih.trans hmove.akin

theorem Asks.moves {line after : Line} (h : line.Asks after) (current : Option Errand) :
    Moves caller place (line, current) (after, current) := by
  rcases h with ⟨calls, rfl⟩
  exact .single (.ask calls)

theorem Begins.moves {line after : Line} {ticket : Option Ticket} (h : line.Begins after ticket)
    (caller place : Nat) :
    ∃ errand : Errand, Moves caller place (line, none) (after, some errand) ∧
      errand.ticket = ticket ∧ errand.stage = .handed := by
  rcases h with ⟨asked, command, hasked, hbegin⟩
  rcases Prod.mk.inj hbegin with ⟨rfl, rfl⟩
  exact ⟨_, (hasked.moves none).tail (.begin asked command), rfl, rfl⟩

end Line

/-- The command that a call has on its way, by how far the call has come. The command of one
    that was dropped may never be answered. -/
def Opener.Status.Holds (current : Option Errand) : Opener.Status → Prop
  | .waiting place => ∃ errand, current = some errand ∧ errand.ticket = place.ticket ∧
      errand.stage = .handed
  | .dropped => ∀ errand, current = some errand → errand.stage = .handed
  | .idle | .entered | .ending .. | .refused _ => current = none

/-- A step of an opening that leaves its end to be stored has asked provers, and sent a
    command if it waits. -/
theorem Desk.Proceeds.moves {desk after : Desk}
    {progress : Progress Suspending.Waiting Opened} (h : desk.Proceeds progress after)
    {first : Connection} {t : Transport} (hfirst : desk.line.connection = first.rewired t)
    (caller place : Nat) :
    ∃ current, Line.Moves caller place (desk.line, none)
      ({ after.line with connection := after.line.connection.withholding first }, current) ∧
      (Opener.Status.ofProgress progress).Holds current := by
  cases progress with
  | suspended waiting =>
      have hbegins : desk.line.Begins after.line waiting.ticket := h
      have hkept : after.line.connection.withholding first = after.line.connection := by
        rcases hbegins with ⟨asked, command, ⟨calls, rfl⟩, hbegin⟩
        have hafter := congrArg Prod.snd hbegin
        rw [← show _ = after.line from hafter, Line.connection_begin]
        show ((desk.line.connection.rewired _).withholding first) = desk.line.connection.rewired _
        rw [hfirst]
        rfl
      rcases hbegins.moves caller place with ⟨errand, hmoves, hticket, hstage⟩
      rw [hkept]
      exact ⟨some errand, hmoves, errand, rfl, hticket, hstage⟩
  | finished result =>
      rcases h with ⟨settling, hasks, rfl⟩
      have hsame : settling.line.connection = desk.line.connection := by
        rcases hasks with ⟨calls, hsettling⟩
        rw [hsettling]
      have hkept : (settling.line.connection.settle result).withholding first =
          settling.line.connection :=
        Connection.withholding_settle (hsame.trans hfirst) result
      refine ⟨none, ?_, rfl⟩
      show Line.Moves _ _ _ ({ settling.line with
        connection := (settling.line.connection.settle result).withholding first }, none)
      rw [hkept]
      exact hasks.moves none

/-- What has been learned about a connection goes on being about it. -/
theorem Opened.Concerns.of_akin {opened : Opened} {c d : Connection}
    (h : opened.Concerns c.description.id) (hakin : c.Akin d) :
    opened.Concerns d.description.id :=
  ⟨h.server.trans hakin.server.symm, h.localValue.trans hakin.localValue.symm⟩

namespace Opener

/-- What a call has learned is about its connection. -/
def Status.Concerns (id : ConnectionId) : Status → Prop
  | .idle | .entered | .refused _ | .dropped => True
  | .waiting place => place.Concerns id
  | .ending result _ => (Progress.finished result).Concerns id

theorem Status.Concerns.of_akin {status : Status} {c d : Connection}
    (h : status.Concerns c.description.id) (hakin : c.Akin d) :
    status.Concerns d.description.id := by
  cases status with
  | waiting place =>
      cases place with
      | handshake => exact h
      | authentication opened => exact Opened.Concerns.of_akin h hakin
      | probe opened => exact Opened.Concerns.of_akin h hakin
  | ending result stored =>
      cases result with
      | error e => exact h
      | ok opened => exact Opened.Concerns.of_akin h hakin
  | _ => exact trivial

theorem Status.concerns_ofProgress {id : ConnectionId}
    {progress : Progress Suspending.Waiting Opened} (h : progress.Concerns id) :
    (Status.ofProgress progress).Concerns id := by
  cases progress with
  | suspended place => exact h
  | finished result => exact h

/-- What a step has learned is about the connection as well. -/
theorem concerns_go (opener : Opener) (line : Line)
    (h : opener.status.Concerns line.connection.description.id) :
    (opener.go line).1.status.Concerns line.connection.description.id := by
  rcases opener with ⟨mode, seat, status⟩
  cases status with
  | idle =>
      simp only [go]
      cases line.connection.begin <;> exact trivial
  | entered => exact Status.concerns_ofProgress (Suspending.concerns_greet _ _)
  | waiting place =>
      exact Status.concerns_ofProgress (Suspending.concerns_continueOpening _ rfl h)
  | ending result stored =>
      simp only [go]
      cases (Connection.settlements result)[stored]? <;> exact h
  | refused e => exact trivial
  | dropped => exact trivial

/-- A store of the end of an opening leaves the connection the same. -/
theorem akin_of_mem_settlements {result : Except Error Opened} {c : Connection}
    (h : (Progress.finished result).Concerns c.description.id)
    {store : Connection → Connection} (hstore : store ∈ Connection.settlements result) :
    c.Akin (store c) ∧ (store c).transport = c.transport := by
  cases result with
  | error e =>
      rw [List.mem_singleton.mp hstore]
      exact ⟨⟨rfl, rfl, rfl⟩, rfl⟩
  | ok opened =>
      have hconcerns : opened.Concerns c.description.id := h
      simp only [Connection.settlements, List.mem_cons, List.not_mem_nil, or_false] at hstore
      rcases hstore with rfl | rfl | rfl
      · exact ⟨⟨rfl, hconcerns.server, hconcerns.localValue⟩, rfl⟩
      · exact ⟨⟨rfl, rfl, rfl⟩, rfl⟩
      · exact ⟨⟨rfl, rfl, rfl⟩, rfl⟩

/-- In one step a call takes the answer it has waited for, asks provers, sends its next
    command or makes a store. -/
theorem moves_go (opener : Opener) (line : Line) {current : Option Errand}
    (hconcerns : opener.status.Concerns line.connection.description.id)
    (hholds : opener.status.Holds current) (caller place : Nat) :
    ∃ later, Line.Moves caller place (line, current) ((opener.go line).2, later) ∧
      (opener.go line).1.status.Holds later := by
  rcases opener with ⟨mode, seat, status⟩
  cases status with
  | idle =>
      simp only [go]
      cases hbegin : line.connection.begin with
      | error e => exact ⟨current, .refl, hholds⟩
      | ok connection =>
          rw [Connection.eq_entered_of_begin hbegin]
          exact ⟨current, .single (.store ⟨rfl, rfl, rfl⟩ rfl), hholds⟩
  | entered =>
      rw [show current = none from hholds]
      have hproceeds := Suspending.proceeds_greet seat.setup (desk ⟨mode, seat, .entered⟩ line)
      exact hproceeds.moves (show _ = line.connection.rewired line.connection.transport from rfl)
        caller place
  | waiting waiting =>
      rcases hholds with ⟨errand, rfl, hticket, hstage⟩
      have hproceeds := Suspending.proceeds_continueOpening seat.setup waiting
        (desk ⟨mode, seat, .waiting waiting⟩ line)
      rcases hproceeds.moves (Line.connection_complete line waiting.ticket) caller place with
        ⟨later, hmoves, hholds⟩
      have hcompletes : Line.Move caller place (line, some errand) _ := .complete line hstage
      rw [hticket] at hcompletes
      exact ⟨later, hmoves.head hcompletes, hholds⟩
  | ending result stored =>
      simp only [go]
      cases hstore : (Connection.settlements result)[stored]? with
      | none => exact ⟨current, .refl, hholds⟩
      | some store =>
          rcases akin_of_mem_settlements hconcerns (List.mem_of_getElem? hstore) with
            ⟨hakin, htransport⟩
          exact ⟨current, .single (.store hakin htransport), hholds⟩
  | refused e => exact ⟨current, .refl, hholds⟩
  | dropped => exact ⟨current, .refl, hholds⟩

/-- The command of a call that is dropped is left on its way. -/
theorem holds_drop (opener : Opener) {current : Option Errand}
    (hholds : opener.status.Holds current) : opener.drop.status.Holds current := by
  rcases opener with ⟨mode, seat, status⟩
  cases mode with
  | blocking => exact hholds
  | suspending =>
      cases status with
      | idle =>
          intro errand hcurrent
          rw [show current = none from hholds] at hcurrent
          cases hcurrent
      | waiting waiting =>
          intro errand hcurrent
          rcases hholds with ⟨held, hheld, _, hstage⟩
          rw [hcurrent] at hheld
          rw [Option.some.inj hheld]
          exact hstage
      | _ => exact hholds

theorem concerns_drop (opener : Opener) {id : ConnectionId} (h : opener.status.Concerns id) :
    opener.drop.status.Concerns id := by
  rcases opener with ⟨mode, seat, status⟩
  cases mode with
  | blocking => exact h
  | suspending =>
      cases status with
      | idle | waiting _ => exact trivial
      | _ => exact h

end Opener

end DocumentLink
