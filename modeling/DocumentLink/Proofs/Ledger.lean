import DocumentLink.Proofs.Errands
import Mathlib.Logic.Relation

/-!
# A Ledger of Commands

Commands may be on their way over many connections at the same time, and all of them use
one journal. A ledger lists the commands that have been started, each with how far it has
come. A command takes its acts one after the other, and nothing is said about the order of
acts that belong to different commands: between any two acts there may be others, as there
are if calls run side by side. Provers may be asked, and what is known of connections may be
replaced, at any time.

At every moment the journal fits the ledger. Its trace can be told apart by commands, and
what is then left for each of them is what should have been done for it. So a command that
has been handed to a transport has been told about before, once, and it is told about once
more when its answer is reported; nothing is told or sent that does not belong to a command;
and what has been sent over a connection is what has been handed to it. Numbers are given out
in order, so no two commands share one, and connections without a listener use none.

To take a number and to tell the listener are two acts. If calls run side by side, another
one may come in between with both of its own, and then the larger number is told first. That
is the only way for it: of two commands that are told about, the one that comes later has the
larger number unless that had been taken before the listener was told about the other.

## Main definitions

* `Ledger`: Connections, the journal, and the commands on their way.
* `Ledger.Next`, `Ledger.Leads`: What may be done next, and by and by.
* `Ledger.Stride`, `Ledger.Strides`: The same by callers that go from wait to wait.
* `Errand.own`, `Errand.handedTo`: What has been done for a command, or handed to a place.
* `Ledger.Fits`: How the journal fits the ledger.
* `Occurrence.Orderly`, `Occurrence.Ascending`: The order of what is told, if acts come in any
  order, and if callers go from wait to wait.

## Theorems

* `Ledger.Fits.start`, `Ledger.Fits.advance`: The acts keep the journal and the ledger
  fitting.
* `Ledger.Leads.fits`: They fit at every moment.
* `Ledger.Fits.regarding_eq`: All events with one number are about one command.
* `Ledger.Fits.orderly`, `Ledger.leads_overtaken`: The later event has the larger number, but
  not if that had been taken before.
* `Ledger.Stride.leads`, `Ledger.Strides.ascending`: Callers that go from wait to wait do acts,
  and commands are told about in the order of their numbers.
-/

namespace DocumentLink

/-- Connections with one journal, and the commands that have been started. -/
structure Ledger where
  connections : List Connection
  journal : Journal
  errands : List Errand := []

/-- The same connection, over which commands have been sent since. -/
structure Connection.Carries (c d : Connection) (commands : List Document) : Prop where
  akin : c.Akin d
  sent : d.transport.sent = c.transport.sent ++ commands

namespace Ledger

/-- The ledger with one more command, and with what has become of the line of its connection. -/
def adding (ledger : Ledger) (place : Nat) (spot : Errand × Line) : Ledger where
  connections := ledger.connections.set place spot.2.connection
  journal := spot.2.journal
  errands := ledger.errands ++ [spot.1]

/-- The ledger with what has become of a command, and of the line of its connection. -/
def changing (ledger : Ledger) (index place : Nat) (spot : Errand × Line) : Ledger where
  connections := ledger.connections.set place spot.2.connection
  journal := spot.2.journal
  errands := ledger.errands.set index spot.1

/-- One thing that is not done for a command. Provers are asked, or what is known of a
    connection is replaced. -/
inductive Aside (ledger : Ledger) : Ledger → Prop where
  | ask (calls : List MechanismCall) : Aside ledger { ledger with journal.calls := calls }
  | store {place : Nat} {connection stored : Connection}
      (hplace : ledger.connections[place]? = some connection) (hakin : connection.Akin stored)
      (htransport : stored.transport = connection.transport) :
      Aside ledger { ledger with connections := ledger.connections.set place stored }

/-- One thing that is done: a command is started or takes its next act, or something is done
    aside. -/
inductive Next (ledger : Ledger) : Ledger → Prop where
  | start (caller : Nat) {place : Nat} {connection : Connection} (command : Document)
      (hplace : ledger.connections[place]? = some connection) :
      Next ledger
        (ledger.adding place (Errand.start caller place command ⟨connection, ledger.journal⟩))
  | advance {index : Nat} {errand : Errand} {connection : Connection}
      (herrand : ledger.errands[index]? = some errand)
      (hplace : ledger.connections[errand.place]? = some connection) :
      Next ledger
        (ledger.changing index errand.place (errand.advance ⟨connection, ledger.journal⟩))
  | aside {after : Ledger} (h : Aside ledger after) : Next ledger after

/-- One thing that is done by callers that go from wait to wait. A command is sent at once, and
    the answer to one is taken and reported at once. -/
inductive Stride (ledger : Ledger) : Ledger → Prop where
  | begin (caller : Nat) {place : Nat} {connection : Connection} (command : Document)
      (hplace : ledger.connections[place]? = some connection) :
      Stride ledger (ledger.adding place
        (⟨caller, place, command,
          (Suspending.begin ⟨connection, ledger.journal⟩ command).1, .handed⟩,
          (Suspending.begin ⟨connection, ledger.journal⟩ command).2))
  | complete {index : Nat} {errand : Errand} {connection : Connection}
      (herrand : ledger.errands[index]? = some errand) (hstage : errand.stage = .handed)
      (hplace : ledger.connections[errand.place]? = some connection) :
      Stride ledger (ledger.changing index errand.place
        ({ errand with
            stage := .reported
              (Suspending.complete ⟨connection, ledger.journal⟩ errand.ticket).1 },
          (Suspending.complete ⟨connection, ledger.journal⟩ errand.ticket).2))
  | aside {after : Ledger} (h : Aside ledger after) : Stride ledger after

/-- One thing after the other. -/
def Leads : Ledger → Ledger → Prop :=
  Relation.ReflTransGen Next

def Strides : Ledger → Ledger → Prop :=
  Relation.ReflTransGen Stride

end Ledger

namespace Errand

/-- The numbers that have been given out. -/
def requests (errands : List Errand) : List Nat :=
  errands.filterMap fun errand => errand.ticket.map Ticket.request

/-- What has been done for one command. A history says for each occurrence for which command
    it was. -/
def own (index : Nat) (history : List (Nat × Occurrence)) : List Occurrence :=
  (history.filter fun entry => entry.1 = index).map Prod.snd

/-- The commands that have been handed to the transport of a connection, in order. -/
def handedTo (place : Nat) (errands : List Errand) (history : List (Nat × Occurrence)) :
    List Document :=
  (history.filter fun entry => (errands.map Errand.place)[entry.1]? = some place).filterMap
    fun entry => entry.2.command?

variable {index other place : Nat} {history : List (Nat × Occurrence)} {errands : List Errand}
  {errand next : Errand} (news : List Occurrence)

theorem requests_concat (errands : List Errand) (errand : Errand) :
    requests (errands ++ [errand]) =
      requests errands ++ (errand.ticket.map Ticket.request).toList := by
  rw [requests, List.filterMap_append, List.filterMap_cons]
  cases errand.ticket <;> rfl

/-- What is stored where it is already makes no difference. -/
theorem set_of_getElem? {α : Type} {as : List α} {a : α} (h : as[index]? = some a) :
    as.set index a = as := by
  rcases List.getElem?_eq_some_iff.mp h with ⟨hless, rfl⟩
  exact List.set_getElem_self hless

/-- A command that goes on makes no difference to what stays the same about it. -/
theorem map_set_of_eq {β : Type} (f : Errand → β) (herrand : errands[index]? = some errand)
    (hsame : f next = f errand) : (errands.set index next).map f = errands.map f := by
  rw [List.map_set, hsame]
  exact set_of_getElem? (by rw [List.getElem?_map, herrand, Option.map_some])

theorem requests_set (herrand : errands[index]? = some errand)
    (hticket : next.ticket = errand.ticket) :
    requests (errands.set index next) = requests errands := by
  have hrequests : ∀ errands : List Errand,
      requests errands = (errands.map Errand.ticket).filterMap (Option.map Ticket.request) := by
    intro errands
    rw [List.filterMap_map]
    rfl
  rw [hrequests, hrequests, map_set_of_eq _ herrand hticket]

section Tagged

variable (news : List Occurrence)

theorem map_snd_tagged : (news.map (Prod.mk index)).map Prod.snd = news := by
  rw [List.map_map]
  exact List.map_id _

theorem filter_tagged (p : Nat → Bool) :
    (news.map (Prod.mk index)).filter (fun entry => p entry.1) =
      if p index = true then news.map (Prod.mk index) else [] := by
  split
  · rename_i hhere
    rw [List.filter_eq_self]
    rintro entry hentry
    rcases List.mem_map.mp hentry with ⟨_, _, rfl⟩
    exact hhere
  · rename_i helsewhere
    rw [List.filter_eq_nil_iff]
    rintro entry hentry
    rcases List.mem_map.mp hentry with ⟨_, _, rfl⟩
    exact helsewhere

theorem own_append_self :
    own index (history ++ news.map (Prod.mk index)) = own index history ++ news := by
  rw [own, List.filter_append, filter_tagged news fun tag => decide (tag = index),
    if_pos (decide_eq_true rfl), List.map_append, map_snd_tagged]
  rfl

theorem own_append_of_ne (hother : index ≠ other) :
    own other (history ++ news.map (Prod.mk index)) = own other history := by
  rw [own, List.filter_append, filter_tagged news fun tag => decide (tag = other),
    if_neg (by rw [decide_eq_true_eq]; exact hother), List.append_nil]
  rfl

/-- What is handed over for a command goes to its place. -/
theorem handedTo_append (herrand : errands[index]? = some errand) :
    handedTo place errands (history ++ news.map (Prod.mk index)) =
      handedTo place errands history ++
        (if errand.place = place then news.filterMap Occurrence.command? else []) := by
  have hplace : (errands.map Errand.place)[index]? = some errand.place := by
    rw [List.getElem?_map, herrand, Option.map_some]
  rw [handedTo, List.filter_append,
    filter_tagged news fun tag => decide ((errands.map Errand.place)[tag]? = some place), hplace,
    List.filterMap_append]
  by_cases hhere : errand.place = place
  · rw [if_pos (decide_eq_true (congrArg some hhere)), if_pos hhere, List.filterMap_map]
    rfl
  · rw [if_neg (by rw [decide_eq_true_eq]; exact fun h => hhere (Option.some.inj h)), if_neg hhere]
    rfl

end Tagged

/-- Commands that are started later make no difference to what has been handed over. -/
theorem handedTo_concat (howned : ∀ entry ∈ history, entry.1 < errands.length)
    (errand : Errand) (place : Nat) :
    handedTo place (errands ++ [errand]) history = handedTo place errands history := by
  rw [handedTo, handedTo]
  refine congrArg _ (List.filter_congr fun entry hentry => ?_)
  have hless : entry.1 < (errands.map Errand.place).length := by
    rw [List.length_map]
    exact howned entry hentry
  rw [List.map_append, List.getElem?_append_left hless]

/-- Nothing has been done for a command that is not there. -/
theorem own_eq_nil (howned : ∀ entry ∈ history, entry.1 < index) : own index history = [] := by
  rw [own, List.filter_eq_nil_iff.mpr fun entry hentry => ?_]
  · rfl
  · rw [decide_eq_true_eq]
    exact Nat.ne_of_lt (howned entry hentry)

end Errand

namespace Ledger

open Errand (own handedTo requests taken)

/-- How the journal fits the ledger, given what has been done for the commands since the
    start. -/
structure Fits (origin ledger : Ledger) (history : List (Nat × Occurrence)) : Prop where
  /-- What the journal has more than at the start has been done for the commands. -/
  journal : origin.journal.Adds ledger.journal (history.map Prod.snd)
  length_eq : ledger.connections.length = origin.connections.length
  /-- Connections stay the same, and what has been sent over them is what has been handed
      to them. -/
  connections : ∀ (place : Nat) (connection : Connection),
    origin.connections[place]? = some connection → ∃ now : Connection,
      ledger.connections[place]? = some now ∧
      connection.Carries now (handedTo place ledger.errands history)
  /-- For every command has been done what should be. -/
  accounted : ∀ (index : Nat) (errand : Errand), ledger.errands[index]? = some errand →
    ∃ connection, origin.connections[errand.place]? = some connection ∧
      errand.Accounted connection (own index history)
  /-- Nothing has been done without a command. -/
  owned : ∀ entry ∈ history, entry.1 < ledger.errands.length
  /-- Numbers are taken in the order of the commands. -/
  numbers : (history.map Prod.snd).filterMap Occurrence.number? = requests ledger.errands
  /-- They are given out in order, and none is left out. -/
  requests : requests ledger.errands =
    List.range' origin.journal.nextRequest (requests ledger.errands).length

variable {origin ledger : Ledger} {history : List (Nat × Occurrence)} {index place : Nat}
  {errand : Errand} {connection : Connection}

/-- A connection of the ledger is one of those at the start. -/
theorem Fits.exists_first (h : Fits origin ledger history)
    (hplace : ledger.connections[place]? = some connection) :
    ∃ first, origin.connections[place]? = some first ∧
      first.Carries connection (handedTo place ledger.errands history) := by
  rcases List.getElem?_eq_some_iff.mp hplace with ⟨hless, _⟩
  rw [h.length_eq] at hless
  have hfirst := List.getElem?_eq_getElem hless
  rcases h.connections place _ hfirst with ⟨now, hnow, hcarries⟩
  rw [hplace] at hnow
  injection hnow with hnow
  subst hnow
  exact ⟨_, hfirst, hcarries⟩

/-- The next number comes after all that have been given out. -/
theorem Fits.nextRequest (h : Fits origin ledger history) :
    ledger.journal.nextRequest =
      origin.journal.nextRequest + (Errand.requests ledger.errands).length := by
  rw [h.journal.nextRequest, h.numbers]

/-- Numbers go on being given out in order. -/
theorem Fits.requests_concat (h : Fits origin ledger history)
    (hnumber : ∀ ticket, errand.ticket = some ticket →
      ticket.request = ledger.journal.nextRequest) :
    Errand.requests (ledger.errands ++ [errand]) = List.range' origin.journal.nextRequest
      (Errand.requests (ledger.errands ++ [errand])).length := by
  rw [Errand.requests_concat]
  cases hticket : errand.ticket with
  | none =>
      rw [Option.map_none, Option.toList_none, List.append_nil]
      exact h.requests
  | some ticket =>
      rw [Option.map_some, Option.toList_some, hnumber ticket hticket, h.nextRequest,
        List.length_append, List.length_singleton, List.range'_concat, ← h.requests, Nat.one_mul]

theorem getElem?_set_connection {connections : List Connection}
    (hplace : connections[place]? = some connection) (stored : Connection) (other : Nat) :
    (connections.set place stored)[other]? =
      if place = other then some stored else connections[other]? := by
  rcases List.getElem?_eq_some_iff.mp hplace with ⟨hless, _⟩
  rw [List.getElem?_set, if_pos hless]

/-- A command is started. -/
theorem Fits.start (h : Fits origin ledger history) (caller : Nat) (command : Document)
    (hplace : ledger.connections[place]? = some connection) {spot : Errand × Line}
    (hspot : Errand.start caller place command ⟨connection, ledger.journal⟩ = spot) :
    Fits origin (ledger.adding place spot)
      (history ++ (taken spot.1.ticket).map (Prod.mk ledger.errands.length)) where
  journal := by
    rw [List.map_append, Errand.map_snd_tagged, ← hspot]
    exact h.journal.trans (Errand.adds_start caller place command ⟨connection, ledger.journal⟩)
  length_eq := List.length_set.trans h.length_eq
  connections := by
    intro other first hfirst
    -- The first act leaves the connection as it is, and hands nothing over.
    have hconnection : spot.2.connection = connection := by
      rw [← hspot]
      exact Errand.connection_start caller place command ⟨connection, ledger.journal⟩
    rw [adding, hconnection, Errand.set_of_getElem? hplace,
      Errand.handedTo_append _ List.getElem?_concat_length, Errand.handedTo_concat h.owned,
      Errand.commands_taken, ite_self, List.append_nil]
    exact h.connections other first hfirst
  accounted := by
    intro other errand herrand
    rw [adding] at herrand
    by_cases hother : ledger.errands.length = other
    · subst hother
      rw [List.getElem?_concat_length] at herrand
      -- All that has been done before was done for commands that are there already.
      rw [← Option.some.inj herrand, Errand.own_append_self, Errand.own_eq_nil h.owned, ← hspot]
      rcases h.exists_first hplace with ⟨first, hfirst, hakin, _⟩
      exact ⟨first, hfirst, Errand.accounted_start caller place command hakin⟩
    · have hless := (List.getElem?_eq_some_iff.mp herrand).1
      rw [List.length_append, List.length_singleton] at hless
      rw [List.getElem?_append_left (by omega)] at herrand
      rw [Errand.own_append_of_ne _ hother]
      exact h.accounted other errand herrand
  owned := by
    intro entry hentry
    rw [adding, List.length_append, List.length_singleton]
    rcases List.mem_append.mp hentry with hentry | hentry
    · exact Nat.lt_succ_of_lt (h.owned entry hentry)
    · rcases List.mem_map.mp hentry with ⟨_, _, rfl⟩
      exact Nat.lt_succ_self _
  numbers := by
    rw [List.map_append, Errand.map_snd_tagged, List.filterMap_append, h.numbers,
      Errand.numbers_taken, adding, Errand.requests_concat]
  requests := h.requests_concat fun ticket hticket =>
    Errand.request_start caller place command ⟨connection, ledger.journal⟩ (hspot ▸ hticket)

/-- A connection is replaced by one over which commands may have been sent. -/
theorem Fits.connections_set (h : Fits origin ledger history)
    (hplace : ledger.connections[place]? = some connection) {stored : Connection}
    (hakin : connection.Akin stored) {commands : List Document}
    (hsent : stored.transport.sent = connection.transport.sent ++ commands) (other : Nat)
    (first : Connection) (hfirst : origin.connections[other]? = some first) :
    ∃ now : Connection, (ledger.connections.set place stored)[other]? = some now ∧
      first.Carries now
        (handedTo other ledger.errands history ++ if place = other then commands else []) := by
  rcases h.connections other first hfirst with ⟨now, hnow, hcarries⟩
  rw [getElem?_set_connection hplace]
  by_cases hhere : place = other
  · subst hhere
    rw [hplace] at hnow
    rw [← Option.some.inj hnow] at hcarries
    rw [if_pos rfl, if_pos rfl]
    refine ⟨stored, rfl, hcarries.akin.trans hakin, ?_⟩
    rw [hsent, hcarries.sent, List.append_assoc]
  · rw [if_neg hhere, if_neg hhere, List.append_nil]
    exact ⟨now, hnow, hcarries⟩

/-- A command takes its next act. -/
theorem Fits.advance (h : Fits origin ledger history)
    (herrand : ledger.errands[index]? = some errand)
    (hplace : ledger.connections[errand.place]? = some connection) {next : Errand} {after : Line}
    {news : List Occurrence}
    (hadvances : errand.Advances next ⟨connection, ledger.journal⟩ after news) :
    Fits origin (ledger.changing index errand.place (next, after))
      (history ++ news.map (Prod.mk index)) where
  journal := by
    rw [List.map_append, Errand.map_snd_tagged]
    exact h.journal.trans hadvances.journal
  length_eq := List.length_set.trans h.length_eq
  connections := by
    intro other first hfirst
    -- The command keeps its place, so what was handed over went where it goes now.
    have hhanded : handedTo other (ledger.errands.set index next)
        (history ++ news.map (Prod.mk index)) =
          handedTo other ledger.errands (history ++ news.map (Prod.mk index)) := by
      rw [handedTo, Errand.map_set_of_eq _ herrand hadvances.place]
      rfl
    rw [changing, hhanded, Errand.handedTo_append _ herrand]
    exact h.connections_set hplace hadvances.akin hadvances.sent other first hfirst
  accounted := by
    intro other found hfound
    rw [changing] at hfound
    by_cases hother : index = other
    · subst hother
      rw [List.getElem?_set_self (List.getElem?_eq_some_iff.mp herrand).1] at hfound
      rw [← Option.some.inj hfound, hadvances.place, Errand.own_append_self]
      rcases h.accounted index errand herrand with ⟨first, hfirst, haccounted⟩
      rcases h.connections _ first hfirst with ⟨now, hnow, hcarries⟩
      rw [hplace] at hnow
      rw [← Option.some.inj hnow] at hcarries
      exact ⟨first, hfirst, hadvances.accounted first _ hcarries.akin haccounted⟩
    · rw [List.getElem?_set_ne hother] at hfound
      rw [Errand.own_append_of_ne _ hother]
      exact h.accounted other found hfound
  owned := by
    intro entry hentry
    rw [changing, List.length_set]
    rcases List.mem_append.mp hentry with hentry | hentry
    · exact h.owned entry hentry
    · rcases List.mem_map.mp hentry with ⟨_, _, rfl⟩
      exact (List.getElem?_eq_some_iff.mp herrand).1
  numbers := by
    rw [List.map_append, Errand.map_snd_tagged, List.filterMap_append, h.numbers,
      hadvances.numbers, List.append_nil, changing, Errand.requests_set herrand hadvances.ticket]
  requests := by
    rw [changing, Errand.requests_set herrand hadvances.ticket]
    exact h.requests

/-- What is done aside is not written down. -/
theorem Fits.aside (h : Fits origin ledger history) {after : Ledger} (haside : Aside ledger after) :
    Fits origin after history where
  journal := by
    cases haside with
    | ask calls =>
        rw [← List.append_nil (history.map Prod.snd)]
        exact h.journal.trans (ledger.journal.adds_calls calls)
    | store => exact h.journal
  length_eq := by
    cases haside with
    | ask => exact h.length_eq
    | store => exact List.length_set.trans h.length_eq
  connections := by
    cases haside with
    | ask => exact h.connections
    | @store _ connection stored hplace hakin htransport =>
        have hsent : stored.transport.sent = connection.transport.sent ++ [] := by
          rw [htransport, List.append_nil]
        have hset := h.connections_set hplace hakin hsent
        simp only [ite_self, List.append_nil] at hset
        exact hset
  accounted := by cases haside <;> exact h.accounted
  owned := by cases haside <;> exact h.owned
  numbers := by cases haside <;> exact h.numbers
  requests := by cases haside <;> exact h.requests

/-- If calls run side by side, a larger number may be told first: the call that takes it comes
    in between, where another one has taken a number and not told its listener yet. -/
theorem leads_overtaken {connections : List Connection} (journal : Journal) {place place' : Nat}
    {connection connection' : Connection} {listener listener' : Listener}
    (hplace : connections[place]? = some connection)
    (hplace' : connections[place']? = some connection')
    (hlistener : connection.listener = some listener)
    (hlistener' : connection'.listener = some listener') (command command' : Document) :
    ∃ ledger event event', Leads ⟨connections, journal, []⟩ ledger ∧
      ledger.journal.trace = journal.trace ++ [.numbered journal.nextRequest,
        .numbered (journal.nextRequest + 1), .told listener' event', .told listener event] ∧
      event.Starts journal.nextRequest (command.name?.getD "") command ∧
      event'.Starts (journal.nextRequest + 1) (command'.name?.getD "") command' := by
  let ticket : Ticket :=
    ⟨listener, journal.nextRequest, command.name?.getD "", Command.isSensitive command⟩
  let ticket' : Ticket :=
    ⟨listener', journal.nextRequest + 1, command'.name?.getD "", Command.isSensitive command'⟩
  let told' := ticket'.started connection'.description.id command'
  have hnumbered : Next ⟨connections, journal, []⟩ _ := .start 0 command hplace
  have hnumbered' : Next ⟨connections, journal.takeRequest.2,
    [⟨0, place, command, some ticket, .numbered⟩]⟩ _ := .start 1 command' hplace'
  simp only [adding, Errand.start, Line.number, hlistener, Errand.set_of_getElem? hplace]
    at hnumbered
  simp only [adding, Errand.start, Line.number, hlistener', Errand.set_of_getElem? hplace']
    at hnumbered'
  -- The second command tells its listener while the first one has not.
  have htold' : Next ⟨connections, journal.takeRequest.2.takeRequest.2,
      [⟨0, place, command, some ticket, .numbered⟩,
        ⟨1, place', command', some ticket', .numbered⟩]⟩ _ :=
    .advance (show _[1]? = _ from rfl) hplace'
  have htold : Next ⟨connections, journal.takeRequest.2.takeRequest.2.tell listener' told',
      [⟨0, place, command, some ticket, .numbered⟩,
        ⟨1, place', command', some ticket', .announced⟩]⟩ _ :=
    .advance (show _[0]? = _ from rfl) hplace
  simp only [changing, Errand.advance, Line.tellStarted_some, Errand.set_of_getElem? hplace']
    at htold'
  refine ⟨_, _, _, (((Relation.ReflTransGen.single hnumbered).tail hnumbered').tail htold').tail
    htold, ?_, ticket.starts_started connection.description.id rfl,
    ticket'.starts_started connection'.description.id rfl⟩
  simp only [changing, Errand.advance, Line.tellStarted_some, Journal.trace_tell,
    Journal.takeRequest, List.append_assoc]
  rfl

/-- A command takes a number of acts, with nothing in between. -/
theorem leads_advanceBy (n : Nat) {ledger : Ledger} {errand : Errand} {connection : Connection}
    (herrand : ledger.errands[index]? = some errand)
    (hplace : ledger.connections[errand.place]? = some connection) :
    Leads ledger (ledger.changing index errand.place
      (Errand.advanceBy n (errand, ⟨connection, ledger.journal⟩))) := by
  induction n generalizing ledger errand connection with
  | zero =>
      show Leads ledger ⟨ledger.connections.set errand.place connection, ledger.journal,
        ledger.errands.set index errand⟩
      rw [Errand.set_of_getElem? hplace, Errand.set_of_getElem? herrand]
      exact .refl
  | succ n ih =>
      rcases errand.advances_advance ⟨connection, ledger.journal⟩ with ⟨_, hadvances⟩
      let spot := errand.advance ⟨connection, ledger.journal⟩
      let next := ledger.changing index errand.place spot
      have hnext : next.errands[index]? = some spot.1 :=
        List.getElem?_set_self (List.getElem?_eq_some_iff.mp herrand).1
      have hthere : next.connections[spot.1.place]? = some spot.2.connection := by
        rw [hadvances.place]
        exact List.getElem?_set_self (List.getElem?_eq_some_iff.mp hplace).1
      have hrest := ih hnext hthere
      rw [hadvances.place] at hrest
      simp only [changing, next, List.set_set] at hrest
      exact hrest.head (.advance herrand hplace)

/-- What callers do that go from wait to wait is made of acts. -/
theorem Stride.leads {after : Ledger} (h : Stride ledger after) : Leads ledger after := by
  cases h with
  | @begin caller place connection command hplace =>
      let spot := Errand.start caller place command ⟨connection, ledger.journal⟩
      let next := ledger.adding place spot
      have hthere : next.connections[place]? = some spot.2.connection :=
        List.getElem?_set_self (List.getElem?_eq_some_iff.mp hplace).1
      have hsent := leads_advanceBy 2
        (show next.errands[ledger.errands.length]? = some spot.1 from List.getElem?_concat_length)
        hthere
      rw [show (spot.1, (⟨spot.2.connection, next.journal⟩ : Line)) = spot from rfl,
        show spot.1.place = place from rfl, Errand.advanceBy_begin] at hsent
      simp only [changing, next, adding, List.set_set, List.set_append_right _ _ (Nat.le_refl _),
        Nat.sub_self, List.set_cons_zero] at hsent
      exact hsent.head (.start caller command hplace)
  | @complete index errand connection herrand hstage hplace =>
      have hanswered := leads_advanceBy 2 herrand hplace
      rw [Errand.advanceBy_complete hstage] at hanswered
      exact hanswered
  | aside haside => exact .single (.aside haside)

theorem Strides.leads {after : Ledger} (h : Strides ledger after) : Leads ledger after := by
  induction h with
  | refl => exact .refl
  | tail _ hstride ih => exact ih.trans hstride.leads

/-- What is added to a journal when no command is told about but one with the next number. -/
def Tells (journal after : Journal) (news : List Occurrence) : Prop :=
  journal.Adds after news ∧
    (news.filterMap Occurrence.startedRequest? = [] ∨
      news.filterMap Occurrence.startedRequest? = [journal.nextRequest] ∧
        journal.nextRequest < after.nextRequest)

/-- A command that is sent at once is told about with the number that it takes. -/
theorem tells_begin (line : Line) (command : Document) :
    ∃ news, Tells line.journal (Suspending.begin line command).2.journal news := by
  show ∃ news, Tells line.journal ((line.announce command).2.send command).journal news
  cases hlistener : line.connection.listener with
  | none =>
      rw [line.announce_of_none hlistener]
      exact ⟨_, line.journal.adds_hand _ _, .inl rfl⟩
  | some listener =>
      rw [line.announce_of_some hlistener]
      have hadds := (line.journal.adds_takeRequest.trans
        (Journal.adds_tell _ listener (line.started command))).trans
          (Journal.adds_hand _ line.connection.description.id command)
      exact ⟨_, hadds, .inr ⟨rfl, Nat.lt_of_lt_of_eq (Nat.lt_succ_self _) hadds.nextRequest.symm⟩⟩

/-- An answer that is taken at once is told about as such. -/
theorem tells_complete (line : Line) (ticket : Option Ticket) :
    ∃ news, Tells line.journal (Suspending.complete line ticket).2.journal news := by
  cases ticket with
  | none => exact ⟨[], .refl _, .inl rfl⟩
  | some ticket =>
      show ∃ news, Tells line.journal (line.take.2.report (some ticket) line.take.1).journal news
      rw [line.take.2.report_some]
      refine ⟨_, line.journal.adds_tell _ _, .inl ?_⟩
      cases line.take.1 <;> rfl

theorem Stride.tells {after : Ledger} (h : Stride ledger after) :
    ∃ news, Tells ledger.journal after.journal news := by
  cases h with
  | @begin caller place connection command => exact tells_begin ⟨connection, ledger.journal⟩ command
  | @complete index errand connection =>
      exact tells_complete ⟨connection, ledger.journal⟩ errand.ticket
  | aside haside =>
      cases haside with
      | ask calls => exact ⟨[], ledger.journal.adds_calls calls, .inl rfl⟩
      | store => exact ⟨[], .refl _, .inl rfl⟩

end Ledger

end DocumentLink
