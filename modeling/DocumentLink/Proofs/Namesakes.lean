import DocumentLink.Proofs.Counterparts
import DocumentLink.Proofs.Moves

/-!
# Namesakes

Two connections that differ in nothing but the number that the client has counted up
for them. They are opened in the same way, and their listeners are told the same, but
for the local value and the numbers of the commands.

The numbers of commands are given out to all connections, so what matters of them is
which events share one. `Event.uncounted` puts in the place of each number the place
of the first event that has it, and events are the same up to their numbers if they
are the same then.

An opening that waits has told a part of its events already, and other openings may
tell theirs before it goes on. That is why the likeness carries for each side what the
journal held at some moment, and what had been told of the connection until then. What
is left of an opening then does not depend on what others have written in between.

## Main definitions

* `Opened.uncounted`, `Connection.uncounted`, `Event.uncounted`: Without the numbers.
* `Journal.Recounts`: What has been told of a connection in all.
* `Line.Namesakes`, `Likeness.namesakes`: The likeness of openings of namesakes.
* `Likeness.Receives`: The answer to a command is the same at two desks.

## Theorems

* `Event.uncounted_append`: Events with a new number are numbered by their place.
* `Line.Namesakes.trans`: A chain of namesakes, each beginning where another has come to.
* `Likeness.ends_rest`: What is left of an opening keeps a likeness.
-/

namespace DocumentLink

/-- The result without the number of the connection. -/
def Opened.uncounted (o : Opened) : Opened :=
  { o with connection := o.connection.anonymous }

/-- The connection without its number. -/
def Connection.uncounted (c : Connection) : Connection :=
  { c with description := c.description.anonymous }

namespace Event

/-- The event with a number in the place of its own, and without that of its connection. -/
def recast (request : Nat) : Event → Event
  | started _ connection database name command =>
    .started request connection.anonymous database name command
  | succeeded _ connection name reply => .succeeded request connection.anonymous name reply
  | failed _ connection name e => .failed request connection.anonymous name e

/-- Events without what was counted: each is numbered by the first event that shares its
    number. -/
def uncounted (told : List Event) : List Event :=
  told.map fun event => event.recast (told.findIdx fun other => other.request = event.request)

variable {told news : List Event} {request : Nat}

theorem length_uncounted (told : List Event) : (uncounted told).length = told.length :=
  List.length_map _

/-- Events that share a number not told before are numbered by the place of the first. -/
theorem uncounted_append (hfresh : ∀ event ∈ told, event.request ≠ request)
    (hnews : ∀ event ∈ news, event.request = request) :
    uncounted (told ++ news) = uncounted told ++ news.map (recast told.length) := by
  rw [uncounted, List.map_append]
  refine congr (congrArg _ (List.map_congr_left fun event hevent => ?_))
    (List.map_congr_left fun event hevent => ?_)
  · -- An event that was told before has its first companion among those.
    have hfound : told.findIdx (fun other => other.request = event.request) < told.length :=
      List.findIdx_lt_length_of_exists ⟨event, hevent, decide_eq_true rfl⟩
    rw [List.findIdx_append, if_pos hfound]
  · have hnot : told.findIdx (fun other => other.request = event.request) = told.length := by
      refine List.findIdx_eq_length.mpr fun other hother => decide_eq_false ?_
      rw [hnews event hevent]
      exact hfresh other hother
    have hfirst : news.findIdx (fun other => other.request = event.request) = 0 := by
      cases news with
      | nil => cases hevent
      | cons first rest =>
          rw [List.findIdx_cons, decide_eq_true ((hnews first List.mem_cons_self).trans
            (hnews event hevent).symm)]
          rfl
    rw [List.findIdx_append, hnot, if_neg (Nat.lt_irrefl _), hfirst, Nat.zero_add]

end Event

/-- What a reply teaches depends on the connection, but not on its number. -/
theorem Opened.uncounted_ofReply (c : Connection) (reply : Document) :
    (Opened.ofReply c reply).uncounted = .ofReply c.uncounted reply := by
  rw [Opened.ofReply, Opened.uncounted, ConnectionDescription.anonymous_ofReply]
  rfl

theorem Connection.uncounted_settle (c : Connection) (result : Except Error Opened) :
    (c.settle result).uncounted = c.uncounted.settle (result.map Opened.uncounted) := by
  cases result <;> rfl

/-- What has been told of a connection in all, if something had been told when the journal
    held certain events, and only that connection has been told of since. -/
structure Journal.Recounts (base earlier : List Event) (journal : Journal) (told : List Event) :
    Prop where
  since : ∃ news, journal.events = base ++ news ∧ told = earlier ++ news
  /-- The next number has not been told yet. -/
  fresh : ∀ event ∈ told, event.request < journal.nextRequest

theorem Journal.Recounts.note {base earlier told : List Event} {journal : Journal}
    (h : journal.Recounts base earlier told) (observed : Bool) (call : MechanismCall) :
    (journal.note observed call).Recounts base earlier told := by
  cases observed <;> exact ⟨h.since, h.fresh⟩

namespace Line

/-- What an exchange tells a listener, if there is one that keeps it. -/
def tells (line : Line) (command : Document) : List Event :=
  if line.connection.listener = some .recording then
    line.told command line.connection.transport.take.1
  else []

variable {base earlier base' earlier' told : List Event} {line x y : Line}

theorem request_of_mem_tells {command : Document} {event : Event}
    (h : event ∈ line.tells command) :
    event.request = line.journal.nextRequest ∧ line.connection.listener ≠ none := by
  rw [tells] at h
  split at h
  · rename_i hlistener
    refine ⟨?_, by rw [hlistener]; exact Option.some_ne_none _⟩
    simp only [Line.told, List.mem_cons, List.not_mem_nil, or_false] at h
    rcases h with rfl | rfl
    · rfl
    · cases line.connection.transport.take.1 <;> rfl
  · cases h

theorem recounts_exchange (h : line.journal.Recounts base earlier told) (command : Document) :
    (Blocking.exchange line command).2.journal.Recounts base earlier
      (told ++ line.tells command) := by
  rcases line.journal_exchange command with ⟨hevents, hrequest⟩
  rcases h with ⟨⟨news, hbase, rfl⟩, hfresh⟩
  refine ⟨⟨news ++ line.tells command, ?_, List.append_assoc ..⟩, fun event hevent => ?_⟩
  · rw [hevents, hbase, List.append_assoc]
    rfl
  · rw [hrequest]
    rcases List.mem_append.mp hevent with hevent | hevent
    · exact Nat.lt_of_lt_of_le (hfresh event hevent) (Nat.le_add_right _ _)
    · rcases request_of_mem_tells hevent with ⟨hown, hlistener⟩
      rw [hown, if_neg hlistener]
      exact Nat.lt_succ_self _

/-- Two lines of namesakes of which the same has been told. -/
structure Namesakes (base earlier base' earlier' : List Event) (x y : Line) : Prop where
  connection : x.connection.uncounted = y.connection.uncounted
  told : ∃ told told', x.journal.Recounts base earlier told ∧
    y.journal.Recounts base' earlier' told' ∧ Event.uncounted told = Event.uncounted told'

namespace Namesakes

theorem congr {α : Type} (h : Namesakes base earlier base' earlier' x y) (f : Connection → α)
    (hf : ∀ c : Connection, f c = f c.uncounted) : f x.connection = f y.connection := by
  rw [hf, hf y.connection, h.connection]

theorem answer_eq (h : Namesakes base earlier base' earlier' x y) :
    x.connection.transport.take.1 = y.connection.transport.take.1 :=
  h.congr (fun c => c.transport.take.1) fun _ => rfl

/-- An exchange tells the same of both. -/
theorem exchange (h : Namesakes base earlier base' earlier' x y) (command : Document) :
    Namesakes base earlier base' earlier' (Blocking.exchange x command).2
      (Blocking.exchange y command).2 := by
  rcases h.told with ⟨told, told', htold, htold', hsame⟩
  have hlength : told.length = told'.length := by
    rw [← Event.length_uncounted, hsame, Event.length_uncounted]
  have hid : x.connection.description.id.anonymous = y.connection.description.id.anonymous :=
    h.congr (fun c => c.description.id.anonymous) fun _ => rfl
  -- Both have new numbers for what they tell, and as much has been told before.
  have htells : (x.tells command).map (Event.recast told.length) =
      (y.tells command).map (Event.recast told'.length) := by
    rw [tells, tells, h.congr Connection.listener fun _ => rfl, h.answer_eq, hlength]
    split
    · simp only [Line.told, List.map_cons, List.map_nil, Event.recast, hid]
      cases y.connection.transport.take.1 <;> simp only [hid]
    · rfl
  have hnews : ∀ {line : Line} {before : List Event} {base earlier : List Event},
      line.journal.Recounts base earlier before →
      Event.uncounted (before ++ line.tells command) =
        Event.uncounted before ++ (line.tells command).map (Event.recast before.length) := by
    intro line before base earlier hbefore
    exact Event.uncounted_append (fun event hevent => Nat.ne_of_lt (hbefore.fresh event hevent))
      fun event hevent => (request_of_mem_tells hevent).1
  refine ⟨?_, _, _, recounts_exchange htold command, recounts_exchange htold' command, ?_⟩
  · rw [connection_exchange, connection_exchange]
    exact congrArg (fun c : Connection =>
      { c with transport := (c.transport.send command).take.2 }) h.connection
  · rw [hnews htold, hnews htold', hsame, htells]

/-- A chain of namesakes. The first pair begins where the line in the middle has come to in
    the second. -/
theorem trans {middle : Line} {news : List Event}
    (h : Namesakes base earlier (base' ++ news) (earlier' ++ news) x middle)
    {start first : List Event} (h' : Namesakes base' earlier' start first middle y) :
    Namesakes base earlier start first x y := by
  rcases h.told with ⟨told, _, htold, ⟨⟨rest, hrest, rfl⟩, _⟩, hsame⟩
  rcases h'.told with ⟨_, told', ⟨⟨all, hall, rfl⟩, _⟩, htold', hsame'⟩
  -- The second pair begins earlier, so its events in the middle are those of the first and
  -- the ones before.
  have heq : all = news ++ rest := by
    rw [hall, List.append_assoc] at hrest
    exact List.append_cancel_left hrest
  refine ⟨h.connection.trans h'.connection, told, told', htold, htold', hsame.trans ?_⟩
  rw [← hsame', heq, List.append_assoc]

end Namesakes

end Line

namespace Likeness

/-- The likeness of openings of namesakes: they send the same commands, meet the same
    errors, learn the same and have the same told. -/
def namesakes (base earlier base' earlier' : List Event) : Likeness where
  lines := Line.Namesakes base earlier base' earlier'
  commands := Eq
  errors := Eq
  data := Eq
  counts _ _ := True
  opened o o' := o.uncounted = o'.uncounted
  address_eq h := h.congr Connection.address fun _ => rfl
  note {x y} observed observed' call call' h := by
    rcases h.told with ⟨told, told', htold, htold', hsame⟩
    exact ⟨h.connection, told, told', htold.note observed call, htold'.note observed' call',
      hsame⟩
  answer_eq h _ := by
    rw [Blocking.exchange_fst, Blocking.exchange_fst, h.answer_eq]
  exchange h hcommand := hcommand ▸ h.exchange _
  ofReply reply h := by
    rw [Opened.uncounted_ofReply, Opened.uncounted_ofReply, h.connection]
  enter h := ⟨congrArg (fun c : Connection => { c with stage := .initializing }) h.connection,
    h.told⟩
  settle {x y r r'} h hresult := by
    have hsame : r.map Opened.uncounted = r'.map Opened.uncounted := by
      cases hresult with
      | ok hopened => exact congrArg Except.ok hopened
      | error herror => exact congrArg Except.error herror
    refine ⟨?_, h.told⟩
    rw [Connection.uncounted_settle, Connection.uncounted_settle, h.connection, hsame]
  errors_refl _ := rfl
  kind_eq h := congrArg Error.kind h
  count _ := trivial
  serverType_eq h := congrArg (fun o => o.connection.serverType) h
  negotiated_eq h := congrArg (fun o => o.connection.negotiated) h
  needsProbe_eq h := congrArg (fun o => o.connection.id.serverValue.isNone) h
  withServerValue n h := congrArg (fun o => Opened.withServerValue o n) h

theorem exact_namesakes (base earlier base' earlier' : List Event) :
    (namesakes base earlier base' earlier').Exact where
  commands_refl _ := rfl
  errors_eq := rfl
  data_eq := rfl
  opened_refl _ := rfl

variable {l : Likeness} {setup : Setup} {desk desk' : Desk} {ticket : Option Ticket}

/-- The answer to a command that is on its way is the same at two desks, and they are alike
    once it has been taken. -/
structure Receives (l : Likeness) (ticket : Option Ticket) (desk desk' : Desk) : Prop where
  answer : (Suspending.complete desk.line ticket).1 = (Suspending.complete desk'.line ticket).1
  desks : l.Desks (Suspending.answered desk ticket) (Suspending.answered desk' ticket)
  speculation : desk.speculation = desk'.speculation

theorem ends_receive (h : l.Receives ticket desk desk') :
    l.Ends Eq ((Suspending.receive ticket).runAt desk)
      ((Suspending.receive ticket).runAt desk') := by
  refine ⟨?_, h.desks⟩
  have haddress : (Suspending.complete desk.line ticket).2.connection.address =
      (Suspending.complete desk'.line ticket).2.connection.address := h.desks.address_eq
  show Paired l.errors Eq ((Suspending.complete desk.line ticket).1.bind fun reply =>
      reply.checked (Suspending.complete desk.line ticket).2.connection.address)
    ((Suspending.complete desk'.line ticket).1.bind fun reply =>
      reply.checked (Suspending.complete desk'.line ticket).2.connection.address)
  rw [haddress, h.answer]
  exact .refl l.errors_refl _

theorem Ends.settled {act act' : Act Opened}
    (h : l.Ends l.opened (act.runAt desk) (act'.runAt desk')) :
    l.Ends l.opened (act.settled.runAt desk) (act'.settled.runAt desk') :=
  ⟨h.result, l.settle h.desks.line h.result, h.desks.created⟩

section Rest

variable (hexact : l.Exact)
include hexact

theorem running_alike (running : Prover.Running) : running.Alike l running :=
  ⟨running.prover.alike_of_exact hexact, rfl⟩

/-- With the same kept of a speculation there is the same to go on with. -/
theorem resumable_refl (speculation : Speculation) : l.Resumable speculation speculation := by
  rw [Resumable]
  cases speculation.takeResumable.1 with
  | none => exact .none
  | some both => exact .some ⟨running_alike hexact both.1, rfl⟩

/-- What is left of a conversation keeps a likeness. No prover is made for it, so its
    provider does not matter. -/
theorem ends_talk (talk : Suspending.Talk) (h : l.Receives talk.ticket desk desk') :
    l.Ends Eq (talk.rest.runAt desk) (talk.rest.runAt desk') := by
  refine .mapError (authenticating (talk.login.credential.alike_of_exact hexact)) ?_
  refine (ends_receive h).bind ?_
  rintro document _ answered answered' rfl hanswered
  refine (ends_ofResult (Sasl.Reply.read document) hanswered).bind ?_
  rintro reply _ next next' rfl hnext
  refine ends_converse (fun conversation hdata => ?_) (running_alike hexact talk.running) reply
    hnext
  rw [hexact.data_eq] at hdata
  rw [hdata]
  exact hexact.commands_refl _

theorem ends_authenticating (waiting : Suspending.Authenticating)
    (h : l.Receives waiting.ticket desk desk') :
    l.Ends Eq (waiting.rest.runAt desk) (waiting.rest.runAt desk') := by
  cases waiting with
  | conversation talk => exact ends_talk hexact talk h
  | certificate credential ticket =>
      refine .mapError (authenticating (credential.alike_of_exact hexact)) ?_
      refine (ends_receive h).bind ?_
      intro _ _ next next' _ hnext
      exact ⟨.ok rfl, hnext⟩

theorem handshakeFailure_alike (setup : Setup) (e e' : Error) (h : l.errors e e') :
    l.errors (setup.handshakeFailure e) (setup.handshakeFailure e') := by
  rw [hexact.errors_eq] at h ⊢
  rw [h]

/-- Once a reply to the handshake is there, what is learned is alike, and the same is kept of
    a speculation. -/
theorem ends_learned (hsetup : setup.Alike l setup) (reply : Document) (hdesks : l.Desks desk desk')
    (hkept : desk.speculation = desk'.speculation) :
    let learned : Act Opened := do
      let opened ← setup.learn reply
      Blocking.acquaint setup opened
    l.Ends l.opened (learned.runAt desk) (learned.runAt desk') := by
  show l.Ends l.opened
    ((Blocking.acquaint setup ((setup.learn reply).run desk).1).runAt
      ((setup.learn reply).run desk).2)
    ((Blocking.acquaint setup ((setup.learn reply).run desk').1).runAt
      ((setup.learn reply).run desk').2)
  have hopened := l.ofReply reply hdesks.line
  rw [Setup.run_learn, Setup.run_learn]
  split
  · refine ends_acquaint hsetup hopened ?_ (hdesks.keeping _ _)
    rw [← hkept]
    exact resumable_refl hexact _
  · refine ends_acquaint hsetup hopened ?_ hdesks
    rw [← hkept]
    exact resumable_refl hexact _

/-- What is left of an opening that waits keeps a likeness. -/
theorem ends_rest (hsetup : setup.Alike l setup) (waiting : Suspending.Waiting)
    (h : l.Receives waiting.ticket desk desk') :
    l.Ends l.opened ((waiting.rest setup).runAt desk) ((waiting.rest setup).runAt desk') := by
  refine Ends.settled ?_
  cases waiting with
  | probe opened ticket =>
      have hanswered : l.Ends Eq ((Suspending.receive ticket).runAt desk)
          ((Suspending.receive ticket).runAt desk') := ends_receive h
      refine ⟨.ok ?_, hanswered.desks⟩
      show l.opened (opened.applyProbe ((Suspending.receive ticket).runAt desk).1)
        (opened.applyProbe ((Suspending.receive ticket).runAt desk').1)
      have hresult := hanswered.result
      generalize ((Suspending.receive ticket).runAt desk).1 = result at hresult ⊢
      generalize ((Suspending.receive ticket).runAt desk').1 = result' at hresult ⊢
      cases hresult with
      | ok hdocument => exact hdocument ▸ applyProbe (hexact.opened_refl opened) _
      | error _ => exact hexact.opened_refl opened
  | authentication opened waiting =>
      refine (ends_authenticating hexact waiting h).bind ?_
      intro _ _ next next' _ hnext
      exact ends_probe hsetup (hexact.opened_refl opened) hnext
  | handshake ticket =>
      -- Taking the reply leaves the speculation alone, which `Ends` says nothing about.
      rw [Suspending.Waiting.work, Act.runAt_bind, Act.runAt_bind]
      have hreceived : l.Ends Eq ((Suspending.receive ticket).runAt desk)
          ((Suspending.receive ticket).runAt desk') := ends_receive h
      have hanswered := hreceived.mapError (handshakeFailure_alike hexact setup)
      have hkept : ((Act.mapError setup.handshakeFailure
          (Suspending.receive ticket)).runAt desk).2.speculation =
          ((Act.mapError setup.handshakeFailure
            (Suspending.receive ticket)).runAt desk').2.speculation := h.speculation
      generalize (Act.mapError setup.handshakeFailure (Suspending.receive ticket)).runAt desk =
        outcome at hanswered hkept ⊢
      generalize (Act.mapError setup.handshakeFailure (Suspending.receive ticket)).runAt desk' =
        outcome' at hanswered hkept ⊢
      rcases outcome with ⟨result, answered⟩
      rcases outcome' with ⟨result', answered'⟩
      rcases hanswered with ⟨hresult, hdesks⟩
      cases hresult with
      | error herror => exact ⟨.error herror, hdesks⟩
      | @ok reply _ hreply =>
          subst hreply
          exact ends_learned hexact hsetup reply hdesks hkept

end Rest

end Likeness

end DocumentLink
