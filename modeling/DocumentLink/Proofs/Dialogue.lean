import DocumentLink.Proofs.Commands
import DocumentLink.Proofs.Conversation
import DocumentLink.Proofs.Modes

/-!
# Conversations Reply by Reply

A conversation told from the replies it gets, by their number. Where the replies
come from is settled first: the `i`-th one is in the `i`-th answer of the
transport, or one place earlier if the conversation goes on from a reply that is
there already. A function from numbers to replies or failures is then all that
the rest needs.

The prover answers replies for as long as they come, are not done and have an
answer. At the first one where this fails the conversation stops, in one of three
ways. How many were answered before is determined by the replies and the prover
alone, so that what comes of the conversation is too, and the conditions under
which it ends well can be read off without running it.

## Main definitions

* `Sasl.Reply.WrittenIn`: What a document has to say to hold a reply.
* `Sasl.Arrives`: Where the document with the `i`-th reply comes from.
* `Sasl.hearing`: The `i`-th reply, or the failure that comes in its place.
* `Prover.Answers`: The replies that a prover answers, and its answers.
* `Prover.Stops`: How a conversation stops after these.
* `Login.Dialogue`: What is left of a conversation.

## Theorems

* `Sasl.hearing_eq_ok_iff`: When there is an `i`-th reply.
* `Prover.Stops.unique`: What a conversation comes to is determined.
* `Login.Converses.rounds`: The course of a conversation, reply by reply.
* `Mode.converse_dialogue`: Every conversation ends, and leaves just this behind.
-/

namespace DocumentLink

namespace Sasl

/-- A document says what a reply says: it names the conversation, its data can be
    decoded, and it may say that this is all. -/
structure Reply.WrittenIn (reply : Reply) (document : Document) : Prop where
  conversation_eq : document.get? conversationKey = some reply.conversation
  payload_eq : document.bytes payloadKey = .ok reply.payload
  done_eq : document.flag "done" = reply.done

/-- A document is read as the reply that is written in it. -/
theorem Reply.read_eq_ok_iff {document : Document} {reply : Reply} :
    Reply.read document = .ok reply ↔ reply.WrittenIn document := by
  rw [Reply.read]
  constructor
  · intro h
    cases hconversation : document.get? conversationKey with
    | none =>
        rw [hconversation] at h
        simp only [reduceCtorEq] at h
    | some conversation =>
        rw [hconversation] at h
        cases hpayload : document.bytes payloadKey with
        | error e =>
            rw [hpayload] at h
            simp only [Except.map, reduceCtorEq] at h
        | ok payload =>
            simp only [hpayload, Except.map, Except.ok.injEq] at h
            subst h
            exact ⟨hconversation, hpayload, rfl⟩
  · rintro ⟨hconversation, hpayload, hdone⟩
    rw [hconversation]
    simp only [hpayload, hdone, Except.map]

/-- The document with the `i`-th reply has come. The one that a conversation goes on
    from is there already, whatever else it reports. Every other one is an answer of
    the transport, and reports success. -/
def Arrives (resumed : Option Document) (transport : Transport) (i : Nat)
    (document : Document) : Prop :=
  match resumed, i with
  | some given, 0 => document = given
  | some _, i + 1 => transport.answers[i]? = some (.ok document) ∧ document.isOk = true
  | none, i => transport.answers[i]? = some (.ok document) ∧ document.isOk = true

/-- The `i`-th reply of a conversation, or the failure that comes in its place. -/
def hearing (resumed : Option Document) (transport : Transport) (i : Nat) : Except Error Reply :=
  match resumed, i with
  | some given, 0 => Reply.read given
  | some _, i + 1 => heard transport.address (transport.answer i)
  | none, i => heard transport.address (transport.answer i)

theorem heard_answer_eq_ok_iff {transport : Transport} {i : Nat} {reply : Reply} :
    heard transport.address (transport.answer i) = .ok reply ↔
      ∃ document, (transport.answers[i]? = some (.ok document) ∧ document.isOk = true) ∧
        reply.WrittenIn document := by
  rw [heard_eq_ok]
  simp only [Transport.answer_eq_ok_iff, Reply.read_eq_ok_iff, and_assoc]

theorem lt_of_heard_answer {transport : Transport} {i : Nat} {reply : Reply}
    (h : heard transport.address (transport.answer i) = .ok reply) :
    i < transport.answers.length := by
  rcases heard_answer_eq_ok_iff.mp h with ⟨document, ⟨hanswer, _⟩, _⟩
  exact (List.getElem?_eq_some_iff.mp hanswer).1

/-- There is an `i`-th reply if a document has come that it is written in. -/
theorem hearing_eq_ok_iff {resumed : Option Document} {transport : Transport} {i : Nat}
    {reply : Reply} :
    hearing resumed transport i = .ok reply ↔
      ∃ document, Arrives resumed transport i document ∧ reply.WrittenIn document := by
  cases resumed with
  | none => exact heard_answer_eq_ok_iff
  | some given =>
      cases i with
      | zero =>
          simp only [hearing, Arrives, exists_eq_left]
          exact Reply.read_eq_ok_iff
      | succ i => exact heard_answer_eq_ok_iff

/-- The data of replies, in order. -/
def payloads (replies : List Reply) : List Bytes :=
  replies.map Reply.payload

end Sasl

namespace Prover

/-- The prover answers the first replies, after some challenges from before: they all
    come, none of them is done, and there is data to answer each. -/
structure Answers (prover : Prover) (past : List Bytes) (hearing : Nat → Except Error Sasl.Reply)
    (replies : List Sasl.Reply) (data : List Bytes) : Prop where
  length_eq : data.length = replies.length
  heard : ∀ i reply, replies[i]? = some reply → hearing i = .ok reply
  undone : ∀ reply ∈ replies, reply.done = false
  answered : ∀ i bytes, data[i]? = some bytes →
    prover.answer (past ++ Sasl.payloads (replies.take (i + 1))) = .ok bytes

/-- The conversation stops after the replies that were answered, and this is what it
    comes to. -/
inductive Stops (prover : Prover) (past : List Bytes) (hearing : Nat → Except Error Sasl.Reply)
    (replies : List Sasl.Reply) : Except Error Unit → Prop where
  /-- There is no next reply. -/
  | lost {e} (hlost : hearing replies.length = .error e) :
      Stops prover past hearing replies (.error e)
  /-- The prover has no answer to the next reply. -/
  | stuck {reply e} (hheard : hearing replies.length = .ok reply) (hundone : reply.done = false)
      (hanswer : prover.answer (past ++ Sasl.payloads (replies ++ [reply])) = .error e) :
      Stops prover past hearing replies (.error e)
  /-- The next reply is done, and the prover has the last word. -/
  | finished {reply} (hheard : hearing replies.length = .ok reply) (hdone : reply.done = true) :
      Stops prover past hearing replies
        (prover.accept (past ++ Sasl.payloads replies) reply.payload)

variable {prover : Prover} {past : List Bytes} {hearing : Nat → Except Error Sasl.Reply}
  {replies others : List Sasl.Reply} {data more : List Bytes} {own other : Except Error Unit}

theorem Answers.nil : prover.Answers past hearing [] [] where
  length_eq := rfl
  heard i reply h := by simp only [List.getElem?_nil, reduceCtorEq] at h
  undone reply h := by simp only [List.not_mem_nil] at h
  answered i bytes h := by simp only [List.getElem?_nil, reduceCtorEq] at h

/-- One more reply that is answered, before all the others. -/
theorem Answers.cons {reply : Sasl.Reply} {bytes : Bytes} (hheard : hearing 0 = .ok reply)
    (hundone : reply.done = false) (hanswer : prover.answer (past ++ [reply.payload]) = .ok bytes)
    (rest : prover.Answers (past ++ [reply.payload]) (fun i => hearing (i + 1)) replies data) :
    prover.Answers past hearing (reply :: replies) (bytes :: data) where
  length_eq := congrArg (· + 1) rest.length_eq
  heard i next h := by
    cases i with
    | zero =>
        simp only [List.getElem?_cons_zero, Option.some.injEq] at h
        exact h ▸ hheard
    | succ i => exact rest.heard i next h
  undone next h := by
    rcases List.mem_cons.mp h with rfl | h
    · exact hundone
    · exact rest.undone next h
  answered i next h := by
    cases i with
    | zero =>
        simp only [List.getElem?_cons_zero, Option.some.injEq] at h
        exact h ▸ hanswer
    | succ i =>
        have hrest := rest.answered i next h
        rw [List.append_assoc] at hrest
        exact hrest

/-- How the conversation stops after one more reply, before all the others. -/
theorem Stops.cons {reply : Sasl.Reply}
    (rest : prover.Stops (past ++ [reply.payload]) (fun i => hearing (i + 1)) replies own) :
    prover.Stops past hearing (reply :: replies) own := by
  have hpast : ∀ later, past ++ [reply.payload] ++ Sasl.payloads later =
      past ++ Sasl.payloads (reply :: later) :=
    fun later => List.append_assoc past [reply.payload] (Sasl.payloads later)
  cases rest with
  | lost hlost => exact .lost hlost
  | stuck hheard hundone hanswer =>
      rw [hpast] at hanswer
      exact .stuck hheard hundone hanswer
  | finished hheard hdone =>
      rw [hpast]
      exact .finished hheard hdone

/-- Replies that are answered are the first ones that come. -/
theorem Answers.eq_take (h : prover.Answers past hearing replies data)
    (hmore : prover.Answers past hearing others more) (hle : replies.length ≤ others.length) :
    replies = others.take replies.length := by
  refine List.ext_getElem (by rw [List.length_take]; omega) fun i hi hi' => ?_
  have hfirst := h.heard i replies[i] (List.getElem?_eq_getElem hi)
  have hsecond := hmore.heard i others[i] (List.getElem?_eq_getElem (by omega))
  rw [hfirst] at hsecond
  injection hsecond with hsecond
  rw [hsecond, List.getElem_take]

/-- A conversation does not stop at a reply that is answered. -/
theorem Answers.not_stops (h : prover.Answers past hearing replies data)
    (hmore : prover.Answers past hearing others more) (hlt : replies.length < others.length) :
    ¬ prover.Stops past hearing replies own := by
  have hheard := hmore.heard _ _ (List.getElem?_eq_getElem hlt)
  have hundone := hmore.undone _ (List.getElem_mem hlt)
  have hmoreLength := hmore.length_eq
  have hanswered := hmore.answered replies.length more[replies.length]
    (List.getElem?_eq_getElem (by omega))
  rw [List.take_succ_eq_append_getElem hlt, ← h.eq_take hmore (Nat.le_of_lt hlt)] at hanswered
  -- The reply after these is one of the others: it came, it was not done, it had an answer.
  intro hstops
  cases hstops with
  | lost hlost =>
      rw [hlost] at hheard
      simp only [reduceCtorEq] at hheard
  | stuck hreply _ hanswer =>
      rw [hreply] at hheard
      injection hheard with hheard
      rw [← hheard, hanswer] at hanswered
      simp only [reduceCtorEq] at hanswered
  | finished hreply hdone =>
      rw [hreply] at hheard
      injection hheard with hheard
      rw [← hheard, hdone] at hundone
      simp only [reduceCtorEq] at hundone

/-- After the same replies a conversation stops in one way. -/
theorem Stops.eq (h : prover.Stops past hearing replies own)
    (h' : prover.Stops past hearing replies other) : own = other := by
  cases h <;> cases h' <;> simp_all only [Except.ok.injEq, Except.error.injEq, reduceCtorEq,
    Bool.false_eq_true, Bool.true_eq_false]

/-- What a conversation comes to is determined by the replies and the prover. -/
theorem Stops.unique (h : prover.Answers past hearing replies data)
    (hstops : prover.Stops past hearing replies own)
    (h' : prover.Answers past hearing others more)
    (hstops' : prover.Stops past hearing others other) : own = other := by
  -- The shorter of two runs would stop at a reply that the longer one answers.
  rcases Nat.lt_trichotomy replies.length others.length with hlt | heq | hgt
  · exact absurd hstops (h.not_stops h' hlt)
  · have hsame := h.eq_take h' (Nat.le_of_eq heq)
    rw [heq, List.take_length] at hsame
    rw [hsame] at hstops
    exact hstops.eq hstops'
  · exact absurd hstops' (h'.not_stops h hgt)

/-- The conversation comes to a good end if the next reply is done and accepted. -/
theorem stops_ok_iff :
    prover.Stops past hearing replies (.ok ()) ↔
      ∃ reply, hearing replies.length = .ok reply ∧ reply.done = true ∧
        prover.accept (past ++ Sasl.payloads replies) reply.payload = .ok () := by
  constructor
  · intro h
    generalize hown : (Except.ok () : Except Error Unit) = own at h ⊢
    cases h with
    | lost _ => simp only [reduceCtorEq] at hown
    | stuck _ _ _ => simp only [reduceCtorEq] at hown
    | finished hheard hdone => exact ⟨_, hheard, hdone, rfl⟩
  · rintro ⟨reply, hheard, hdone, haccept⟩
    rw [← haccept]
    exact .finished hheard hdone

/-- What the prover is asked at a reply. -/
def Running.call (running : Running) (reply : Sasl.Reply) : MechanismCall :=
  if reply.done then .success running.number reply.payload
  else .challenge running.number reply.payload

theorem Running.call_of_done {running : Running} {reply : Sasl.Reply} (h : reply.done = true) :
    running.call reply = .success running.number reply.payload := by
  rw [call, if_pos h]

theorem Running.call_of_undone {running : Running} {reply : Sasl.Reply} (h : reply.done = false) :
    running.call reply = .challenge running.number reply.payload := by
  rw [call, h, if_neg Bool.false_ne_true]

end Prover

namespace Login

/-- The answer to a reply as it is sent. -/
def continues (login : Login) (reply : Sasl.Reply) (bytes : Bytes) : Document :=
  login.sends (Sasl.advance reply.conversation bytes)

/-- What is sent to answer a reply names the conversation just as that reply did, and
    carries the data. -/
theorem continues_carries (login : Login) (reply : Sasl.Reply) (bytes : Bytes) :
    (login.continues reply bytes).name? = some "saslContinue" ∧
      (login.continues reply bytes).get? Sasl.conversationKey = some reply.conversation ∧
      (login.continues reply bytes).get? Sasl.payloadKey = some (.ofBytes bytes) := by
  refine ⟨Command.name?_prepare (Sasl.name?_advance _ _) _ _, ?_, ?_⟩
  · rw [continues, sends, Command.get?_prepare _ _ _ (by decide) (by decide), Sasl.advance,
      Document.get?_insert_of_ne _ _ (by decide), Document.get?_insert_self]
  · rw [continues, sends, Command.get?_prepare _ _ _ (by decide) (by decide), Sasl.advance,
      Document.get?_insert_self]

/-- The course of a conversation, reply by reply: which replies were answered and with
    what, and how it stopped at the next one. -/
theorem Converses.rounds {login : Login} {address : Address} {running : Prover.Running}
    {reply : Sasl.Reply} {course : Course} {result : Except Error Unit}
    (h : login.Converses address running reply course result)
    {hearing : Nat → Except Error Sasl.Reply} (hfirst : hearing 0 = .ok reply)
    (hlater : ∀ i command answer, course.exchanges[i]? = some (command, answer) →
      hearing (i + 1) = Sasl.heard address answer) :
    ∃ replies data, running.prover.Answers running.challenges hearing replies data ∧
      running.prover.Stops running.challenges hearing replies result ∧
      course.commands = List.zipWith login.continues replies data ∧
      course.calls = (replies ++ (hearing replies.length).toOption.toList).map running.call := by
  -- The induction is on the course. After a round the replies are those from the next one on.
  induction h generalizing hearing with
  | @finished running reply hdone =>
      refine ⟨[], [], .nil, ?_, rfl, ?_⟩
      · have hstops : running.prover.Stops running.challenges hearing [] _ :=
          .finished hfirst hdone
        rwa [Sasl.payloads, List.map_nil, List.append_nil] at hstops
      · rw [List.length_nil, hfirst]
        exact congrArg (· :: []) (Prover.Running.call_of_done hdone).symm
  | stuck hundone hanswer =>
      refine ⟨[], [], .nil, .stuck hfirst hundone hanswer, rfl, ?_⟩
      rw [List.length_nil, hfirst]
      exact congrArg (· :: []) (Prover.Running.call_of_undone hundone).symm
  | @lost running reply data answer e hundone hanswer hheard =>
      have hnext := hlater 0 _ _ rfl
      rw [hheard] at hnext
      refine ⟨[reply], [data], .cons hfirst hundone hanswer .nil, .lost hnext, rfl, ?_⟩
      rw [List.length_singleton, hnext]
      exact congrArg (· :: []) (Prover.Running.call_of_undone hundone).symm
  | @continued running reply data answer next course result hundone hanswer hheard _ ih =>
      have hnext := hlater 0 _ _ rfl
      rw [hheard] at hnext
      obtain ⟨replies, more, hanswers, hstops, hcommands, hcalls⟩ :=
        @ih (fun i => hearing (i + 1)) hnext fun i command answer hi =>
          hlater (i + 1) command answer hi
      refine ⟨reply :: replies, data :: more, hanswers.cons hfirst hundone hanswer, hstops.cons,
        ?_, ?_⟩
      · exact congrArg (login.sends (Sasl.advance reply.conversation data) :: ·) hcommands
      · rw [Course.calls_asked, Course.calls_exchanged, hcalls, List.cons_append, List.map_cons,
          Prover.Running.call_of_undone hundone]
        rfl

/-- What is sent before the first reply: nothing if that reply is there already. -/
def opening (login : Login) (running : Prover.Running) (resumed : Option Document) :
    Except Error (List Document) :=
  match resumed with
  | some _ => .ok []
  | none => running.prover.initial.map fun data =>
      [login.sends (Sasl.start running.prover.mechanism data none)]

theorem opening_of_initial {login : Login} {running : Prover.Running} {data : Bytes}
    (h : running.prover.initial = .ok data) :
    login.opening running none =
      .ok [login.sends (Sasl.start running.prover.mechanism data none)] := by
  rw [opening, h]
  rfl

end Login

namespace Prover.Running

/-- What the prover is asked before the first reply. -/
def opened (running : Running) (resumed : Option Document) : List MechanismCall :=
  match resumed with
  | some _ => []
  | none => [.initial running.number]

/-- The prover has something to begin with, if it has to begin. -/
def Opens (running : Running) (resumed : Option Document) : Prop :=
  resumed = none → ∃ data, running.prover.initial = .ok data

end Prover.Running

namespace Login

/-- The courses of a conversation that its replies and its prover lead to, and what it
    comes to. -/
inductive Proceeds (login : Login) (running : Prover.Running) (resumed : Option Document)
    (transport : Transport) (course : Course) : Except Error Unit → Prop where
  /-- The prover has nothing to begin with. -/
  | silent {e} (hresumed : resumed = none) (hinitial : running.prover.initial = .error e)
      (hcommands : course.commands = []) (hcalls : course.calls = [.initial running.number]) :
      Proceeds login running resumed transport course (.error e)
  /-- Replies are answered until one cannot be, or is done. -/
  | stopped {first replies data own} (hopening : login.opening running resumed = .ok first)
      (hanswers : running.prover.Answers running.challenges (Sasl.hearing resumed transport)
        replies data)
      (hstops : running.prover.Stops running.challenges (Sasl.hearing resumed transport) replies
        own)
      (hcommands : course.commands = first ++ List.zipWith login.continues replies data)
      (hcalls : course.calls = running.opened resumed ++
        (replies ++ (Sasl.hearing resumed transport replies.length).toOption.toList).map
          running.call) :
      Proceeds login running resumed transport course own

variable {login : Login} {running : Prover.Running} {course : Course}
  {own : Except Error Unit}

/-- The answers in a course of a whole conversation are those of the transport. -/
theorem Runs.proceeds {transport : Transport}
    (h : login.Runs transport.address running course own)
    (hanswer : ∀ i command answer, course.exchanges[i]? = some (command, answer) →
      answer = transport.answer i) :
    login.Proceeds running none transport course own := by
  cases h with
  | silent hinitial => exact .silent rfl hinitial rfl rfl
  | @lost data answer e hinitial hheard =>
      have hfirst : Sasl.hearing none transport 0 = .error e := by
        rw [hanswer 0 _ _ rfl] at hheard
        exact hheard
      refine .stopped (opening_of_initial hinitial) .nil (.lost hfirst) rfl ?_
      rw [List.length_nil, hfirst]
      rfl
  | @begun data answer reply course own hinitial hheard rest =>
      have hfirst : Sasl.hearing none transport 0 = .ok reply := by
        rw [hanswer 0 _ _ rfl] at hheard
        exact hheard
      obtain ⟨replies, more, hanswers, hstops, hcommands, hcalls⟩ :=
        rest.rounds hfirst fun i command answer hi => by
          rw [hanswer (i + 1) command answer hi]
          rfl
      refine .stopped (opening_of_initial hinitial) hanswers hstops ?_ ?_
      · exact congrArg (login.sends (Sasl.start running.prover.mechanism data none) :: ·) hcommands
      · exact congrArg (MechanismCall.initial running.number :: ·) hcalls

/-- The same for a conversation that goes on from a reply that is there already. -/
theorem PicksUp.proceeds {transport : Transport} {document : Document}
    (h : login.PicksUp transport.address running document course own)
    (hanswer : ∀ i command answer, course.exchanges[i]? = some (command, answer) →
      answer = transport.answer i) :
    login.Proceeds running (some document) transport course own := by
  cases h with
  | @unread e hread =>
      have hfirst : Sasl.hearing (some document) transport 0 = .error e := hread
      refine .stopped rfl .nil (.lost hfirst) rfl ?_
      rw [List.length_nil, hfirst]
      rfl
  | read hread rest =>
      have hfirst : Sasl.hearing (some document) transport 0 = .ok _ := hread
      obtain ⟨replies, more, hanswers, hstops, hcommands, hcalls⟩ :=
        rest.rounds hfirst fun i command answer hi => by
          rw [hanswer i command answer hi]
          rfl
      exact .stopped rfl hanswers hstops hcommands hcalls

end Login

namespace Prover.Running

variable {running : Running} {resumed : Option Document} {transport : Transport}

/-- Everything that a conversation needs for a good end: a beginning, replies that come
    and are not done but answered, and one after them that is done and accepted. -/
structure Agrees (running : Running) (resumed : Option Document) (transport : Transport)
    (replies : List Sasl.Reply) (data : List Bytes) (last : Sasl.Reply) : Prop where
  opens : running.Opens resumed
  /-- Each document has come, and is what it has to be. -/
  arrived : ∀ i reply, (replies ++ [last])[i]? = some reply →
    ∃ document, Sasl.Arrives resumed transport i document ∧ reply.WrittenIn document
  undone : ∀ reply ∈ replies, reply.done = false
  done : last.done = true
  /-- There is data for each reply but the last. -/
  length_eq : data.length = replies.length
  answered : ∀ i bytes, data[i]? = some bytes →
    running.prover.answer (running.challenges ++ Sasl.payloads (replies.take (i + 1))) = .ok bytes
  accepted : running.prover.accept (running.challenges ++ Sasl.payloads replies) last.payload =
    .ok ()

/-- The first failure of a conversation. -/
inductive FailsWith (running : Running) (resumed : Option Document) (transport : Transport)
    (e : Error) : Prop where
  /-- There is nothing to begin with. -/
  | silent (hresumed : resumed = none) (hinitial : running.prover.initial = .error e)
  /-- Some replies are answered, and it stops after them with the failure. -/
  | stopped {replies data} (hopens : running.Opens resumed)
      (hanswers : running.prover.Answers running.challenges (Sasl.hearing resumed transport)
        replies data)
      (hstops : running.prover.Stops running.challenges (Sasl.hearing resumed transport) replies
        (.error e))

/-- The replies of a conversation with a good end are answered up to one that stops it. -/
theorem agrees_iff {replies : List Sasl.Reply} {data : List Bytes} {last : Sasl.Reply} :
    running.Agrees resumed transport replies data last ↔
      running.Opens resumed ∧
        running.prover.Answers running.challenges (Sasl.hearing resumed transport) replies data ∧
        Sasl.hearing resumed transport replies.length = .ok last ∧ last.done = true ∧
        running.prover.accept (running.challenges ++ Sasl.payloads replies) last.payload =
          .ok () := by
  constructor
  · intro h
    have hheard : ∀ i reply, (replies ++ [last])[i]? = some reply →
        Sasl.hearing resumed transport i = .ok reply :=
      fun i reply hi => Sasl.hearing_eq_ok_iff.mpr (h.arrived i reply hi)
    refine ⟨h.opens, ⟨h.length_eq, fun i reply hi => hheard i reply ?_, h.undone, h.answered⟩,
      hheard _ _ ?_, h.done, h.accepted⟩
    · rw [List.getElem?_append_left (List.getElem?_eq_some_iff.mp hi).1, hi]
    · rw [List.getElem?_concat_length]
  · rintro ⟨hopens, hanswers, hlast, hdone, haccept⟩
    refine ⟨hopens, fun i reply hi => Sasl.hearing_eq_ok_iff.mp ?_, hanswers.undone, hdone,
      hanswers.length_eq, hanswers.answered, haccept⟩
    rw [List.getElem?_append] at hi
    split at hi
    · exact hanswers.heard i reply hi
    · rename_i hle
      rw [List.getElem?_singleton] at hi
      split at hi
      · injection hi with hi
        rw [← hi, show i = replies.length by omega]
        exact hlast
      · simp only [reduceCtorEq] at hi

end Prover.Running

namespace Login

variable {login : Login} {running : Prover.Running} {resumed : Option Document}
  {transport : Transport} {course : Course} {own : Except Error Unit} {first : List Document}

theorem opens_of_opening (h : login.opening running resumed = .ok first) :
    running.Opens resumed := by
  rintro rfl
  rw [opening] at h
  cases hinitial : running.prover.initial with
  | error e =>
      rw [hinitial] at h
      simp only [Except.map, reduceCtorEq] at h
  | ok data => exact ⟨data, rfl⟩

/-- A conversation comes to a good end if it has all that it needs for one. -/
theorem Proceeds.eq_ok_iff (h : login.Proceeds running resumed transport course own) :
    own = .ok () ↔ ∃ replies data last, running.Agrees resumed transport replies data last := by
  simp only [Prover.Running.agrees_iff]
  cases h with
  | silent hresumed hinitial _ _ =>
      constructor
      · intro hown
        simp only [reduceCtorEq] at hown
      · rintro ⟨_, _, _, hopens, _⟩
        obtain ⟨data, hdata⟩ := hopens hresumed
        rw [hinitial] at hdata
        simp only [reduceCtorEq] at hdata
  | stopped hopening hanswers hstops _ _ =>
      constructor
      · rintro rfl
        obtain ⟨last, hlast⟩ := Prover.stops_ok_iff.mp hstops
        exact ⟨_, _, last, opens_of_opening hopening, hanswers, hlast⟩
      · rintro ⟨replies, data, last, _, hothers, hlast⟩
        exact hstops.unique hanswers hothers (Prover.stops_ok_iff.mpr ⟨last, hlast⟩)

/-- It comes to an error if that is its first failure. -/
theorem Proceeds.eq_error_iff (h : login.Proceeds running resumed transport course own)
    {e : Error} : own = .error e ↔ running.FailsWith resumed transport e := by
  cases h with
  | silent hresumed hinitial _ _ =>
      constructor
      · rintro ⟨⟩
        exact .silent hresumed hinitial
      · rintro (⟨_, hother⟩ | ⟨hopens, _, _⟩)
        · rw [hinitial] at hother
          injection hother with hother
          rw [hother]
        · obtain ⟨data, hdata⟩ := hopens hresumed
          rw [hinitial] at hdata
          simp only [reduceCtorEq] at hdata
  | stopped hopening hanswers hstops _ _ =>
      constructor
      · rintro rfl
        exact .stopped (opens_of_opening hopening) hanswers hstops
      · rintro (⟨hresumed, hinitial⟩ | ⟨_, hothers, hother⟩)
        · obtain ⟨data, hdata⟩ := opens_of_opening hopening hresumed
          rw [hinitial] at hdata
          simp only [reduceCtorEq] at hdata
        · exact hstops.unique hanswers hothers hother

/-- A conversation sends one command more than there are answers, at most. Each reply
    that is answered but one has been the answer to a command. -/
theorem length_opening_add_le {replies : List Sasl.Reply} {data : List Bytes}
    (hopening : login.opening running resumed = .ok first)
    (h : running.prover.Answers running.challenges (Sasl.hearing resumed transport) replies
      data) : first.length + replies.length ≤ transport.answers.length + 1 := by
  cases resumed with
  | none =>
      have hfirst : first.length ≤ 1 := by
        obtain ⟨bytes, hinitial⟩ := opens_of_opening hopening rfl
        rw [opening_of_initial hinitial] at hopening
        injection hopening with hopening
        exact Nat.le_of_eq (congrArg List.length hopening.symm)
      -- The last reply that was answered is in the answer with its own number.
      by_cases hnone : replies.length = 0
      · omega
      · have hlast := h.heard (replies.length - 1) _ (List.getElem?_eq_getElem (by omega))
        have hlt := Sasl.lt_of_heard_answer hlast
        omega
  | some given =>
      have hfirst : first.length = 0 := by
        injection hopening with hopening
        exact congrArg List.length hopening.symm
      -- Here it is in the answer before, since the first reply was there already.
      by_cases hfew : replies.length ≤ 1
      · omega
      · have hlast := h.heard (replies.length - 2 + 1) _ (List.getElem?_eq_getElem (by omega))
        have hlt := Sasl.lt_of_heard_answer hlast
        omega

end Login

/-- What is left of a conversation: the replies it answered and the data it answered
    them with, the reply it ended at if that one came, the commands that carried the
    data, all that was sent and asked, and the result. -/
structure Login.Dialogue (login : Login) (running : Prover.Running) (resumed : Option Document)
    (transport : Transport) (commands : List Document) (calls : List MechanismCall)
    (result : Except Error Unit) (replies : List Sasl.Reply) (last : Option Sasl.Reply)
    (data : List Bytes) (continued : List Document) : Prop where
  /-- There is one command more than there are answers, at most. -/
  length_le : commands.length ≤ transport.answers.length + 1
  /-- The replies have come one after the other. -/
  reached : ∀ i reply, (replies ++ last.toList)[i]? = some reply →
    ∃ document, Sasl.Arrives resumed transport i document ∧ reply.WrittenIn document
  /-- Only the one that the conversation ended at may have been done. -/
  undone : ∀ reply ∈ replies, reply.done = false
  /-- The data is what the prover made of each reply, after all those before it. -/
  answered : ∀ i bytes, data[i]? = some bytes →
    running.prover.answer (running.challenges ++ Sasl.payloads (replies.take (i + 1))) = .ok bytes
  /-- A command for each reply that was answered, after the one that began. -/
  commands_eq : commands = (login.opening running resumed).toOption.getD [] ++ continued
  lengths_eq : data.length = replies.length ∧ continued.length = replies.length
  /-- Each command names the conversation as the reply before it did, and carries what
      the prover made of that reply. -/
  carries : ∀ (i : Nat) (command : Document), continued[i]? = some command →
    ∃ reply bytes, replies[i]? = some reply ∧ data[i]? = some bytes ∧
      command = login.sends (Sasl.advance reply.conversation bytes) ∧
      command.name? = some "saslContinue" ∧
      command.get? Sasl.conversationKey = some reply.conversation ∧
      command.get? Sasl.payloadKey = some (.ofBytes bytes)
  /-- The prover is asked once at each reply, and its last word if that is done. -/
  calls_eq : calls = running.opened resumed ++ (replies ++ last.toList).map running.call
  result_eq_ok_iff :
    result = .ok () ↔ ∃ replies data last, running.Agrees resumed transport replies data last
  result_eq_error_iff : ∀ e, result = .error e ↔
    ∃ own, running.FailsWith resumed transport own ∧ e = login.wrap own

namespace Login

variable {login : Login} {running : Prover.Running} {resumed : Option Document}
  {transport : Transport} {course : Course} {own : Except Error Unit}

theorem mapError_wrap_eq_ok_iff : own.mapError login.wrap = .ok () ↔ own = .ok () := by
  cases own with
  | error inner => constructor <;> intro h <;> cases h
  | ok _ => exact Iff.rfl

theorem mapError_wrap_eq_error_iff {e : Error} :
    own.mapError login.wrap = .error e ↔ ∃ inner, own = .error inner ∧ e = login.wrap inner := by
  cases own with
  | error inner =>
      constructor
      · intro h
        exact ⟨inner, rfl, (Except.error.inj h).symm⟩
      · rintro ⟨_, ⟨⟩, rfl⟩
        rfl
  | ok _ =>
      constructor
      · intro h
        cases h
      · rintro ⟨_, ⟨⟩, _⟩

/-- What is sent to answer replies, one command after the other. -/
theorem getElem?_continues {replies : List Sasl.Reply} {data : List Bytes} {i : Nat}
    {command : Document}
    (h : (List.zipWith login.continues replies data)[i]? = some command) :
    ∃ reply bytes, replies[i]? = some reply ∧ data[i]? = some bytes ∧
      login.continues reply bytes = command :=
  List.getElem?_zipWith_eq_some.mp h

/-- A conversation that proceeds in a course leaves the dialogue behind. -/
theorem Proceeds.dialogue (h : login.Proceeds running resumed transport course own) :
    ∃ replies last data continued, login.Dialogue running resumed transport course.commands
      course.calls (own.mapError login.wrap) replies last data continued := by
  have hok : own.mapError login.wrap = .ok () ↔
      ∃ replies data last, running.Agrees resumed transport replies data last :=
    mapError_wrap_eq_ok_iff.trans h.eq_ok_iff
  have herror : ∀ e, own.mapError login.wrap = .error e ↔
      ∃ inner, running.FailsWith resumed transport inner ∧ e = login.wrap inner := by
    intro e
    simp only [mapError_wrap_eq_error_iff, h.eq_error_iff]
  cases h with
  | @silent e hresumed hinitial hcommands hcalls =>
      subst hresumed
      refine ⟨[], none, [], [], ⟨?_, ?_, ?_, ?_, ?_, ⟨rfl, rfl⟩, ?_, hcalls, hok, herror⟩⟩
      · rw [hcommands]
        exact Nat.zero_le _
      · intro i reply hi
        simp only [Option.toList_none, List.append_nil, List.getElem?_nil, reduceCtorEq] at hi
      · intro reply hreply
        simp only [List.not_mem_nil] at hreply
      · intro i bytes hi
        simp only [List.getElem?_nil, reduceCtorEq] at hi
      · rw [hcommands, opening, hinitial]
        rfl
      · intro i command hi
        simp only [List.getElem?_nil, reduceCtorEq] at hi
  | @stopped first replies data own hopening hanswers hstops hcommands hcalls =>
      have hlength : (List.zipWith login.continues replies data).length = replies.length := by
        rw [List.length_zipWith, hanswers.length_eq, Nat.min_self]
      refine ⟨replies, (Sasl.hearing resumed transport replies.length).toOption, data,
        List.zipWith login.continues replies data,
        ⟨?_, ?_, hanswers.undone, hanswers.answered, ?_, ⟨hanswers.length_eq, hlength⟩, ?_, hcalls,
          hok, herror⟩⟩
      · rw [hcommands, List.length_append, hlength]
        exact length_opening_add_le hopening hanswers
      · -- A reply that was reached was answered, or is the one that the conversation ended at.
        intro i reply hi
        refine Sasl.hearing_eq_ok_iff.mp ?_
        rw [List.getElem?_append] at hi
        split at hi
        · exact hanswers.heard i reply hi
        · rename_i hle
          cases hlast : Sasl.hearing resumed transport replies.length with
          | error e =>
              rw [hlast] at hi
              simp only [Except.toOption, Option.toList_none, List.getElem?_nil, reduceCtorEq] at hi
          | ok last =>
              rw [hlast] at hi
              simp only [Except.toOption, Option.toList_some, List.getElem?_singleton] at hi
              split at hi
              · rw [show i = replies.length by omega, hlast, Option.some.inj hi]
              · simp only [reduceCtorEq] at hi
      · rw [hcommands, hopening]
        rfl
      · intro i command hi
        obtain ⟨reply, bytes, hreply, hbytes, rfl⟩ := getElem?_continues hi
        exact ⟨reply, bytes, hreply, hbytes, rfl, login.continues_carries reply bytes⟩

end Login

/-- The client's conversation proceeds in the course that it takes. -/
theorem Blocking.proceeds (login : Login) (running : Prover.Running) (resumed : Option Document)
    (desk : Desk) :
    ∃ course own, desk.line.Follows login.provider.observed course
        (Act.runAt (match resumed with
          | some reply => resume login running reply
          | none => Blocking.login login running) desk).2.line ∧
      (Act.runAt (match resumed with
          | some reply => resume login running reply
          | none => Blocking.login login running) desk).1 = own.mapError login.wrap ∧
      login.Proceeds running resumed desk.line.connection.transport course own := by
  cases resumed with
  | none =>
      obtain ⟨course, hfollows, own, hruns, hresult⟩ :=
        (course_run login running desk).mapError login.wrap
      exact ⟨course, own, hfollows, hresult, hruns.proceeds fun _ _ _ hi => hfollows.answer_eq hi⟩
  | some document =>
      obtain ⟨course, hfollows, own, hpicks, hresult⟩ := course_resume login running document desk
      exact ⟨course, own, hfollows, hresult, hpicks.proceeds fun _ _ _ hi => hfollows.answer_eq hi⟩

/-- Every conversation ends, in either mode, from the start or from a reply that is
    there already, whatever the prover and the answers are. What is sent, what the
    prover is asked and what it comes to are all told by the replies. -/
theorem Mode.converse_dialogue (mode : Mode) (login : Login) (running : Prover.Running)
    (resumed : Option Document) (desk : Desk) :
    ∃ result after commands calls, mode.converse login running resumed desk =
        (some result, after) ∧
      after.line.connection.transport.sent = desk.line.connection.transport.sent ++ commands ∧
      after.line.journal.calls =
        desk.line.journal.calls ++ (if login.provider.observed then calls else []) ∧
      ∃ replies last data continued, login.Dialogue running resumed desk.line.connection.transport
        commands calls result replies last data continued := by
  obtain ⟨course, own, hfollows, hresult, hproceeds⟩ := Blocking.proceeds login running resumed desk
  exact ⟨_, _, course.commands, course.calls, mode.converse_eq login running resumed desk,
    hfollows.sent_eq, hfollows.calls_eq, hresult ▸ hproceeds.dialogue⟩

end DocumentLink
