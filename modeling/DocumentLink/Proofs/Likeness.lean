import DocumentLink.Proofs.Gate

/-!
# Two Openings Side by Side

What two openings have in common is often said by running them side by side: with
another password, with another initializer, or over a connection with another
number. Such openings take the same decisions all the way, and what differs
between them is carried along without being looked at.

A likeness says what may differ: which commands the one may send where the other
sends its own, which errors may stand for each other, and so on, and that
everything an opening does at its desk keeps this up. Every part of an opening
then keeps every likeness, and a conversation does so for as many rounds as it
takes.

The two openings get the same answers. Nothing is said about which prover of its
provider either of them talks to.

## Main definitions

* `Paired`: Two results that are alike.
* `Likeness`: What may differ between two openings.
* `Prover.Alike`, `Login.Alike`, `Authenticator.Alike`, `Setup.Alike`: What may go
  into the two openings.
* `Likeness.Desks`: The desks at any time.
* `Likeness.Ends`: What work at both desks comes to.
* `Setup.Admits`: What may be left of a speculation when an opening begins.

## Theorems

* `Likeness.Ends.bind`: Work in sequence keeps a likeness if every part of it does.
* `Likeness.ends_converse`: A conversation keeps it.
* `Likeness.ends_establish`: An opening does.
* `Likeness.openConnection`: And so do the results and what is left behind.
-/

namespace DocumentLink

/-- Two results that are alike: both are values, or both are errors. -/
inductive Paired {α β : Type} (errors : Error → Error → Prop) (values : α → β → Prop) :
    Except Error α → Except Error β → Prop where
  | ok {a : α} {b : β} (h : values a b) : Paired errors values (.ok a) (.ok b)
  | error {e e' : Error} (h : errors e e') : Paired errors values (.error e) (.error e')

namespace Paired

variable {α β : Type} {errors : Error → Error → Prop}

theorem refl (herrors : ∀ e, errors e e) (result : Except Error α) :
    Paired errors Eq result result := by
  cases result with
  | ok a => exact .ok rfl
  | error e => exact .error (herrors e)

theorem mapError {values : α → β → Prop} {r : Except Error α} {r' : Except Error β}
    {f g : Error → Error} (hmap : ∀ e e', errors e e' → errors (f e) (g e'))
    (h : Paired errors values r r') : Paired errors values (r.mapError f) (r'.mapError g) := by
  cases h with
  | ok h => exact .ok h
  | error h => exact .error (hmap _ _ h)

end Paired

/-- What may differ between two openings, and that what is done at a desk keeps it
    up. -/
structure Likeness where
  lines : Line → Line → Prop
  /-- The commands, as they are sent. -/
  commands : Document → Document → Prop
  errors : Error → Error → Prop
  /-- The data that provers have for the server. -/
  data : Bytes → Bytes → Prop
  /-- How many provers have been made. -/
  counts : Nat → Nat → Prop
  opened : Opened → Opened → Prop
  address_eq : ∀ {x y : Line}, lines x y → x.connection.address = y.connection.address
  note : ∀ {x y : Line} (observed observed' : Bool) (call call' : MechanismCall), lines x y →
    lines { x with journal := x.journal.note observed call }
      { y with journal := y.journal.note observed' call' }
  /-- The answers to an exchange are the same on both sides. -/
  answer_eq : ∀ {x y : Line} {c d : Document}, lines x y → commands c d →
    (Blocking.exchange x c).1 = (Blocking.exchange y d).1
  exchange : ∀ {x y : Line} {c d : Document}, lines x y → commands c d →
    lines (Blocking.exchange x c).2 (Blocking.exchange y d).2
  ofReply : ∀ {x y : Line} (reply : Document), lines x y →
    opened (.ofReply x.connection reply) (.ofReply y.connection reply)
  enter : ∀ {x y : Line}, lines x y →
    lines { x with connection.stage := .initializing } { y with connection.stage := .initializing }
  settle : ∀ {x y : Line} {r r' : Except Error Opened}, lines x y → Paired errors opened r r' →
    lines { x with connection := x.connection.settle r }
      { y with connection := y.connection.settle r' }
  errors_refl : ∀ e, errors e e
  kind_eq : ∀ {e e' : Error}, errors e e' → e.kind = e'.kind
  count : ∀ {n n' : Nat}, counts n n' → counts (n + 1) (n' + 1)
  serverType_eq : ∀ {o o' : Opened}, opened o o' →
    o.connection.serverType = o'.connection.serverType
  negotiated_eq : ∀ {o o' : Opened}, opened o o' →
    o.connection.negotiated = o'.connection.negotiated
  needsProbe_eq : ∀ {o o' : Opened}, opened o o' → o.needsProbe = o'.needsProbe
  withServerValue : ∀ {o o' : Opened} (n : Int), opened o o' →
    opened (o.withServerValue n) (o'.withServerValue n)

/-- Two provers that go on or fail at the same steps. -/
structure Prover.Alike (l : Likeness) (p p' : Prover) : Prop where
  mechanism : p.mechanism = p'.mechanism
  initial : Paired l.errors l.data p.initial p'.initial
  answer : ∀ challenges, Paired l.errors l.data (p.answer challenges) (p'.answer challenges)
  accept : ∀ challenges data,
    Paired l.errors Eq (p.accept challenges data) (p'.accept challenges data)

/-- Two such provers in use. They have been given the same challenges. -/
structure Prover.Running.Alike (l : Likeness) (r r' : Prover.Running) : Prop where
  prover : r.prover.Alike l r'.prover
  challenges : r.challenges = r'.challenges

/-- Failures named after two credentials are alike if the failures are. -/
def Credential.Alike (l : Likeness) (c c' : Credential) : Prop :=
  ∀ {e e' : Error}, l.errors e e' → l.errors (.authentication c e) (.authentication c' e')

/-- Two logins whose provers are alike and whose commands may be sent for each
    other. -/
structure Login.Alike (l : Likeness) (login login' : Login) : Prop where
  mechanism : login.credential.mechanism = login'.credential.mechanism
  credential : login.credential.Alike l login'.credential
  create : ∀ {n n' : Nat} (mechanism : Mechanism), l.counts n n' →
    Option.Rel (Prover.Alike l) (login.provider.create n mechanism login.credential)
      (login'.provider.create n' mechanism login'.credential)
  start : ∀ {data data' : Bytes} (mechanism : Mechanism), l.data data data' →
    l.commands (login.sends (Sasl.start mechanism data none))
      (login'.sends (Sasl.start mechanism data' none))
  advance : ∀ {data data' : Bytes} (conversation : Json.Value), l.data data data' →
    l.commands (login.sends (Sasl.advance conversation data))
      (login'.sends (Sasl.advance conversation data'))

/-- Two ways to authenticate that are the same way. -/
inductive Authenticator.Alike (l : Likeness) : Authenticator → Authenticator → Prop where
  | none : Alike l .none .none
  | negotiating {login login' : Login} (h : login.Alike l login') :
      Alike l (.negotiating login) (.negotiating login')
  | certificate {c c' : Credential} {api api' : Option ServerApi} (h : c.Alike l c')
      (hcommand : l.commands (Command.certifies c api) (Command.certifies c' api')) :
      Alike l (.certificate c api) (.certificate c' api')
  | speculative {login login' : Login} (h : login.Alike l login') :
      Alike l (.speculative login) (.speculative login')

/-- The handshake that carries the first step of a conversation, as it is sent. -/
def Setup.carries (setup : Setup) (login : Login) (mechanism : Mechanism) (data : Bytes) :
    Document :=
  setup.sends { setup.baseHandshake with
    speculative := some (Sasl.start mechanism data (some login.credential.source)) }.command

/-- Two setups whose commands may be sent for each other. -/
structure Setup.Alike (l : Likeness) (setup setup' : Setup) : Prop where
  authenticator : setup.authenticator.Alike l setup'.authenticator
  plain : l.commands (setup.sends setup.baseHandshake.command)
    (setup'.sends setup'.baseHandshake.command)
  carrying : ∀ {login login' : Login} {data data' : Bytes} (mechanism : Mechanism),
    setup.authenticator = .speculative login → setup'.authenticator = .speculative login' →
    l.data data data' →
    l.commands (setup.carries login mechanism data) (setup'.carries login' mechanism data')
  probe : l.commands (setup.sends StatusProbe.command) (setup'.sends StatusProbe.command)

/-- What may be left of a speculation when an opening begins: a prover is kept only
    where steps may be sent on speculation. -/
def Setup.Admits (setup : Setup) (speculation : Speculation) : Prop :=
  speculation.pending.isSome = true →
    ∃ login, setup.authenticator = .speculative login ∧ login.maySpeculate = true

theorem Setup.admits_empty (setup : Setup) : setup.Admits {} :=
  fun h => absurd h Bool.false_ne_true

namespace Likeness

variable {l : Likeness}

/-- Two desks at the same point of alike openings. -/
structure Desks (l : Likeness) (desk desk' : Desk) : Prop where
  line : l.lines desk.line desk'.line
  created : l.counts desk.created desk'.created

/-- What work at two desks comes to: alike results and alike desks. -/
structure Ends {α β : Type} (l : Likeness) (values : α → β → Prop)
    (outcome : Except Error α × Desk) (outcome' : Except Error β × Desk) : Prop where
  result : Paired l.errors values outcome.1 outcome'.1
  desks : l.Desks outcome.2 outcome'.2

/-- What is there to go on with after two handshakes: alike provers and the same
    answer, or nothing at all. -/
def Resumable (l : Likeness) (s s' : Speculation) : Prop :=
  Option.Rel (fun both both' : Prover.Running × Document =>
    both.1.Alike l both'.1 ∧ both.2 = both'.2) s.takeResumable.1 s'.takeResumable.1

section Rules

variable {α β γ δ : Type} {desk desk' : Desk}

theorem Desks.note (h : l.Desks desk desk') (observed observed' : Bool)
    (call call' : MechanismCall) :
    l.Desks (desk.note observed call) (desk'.note observed' call') :=
  ⟨l.note observed observed' call call' h.line, h.created⟩

/-- What is kept of a speculation is no part of a likeness. -/
theorem Desks.keeping (h : l.Desks desk desk') (s s' : Speculation) :
    l.Desks { desk with speculation := s } { desk' with speculation := s' } :=
  ⟨h.line, h.created⟩

theorem Desks.address_eq (h : l.Desks desk desk') : desk.address = desk'.address :=
  l.address_eq h.line

/-- Work in sequence keeps a likeness if every part of it does. -/
theorem Ends.bind {values : α → β → Prop} {values' : γ → δ → Prop} {act : Act α} {act' : Act β}
    {f : α → Act γ} {f' : β → Act δ}
    (h : l.Ends values (act.runAt desk) (act'.runAt desk'))
    (hnext : ∀ a b next next', values a b → l.Desks next next' →
      l.Ends values' ((f a).runAt next) ((f' b).runAt next')) :
    l.Ends values' ((act >>= f).runAt desk) ((act' >>= f').runAt desk') := by
  rw [Act.runAt_bind, Act.runAt_bind]
  rcases h with ⟨hresult, hdesks⟩
  generalize act.runAt desk = outcome at hresult hdesks ⊢
  generalize act'.runAt desk' = outcome' at hresult hdesks ⊢
  rcases outcome with ⟨result, next⟩
  rcases outcome' with ⟨result', next'⟩
  cases hresult with
  | ok h => exact hnext _ _ _ _ h hdesks
  | error h => exact ⟨.error h, hdesks⟩

theorem Ends.mapError {values : α → β → Prop} {act : Act α} {act' : Act β} {f g : Error → Error}
    (hmap : ∀ e e', l.errors e e' → l.errors (f e) (g e'))
    (h : l.Ends values (act.runAt desk) (act'.runAt desk')) :
    l.Ends values ((act.mapError f).runAt desk) ((act'.mapError g).runAt desk') :=
  ⟨h.result.mapError hmap, h.desks⟩

/-- Failures keep a likeness when they become failures of an authentication, since
    that is decided by their kind. -/
theorem authenticating {c c' : Credential} (hcredential : c.Alike l c') (e e' : Error)
    (h : l.errors e e') : l.errors (.authenticating c e) (.authenticating c' e') := by
  have hkind := l.kind_eq h
  simp only [Error.authenticating, ← hkind]
  split
  · exact h
  · exact h
  · exact hcredential h

/-- A result that is known already is the same on both sides. -/
theorem ends_ofResult (result : Except Error α) (h : l.Desks desk desk') :
    l.Ends Eq ((Act.ofResult result).runAt desk) ((Act.ofResult result).runAt desk') :=
  ⟨.refl l.errors_refl result, h⟩

/-- Commands that may be sent for each other have the same answer. -/
theorem ends_command {database database' : String} {document document' : Document}
    {api api' : Option ServerApi} (h : l.Desks desk desk')
    (hcommand : l.commands (Command.prepare document database api)
      (Command.prepare document' database' api')) :
    l.Ends Eq ((Blocking.command database document api).runAt desk)
      ((Blocking.command database' document' api').runAt desk') := by
  rw [Blocking.runAt_command, Blocking.runAt_command, l.answer_eq h.line hcommand, h.address_eq]
  exact ⟨.refl l.errors_refl _, l.exchange h.line hcommand, h.created⟩

end Rules

section Conversations

variable {login login' : Login} {running running' : Prover.Running} {desk desk' : Desk}

/-- A conversation keeps a likeness. A round that is followed by another has used up
    an answer, and by then both provers have been given one more challenge. -/
theorem ends_converse
    (hadvance : ∀ {data data' : Bytes} (conversation : Json.Value), l.data data data' →
      l.commands (login.sends (Sasl.advance conversation data))
        (login'.sends (Sasl.advance conversation data')))
    (hrunning : running.Alike l running') (reply : Sasl.Reply) (h : l.Desks desk desk') :
    l.Ends Eq (Act.runAt (Blocking.converse login running reply) desk)
      (Act.runAt (Blocking.converse login' running' reply) desk') := by
  -- On the answers that are left for the first of the two. The other has the same ones.
  induction hleft : desk.answersLeft using Nat.strongRecOn
    generalizing running running' reply desk desk' with
  | ind left ih =>
      cases hdone : reply.done with
      | true =>
          -- Both provers judge the same data, after the same challenges.
          rw [Blocking.converse_of_done hdone, Blocking.converse_of_done hdone,
            Login.runAt_finish, Login.runAt_finish, ← hrunning.challenges]
          exact ⟨hrunning.prover.accept _ _, h.note _ _ _ _⟩
      | false =>
          rw [Blocking.converse_of_not_done hdone, Blocking.converse_of_not_done hdone,
            Act.runAt_bind, Act.runAt_bind, Login.runAt_nextCommand, Login.runAt_nextCommand,
            ← hrunning.challenges]
          have hanswer := hrunning.prover.answer (running.challenges ++ [reply.payload])
          have hasked := h.note login.provider.observed login'.provider.observed
            (.challenge running.number reply.payload) (.challenge running'.number reply.payload)
          generalize running.prover.answer (running.challenges ++ [reply.payload]) = data
            at hanswer ⊢
          generalize running'.prover.answer (running.challenges ++ [reply.payload]) = data'
            at hanswer ⊢
          cases hanswer with
          | error herror => exact ⟨.error herror, hasked⟩
          | ok hdata =>
              have hcommand := hadvance reply.conversation hdata
              simp only [Except.map]
              rw [Blocking.runAt_hear, Blocking.runAt_hear, ← l.answer_eq hasked.line hcommand,
                ← hasked.address_eq]
              have hexchanged := l.exchange hasked.line hcommand
              cases hheard : Sasl.heard _ _ with
              | error e => exact ⟨.error (l.errors_refl e), hexchanged, h.created⟩
              | ok next =>
                  have hless := Blocking.answersLeft_exchange_lt hheard
                  have hchallenged : (running.challenged reply.payload).Alike l
                      (running'.challenged reply.payload) :=
                    ⟨hrunning.prover, congrArg (· ++ [reply.payload]) hrunning.challenges⟩
                  exact ih _ (hleft ▸ hless) hchallenged next ⟨hexchanged, h.created⟩ rfl

/-- What is sent first depends on what the provers have to say, and on their mechanism. -/
theorem ends_firstCommand (hlogin : login.Alike l login') (hrunning : running.Alike l running')
    (h : l.Desks desk desk') :
    l.Ends (fun c d => l.commands (login.sends c) (login'.sends d))
      ((login.firstCommand running).runAt desk) ((login'.firstCommand running').runAt desk') := by
  rw [Login.runAt_firstCommand, Login.runAt_firstCommand, ← hrunning.prover.mechanism]
  refine ⟨?_, h.note _ _ _ _⟩
  have hinitial := hrunning.prover.initial
  generalize running.prover.initial = data at hinitial ⊢
  generalize running'.prover.initial = data' at hinitial ⊢
  cases hinitial with
  | ok hdata => exact .ok (hlogin.start _ hdata)
  | error herror => exact .error herror

theorem ends_login (hlogin : login.Alike l login') (hrunning : running.Alike l running')
    (h : l.Desks desk desk') :
    l.Ends Eq ((Blocking.login login running).runAt desk)
      ((Blocking.login login' running').runAt desk') := by
  refine .mapError (authenticating hlogin.credential) ?_
  refine (ends_firstCommand hlogin hrunning h).bind ?_
  intro document document' begun begun' hcommand hbegun
  -- From the first answer on it is a conversation like one that goes on.
  refine (ends_command hbegun hcommand).bind ?_
  rintro answer _ answered answered' rfl hanswered
  refine (ends_ofResult (Sasl.Reply.read answer) hanswered).bind ?_
  rintro reply _ next next' rfl hnext
  exact ends_converse hlogin.advance hrunning reply hnext

theorem ends_resume (hlogin : login.Alike l login') (hrunning : running.Alike l running')
    (document : Document) (h : l.Desks desk desk') :
    l.Ends Eq ((Blocking.resume login running document).runAt desk)
      ((Blocking.resume login' running' document).runAt desk') := by
  refine .mapError (authenticating hlogin.credential) ?_
  refine (ends_ofResult (Sasl.Reply.read document) h).bind ?_
  rintro reply _ next next' rfl hnext
  exact ends_converse hlogin.advance hrunning reply hnext

theorem ends_createProver (hlogin : login.Alike l login') (mechanism : Mechanism)
    (h : l.Desks desk desk') :
    l.Ends (Prover.Running.Alike l) ((login.createProver mechanism).runAt desk)
      ((login'.createProver mechanism).runAt desk') := by
  rw [Login.runAt_createProver, Login.runAt_createProver]
  have hnoted := h.note login.provider.observed login'.provider.observed
    (.create mechanism login.credential) (.create mechanism login'.credential)
  have hcreate := hlogin.create mechanism h.created
  generalize login.provider.create desk.created mechanism login.credential = made at hcreate ⊢
  generalize login'.provider.create desk'.created mechanism login'.credential = made' at hcreate ⊢
  cases hcreate with
  | none => exact ⟨.error (hlogin.credential (l.errors_refl _)), hnoted⟩
  | some hprover => exact ⟨.ok ⟨hprover, rfl⟩, hnoted.line, l.count h.created⟩

theorem ends_createFixedProver (hlogin : login.Alike l login') (h : l.Desks desk desk') :
    l.Ends (Prover.Running.Alike l) (login.createFixedProver.runAt desk)
      (login'.createFixedProver.runAt desk') := by
  rw [Login.createFixedProver, Login.createFixedProver, ← hlogin.mechanism]
  cases login.credential.mechanism with
  | none => exact ⟨.error (hlogin.credential (l.errors_refl _)), h⟩
  | some mechanism => exact ends_createProver hlogin mechanism h

/-- An authentication keeps a likeness if what there is to go on with does. -/
theorem ends_authenticate {a a' : Authenticator} (hauthenticator : a.Alike l a')
    {d d' : ConnectionDescription} (hnegotiated : d.negotiated = d'.negotiated)
    (hresumable : l.Resumable desk.speculation desk'.speculation) (h : l.Desks desk desk') :
    l.Ends Eq ((Blocking.authenticate a d).runAt desk)
      ((Blocking.authenticate a' d').runAt desk') := by
  cases hauthenticator with
  | none => exact ⟨.ok rfl, h⟩
  | negotiating hlogin =>
      simp only [Blocking.authenticate, Blocking.negotiate, ← hnegotiated]
      refine (ends_createProver hlogin _ h).bind ?_
      intro running running' next next' hrunning hnext
      exact ends_login hlogin hrunning hnext
  | certificate hcredential hcommand =>
      simp only [Blocking.authenticate, Blocking.certificate]
      refine .mapError (authenticating hcredential) ?_
      refine (ends_command h hcommand).bind ?_
      intro _ _ next next' _ hnext
      exact ⟨.ok rfl, hnext⟩
  | speculative hlogin =>
      simp only [Blocking.authenticate]
      rw [Blocking.runAt_speculated, Blocking.runAt_speculated]
      have hkept := h.keeping desk.speculation.takeResumable.2 desk'.speculation.takeResumable.2
      rw [Resumable] at hresumable
      generalize desk.speculation.takeResumable.1 = both at hresumable ⊢
      generalize desk'.speculation.takeResumable.1 = both' at hresumable ⊢
      -- Both sides go on from the handshake, or both begin anew.
      cases hresumable with
      | none =>
          refine (ends_createFixedProver hlogin hkept).bind ?_
          intro running running' next next' hrunning hnext
          exact ends_login hlogin hrunning hnext
      | some hboth =>
          rename_i both both'
          rcases both with ⟨running, document⟩
          rcases both' with ⟨running', document'⟩
          rcases hboth with ⟨hrunning, rfl⟩
          exact ends_resume hlogin hrunning document hkept

end Conversations

end Likeness

/-- The same way to authenticate speculates on both sides or on neither. -/
theorem Authenticator.Alike.speculative_cases {l : Likeness} {a a' : Authenticator}
    (h : a.Alike l a') :
    a.speculative? = .none ∧ a'.speculative? = .none ∨
      ∃ login login' : Login, a = .speculative login ∧ a' = .speculative login' ∧
        login.Alike l login' := by
  cases h with
  | none => exact .inl ⟨rfl, rfl⟩
  | negotiating => exact .inl ⟨rfl, rfl⟩
  | certificate => exact .inl ⟨rfl, rfl⟩
  | speculative hlogin => exact .inr ⟨_, _, rfl, rfl, hlogin⟩

namespace Setup

variable {setup : Setup} {speculation : Speculation}

/-- Where nothing is sent on speculation no prover has been kept. -/
theorem Admits.pending_eq_none (h : setup.Admits speculation)
    (hnot : ∀ login, setup.authenticator = .speculative login → login.maySpeculate = false) :
    speculation.pending = none := by
  cases hpending : speculation.pending with
  | none => rfl
  | some running =>
      have hkept : speculation.pending.isSome = true := by rw [hpending]; rfl
      rcases h hkept with ⟨login, hlogin, hmay⟩
      rw [hnot login hlogin] at hmay
      exact absurd hmay Bool.false_ne_true

theorem speculative_ne_of_none {login : Login} (h : setup.authenticator.speculative? = .none) :
    setup.authenticator ≠ .speculative login := by
  intro hlogin
  rw [hlogin] at h
  cases h

/-- Without a prover there is nothing to go on with, whatever the server has said. -/
theorem takeResumable_kept_of_none (hpending : speculation.pending = none) (reply : Document) :
    (setup.kept speculation reply).takeResumable.1 = none := by
  have hkept := setup.pending_kept speculation reply
  rw [hpending] at hkept
  rw [Speculation.takeResumable, hkept]

/-- With a prover there is as much to go on with as the server has answered. -/
theorem takeResumable_kept_of_some {login : Login} {running : Prover.Running}
    (hlogin : setup.authenticator = .speculative login)
    (hpending : speculation.pending = some running) (reply : Document) :
    (setup.kept speculation reply).takeResumable.1 =
      (Handshake.speculativeReply? reply).map fun response => (running, response) := by
  rw [kept, hlogin]
  simp only [Authenticator.speculative?, Option.isSome_some, if_true, Speculation.respond,
    Speculation.takeResumable, hpending]
  cases Handshake.speculativeReply? reply <;> rfl

end Setup

namespace Likeness

variable {l : Likeness} {setup setup' : Setup} {desk desk' : Desk}

/-- Making the handshake keeps a likeness. With the same reply there is then the same
    to go on with, whatever had been left of earlier speculations. -/
theorem ends_handshake (hsetup : setup.Alike l setup') (hadmits : setup.Admits desk.speculation)
    (hadmits' : setup'.Admits desk'.speculation) (h : l.Desks desk desk') :
    l.Ends (fun c d => l.commands (setup.sends c) (setup'.sends d)) (setup.handshake.runAt desk)
        (setup'.handshake.runAt desk') ∧
      ∀ document reply, (setup.handshake.runAt desk).1 = .ok document →
        l.Resumable (setup.kept (setup.handshake.runAt desk).2.speculation reply)
          (setup'.kept (setup'.handshake.runAt desk').2.speculation reply) := by
  -- Where nothing is speculated there is nothing to go on with on either side.
  have hnothing : desk.speculation.pending = none → desk'.speculation.pending = none →
      ∀ reply, l.Resumable (setup.kept desk.speculation reply)
        (setup'.kept desk'.speculation reply) := by
    intro hpending hpending' reply
    rw [Resumable, Setup.takeResumable_kept_of_none hpending,
      Setup.takeResumable_kept_of_none hpending']
    exact .none
  rcases hsetup.authenticator.speculative_cases with
    ⟨hnone, hnone'⟩ | ⟨login, login', hspeculative, hspeculative', hlogin⟩
  · rw [Setup.runAt_handshake_of_none hnone, Setup.runAt_handshake_of_none hnone']
    have hpending := hadmits.pending_eq_none fun login hlogin =>
      absurd hlogin (Setup.speculative_ne_of_none hnone)
    have hpending' := hadmits'.pending_eq_none fun login hlogin =>
      absurd hlogin (Setup.speculative_ne_of_none hnone')
    exact ⟨⟨.ok hsetup.plain, h⟩, fun _ reply _ => hnothing hpending hpending' reply⟩
  have hsome : setup.authenticator.speculative? = some login := by rw [hspeculative]; rfl
  have hsome' : setup'.authenticator.speculative? = some login' := by rw [hspeculative']; rfl
  have hmay' : login'.maySpeculate = login.maySpeculate := by
    rw [Login.maySpeculate, Login.maySpeculate, hlogin.mechanism]
  rw [Setup.runAt_handshake_of_some hsome, Setup.runAt_handshake_of_some hsome']
  cases hmay : login.maySpeculate with
  | false =>
      rw [hmay] at hmay'
      rw [Login.runAt_speculate_of_not hmay, Login.runAt_speculate_of_not hmay']
      simp only [Except.map, Setup.baseHandshake_of_none]
      have hpending := hadmits.pending_eq_none fun own hown => by
        rw [hspeculative] at hown
        injection hown with hown
        exact hown ▸ hmay
      have hpending' := hadmits'.pending_eq_none fun own hown => by
        rw [hspeculative'] at hown
        injection hown with hown
        exact hown ▸ hmay'
      exact ⟨⟨.ok hsetup.plain, h⟩, fun _ reply _ => hnothing hpending hpending' reply⟩
  | true =>
      -- A prover is made for the step on both sides, and takes the place of any before it.
      rw [hmay] at hmay'
      rw [Login.runAt_speculate hmay, Login.runAt_speculate hmay']
      have hmade := ends_createFixedProver hlogin h
      generalize login.createFixedProver.runAt desk = made at hmade ⊢
      generalize login'.createFixedProver.runAt desk' = made' at hmade ⊢
      rcases made with ⟨result, made⟩
      rcases made' with ⟨result', made'⟩
      rcases hmade with ⟨hresult, hdesks⟩
      cases hresult with
      | error herror =>
          exact ⟨⟨.error herror, hdesks⟩, fun document reply hdocument => by cases hdocument⟩
      | @ok running running' hrunning =>
          have hasked := Desks.note hdesks login.provider.observed login'.provider.observed
            (.initial running.number) (.initial running'.number)
          have hinitial := hrunning.prover.initial
          simp only []
          rw [← hrunning.prover.mechanism]
          generalize running.prover.initial = data at hinitial ⊢
          generalize running'.prover.initial = data' at hinitial ⊢
          cases hinitial with
          | error herror =>
              exact ⟨⟨.error (hlogin.credential herror), hasked⟩,
                fun document reply hdocument => by cases hdocument⟩
          | ok hdata =>
              have hcommand := hsetup.carrying running.prover.mechanism hspeculative
                hspeculative' hdata
              refine ⟨⟨.ok hcommand, hasked.keeping _ _⟩, fun document reply _ => ?_⟩
              rw [Resumable, Setup.takeResumable_kept_of_some hspeculative rfl,
                Setup.takeResumable_kept_of_some hspeculative' rfl]
              cases Handshake.speculativeReply? reply with
              | none => exact .none
              | some response => exact .some ⟨hrunning, rfl⟩

/-- The failure of a handshake is named after the user on both sides or on neither. -/
theorem handshakeFailure (hsetup : setup.Alike l setup') (e : Error) :
    l.errors (setup.handshakeFailure e) (setup'.handshakeFailure e) := by
  have hauthenticator := hsetup.authenticator
  rw [Setup.handshakeFailure, Setup.handshakeFailure]
  generalize setup.authenticator = a at hauthenticator ⊢
  generalize setup'.authenticator = a' at hauthenticator ⊢
  cases hauthenticator with
  | negotiating hlogin =>
      simp only [Authenticator.negotiates, Authenticator.credential?, Bool.true_and]
      split
      · exact hlogin.credential (l.errors_refl e)
      · exact l.errors_refl e
  | _ => exact l.errors_refl e

theorem ends_greet (hsetup : setup.Alike l setup') (hadmits : setup.Admits desk.speculation)
    (hadmits' : setup'.Admits desk'.speculation) (h : l.Desks desk desk') :
    l.Ends l.opened ((Blocking.greet setup).runAt desk) ((Blocking.greet setup').runAt desk') ∧
      ∀ opened, ((Blocking.greet setup).runAt desk).1 = .ok opened →
        l.Resumable ((Blocking.greet setup).runAt desk).2.speculation
          ((Blocking.greet setup').runAt desk').2.speculation := by
  rcases ends_handshake hsetup hadmits hadmits' h with ⟨⟨hresult, hdesks⟩, hresumable⟩
  rw [Blocking.runAt_greet, Blocking.runAt_greet]
  generalize setup.handshake.runAt desk = made at hresult hdesks hresumable ⊢
  generalize setup'.handshake.runAt desk' = made' at hresult hdesks hresumable ⊢
  rcases made with ⟨result, made⟩
  rcases made' with ⟨result', made'⟩
  cases hresult with
  | error herror =>
      exact ⟨⟨.error herror, hdesks⟩, fun opened hopened => by cases hopened⟩
  | ok hcommand =>
      -- The reply is the same one, so both sides learn from it or fail.
      have hexchanged := l.exchange hdesks.line hcommand
      simp only []
      rw [← l.answer_eq hdesks.line hcommand, ← hdesks.address_eq]
      cases Answer.checked _ made.address with
      | error e =>
          exact ⟨⟨.error (handshakeFailure hsetup e), hexchanged, hdesks.created⟩,
            fun opened hopened => by cases hopened⟩
      | ok reply =>
          exact ⟨⟨.ok (l.ofReply reply hexchanged), hexchanged, hdesks.created⟩,
            fun _ _ => hresumable _ reply rfl⟩

theorem authenticates_eq (hsetup : setup.Alike l setup') {o o' : Opened} (h : l.opened o o') :
    setup.authenticates o = setup'.authenticates o' := by
  have hauthenticator := hsetup.authenticator
  rw [Setup.authenticates, Setup.authenticates, l.serverType_eq h]
  generalize setup.authenticator = a at hauthenticator ⊢
  generalize setup'.authenticator = a' at hauthenticator ⊢
  cases hauthenticator <;> rfl

theorem applyProbe {o o' : Opened} (h : l.opened o o') (answer : Answer) :
    l.opened (o.applyProbe answer) (o'.applyProbe answer) := by
  cases answer with
  | error e => exact h
  | ok reply =>
      simp only [Opened.applyProbe]
      cases StatusProbe.serverValue? reply with
      | none => exact h
      | some n => exact l.withServerValue n h

/-- The status probe cannot fail on either side, and adds the same. -/
theorem ends_probe (hsetup : setup.Alike l setup') {o o' : Opened} (hopened : l.opened o o')
    (h : l.Desks desk desk') :
    l.Ends l.opened ((Blocking.probe setup o).runAt desk)
      ((Blocking.probe setup' o').runAt desk') := by
  rw [Blocking.probe, Blocking.probe, ← l.needsProbe_eq hopened]
  by_cases hneeds : o.needsProbe = true
  · rw [if_pos hneeds, if_pos hneeds, Act.runAt_bind, Act.runAt_bind, Act.runAt_tried,
      Act.runAt_tried]
    have hanswered := ends_command h hsetup.probe
    have hanswer : ∀ {r r' : Except Error Document}, Paired l.errors Eq r r' →
        l.opened (o.applyProbe r) (o'.applyProbe r') := by
      intro r r' hpaired
      cases hpaired with
      | ok hdocument => exact hdocument ▸ applyProbe hopened _
      | error _ => exact hopened
    exact ⟨.ok (hanswer hanswered.result), hanswered.desks⟩
  · rw [if_neg hneeds, if_neg hneeds]
    exact ⟨.ok hopened, h⟩

theorem ends_acquaint (hsetup : setup.Alike l setup') {o o' : Opened} (hopened : l.opened o o')
    (hresumable : l.Resumable desk.speculation desk'.speculation) (h : l.Desks desk desk') :
    l.Ends l.opened ((Blocking.acquaint setup o).runAt desk)
      ((Blocking.acquaint setup' o').runAt desk') := by
  have hauthorized : l.Ends Eq ((Blocking.authorize setup o).runAt desk)
      ((Blocking.authorize setup' o').runAt desk') := by
    rw [Blocking.authorize, Blocking.authorize, ← authenticates_eq hsetup hopened]
    by_cases hdo : setup.authenticates o = true
    · rw [if_pos hdo, if_pos hdo]
      exact ends_authenticate hsetup.authenticator (l.negotiated_eq hopened) hresumable h
    · rw [if_neg hdo, if_neg hdo]
      exact ⟨.ok rfl, h⟩
  refine hauthorized.bind ?_
  intro _ _ next next' _ hnext
  exact ends_probe hsetup hopened hnext

/-- An opening keeps a likeness. -/
theorem ends_establish (hsetup : setup.Alike l setup') (hadmits : setup.Admits desk.speculation)
    (hadmits' : setup'.Admits desk'.speculation) (h : l.Desks desk desk') :
    l.Ends l.opened ((Blocking.establish setup).runAt desk)
      ((Blocking.establish setup').runAt desk') := by
  rcases ends_greet hsetup hadmits hadmits' h with ⟨⟨hresult, hdesks⟩, hresumable⟩
  rw [Blocking.establish, Blocking.establish, Act.runAt_bind, Act.runAt_bind]
  generalize (Blocking.greet setup).runAt desk = greeted at hresult hdesks hresumable ⊢
  generalize (Blocking.greet setup').runAt desk' = greeted' at hresult hdesks hresumable ⊢
  rcases greeted with ⟨result, greeted⟩
  rcases greeted' with ⟨result', greeted'⟩
  cases hresult with
  | error herror => exact ⟨.error herror, hdesks⟩
  | ok hopened => exact ends_acquaint hsetup hopened (hresumable _ rfl) hdesks

/-- Openings of two connections that have not been opened before keep a likeness, in
    whichever modes: their results are alike, and so is what they leave behind. -/
theorem openConnection (hsetup : setup.Alike l setup') (hadmits : setup.Admits desk.speculation)
    (hadmits' : setup'.Admits desk'.speculation) (h : l.Desks desk desk')
    (hfresh : desk.line.connection.stage = .uninitialized)
    (hfresh' : desk'.line.connection.stage = .uninitialized) (mode mode' : Mode) :
    ∃ result result' after after', mode.openConnection setup desk = (some result, after) ∧
      mode'.openConnection setup' desk' = (some result', after') ∧
      Paired l.errors l.opened result result' ∧ l.Desks after after' := by
  have hentered : l.Desks desk.entered desk'.entered := ⟨l.enter h.line, h.created⟩
  have hended : l.Ends l.opened ((Blocking.establish setup).runAt desk.entered)
      ((Blocking.establish setup').runAt desk'.entered) :=
    ends_establish hsetup hadmits hadmits' hentered
  refine ⟨_, _, _, _, mode.openConnection_of_fresh setup hfresh,
    mode'.openConnection_of_fresh setup' hfresh', ?_⟩
  exact ⟨hended.result, l.settle hended.desks.line hended.result, hended.desks.created⟩

end Likeness

end DocumentLink
