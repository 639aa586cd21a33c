import DocumentLink.Proofs.Passwords
import Mathlib.Data.List.Forall2

/-!
# What a Listener Is Told

A listener is told twice about a command: before it is sent, and when it has been
answered. Two things are decided about it, and both can be checked against the
command and the answer alone.

The first is what is shown. A command that may carry secrets is not shown, and
neither is the reply to it. The verdict is made when the command is announced and
kept with its ticket, so it does not matter what else is done before the reply is
there. It disregards the letter case of names but for one: a handshake under its
new name is known in one spelling only, and under any other it is shown with the
step that it carries.

The second is how the command is said to have ended. That is how the transport
ended it. A reply that reports a failure is a reply, so the command is said to have
succeeded, and it is the client behind the connection that then makes an error of
the reply.

## Main definitions

* `Text.SameLetter`, `Text.SameText`: Equality but for the case of basic letters.
* `Command.Secret`: The commands that must not be shown.
* `Command.Respelt`: A handshake under its new name in another spelling.
* `Command.Hidden`: The commands that are not shown.
* `Document.ShownAs`: What is shown of a document.
* `Event.Starts`, `Event.Ends`: The two events of a command.
* `Ticket.started`, `Ticket.ended`: What they are for a ticket.
* `Line.watched`: The line with a listener that keeps what it is told.
* `Line.Tells`: What two events say about a command.

## Theorems

* `Handshake.foldCase_eq_iff`: Folding the case of names decides `Text.SameText`.
* `Command.isSensitive_iff`: Which commands are not shown.
* `Line.shown_unless_secret`: What is shown of a command and of the reply to it.
* `Line.Follows.events_eq`: What is told about a course.
* `Mode.success_told_iff`: When a command is said to have succeeded.
-/

namespace DocumentLink

namespace Text

/-- The same character, or the two cases of one letter of the basic alphabet. -/
def SameLetter (a b : Char) : Prop :=
  a = b ∨ (a.isUpper = true ∧ b.toNat = a.toNat + 32) ∨ (b.isUpper = true ∧ a.toNat = b.toNat + 32)

/-- The same text but for the case of basic letters. -/
def SameText (s t : String) : Prop :=
  List.Forall₂ SameLetter s.toList t.toList

theorem isUpper_iff (c : Char) : c.isUpper = true ↔ 65 ≤ c.toNat ∧ c.toNat ≤ 90 :=
  decide_eq_true_iff

theorem toNat_toLower (c : Char) :
    c.toLower.toNat = if c.isUpper = true then c.toNat + 32 else c.toNat := by
  by_cases hupper : c.isUpper = true
  · have hrange := (isUpper_iff c).mp hupper
    have hlower : c.toLower.val = c.val + 32 := congrArg Char.val (dif_pos hrange)
    rw [if_pos hupper]
    show c.toLower.val.toNat = c.val.toNat + 32
    have hsmall : c.val.toNat ≤ 90 := hrange.2
    rw [hlower, UInt32.toNat_add]
    show (c.val.toNat + 32) % 4294967296 = _
    omega
  · have hlower : c.toLower = c := dif_neg fun hrange => hupper ((isUpper_iff c).mpr hrange)
    rw [if_neg hupper, hlower]

theorem toLower_eq_iff (a b : Char) : a.toLower = b.toLower ↔ SameLetter a b := by
  have hlower : a.toLower = b.toLower ↔ a.toLower.toNat = b.toLower.toNat :=
    ⟨congrArg Char.toNat, fun h => Char.ext (UInt32.toNat_inj.mp h)⟩
  have hsame : a = b ↔ a.toNat = b.toNat :=
    ⟨congrArg Char.toNat, fun h => Char.ext (UInt32.toNat_inj.mp h)⟩
  rw [hlower, toNat_toLower, toNat_toLower, SameLetter, hsame]
  simp only [isUpper_iff]
  split <;> split <;> omega

end Text

/-- Names are compared without regard to the case of basic letters. -/
theorem Handshake.foldCase_eq_iff (s t : String) : foldCase s = foldCase t ↔ Text.SameText s t := by
  rw [foldCase, foldCase, Text.SameText, ← List.forall₂_eq_eq_eq, List.forall₂_map_left_iff,
    List.forall₂_map_right_iff]
  simp only [Text.toLower_eq_iff]

namespace Command

/-- A command that must not be shown: its name is that of a command which may carry
    secrets, or that of a handshake and it carries a step of an authentication. The case
    of letters does not matter. -/
inductive Secret (command : Document) : Prop where
  | named {name listed : String} (hname : command.name? = some name)
      (hlisted : listed ∈ sensitiveNames) (hsame : Text.SameText listed name)
  | carrying {name : String} (hname : command.name? = some name)
      (hhandshake : Text.SameText Handshake.helloName name ∨
        Text.SameText Handshake.legacyName name)
      (hstep : command.contains Handshake.speculativeKey = true)

/-- A handshake under its new name, in another spelling than that of the name. -/
def Respelt (command : Document) : Prop :=
  ∃ name, command.name? = some name ∧ name ≠ Handshake.helloName ∧
    Text.SameText Handshake.helloName name

theorem isName_iff (name : String) :
    Handshake.isName name = true ↔
      name = Handshake.helloName ∨ Text.SameText Handshake.legacyName name := by
  rw [Handshake.isName, Bool.or_eq_true, decide_eq_true_eq, decide_eq_true_eq,
    eq_comm (a := Handshake.foldCase name), Handshake.foldCase_eq_iff]

/-- A command that may carry secrets is no handshake, however it is spelt. -/
theorem not_sameText_of_listed {name listed : String} (hlisted : listed ∈ sensitiveNames)
    (hsame : Text.SameText listed name) :
    ¬ Text.SameText Handshake.helloName name ∧ ¬ Text.SameText Handshake.legacyName name := by
  have hnames : ∀ other ∈ sensitiveNames,
      Handshake.foldCase Handshake.helloName ≠ Handshake.foldCase other ∧
        Handshake.foldCase Handshake.legacyName ≠ Handshake.foldCase other := by
    decide
  rw [← Handshake.foldCase_eq_iff] at hsame
  rw [← Handshake.foldCase_eq_iff, ← Handshake.foldCase_eq_iff, ← hsame]
  exact hnames listed hlisted

section Named

variable {command : Document} {name : String}

theorem name_unique {other : String} (hname : command.name? = some name)
    (hother : command.name? = some other) : other = name :=
  Option.some.inj (hother.symm.trans hname)

/-- A handshake must not be shown exactly if it carries a step. -/
theorem secret_iff_of_isName (hname : command.name? = some name)
    (hhandshake : Handshake.isName name = true) :
    Secret command ∧ ¬ Respelt command ↔ command.contains Handshake.speculativeKey = true := by
  have hspelt := (isName_iff name).mp hhandshake
  constructor
  · rintro ⟨hsecret, _⟩
    cases hsecret with
    | carrying _ _ hstep => exact hstep
    | named hother hlisted hsame =>
        rw [name_unique hname hother] at hsame
        rcases not_sameText_of_listed hlisted hsame with ⟨hhello, hlegacy⟩
        rcases hspelt with rfl | hspelt
        · exact absurd ((Handshake.foldCase_eq_iff _ _).mp rfl) hhello
        · exact absurd hspelt hlegacy
  · intro hstep
    refine ⟨.carrying hname ?_ hstep, ?_⟩
    · rcases hspelt with rfl | hlegacy
      · exact .inl ((Handshake.foldCase_eq_iff _ _).mp rfl)
      · exact .inr hlegacy
    · rintro ⟨other, hother, hne, hhello⟩
      rw [name_unique hname hother] at hne hhello
      rcases hspelt with heq | hlegacy
      · exact hne heq
      · -- The two names of a handshake differ in more than case.
        rw [← Handshake.foldCase_eq_iff] at hhello hlegacy
        exact absurd (hhello.trans hlegacy.symm) (by decide)

/-- A command that is not taken for a handshake must not be shown exactly if it may carry
    secrets, unless it is a handshake whose new name is spelt in another way. -/
theorem secret_iff_of_not_isName (hname : command.name? = some name)
    (hplain : ¬ Handshake.isName name = true) :
    Secret command ∧ ¬ Respelt command ↔
      ∃ listed ∈ sensitiveNames, Text.SameText listed name := by
  rw [isName_iff, not_or] at hplain
  constructor
  · rintro ⟨hsecret, hrespelt⟩
    cases hsecret with
    | named hother hlisted hsame =>
        rw [name_unique hname hother] at hsame
        exact ⟨_, hlisted, hsame⟩
    | carrying hother hspelt _ =>
        rw [name_unique hname hother] at hspelt
        rcases hspelt with hhello | hlegacy
        · exact absurd ⟨name, hname, hplain.1, hhello⟩ hrespelt
        · exact absurd hlegacy hplain.2
  · rintro ⟨listed, hlisted, hsame⟩
    refine ⟨.named hname hlisted hsame, ?_⟩
    rintro ⟨other, hother, _, hhello⟩
    rw [name_unique hname hother] at hhello
    exact (not_sameText_of_listed hlisted hsame).1 hhello

end Named

/-- A command is taken for one that may carry secrets exactly if it must not be shown,
    unless it is a handshake whose new name is spelt in another way. -/
theorem isSensitive_iff (command : Document) :
    isSensitive command = true ↔ Secret command ∧ ¬ Respelt command := by
  rw [isSensitive]
  cases hname : command.name? with
  | none =>
      simp only [Bool.false_eq_true, false_iff, not_and]
      intro hsecret
      cases hsecret with
      | named hsome => rw [hname] at hsome; cases hsome
      | carrying hsome => rw [hname] at hsome; cases hsome
  | some name =>
      simp only []
      split
      · rename_i hhandshake
        rw [secret_iff_of_isName hname hhandshake]
      · rename_i hplain
        rw [secret_iff_of_not_isName hname hplain]
        simp only [List.any_eq_true, decide_eq_true_eq, Handshake.foldCase_eq_iff]

/-- What is hidden of commands: those that must not be shown, but for a handshake whose
    new name is spelt in another way. -/
def Hidden (command : Document) : Prop :=
  Secret command ∧ ¬ Respelt command

end Command

/-- What is shown of a document: nothing of one that is hidden, and any other as it is. -/
inductive Document.ShownAs (document : Document) (hidden : Prop) : Document → Prop where
  | empty (h : hidden) : ShownAs document hidden .empty
  | whole (h : ¬ hidden) : ShownAs document hidden document

/-- Commands are shown by the verdict on them, and so is any other document. -/
theorem Command.shownAs_redact (command document : Document) :
    document.ShownAs (Hidden command) (redact document (isSensitive command)) := by
  rw [redact]
  split
  · rename_i hsensitive
    exact .empty ((isSensitive_iff command).mp hsensitive)
  · rename_i hplain
    exact .whole fun hhidden => hplain ((isSensitive_iff command).mpr hhidden)

namespace Event

/-- An event that is told before a command is sent. -/
inductive Starts (request : Nat) (name : String) (command : Document) : Event → Prop where
  | started {id database shown} (h : command.ShownAs (Command.Hidden command) shown) :
      Starts request name command (.started request id database name shown)

/-- An event that is told when a command has been answered. The reply is shown if the
    command was. -/
inductive Ends (request : Nat) (name : String) (command : Document) : Answer → Event → Prop where
  | succeeded {id reply shown} (h : reply.ShownAs (Command.Hidden command) shown) :
      Ends request name command (.ok reply) (.succeeded request id name shown)
  | failed {id e} : Ends request name command (.error e) (.failed request id name e.copy)

/-- The number of the command that is told about. -/
def request : Event → Nat
  | started request .. | succeeded request .. | failed request .. => request

/-- The connection that is told about, as it is known when it is told. -/
def connection : Event → ConnectionId
  | started _ connection .. | succeeded _ connection .. | failed _ connection .. => connection

/-- Whether a command is said to have succeeded. -/
def isSuccess : Event → Bool
  | succeeded .. => true
  | started .. | failed .. => false

/-- The error, if a command is said to have failed. -/
def error? : Event → Option Error
  | failed _ _ _ e => some e
  | started .. | succeeded .. => none

end Event

namespace Ticket

variable (ticket : Ticket) (id : ConnectionId) {command : Document}

/-- What is told before the command of a ticket is sent. -/
def started (command : Document) : Event :=
  .started ticket.request id ((command.string? Command.databaseKey).getD "") ticket.name
    (Command.redact command ticket.sensitive)

/-- What is told when it has been answered, whatever has been done since. -/
def ended (answer : Answer) : Event :=
  match answer with
  | .ok reply =>
    .succeeded ticket.request id ticket.name (Command.redact reply ticket.sensitive)
  | .error e => .failed ticket.request id ticket.name e.copy

theorem starts_started (hsensitive : ticket.sensitive = Command.isSensitive command) :
    (ticket.started id command).Starts ticket.request ticket.name command := by
  refine .started ?_
  rw [hsensitive]
  exact Command.shownAs_redact command command

theorem ends_ended (hsensitive : ticket.sensitive = Command.isSensitive command)
    (answer : Answer) :
    (ticket.ended id answer).Ends ticket.request ticket.name command answer := by
  cases answer with
  | ok reply =>
      refine .succeeded ?_
      rw [hsensitive]
      exact Command.shownAs_redact command reply
  | error e => exact .failed

theorem request_ended (answer : Answer) : (ticket.ended id answer).request = ticket.request := by
  cases answer <;> rfl

theorem connection_ended (answer : Answer) : (ticket.ended id answer).connection = id := by
  cases answer <;> rfl

end Ticket

namespace Line

/-- The line with a listener that keeps what it is told. -/
def watched (line : Line) : Line :=
  { line with connection.listener := some .recording }

theorem tellStarted_some (line : Line) (ticket : Ticket) (command : Document) :
    line.tellStarted (some ticket) command = { line with
      journal := line.journal.tell ticket.listener
        (ticket.started line.connection.description.id command) } :=
  rfl

theorem report_some (line : Line) (ticket : Ticket) (answer : Answer) :
    line.report (some ticket) answer = { line with
      journal := line.journal.tell ticket.listener
        (ticket.ended line.connection.description.id answer) } := by
  cases answer <;> rfl

/-- What is told before a command is sent. -/
def started (line : Line) (command : Document) : Event :=
  .started line.journal.nextRequest line.connection.description.id
    ((command.string? Command.databaseKey).getD "") (command.name?.getD "")
    (Command.redact command (Command.isSensitive command))

/-- Without a listener no command is announced. -/
theorem announce_of_none (line : Line) (h : line.connection.listener = none)
    (command : Document) : line.announce command = (none, line) := by
  simp only [announce, number, tellStarted, h]

theorem announce_of_some (line : Line) {listener : Listener}
    (h : line.connection.listener = some listener) (command : Document) :
    line.announce command =
      (some ⟨listener, line.journal.nextRequest, command.name?.getD "",
          Command.isSensitive command⟩,
        { line with
          journal := line.journal.takeRequest.2.tell listener (line.started command) }) := by
  simp only [announce, number, tellStarted, h]
  rfl

theorem starts_started (line : Line) (command : Document) :
    (line.started command).Starts line.journal.nextRequest (command.name?.getD "") command :=
  .started (Command.shownAs_redact command command)

/-- An exchange tells a listener two things. -/
theorem told_eq_started (line : Line) (command : Document) (answer : Answer) :
    ∃ ended, line.told command answer = [line.started command, ended] ∧
      ended.Ends line.journal.nextRequest (command.name?.getD "") command answer := by
  cases answer with
  | ok reply => exact ⟨_, rfl, .succeeded (Command.shownAs_redact command reply)⟩
  | error e => exact ⟨_, rfl, .failed⟩

/-- What a listener is told of an exchange on a line that it watches. -/
theorem events_exchange_watched (line : Line) (command : Document) :
    ∃ ended, (Blocking.exchange line.watched command).2.journal.events =
        line.journal.events ++ [line.watched.started command, ended] ∧
      ended.Ends line.journal.nextRequest (command.name?.getD "") command
        (Blocking.exchange line.watched command).1 := by
  rcases line.watched.told_eq_started command line.watched.connection.transport.take.1 with
    ⟨ended, htold, hends⟩
  refine ⟨ended, ?_, ?_⟩
  · rw [(line.watched.journal_exchange command).1,
      show line.watched.connection.listener = some .recording from rfl, if_pos rfl, htold]
    rfl
  · rw [Blocking.exchange_fst]
    exact hends

/-- What is shown of a command and of the reply to it. A listener is told of every
    command before it is sent. It is shown nothing of one that must not be shown, unless
    that is a handshake under its new name in another spelling, and of any other command
    everything. A reply that is taken later, whatever has been done in between, is shown
    by the same verdict. In either mode these two events are all that an exchange tells. -/
theorem shown_unless_secret (line : Line) (command : Document) :
    ∃ ticket started,
      (line.watched.announce command).1 = some ticket ∧
      (line.watched.announce command).2.journal.events = line.journal.events ++ [started] ∧
      started.Starts ticket.request ticket.name command ∧
      (∀ (later : Line) (answer : Answer), ∃ ended,
        (later.report (some ticket) answer).journal.events = later.journal.events ++ [ended] ∧
        ended.Ends ticket.request ticket.name command answer) ∧
      ∀ mode : Mode, ∃ ended,
        (mode.exchange line.watched command).2.journal.events =
          line.journal.events ++ [started, ended] ∧
        ended.Ends ticket.request ticket.name command (mode.exchange line.watched command).1 := by
  let ticket : Ticket :=
    ⟨.recording, line.journal.nextRequest, command.name?.getD "", Command.isSensitive command⟩
  refine ⟨ticket, line.watched.started command, rfl, rfl, line.watched.starts_started command,
    fun later answer => ?_, fun mode => ?_⟩
  · have hsensitive : ticket.sensitive = Command.isSensitive command := rfl
    rw [later.report_some]
    exact ⟨_, rfl, ticket.ends_ended _ hsensitive answer⟩
  rw [show mode.exchange line.watched command = Blocking.exchange line.watched command by
    cases mode <;> rfl]
  exact line.events_exchange_watched command

/-- What two events say about a command, the transport's answer to it and what a client
    made of the answer: they belong to the command; it is said to have succeeded if it
    did, and also if it failed with a reply; and it is said to have failed with the error
    that the client got. -/
structure Tells (command : Document) (answer result : Answer) (told : Event × Event) : Prop where
  paired : ∃ request name, told.1.Starts request name command ∧
    told.2.Ends request name command answer
  success_iff : told.2.isSuccess = true ↔
    (∃ reply, result = .ok reply) ∨ ∃ reply, answer = .ok reply ∧ reply.isOk = false
  error_eq : ∀ e, told.2.error? = some e → ∃ own, result = .error own ∧ e = own.copy

theorem tells_of_ends {request : Nat} {name : String} {command : Document} {answer : Answer}
    {started ended : Event} (hstarts : started.Starts request name command)
    (hends : ended.Ends request name command answer) (address : Address) :
    Tells command answer (answer.checked address) (started, ended) := by
  refine ⟨⟨request, name, hstarts, hends⟩, ?_, ?_⟩
  · cases hends with
    | @succeeded _ reply _ _ =>
        -- a reply is either good, and then it is the result, or it reports a failure
        refine ⟨fun _ => ?_, fun _ => rfl⟩
        cases hok : reply.isOk with
        | true => exact .inl ⟨reply, Answer.checked_eq_ok.mpr ⟨rfl, hok⟩⟩
        | false => exact .inr ⟨reply, rfl, hok⟩
    | failed =>
        constructor
        · intro hsuccess
          cases hsuccess
        · rintro (⟨reply, hresult⟩ | ⟨reply, hanswer, _⟩)
          · cases hresult
          · cases hanswer
  · intro e herror
    cases hends with
    | succeeded => cases herror
    | failed =>
        injection herror with herror
        exact ⟨_, rfl, herror.symm⟩

/-- A listener is told of all exchanges of a course, one after the other. -/
theorem Follows.events_eq {observed : Bool} {line after : Line} {course : Course}
    (h : line.Follows observed course after) (address : Address)
    (hlistener : line.connection.listener = some .recording) :
    ∃ tellings : List (Event × Event),
      after.journal.events =
        line.journal.events ++ tellings.flatMap (fun told => [told.1, told.2]) ∧
      List.Forall₂ (fun exchange told =>
        Tells exchange.1 exchange.2 (exchange.2.checked address) told)
        course.exchanges tellings := by
  induction h with
  | refl line => exact ⟨[], (List.append_nil _).symm, .nil⟩
  | @exchanged line after command course _ ih =>
      have hwatched : line.watched = line := by
        rw [watched, ← hlistener]
      rcases line.events_exchange_watched command with ⟨ended, hevents, hends⟩
      rw [hwatched] at hevents hends
      rcases ih (by rw [connection_exchange]; exact hlistener) with ⟨tellings, hrest, htells⟩
      refine ⟨(line.started command, ended) :: tellings, ?_, ?_⟩
      · rw [hrest, hevents, List.append_assoc]
        rfl
      · exact .cons (tells_of_ends (line.starts_started command) hends address) htells
  | @asked line after call course _ ih =>
      rcases ih hlistener with ⟨tellings, hrest, htells⟩
      refine ⟨tellings, ?_, htells⟩
      rw [hrest, Journal.note]
      split <;> rfl

end Line

/-- When a command is said to have succeeded. Execute a command in either mode over a
    connection with a listener, or open a connection with one. The listener is told of
    each command by a pair of events. It is told of a success exactly if the execution
    succeeded or the server replied that the command had failed; and if it is told of a
    failure, the execution failed with that error. -/
theorem Mode.success_told_iff (mode : Mode) :
    (∀ (line : Line) (database : String) (command : Document) (api : Option ServerApi),
      ∃ told : Event × Event,
        (mode.execute line.watched database command api).2.journal.events =
          line.journal.events ++ [told.1, told.2] ∧
        Line.Tells (Command.prepare command database api) line.connection.transport.take.1
          (mode.execute line.watched database command api).1 told) ∧
    ∀ (setup : Setup) (transport : Transport) (id : ConnectionId) (journal : Journal)
      (created : Nat),
      ∃ result after exchanges tellings,
        mode.openConnection setup (.fresh transport id (some .recording) journal created) =
          (some result, after) ∧
        after.line.connection.transport.sent = transport.sent ++ exchanges.map Prod.fst ∧
        (∀ i command answer, exchanges[i]? = some (command, answer) →
          answer = transport.answer i) ∧
        after.line.journal.events =
          journal.events ++ tellings.flatMap (fun told => [told.1, told.2]) ∧
        List.Forall₂ (fun exchange told =>
          Line.Tells exchange.1 exchange.2 (exchange.2.checked transport.address) told)
          exchanges tellings := by
  constructor
  · intro line database command api
    rw [execute_eq]
    rcases line.events_exchange_watched (Command.prepare command database api) with
      ⟨ended, hevents, hends⟩
    refine ⟨(line.watched.started _, ended), hevents, ?_⟩
    rw [Blocking.exchange_fst] at hends
    have htells := Line.tells_of_ends (line.watched.starts_started _) hends
      line.watched.connection.address
    have hresult : (Blocking.execute line.watched database command api).1 =
        Answer.checked line.connection.transport.take.1 line.watched.connection.address := by
      rw [← Line.address_exchange line.watched (Command.prepare command database api),
        show line.connection.transport.take.1 = line.watched.connection.transport.take.1 from rfl,
        ← Blocking.exchange_fst line.watched (Command.prepare command database api)]
      rfl
    rw [hresult]
    exact htells
  · intro setup transport id journal created
    have hstage : (Desk.fresh transport id (some .recording) journal
        created).line.connection.stage = .uninitialized := rfl
    rcases mode.course_openConnection setup hstage with
      ⟨course, result, after, hopened, hperforms, _⟩
    have hsent := hperforms.sent_eq
    rcases hperforms with ⟨settling, hfollows, hafter⟩
    rcases hfollows.events_eq transport.address rfl with ⟨tellings, hevents, htells⟩
    refine ⟨result, after, course.exchanges, tellings, hopened, hsent,
      fun i command answer hi => hfollows.answer_eq hi, ?_, htells⟩
    rw [hafter]
    exact hevents

end DocumentLink
