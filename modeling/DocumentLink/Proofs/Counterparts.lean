import DocumentLink.Authentication.Script
import DocumentLink.Proofs.Likeness
import DocumentLink.Session.Connections

/-!
# Counterparts

Two connections to one server that have the same answers to come differ only in
what the process happens to have counted and measured: the local value of the
connection, how long an exchange takes, how many provers the provider has made,
and the numbers in the journal. Nothing that an opening decides depends on these.

A provider may make a different prover each time. That what it makes does not
depend on the count is the one thing that has to be asked of it, since otherwise
the openings would be made with different provers.

The two connections may have sent different commands before. From some point on
they send the same, and that is what the likeness keeps.

## Main definitions

* `Provider.Uniform`: What a provider makes does not depend on what it has made.
* `Likeness.Exact`: Openings that send the same, meet the same and say the same.
* `Opened.anonymous`: A result without what was counted and measured.
* `Connection.shown`: What can be seen of a connection, without these.
* `Connection.Counterpart`: Two connections that differ only in these.
* `Line.Beside`: Such connections, and the commands they have both sent.
* `Likeness.counterparts`: The likeness of their openings.

## Theorems

* `Setup.alike_of_exact`, `Setup.alike_counterparts`: A setup with a uniform provider is
  like itself.
-/

namespace DocumentLink

/-- The provers made for the same mechanism and credential do the same, however many
    have been made before. -/
def Provider.Uniform (provider : Provider) : Prop :=
  ∀ n n' mechanism credential,
    provider.create n mechanism credential = provider.create n' mechanism credential

/-- Scripts are followed in the same way every time. -/
theorem Script.uniform_provider (script : Script) : script.provider.Uniform :=
  fun _ _ _ _ => rfl

/-- If an authenticator has a provider, it is a uniform one. -/
def Authenticator.Uniform : Authenticator → Prop
  | .none | .certificate .. => True
  | .negotiating login | .speculative login => login.provider.Uniform

/-- A likeness of openings that send the same commands, meet the same errors and have
    the same to say. -/
structure Likeness.Exact (l : Likeness) : Prop where
  commands_refl : ∀ command, l.commands command command
  errors_eq : l.errors = Eq
  data_eq : l.data = Eq
  opened_refl : ∀ opened, l.opened opened opened

section Exact

variable {l : Likeness} (hexact : l.Exact)
include hexact

theorem Credential.alike_of_exact (credential : Credential) : credential.Alike l credential := by
  intro e e' herror
  rw [hexact.errors_eq] at herror ⊢
  exact congrArg (Error.authentication credential) herror

theorem Prover.alike_of_exact (prover : Prover) : prover.Alike l prover where
  mechanism := rfl
  initial := by
    rw [hexact.data_eq]
    exact .refl l.errors_refl _
  answer _ := by
    rw [hexact.data_eq]
    exact .refl l.errors_refl _
  accept _ _ := .refl l.errors_refl _

/-- A login is like itself, however many provers have been made for it. -/
theorem Login.alike_of_exact (login : Login) (h : login.provider.Uniform) :
    login.Alike l login where
  mechanism := rfl
  credential := login.credential.alike_of_exact hexact
  create {n n'} mechanism _ := by
    rw [h n n']
    cases login.provider.create n' mechanism login.credential with
    | none => exact .none
    | some prover => exact .some (prover.alike_of_exact hexact)
  start {data data'} mechanism hdata := by
    rw [hexact.data_eq] at hdata
    rw [hdata]
    exact hexact.commands_refl _
  advance {data data'} conversation hdata := by
    rw [hexact.data_eq] at hdata
    rw [hdata]
    exact hexact.commands_refl _

/-- A setup is like itself, if its provider is uniform. -/
theorem Setup.alike_of_exact (setup : Setup) (h : setup.authenticator.Uniform) :
    setup.Alike l setup where
  authenticator := by
    cases hauthenticator : setup.authenticator with
    | none => exact .none
    | certificate credential api =>
        exact .certificate (credential.alike_of_exact hexact) (hexact.commands_refl _)
    | negotiating login =>
        rw [hauthenticator] at h
        exact .negotiating (login.alike_of_exact hexact h)
    | speculative login =>
        rw [hauthenticator] at h
        exact .speculative (login.alike_of_exact hexact h)
  plain := hexact.commands_refl _
  carrying mechanism hspeculative hspeculative' hdata := by
    have hown : Authenticator.speculative _ = .speculative _ :=
      hspeculative.symm.trans hspeculative'
    injection hown with hown
    rw [hexact.data_eq] at hdata
    rw [hown, hdata]
    exact hexact.commands_refl _
  probe := hexact.commands_refl _

end Exact

/-- A credential whose provers follow a script. -/
def Script.config (script : Script) (mechanism : Mechanism) : CredentialConfig :=
  ⟨(Credential.make "admin" (some "user") none).withMechanism mechanism, script.provider⟩

/-- The identity without the number that the client counts up. -/
def ConnectionId.anonymous (id : ConnectionId) : ConnectionId :=
  { id with localValue := 0 }

def ConnectionDescription.anonymous (d : ConnectionDescription) : ConnectionDescription :=
  { d with id := d.id.anonymous }

/-- The description without the time that was measured. -/
def ServerDescription.timeless (d : ServerDescription) : ServerDescription :=
  d.withRoundTripTime 0

/-- The result without what was counted and measured. -/
def Opened.anonymous (o : Opened) : Opened :=
  ⟨o.connection.anonymous, o.server.timeless⟩

/-- What a reply teaches about a connection depends on the identity as it was before. -/
theorem ConnectionDescription.anonymous_ofReply (id : ConnectionId) (reply : Document) :
    (ofReply id reply).anonymous = ofReply id.anonymous reply := by
  have hidentity : (identify id reply).anonymous = identify id.anonymous reply := by
    simp only [identify]
    cases StatusProbe.serverValue? reply <;> rfl
  rw [ofReply, ofReply, ← hidentity]
  rfl

namespace Opened

/-- What a reply teaches depends on the connection through its identity and address
    only, but for the numbers. -/
theorem anonymous_ofReply (c : Connection) (reply : Document) :
    (ofReply c reply).anonymous =
      ⟨.ofReply c.description.id.anonymous reply, .ofReply c.address reply 0⟩ := by
  rw [← ConnectionDescription.anonymous_ofReply]
  rfl

variable {o o' : Opened}

theorem anonymous_withServerValue (h : o.anonymous = o'.anonymous) (n : Int) :
    (o.withServerValue n).anonymous = (o'.withServerValue n).anonymous := by
  have hconnection := congrArg Opened.connection h
  have hserver := congrArg Opened.server h
  have hdescription : (o.connection.withServerValue n).anonymous =
      (o'.connection.withServerValue n).anonymous :=
    congrArg (fun d => ConnectionDescription.withServerValue d n) hconnection
  show Opened.mk _ o.server.timeless = Opened.mk _ o'.server.timeless
  exact congr (congrArg Opened.mk hdescription) hserver

end Opened

/-- What can be seen of a connection, without what was counted and measured. -/
def Connection.shown (c : Connection) : Stage × ConnectionDescription × Option ServerDescription :=
  (c.stage, c.description.anonymous, c.serverDescription.map ServerDescription.timeless)

/-- The commands that have been sent over the connection of a desk. -/
def Desk.sent (desk : Desk) : List Document :=
  desk.line.connection.transport.sent

theorem Desk.sent_settle (desk : Desk) (result : Except Error Opened) :
    (desk.settle result).sent = desk.sent := by
  cases result <;> rfl

/-- The desk of a connection to nowhere, with a fresh initializer. -/
def Desk.nowhere : Desk where
  line := ⟨Session.nowhere, {}⟩

/-- Two connections to one server that are at the same point of their lives and have
    the same answers to come. -/
structure Connection.Counterpart (c c' : Connection) : Prop where
  address : c.address = c'.address
  answers : c.transport.answers = c'.transport.answers
  exhausted : c.transport.exhausted = c'.transport.exhausted
  stage : c.stage = c'.stage
  description : c.description.anonymous = c'.description.anonymous
  serverDescription :
    c.serverDescription.map ServerDescription.timeless =
      c'.serverDescription.map ServerDescription.timeless

namespace Connection.Counterpart

variable {c c' : Connection}

theorem shown_eq (h : c.Counterpart c') : c.shown = c'.shown := by
  rw [shown, shown, h.stage, h.description, h.serverDescription]

theorem refl (c : Connection) : c.Counterpart c :=
  ⟨rfl, rfl, rfl, rfl, rfl, rfl⟩

theorem ofReply (h : c.Counterpart c') (reply : Document) :
    (Opened.ofReply c reply).anonymous = (Opened.ofReply c' reply).anonymous := by
  have hid : c.description.id.anonymous = c'.description.id.anonymous :=
    congrArg ConnectionDescription.id h.description
  rw [Opened.anonymous_ofReply, Opened.anonymous_ofReply, hid, h.address]

theorem entered (h : c.Counterpart c') :
    Counterpart { c with stage := .initializing } { c' with stage := .initializing } :=
  ⟨h.address, h.answers, h.exhausted, rfl, h.description, h.serverDescription⟩

/-- Counterparts give the same answer, whatever is sent, and stay counterparts. -/
theorem exchange {x y : Line} (h : x.connection.Counterpart y.connection) (command : Document) :
    (Blocking.exchange x command).1 = (Blocking.exchange y command).1 ∧
      (Blocking.exchange x command).2.connection.Counterpart
        (Blocking.exchange y command).2.connection := by
  rw [Blocking.exchange_fst, Blocking.exchange_fst, Line.connection_exchange,
    Line.connection_exchange, Transport.take, Transport.take, h.answers]
  simp only [Transport.take, Transport.send, h.answers]
  cases y.connection.transport.answers with
  | nil => exact ⟨congrArg Except.error h.exhausted,
      h.address, rfl, h.exhausted, h.stage, h.description, h.serverDescription⟩
  | cons answer rest => exact ⟨rfl,
      h.address, rfl, h.exhausted, h.stage, h.description, h.serverDescription⟩

/-- Storing the ends of two openings keeps counterparts, if the ends are the same. -/
theorem settle (h : c.Counterpart c') {r r' : Except Error Opened}
    (hresult : Paired Eq (fun o o' : Opened => o.anonymous = o'.anonymous) r r') :
    (c.settle r).Counterpart (c'.settle r') := by
  cases hresult with
  | error _ => exact ⟨h.address, h.answers, h.exhausted, rfl, h.description, h.serverDescription⟩
  | ok hopened =>
      exact ⟨h.address, h.answers, h.exhausted, rfl, congrArg Opened.connection hopened,
        congrArg (fun o => some (Opened.server o)) hopened⟩

end Connection.Counterpart

/-- Two counterparts that have sent the same commands since they had sent certain
    others. -/
structure Line.Beside (base base' : List Document) (x y : Line) : Prop where
  connection : x.connection.Counterpart y.connection
  sent : ∃ commands, x.connection.transport.sent = base ++ commands ∧
    y.connection.transport.sent = base' ++ commands

theorem Line.Beside.exchange {base base' : List Document} {x y : Line} (h : Beside base base' x y)
    (command : Document) :
    Beside base base' (Blocking.exchange x command).2 (Blocking.exchange y command).2 := by
  rcases h.sent with ⟨commands, hsent, hsent'⟩
  refine ⟨(h.connection.exchange command).2, commands ++ [command], ?_, ?_⟩
  · rw [Line.sent_exchange, hsent, List.append_assoc]
  · rw [Line.sent_exchange, hsent', List.append_assoc]

theorem Line.Beside.settle {base base' : List Document} {x y : Line} {r r' : Except Error Opened}
    (h : Beside base base' x y)
    (hresult : Paired Eq (fun o o' : Opened => o.anonymous = o'.anonymous) r r') :
    Beside base base' { x with connection := x.connection.settle r }
      { y with connection := y.connection.settle r' } := by
  refine ⟨h.connection.settle hresult, ?_⟩
  cases hresult with
  | ok _ => exact h.sent
  | error _ => exact h.sent

namespace Likeness

/-- The likeness of openings over counterparts: they send the same commands, meet the
    same errors and learn the same. -/
def counterparts (base base' : List Document) : Likeness where
  lines := Line.Beside base base'
  commands := Eq
  errors := Eq
  data := Eq
  counts _ _ := True
  opened o o' := o.anonymous = o'.anonymous
  address_eq h := h.connection.address
  note _ _ _ _ h := ⟨h.connection, h.sent⟩
  answer_eq h hcommand := hcommand ▸ (h.connection.exchange _).1
  exchange h hcommand := hcommand ▸ h.exchange _
  ofReply reply h := h.connection.ofReply reply
  enter h := ⟨h.connection.entered, h.sent⟩
  settle h hresult := h.settle hresult
  errors_refl _ := rfl
  kind_eq h := congrArg Error.kind h
  count _ := trivial
  serverType_eq h := congrArg (fun o => o.connection.serverType) h
  negotiated_eq h := congrArg (fun o => o.connection.negotiated) h
  needsProbe_eq h := congrArg (fun o => o.connection.id.serverValue.isNone) h
  withServerValue n h := Opened.anonymous_withServerValue h n

variable {base base' : List Document}

/-- Counterparts differ in nothing that an opening sends, meets or says. -/
theorem exact_counterparts : (counterparts base base').Exact where
  commands_refl _ := rfl
  errors_eq := rfl
  data_eq := rfl
  opened_refl _ := rfl

theorem alike_counterparts (prover : Prover) : prover.Alike (counterparts base base') prover :=
  prover.alike_of_exact exact_counterparts

/-- Desks of counterparts are alike from any moment on. -/
theorem desks_counterparts {desk desk' : Desk}
    (h : desk.line.connection.Counterpart desk'.line.connection) :
    (counterparts desk.sent desk'.sent).Desks desk desk' :=
  ⟨⟨h, [], (List.append_nil _).symm, (List.append_nil _).symm⟩, trivial⟩

/-- Results that are alike are the same but for the numbers. -/
theorem map_anonymous_of_paired {r r' : Except Error Opened}
    (h : Paired (counterparts base base').errors (counterparts base base').opened r r') :
    r.map Opened.anonymous = r'.map Opened.anonymous := by
  cases h with
  | ok hopened => exact congrArg Except.ok hopened
  | error herror => exact congrArg Except.error herror

end Likeness

open Likeness (counterparts)

variable {base base' : List Document}

theorem Login.alike_counterparts {login : Login} (h : login.provider.Uniform) :
    login.Alike (counterparts base base') login :=
  login.alike_of_exact Likeness.exact_counterparts h

/-- A setup is like itself over counterparts, if its provider is uniform. -/
theorem Setup.alike_counterparts {setup : Setup} {login : Login}
    (hlogin : setup.authenticator = .speculative login) (h : login.provider.Uniform) :
    setup.Alike (counterparts base base') setup := by
  refine setup.alike_of_exact Likeness.exact_counterparts ?_
  rw [hlogin]
  exact h

end DocumentLink
