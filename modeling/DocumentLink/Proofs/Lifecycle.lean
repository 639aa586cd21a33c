import DocumentLink.Proofs.Modes
import DocumentLink.Session.Connections

/-!
# The Life of a Connection

A connection is shared by calls that open it and by commands of the application.
What anyone can see of it besides is its stage and its two descriptions. These
three are stored one after the other, so an observer may look at any moment,
also when an opening has stored some of its end and not the rest.

Here every such moment is a state. A call enters the opening, goes from one wait
to the next, and then makes its stores one by one; commands of the application
are sent and answered in between, and nothing orders the steps of one call
against those of another. `Opener.outcome_go` says that these steps, taken one
after the other, are the opening in the mode of the call.

The stage is stored last. So a connection that is seen to be ready has both
descriptions of the opening that won, and one that was never opened, or whose
opening failed, is described as it was when it was made.

## Main definitions

* `Connection.rewired`: A connection over another transport.
* `Connection.known`: What can be seen of a connection.
* `Opened.Concerns`: What an opening has learned is about a connection.
* `Opener`: A call that opens the connection, and how far it has come.
* `Opener.go`, `Opener.drop`: Take a step of a call, or drop it.
* `Opener.Owns`: What is known of the call that has entered the opening.
* `Opener.Lost`: What is known of every other call.
* `Life`: A connection with the calls and the commands that use it.
* `Life.Turn`, `Life.step`, `Life.run`: What may be done, in any order.
* `Life.Sound`: The invariant of lives.
* `Life.Lawful`: What can be seen of the connection at every moment.

## Theorems

* `Suspending.concerns_greet`, `Suspending.concerns_continueOpening`: What an opening
  learns is about its connection.
* `Opener.outcome_go`: A step is a part of what is left to be done.
* `Life.Sound.step`, `Life.run_sound`: Turns keep the invariant.
* `Life.Sound.ready`, `Life.Sound.returned`, `Life.Sound.unopened`: What the invariant says
  at the ends of an opening.
* `Life.run_lawful`: What holds of every life.
-/

namespace DocumentLink

namespace Connection

/-- The connection over another transport. -/
def rewired (c : Connection) (t : Transport) : Connection :=
  { c with transport := t }

/-- The connection with its opening entered. -/
def entered (c : Connection) : Connection :=
  { c with stage := .initializing }

/-- Entering the opening changes the stage only. -/
theorem eq_entered_of_begin {c entered : Connection} (h : c.begin = .ok entered) :
    entered = c.entered := by
  rw [begin] at h
  split at h
  · injection h with h
    exact h.symm
  · cases h

/-- What can be seen of a connection. -/
def known (c : Connection) : Stage × ConnectionDescription × Option ServerDescription :=
  (c.stage, c.description, c.serverDescription)

/-- The connection with what can be seen of it as it was before. -/
def withholding (c before : Connection) : Connection :=
  { c with
    stage := before.stage
    description := before.description
    serverDescription := before.serverDescription }

/-- Make stores, one after the other. -/
def storing (c : Connection) (stores : List (Connection → Connection)) : Connection :=
  stores.foldl (fun c store => store c) c

theorem storing_concat (c : Connection) (stores : List (Connection → Connection))
    (store : Connection → Connection) :
    c.storing (stores ++ [store]) = store (c.storing stores) := by
  rw [storing, List.foldl_append]
  rfl

/-- What is stored does not depend on the transport. -/
theorem store_rewired {result : Except Error Opened} {store : Connection → Connection}
    (h : store ∈ settlements result) (c : Connection) (t : Transport) :
    store (c.rewired t) = (store c).rewired t := by
  cases result with
  | error e =>
      rw [List.mem_singleton.mp h]
      rfl
  | ok opened =>
      simp only [settlements, List.mem_cons, List.not_mem_nil, or_false] at h
      rcases h with rfl | rfl | rfl <;> rfl

/-- What is stored leaves the transport alone. -/
theorem transport_storing {result : Except Error Opened} {stores : List (Connection → Connection)}
    (h : ∀ store ∈ stores, store ∈ settlements result) (c : Connection) :
    (c.storing stores).transport = c.transport := by
  induction stores generalizing c with
  | nil => rfl
  | cons store stores ih =>
      obtain ⟨hstore, hstores⟩ := List.forall_mem_cons.mp h
      have hsame : store c = (store c).rewired c.transport := store_rewired hstore c c.transport
      calc ((store c).storing stores).transport
          = (store c).transport := ih hstores (store c)
        _ = ((store c).rewired c.transport).transport := congrArg Connection.transport hsame
        _ = c.transport := rfl

/-- What has been settled is taken back, and nothing else is. -/
theorem withholding_settle {c before : Connection} {t : Transport} (h : c = before.rewired t)
    (result : Except Error Opened) : (c.settle result).withholding before = c := by
  rw [h]
  cases result <;> rfl

end Connection

/-- What an opening has learned is about the connection with an identity: about the
    same server, and with the same local value. -/
structure Opened.Concerns (opened : Opened) (id : ConnectionId) : Prop where
  server : opened.connection.id.server = id.server
  localValue : opened.connection.id.localValue = id.localValue

theorem Opened.concerns_ofReply (c : Connection) (reply : Document) :
    (Opened.ofReply c reply).Concerns c.description.id := by
  have hidentity : (Opened.ofReply c reply).connection.id =
      ConnectionDescription.identify c.description.id reply := rfl
  constructor <;> rw [hidentity, ConnectionDescription.identify] <;>
    cases StatusProbe.serverValue? reply <;> rfl

theorem Opened.Concerns.applyProbe {opened : Opened} {id : ConnectionId}
    (h : opened.Concerns id) (answer : Answer) : (opened.applyProbe answer).Concerns id := by
  cases answer with
  | error e => exact h
  | ok reply =>
      rw [Opened.applyProbe]
      cases StatusProbe.serverValue? reply with
      | none => exact h
      | some value => exact ⟨h.server, h.localValue⟩

namespace Suspending

/-- What a suspended opening has in hand is about a connection. -/
def Waiting.Concerns (id : ConnectionId) : Waiting → Prop
  | .handshake _ => True
  | .authentication opened _ | .probe opened _ => opened.Concerns id

end Suspending

/-- So is what an opening has come to. -/
def Progress.Concerns (id : ConnectionId) : Progress Suspending.Waiting Opened → Prop
  | .suspended waiting => waiting.Concerns id
  | .finished (.ok opened) => opened.Concerns id
  | .finished (.error _) => True

namespace Suspending

variable {id : ConnectionId}

theorem concerns_probe (setup : Setup) {opened : Opened} (h : opened.Concerns id) (desk : Desk) :
    ((probe setup opened).run desk).1.Concerns id := by
  rw [probe]
  cases opened.needsProbe with
  | true => exact h
  | false => exact h

theorem concerns_afterAuthentication (setup : Setup) {opened : Opened} (h : opened.Concerns id)
    (progress : Progress Authenticating Unit) (desk : Desk) :
    ((afterAuthentication setup opened progress).run desk).1.Concerns id := by
  cases progress with
  | suspended waiting => exact h
  | finished result =>
      cases result with
      | error e => exact trivial
      | ok done => exact concerns_probe setup h desk

theorem concerns_afterHandshake (setup : Setup) (reply : Document) {desk : Desk}
    (h : desk.line.connection.description.id = id) :
    ((afterHandshake setup reply).run desk).1.Concerns id := by
  have hlearned : ((setup.learn reply).run desk).1.Concerns id := by
    rw [Setup.run_learn, ← h]
    exact Opened.concerns_ofReply _ reply
  show Progress.Concerns id
    (StateT.run (if setup.authenticates _ then _ else _ : StateM Desk _) _).1
  split
  · exact concerns_afterAuthentication setup hlearned _ _
  · exact concerns_probe setup hlearned _

theorem concerns_greet (setup : Setup) (desk : Desk) :
    ((greet setup).run desk).1.Concerns id := by
  rw [run_greet]
  cases (setup.handshake.runAt desk).1 with
  | error e => exact trivial
  | ok document => exact trivial

/-- What an opening that goes on has in hand stays about its connection. -/
theorem concerns_continueOpening (setup : Setup) {waiting : Waiting} {desk : Desk}
    (hid : desk.line.connection.description.id = id) (h : waiting.Concerns id) :
    ((continueOpening setup waiting).run desk).1.Concerns id := by
  cases waiting with
  | handshake ticket =>
      -- Taking the answer leaves the description alone, from which the identity is read.
      have hanswered : ((receive ticket).runAt desk).2.line.connection.description.id = id := by
        rw [(receive_cases ticket desk).1]
        exact hid
      rw [run_continueOpening_handshake]
      cases ((receive ticket).runAt desk).1 with
      | error e => exact trivial
      | ok reply => exact concerns_afterHandshake setup reply hanswered
  | authentication opened waiting =>
      rw [run_continueOpening_authentication]
      exact concerns_afterAuthentication setup h _ _
  | probe opened ticket => exact h.applyProbe _

end Suspending

/-- How far a call that opens the connection has come. -/
inductive Opener.Status where
  | idle
  /-- The call has entered the opening, and done nothing else. -/
  | entered
  | waiting (waiting : Suspending.Waiting)
  /-- The end of the opening is known, and so many of its stores have been made. The call
      returns with the last of them. -/
  | ending (result : Except Error Opened) (stored : Nat)
  /-- The connection had been opened before. -/
  | refused (e : Error)
  | dropped

/-- A call that opens the connection: its mode, what it opens with, and how far it has
    come. -/
structure Opener where
  mode : Mode
  seat : Seat
  status : Opener.Status := .idle

namespace Opener

def Status.ofProgress : Progress Suspending.Waiting Opened → Status
  | .suspended place => .waiting place
  | .finished result => .ending result 0

def desk (opener : Opener) (line : Line) : Desk where
  line := line
  speculation := opener.seat.speculation
  created := opener.seat.created

/-- Take a step of an opening. What it would store at its end is left to be stored. -/
def advance (opener : Opener) (line : Line)
    (step : StateM Desk (Progress Suspending.Waiting Opened)) : Opener × Line :=
  let (progress, desk) := step.run (opener.desk line)
  ({ opener with seat := Session.Seat.after opener.seat desk, status := .ofProgress progress },
    { desk.line with connection := desk.line.connection.withholding line.connection })

/-- Take a step of a call: enter the opening or be refused, go on to the next wait, or make
    one store. A call that has returned or has been dropped does nothing. -/
def go (opener : Opener) (line : Line) : Opener × Line :=
  match opener.status with
  | .idle =>
    match line.connection.begin with
    | .error e => ({ opener with status := .refused e }, line)
    | .ok connection => ({ opener with status := .entered }, { line with connection := connection })
  | .entered => opener.advance line (Suspending.greet opener.seat.setup)
  | .waiting waiting => opener.advance line (Suspending.continueOpening opener.seat.setup waiting)
  | .ending result stored =>
    match (Connection.settlements result)[stored]? with
    | some store =>
      ({ opener with status := .ending result (stored + 1) },
        { line with connection := store line.connection })
    | none => (opener, line)
  | .refused _ | .dropped => (opener, line)

/-- Drop a call. Only one that suspends can be dropped, before it begins or where it waits. -/
def drop (opener : Opener) : Opener :=
  match opener.mode, opener.status with
  | .suspending, .idle | .suspending, .waiting _ => { opener with status := .dropped }
  | _, _ => opener

/-- What a call has returned. -/
def result? (opener : Opener) : Option (Except Error Opened) :=
  match opener.status with
  | .ending result stored =>
    if stored = (Connection.settlements result).length then some result else none
  | .refused e => some (.error e)
  | _ => none

/-- What a call comes to if nothing else is done from now on. One that has not begun runs in
    its own mode. -/
def outcome (opener : Opener) (line : Line) : Option (Except Error Opened) × Desk :=
  match opener.status with
  | .idle => opener.mode.openConnection opener.seat.setup (opener.desk line)
  | .entered =>
    let (result, desk) :=
      (Blocking.establish opener.seat.setup).settled.runAt (opener.desk line)
    (some result, desk)
  | .waiting waiting =>
    let (result, desk) := (waiting.rest opener.seat.setup).runAt (opener.desk line)
    (some result, desk)
  | .ending result stored =>
    (some result, opener.desk { line with
      connection := line.connection.storing ((Connection.settlements result).drop stored) })
  | .refused e => (some (.error e), opener.desk line)
  | .dropped => (none, opener.desk line)

/-- Where a step of an opening that has been entered leads. The connection is the same but
    for its transport, and storing the end is all that is missing. -/
def Withholds (line : Line) (progress : Progress Suspending.Waiting Opened) (after : Desk) :
    Prop :=
  ∃ t, after.line.connection.withholding line.connection = line.connection.rewired t ∧
    after.line.connection = match progress with
      | .suspended _ => line.connection.rewired t
      | .finished result => (line.connection.rewired t).settle result

theorem withholds_of_reaches {line : Line} {before after : Desk}
    {progress : Progress Suspending.Waiting Opened} {t : Transport}
    (hbefore : before.line.connection = line.connection.rewired t)
    (hreach : before.Reaches progress after) : Withholds line progress after := by
  have hsent : ∀ settling : Desk, before.OnlySent settling →
      ∃ t, settling.line.connection = line.connection.rewired t := by
    rintro settling ⟨commands, hcommands⟩
    rw [hcommands, hbefore]
    exact ⟨_, rfl⟩
  cases progress with
  | suspended waiting =>
      rcases hsent after hreach with ⟨t, ht⟩
      refine ⟨t, ?_, ht⟩
      rw [ht]
      rfl
  | finished result =>
      rcases hreach with ⟨settling, hsettling, rfl⟩
      rcases hsent settling hsettling with ⟨t, ht⟩
      refine ⟨t, ?_, ?_⟩
      · rw [← ht]
        exact Connection.withholding_settle ht result
      · rw [← ht]
        rfl

theorem withholds_greet (opener : Opener) (line : Line) :
    Withholds line ((Suspending.greet opener.seat.setup).run (opener.desk line)).1
      ((Suspending.greet opener.seat.setup).run (opener.desk line)).2 :=
  withholds_of_reaches (t := line.connection.transport) rfl (Suspending.reaches_greet _ _)

theorem withholds_continueOpening (opener : Opener) (waiting : Suspending.Waiting) (line : Line) :
    Withholds line
      ((Suspending.continueOpening opener.seat.setup waiting).run (opener.desk line)).1
      ((Suspending.continueOpening opener.seat.setup waiting).run (opener.desk line)).2 := by
  rcases Suspending.reaches_continueOpening opener.seat.setup waiting (opener.desk line) with
    ⟨answered, htaken, hreach, _⟩
  exact withholds_of_reaches htaken hreach

/-- A step of an opening that leaves its end to be stored comes to what the step comes to. -/
theorem outcome_advance {opener : Opener} {line : Line}
    {step : StateM Desk (Progress Suspending.Waiting Opened)}
    (h : Withholds line (step.run (opener.desk line)).1 (step.run (opener.desk line)).2) :
    (opener.advance line step).1.outcome (opener.advance line step).2 =
      (some ((step.run (opener.desk line)).1.outcome
          (Suspending.Waiting.rest opener.seat.setup) (step.run (opener.desk line)).2).1,
        ((step.run (opener.desk line)).1.outcome
          (Suspending.Waiting.rest opener.seat.setup) (step.run (opener.desk line)).2).2) := by
  rcases h with ⟨t, hwithheld, hafter⟩
  rw [advance]
  generalize step.run (opener.desk line) = stepped at hwithheld hafter ⊢
  rcases stepped with ⟨progress, ⟨⟨connection, journal⟩, speculation, created⟩⟩
  simp only at hwithheld hafter ⊢
  cases progress with
  | suspended waiting =>
      simp only at hafter
      rw [hwithheld, ← hafter]
      rfl
  | finished result =>
      simp only at hafter
      rw [hwithheld, hafter]
      rfl

/-- A step of a call is a part of what is left to be done in its own mode. -/
theorem outcome_go (opener : Opener) (line : Line) :
    (opener.go line).1.outcome (opener.go line).2 = opener.outcome line := by
  rcases opener with ⟨mode, seat, status⟩
  cases status with
  | idle =>
      have halone := Mode.openConnection_eq mode seat.setup (Opener.desk ⟨mode, seat, .idle⟩ line)
      refine Eq.trans ?_ halone.symm
      -- The connection is entered or refused in both, and refusing it ends the call.
      have hbegin : (Opener.desk ⟨mode, seat, .idle⟩ line).begin = line.connection.begin.map
        fun connection => Opener.desk ⟨mode, seat, .idle⟩ { line with connection } := rfl
      rw [Blocking.openConnection, hbegin]
      simp only [go]
      cases line.connection.begin <;> rfl
  | entered =>
      have hkept := Suspending.greet_outcome seat.setup (Opener.desk ⟨mode, seat, .entered⟩ line)
      refine (outcome_advance (withholds_greet ⟨mode, seat, .entered⟩ line)).trans ?_
      rw [hkept]
      rfl
  | waiting place =>
      have hkept := Suspending.faithful_continueOpening seat.setup place
        (Opener.desk ⟨mode, seat, .waiting place⟩ line)
      refine (outcome_advance
        (withholds_continueOpening ⟨mode, seat, .waiting place⟩ place line)).trans ?_
      rw [hkept]
      rfl
  | ending result stored =>
      simp only [go]
      cases hstore : (Connection.settlements result)[stored]? with
      | none => rfl
      | some store =>
          rcases List.getElem?_eq_some_iff.mp hstore with ⟨hless, hget⟩
          simp only [outcome]
          rw [List.drop_eq_getElem_cons hless, hget]
          rfl
  | refused e => rfl
  | dropped => rfl

/-- What is known of the call that has entered the opening of a fresh connection, by how far
    it has come. The connection is as it was but for its transport and for the stores made so
    far. -/
inductive Owns (fresh c : Connection) : Status → Prop where
  | entered (hsame : c = fresh.entered.rewired c.transport) : Owns fresh c .entered
  | waiting {place : Suspending.Waiting} (hsame : c = fresh.entered.rewired c.transport)
      (hplace : place.Concerns fresh.description.id) : Owns fresh c (.waiting place)
  | ending {result : Except Error Opened} {stored : Nat}
      (hstored : stored ≤ (Connection.settlements result).length)
      (hsame : c = (fresh.entered.storing
        ((Connection.settlements result).take stored)).rewired c.transport)
      (hresult : (Progress.finished result).Concerns fresh.description.id) :
      Owns fresh c (.ending result stored)
  | dropped (hsame : c = fresh.entered.rewired c.transport) : Owns fresh c .dropped

/-- What is known of every other call: it has not begun, or was dropped before that, or has
    been refused. -/
inductive Lost : Status → Prop where
  | idle : Lost .idle
  | dropped : Lost .dropped
  | refused (text : String) : Lost (.refused (.general text))

variable {fresh c : Connection} {status : Status} {opener : Opener} {line : Line}

/-- Other uses of the transport do not matter to the call that has entered the opening. -/
theorem Owns.rewired (h : Owns fresh c status) (t : Transport) :
    Owns fresh (c.rewired t) status := by
  have hrewired : ∀ {base : Connection}, c = base.rewired c.transport →
      c.rewired t = base.rewired (c.rewired t).transport := by
    intro base hsame
    rw [hsame]
    rfl
  cases h with
  | entered hsame => exact .entered (hrewired hsame)
  | waiting hsame hplace => exact .waiting (hrewired hsame) hplace
  | ending hstored hsame hresult => exact .ending hstored (hrewired hsame) hresult
  | dropped hsame => exact .dropped (hrewired hsame)

/-- After all stores but the last the stage is as it was, and after the last it is that of
    the end. -/
theorem stage_storing (c : Connection) (result : Except Error Opened) {stored : Nat}
    (hstored : stored ≤ (Connection.settlements result).length) :
    (c.storing ((Connection.settlements result).take stored)).stage =
      if stored = (Connection.settlements result).length then
        (Progress.finished result : Progress Suspending.Waiting Opened).stage
      else c.stage := by
  cases result with
  | error e =>
      have hlength : stored ≤ 1 := hstored
      rcases stored with _ | _ | more
      · rfl
      · rfl
      · omega
  | ok opened =>
      have hlength : stored ≤ 3 := hstored
      rcases stored with _ | _ | _ | _ | more
      · rfl
      · rfl
      · rfl
      · rfl
      · omega

theorem Owns.stage_ne (h : Owns fresh c status) : c.stage ≠ .uninitialized := by
  have hentered : ∀ {t : Transport}, c = fresh.entered.rewired t → c.stage ≠ .uninitialized := by
    intro t hsame hstage
    rw [hsame] at hstage
    cases hstage
  cases h with
  | entered hsame => exact hentered hsame
  | waiting hsame _ => exact hentered hsame
  | dropped hsame => exact hentered hsame
  | @ending result stored hstored hsame _ =>
      have hstage : c.stage = (fresh.entered.storing
          ((Connection.settlements result).take stored)).stage := by
        rw [hsame]
        rfl
      intro hfirst
      rw [hfirst, stage_storing fresh.entered result hstored] at hstage
      split at hstage
      · cases result <;> cases hstage
      · cases hstage

theorem owns_advance {step : StateM Desk (Progress Suspending.Waiting Opened)}
    (hsame : line.connection = fresh.entered.rewired line.connection.transport)
    (hconcerns : (step.run (opener.desk line)).1.Concerns fresh.description.id)
    (hwithholds : Withholds line (step.run (opener.desk line)).1 (step.run (opener.desk line)).2) :
    Owns fresh (opener.advance line step).2.connection (opener.advance line step).1.status := by
  rcases hwithholds with ⟨t, hwithheld, _⟩
  -- What the step would have stored has been taken back, so nothing is stored yet.
  have hkept : (opener.advance line step).2.connection = fresh.entered.rewired t := by
    show (step.run (opener.desk line)).2.line.connection.withholding line.connection = _
    rw [hwithheld, hsame]
    rfl
  have hrewired : (opener.advance line step).2.connection =
      fresh.entered.rewired (opener.advance line step).2.connection.transport := by
    rw [hkept]
    rfl
  show Owns fresh _ (.ofProgress (step.run (opener.desk line)).1)
  cases hprogress : (step.run (opener.desk line)).1 with
  | suspended place =>
      rw [hprogress] at hconcerns
      exact .waiting hrewired hconcerns
  | finished result =>
      rw [hprogress] at hconcerns
      exact .ending (Nat.zero_le _) hrewired hconcerns

theorem Owns.go (h : Owns fresh line.connection opener.status) :
    Owns fresh (opener.go line).2.connection (opener.go line).1.status := by
  rcases opener with ⟨mode, seat, status⟩
  cases h with
  | entered hsame =>
      exact owns_advance hsame (Suspending.concerns_greet _ _) (withholds_greet _ line)
  | @waiting place hsame hplace =>
      have hid : line.connection.description.id = fresh.description.id := by
        rw [hsame]
        rfl
      exact owns_advance hsame (Suspending.concerns_continueOpening _ hid hplace)
        (withholds_continueOpening ⟨mode, seat, .waiting place⟩ place line)
  | dropped hsame => exact .dropped hsame
  | @ending result stored hstored hsame hresult =>
      simp only [Opener.go]
      cases hstore : (Connection.settlements result)[stored]? with
      | none => exact .ending hstored hsame hresult
      | some store =>
          rcases List.getElem?_eq_some_iff.mp hstore with ⟨hless, hget⟩
          have hmem : store ∈ Connection.settlements result := List.mem_of_getElem? hstore
          refine .ending hless ?_ hresult
          -- One more store has been made after the others.
          have htake : (Connection.settlements result).take (stored + 1) =
              (Connection.settlements result).take stored ++ [store] := by
            rw [List.take_add_one, hstore]
            rfl
          rw [htake, Connection.storing_concat]
          simp only []
          rw [hsame, Connection.store_rewired hmem]
          rfl

theorem Owns.drop (h : Owns fresh c opener.status) : Owns fresh c opener.drop.status := by
  rcases opener with ⟨mode, seat, status⟩
  cases mode with
  | blocking => exact h
  | suspending =>
      cases h with
      | waiting hsame _ => exact .dropped hsame
      | entered hsame => exact .entered hsame
      | ending hstored hsame hresult => exact .ending hstored hsame hresult
      | dropped hsame => exact .dropped hsame

theorem Lost.drop (h : Lost opener.status) : Lost opener.drop.status := by
  rcases opener with ⟨mode, seat, status⟩
  cases mode with
  | blocking => exact h
  | suspending =>
      cases h with
      | idle => exact .dropped
      | dropped => exact .dropped
      | refused text => exact .refused text

/-- A call that goes late is refused at most, and changes nothing. -/
theorem Lost.go (h : Lost opener.status) (hlate : line.connection.stage ≠ .uninitialized) :
    Lost (opener.go line).1.status ∧ (opener.go line).2 = line := by
  rcases opener with ⟨mode, seat, status⟩
  cases h with
  | dropped => exact ⟨.dropped, rfl⟩
  | refused text => exact ⟨.refused text, rfl⟩
  | idle =>
      have hbegin := Connection.begin_of_ne hlate
      rw [Opener.go, hbegin]
      exact ⟨.refused _, rfl⟩

/-- A call that goes first enters the opening. -/
theorem Lost.go_fresh (h : Lost opener.status) (hfresh : fresh.stage = .uninitialized)
    (hsame : line.connection = fresh.rewired line.connection.transport) :
    Owns fresh (opener.go line).2.connection (opener.go line).1.status ∨
      Lost (opener.go line).1.status ∧ (opener.go line).2 = line := by
  rcases opener with ⟨mode, seat, status⟩
  cases h with
  | dropped => exact .inr ⟨.dropped, rfl⟩
  | refused text => exact .inr ⟨.refused text, rfl⟩
  | idle =>
      have hbegin : line.connection.begin = .ok line.connection.entered := by
        rw [Connection.begin, if_pos]
        · rfl
        · rw [hsame]
          exact hfresh
      rw [Opener.go, hbegin]
      refine .inl (.entered ?_)
      show line.connection.entered = fresh.entered.rewired line.connection.transport
      rw [hsame]
      rfl

/-- With all its stores made, an opening has settled its end. -/
theorem Owns.settled {result : Except Error Opened}
    (h : Owns fresh c (.ending result (Connection.settlements result).length)) :
    c = (fresh.entered.settle result).rewired c.transport := by
  cases h with
  | ending _ hsame _ =>
      rw [List.take_length] at hsame
      exact hsame

/-- A connection that has left the middle of its opening has been settled by the call that
    entered it. -/
theorem Owns.of_stage_ne (h : Owns fresh c status) (hstage : c.stage ≠ .initializing) :
    ∃ result, status = .ending result (Connection.settlements result).length ∧
      c = (fresh.entered.settle result).rewired c.transport := by
  have hentered : ∀ {t : Transport}, c = fresh.entered.rewired t → c.stage = .initializing := by
    intro t hsame
    rw [hsame]
    rfl
  cases h with
  | entered hsame => exact absurd (hentered hsame) hstage
  | waiting hsame _ => exact absurd (hentered hsame) hstage
  | dropped hsame => exact absurd (hentered hsame) hstage
  | @ending result stored hstored hsame hresult =>
      by_cases hall : stored = (Connection.settlements result).length
      · subst hall
        exact ⟨result, rfl, Owns.settled (.ending hstored hsame hresult)⟩
      · -- The stage is stored last, so it is not stored yet.
        have hfirst := stage_storing fresh.entered result hstored
        rw [if_neg hall] at hfirst
        refine absurd ?_ hstage
        rw [hsame]
        exact hfirst

/-- Whatever has been stored, the description is about the connection that was fresh. -/
theorem Owns.identity (h : Owns fresh c status) :
    c.description.id.server = fresh.description.id.server ∧
      c.description.id.localValue = fresh.description.id.localValue := by
  have hentered : ∀ {t : Transport}, c = fresh.entered.rewired t →
      c.description.id.server = fresh.description.id.server ∧
        c.description.id.localValue = fresh.description.id.localValue := by
    intro t hsame
    rw [hsame]
    exact ⟨rfl, rfl⟩
  cases h with
  | entered hsame => exact hentered hsame
  | waiting hsame _ => exact hentered hsame
  | dropped hsame => exact hentered hsame
  | @ending result stored hstored hsame hresult =>
      rw [hsame]
      cases result with
      | error e =>
          have hlength : stored ≤ 1 := hstored
          rcases stored with _ | _ | more
          · exact ⟨rfl, rfl⟩
          · exact ⟨rfl, rfl⟩
          · omega
      | ok opened =>
          -- The description is stored first, and what is stored is about the connection.
          have hconcerns : opened.Concerns fresh.description.id := hresult
          have hlength : stored ≤ 3 := hstored
          rcases stored with _ | _ | _ | _ | more
          · exact ⟨rfl, rfl⟩
          · exact ⟨hconcerns.server, hconcerns.localValue⟩
          · exact ⟨hconcerns.server, hconcerns.localValue⟩
          · exact ⟨hconcerns.server, hconcerns.localValue⟩
          · omega

/-- A call that has entered the opening and returned has settled its end. -/
theorem Owns.result_eq (h : Owns fresh c opener.status) {result : Except Error Opened}
    (hresult : opener.result? = some result) :
    c = (fresh.entered.settle result).rewired c.transport := by
  rcases opener with ⟨mode, seat, status⟩
  cases h with
  | entered => cases hresult
  | waiting => cases hresult
  | dropped => cases hresult
  | @ending own stored hstored hsame hconcerns =>
      simp only [result?] at hresult
      by_cases hall : stored = (Connection.settlements own).length
      · rw [if_pos hall] at hresult
        injection hresult with hresult
        subst hall hresult
        exact Owns.settled (.ending hstored hsame hconcerns)
      · rw [if_neg hall] at hresult
        simp only [reduceCtorEq] at hresult

/-- A call that has not entered the opening has returned a general error, if anything. -/
theorem Lost.result_eq (h : Lost opener.status) {result : Except Error Opened}
    (hresult : opener.result? = some result) : ∃ text, result = .error (.general text) := by
  rcases opener with ⟨mode, seat, status⟩
  cases h with
  | idle => cases hresult
  | dropped => cases hresult
  | refused text =>
      injection hresult with hresult
      exact ⟨text, hresult.symm⟩

end Opener

/-- A connection with the calls that open it and the commands of the application that wait
    for an answer. -/
structure Life where
  line : Line
  openers : List Opener
  tickets : List (Option Ticket) := []

namespace Life

/-- One thing that is done: a step of a call is taken, a call is dropped, a command of the
    application is sent, or one is answered. A command that blocks is sent by one turn and
    answered by another, since others may come in between. -/
inductive Turn where
  | go (place : Nat)
  | drop (place : Nat)
  | send (command : Document)
  | receive (place : Nat)

/-- Whether a turn belongs to a command of the application. -/
def Turn.OfApplication : Turn → Prop
  | .go _ | .drop _ => False
  | .send _ | .receive _ => True

def make (line : Line) (callers : List (Mode × Seat)) : Life where
  line := line
  openers := callers.map fun (mode, seat) => { mode, seat }

/-- Let something be done by the call at a place, if there is one. -/
def use (life : Life) (place : Nat) (f : Opener → Line → Opener × Line) : Life :=
  match life.openers[place]? with
  | none => life
  | some opener =>
    let (opener, line) := f opener life.line
    { life with line := line, openers := life.openers.set place opener }

/-- Do one thing. -/
def step (life : Life) : Turn → Life
  | .go place => life.use place Opener.go
  | .drop place => life.use place fun opener line => (opener.drop, line)
  | .send command =>
    let (ticket, line) := Suspending.begin life.line command
    { life with line := line, tickets := life.tickets ++ [ticket] }
  | .receive place =>
    match life.tickets[place]? with
    | none => life
    | some ticket =>
      let (_, line) := Suspending.complete life.line ticket
      { life with line := line, tickets := life.tickets.eraseIdx place }

def run (life : Life) (turns : List Turn) : Life :=
  turns.foldl step life

/-- A life of a connection that was fresh, in which one call may have entered the opening. -/
structure Sound (fresh : Connection) (life : Life) (winner : Option Nat) : Prop where
  owner : ∀ place, winner = some place → ∃ opener, life.openers[place]? = some opener ∧
    Opener.Owns fresh life.line.connection opener.status
  others : ∀ place opener, life.openers[place]? = some opener → winner ≠ some place →
    Opener.Lost opener.status
  nobody : winner = none → life.line.connection = fresh.rewired life.line.connection.transport

theorem sound_make (line : Line) (callers : List (Mode × Seat)) :
    Sound line.connection (make line callers) none := by
  refine ⟨fun place hwinner => ?_, fun place opener hopener _ => ?_, fun _ => rfl⟩
  · cases hwinner
  · rcases List.mem_map.mp (List.mem_of_getElem? hopener) with ⟨caller, _, rfl⟩
    exact .idle

variable {fresh : Connection} {life : Life} {winner : Option Nat}

/-- Using the transport keeps the invariant. -/
theorem Sound.rewired (h : Sound fresh life winner) {line : Line} {t : Transport}
    (hline : line.connection = life.line.connection.rewired t) (tickets : List (Option Ticket)) :
    Sound fresh { life with line := line, tickets := tickets } winner := by
  refine ⟨fun place hwinner => ?_, h.others, fun hnobody => ?_⟩
  · rcases h.owner place hwinner with ⟨opener, hopener, howns⟩
    refine ⟨opener, hopener, ?_⟩
    rw [hline]
    exact howns.rewired t
  · have hsame := h.nobody hnobody
    simp only []
    rw [hline, hsame]
    rfl

/-- A call at one place may change, and the line with it if the call owns the opening. -/
theorem Sound.replace (h : Sound fresh life winner) {place : Nat} {opener after : Opener}
    (hopener : life.openers[place]? = some opener) {line : Line} {next : Option Nat}
    (hnext : ∀ other, other ≠ place → (next = some other ↔ winner = some other))
    (hline : next ≠ some place → line = life.line ∧ next = winner ∧ Opener.Lost after.status)
    (howner : next = some place → Opener.Owns fresh line.connection after.status) :
    Sound fresh { life with line := line, openers := life.openers.set place after } next := by
  rcases List.getElem?_eq_some_iff.mp hopener with ⟨hplace, _⟩
  refine ⟨fun other hwinner => ?_, fun other found hfound hloser => ?_, fun hnobody => ?_⟩
  · by_cases hother : other = place
    · rw [hother] at hwinner ⊢
      exact ⟨after, List.getElem?_set_self hplace, howner hwinner⟩
    · have hne : next ≠ some place := by
        rw [hwinner]
        exact fun hsame => hother (Option.some.inj hsame)
      rcases h.owner other ((hnext other hother).mp hwinner) with ⟨own, hown, howns⟩
      refine ⟨own, ?_, ?_⟩
      · simp only []
        rw [List.getElem?_set_ne (Ne.symm hother)]
        exact hown
      · rw [(hline hne).1]
        exact howns
  · by_cases hother : other = place
    · rw [hother] at hfound hloser
      simp only [List.getElem?_set_self hplace, Option.some.injEq] at hfound
      rw [← hfound]
      exact (hline hloser).2.2
    · simp only [List.getElem?_set_ne (Ne.symm hother)] at hfound
      exact h.others other found hfound fun hwon => hloser ((hnext other hother).mpr hwon)
  · have hne : next ≠ some place := by
      rw [hnobody]
      exact (Option.some_ne_none place).symm
    rcases hline hne with ⟨rfl, hsame, _⟩
    exact h.nobody (hsame ▸ hnobody)

/-- A step of a call keeps the invariant. It may be the one that enters the opening. -/
theorem Sound.go (hfresh : fresh.stage = .uninitialized) (h : Sound fresh life winner)
    (place : Nat) :
    ∃ next, Sound fresh (life.use place Opener.go) next := by
  rw [use]
  cases hopener : life.openers[place]? with
  | none => exact ⟨winner, h⟩
  | some opener =>
      simp only []
      by_cases hwinner : winner = some place
      · -- The call that has entered the opening goes on with it.
        rcases h.owner place hwinner with ⟨own, hown, howns⟩
        rw [hopener] at hown
        injection hown with hown
        rw [← hown] at howns
        exact ⟨winner, h.replace hopener (fun _ _ => Iff.rfl) (fun hne => absurd hwinner hne)
          fun _ => howns.go⟩
      · have hlost := h.others place opener hopener hwinner
        cases hnobody : winner with
        | none =>
            have hsame := h.nobody hnobody
            rcases hlost.go_fresh hfresh hsame with howns | ⟨hkept, hline⟩
            · refine ⟨some place, h.replace hopener ?_ (fun hne => absurd rfl hne) fun _ => howns⟩
              intro other hother
              rw [hnobody]
              constructor
              · intro hsame
                exact absurd (Option.some.inj hsame).symm hother
              · intro hsome
                cases hsome
            · exact ⟨winner, h.replace hopener (fun _ _ => Iff.rfl) (fun _ => ⟨hline, rfl, hkept⟩)
                fun hwon => absurd hwon hwinner⟩
        | some owner =>
            -- Another call has entered the opening, and so this one comes late.
            rcases h.owner owner hnobody with ⟨_, _, howns⟩
            rcases hlost.go howns.stage_ne with ⟨hkept, hline⟩
            exact ⟨winner, h.replace hopener (fun _ _ => Iff.rfl) (fun _ => ⟨hline, rfl, hkept⟩)
              fun hwon => absurd hwon hwinner⟩

theorem Sound.drop (h : Sound fresh life winner) (place : Nat) :
    Sound fresh (life.use place fun opener line => (opener.drop, line)) winner := by
  rw [use]
  cases hopener : life.openers[place]? with
  | none => exact h
  | some opener =>
      refine h.replace hopener (fun _ _ => Iff.rfl) (fun hne => ?_) (fun hwinner => ?_)
      · exact ⟨rfl, rfl, (h.others place opener hopener hne).drop⟩
      · rcases h.owner place hwinner with ⟨own, hown, howns⟩
        rw [hopener] at hown
        injection hown with hown
        rw [← hown] at howns
        exact howns.drop

/-- A turn of a command of the application changes the transport of the connection at most,
    and none of the calls. -/
theorem step_application (life : Life) {turn : Turn} (h : turn.OfApplication) :
    ∃ line t tickets, life.step turn = { life with line := line, tickets := tickets } ∧
      line.connection = life.line.connection.rewired t := by
  cases turn with
  | go place => exact absurd h id
  | drop place => exact absurd h id
  | send command =>
      refine ⟨_, life.line.connection.transport.send command, _, rfl, ?_⟩
      show ((life.line.announce command).2.send command).connection = _
      rw [Line.send, Blocking.connection_announce]
      rfl
  | receive place =>
      rw [step]
      cases life.tickets[place]? with
      | none => exact ⟨life.line, life.line.connection.transport, life.tickets, rfl, rfl⟩
      | some ticket =>
          refine ⟨_, life.line.connection.transport.take.2, _, rfl, ?_⟩
          show (life.line.take.2.report ticket life.line.take.1).connection = _
          rw [Blocking.connection_report]
          rfl

/-- A command that is answered before anything else is done has been exchanged, in either
    mode. -/
theorem step_send_receive (life : Life) (mode : Mode) (command : Document) :
    ((life.step (.send command)).step (.receive life.tickets.length)).line =
      (mode.exchange life.line command).2 := by
  have hlast : (life.tickets ++ [(Suspending.begin life.line command).1])[life.tickets.length]? =
      some (Suspending.begin life.line command).1 := List.getElem?_concat_length
  simp only [step, hlast]
  cases mode <;> rfl

theorem Sound.step (hfresh : fresh.stage = .uninitialized) (h : Sound fresh life winner)
    (turn : Turn) : ∃ next, Sound fresh (life.step turn) next := by
  have happlication : turn.OfApplication → ∃ next, Sound fresh (life.step turn) next := by
    intro hturn
    rcases step_application life hturn with ⟨line, t, tickets, hstep, hline⟩
    rw [hstep]
    exact ⟨winner, h.rewired hline tickets⟩
  cases turn with
  | go place => exact h.go hfresh place
  | drop place => exact ⟨winner, h.drop place⟩
  | send command => exact happlication trivial
  | receive place => exact happlication trivial

/-- So do many turns. -/
theorem run_sound (hfresh : fresh.stage = .uninitialized) (h : Sound fresh life winner)
    (turns : List Turn) : ∃ last, Sound fresh (life.run turns) last := by
  induction turns generalizing life winner with
  | nil => exact ⟨winner, h⟩
  | cons turn rest ih =>
      rcases h.step hfresh turn with ⟨next, hnext⟩
      exact ih hnext

/-- A turn of a command of the application changes nothing that can be seen. -/
theorem known_step (life : Life) {turn : Turn} (h : turn.OfApplication) :
    (life.step turn).line.connection.known = life.line.connection.known := by
  rcases step_application life h with ⟨line, t, tickets, hstep, hline⟩
  rw [hstep]
  simp only []
  rw [hline]
  rfl

/-- As long as no call has entered the opening, what can be seen is as it was. -/
theorem Sound.known_eq (h : Sound fresh life none) : life.line.connection.known = fresh.known := by
  rw [h.nobody rfl]
  rfl

theorem Sound.identity (h : Sound fresh life winner) :
    life.line.connection.description.id.server = fresh.description.id.server ∧
      life.line.connection.description.id.localValue = fresh.description.id.localValue := by
  cases winner with
  | none =>
      rw [h.nobody rfl]
      exact ⟨rfl, rfl⟩
  | some place =>
      rcases h.owner place rfl with ⟨_, _, howns⟩
      exact howns.identity

/-- A connection that is not in the middle of its opening was settled by the call that had
    entered it, with what that call has returned. -/
theorem Sound.settled {place : Nat} (h : Sound fresh life (some place))
    (hstage : life.line.connection.stage ≠ .initializing) :
    ∃ opener result, life.openers[place]? = some opener ∧ opener.result? = some result ∧
      life.line.connection =
        (fresh.entered.settle result).rewired life.line.connection.transport := by
  rcases h.owner place rfl with ⟨opener, hopener, howns⟩
  rcases howns.of_stage_ne hstage with ⟨result, hstatus, hsettled⟩
  refine ⟨opener, result, hopener, ?_, hsettled⟩
  rw [Opener.result?, hstatus]
  exact if_pos rfl

/-- A connection that is ready has what the call that entered its opening has returned. -/
theorem Sound.ready (hfresh : fresh.stage = .uninitialized) (h : Sound fresh life winner)
    (hready : life.line.connection.stage = .ready) :
    ∃ place opener opened, winner = some place ∧ life.openers[place]? = some opener ∧
      opener.result? = some (.ok opened) ∧
      life.line.connection.description = opened.connection ∧
      life.line.connection.serverDescription = some opened.server := by
  cases winner with
  | none =>
      have hstage : life.line.connection.stage = fresh.stage := congrArg Prod.fst h.known_eq
      rw [hready, hfresh] at hstage
      cases hstage
  | some place =>
      have hdone : life.line.connection.stage ≠ .initializing := by
        rw [hready]
        decide
      rcases h.settled hdone with ⟨opener, result, hopener, hresult, hsettled⟩
      cases result with
      | error e =>
          -- An opening that fails leaves the connection failed.
          rw [hsettled] at hready
          cases hready
      | ok opened =>
          refine ⟨place, opener, opened, rfl, hopener, hresult, ?_, ?_⟩
          · rw [hsettled]
            rfl
          · rw [hsettled]
            rfl

/-- A call has returned successfully only once the connection is ready. -/
theorem Sound.returned (h : Sound fresh life winner) {opener : Opener}
    (hopener : opener ∈ life.openers) {opened : Opened}
    (hresult : opener.result? = some (.ok opened)) : life.line.connection.stage = .ready := by
  rcases List.mem_iff_getElem?.mp hopener with ⟨place, hplace⟩
  by_cases hwinner : winner = some place
  · rcases h.owner place hwinner with ⟨own, hown, howns⟩
    rw [hplace] at hown
    injection hown with hown
    rw [← hown] at howns
    rw [howns.result_eq hresult]
    rfl
  · -- Any other call was refused, if it has returned.
    rcases (h.others place opener hplace hwinner).result_eq hresult with ⟨text, htext⟩
    cases htext

/-- A connection that was not opened, or whose opening failed, is described as it was. -/
theorem Sound.unopened (h : Sound fresh life winner)
    (hstage : life.line.connection.stage = .uninitialized ∨
      life.line.connection.stage = .failed) :
    life.line.connection.description = fresh.description ∧
      life.line.connection.serverDescription = fresh.serverDescription := by
  cases winner with
  | none => exact Prod.mk.inj (congrArg Prod.snd h.known_eq)
  | some place =>
      rcases h.owner place rfl with ⟨_, _, howns⟩
      have hfailed : life.line.connection.stage = .failed := hstage.resolve_left howns.stage_ne
      have hdone : life.line.connection.stage ≠ .initializing := by
        rw [hfailed]
        decide
      rcases h.settled hdone with ⟨_, result, _, _, hsettled⟩
      cases result with
      | error e =>
          rw [hsettled]
          exact ⟨rfl, rfl⟩
      | ok opened =>
          rw [hsettled] at hfailed
          cases hfailed

/-- What can be seen, at one moment, of a connection that was made with an identity. -/
structure Lawful (id : ConnectionId) (life : Life) : Prop where
  /-- A connection that is ready has what the opening that won has returned. Every other call
      that has returned was refused. -/
  ready : life.line.connection.stage = .ready →
    ∃ (place : Nat) (opener : Opener) (opened : Opened), life.openers[place]? = some opener ∧
      opener.result? = some (.ok opened) ∧
      life.line.connection.description = opened.connection ∧
      life.line.connection.serverDescription = some opened.server ∧
      ∀ (other : Nat) (own : Opener) (result : Except Error Opened),
        life.openers[other]? = some own → other ≠ place → own.result? = some result →
        ∃ text, result = .error (.general text)
  /-- An opening returns successfully only from a connection that is ready. -/
  returned : ∀ opener ∈ life.openers, ∀ opened, opener.result? = some (.ok opened) →
    life.line.connection.stage = .ready
  /-- A connection that was not opened, or whose opening failed, is as it was made. -/
  unopened : life.line.connection.stage = .uninitialized ∨ life.line.connection.stage = .failed →
    life.line.connection.description = .fresh id ∧ life.line.connection.serverDescription = none
  server : life.line.connection.description.id.server = id.server
  localValue : life.line.connection.description.id.localValue = id.localValue
  /-- Commands of the application change nothing that can be seen. -/
  application : ∀ turn : Turn, turn.OfApplication →
    (life.step turn).line.connection.known = life.line.connection.known
  /-- A command that is sent and answered at once is one in either mode. -/
  commands : ∀ (mode : Mode) (command : Document),
    ((life.step (.send command)).step (.receive life.tickets.length)).line =
      (mode.exchange life.line command).2
  /-- The next step of a call is a part of what it has still to do in its own mode. -/
  steps : ∀ opener ∈ life.openers,
    (opener.go life.line).1.outcome (opener.go life.line).2 = opener.outcome life.line

/-- Whatever is done with a fresh connection, in whatever order, by any number of calls that
    open it and commands of the application: it is lawful at every moment. -/
theorem run_lawful (transport : Transport) (id : ConnectionId) (listener : Option Listener)
    (journal : Journal) (callers : List (Mode × Seat)) (turns : List Turn) :
    ((make ⟨.make transport id listener, journal⟩ callers).run turns).Lawful id := by
  have hmade := sound_make ⟨.make transport id listener, journal⟩ callers
  rcases run_sound rfl hmade turns with ⟨winner, hsound⟩
  generalize (make ⟨.make transport id listener, journal⟩ callers).run turns = life at hsound ⊢
  rcases hsound.identity with ⟨hserver, hlocalValue⟩
  refine ⟨fun hready => ?_, fun opener hopener opened hresult => ?_, hsound.unopened, hserver,
    hlocalValue, fun turn hturn => ?_, life.step_send_receive, fun opener _ => opener.outcome_go _⟩
  · rcases hsound.ready rfl hready with
      ⟨place, opener, opened, rfl, hopener, hresult, hdescription, hserverDescription⟩
    refine ⟨place, opener, opened, hopener, hresult, hdescription, hserverDescription, ?_⟩
    intro other own result hown hother hreturned
    have hloser : some place ≠ some other := fun hsame => hother (Option.some.inj hsame).symm
    exact (hsound.others other own hown hloser).result_eq hreturned
  · exact hsound.returned hopener hresult
  · exact life.known_step hturn

end Life

end DocumentLink
