import DocumentLink.Proofs.Modes
import DocumentLink.Session.Connections
import Mathlib.Logic.Relation

/-!
# Calls in Contest

Any number of clients may call for the same connection to be opened, each in its
own mode and with its own setup, and their calls may be interleaved wherever they
wait for a reply. A call that suspends may also be dropped.

Blocking and suspending calls wait in the same places, once for every command. A
call in either mode is therefore given by where it waits, and by the blocking work
that is left from there. `Call.outcome_go` says that to let a call go on is to do a
part of what it has still to do in its own mode.

The first call that is let go enters the opening, and from then on the connection
is not in its first stage any more. A call that begins later is refused before it
does anything, and does not store that refusal in the connection. So the line is
always where the winner alone would have brought it, whatever the others do.

## Main definitions

* `Stage.Next`, `Stage.Leads`: How a stage may change.
* `Call`: A client that opens a connection, and how far it has come.
* `Call.move`: Let a call go on, or drop it.
* `Call.outcome`: What a call comes to if it is left alone from now on.
* `Call.Holds`: What is known of the call that has entered the opening.
* `Call.Loses`: What is known of every other call.
* `Contest`: A connection with the journal, and the calls for it.
* `Contest.Turn`, `Contest.step`, `Contest.run`: What may be done, in any order.
* `Contest.Vain`: A turn that refuses a call at most.
* `Contest.Stands`: The invariant of contests.
* `Contest.Decided`: What one winner at most means for a whole run.

## Theorems

* `Call.outcome_go`: To go on is to do a part of what is left.
* `Call.Holds.move`, `Call.Loses.move`: What is known of calls stays so.
* `Contest.step_stands`: A turn keeps the invariant and the winner, and those of other
  calls are in vain.
* `Contest.run_stands`: So do many turns.
* `Contest.run_decided`: Every run has one winner at most.
-/

namespace DocumentLink

namespace Stage

/-- The ways in which one stage is left for another. -/
inductive Next : Stage → Stage → Prop where
  | entered : Next .uninitialized .initializing
  | succeeded : Next .initializing .ready
  | failed : Next .initializing .failed

/-- A stage may change into another one, by no or by several steps. -/
def Leads : Stage → Stage → Prop :=
  Relation.ReflTransGen Next

/-- The last stages are never left. -/
theorem Leads.eq_of_settled {stage later : Stage} (h : stage.Leads later)
    (hsettled : stage = .ready ∨ stage = .failed) : later = stage := by
  induction h with
  | refl => rfl
  | tail _ hnext ih =>
      rw [ih] at hnext
      rcases hsettled with rfl | rfl <;> cases hnext

end Stage

theorem Progress.leads_stage (progress : Progress Suspending.Waiting Opened) :
    Stage.Leads .initializing progress.stage := by
  cases progress with
  | suspended waiting => exact .refl
  | finished result =>
      cases result with
      | ok opened => exact .single .succeeded
      | error e => exact .single .failed

/-- How far a call has come. -/
inductive Call.Status where
  | idle
  /-- The call waits for a reply, or has returned. -/
  | begun (progress : Progress Suspending.Waiting Opened)
  | dropped

/-- A client that opens a connection: its mode, what it opens with, and how far it
    has come. -/
structure Call where
  mode : Mode
  seat : Seat
  status : Call.Status := .idle

/-- What may be done with a call. -/
inductive Call.Move where
  | go
  | drop

namespace Call

def desk (call : Call) (line : Line) : Desk where
  line := line
  speculation := call.seat.speculation
  created := call.seat.created

/-- A call after work at its desk. -/
def after (call : Call) (progress : Progress Suspending.Waiting Opened) (desk : Desk) : Call :=
  { call with seat := Session.Seat.after call.seat desk, status := .begun progress }

/-- Let a call go on to the next reply it waits for, or to its end. A call that has
    returned or has been dropped does nothing. -/
def go (call : Call) (line : Line) : Call × Line :=
  match call.status with
  | .idle =>
    let (progress, desk) := Suspending.openConnection call.seat.setup (call.desk line)
    (call.after progress desk, desk.line)
  | .begun (.suspended waiting) =>
    let (progress, desk) :=
      (Suspending.continueOpening call.seat.setup waiting).run (call.desk line)
    (call.after progress desk, desk.line)
  | .begun (.finished _) | .dropped => (call, line)

/-- Drop a call. Only one that suspends and has not returned can be dropped. -/
def drop (call : Call) : Call :=
  match call.mode, call.status with
  | .suspending, .idle | .suspending, .begun (.suspended _) => { call with status := .dropped }
  | _, _ => call

def move (call : Call) (line : Line) : Move → Call × Line
  | .go => call.go line
  | .drop => (call.drop, line)

/-- What a call has returned. -/
def result? (call : Call) : Option (Except Error Opened) :=
  match call.status with
  | .begun progress => progress.result?
  | .idle | .dropped => none

theorem drop_cases (call : Call) :
    call.drop = call ∨ call.drop = { call with status := .dropped } := by
  unfold drop
  split
  · exact .inr rfl
  · exact .inr rfl
  · exact .inl rfl

theorem result?_drop (call : Call) : call.drop.result? = call.result? := by
  rcases call with ⟨mode, seat, status⟩
  cases mode with
  | blocking => rfl
  | suspending =>
      cases status with
      | begun progress => cases progress <;> rfl
      | _ => rfl

/-- What a call comes to if nothing else is done from now on. One that has not been let
    go yet runs in its own mode; one that waits has its blocking work left. -/
def outcome (call : Call) (line : Line) : Option (Except Error Opened) × Desk :=
  match call.status with
  | .idle => call.mode.openConnection call.seat.setup (call.desk line)
  | .begun progress =>
    let (result, desk) :=
      progress.outcome (Suspending.Waiting.rest call.seat.setup) (call.desk line)
    (some result, desk)
  | .dropped => (none, call.desk line)

/-- To let a call go on is to do a part of what it has still to do in its own mode. -/
theorem outcome_go (call : Call) (line : Line) :
    (call.go line).1.outcome (call.go line).2 = call.outcome line := by
  rcases call with ⟨mode, seat, status⟩
  cases status with
  | idle =>
      have halone := Mode.openConnection_eq mode seat.setup (Call.desk ⟨mode, seat, .idle⟩ line)
      rw [← Suspending.openConnection_outcome] at halone
      exact halone.symm
  | dropped => rfl
  | begun progress =>
      cases progress with
      | finished result => rfl
      | suspended waiting =>
          have hkept := Suspending.faithful_continueOpening seat.setup waiting
            (Call.desk ⟨mode, seat, .begun (.suspended waiting)⟩ line)
          simp only [outcome, Progress.outcome]
          rw [← hkept]
          rfl

/-- What is known of the call that has entered the opening. It has come as far as the
    connection has, and comes to what its opening comes to alone. -/
def Holds (origin : Call) (start : Line) (call : Call) (line : Line) : Prop :=
  ∃ progress desk, desk.line = line ∧
    progress.outcome (Suspending.Waiting.rest origin.seat.setup) desk =
      Blocking.openConnection origin.seat.setup (origin.desk start) ∧
    line.connection.stage = progress.stage ∧
    (call = origin.after progress desk ∨
      call = { origin.after progress desk with status := .dropped })

/-- What is known of every other call: it has not been let go, or has been dropped
    before that, or has been refused. What it opens with is as it was. -/
inductive Loses (origin : Call) : Call → Prop where
  | idle (h : origin.status = .idle) : Loses origin origin
  | dropped : Loses origin { origin with status := .dropped }
  | refused (text : String) :
      Loses origin { origin with status := .begun (.finished (.error (.general text))) }

variable {origin call : Call} {start line : Line}

/-- A call that goes first enters the opening. -/
theorem holds_go (hidle : call.status = .idle) (hfresh : line.connection.stage = .uninitialized) :
    call.Holds line (call.go line).1 (call.go line).2 ∧
      Stage.Leads .uninitialized (call.go line).2.connection.stage := by
  have houtcome := Suspending.openConnection_outcome call.seat.setup (call.desk line)
  have hreach := Suspending.reaches_greet call.seat.setup (call.desk line).entered
  -- Entering changes the stage only, and the rest is the beginning of an opening.
  have hopen : Suspending.openConnection call.seat.setup (call.desk line) =
      (Suspending.greet call.seat.setup).run (call.desk line).entered := by
    rw [Suspending.openConnection, Desk.begin_of_uninitialized hfresh]
  rw [← hopen] at hreach
  have hstage := hreach.stage_eq rfl
  simp only [go, hidle]
  refine ⟨⟨_, _, rfl, houtcome, hstage, .inl rfl⟩, ?_⟩
  rw [hstage]
  exact (Relation.ReflTransGen.single Stage.Next.entered).trans (Progress.leads_stage _)

theorem Holds.go (h : origin.Holds start call line) :
    origin.Holds start (call.go line).1 (call.go line).2 ∧
      line.connection.stage.Leads (call.go line).2.connection.stage := by
  have hsame : call.go line = (call, line) → origin.Holds start (call.go line).1 (call.go line).2 ∧
      line.connection.stage.Leads (call.go line).2.connection.stage := by
    intro hstays
    rw [hstays]
    exact ⟨h, .refl⟩
  rcases h with ⟨progress, desk, rfl, houtcome, hstage, hcall⟩
  rcases hcall with rfl | rfl
  · cases progress with
    | finished result => exact hsame rfl
    | suspended waiting =>
        rcases Suspending.reaches_continueOpening origin.seat.setup waiting desk with
          ⟨answered, htaken, hreach, _⟩
        -- The call waits, so the opening is under way until this step stores its end.
        have hanswered : answered.line.connection.stage = .initializing := by
          rw [htaken]
          exact hstage
        have hnext := hreach.stage_eq hanswered
        refine ⟨⟨_, _, rfl, ?_, hnext, .inl rfl⟩, ?_⟩
        · rw [← houtcome]
          exact Suspending.faithful_continueOpening origin.seat.setup waiting desk
        · rw [hstage]
          have hleads := Progress.leads_stage
            ((Suspending.continueOpening origin.seat.setup waiting).run desk).1
          rw [← hnext] at hleads
          exact hleads
  · exact hsame rfl

theorem Holds.drop (h : origin.Holds start call line) : origin.Holds start call.drop line := by
  rcases drop_cases call with hdrop | hdrop
  · rw [hdrop]
    exact h
  · rw [hdrop]
    rcases h with ⟨progress, desk, hline, houtcome, hstage, hcall⟩
    refine ⟨progress, desk, hline, houtcome, hstage, .inr ?_⟩
    rcases hcall with rfl | rfl <;> rfl

theorem Holds.move (h : origin.Holds start call line) (move : Move) :
    origin.Holds start (call.move line move).1 (call.move line move).2 ∧
      line.connection.stage.Leads (call.move line move).2.connection.stage := by
  cases move with
  | go => exact h.go
  | drop => exact ⟨h.drop, .refl⟩

/-- A connection that is held is not in its first stage. -/
theorem Holds.stage_ne (h : origin.Holds start call line) :
    line.connection.stage ≠ .uninitialized := by
  rcases h with ⟨progress, _, _, _, hstage, _⟩
  rw [hstage]
  cases progress with
  | suspended waiting =>
      intro h
      cases h
  | finished result =>
      cases result <;> intro h <;> cases h

/-- A call that goes late is refused, and does nothing else. -/
theorem go_refused (hidle : call.status = .idle)
    (hlate : line.connection.stage ≠ .uninitialized) :
    call.go line =
      ({ call with status := .begun (.finished (.error line.connection.notOpenable)) }, line) := by
  simp only [go, hidle, Suspending.openConnection, Desk.begin]
  -- The refusal is returned before anything is sent, and is not stored.
  have hbegin : (call.desk line).line.connection.begin = .error line.connection.notOpenable :=
    Connection.begin_of_ne hlate
  rw [hbegin]
  rfl

theorem Loses.drop (h : origin.Loses call) : origin.Loses call.drop := by
  rcases drop_cases call with hdrop | hdrop
  · rw [hdrop]
    exact h
  · rw [hdrop]
    cases h <;> exact .dropped

/-- A call that has lost is refused at most, once the first stage is left. -/
theorem Loses.move (h : origin.Loses call) (hlate : line.connection.stage ≠ .uninitialized)
    (move : Move) :
    origin.Loses (call.move line move).1 ∧ (call.move line move).2 = line := by
  cases move with
  | drop => exact ⟨h.drop, rfl⟩
  | go =>
      cases h with
      | idle hidle =>
          rw [Call.move, go_refused hidle hlate]
          exact ⟨.refused _, rfl⟩
      | dropped => exact ⟨.dropped, rfl⟩
      | refused text => exact ⟨.refused text, rfl⟩

/-- Before that it enters the opening itself if it begins, and else does nothing. -/
theorem Loses.move_fresh (h : origin.Loses call)
    (hfresh : line.connection.stage = .uninitialized) (move : Move) :
    (origin.Holds line (call.move line move).1 (call.move line move).2 ∧
        Stage.Leads .uninitialized (call.move line move).2.connection.stage) ∨
      origin.Loses (call.move line move).1 ∧ (call.move line move).2 = line ∧
        (call.move line move).1.result? = call.result? ∧
        (move = .go → call.status ≠ .idle) := by
  cases move with
  | drop =>
      refine .inr ⟨h.drop, rfl, result?_drop call, ?_⟩
      intro hgo
      cases hgo
  | go =>
      cases h with
      | idle hidle => exact .inl (holds_go hidle hfresh)
      | dropped =>
          refine .inr ⟨.dropped, rfl, rfl, ?_⟩
          intro _ hidle
          cases hidle
      | refused text =>
          refine .inr ⟨.refused text, rfl, rfl, ?_⟩
          intro _ hidle
          cases hidle

end Call

/-- A connection with the journal, and the calls for it. -/
structure Contest where
  line : Line
  calls : List Call

namespace Contest

/-- One thing that is done with one of the calls. -/
structure Turn where
  place : Nat
  move : Call.Move

def make (line : Line) (callers : List (Mode × Seat)) : Contest where
  line := line
  calls := callers.map fun (mode, seat) => { mode, seat }

def stage (contest : Contest) : Stage :=
  contest.line.connection.stage

/-- Do one thing with one of the calls, if there is such a call. -/
def step (contest : Contest) (turn : Turn) : Contest :=
  match contest.calls[turn.place]? with
  | none => contest
  | some call =>
    let (call, line) := call.move contest.line turn.move
    { line := line, calls := contest.calls.set turn.place call }

def run (contest : Contest) (turns : List Turn) : Contest :=
  turns.foldl step contest

theorem run_append (contest : Contest) (before after : List Turn) :
    contest.run (before ++ after) = (contest.run before).run after :=
  List.foldl_append

/-- A turn does nothing but refuse a call that begins: it changes neither the
    connection nor the journal, nor what the call opens with. -/
def Vain (contest : Contest) (turn : Turn) : Prop :=
  (contest.step turn).line = contest.line ∧
    ∀ call, contest.calls[turn.place]? = some call → turn.move = .go → call.status = .idle →
      (contest.step turn).calls[turn.place]? = some
        { call with status := .begun (.finished (.error contest.line.connection.notOpenable)) }

/-- A contest that is left when its winner holds the connection, or when there is no
    winner yet and nothing has been done. -/
structure Stands (start contest : Contest) (winner : Option Nat) : Prop where
  others : ∀ place call, contest.calls[place]? = some call → winner ≠ some place →
    ∃ origin, start.calls[place]? = some origin ∧ origin.Loses call
  nobody : winner = none →
    contest.line = start.line ∧ ∀ call ∈ contest.calls, call.result? = none
  somebody : ∀ place, winner = some place →
    ∃ origin call, start.calls[place]? = some origin ∧ contest.calls[place]? = some call ∧
      origin.Holds start.line call contest.line

theorem stands_make (line : Line) (callers : List (Mode × Seat)) :
    (make line callers).Stands (make line callers) none := by
  have hidle : ∀ call ∈ (make line callers).calls, call.status = .idle := by
    intro call hcall
    rcases List.mem_map.mp hcall with ⟨caller, _, rfl⟩
    rfl
  refine ⟨fun place call hcall _ => ⟨call, hcall, .idle (hidle call ?_)⟩, fun _ => ⟨rfl, ?_⟩, ?_⟩
  · exact List.mem_of_getElem? hcall
  · intro call hcall
    rw [Call.result?, hidle call hcall]
  · intro place hwinner
    cases hwinner

variable {start contest : Contest} {winner : Option Nat}

theorem line_step {turn : Turn} {call : Call} (h : contest.calls[turn.place]? = some call) :
    (contest.step turn).line = (call.move contest.line turn.move).2 := by
  rw [step, h]

theorem calls_step {turn : Turn} {call : Call} (h : contest.calls[turn.place]? = some call) :
    (contest.step turn).calls =
      contest.calls.set turn.place (call.move contest.line turn.move).1 := by
  rw [step, h]

theorem getElem?_step_self {turn : Turn} {call : Call}
    (h : contest.calls[turn.place]? = some call) :
    (contest.step turn).calls[turn.place]? = some (call.move contest.line turn.move).1 := by
  rcases List.getElem?_eq_some_iff.mp h with ⟨hplace, _⟩
  rw [calls_step h]
  exact List.getElem?_set_self hplace

theorem getElem?_step_of_ne {turn : Turn} {place : Nat} (h : place ≠ turn.place) :
    (contest.step turn).calls[place]? = contest.calls[place]? := by
  rw [step]
  cases contest.calls[turn.place]? with
  | none => rfl
  | some call => exact List.getElem?_set_ne h.symm

theorem step_of_none {turn : Turn} (h : contest.calls[turn.place]? = none) :
    contest.step turn = contest ∧ contest.Vain turn := by
  have hstep : contest.step turn = contest := by
    rw [step, h]
  refine ⟨hstep, ?_, ?_⟩
  · rw [hstep]
  · intro call hcall
    rw [h] at hcall
    simp only [reduceCtorEq] at hcall

/-- Calls that have lost stay so if the one whose turn it is does, unless it wins. -/
theorem Stands.others_step (h : start.Stands contest winner) {turn : Turn} {call : Call}
    (hcall : contest.calls[turn.place]? = some call) {next : Option Nat}
    (hnext : ∀ place, place ≠ turn.place → next ≠ some place → winner ≠ some place)
    (hturn : next ≠ some turn.place → ∃ origin, start.calls[turn.place]? = some origin ∧
      origin.Loses (call.move contest.line turn.move).1) :
    ∀ place call, (contest.step turn).calls[place]? = some call → next ≠ some place →
      ∃ origin, start.calls[place]? = some origin ∧ origin.Loses call := by
  intro place after hafter hloser
  by_cases hplace : place = turn.place
  · rw [hplace] at hafter hloser ⊢
    rw [getElem?_step_self hcall] at hafter
    injection hafter with hafter
    rw [← hafter]
    exact hturn hloser
  · rw [getElem?_step_of_ne hplace] at hafter
    exact h.others place after hafter (hnext place hplace hloser)

theorem Stands.step_winner {turn : Turn} (h : start.Stands contest (some turn.place)) :
    start.Stands (contest.step turn) (some turn.place) ∧
      contest.stage.Leads (contest.step turn).stage := by
  rcases h.somebody _ rfl with ⟨origin, call, horigin, hcall, hholds⟩
  rcases hholds.move turn.move with ⟨hkept, hleads⟩
  rw [← line_step hcall] at hkept hleads
  refine ⟨⟨h.others_step hcall (fun _ _ hne => hne) (fun hne => absurd rfl hne),
    fun hnobody => absurd hnobody (Option.some_ne_none _), ?_⟩, hleads⟩
  rintro place ⟨⟩
  exact ⟨origin, _, horigin, getElem?_step_self hcall, hkept⟩

/-- Once there is a winner, every turn of another call is in vain. -/
theorem Stands.step_loser {turn : Turn} {place : Nat} (h : start.Stands contest (some place))
    (hplace : place ≠ turn.place) :
    start.Stands (contest.step turn) (some place) ∧ contest.Vain turn := by
  cases hcall : contest.calls[turn.place]? with
  | none =>
      rcases step_of_none hcall with ⟨hstep, hvain⟩
      rw [hstep]
      exact ⟨h, hvain⟩
  | some call =>
      rcases h.somebody _ rfl with ⟨origin, held, horigin, hheld, hholds⟩
      -- The winner has left the first stage behind, and that is what refuses the others.
      have hlate := hholds.stage_ne
      have hother : some place ≠ some turn.place := fun hsame => hplace (Option.some.inj hsame)
      rcases h.others _ call hcall hother with ⟨own, hown, hloses⟩
      rcases hloses.move hlate turn.move with ⟨hkept, hstays⟩
      rw [← line_step hcall] at hstays
      refine ⟨⟨?_, fun hnobody => absurd hnobody (Option.some_ne_none _), ?_⟩, hstays, ?_⟩
      · exact h.others_step hcall (fun _ _ hne => hne) (fun _ => ⟨own, hown, hkept⟩)
      · rintro _ ⟨⟩
        refine ⟨origin, held, horigin, ?_, ?_⟩
        · rw [getElem?_step_of_ne hplace]
          exact hheld
        · rw [hstays]
          exact hholds
      · intro found hfound hgo hidle
        rw [hcall] at hfound
        injection hfound with hfound
        rw [getElem?_step_self hcall, hfound, hgo, Call.move, Call.go_refused hidle hlate]

/-- As long as there is no winner, the call whose turn it is wins or has nothing done
    to it. -/
theorem Stands.step_nobody (hfresh : start.stage = .uninitialized)
    (h : start.Stands contest none) (turn : Turn) :
    (start.Stands (contest.step turn) (some turn.place) ∧
        contest.stage.Leads (contest.step turn).stage) ∨
      start.Stands (contest.step turn) none ∧ contest.Vain turn := by
  cases hcall : contest.calls[turn.place]? with
  | none =>
      rcases step_of_none hcall with ⟨hstep, hvain⟩
      rw [hstep]
      exact .inr ⟨h, hvain⟩
  | some call =>
      rcases h.nobody rfl with ⟨hsame, hnone⟩
      -- Nothing has been done, so the connection is still in its first stage.
      have hfirst : contest.stage = .uninitialized := by
        rw [stage, hsame]
        exact hfresh
      rcases h.others _ call hcall (Option.some_ne_none _).symm with ⟨origin, horigin, hloses⟩
      rcases hloses.move_fresh hfirst turn.move with
        ⟨hholds, hleads⟩ | ⟨hkept, hstays, hresult, hbusy⟩
      · left
        rw [← line_step hcall] at hholds hleads
        refine ⟨⟨?_, fun hnobody => absurd hnobody (Option.some_ne_none _), ?_⟩, ?_⟩
        · exact h.others_step hcall (fun _ _ _ => (Option.some_ne_none _).symm)
            (fun hne => absurd rfl hne)
        · rintro place ⟨⟩
          refine ⟨origin, _, horigin, getElem?_step_self hcall, ?_⟩
          rw [← hsame]
          exact hholds
        · rw [hfirst]
          exact hleads
      · right
        rw [← line_step hcall] at hstays
        refine ⟨⟨?_, fun _ => ⟨hstays.trans hsame, fun after hafter => ?_⟩, ?_⟩, hstays, ?_⟩
        · exact h.others_step hcall (fun _ _ _ => (Option.some_ne_none _).symm)
            (fun _ => ⟨origin, horigin, hkept⟩)
        · rw [calls_step hcall] at hafter
          rcases List.mem_or_eq_of_mem_set hafter with hold | rfl
          · exact hnone after hold
          · rw [hresult]
            exact hnone call (List.mem_of_getElem? hcall)
        · intro place hwinner
          cases hwinner
        · intro found hfound hgo hidle
          rw [hcall] at hfound
          injection hfound with hfound
          rw [hfound] at hbusy
          exact absurd hidle (hbusy hgo)

/-- A turn keeps the invariant and the winner, if there is one, and is in vain unless it
    is the winner's. -/
theorem step_stands (hfresh : start.stage = .uninitialized) (h : start.Stands contest winner)
    (turn : Turn) :
    ∃ next, start.Stands (contest.step turn) next ∧ (winner = none ∨ next = winner) ∧
      contest.stage.Leads (contest.step turn).stage ∧
      (next ≠ some turn.place → contest.Vain turn) := by
  -- A turn in vain leaves the stage alone.
  have hvain : contest.Vain turn → contest.stage.Leads (contest.step turn).stage := by
    intro hvain
    rw [stage, stage, hvain.1]
    exact .refl
  cases winner with
  | none =>
      rcases h.step_nobody hfresh turn with ⟨hstands, hleads⟩ | ⟨hstands, hnothing⟩
      · exact ⟨_, hstands, .inl rfl, hleads, fun hne => absurd rfl hne⟩
      · exact ⟨_, hstands, .inl rfl, hvain hnothing, fun _ => hnothing⟩
  | some place =>
      by_cases hplace : place = turn.place
      · rw [hplace] at h ⊢
        rcases h.step_winner with ⟨hstands, hleads⟩
        exact ⟨_, hstands, .inr rfl, hleads, fun hne => absurd rfl hne⟩
      · rcases h.step_loser hplace with ⟨hstands, hnothing⟩
        exact ⟨_, hstands, .inr rfl, hvain hnothing, fun _ => hnothing⟩

/-- So does a run. Its last winner is the only one there has been. -/
theorem run_stands (hfresh : start.stage = .uninitialized) (h : start.Stands contest winner)
    (turns : List Turn) :
    ∃ last, start.Stands (contest.run turns) last ∧ (winner = none ∨ last = winner) ∧
      contest.stage.Leads (contest.run turns).stage ∧
      ∀ before turn after, turns = before ++ turn :: after → last ≠ some turn.place →
        (contest.run before).Vain turn := by
  induction turns generalizing contest winner with
  | nil =>
      refine ⟨winner, h, .inr rfl, .refl, fun before turn after hturns => ?_⟩
      cases before <;> cases hturns
  | cons first rest ih =>
      rcases step_stands hfresh h first with ⟨next, hstep, hnext, hleads, hvain⟩
      rcases ih hstep with ⟨last, hstands, hlast, hrest, hothers⟩
      refine ⟨last, hstands, ?_, hleads.trans hrest, fun before turn after hturns hloser => ?_⟩
      · rcases hnext with hnobody | rfl
        · exact .inl hnobody
        · exact hlast
      -- The turn is the first one, or one of the rest.
      · cases before with
        | nil =>
            injection hturns with hfirst _
            rw [← hfirst] at hloser ⊢
            -- A winner of this turn would have stayed the winner.
            refine hvain (fun hwon => ?_)
            rcases hlast with hnobody | hsame
            · rw [hwon] at hnobody
              simp only [reduceCtorEq] at hnobody
            · exact hloser (hsame.trans hwon)
        | cons skipped before =>
            injection hturns with hfirst hturns
            rw [← hfirst]
            exact hothers before turn after hturns hloser

end Contest

/-- A call that holds the opening has sent what it sends alone, or the beginning of it.
    If it has returned then the line is where it is after the call alone. -/
theorem Call.Holds.alone {origin call : Call} {start line : Line}
    (h : origin.Holds start call line) :
    ∃ result ended,
      origin.mode.openConnection origin.seat.setup (origin.desk start) = (some result, ended) ∧
      line.connection.transport.sent <+: ended.line.connection.transport.sent ∧
      ∀ own, call.result? = some own → own = result ∧ line = ended.line := by
  refine ⟨_, _, Mode.openConnection_eq _ _ _, ?_⟩
  rcases h with ⟨progress, desk, rfl, houtcome, _, hcall⟩
  -- What is left for the call leads to where it comes alone.
  rw [← houtcome]
  refine ⟨Suspending.sent_prefix_outcome origin.seat.setup progress desk, fun own hown => ?_⟩
  rcases hcall with rfl | rfl
  · cases progress with
    | suspended waiting => cases hown
    | finished result =>
        injection hown with hown
        exact ⟨hown.symm, rfl⟩
  · cases hown

namespace Contest

/-- What it means for a run that one call at most has won. -/
structure Decided (start : Contest) (turns : List Turn) (winner : Option Nat) : Prop where
  /-- Every turn of another call is in vain, before and after the winner's first one. -/
  vain : ∀ before turn after, turns = before ++ turn :: after → winner ≠ some turn.place →
    (start.run before).Vain turn
  /-- So another call has not been let go, was dropped before that, or has returned a
      general error. -/
  others : ∀ place call, (start.run turns).calls[place]? = some call → winner ≠ some place →
    ∃ origin, start.calls[place]? = some origin ∧ origin.Loses call
  /-- Without a winner nothing has been done and nobody has been refused. -/
  nobody : winner = none →
    (start.run turns).line = start.line ∧ ∀ call ∈ (start.run turns).calls, call.result? = none
  /-- The winner sends what it sends alone. Once it has returned, everything is as if it
      had been alone. -/
  alone : ∀ place, winner = some place →
    ∃ origin call result ended,
      start.calls[place]? = some origin ∧ (start.run turns).calls[place]? = some call ∧
      origin.mode.openConnection origin.seat.setup (origin.desk start.line) =
        (some result, ended) ∧
      (start.run turns).line.connection.transport.sent <+:
        ended.line.connection.transport.sent ∧
      ∀ own, call.result? = some own → own = result ∧ (start.run turns).line = ended.line
  /-- The stage goes from the first to the last without turning back. -/
  leads : ∀ before after, turns = before ++ after →
    (start.run before).stage.Leads (start.run turns).stage
  settled : ∀ before after, turns = before ++ after →
    (start.run before).stage = .ready ∨ (start.run before).stage = .failed →
    (start.run turns).stage = (start.run before).stage
  /-- The next step of a call is at every moment a part of what it has still to do in its own
      mode, which for one that has not begun is the opening in that mode. -/
  steps : ∀ before after, turns = before ++ after → ∀ call ∈ (start.run before).calls,
    (call.go (start.run before).line).1.outcome (call.go (start.run before).line).2 =
      call.outcome (start.run before).line

/-- However the calls to open a new connection are interleaved, and whichever of them are
    dropped, one of them at most does anything. -/
theorem run_decided (transport : Transport) (id : ConnectionId) (listener : Option Listener)
    (journal : Journal) (callers : List (Mode × Seat)) (turns : List Turn) :
    ∃ winner, (make ⟨.make transport id listener, journal⟩ callers).Decided turns winner := by
  have hstart := stands_make ⟨.make transport id listener, journal⟩ callers
  have hfresh : (make ⟨.make transport id listener, journal⟩ callers).stage = .uninitialized := rfl
  -- From here on only the stage of the connection matters, and that nobody has won.
  generalize make ⟨.make transport id listener, journal⟩ callers = start at hstart hfresh ⊢
  -- What holds of a run from the start holds of the rest of one as well.
  have hleads : ∀ before after, turns = before ++ after →
      (start.run before).stage.Leads (start.run turns).stage := by
    rintro before after rfl
    rcases run_stands hfresh hstart before with ⟨_, hbefore, _⟩
    rcases run_stands hfresh hbefore after with ⟨_, _, _, hleads, _⟩
    rw [run_append]
    exact hleads
  rcases run_stands hfresh hstart turns with ⟨winner, hstands, _, _, hvain⟩
  refine ⟨winner, hvain, hstands.others, hstands.nobody, fun place hwinner => ?_, hleads, ?_,
    fun before _ _ call _ => call.outcome_go (start.run before).line⟩
  · rcases hstands.somebody place hwinner with ⟨origin, call, horigin, hcall, hholds⟩
    rcases hholds.alone with ⟨result, ended, halone, hsent, hreturned⟩
    exact ⟨origin, call, result, ended, horigin, hcall, halone, hsent, hreturned⟩
  · intro before after hturns hlast
    exact (hleads before after hturns).eq_of_settled hlast

end Contest

end DocumentLink
