import DocumentLink.Proofs.Roster
import Mathlib.Data.List.Induction

/-!
# Failures beside Servers

When a discovered cluster shows a failure although it has servers.

What is known is kept in two places. The task knows the hosts it has reported
last, and the set has the servers made for them. A failure is reported only while
the task knows no hosts, and is meant to be shown only while there are none. Both
come to the same in a life in which the watch is never closed. But closing it
ends the task, with what it knew, and leaves the servers as they are. A task that
is started afterwards knows nothing. If its lookups fail, it says so, and the
failure stands beside the servers until a lookup gives hosts again.

As long as turns are prompt, that is the only way. Turns that are not leave a report
on its way when its task is stopped. If that report is of a failure, and arrives when
there are servers, the failure stands beside them as well.

## Main definitions

* `Discovery.Report.IsFailure`: A report is of a failure.
* `Roster.Passed`: What a prompt turn does to the calls and to what is known.

## Theorems

* `Roster.passed`: Prompt turns do one of these things.
* `Roster.known?_of_failure`: While a failure is kept, no hosts are known.
* `Roster.exists_close_of_unknown`: Known hosts are forgotten by closing only.
* `Roster.failure_beside_servers_iff`: When a failure stands beside servers, if turns are
  prompt.
* `Roster.failure_beside_servers_of_late`: A late report is another way.
-/

namespace DocumentLink

/-- A report is of a failure. -/
def Discovery.Report.IsFailure : Report → Prop
  | .hosts .. => False
  | .failure _ => True

namespace Cluster

open Discovery

/-- Reports of failures leave the servers alone, and leave a failure. -/
theorem take_of_isFailure {reports : List Report} (h : ∀ report ∈ reports, report.IsFailure)
    (set : ServerSet) :
    (take set reports).servers = set.servers ∧
      (reports ≠ [] → (take set reports).failure ≠ none) := by
  have hfailures : ∃ errors : List Error, reports = errors.map Report.failure := by
    induction reports with
    | nil => exact ⟨[], rfl⟩
    | cons report reports ih =>
        obtain ⟨hreport, hrest⟩ := List.forall_mem_cons.mp h
        obtain ⟨errors, rfl⟩ := ih hrest
        cases report with
        | hosts selected all => exact False.elim hreport
        | failure e => exact ⟨e :: errors, rfl⟩
  obtain ⟨errors, rfl⟩ := hfailures
  rw [take_failures]
  refine ⟨rfl, fun hne hnone => hne ?_⟩
  rw [Option.or_eq_none_iff, List.getLast?_eq_none_iff] at hnone
  rw [hnone.1, List.map_nil]

end Cluster

namespace Roster

open Discovery

variable (shuffles : Watch.Shuffles)

/-- What a prompt turn does to the calls and to what is known. -/
inductive Passed (r : Roster) (turn : Turn) : Prop where
  /-- Nothing is reported, and what is known stays. -/
  | quiet : r.taken shuffles turn = [] →
      (r.step shuffles turn).watch.known? = r.watch.known? → Passed r turn
  /-- The watch is closed. -/
  | closed : turn = .close → Passed r turn
  /-- Hosts are reported, and known from now on. -/
  | found (selected all : List Address) : r.taken shuffles turn = [.hosts selected all] →
      (r.step shuffles turn).watch.known? = some all → Passed r turn
  /-- A failure is reported, and no hosts are known. -/
  | unresolved (e : Error) : r.taken shuffles turn = [.failure e] →
      r.watch.known? = none → (r.step shuffles turn).watch.known? = none → Passed r turn

variable {shuffles}

/-- A poll does one of these things. -/
theorem passed_poll (r : Roster) : Passed shuffles r .poll := by
  cases htask : r.watch.task with
  | none =>
      have hstopped : r.polled shuffles = ([], r.watch, r.resolver) :=
        Watch.pollTimes_stopped shuffles 1 r.resolver htask
      refine .quiet ?_ ?_
      · rw [taken, hstopped]
      · rw [step, hstopped]
  | some task =>
      have hrunning := Watch.pollTimes_running shuffles 0 r.resolver htask
      have htaken : r.taken shuffles .poll = (Discovery.poll r.watch.plan (shuffles r.watch.polls)
          task.known (r.resolver.lookUp r.watch.plan.recordName).1).1.toList := by
        rw [taken, polled, hrunning]
        exact List.append_nil _
      have hafter : (r.step shuffles .poll).watch.known? =
          (Discovery.poll r.watch.plan (shuffles r.watch.polls) task.known
            (r.resolver.lookUp r.watch.plan.recordName).1).2 := by
        rw [step, polled, hrunning]
        rfl
      have hbefore : r.watch.known? = task.known := by
        rw [Watch.known?, htask]
        rfl
      have hpolled := Discovery.polled r.watch.plan (shuffles r.watch.polls) task.known
        (r.resolver.lookUp r.watch.plan.recordName).1
      rw [← hbefore] at htaken hafter hpolled
      generalize (Discovery.poll r.watch.plan (shuffles r.watch.polls) r.watch.known?
        (r.resolver.lookUp r.watch.plan.recordName).1) = outcome at htaken hafter hpolled
      obtain ⟨report, after⟩ := outcome
      generalize hknown : r.watch.known? = known at hpolled
      cases hpolled with
      | same _ => exact .quiet htaken (hafter.trans hknown.symm)
      | changed _ _ => exact .found _ _ htaken hafter
      | unresolved _ => exact .unresolved _ htaken hknown hafter
      | kept _ => exact .quiet htaken (hafter.trans hknown.symm)

variable (shuffles) in
/-- Prompt turns do one of these things. -/
theorem passed (r : Roster) {turn : Turn} (h : turn.Prompt) : Passed shuffles r turn := by
  cases turn with
  | start runtime now =>
      refine .quiet rfl ?_
      rw [step]
      cases hstart : r.watch.start runtime now with
      | error e => rfl
      | ok started => exact Watch.known?_start hstart
  | close => exact .closed rfl
  | poll => exact passed_poll r
  | closeAmid => exact absurd h id
  | arrive place => exact absurd h id

theorem run_concat (r : Roster) (turns : List Turn) (turn : Turn) :
    r.run shuffles (turns ++ [turn]) = (r.run shuffles turns).step shuffles turn :=
  run_append r turns [turn]

theorem calls_concat (r : Roster) (turns : List Turn) (turn : Turn) :
    r.calls shuffles (turns ++ [turn]) =
      r.calls shuffles turns ++ (r.run shuffles turns).taken shuffles turn := by
  rw [calls_append, calls, calls, List.append_nil]

/-- Closing the watch leaves the set to what is called afterwards. -/
theorem run_close_set (r : Roster) (before after : List Turn) :
    (r.run shuffles (before ++ .close :: after)).set =
      Cluster.take (r.run shuffles before).set
        ((r.run shuffles (before ++ [.close])).calls shuffles after) := by
  rw [← List.singleton_append, ← List.append_assoc, run_append, run_set, run_concat]
  rfl

variable {r : Roster}

/-- While a failure is kept, no hosts are known. -/
theorem known?_of_failure (hborn : r.set.failure = none) {turns : List Turn}
    (hprompt : ∀ turn ∈ turns, turn.Prompt) (h : (r.run shuffles turns).set.failure ≠ none) :
    (r.run shuffles turns).watch.known? = none := by
  -- On the last turn: it left the failure where it was, or brought it.
  induction turns using List.reverseRecOn with
  | nil => exact absurd hborn h
  | append_singleton turns turn ih =>
      obtain ⟨hturns, hturn⟩ := List.forall_mem_append.mp hprompt
      rw [run_concat] at h ⊢
      rw [step_set] at h
      cases passed shuffles (r.run shuffles turns) (hturn turn List.mem_cons_self) with
      | quiet htaken hknown =>
          rw [htaken] at h
          rw [hknown]
          exact ih hturns h
      | closed hclose =>
          rw [hclose]
          exact Watch.known?_close _
      | found selected all htaken _ =>
          rw [htaken] at h
          exact absurd rfl h
      | unresolved e _ _ hknown => exact hknown

/-- Known hosts are forgotten by closing only: where there are servers and no hosts are known,
    the watch was closed when it knew some, and has reported none since. -/
theorem exists_close_of_unknown (hborn : r.set.servers = []) {turns : List Turn}
    (hprompt : ∀ turn ∈ turns, turn.Prompt)
    (hknown : (r.run shuffles turns).watch.known? = none)
    (hservers : (r.run shuffles turns).set.servers ≠ []) :
    ∃ before after, turns = before ++ .close :: after ∧
      (r.run shuffles before).watch.known? ≠ none ∧ (r.run shuffles before).set.servers ≠ [] ∧
      ∀ report ∈ (r.run shuffles (before ++ [.close])).calls shuffles after, report.IsFailure := by
  induction turns using List.reverseRecOn with
  | nil => exact absurd hborn hservers
  | append_singleton turns turn ih =>
      obtain ⟨hturns, hturn⟩ := List.forall_mem_append.mp hprompt
      rw [run_concat] at hknown hservers
      rw [step_set] at hservers
      -- A turn that reports no hosts carries the stretch since the closing on.
      have hextend : (∀ report ∈ (r.run shuffles turns).taken shuffles turn, report.IsFailure) →
          (r.run shuffles turns).watch.known? = none →
          ∃ before after, turns ++ [turn] = before ++ .close :: after ∧
            (r.run shuffles before).watch.known? ≠ none ∧
            (r.run shuffles before).set.servers ≠ [] ∧
            ∀ report ∈ (r.run shuffles (before ++ [.close])).calls shuffles after,
              report.IsFailure := by
        intro htaken hunknown
        rw [(Cluster.take_of_isFailure htaken _).1] at hservers
        obtain ⟨before, after, rfl, hbefore, hbefore', hcalls⟩ := ih hturns hunknown hservers
        refine ⟨before, after ++ [turn], by simp, hbefore, hbefore', ?_⟩
        rw [calls_concat, ← run_append, List.append_assoc]
        exact List.forall_mem_append.mpr ⟨hcalls, htaken⟩
      cases passed shuffles (r.run shuffles turns) (hturn turn List.mem_cons_self) with
      | quiet htaken hsame =>
          exact hextend (by rw [htaken]; exact nofun) (hsame.symm.trans hknown)
      | closed hclose =>
          subst hclose
          -- Closing a watch that knows nothing forgets nothing. The closing before it counts.
          by_cases hunknown : (r.run shuffles turns).watch.known? = none
          · exact hextend nofun hunknown
          · exact ⟨turns, [], rfl, hunknown, hservers, nofun⟩
      | found selected all _ hfound =>
          rw [hfound] at hknown
          cases hknown
      | unresolved e htaken hunknown _ =>
          refine hextend ?_ hunknown
          rw [htaken]
          exact List.forall_mem_singleton.mpr trivial

/-- After prompt turns a failure stands beside servers exactly if the watch was closed when there
    were servers, and what it has reported since, in a new start, are failures only. Short of
    that, a failure is shown only where there are no servers. -/
theorem failure_beside_servers_iff {options : ClusterOptions} {srvHost : String}
    (hborn : r.Born options) (hsrvHost : options.settings.srvHost = some srvHost)
    {turns : List Turn} (hprompt : ∀ turn ∈ turns, turn.Prompt) :
    (r.run shuffles turns).set.failure?.isSome ∧ (r.run shuffles turns).set.servers ≠ [] ↔
      ∃ before after, turns = before ++ .close :: after ∧
        (r.run shuffles before).set.servers ≠ [] ∧
        (r.run shuffles (before ++ [.close])).calls shuffles after ≠ [] ∧
        ∀ report ∈ (r.run shuffles (before ++ [.close])).calls shuffles after,
          report.IsFailure := by
  obtain ⟨hempty, hnone⟩ := hborn.set_eq hsrvHost
  rw [ServerSet.failure?, Option.isSome_map, Option.isSome_iff_ne_none]
  constructor
  · rintro ⟨hfailure, hservers⟩
    have hunknown := known?_of_failure hnone hprompt hfailure
    obtain ⟨before, after, rfl, hknown, hbefore, hcalls⟩ :=
      exists_close_of_unknown hempty hprompt hunknown hservers
    refine ⟨before, after, rfl, hbefore, fun hnil => ?_, hcalls⟩
    -- Without a call since, the failure would be older than the closing, with hosts known.
    rw [run_close_set, hnil] at hfailure
    exact hknown (known?_of_failure hnone (List.forall_mem_append.mp hprompt).1 hfailure)
  · rintro ⟨before, after, rfl, hbefore, hne, hcalls⟩
    obtain ⟨hservers, hfailure⟩ := Cluster.take_of_isFailure hcalls (r.run shuffles before).set
    rw [run_close_set, hservers]
    exact ⟨hfailure hne, hbefore⟩

/-- A turn that is not prompt adds another way: a report of a failure that was on its way when
    its task was stopped arrives when there are servers. -/
theorem failure_beside_servers_of_late {place : Nat} {report : Report}
    (hlate : r.stragglers[place]? = some report) (hfailure : report.IsFailure)
    (hservers : r.set.servers ≠ []) :
    (r.step shuffles (.arrive place)).set.failure?.isSome ∧
      (r.step shuffles (.arrive place)).set.servers ≠ [] := by
  obtain ⟨hkept, hshown⟩ :=
    Cluster.take_of_isFailure (List.forall_mem_singleton.mpr hfailure) r.set
  rw [step, hlate, Option.toList_some, ServerSet.failure?, Option.isSome_map,
    Option.isSome_iff_ne_none, hkept]
  exact ⟨hshown (List.cons_ne_nil _ _), hservers⟩

/-- Hosts are found, the watch is closed and started again, and its lookup fails. -/
theorem failure_beside_servers_restarted :
    ∃ r : Roster,
      r.Born { settings := { mode := .multiple, srvHost := some "rs0.example.com" } } ∧
      r.resolver.lookups = [.ok [⟨"a.example.com", 1⟩], .error (.timeout "late")] ∧
      let final := r.run (fun _ hosts => hosts) [.poll, .close, .start true 7, .poll]
      final.set.failure?.isSome ∧ final.set.servers ≠ [] := by
  have hfound : checked "rs0.example.com" (.ok [⟨"a.example.com", 1⟩]) =
      .ok [⟨"a.example.com", 1⟩] := by rfl
  have hlate : checked "rs0.example.com" (.error (.timeout "late")) =
      .error (.timeout "late") := by rfl
  obtain ⟨r, hborn, hlookups⟩ : ∃ r : Roster,
      r.Born { settings := { mode := .multiple, srvHost := some "rs0.example.com" } } ∧
      r.resolver.lookups = [.ok [⟨"a.example.com", 1⟩], .error (.timeout "late")] :=
    ⟨{ set := _, watch := _, resolver := ⟨_, [], []⟩ }, ⟨⟨1, true, 0, _, _, rfl, rfl⟩, rfl⟩, rfl⟩
  refine ⟨r, hborn, hlookups, ?_⟩
  have hprompt : ∀ turn ∈ [Turn.poll, .close, .start true 7, .poll], turn.Prompt := by
    simp [Turn.Prompt]
  obtain ⟨now, hwatch⟩ := hborn.watch_eq rfl
  have hshuffles : ∀ (n : Nat) (hosts : List Address), hosts.Perm hosts := fun _ _ => .rfl
  have hfilled : (r.run (fun _ hosts => hosts) [.poll]).set.servers ≠ [] := by
    rw [run_cons, run_nil]
    exact (hborn.lawful rfl).poll_servers_ne_nil hshuffles (congrArg Watch.task hwatch) rfl
      (by rw [hwatch, Resolver.lookUp, hlookups]; exact hfound)
  have hrest : (r.polled fun _ hosts => hosts).2.2.lookups = [.error (.timeout "late")] := by
    rw [polled, Watch.pollTimes_running _ 0 r.resolver (congrArg Watch.task hwatch)]
    exact (Resolver.lookUp_cons hlookups _).2
  have hplan : (r.polled fun _ hosts => hosts).2.1.plan.srvHost = "rs0.example.com" := by
    rw [polled, Watch.pollTimes_plan, hwatch]
    rfl
  have hcalls : (r.run (fun _ hosts => hosts) ([.poll] ++ [.close])).calls
      (fun _ hosts => hosts) [.start true 7, .poll] = [.failure (.timeout "late")] := by
    rw [calls, calls, calls, List.append_nil, taken_poll_unresolved _ rfl rfl ?_]
    · rfl
    · exact (congrArg₂ checked hplan (Resolver.lookUp_cons hrest _).1).trans hlate
  refine (failure_beside_servers_iff hborn rfl hprompt).mpr
    ⟨[.poll], [.start true 7, .poll], rfl, hfilled, ?_, ?_⟩
  · rw [hcalls]
    exact List.cons_ne_nil _ _
  · rw [hcalls]
    exact List.forall_mem_singleton.mpr trivial

end Roster

end DocumentLink
