import DocumentLink.Proofs.Lookups
import DocumentLink.Session.Cluster

/-!
# Server Sets under Discovery

The servers of a discovered cluster, at every moment of its life.

A watch polls on a task of its own. It can be closed and started again at any
time, by anyone, and nothing orders that against its polls. In particular a task
may be stopped when it has made its lookup and has yet to report: the report is
then on its way, the task no longer counts, and the report arrives whenever it
does, perhaps when another task has long taken over. So a moment of the life is
a set, a watch, what the name service has left to say, and the reports that are
on their way. `Turn` is what may happen next, in any order.

A session of a cluster moves in steps that are larger: all polls that are due
are made at once, and they report at once. `ClusterSession.Shows.after` says
that its steps are turns, so that what holds after any turns holds of sessions.

The set starts without servers. What reports hand out lies within the domain,
wherever it comes from, so what is demanded of the addresses holds of the set
and of the reports that are on their way, and each turn keeps both. No report
hands out an empty list, so servers that are there do not vanish altogether.

## Main definitions

* `Roster`: A set, its watch, and what is on its way.
* `Roster.Turn`, `Roster.step`, `Roster.run`: What may happen, in any order.
* `Roster.taken`, `Roster.calls`: The reports that the set takes in.
* `Roster.Lawful`: The invariant of rosters.
* `Roster.Born`: How such a life begins.
* `ClusterSession.Shows`: A session is at a moment of such a life.

## Theorems

* `Roster.run_set`: The set is what the calls make of it.
* `Roster.Lawful.step`, `Roster.Lawful.run`: Turns keep the invariant.
* `Roster.Lawful.run_servers_ne_nil`: Servers do not vanish altogether.
* `ClusterSession.Shows.after`: The steps of a session are turns.
* `ClusterSession.Shows.after_within`: What this says of the servers of a session.
* `Cluster.create_discovered`: How a discovered cluster begins.
* `Roster.Lawful.poll_servers_ne_nil`: The first valid answer fills the set.
* `Roster.discovered_within`: What holds of every discovered cluster.
-/

namespace DocumentLink

/-- A server set, the watch that fills it, and what is on its way between them. -/
structure Roster where
  set : ServerSet
  watch : Watch
  resolver : Resolver
  /-- The reports of tasks that were stopped before they had reported. -/
  stragglers : List Discovery.Report := []

namespace Roster

/-- What may happen next. -/
inductive Turn where
  | start (runtime : Bool) (now : Nat)
  | close
  /-- The running task polls, and the set takes in its report. -/
  | poll
  /-- The running task polls, and is stopped before it has reported. -/
  | closeAmid
  /-- A report that was on its way arrives. -/
  | arrive (place : Nat)

/-- Whether nothing is on its way after a turn that was not before it. -/
def Turn.Prompt : Turn → Prop
  | .start .. | .close | .poll => True
  | .closeAmid | .arrive _ => False

variable (shuffles : Watch.Shuffles)

/-- One poll of the watch. -/
def polled (r : Roster) : List Discovery.Report × Watch × Resolver :=
  r.watch.pollTimes shuffles 1 r.resolver

/-- Take a turn. -/
def step (r : Roster) : Turn → Roster
  | .start runtime now =>
    { r with watch := (r.watch.start runtime now).toOption.getD r.watch }
  | .close => { r with watch := r.watch.close }
  | .poll =>
    let (reports, watch, resolver) := r.polled shuffles
    { r with set := Cluster.take r.set reports, watch := watch, resolver := resolver }
  | .closeAmid =>
    let (reports, watch, resolver) := r.polled shuffles
    { r with
      watch := watch.close
      resolver := resolver
      stragglers := r.stragglers ++ reports }
  | .arrive place =>
    { r with
      set := Cluster.take r.set r.stragglers[place]?.toList
      stragglers := r.stragglers.eraseIdx place }

/-- The reports that the set takes in at a turn. -/
def taken (r : Roster) : Turn → List Discovery.Report
  | .start .. | .close | .closeAmid => []
  | .poll => (r.polled shuffles).1
  | .arrive place => r.stragglers[place]?.toList

/-- Take turns, one after the other. -/
def run (r : Roster) (turns : List Turn) : Roster :=
  turns.foldl (step shuffles) r

/-- The reports that the set takes in, in order. -/
def calls (r : Roster) : List Turn → List Discovery.Report
  | [] => []
  | turn :: turns => r.taken shuffles turn ++ (r.step shuffles turn).calls turns

variable {shuffles}

@[simp] theorem run_nil (r : Roster) : r.run shuffles [] = r := rfl

@[simp] theorem run_cons (r : Roster) (turn : Turn) (turns : List Turn) :
    r.run shuffles (turn :: turns) = (r.step shuffles turn).run shuffles turns := rfl

theorem run_append (r : Roster) (turns more : List Turn) :
    r.run shuffles (turns ++ more) = (r.run shuffles turns).run shuffles more :=
  List.foldl_append

theorem calls_append (r : Roster) (turns more : List Turn) :
    r.calls shuffles (turns ++ more) =
      r.calls shuffles turns ++ (r.run shuffles turns).calls shuffles more := by
  induction turns generalizing r with
  | nil => rfl
  | cons turn turns ih => rw [List.cons_append, calls, ih, calls, List.append_assoc, run_cons]

theorem step_set (r : Roster) (turn : Turn) :
    (r.step shuffles turn).set = Cluster.take r.set (r.taken shuffles turn) := by
  cases turn <;> rfl

/-- The set is what the calls make of it. -/
theorem run_set (r : Roster) (turns : List Turn) :
    (r.run shuffles turns).set = Cluster.take r.set (r.calls shuffles turns) := by
  induction turns generalizing r with
  | nil => rfl
  | cons turn turns ih => rw [run_cons, ih, calls, Cluster.take_append, step_set]

/-- Every turn leaves the plan of the watch as it is. -/
theorem step_plan (r : Roster) (turn : Turn) :
    (r.step shuffles turn).watch.plan = r.watch.plan := by
  cases turn with
  | start runtime now =>
      show ((r.watch.start runtime now).toOption.getD r.watch).plan = r.watch.plan
      cases hstart : r.watch.start runtime now with
      | error e => rfl
      | ok started => exact Watch.plan_start hstart
  | close => rfl
  | poll => exact Watch.pollTimes_plan shuffles 1 r.watch r.resolver
  | closeAmid => exact Watch.pollTimes_plan shuffles 1 r.watch r.resolver
  | arrive place => rfl

/-- The invariant of rosters: what is demanded holds of the set, and of whatever is on its
    way to it. -/
structure Lawful (srvHost : String) (limit : Nat) (r : Roster) : Prop where
  srvHost_eq : r.watch.plan.srvHost = srvHost
  maxHosts_eq : r.watch.plan.maxHosts = limit
  within : Discovery.Within srvHost limit r.set.addresses
  onTheWay : ∀ report ∈ r.stragglers, report.Lawful srvHost limit

end Roster

namespace Cluster

open Discovery

variable {srvHost : String} {limit : Nat}

/-- A lawful report leaves the set with what is demanded. -/
theorem takeReport_within {set : ServerSet} {report : Report}
    (hreport : report.Lawful srvHost limit) (hset : Within srvHost limit set.addresses) :
    Within srvHost limit (takeReport set report).addresses := by
  cases report with
  | hosts selected all =>
      obtain ⟨hselected, -⟩ := hreport
      rw [takeReport, ServerSet.addresses_resolve, Address.distinct_of_nodup hselected.nodup]
      exact hselected
  | failure e => exact hset

/-- Hosts that are lawful leave a set with servers. -/
theorem resolve_servers_ne_nil {selected all : List Address}
    (hreport : (Report.hosts selected all).Lawful srvHost limit) (set : ServerSet) :
    (set.resolve selected).servers ≠ [] := by
  obtain ⟨hselected, hne⟩ := hreport
  rw [ne_eq, ← ServerSet.addresses_eq_nil_iff, ServerSet.addresses_resolve,
    Address.distinct_of_nodup hselected.nodup]
  exact hne

/-- A lawful report leaves a set that has servers with some. -/
theorem takeReport_servers_ne_nil {set : ServerSet} {report : Report}
    (hreport : report.Lawful srvHost limit) (hset : set.servers ≠ []) :
    (takeReport set report).servers ≠ [] := by
  cases report with
  | hosts selected all => exact resolve_servers_ne_nil hreport set
  | failure e => exact hset

theorem take_within {set : ServerSet} {reports : List Report}
    (hreports : ∀ report ∈ reports, report.Lawful srvHost limit)
    (hset : Within srvHost limit set.addresses) :
    Within srvHost limit (take set reports).addresses := by
  induction reports generalizing set with
  | nil => exact hset
  | cons report reports ih =>
      obtain ⟨hreport, hrest⟩ := List.forall_mem_cons.mp hreports
      exact ih hrest (takeReport_within hreport hset)

theorem take_servers_ne_nil {set : ServerSet} {reports : List Report}
    (hreports : ∀ report ∈ reports, report.Lawful srvHost limit) (hset : set.servers ≠ []) :
    (take set reports).servers ≠ [] := by
  induction reports generalizing set with
  | nil => exact hset
  | cons report reports ih =>
      obtain ⟨hreport, hrest⟩ := List.forall_mem_cons.mp hreports
      exact ih hrest (takeReport_servers_ne_nil hreport hset)

end Cluster

namespace Roster

variable {shuffles : Watch.Shuffles} {srvHost : String} {limit : Nat} {r : Roster}

/-- What a poll reports is lawful. -/
theorem Lawful.polled (hshuffles : ∀ n hosts, (shuffles n hosts).Perm hosts)
    (h : r.Lawful srvHost limit) :
    ∀ report ∈ (r.polled shuffles).1, report.Lawful srvHost limit := by
  have hlawful := Watch.pollTimes_lawful hshuffles 1 r.watch r.resolver
  rw [h.srvHost_eq, h.maxHosts_eq] at hlawful
  exact hlawful

/-- What the set takes in at a turn is lawful. -/
theorem Lawful.taken (hshuffles : ∀ n hosts, (shuffles n hosts).Perm hosts)
    (h : r.Lawful srvHost limit) (turn : Turn) :
    ∀ report ∈ r.taken shuffles turn, report.Lawful srvHost limit := by
  intro report hreport
  cases turn with
  | start runtime now => exact absurd hreport List.not_mem_nil
  | close => exact absurd hreport List.not_mem_nil
  | poll => exact h.polled hshuffles report hreport
  | closeAmid => exact absurd hreport List.not_mem_nil
  | arrive place =>
      exact h.onTheWay report (List.mem_of_getElem? (Option.mem_toList.mp hreport))

/-- Turns keep the invariant. -/
theorem Lawful.step (hshuffles : ∀ n hosts, (shuffles n hosts).Perm hosts)
    (h : r.Lawful srvHost limit) (turn : Turn) : (r.step shuffles turn).Lawful srvHost limit where
  srvHost_eq := by rw [step_plan, h.srvHost_eq]
  maxHosts_eq := by rw [step_plan, h.maxHosts_eq]
  within := by
    rw [step_set]
    exact Cluster.take_within (h.taken hshuffles turn) h.within
  onTheWay report hreport := by
    cases turn with
    | start runtime now => exact h.onTheWay report hreport
    | close => exact h.onTheWay report hreport
    | poll => exact h.onTheWay report hreport
    -- Only a poll that is cut short sends something new on its way.
    | closeAmid =>
        rcases List.mem_append.mp hreport with hold | hnew
        · exact h.onTheWay report hold
        · exact h.polled hshuffles report hnew
    | arrive place => exact h.onTheWay report (List.mem_of_mem_eraseIdx hreport)

theorem Lawful.run (hshuffles : ∀ n hosts, (shuffles n hosts).Perm hosts)
    (h : r.Lawful srvHost limit) (turns : List Turn) :
    (r.run shuffles turns).Lawful srvHost limit := by
  induction turns generalizing r with
  | nil => exact h
  | cons turn turns ih => exact ih (h.step hshuffles turn)

/-- Servers that are there do not vanish altogether. -/
theorem Lawful.run_servers_ne_nil (hshuffles : ∀ n hosts, (shuffles n hosts).Perm hosts)
    (h : r.Lawful srvHost limit) (hservers : r.set.servers ≠ []) (turns : List Turn) :
    (r.run shuffles turns).set.servers ≠ [] := by
  induction turns generalizing r with
  | nil => exact hservers
  | cons turn turns ih =>
      refine ih (h.step hshuffles turn) ?_
      rw [step_set]
      exact Cluster.take_servers_ne_nil (h.taken hshuffles turn) hservers

/-- Polls, one after the other, are the polls that a watch makes at once. -/
theorem run_polls (r : Roster) (n : Nat) :
    r.run shuffles (List.replicate n .poll) =
      let (reports, watch, resolver) := r.watch.pollTimes shuffles n r.resolver
      { r with set := Cluster.take r.set reports, watch := watch, resolver := resolver } := by
  induction n generalizing r with
  | zero => rfl
  | succ n ih =>
      rw [List.replicate_succ, run_cons, ih, Nat.add_comm n 1, Watch.pollTimes_add]
      simp only [step, polled, Cluster.take_append]

end Roster

namespace ClusterSession

/-- A session after steps. -/
def after (s : ClusterSession) (steps : List Step) : ClusterSession :=
  steps.foldl (fun s step => (s.step step).2) s

/-- A session is at a moment of the life of a discovered cluster. -/
structure Shows (s : ClusterSession) (r : Roster) : Prop where
  resolver : s.resolver = r.resolver
  cluster : ∃ id settings, s.cluster = some ⟨id, settings, .discovered r.set r.watch⟩

/-- One session comes of another by turns, if its cluster has not been dropped. -/
structure Continues (s t : ClusterSession) (r : Roster) : Prop where
  shuffles : t.shuffles = s.shuffles
  turns : t.cluster = none ∨
    ∃ turns : List Roster.Turn, (∀ turn ∈ turns, turn.Prompt) ∧ t.Shows (r.run s.shuffles turns)

variable {s t u : ClusterSession} {r : Roster}

theorem Continues.trans (hfirst : s.Continues t r)
    (hrest : ∀ r', t.Shows r' → t.Continues u r')
    (hgone : t.cluster = none → u.shuffles = t.shuffles ∧ u.cluster = none) :
    s.Continues u r := by
  obtain ⟨hshuffles, hcluster | ⟨turns, hprompt, hshows⟩⟩ := hfirst
  · obtain ⟨hshuffles', hcluster'⟩ := hgone hcluster
    exact ⟨hshuffles'.trans hshuffles, .inl hcluster'⟩
  · obtain ⟨hshuffles', hcluster | ⟨more, hprompt', hshows'⟩⟩ := hrest _ hshows
    · exact ⟨hshuffles'.trans hshuffles, .inl hcluster⟩
    · refine ⟨hshuffles'.trans hshuffles, .inr ⟨turns ++ more, ?_, ?_⟩⟩
      · simp only [List.forall_mem_append]
        exact ⟨hprompt, hprompt'⟩
      · rw [Roster.run_append, ← hshuffles]
        rwa [← hshuffles] at hshows'

/-- The polls that are due are turns. -/
theorem Shows.poll (h : s.Shows r) : s.Continues s.poll r := by
  obtain ⟨id, settings, hcluster⟩ := h.cluster
  refine ⟨?_, .inr ⟨List.replicate (r.watch.duePolls s.now) .poll, ?_, ?_⟩⟩
  · simp only [ClusterSession.poll, hcluster]
  · intro turn hturn
    rw [List.eq_of_mem_replicate hturn]
    trivial
  · rw [Roster.run_polls]
    simp only [ClusterSession.poll, hcluster, h.resolver, Watch.advance]
    exact ⟨rfl, id, settings, rfl⟩

/-- What is done in a step is a turn of the watch, or leaves it alone. -/
theorem Shows.answer (h : s.Shows r) (step : Step) : s.Continues (s.answer step).2.2 r := by
  obtain ⟨id, settings, hcluster⟩ := h.cluster
  -- Most steps touch neither the watch nor the name service, and are no turn at all.
  have hnothing : ∀ {t : ClusterSession}, t.shuffles = s.shuffles → t.resolver = s.resolver →
      t.cluster = s.cluster → s.Continues t r := by
    intro t hshuffles hresolver hsame
    refine ⟨hshuffles, .inr ⟨[], by simp, hresolver.trans h.resolver, id, settings, ?_⟩⟩
    rw [hsame, hcluster, Roster.run_nil]
  cases step with
  | advance milliseconds => exact hnothing rfl rfl rfl
  | drop => exact ⟨rfl, .inl rfl⟩
  | exchange place command mode =>
      simp only [ClusterSession.answer, exchangeOver]
      split <;> exact hnothing rfl rfl rfl
  | servers =>
      simp only [ClusterSession.answer, hcluster]
      exact hnothing rfl rfl rfl
  | server address =>
      simp only [ClusterSession.answer, hcluster]
      exact hnothing rfl rfl rfl
  | openConnection place purpose mode =>
      simp only [ClusterSession.answer, hcluster, onCluster]
      split
      · exact hnothing rfl rfl rfl
      · simp only [openTo]
        split <;> exact hnothing rfl rfl rfl
  | failure =>
      simp only [ClusterSession.answer, hcluster, onCluster, onWatch]
      exact hnothing rfl rfl rfl
  | closeWatch =>
      simp only [ClusterSession.answer, hcluster, onCluster, onWatch]
      exact ⟨rfl, .inr ⟨[.close], by simp [Roster.Turn.Prompt], h.resolver, id, settings, rfl⟩⟩
  | startWatch =>
      simp only [ClusterSession.answer, hcluster, onCluster, onWatch]
      cases hstart : r.watch.start s.runtime s.now with
      | error e => exact hnothing rfl rfl rfl
      | ok started =>
          refine ⟨rfl, .inr ⟨[.start s.runtime s.now], by simp [Roster.Turn.Prompt], h.resolver, id,
            settings, ?_⟩⟩
          simp only [Roster.run_cons, Roster.run_nil, Roster.step, hstart]
          rfl

/-- Nothing brings back a cluster that has been dropped. -/
theorem step_gone (h : s.cluster = none) (step : Step) :
    (s.step step).2.shuffles = s.shuffles ∧ (s.step step).2.cluster = none := by
  -- With the cluster goes its watch, so nothing is due any more.
  have hpoll : ∀ {t : ClusterSession}, t.cluster = none → t.poll = t := by
    intro t ht
    simp only [ClusterSession.poll, ht]
  have hanswer : (s.answer step).2.2.shuffles = s.shuffles ∧
      (s.answer step).2.2.cluster = none := by
    cases step with
    | exchange place command mode =>
        simp only [ClusterSession.answer, exchangeOver]
        split <;> exact ⟨rfl, h⟩
    | drop => exact ⟨rfl, rfl⟩
    | _ => simp only [ClusterSession.answer, h, and_self]
  simp only [ClusterSession.step, hpoll hanswer.2]
  exact hanswer

theorem Shows.step (h : s.Shows r) (step : Step) : s.Continues (s.step step).2 r := by
  refine (h.answer step).trans (fun r' h' => h'.poll) fun hgone => ?_
  simp only [ClusterSession.step, ClusterSession.poll, hgone, and_self]

theorem after_gone (h : s.cluster = none) (steps : List Step) :
    (s.after steps).shuffles = s.shuffles ∧ (s.after steps).cluster = none := by
  induction steps generalizing s with
  | nil => exact ⟨rfl, h⟩
  | cons step steps ih =>
      obtain ⟨hshuffles, hcluster⟩ := step_gone h step
      obtain ⟨hshuffles', hcluster'⟩ := ih hcluster
      exact ⟨hshuffles'.trans hshuffles, hcluster'⟩

/-- The steps of a session are turns. -/
theorem Shows.after (h : s.Shows r) (steps : List Step) : s.Continues (s.after steps) r := by
  induction steps generalizing s r with
  | nil => exact ⟨rfl, .inr ⟨[], by simp, h⟩⟩
  | cons step steps ih =>
      exact (h.step step).trans (fun r' h' => ih h') fun hgone => after_gone hgone steps

/-- What is demanded of the addresses holds of a session for as long as there is a cluster. -/
theorem Shows.after_within {srvHost : String} {limit : Nat} (h : s.Shows r)
    (hshuffles : ∀ n hosts, (s.shuffles n hosts).Perm hosts) (hlawful : r.Lawful srvHost limit)
    (steps : List Step) {cluster : Cluster} (hcluster : (s.after steps).cluster = some cluster) :
    Discovery.Within srvHost limit (cluster.servers.map Server.address) := by
  obtain ⟨-, hgone | ⟨turns, -, hshows⟩⟩ := h.after steps
  · rw [hgone] at hcluster
    cases hcluster
  · obtain ⟨id, settings, hshown⟩ := hshows.cluster
    rw [hshown] at hcluster
    obtain rfl := Option.some.inj hcluster
    exact (hlawful.run hshuffles turns).within

end ClusterSession
namespace Cluster

/-- What a cluster that was made consists of. -/
theorem create_eq_ok {options : ClusterOptions} {number now : Nat} {runtime : Bool}
    {cluster : Cluster} {context : Context}
    (h : create options number runtime now = .ok (cluster, context)) :
    ∃ client, ClientMetadata.document options.application options.driver = .ok client ∧
      selectTopology cluster.id options.settings options.servers runtime now =
        .ok cluster.topology ∧
      cluster.id = ClusterId.draw number options.settings.description ∧
      cluster.settings = options.settings ∧ context = .ofOptions options client := by
  simp only [create, bind, Except.bind] at h
  cases hclient : ClientMetadata.document options.application options.driver with
  | error e => simp only [hclient, reduceCtorEq] at h
  | ok client =>
      simp only [hclient] at h
      cases htopology : selectTopology (ClusterId.draw number options.settings.description)
          options.settings options.servers runtime now with
      | error e => simp only [htopology, reduceCtorEq] at h
      | ok topology =>
          simp only [htopology] at h
          obtain ⟨rfl, rfl⟩ := Prod.mk.inj (Except.ok.inj h)
          exact ⟨client, rfl, htopology, rfl, rfl, rfl⟩

/-- A discovered cluster begins without servers, and with a watch that polls and knows nothing. -/
theorem create_discovered {options : ClusterOptions} {number now : Nat} {runtime : Bool}
    {cluster : Cluster} {context : Context} {set : ServerSet} {watch : Watch} {srvHost : String}
    (hcreate : create options number runtime now = .ok (cluster, context))
    (htopology : cluster.topology = .discovered set watch)
    (hsrvHost : options.settings.srvHost = some srvHost) :
    set = { cluster := cluster.id } ∧
      watch = { watchFor options.settings srvHost options.servers with
        task := some { due := now } } := by
  obtain ⟨client, -, hselect, -⟩ := create_eq_ok hcreate
  rw [htopology, selectTopology, hsrvHost] at hselect
  cases hmode : options.settings.mode with
  | single => simp [hmode] at hselect
  | loadBalanced => simp [hmode] at hselect
  | multiple =>
      simp only [hmode] at hselect
      cases runtime with
      | false => cases hselect
      | true =>
          obtain ⟨rfl, rfl⟩ := Topology.discovered.inj (Except.ok.inj hselect)
          exact ⟨rfl, rfl⟩

end Cluster

namespace Roster

/-- The moment at which a discovered cluster has been made from options. -/
structure Born (options : ClusterOptions) (r : Roster) : Prop where
  made : ∃ number runtime now cluster context,
    Cluster.create options number runtime now = .ok (cluster, context) ∧
      cluster.topology = .discovered r.set r.watch
  stragglers : r.stragglers = []

variable {options : ClusterOptions} {srvHost : String} {r : Roster}

theorem Born.set_eq (h : r.Born options) (hsrvHost : options.settings.srvHost = some srvHost) :
    r.set.servers = [] ∧ r.set.failure = none := by
  obtain ⟨number, runtime, now, cluster, context, hcreate, htopology⟩ := h.made
  rw [(Cluster.create_discovered hcreate htopology hsrvHost).1]
  exact ⟨rfl, rfl⟩

theorem Born.watch_eq (h : r.Born options)
    (hsrvHost : options.settings.srvHost = some srvHost) :
    ∃ now, r.watch = { Cluster.watchFor options.settings srvHost options.servers with
      task := some { due := now } } := by
  obtain ⟨number, runtime, now, cluster, context, hcreate, htopology⟩ := h.made
  exact ⟨now, (Cluster.create_discovered hcreate htopology hsrvHost).2⟩

/-- What is demanded holds when the cluster is made. -/
theorem Born.lawful (h : r.Born options)
    (hsrvHost : options.settings.srvHost = some srvHost) :
    r.Lawful srvHost options.settings.srvMaxHosts := by
  obtain ⟨now, hwatch⟩ := h.watch_eq hsrvHost
  refine ⟨by rw [hwatch]; rfl, by rw [hwatch]; rfl, ?_, ?_⟩
  · rw [ServerSet.addresses_eq_nil_iff.mpr (h.set_eq hsrvHost).1]
    exact .nil _ _
  · rw [h.stragglers]
    exact fun report hreport => absurd hreport List.not_mem_nil

variable {shuffles : Watch.Shuffles}

/-- A running watch that knows nothing reports the hosts of the first valid answer. -/
theorem taken_poll_found (shuffles : Watch.Shuffles) {task : Watch.Task} {hosts : List Address}
    (htask : r.watch.task = some task) (hknown : task.known = none)
    (hchecked : Discovery.checked r.watch.plan.srvHost
      (r.resolver.lookUp r.watch.plan.recordName).1 = .ok hosts) :
    r.taken shuffles .poll =
      [.hosts (Discovery.select (shuffles r.watch.polls) r.watch.plan.maxHosts
        (Address.ordered hosts)) (Address.ordered hosts)] := by
  rw [taken, polled, Watch.pollTimes_running shuffles 0 r.resolver htask, hknown]
  simp only [Discovery.poll_of_ok hchecked, reduceCtorEq, if_false]
  rfl

/-- A running watch that knows nothing reports why there is no valid answer. -/
theorem taken_poll_unresolved (shuffles : Watch.Shuffles) {task : Watch.Task} {e : Error}
    (htask : r.watch.task = some task) (hknown : task.known = none)
    (hchecked : Discovery.checked r.watch.plan.srvHost
      (r.resolver.lookUp r.watch.plan.recordName).1 = .error e) :
    r.taken shuffles .poll = [.failure e] := by
  rw [taken, polled, Watch.pollTimes_running shuffles 0 r.resolver htask, hknown]
  simp only [Discovery.poll_of_error hchecked, Option.isNone_none, if_true]
  rfl

/-- The first valid answer fills the set. -/
theorem Lawful.poll_servers_ne_nil {limit : Nat} {task : Watch.Task} {hosts : List Address}
    (hshuffles : ∀ n hosts, (shuffles n hosts).Perm hosts) (h : r.Lawful srvHost limit)
    (htask : r.watch.task = some task) (hknown : task.known = none)
    (hchecked : Discovery.checked r.watch.plan.srvHost
      (r.resolver.lookUp r.watch.plan.recordName).1 = .ok hosts) :
    (r.step shuffles .poll).set.servers ≠ [] := by
  have htaken := taken_poll_found shuffles htask hknown hchecked
  have hlawful := h.taken hshuffles .poll
  rw [htaken, List.forall_mem_singleton] at hlawful
  rw [step_set, htaken]
  exact Cluster.resolve_servers_ne_nil hlawful r.set

/-- Discovery never leaves its domain. Whatever the name service answers, however the shuffles
    fall, and whenever the watch is closed and started: the servers have different addresses,
    each below the parent domain of the host that is looked up; there are no more of them than
    the limit allows; and once there are some there always are. -/
theorem discovered_within (hborn : r.Born options)
    (hsrvHost : options.settings.srvHost = some srvHost)
    (hshuffles : ∀ n hosts, (shuffles n hosts).Perm hosts) (turns : List Turn) :
    ((r.run shuffles turns).set.servers.map Server.address).Nodup ∧
      (∀ server ∈ (r.run shuffles turns).set.servers,
        Discovery.Below srvHost server.address) ∧
      (options.settings.srvMaxHosts ≠ 0 →
        (r.run shuffles turns).set.servers.length ≤ options.settings.srvMaxHosts) ∧
      ((r.run shuffles turns).set.servers ≠ [] →
        ∀ later, (r.run shuffles (turns ++ later)).set.servers ≠ []) := by
  have hlawful := (hborn.lawful hsrvHost).run hshuffles turns
  obtain ⟨hnodup, hbelow, hfew⟩ := hlawful.within
  refine ⟨hnodup, fun server hserver => ?_, fun hlimit => ?_, fun hservers later => ?_⟩
  · exact hbelow _ (List.mem_map_of_mem hserver)
  · have hlength := hfew hlimit
    rwa [ServerSet.addresses, List.length_map] at hlength
  · rw [run_append]
    exact hlawful.run_servers_ne_nil hshuffles hservers later

/-- A limit of one host, and an answer from another domain after a restart. -/
theorem discovered_within_restarted :
    ∃ r : Roster,
      r.Born { settings :=
        { mode := .multiple, srvHost := some "Rs0.Example.com.", srvMaxHosts := 1 } } ∧
      r.resolver.lookups = [
        .ok [⟨"b.example.com", 1⟩, ⟨"a.example.com", 1⟩, ⟨"b.example.com", 1⟩],
        .ok [⟨"a.example.org", 1⟩]] ∧
      let servers := (r.run (fun _ hosts => hosts.reverse)
        ([.poll] ++ [.close, .start true 7, .poll])).set.servers
      servers ≠ [] ∧ servers.length ≤ 1 ∧
        ∀ server ∈ servers, Discovery.Below "Rs0.Example.com." server.address := by
  have hchecked : Discovery.checked "Rs0.Example.com."
      (.ok [⟨"b.example.com", 1⟩, ⟨"a.example.com", 1⟩, ⟨"b.example.com", 1⟩]) =
        .ok [⟨"b.example.com", 1⟩, ⟨"a.example.com", 1⟩, ⟨"b.example.com", 1⟩] := by rfl
  obtain ⟨r, hborn, hlookups⟩ : ∃ r : Roster,
      r.Born { settings :=
        { mode := .multiple, srvHost := some "Rs0.Example.com.", srvMaxHosts := 1 } } ∧
      r.resolver.lookups = [
        .ok [⟨"b.example.com", 1⟩, ⟨"a.example.com", 1⟩, ⟨"b.example.com", 1⟩],
        .ok [⟨"a.example.org", 1⟩]] :=
    ⟨{ set := _, watch := _, resolver := ⟨_, [], []⟩ }, ⟨⟨1, true, 0, _, _, rfl, rfl⟩, rfl⟩, rfl⟩
  refine ⟨r, hborn, hlookups, ?_⟩
  have hshuffles : ∀ (n : Nat) (hosts : List Address), hosts.reverse.Perm hosts :=
    fun _ hosts => hosts.reverse_perm
  obtain ⟨now, hwatch⟩ := hborn.watch_eq rfl
  have hfilled := (hborn.lawful rfl).poll_servers_ne_nil hshuffles (congrArg Watch.task hwatch) rfl
    (by rw [hwatch, Resolver.lookUp, hlookups]; exact hchecked)
  obtain ⟨-, hbelow, hfew, -⟩ := discovered_within hborn rfl hshuffles
    ([.poll] ++ [.close, .start true 7, .poll])
  exact ⟨(discovered_within hborn rfl hshuffles [.poll]).2.2.2 hfilled _,
    hfew Nat.one_ne_zero, hbelow⟩

end Roster

end DocumentLink
