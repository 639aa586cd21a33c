import DocumentLink.Proofs.Lifecycle
import DocumentLink.Proofs.Roster
import DocumentLink.Proofs.Wire

/-!
# Founding Clusters

How a cluster comes to be, and what stays of it for good.

Creating a cluster may have servers made and a task spawned, before it has come to
a result. `Works.found` keeps account of that in the order in which it is done, and
erasing the account gives back the creation itself. What has been made in the end is
what the cluster holds, and a refusal has made nothing.

From then on servers come and go as discovery has it, and connections are opened to
them. All of them go by the identity that was drawn for the cluster. This is an
invariant of its sessions: a server is only ever made by a set, with the identity of
the set, and a connection takes over that of its server.

## Main definitions

* `Cluster.Works`: What has been made in the world.
* `Cluster.Works.found`: Creating a cluster, with account of what is made.
* `Cluster.recordName?`: The name that a cluster looks up.
* `ServerSet.Carries`, `Cluster.Stems`, `ClusterSession.Keeps`: Everything goes by one
  identity.

## Theorems

* `ClusterSettings.hosts_of_build_single`: Single mode has one host.
* `Address.distinct_eq_eraseDups`: Hosts without later repeats.
* `Cluster.Works.found_eq`: What is made is what the cluster holds.
* `ClusterSession.Keeps.step`, `ClusterSession.Keeps.after`: Steps keep the identity.
* `Cluster.founded`: What creating a cluster comes to, and what stays of it.
-/

namespace DocumentLink

namespace ClusterSettings

theorem effectiveHosts_ne_nil (draft : Draft) : draft.effectiveHosts ≠ [] := by
  rw [Draft.effectiveHosts]
  split
  · exact List.cons_ne_nil _ _
  · rename_i hempty
    rwa [List.isEmpty_iff] at hempty

/-- What has been checked is what was collected, and has one host in single mode. -/
theorem check_eq_ok {draft : Draft} {settings : ClusterSettings}
    (h : draft.check = .ok settings) :
    settings.hosts = draft.effectiveHosts ∧
      (settings.mode = .single → settings.hosts.length ≤ 1) := by
  rw [Draft.check] at h
  cases hport : draft.srvHostWithPort with
  | some host => simp only [hport, reduceCtorEq] at h
  | none =>
      simp only [hport] at h
      split at h
      · simp only [reduceCtorEq] at h
      · rename_i hfew
        injection h with h
        subst h
        refine ⟨rfl, fun hsingle => Nat.le_of_not_lt fun hmany => hfew ?_⟩
        simp only [Bool.and_eq_true, decide_eq_true_eq]
        exact ⟨hsingle, hmany⟩

/-- Settings that were built for single mode have one host. -/
theorem hosts_of_build_single {calls : List Setting} {settings : ClusterSettings}
    (h : build calls = .ok settings) (hmode : settings.mode = .single) :
    ∃ host, settings.hosts = [host] := by
  obtain ⟨hhosts, hfew⟩ := check_eq_ok h
  have hne := effectiveHosts_ne_nil (collect calls)
  rw [← hhosts] at hne
  have hlength := hfew hmode
  cases hcases : settings.hosts with
  | nil => exact absurd hcases hne
  | cons host rest =>
      rw [hcases, List.length_cons] at hlength
      rw [List.length_eq_zero_iff.mp (by omega : rest.length = 0)]
      exact ⟨host, rfl⟩

end ClusterSettings

/-- A set in which everything goes by one identity. -/
structure ServerSet.Carries (set : ServerSet) (id : ClusterId) : Prop where
  cluster_eq : set.cluster = id
  servers : ∀ server ∈ set.servers, server.id.cluster = id

namespace ServerSet

variable {set : ServerSet} {id : ClusterId}

/-- Servers for addresses, with the numbers from the next one on. -/
def numbered (id : ClusterId) : Nat → List Address → List Server
  | _, [] => []
  | made, address :: rest => ⟨made + 1, ⟨id, address⟩⟩ :: numbered id (made + 1) rest

@[simp] theorem length_numbered (id : ClusterId) (made : Nat) (addresses : List Address) :
    (numbered id made addresses).length = addresses.length := by
  induction addresses generalizing made with
  | nil => rfl
  | cons address rest ih => rw [numbered, List.length_cons, ih, List.length_cons]

/-- A set without servers makes one for each address. -/
theorem foldl_place_numbered (h : set.servers = []) (hosts : List Address)
    (placed : List Server) (made : Nat) :
    hosts.foldl set.place (placed, made) =
      (placed ++ numbered set.cluster made hosts, made + hosts.length) := by
  induction hosts generalizing placed made with
  | nil => rw [List.foldl_nil, numbered, List.append_nil, List.length_nil, Nat.add_zero]
  | cons host hosts ih =>
      have hplace : set.place (placed, made) host =
          (placed ++ [⟨made + 1, ⟨set.cluster, host⟩⟩], made + 1) := by
        rw [place, server?, find?, h]
        rfl
      rw [List.foldl_cons, hplace, ih, numbered, List.length_cons, List.append_assoc,
        List.singleton_append]
      congr 1
      omega

/-- The set with which a cluster begins has a server for each host. -/
theorem ofHosts_eq (id : ClusterId) (hosts : List Address) :
    ofHosts id hosts =
      { cluster := id
        servers := numbered id 0 hosts.eraseDups
        created := hosts.eraseDups.length } := by
  rw [ofHosts, update, foldl_place_numbered rfl, Address.distinct_eq_eraseDups, List.nil_append,
    Nat.zero_add]

/-- Whether servers are kept or made, they have the identity of the set. -/
theorem Carries.foldl_place (h : set.Carries id) (hosts : List Address)
    (placed : List Server × Nat) (hplaced : ∀ server ∈ placed.1, server.id.cluster = id) :
    ∀ server ∈ (hosts.foldl set.place placed).1, server.id.cluster = id := by
  induction hosts generalizing placed with
  | nil => exact hplaced
  | cons host hosts ih =>
      refine ih _ fun server hserver => ?_
      -- The last one placed is a server of the set, or has been made by it.
      rw [place] at hserver
      split at hserver
      · rename_i kept hkept
        rcases List.mem_append.mp hserver with hold | hnew
        · exact hplaced server hold
        · rw [List.mem_singleton.mp hnew]
          exact h.servers kept (List.mem_of_find?_eq_some hkept)
      · rcases List.mem_append.mp hserver with hold | hnew
        · exact hplaced server hold
        · rw [List.mem_singleton.mp hnew]
          exact h.cluster_eq

theorem Carries.update (h : set.Carries id) (hosts : List Address) :
    (set.update hosts).Carries id where
  cluster_eq := h.cluster_eq
  servers := h.foldl_place (Address.distinct hosts) ([], set.created) fun _ hnone =>
    absurd hnone List.not_mem_nil

theorem carries_ofHosts (id : ClusterId) (hosts : List Address) : (ofHosts id hosts).Carries id :=
  Carries.update ⟨rfl, fun _ hnone => absurd hnone List.not_mem_nil⟩ hosts

/-- Whatever discovery reports, the set keeps its identity. -/
theorem Carries.take (h : set.Carries id) (reports : List Discovery.Report) :
    (Cluster.take set reports).Carries id := by
  induction reports generalizing set with
  | nil => exact h
  | cons report reports ih =>
      rw [Cluster.take_cons]
      cases report with
      | hosts selected all =>
          have hcleared : Carries { set with failure := none } id := ⟨h.cluster_eq, h.servers⟩
          exact ih (hcleared.update selected)
      | failure e => exact ih ⟨h.cluster_eq, h.servers⟩

end ServerSet

namespace Watch

/-- Polling looks up the name of the plan, and no other. -/
theorem queries_pollTimes (shuffles : Shuffles) (n : Nat) (watch : Watch) (resolver : Resolver) :
    (pollTimes shuffles n watch resolver).2.2.queries =
      resolver.queries ++
        List.replicate (if watch.task.isSome then n else 0) watch.plan.recordName := by
  induction n generalizing watch resolver with
  | zero => simp only [pollTimes, ite_self, List.replicate_zero, List.append_nil]
  | succ n ih =>
      cases htask : watch.task with
      | none =>
          rw [pollTimes_stopped shuffles _ resolver htask]
          exact (List.append_nil _).symm
      | some task =>
          rw [pollTimes_running shuffles n resolver htask]
          simp only [ih, polledOnce, Option.isSome_some, if_true, Resolver.lookUp,
            List.replicate_succ, List.append_assoc, List.singleton_append]

end Watch

namespace Cluster

/-- What has been made in the world: servers, and watches with a task that polls. -/
structure Works where
  servers : List Server := []
  watches : List Watch := []

namespace Works

/-- Have a server made. -/
def makeServer (works : Works) (id : ClusterId) (address : Address) : Server × Works :=
  let server : Server := ⟨works.servers.length + 1, ⟨id, address⟩⟩
  (server, { works with servers := works.servers ++ [server] })

/-- Have servers made, one after the other. -/
def makeServers (works : Works) (id : ClusterId) : List Address → List Server × Works
  | [] => ([], works)
  | address :: rest =>
    let (server, works) := works.makeServer id address
    let (servers, works) := makeServers works id rest
    (server :: servers, works)

/-- Have a set made, with a server for each host. -/
def makeSet (works : Works) (id : ClusterId) (hosts : List Address) : ServerSet × Works :=
  let (servers, works) := works.makeServers id (Address.distinct hosts)
  ({ cluster := id, servers := servers, created := servers.length }, works)

/-- Start a watch. A task is spawned unless one is running already. -/
def start (works : Works) (watch : Watch) (runtime : Bool) (now : Nat) :
    Except Error Watch × Works :=
  match watch.start runtime now with
  | .error e => (.error e, works)
  | .ok started =>
    (.ok started,
      if watch.task.isSome then works else { works with watches := works.watches ++ [started] })

/-- Have the shape made that settings ask for. -/
def selectTopology (works : Works) (id : ClusterId) (settings : ClusterSettings)
    (monitoring : ServerSettings) (runtime : Bool) (now : Nat) : Except Error Topology × Works :=
  match settings.mode, settings.srvHost with
  | .single, _ =>
    let (server, works) := works.makeServer id (settings.hosts.head?.getD .localhost)
    (.ok (.single server), works)
  | .multiple, none =>
    let (set, works) := works.makeSet id settings.hosts
    (.ok (.seeds set), works)
  | .multiple, some srvHost =>
    let (set, works) := works.makeSet id []
    let (watch, works) := works.start (watchFor settings srvHost monitoring) runtime now
    (watch.map (.discovered set), works)
  | mode, _ => (.error (unsupportedMode mode), works)

/-- Create a cluster, with account of what is made in the order in which it is made. -/
def found (works : Works) (options : ClusterOptions) (number : Nat) (runtime : Bool)
    (now : Nat) : Except Error (Cluster × Context) × Works :=
  let id := ClusterId.draw number options.settings.description
  match ClientMetadata.document options.application options.driver with
  | .error e => (.error e, works)
  | .ok client =>
    let (topology, works) :=
      works.selectTopology id options.settings options.servers runtime now
    (topology.map fun topology =>
      (⟨id, options.settings, topology⟩, .ofOptions options client), works)

/-- What a shape holds. -/
def ofTopology : Topology → Works
  | .single server => { servers := [server] }
  | .seeds set => { servers := set.servers }
  | .discovered set watch => { servers := set.servers, watches := [watch] }

theorem makeServers_eq (works : Works) (id : ClusterId) (hosts : List Address) :
    works.makeServers id hosts =
      (ServerSet.numbered id works.servers.length hosts,
        { works with
          servers := works.servers ++ ServerSet.numbered id works.servers.length hosts }) := by
  induction hosts generalizing works with
  | nil => rw [makeServers, ServerSet.numbered, List.append_nil]
  | cons host hosts ih =>
      simp only [makeServers, makeServer, ih, ServerSet.numbered, List.length_append,
        List.length_singleton, List.append_assoc, List.singleton_append]

/-- The set that is made first is the one with which a cluster begins. -/
theorem makeSet_eq (id : ClusterId) (hosts : List Address) :
    makeSet {} id hosts =
      (ServerSet.ofHosts id hosts, { servers := (ServerSet.ofHosts id hosts).servers }) := by
  simp only [makeSet, makeServers_eq, ServerSet.ofHosts_eq, Address.distinct_eq_eraseDups,
    ServerSet.length_numbered, List.length_nil, List.nil_append]

/-- The shape that is made is the one that is selected. What has been made is what it
    holds, and nothing if there is none. -/
theorem selectTopology_eq (id : ClusterId) (settings : ClusterSettings)
    (monitoring : ServerSettings) (runtime : Bool) (now : Nat) :
    selectTopology {} id settings monitoring runtime now =
      (Cluster.selectTopology id settings monitoring runtime now,
        match Cluster.selectTopology id settings monitoring runtime now with
        | .error _ => {}
        | .ok topology => ofTopology topology) := by
  unfold selectTopology Cluster.selectTopology
  cases settings.mode with
  | single => rfl
  | loadBalanced => rfl
  | multiple =>
      cases settings.srvHost with
      | none =>
          simp only [makeSet_eq]
          rfl
      | some srvHost =>
          -- The set is made first. It has no servers, whether or not the watch can be started.
          simp only [makeSet_eq, start]
          cases runtime <;> rfl

/-- Creating a cluster comes to the same with and without the account. What has been
    made is what the cluster holds, and a refusal has made nothing. -/
theorem found_eq (options : ClusterOptions) (number : Nat) (runtime : Bool) (now : Nat) :
    found {} options number runtime now =
      (create options number runtime now,
        match create options number runtime now with
        | .error _ => {}
        | .ok (cluster, _) => ofTopology cluster.topology) := by
  simp only [found, create, bind, Except.bind]
  cases ClientMetadata.document options.application options.driver with
  | error e => rfl
  | ok client =>
      simp only [selectTopology_eq]
      cases Cluster.selectTopology (ClusterId.draw number options.settings.description)
        options.settings options.servers runtime now <;> rfl

end Works

/-- The name that a cluster looks up, if it looks up any. -/
def recordName? (cluster : Cluster) : Option String :=
  match cluster.topology with
  | .single _ | .seeds _ => none
  | .discovered _ watch => some watch.plan.recordName

end Cluster

/-- A shape in which everything goes by one identity. -/
def Topology.Carries (id : ClusterId) : Topology → Prop
  | .single server => server.id.cluster = id
  | .seeds set | .discovered set _ => set.Carries id

/-- A cluster that was founded, at some moment. Only its servers may have come and gone,
    and its watch may have been closed and started. -/
structure Cluster.Stems (cluster founded : Cluster) : Prop where
  id_eq : cluster.id = founded.id
  settings_eq : cluster.settings = founded.settings
  recordName_eq : cluster.recordName? = founded.recordName?
  carries : cluster.topology.Carries founded.id

namespace Cluster

variable {cluster founded : Cluster}

theorem Stems.server (h : cluster.Stems founded) {server : Server}
    (hserver : server ∈ cluster.servers) : server.id.cluster = founded.id := by
  have hcarries := h.carries
  rw [servers] at hserver
  cases htopology : cluster.topology with
  | single only =>
      rw [htopology] at hserver hcarries
      rw [List.mem_singleton.mp hserver]
      exact hcarries
  | seeds set =>
      rw [htopology] at hserver hcarries
      exact hcarries.servers server hserver
  | discovered set watch =>
      rw [htopology] at hserver hcarries
      exact hcarries.servers server hserver

/-- A server that is found by its address is one of those there are. -/
theorem mem_servers_of_server? {address : Address} {server : Server}
    (h : cluster.server? address = some server) : server ∈ cluster.servers := by
  rw [server?] at h
  rw [servers]
  cases htopology : cluster.topology with
  | single only =>
      simp only [htopology] at h
      split at h
      · rw [Option.some.inj h]
        exact List.mem_singleton_self server
      · simp only [reduceCtorEq] at h
  | seeds set =>
      simp only [htopology] at h
      exact List.mem_of_find?_eq_some h
  | discovered set watch =>
      simp only [htopology] at h
      exact List.mem_of_find?_eq_some h

/-- A cluster that was made goes by its identity from the start. -/
theorem stems_create {options : ClusterOptions} {number now : Nat} {runtime : Bool}
    {context : Context} (h : create options number runtime now = .ok (cluster, context)) :
    cluster.Stems cluster := by
  refine ⟨rfl, rfl, rfl, ?_⟩
  obtain ⟨client, -, hselect, -⟩ := create_eq_ok h
  unfold selectTopology at hselect
  cases hmode : options.settings.mode with
  | single =>
      simp only [hmode] at hselect
      rw [← Except.ok.inj hselect]
      rfl
  | loadBalanced => simp only [hmode, reduceCtorEq] at hselect
  | multiple =>
      cases hsrvHost : options.settings.srvHost with
      | none =>
          simp only [hmode, hsrvHost] at hselect
          rw [← Except.ok.inj hselect]
          exact ServerSet.carries_ofHosts _ _
      | some srvHost =>
          simp only [hmode, hsrvHost] at hselect
          cases hstart : (watchFor options.settings srvHost options.servers).start runtime now with
          | error e => simp only [hstart, Except.map, reduceCtorEq] at hselect
          | ok started =>
              simp only [hstart, Except.map] at hselect
              rw [← Except.ok.inj hselect]
              exact ServerSet.carries_ofHosts _ _

end Cluster

/-- The identity of a connection goes through its opening, but for the server's number. -/
theorem Setup.Opens.concerns {setup : Setup} {connection : Connection}
    {speculation : Speculation} {created : Nat} {course : Course} {opened : Opened}
    (h : setup.Opens connection speculation created course (.ok opened)) :
    opened.Concerns connection.description.id := by
  cases h with
  | opened _ _ _ hprobes =>
      have hlearned := Opened.concerns_ofReply connection
      cases hprobes with
      | known _ => exact hlearned _
      | asked _ => exact (hlearned _).applyProbe _

/-- An opening leaves the identity of the connection as it is, but for the server's
    number, and what it hands out is about this connection. -/
theorem Mode.openConnection_concerns (mode : Mode) (setup : Setup) {desk : Desk}
    (hfresh : desk.line.connection.stage = .uninitialized) :
    ∃ result after, mode.openConnection setup desk = (some result, after) ∧
      after.line.connection.description.id.server = desk.line.connection.description.id.server ∧
      ∀ opened, result = .ok opened → opened.Concerns desk.line.connection.description.id := by
  rcases mode.course_openConnection setup hfresh with
    ⟨course, result, after, hopen, ⟨settling, hfollows, hafter⟩, hopens⟩
  refine ⟨result, after, hopen, ?_, ?_⟩
  · rw [hafter]
    cases result with
    | error e => exact congrArg (·.description.id.server) hfollows.connection_eq
    | ok opened => exact hopens.concerns.server
  · rintro opened rfl
    exact hopens.concerns

namespace Access

/-- What comes of an attempt is about one server. -/
structure Attempt.Concerns (attempt : Attempt) (server : ServerId) : Prop where
  connection : ∀ connection, attempt.connection = some connection →
    connection.description.id.server = server
  opened : ∀ opened, attempt.result = some (.ok opened) → opened.connection.id.server = server

/-- A new connection goes by the identity of its server. -/
theorem server_connect {access left : Access} {context : Context} {purpose : Purpose}
    {server : ServerId} {fresh : Connection}
    (h : access.connect context purpose server = (.ok fresh, left)) :
    fresh.description.id.server = server := by
  rw [connect] at h
  cases htransport : access.createTransport purpose server.address with
  | mk transport shared =>
      rw [htransport] at h
      cases transport with
      | error e => cases h
      | ok transport =>
          injection h with hfresh _
          injection hfresh with hfresh
          rw [← hfresh]
          rfl

/-- Whatever is shared when a connection to a server is opened, it is one to this server. -/
theorem openConnection_concerns (access : Access) (context : Context) (purpose : Purpose)
    (mode : Mode) (server : ServerId) :
    (access.openConnection context purpose mode server).1.Concerns server := by
  rw [openConnection]
  cases hconnect : access.connect context purpose server with
  | mk connected left =>
      cases connected with
      | error e =>
          refine ⟨fun connection h => ?_, fun opened h => ?_⟩
          · simp only [reduceCtorEq] at h
          · simp only [Option.some.injEq, reduceCtorEq] at h
      | ok fresh =>
          have hserver := server_connect hconnect
          rcases mode.openConnection_concerns (context.setup purpose)
            (show (left.desk fresh).line.connection.stage = .uninitialized from
              (connect_ok hconnect).1) with ⟨result, after, hopen, hafter, hopened⟩
          simp only [hopen]
          refine ⟨?_, ?_⟩
          · rintro connection ⟨⟩
            exact hafter.trans hserver
          · intro opened h
            exact (hopened opened (Option.some.inj h)).server.trans hserver

end Access

namespace ClusterSession

/-- What a step answers goes by an identity, as far as it shows any. -/
def Answer.Carries (id : ClusterId) : Answer → Prop
  | .server found _ => found.id.cluster = id
  | .opened _ learned => learned.connection.id.server.cluster = id
  | _ => True

/-- The invariant of sessions: the cluster is the one that was founded, every connection
    goes by its identity, what connections are opened with is as it was, and what has been
    looked up since the beginning is the name of the cluster. -/
structure Keeps (founded : Cluster) (context : Context) (queries : List String)
    (s : ClusterSession) : Prop where
  context_eq : s.context = context
  cluster : ∀ cluster, s.cluster = some cluster → cluster.Stems founded
  connections : ∀ opened ∈ s.connections,
    opened.connection.description.id.server.cluster = founded.id
  queries : ∃ asked, s.resolver.queries = queries ++ asked ∧
    ∀ name ∈ asked, founded.recordName? = some name

/-- A step has kept the invariant, and answers with nothing that goes by another identity. -/
def Kept (founded : Cluster) (context : Context) (queries : List String)
    (done : Answer × List SentCommand × ClusterSession) : Prop :=
  done.2.2.Keeps founded context queries ∧ done.1.Carries founded.id

variable {founded : Cluster} {context : Context} {queries : List String} {s : ClusterSession}

/-- Polls take servers in and out, and look up the name of the cluster. -/
theorem Keeps.poll (h : s.Keeps founded context queries) :
    s.poll.Keeps founded context queries := by
  cases hcluster : s.cluster with
  | none =>
      simp only [ClusterSession.poll, hcluster]
      exact h
  | some cluster =>
      have hstems := h.cluster cluster hcluster
      rcases cluster with ⟨id, settings, topology⟩
      cases topology with
      | single server =>
          simp only [ClusterSession.poll, hcluster]
          exact h
      | seeds set =>
          simp only [ClusterSession.poll, hcluster]
          exact h
      | discovered set watch =>
          simp only [ClusterSession.poll, hcluster]
          obtain ⟨asked, hasked, hnames⟩ := h.queries
          refine ⟨h.context_eq, ?_, h.connections, ?_⟩
          · rintro _ ⟨⟩
            refine ⟨hstems.id_eq, hstems.settings_eq, ?_, ServerSet.Carries.take hstems.carries _⟩
            rw [← hstems.recordName_eq]
            show some (Watch.plan _).recordName = some watch.plan.recordName
            rw [Watch.advance, Watch.pollTimes_plan]
          · -- What is looked up now is added to what was looked up before.
            have hpolled :=
              Watch.queries_pollTimes s.shuffles (watch.duePolls s.now) watch s.resolver
            rw [hasked, List.append_assoc] at hpolled
            refine ⟨_, hpolled, ?_⟩
            · intro name hname
              rcases List.mem_append.mp hname with hold | hnew
              · exact hnames name hold
              · rw [List.eq_of_mem_replicate hnew]
                exact hstems.recordName_eq.symm

/-- Opening a connection to a server of the cluster adds one of its identity at most. -/
theorem Keeps.openTo (h : s.Keeps founded context queries) {server : Server}
    (hserver : server.id.cluster = founded.id) (purpose : Purpose) (mode : Mode) :
    Kept founded context queries (s.openTo server purpose mode) := by
  have hconcerns := s.access.openConnection_concerns s.context purpose mode server.id
  rw [ClusterSession.openTo]
  generalize s.access.openConnection s.context purpose mode server.id = came at hconcerns ⊢
  rcases came with ⟨attempt, access⟩
  simp only
  split
  · rename_i connection opened hconnection hresult
    refine ⟨⟨h.context_eq, h.cluster, ?_, h.queries⟩, ?_⟩
    · intro other hother
      rcases List.mem_append.mp hother with hold | hnew
      · exact h.connections other hold
      · rw [List.mem_singleton.mp hnew, hconcerns.connection connection hconnection]
        exact hserver
    · show opened.connection.id.server.cluster = founded.id
      rw [hconcerns.opened opened hresult]
      exact hserver
  · exact ⟨⟨h.context_eq, h.cluster, h.connections, h.queries⟩, trivial⟩
  · exact ⟨⟨h.context_eq, h.cluster, h.connections, h.queries⟩, trivial⟩

/-- A command over a connection leaves its identity as it is. -/
theorem Keeps.exchangeOver (h : s.Keeps founded context queries) (place : Nat)
    (command : Document) (mode : Mode) :
    Kept founded context queries (s.exchangeOver place command mode) := by
  rw [ClusterSession.exchangeOver]
  cases hopened : s.connections[place]? with
  | none => exact ⟨h, trivial⟩
  | some opened =>
      have hexchange : mode.exchange ⟨opened.connection, s.access.journal⟩ command =
          Blocking.exchange ⟨opened.connection, s.access.journal⟩ command := by
        cases mode <;> rfl
      refine ⟨⟨h.context_eq, h.cluster, ?_, h.queries⟩, trivial⟩
      intro other hother
      rcases List.mem_or_eq_of_mem_set hother with hold | rfl
      · exact h.connections other hold
      · rw [hexchange, Line.connection_exchange]
        exact h.connections opened (List.mem_of_getElem? hopened)

/-- What is done on the watch of a cluster starts or closes it. -/
theorem Keeps.onWatch (h : s.Keeps founded context queries) {cluster : Cluster}
    {set : ServerSet} {watch : Watch} (hstems : cluster.Stems founded)
    (htopology : cluster.topology = .discovered set watch) (step : Step) :
    Kept founded context queries
      ((s.onWatch cluster set watch step).1, [], (s.onWatch cluster set watch step).2) := by
  have hset : set.Carries founded.id := by
    have hcarries := hstems.carries
    rw [htopology] at hcarries
    exact hcarries
  -- Neither changes the plan of the watch.
  have hother : ∀ watch' : Watch, watch'.plan = watch.plan →
      Keeps founded context queries
        { s with cluster := some { cluster with topology := .discovered set watch' } } := by
    intro watch' hplan
    refine ⟨h.context_eq, ?_, h.connections, h.queries⟩
    rintro _ ⟨⟩
    refine ⟨hstems.id_eq, hstems.settings_eq, ?_, hset⟩
    rw [← hstems.recordName_eq, Cluster.recordName?, Cluster.recordName?, htopology]
    simp only [hplan]
  cases step with
  | closeWatch => exact ⟨hother watch.close rfl, trivial⟩
  | startWatch =>
      simp only [ClusterSession.onWatch]
      cases hstart : watch.start s.runtime s.now with
      | error e => exact ⟨h, trivial⟩
      | ok started => exact ⟨hother started (Watch.plan_start hstart), trivial⟩
  | _ => exact ⟨h, trivial⟩

theorem Keeps.onCluster (h : s.Keeps founded context queries) {cluster : Cluster}
    (hstems : cluster.Stems founded) (step : Step) :
    Kept founded context queries (s.onCluster cluster step) := by
  cases step with
  | servers => exact ⟨h, trivial⟩
  | server address =>
      refine ⟨h, ?_⟩
      show Answer.Carries founded.id (((cluster.server? address).map _).getD .nothing)
      cases hfound : cluster.server? address with
      | none => trivial
      | some server => exact hstems.server (Cluster.mem_servers_of_server? hfound)
  | openConnection place purpose mode =>
      rw [ClusterSession.onCluster]
      cases hserver : cluster.servers[place]? with
      | none => exact ⟨h, trivial⟩
      | some server => exact h.openTo (hstems.server (List.mem_of_getElem? hserver)) purpose mode
  | _ =>
      -- Everything else is done on the watch, which clusters of one shape have.
      unfold ClusterSession.onCluster
      cases htopology : cluster.topology with
      | discovered set watch => exact h.onWatch hstems htopology _
      | _ => exact ⟨h, trivial⟩

/-- Whatever is done, everything goes by the identity of the cluster. -/
theorem Keeps.answer (h : s.Keeps founded context queries) (step : Step) :
    Kept founded context queries (s.answer step) := by
  cases step with
  | advance milliseconds => exact ⟨⟨h.context_eq, h.cluster, h.connections, h.queries⟩, trivial⟩
  | drop =>
      refine ⟨⟨h.context_eq, ?_, h.connections, h.queries⟩, trivial⟩
      rintro cluster ⟨⟩
  | exchange place command mode => exact h.exchangeOver place command mode
  | _ =>
      unfold ClusterSession.answer
      cases hcluster : s.cluster with
      | none => exact ⟨h, trivial⟩
      | some cluster => exact h.onCluster (h.cluster cluster hcluster) _

theorem Keeps.step (h : s.Keeps founded context queries) (step : Step) :
    (s.step step).2.Keeps founded context queries ∧
      (s.step step).1.answer.Carries founded.id :=
  ⟨(h.answer step).1.poll, (h.answer step).2⟩

theorem Keeps.after (h : s.Keeps founded context queries) (steps : List Step) :
    (s.after steps).Keeps founded context queries := by
  induction steps generalizing s with
  | nil => exact h
  | cons step steps ih => exact ih (h.step step).1

end ClusterSession

namespace ClusterOptions

/-- The application may go unnamed, and its name is not too long. -/
def NameFits (options : ClusterOptions) : Prop :=
  ∀ name ∈ options.application, name.utf8ByteSize ≤ ClientMetadata.nameLimit

/-- There is a document to introduce the client by, or none that fits, if the name of the
    application is not too long. -/
theorem document_of_nameFits {options : ClusterOptions} (h : options.NameFits) :
    ∃ client, ClientMetadata.document options.application options.driver = .ok client := by
  have hnone : (options.application.filter fun name =>
      ClientMetadata.nameLimit < name.utf8ByteSize) = none := by
    refine Option.filter_eq_none_iff.mpr fun name hname => ?_
    simp only [decide_eq_true_eq, Nat.not_lt]
    exact h name hname
  rw [ClientMetadata.document, hnone]
  exact ⟨_, rfl⟩

theorem document_of_not_nameFits {options : ClusterOptions} (h : ¬ options.NameFits) :
    ∃ e, ClientMetadata.document options.application options.driver = .error e ∧
      e.kind = .configuration := by
  rw [NameFits] at h
  rw [ClientMetadata.document]
  cases hname : options.application with
  | none =>
      rw [hname] at h
      exact absurd (fun name hnone => absurd hnone (Option.not_mem_none name)) h
  | some name =>
      have hlong : ClientMetadata.nameLimit < name.utf8ByteSize := by
        refine Nat.lt_of_not_le fun hfits => h ?_
        rintro _ hsame
        rw [hname] at hsame
        exact Option.some.inj hsame ▸ hfits
      rw [Option.filter_some, if_pos (decide_eq_true hlong)]
      exact ⟨_, rfl, rfl⟩

end ClusterOptions

namespace Cluster

/-- Every mode but one that no shape has, with something to run the watch if there is one,
    gives a cluster if the name of the application fits. -/
theorem create_of_nameFits {options : ClusterOptions} (hname : options.NameFits)
    (number : Nat) {runtime : Bool} {now : Nat} {topology : Topology}
    (hselect : selectTopology (ClusterId.draw number options.settings.description)
      options.settings options.servers runtime now = .ok topology) :
    ∃ context, create options number runtime now =
      .ok (⟨ClusterId.draw number options.settings.description, options.settings, topology⟩,
        context) := by
  obtain ⟨client, hclient⟩ := options.document_of_nameFits hname
  refine ⟨.ofOptions options client, ?_⟩
  simp only [create, hclient, hselect, bind, Except.bind]
  rfl

/-- A refusal says what is wrong with the configuration. -/
theorem create_refused {options : ClusterOptions} (number : Nat) {runtime : Bool} {now : Nat}
    (h : ¬ options.NameFits ∨ options.settings.mode = .loadBalanced ∨
      options.settings.mode = .multiple ∧ options.settings.srvHost ≠ none ∧ runtime = false) :
    ∃ e, create options number runtime now = .error e ∧ e.kind = .configuration := by
  by_cases hname : options.NameFits
  · obtain ⟨client, hclient⟩ := options.document_of_nameFits hname
    have hselect : ∃ e, selectTopology (ClusterId.draw number options.settings.description)
        options.settings options.servers runtime now = .error e ∧ e.kind = .configuration := by
      unfold selectTopology
      rcases h with hlong | hmode | ⟨hmode, hsrvHost, rfl⟩
      · exact absurd hname hlong
      · rw [hmode]
        exact ⟨_, rfl, rfl⟩
      · rw [hmode]
        cases hhost : options.settings.srvHost with
        | none => exact absurd hhost hsrvHost
        | some srvHost => exact ⟨_, rfl, rfl⟩
    obtain ⟨e, hselect, hkind⟩ := hselect
    refine ⟨e, ?_, hkind⟩
    simp only [create, hclient, hselect, bind, Except.bind]
  · obtain ⟨e, hdocument, hkind⟩ := options.document_of_not_nameFits hname
    refine ⟨e, ?_, hkind⟩
    simp only [create, hdocument, bind, Except.bind]

/-- What creating a cluster comes to and what it has made, by the settings. -/
structure Founded (options : ClusterOptions) (id : ClusterId) (runtime : Bool) (now : Nat)
    (result : Except Error (Cluster × Context)) (works : Works) : Prop where
  /-- In single mode there is one server, at the one host that is configured. -/
  single : options.NameFits → options.settings.mode = .single →
    ∃ host context, options.settings.hosts = [host] ∧
      result = .ok (⟨id, options.settings, .single ⟨1, ⟨id, host⟩⟩⟩, context) ∧
      works = { servers := [⟨1, ⟨id, host⟩⟩] }
  /-- In multiple mode there is one for each host, if no other host is to tell of them. -/
  seeds : options.NameFits → options.settings.mode = .multiple →
    options.settings.srvHost = none →
    ∃ set context, set.servers.map Server.address = options.settings.hosts.eraseDups ∧
      result = .ok (⟨id, options.settings, .seeds set⟩, context) ∧
      works = { servers := set.servers }
  /-- Otherwise there are none at first, and one task that looks up one name, beginning
      now. -/
  discovered : ∀ srvHost, options.NameFits → options.settings.mode = .multiple →
    options.settings.srvHost = some srvHost → runtime = true →
    ∃ set watch context, set.servers = [] ∧
      result = .ok (⟨id, options.settings, .discovered set watch⟩, context) ∧
      works = { watches := [watch] } ∧ watch.task = some { due := now } ∧
      ∀ shuffles polls resolver, (watch.pollTimes shuffles polls resolver).2.2.queries =
        resolver.queries ++
          List.replicate polls s!"_{options.settings.srvServiceName}._tcp.{srvHost}"
  /-- Everything else is refused, and nothing has been made. -/
  refused : ¬ options.NameFits ∨ options.settings.mode = .loadBalanced ∨
      options.settings.mode = .multiple ∧ options.settings.srvHost ≠ none ∧ runtime = false →
    ∃ e, result = .error e ∧ e.kind = .configuration ∧ works = {}
  /-- Whatever is done with the cluster, its servers go by the identity at every moment,
      and so does every connection that is opened to one of them, then or later. -/
  carried : ∀ cluster context, result = .ok (cluster, context) →
    ∀ s : ClusterSession, s.cluster = some cluster → s.context = context → s.connections = [] →
    ∀ steps, (s.poll.after steps).Keeps cluster context s.resolver.queries ∧
      cluster.id = id ∧
      (∀ opened ∈ (s.poll.after steps).connections,
        opened.connection.description.id.server.cluster = id) ∧
      (∀ step, ((s.poll.after steps).step step).1.answer.Carries id) ∧
      ∀ current, (s.poll.after steps).cluster = some current → ∀ server ∈ current.servers,
        server.id.cluster = id ∧
        ∀ access purpose mode,
          (Access.openConnection access context purpose mode server.id).1.Concerns server.id

/-- Settings that were built decide what creating a cluster comes to, and the identity
    that is drawn then goes through everything that comes of it. -/
theorem founded {calls : List Setting} {options : ClusterOptions}
    (hbuild : ClusterSettings.build calls = .ok options.settings) (number : Nat)
    (runtime : Bool) (now : Nat) :
    ∃ result works, Works.found {} options number runtime now = (result, works) ∧
      create options number runtime now = result ∧
      Founded options (ClusterId.draw number options.settings.description) runtime now result
        works := by
  refine ⟨_, _, Works.found_eq options number runtime now, rfl, ?_, ?_, ?_, ?_, ?_⟩
  · intro hname hmode
    obtain ⟨host, hhosts⟩ := ClusterSettings.hosts_of_build_single hbuild hmode
    obtain ⟨context, hcreate⟩ := create_of_nameFits hname number (by
      rw [selectTopology, hmode, hhosts] : selectTopology _ _ _ runtime now = _)
    rw [hcreate]
    exact ⟨host, context, hhosts, rfl, rfl⟩
  · intro hname hmode hsrvHost
    obtain ⟨context, hcreate⟩ := create_of_nameFits hname number (by
      rw [selectTopology, hmode, hsrvHost] : selectTopology _ _ _ runtime now = _)
    rw [hcreate]
    refine ⟨_, context, ?_, rfl, rfl⟩
    rw [← Address.distinct_eq_eraseDups]
    exact ServerSet.addresses_update _ options.settings.hosts
  · rintro srvHost hname hmode hsrvHost rfl
    obtain ⟨context, hcreate⟩ := create_of_nameFits hname number (by
      rw [selectTopology, hmode, hsrvHost]
      rfl : selectTopology _ _ _ true now = _)
    rw [hcreate]
    exact ⟨_, _, context, rfl, rfl, rfl, rfl, fun shuffles polls resolver =>
      Watch.queries_pollTimes shuffles polls _ resolver⟩
  · intro h
    obtain ⟨e, hrefused, hkind⟩ := create_refused number h
    rw [hrefused]
    exact ⟨e, rfl, hkind, rfl⟩
  · intro cluster context hcreate s hcluster hcontext hnone steps
    obtain ⟨client, -, -, hid, -⟩ := create_eq_ok hcreate
    -- The invariant holds of the session in which the cluster has just been created.
    have hborn : s.Keeps cluster context s.resolver.queries := by
      refine ⟨hcontext, ?_, ?_, [], (List.append_nil _).symm, ?_⟩
      · intro current hcurrent
        rw [hcluster] at hcurrent
        exact Option.some.inj hcurrent ▸ stems_create hcreate
      · rw [hnone]
        exact fun opened hopened => absurd hopened List.not_mem_nil
      · exact fun name hname => absurd hname List.not_mem_nil
    have hkept := hborn.poll.after steps
    rw [← hid]
    refine ⟨hkept, rfl, hkept.connections, fun step => (hkept.step step).2, ?_⟩
    intro current hcurrent server hserver
    exact ⟨(hkept.cluster current hcurrent).server hserver, fun access purpose mode =>
      access.openConnection_concerns context purpose mode server.id⟩

/-- Three hosts, one of them twice: two servers are made, and both go by the identity. -/
theorem founded_repeated :
    let options : ClusterOptions := { settings :=
      { mode := .multiple
        hosts := [⟨"a.example.com", 1⟩, ⟨"b.example.com", 1⟩, ⟨"a.example.com", 1⟩] } }
    ClusterSettings.build [.host ⟨"a.example.com", 1⟩, .mode .multiple,
        .host ⟨"b.example.com", 1⟩, .host ⟨"a.example.com", 1⟩] = .ok options.settings ∧
      ∃ result works, Works.found {} options 7 false 0 = (result, works) ∧
        works.servers.map Server.address = [⟨"a.example.com", 1⟩, ⟨"b.example.com", 1⟩] ∧
        works.watches = [] ∧
        ∃ cluster context, result = .ok (cluster, context) ∧
          ∀ s : ClusterSession, s.cluster = some cluster → s.context = context →
            s.connections = [] → ∀ steps current, (s.poll.after steps).cluster = some current →
            ∀ server ∈ current.servers, server.id.cluster = ClusterId.draw 7 none := by
  intro options
  have hbuild : ClusterSettings.build [.host ⟨"a.example.com", 1⟩, .mode .multiple,
      .host ⟨"b.example.com", 1⟩, .host ⟨"a.example.com", 1⟩] = .ok options.settings := rfl
  obtain ⟨result, works, hfound, -, hfounded⟩ := founded hbuild 7 false 0
  have hname : options.NameFits := fun name hnone => absurd hnone (Option.not_mem_none name)
  obtain ⟨set, context, haddresses, hresult, hworks⟩ := hfounded.seeds hname rfl rfl
  refine ⟨hbuild, result, works, hfound, ?_, ?_, _, context, hresult, ?_⟩
  · rw [hworks]
    exact haddresses.trans (by decide)
  · rw [hworks]
  · intro s hcluster hcontext hnone steps current hcurrent server hserver
    exact ((hfounded.carried _ context hresult s hcluster hcontext hnone steps).2.2.2.2 current
      hcurrent server hserver).1

end Cluster

end DocumentLink
