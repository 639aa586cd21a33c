import DocumentLink.Proofs.Founding

/-!
# Settings from Calls

What settings come of calls in any order and number.

For every option but the hosts the last call decides, and calls for different options do not get
into each other's way. Hosts are different in that one call adds to them and another replaces
them, so what counts is the last call that replaces and those that add after it. `Listed` says so
by where that call is; there is one list for any calls. Without a host in it the local one is
meant, and that is settled before anything is inferred from the number of hosts.

Two things are refused: a discovery host with a port, and direct connection to more than one host.
The mode that is inferred if none was set is direct connection for a single host only, so it never
contradicts the hosts, and settings for direct connection always have exactly one.

## Main definitions

* `Setting.topic`: The option a call is for.
* `ClusterSettings.lastOf`: The value of the last call for an option.
* `ClusterSettings.Listed`, `ClusterSettings.Leaves`: The hosts that calls leave.
* `ClusterSettings.modeOf`: The mode that calls come to.
* `ClusterSettings.Contradicts`: What is refused.
* `ClusterSettings.Settled`: What comes of calls.

## Theorems

* `ClusterSettings.foldl_add_eq`: The last call for an option decides.
* `ClusterSettings.Listed.hosts_collect`: Calls leave one list of hosts.
* `ClusterSettings.Draft.add_add_comm`: Calls for different options commute.
* `ClusterSettings.build_of_leaves`: What is built and what is refused.
* `ClusterSettings.calls_settle`: What comes of any calls is consistent.
-/

namespace DocumentLink

namespace Setting

/-- What calls are for. Adding a host and replacing all hosts are for the same. -/
inductive Topic where
  | hosts
  | mode
  | srvHost
  | srvServiceName
  | srvMaxHosts
  | replicaSet
  | description
  deriving DecidableEq, Repr

/-- The option a call is for. -/
def topic : Setting → Topic
  | .host _ | .hosts _ => .hosts
  | .mode _ => .mode
  | .srvHost _ => .srvHost
  | .srvServiceName _ => .srvServiceName
  | .srvMaxHosts _ => .srvMaxHosts
  | .replicaSet _ => .replicaSet
  | .description _ => .description

/-- The host a call adds. -/
def host? : Setting → Option Address
  | .host address => some address
  | _ => none

/-- The mode a call sets, and so on for the other options. -/
def mode? : Setting → Option ConnectionMode
  | .mode chosen => some chosen
  | _ => none

def srvHost? : Setting → Option String
  | .srvHost name => some name
  | _ => none

def srvServiceName? : Setting → Option String
  | .srvServiceName name => some name
  | _ => none

def srvMaxHosts? : Setting → Option Nat
  | .srvMaxHosts count => some count
  | _ => none

def replicaSet? : Setting → Option String
  | .replicaSet name => some name
  | _ => none

def description? : Setting → Option String
  | .description text => some text
  | _ => none

end Setting

namespace ClusterSettings

open Setting

/-! ## The last call decides -/

section LastCall

variable {α : Type}

/-- The value of the last call for an option, if there is one. -/
def lastOf (read : Setting → Option α) (calls : List Setting) : Option α :=
  (calls.filterMap read).getLast?

theorem lastOf_cons (read : Setting → Option α) (call : Setting) (calls : List Setting) :
    lastOf read (call :: calls) = (lastOf read calls).or (read call) := by
  rw [lastOf, lastOf, List.filterMap_cons]
  cases read call with
  | none => rw [Option.or_none]
  | some value =>
      rw [List.getLast?_cons]
      cases (calls.filterMap read).getLast? <;> rfl

/-- Of an option that every call either sets or leaves alone the last call that sets it decides. -/
theorem foldl_add_eq (read : Setting → Option α) (get : Draft → Option α)
    (hadd : ∀ draft call, get (draft.add call) = (read call).or (get draft))
    (calls : List Setting) (draft : Draft) :
    get (calls.foldl Draft.add draft) = (lastOf read calls).or (get draft) := by
  induction calls generalizing draft with
  | nil => rfl
  | cons call calls ih => rw [List.foldl_cons, ih, hadd, lastOf_cons, Option.or_assoc]

/-- The last call decides alone if there is nothing at first. -/
theorem collect_eq (read : Setting → Option α) (get : Draft → Option α)
    (hadd : ∀ draft call, get (draft.add call) = (read call).or (get draft))
    (hnone : get {} = none) (calls : List Setting) : get (collect calls) = lastOf read calls := by
  rw [collect, foldl_add_eq read get hadd, hnone, Option.or_none]

end LastCall

theorem mode_collect (calls : List Setting) : (collect calls).mode = lastOf mode? calls :=
  collect_eq mode? Draft.mode (fun _ call => by cases call <;> rfl) rfl calls

theorem srvHost_collect (calls : List Setting) : (collect calls).srvHost = lastOf srvHost? calls :=
  collect_eq srvHost? Draft.srvHost (fun _ call => by cases call <;> rfl) rfl calls

theorem srvServiceName_collect (calls : List Setting) :
    (collect calls).srvServiceName = lastOf srvServiceName? calls :=
  collect_eq srvServiceName? Draft.srvServiceName (fun _ call => by cases call <;> rfl) rfl calls

theorem replicaSet_collect (calls : List Setting) :
    (collect calls).replicaSet = lastOf replicaSet? calls :=
  collect_eq replicaSet? Draft.replicaSet (fun _ call => by cases call <;> rfl) rfl calls

theorem description_collect (calls : List Setting) :
    (collect calls).description = lastOf description? calls :=
  collect_eq description? Draft.description (fun _ call => by cases call <;> rfl) rfl calls

/-- The limit on listed servers is there from the start. -/
theorem srvMaxHosts_collect (calls : List Setting) :
    (collect calls).srvMaxHosts = (lastOf srvMaxHosts? calls).getD 0 := by
  have hlast : some (collect calls).srvMaxHosts = (lastOf srvMaxHosts? calls).or (some 0) :=
    foldl_add_eq srvMaxHosts? (fun draft => some draft.srvMaxHosts)
      (fun _ call => by cases call <;> rfl) calls {}
  rwa [Option.or_some, Option.some.injEq] at hlast

/-! ## Hosts -/

/-- The hosts that calls list: those of the last call that replaces all hosts, if there is one, and
    then those of the calls that add one after it. -/
inductive Listed : List Setting → List Address → Prop where
  | added {calls : List Setting} : (∀ hosts, .hosts hosts ∉ calls) →
      Listed calls (calls.filterMap host?)
  | replaced {before after : List Setting} {hosts : List Address} :
      (∀ hosts', .hosts hosts' ∉ after) →
      Listed (before ++ .hosts hosts :: after) (hosts ++ after.filterMap host?)

/-- The hosts that calls leave: those they list, or the local one if they list none. -/
def Leaves (calls : List Setting) (hosts : List Address) : Prop :=
  ∃ listed, Listed calls listed ∧ hosts = if listed = [] then [.localhost] else listed

/-- Calls that do not replace all hosts add theirs. -/
theorem hosts_foldl_add {calls : List Setting} (h : ∀ hosts, .hosts hosts ∉ calls)
    (draft : Draft) :
    (calls.foldl Draft.add draft).hosts = draft.hosts ++ calls.filterMap host? := by
  induction calls generalizing draft with
  | nil => exact (List.append_nil _).symm
  | cons call calls ih =>
      have hrest : ∀ hosts, .hosts hosts ∉ calls := fun hosts hmem =>
        h hosts (List.mem_cons_of_mem call hmem)
      rw [List.foldl_cons, ih hrest]
      cases call with
      | host address => exact List.append_assoc _ _ _
      | hosts hosts => exact absurd List.mem_cons_self (h hosts)
      | _ => rfl

/-- Calls list what is collected. -/
theorem Listed.hosts_collect {calls : List Setting} {hosts : List Address}
    (h : Listed calls hosts) : (collect calls).hosts = hosts := by
  cases h with
  | added hnone => exact hosts_foldl_add hnone {}
  | replaced hnone =>
      rw [collect, List.foldl_append, List.foldl_cons, hosts_foldl_add hnone]
      rfl

/-- There is a last call that replaces all hosts, or there is none. -/
theorem exists_listed (calls : List Setting) : ∃ hosts, Listed calls hosts := by
  induction calls with
  | nil => exact ⟨_, .added fun _ => List.not_mem_nil⟩
  | cons call calls ih =>
      rcases ih with ⟨hosts, hlisted⟩
      -- If a later call replaces all hosts, this one does not count; if none does, it may itself.
      cases hlisted with
      | @replaced before _ _ hnone =>
          rw [← List.cons_append]
          exact ⟨_, .replaced hnone⟩
      | added hnone =>
          cases call with
          | hosts hosts =>
              rw [← List.nil_append (Setting.hosts hosts :: calls)]
              exact ⟨_, .replaced hnone⟩
          | _ =>
              refine ⟨_, .added fun hosts hmem => ?_⟩
              cases hmem with
              | tail _ hmem => exact hnone hosts hmem

theorem listed_iff {calls : List Setting} {hosts : List Address} :
    Listed calls hosts ↔ (collect calls).hosts = hosts := by
  refine ⟨Listed.hosts_collect, ?_⟩
  rintro rfl
  rcases exists_listed calls with ⟨hosts, hlisted⟩
  rwa [hlisted.hosts_collect]

/-- Calls leave the hosts that are checked. -/
theorem leaves_iff {calls : List Setting} {hosts : List Address} :
    Leaves calls hosts ↔ (collect calls).effectiveHosts = hosts := by
  simp only [Leaves, listed_iff, exists_eq_left', Draft.effectiveHosts, List.isEmpty_iff]
  exact eq_comm

/-! ## Calls for different options -/

/-- Calls for different options commute. -/
theorem Draft.add_add_comm (draft : Draft) {call call' : Setting} (h : call.topic ≠ call'.topic) :
    (draft.add call).add call' = (draft.add call').add call := by
  cases call <;> cases call' <;> first | rfl | exact absurd rfl h

/-- So they may change places anywhere. -/
theorem build_swap (before after : List Setting) {call call' : Setting}
    (h : call.topic ≠ call'.topic) :
    build (before ++ call :: call' :: after) = build (before ++ call' :: call :: after) := by
  simp only [build, collect, List.foldl_append, List.foldl_cons, Draft.add_add_comm _ h]

/-! ## What is built and what is refused -/

/-- The mode that comes of calls: the last one set, or else direct connection to a single host
    without discovery, and a cluster of several otherwise. -/
def modeOf (calls : List Setting) (hosts : List Address) : ConnectionMode :=
  (lastOf mode? calls).getD
    (if hosts.length = 1 ∧ lastOf srvHost? calls = none then .single else .multiple)

/-- Calls name a discovery host with a port, or come to direct connection and leave more hosts than
    one. -/
def Contradicts (calls : List Setting) (hosts : List Address) : Prop :=
  (∃ srvHost, lastOf srvHost? calls = some srvHost ∧ ':' ∈ srvHost.toList) ∨
    modeOf calls hosts = .single ∧ 1 < hosts.length

/-- The settings that come of calls: each option as the last call for it has set it. -/
def settle (calls : List Setting) (hosts : List Address) : ClusterSettings where
  hosts := hosts
  mode := modeOf calls hosts
  srvHost := lastOf srvHost? calls
  srvServiceName := (lastOf srvServiceName? calls).getD "mongodb"
  srvMaxHosts := (lastOf srvMaxHosts? calls).getD 0
  replicaSet := lastOf replicaSet? calls
  description := lastOf description? calls

theorem srvHostWithPort_eq_some_iff {draft : Draft} {srvHost : String} :
    draft.srvHostWithPort = some srvHost ↔
      draft.srvHost = some srvHost ∧ ':' ∈ srvHost.toList := by
  rw [Draft.srvHostWithPort, Option.filter_eq_some_iff]
  simp

/-- The mode that is checked. -/
theorem effectiveMode_collect {calls : List Setting} {hosts : List Address}
    (h : Leaves calls hosts) : (collect calls).effectiveMode = modeOf calls hosts := by
  rw [Draft.effectiveMode, leaves_iff.mp h, mode_collect, srvHost_collect, modeOf]
  simp

/-- What is checked about the number of hosts. -/
theorem tooMany_iff {calls : List Setting} {hosts : List Address} (h : Leaves calls hosts) :
    ((collect calls).effectiveMode = .single && 1 < (collect calls).effectiveHosts.length) = true ↔
      modeOf calls hosts = .single ∧ 1 < hosts.length := by
  rw [Bool.and_eq_true, decide_eq_true_eq, decide_eq_true_eq, effectiveMode_collect h,
    leaves_iff.mp h]

/-- A mode that is inferred is not direct connection if there are several hosts. -/
theorem modeOf_ne_single {calls : List Setting} {hosts : List Address}
    (hmode : lastOf mode? calls = none) (hmany : 1 < hosts.length) :
    modeOf calls hosts ≠ .single := by
  have hseveral : ¬(hosts.length = 1 ∧ lastOf srvHost? calls = none) := fun h => by omega
  rw [modeOf, hmode, Option.getD_none, if_neg hseveral]
  rintro ⟨⟩

/-- What is built and what is refused, by the hosts that calls leave. -/
theorem build_of_leaves {calls : List Setting} {hosts : List Address} (h : Leaves calls hosts) :
    (Contradicts calls hosts → ∃ e, build calls = .error e) ∧
      (¬Contradicts calls hosts → build calls = .ok (settle calls hosts)) := by
  rw [build, Draft.check]
  cases hport : (collect calls).srvHostWithPort with
  | some srvHost =>
      rw [srvHostWithPort_eq_some_iff, srvHost_collect] at hport
      exact ⟨fun _ => ⟨_, rfl⟩, fun hnone => absurd (.inl ⟨srvHost, hport⟩) hnone⟩
  | none =>
      have hplain : ¬∃ srvHost, lastOf srvHost? calls = some srvHost ∧ ':' ∈ srvHost.toList := by
        rintro ⟨srvHost, hsrvHost⟩
        rw [← srvHost_collect, ← srvHostWithPort_eq_some_iff, hport] at hsrvHost
        cases hsrvHost
      rw [Contradicts, or_iff_right hplain]
      dsimp only
      refine ⟨fun hmany => ?_, fun hfew => ?_⟩
      · rw [if_pos ((tooMany_iff h).mpr hmany)]
        exact ⟨_, rfl⟩
      · rw [if_neg (mt (tooMany_iff h).mp hfew), effectiveMode_collect h, leaves_iff.mp h,
          srvHost_collect, srvServiceName_collect, srvMaxHosts_collect, replicaSet_collect,
          description_collect]
        rfl

/-- What comes of any calls. -/
structure Settled : Prop where
  /-- Calls leave one list of hosts, and it is not empty. -/
  leaves : ∀ calls, ∃ hosts, hosts ≠ [] ∧ ∀ hosts', Leaves calls hosts' ↔ hosts' = hosts
  /-- They are refused if they contradict themselves. -/
  refused_iff : ∀ calls hosts, Leaves calls hosts →
    ((∃ e, build calls = .error e) ↔ Contradicts calls hosts)
  /-- Otherwise each option is as the last call for it has set it. -/
  built : ∀ calls hosts, Leaves calls hosts → ¬Contradicts calls hosts →
    build calls = .ok (settle calls hosts)
  /-- Settings for direct connection have one host. -/
  single : ∀ calls settings, build calls = .ok settings → settings.mode = .single →
    ∃ host, settings.hosts = [host]
  /-- The default settings are what comes of no calls. -/
  default : build [] = .ok {}
  /-- A mode that is inferred is no reason to refuse. -/
  inferred : ∀ calls, lastOf mode? calls = none → ∀ e, build calls = .error e →
    ∃ srvHost, lastOf srvHost? calls = some srvHost ∧ ':' ∈ srvHost.toList
  /-- Calls for different options commute. -/
  commute : ∀ before after call call', call.topic ≠ call'.topic →
    build (before ++ call :: call' :: after) = build (before ++ call' :: call :: after)

/-- What comes of any calls is consistent, and depends on the last call for each option. -/
theorem calls_settle : Settled where
  leaves calls := by
    refine ⟨(collect calls).effectiveHosts, effectiveHosts_ne_nil _, fun hosts' => ?_⟩
    rw [leaves_iff, eq_comm]
  refused_iff calls hosts h := by
    refine ⟨?_, (build_of_leaves h).1⟩
    rintro ⟨e, herror⟩
    refine Classical.not_not.mp fun hnone => ?_
    rw [(build_of_leaves h).2 hnone] at herror
    cases herror
  built calls hosts h := (build_of_leaves h).2
  single calls settings := hosts_of_build_single
  default := rfl
  inferred calls hmode e herror := by
    have hleaves : Leaves calls (collect calls).effectiveHosts := leaves_iff.mpr rfl
    refine Classical.not_not.mp fun hplain => ?_
    have hconsistent : ¬Contradicts calls (collect calls).effectiveHosts := by
      rintro (hport | ⟨hsingle, hmany⟩)
      · exact hplain hport
      · exact modeOf_ne_single hmode hmany hsingle
    rw [(build_of_leaves hleaves).2 hconsistent] at herror
    cases herror
  commute before after call call' := build_swap before after

end ClusterSettings

end DocumentLink
