import DocumentLink.Proofs.Founding
import Mathlib.Data.List.Induction
import Mathlib.Data.List.Nodup

/-!
# Reconciling Server Sets

What becomes of the servers of a set from one list of hosts to the next.

The servers of a set are told apart by their numbers. A number is given out when a server is
made and never again, so a server found twice under one number is one server, with whatever
hangs on it. `Works.updateSet` keeps account of every server that is made, and erasing the
account gives back the update. By the account an update makes one server for each address that
is new, in the order of the list, and none for an address that is not.

A server is therefore gone for good once a list leaves out its address. If the address comes
back, it gets a server with a number of its own. Which server of an old state is still there in
a later one can be read off the lists in between, and nothing else has to be known.

## Main definitions

* `ServerSet.through`: A set after a series of updates.
* `Cluster.Works.updateSet`, `Cluster.Works.maintain`: Updates, with account of what is made.
* `ServerSet.Sound`: A set, and all the servers that have been made for it so far.
* `ServerSet.Reconciles`: What an update keeps and what it has made.
* `ServerSet.Maintained`: What can be said of a set after any updates.

## Theorems

* `Cluster.Works.updateSet_eq`: What an update makes and what it comes to.
* `ServerSet.Sound.update`, `ServerSet.Sound.through`: Updates keep a set sound.
* `ServerSet.Sound.mem_through_iff`: The servers of a state that are there in a later one.
* `ServerSet.maintained`: A set after any updates, and after one more.
-/

namespace DocumentLink

namespace ServerSet

/-- The set after updates, one after the other. -/
def through (set : ServerSet) (updates : List (List Address)) : ServerSet :=
  updates.foldl update set

@[simp] theorem through_nil (set : ServerSet) : set.through [] = set := rfl

@[simp] theorem through_cons (set : ServerSet) (hosts : List Address)
    (updates : List (List Address)) :
    set.through (hosts :: updates) = (set.update hosts).through updates := rfl

theorem through_concat (set : ServerSet) (updates : List (List Address)) (hosts : List Address) :
    set.through (updates ++ [hosts]) = (set.through updates).update hosts := by
  rw [through, List.foldl_append]
  rfl

@[simp] theorem map_address_numbered (id : ClusterId) (made : Nat) (addresses : List Address) :
    (numbered id made addresses).map Server.address = addresses := by
  induction addresses generalizing made with
  | nil => rfl
  | cons address rest ih => rw [numbered, List.map_cons, ih]; rfl

/-- Servers are numbered in the order in which they are made. -/
theorem map_number_numbered (id : ClusterId) (made : Nat) (addresses : List Address) :
    (numbered id made addresses).map Server.number = List.range' (made + 1) addresses.length := by
  induction addresses generalizing made with
  | nil => rfl
  | cons address rest ih => rw [numbered, List.map_cons, ih, List.length_cons, List.range'_succ]

/-- The servers that are made have later numbers than those made before. -/
theorem lt_number_of_mem_numbered {id : ClusterId} {made : Nat} {addresses : List Address}
    {server : Server} (h : server ∈ numbered id made addresses) : made < server.number := by
  have hnumber := List.mem_map_of_mem (f := Server.number) h
  rw [map_number_numbered, List.mem_range'_1] at hnumber
  omega

/-- The servers that an update makes: one for each new address, in the order of the
    hosts. -/
def arrivals (set : ServerSet) (hosts : List Address) : List Server :=
  numbered set.cluster set.created (hosts.eraseDups.filter fun address => address ∉ set.addresses)

/-- There is a server at an address if and only if the address is one of the set's. -/
theorem server?_eq_none_iff {set : ServerSet} {address : Address} :
    set.server? address = none ↔ address ∉ set.addresses := by
  rw [server?, find?, List.find?_eq_none, addresses, List.mem_map]
  simp only [decide_eq_true_eq, not_exists, not_and]

end ServerSet

namespace Cluster

namespace Works

/-- Have the server of a set kept, or one made. -/
def placeServer (works : Works) (set : ServerSet) (address : Address) : Server × Works :=
  match set.server? address with
  | some server => (server, works)
  | none => works.makeServer set.cluster address

/-- Have servers kept or made, one after the other. -/
def placeServers (works : Works) (set : ServerSet) : List Address → List Server × Works
  | [] => ([], works)
  | address :: rest =>
    let (server, works) := works.placeServer set address
    let (servers, works) := works.placeServers set rest
    (server :: servers, works)

/-- Have the hosts of a set replaced. -/
def updateSet (works : Works) (set : ServerSet) (hosts : List Address) : ServerSet × Works :=
  let (servers, works) := works.placeServers set (Address.distinct hosts)
  ({ set with servers := servers, created := works.servers.length }, works)

/-- Have a set made and its hosts replaced any number of times. -/
def maintain (id : ClusterId) (hosts : List Address) (updates : List (List Address)) :
    ServerSet × Works :=
  updates.foldl (fun (set, works) hosts => updateSet works set hosts) (makeSet {} id hosts)

/-- The servers that are made are those for which the set has none. -/
theorem snd_placeServers (works : Works) (set : ServerSet) (hosts : List Address) :
    (works.placeServers set hosts).2 =
      { works with
        servers := works.servers ++ ServerSet.numbered set.cluster works.servers.length
          (hosts.filter fun address => address ∉ set.addresses) } := by
  induction hosts generalizing works with
  | nil => simp [placeServers, ServerSet.numbered]
  | cons host hosts ih =>
      simp only [placeServers, placeServer]
      cases hserver : set.server? host with
      | some server =>
          have hold : ¬(host ∉ set.addresses) := fun hnone => by
            rw [← ServerSet.server?_eq_none_iff, hserver] at hnone
            cases hnone
          simp only [ih, List.filter_cons, hold, decide_false, Bool.false_eq_true, if_false]
      | none =>
          have hnew : host ∉ set.addresses := ServerSet.server?_eq_none_iff.mp hserver
          simp only [ih, makeServer, List.filter_cons, hnew, not_false_eq_true, decide_true,
            if_true, ServerSet.numbered, List.length_append, List.length_singleton,
            List.append_assoc, List.singleton_append]

/-- A server that is placed is one of the set's or has been made. -/
theorem mem_placeServers {works : Works} {set : ServerSet} {hosts : List Address}
    {server : Server} :
    server ∈ (works.placeServers set hosts).1 ↔
      (∃ host ∈ hosts, set.server? host = some server) ∨
        server ∈ ServerSet.numbered set.cluster works.servers.length
          (hosts.filter fun address => address ∉ set.addresses) := by
  induction hosts generalizing works with
  | nil => simp [placeServers, ServerSet.numbered]
  | cons host hosts ih =>
      simp only [placeServers, placeServer, List.exists_mem_cons_iff]
      cases hserver : set.server? host with
      | some kept =>
          have hold : ¬(host ∉ set.addresses) := fun hnone => by
            rw [← ServerSet.server?_eq_none_iff, hserver] at hnone
            cases hnone
          simp only [List.mem_cons, ih, List.filter_cons, hold, decide_false, Bool.false_eq_true,
            if_false, Option.some.injEq, eq_comm (a := kept), or_assoc]
      | none =>
          have hnew : host ∉ set.addresses := ServerSet.server?_eq_none_iff.mp hserver
          simp only [List.mem_cons, ih, makeServer, List.filter_cons, hnew, not_false_eq_true,
            decide_true, if_true, ServerSet.numbered, List.length_append, List.length_singleton,
            reduceCtorEq, false_or, or_left_comm]

/-- Placing servers comes to the same with and without the account. -/
theorem foldl_place_eq (works : Works) (set : ServerSet) (hosts : List Address)
    (placed : List Server) :
    hosts.foldl set.place (placed, works.servers.length) =
      (placed ++ (works.placeServers set hosts).1,
        (works.placeServers set hosts).2.servers.length) := by
  induction hosts generalizing works placed with
  | nil => simp [placeServers]
  | cons host hosts ih =>
      simp only [placeServers, placeServer, List.foldl_cons, ServerSet.place]
      cases hserver : set.server? host with
      | some server => simp only [ih, List.append_assoc, List.singleton_append]
      | none =>
          have hmade := ih (works.makeServer set.cluster host).2
            (placed ++ [(works.makeServer set.cluster host).1])
          simp only [makeServer, List.length_append, List.length_singleton, List.append_assoc,
            List.singleton_append] at hmade ⊢
          exact hmade

/-- An update comes to the same with and without the account, and this is what it makes. -/
theorem updateSet_eq {works : Works} {set : ServerSet} (h : works.servers.length = set.created)
    (hosts : List Address) :
    works.updateSet set hosts =
      (set.update hosts, { works with servers := works.servers ++ set.arrivals hosts }) := by
  have hplaced := foldl_place_eq works set (Address.distinct hosts) []
  rw [h, List.nil_append] at hplaced
  rw [updateSet, ServerSet.update, hplaced, ServerSet.arrivals, ← h,
    ← Address.distinct_eq_eraseDups, ← snd_placeServers]

theorem maintain_concat (id : ClusterId) (hosts : List Address) (updates : List (List Address))
    (next : List Address) :
    maintain id hosts (updates ++ [next]) =
      updateSet (maintain id hosts updates).2 (maintain id hosts updates).1 next := by
  rw [maintain, List.foldl_append]
  rfl

end Works

end Cluster

namespace ServerSet

/-- A set, and all the servers that have been made for it so far, in order. -/
structure Sound (set : ServerSet) (made : List Server) : Prop where
  nodup : set.addresses.Nodup
  length_eq : made.length = set.created
  numbers : made.map Server.number = List.range' 1 made.length
  mem_made : ∀ server ∈ set.servers, server ∈ made

variable {set : ServerSet} {made : List Server}

theorem Sound.number_le (h : set.Sound made) {server : Server} (hserver : server ∈ made) :
    server.number ≤ set.created := by
  have hnumber := List.mem_map_of_mem (f := Server.number) hserver
  rw [h.numbers, List.mem_range'_1] at hnumber
  rw [← h.length_eq]
  omega

/-- The server at an address is the only one that is there. -/
theorem server?_eq_some_iff (h : set.addresses.Nodup) {address : Address} {server : Server} :
    set.server? address = some server ↔ server ∈ set.servers ∧ server.address = address := by
  constructor
  · intro hfound
    exact ⟨List.mem_of_find?_eq_some hfound, address_of_server? hfound⟩
  · rintro ⟨hserver, rfl⟩
    cases hfound : set.server? server.address with
    | none =>
        rw [server?_eq_none_iff] at hfound
        exact absurd (List.mem_map_of_mem hserver) hfound
    | some other =>
        rw [List.inj_on_of_nodup_map h (List.mem_of_find?_eq_some hfound) hserver
          (address_of_server? hfound)]

/-- After an update those servers are there whose addresses are named, and those made for it. -/
theorem Sound.mem_update_iff (h : set.Sound made) {hosts : List Address} {server : Server} :
    server ∈ (set.update hosts).servers ↔
      (server ∈ set.servers ∧ server.address ∈ hosts) ∨ server ∈ set.arrivals hosts := by
  have hworks : ({ servers := made } : Cluster.Works).servers.length = set.created := h.length_eq
  have hupdate : (set.update hosts).servers =
      (Cluster.Works.placeServers { servers := made } set (Address.distinct hosts)).1 :=
    congrArg (fun outcome => outcome.1.servers)
      (Cluster.Works.updateSet_eq hworks hosts).symm
  have hkept : (∃ host ∈ Address.distinct hosts, set.server? host = some server) ↔
      server ∈ set.servers ∧ server.address ∈ hosts := by
    simp only [server?_eq_some_iff h.nodup, Address.mem_distinct]
    constructor
    · rintro ⟨host, hhost, hserver, rfl⟩
      exact ⟨hserver, hhost⟩
    · rintro ⟨hserver, hhost⟩
      exact ⟨server.address, hhost, hserver, rfl⟩
  rw [hupdate, Cluster.Works.mem_placeServers, hkept, arrivals, ← Address.distinct_eq_eraseDups,
    hworks]

/-- An update adds to what has been made and keeps the set sound. -/
theorem Sound.update (h : set.Sound made) (hosts : List Address) :
    (set.update hosts).Sound (made ++ set.arrivals hosts) where
  nodup := by
    rw [addresses_update]
    exact Address.nodup_distinct hosts
  length_eq := by
    have hworks : ({ servers := made } : Cluster.Works).servers.length = set.created :=
      h.length_eq
    have hmade := Cluster.Works.updateSet_eq hworks hosts
    -- The set counts what there is on account.
    calc (made ++ set.arrivals hosts).length
        = (Cluster.Works.updateSet { servers := made } set hosts).2.servers.length := by rw [hmade]
      _ = (Cluster.Works.updateSet { servers := made } set hosts).1.created := rfl
      _ = (set.update hosts).created := by rw [hmade]
  numbers := by
    rw [List.map_append, h.numbers, arrivals, map_number_numbered, List.length_append,
      length_numbered, ← h.length_eq, Nat.add_comm made.length 1, List.range'_append_1]
  mem_made server hserver := by
    rcases h.mem_update_iff.mp hserver with ⟨hkept, _⟩ | hnew
    · exact List.mem_append_left _ (h.mem_made server hkept)
    · exact List.mem_append_right _ hnew

/-- The set with which a cluster begins has made its servers. -/
theorem sound_ofHosts (id : ClusterId) (hosts : List Address) :
    (ofHosts id hosts).Sound (ofHosts id hosts).servers where
  nodup := by
    rw [ofHosts, addresses_update]
    exact Address.nodup_distinct hosts
  length_eq := by rw [ofHosts_eq, length_numbered]
  numbers := by rw [ofHosts_eq, map_number_numbered, length_numbered]
  mem_made _ hserver := hserver

/-- Through any updates a set stays sound, and what was made before stays made. -/
theorem Sound.through (h : set.Sound made) (updates : List (List Address)) :
    ∃ later, (set.through updates).Sound (made ++ later) := by
  induction updates generalizing set made with
  | nil => exact ⟨[], by rwa [List.append_nil]⟩
  | cons hosts updates ih =>
      rcases ih (h.update hosts) with ⟨later, hlater⟩
      refine ⟨set.arrivals hosts ++ later, ?_⟩
      rwa [List.append_assoc] at hlater

/-- A server that has been made is there in a later state if and only if it was there, and
    every list since then has named its address. What has gone does not come back. -/
theorem Sound.mem_through_iff (h : set.Sound made) {server : Server} (hmade : server ∈ made)
    (updates : List (List Address)) :
    server ∈ (set.through updates).servers ↔
      server ∈ set.servers ∧ ∀ hosts ∈ updates, server.address ∈ hosts := by
  induction updates generalizing set made with
  | nil => simp
  | cons hosts updates ih =>
      have hold : server ∉ set.arrivals hosts := fun hnew =>
        Nat.not_lt_of_le (h.number_le hmade) (lt_number_of_mem_numbered hnew)
      rw [through_cons, ih (h.update hosts) (List.mem_append_left _ hmade), h.mem_update_iff,
        or_iff_left hold, List.forall_mem_cons, and_assoc]

/-- The addresses of a set are those of the last list, each at its first place. -/
theorem addresses_through (id : ClusterId) (hosts : List Address)
    (updates : List (List Address)) :
    ((ofHosts id hosts).through updates).addresses = (updates.getLastD hosts).eraseDups := by
  rcases List.eq_nil_or_concat' updates with rfl | ⟨before, last, rfl⟩
  · rw [through_nil, ofHosts, addresses_update, Address.distinct_eq_eraseDups]
    rfl
  · rw [through_concat, addresses_update, Address.distinct_eq_eraseDups, List.getLastD_concat]

/-- A server at an address stays there if and only if every list since then names the address. -/
theorem Sound.server?_through_iff (h : set.Sound made) {address : Address} {server : Server}
    (hserver : set.server? address = some server) (updates : List (List Address)) :
    (set.through updates).server? address = some server ↔
      ∀ hosts ∈ updates, address ∈ hosts := by
  rcases (server?_eq_some_iff h.nodup).mp hserver with ⟨hmem, rfl⟩
  rcases h.through updates with ⟨later, hthrough⟩
  rw [server?_eq_some_iff hthrough.nodup, h.mem_through_iff (h.mem_made server hmem),
    and_iff_left rfl, and_iff_right hmem]

/-- An address that was left out and is back has a server that was made since. -/
theorem Sound.created_lt_number (h : set.Sound made) {address : Address} {server found : Server}
    (hserver : set.server? address = some server) {updates : List (List Address)}
    (hfound : (set.through updates).server? address = some found)
    (hleft : ∃ hosts ∈ updates, address ∉ hosts) : set.created < found.number := by
  rcases h.through updates with ⟨later, hthrough⟩
  rcases (server?_eq_some_iff hthrough.nodup).mp hfound with ⟨hmem, rfl⟩
  rcases List.mem_append.mp (hthrough.mem_made found hmem) with hold | hnew
  · -- Had it been made before, every list since would name the address.
    rcases hleft with ⟨hosts, hhosts, hnot⟩
    exact absurd (((h.mem_through_iff hold updates).mp hmem).2 hosts hhosts) hnot
  · rw [← h.length_eq]
    have hnumbers := hthrough.numbers
    rw [List.map_append, h.numbers, List.length_append, ← List.range'_append_1] at hnumbers
    have hlater := List.append_cancel_left hnumbers
    have hnumber := List.mem_map_of_mem (f := Server.number) hnew
    rw [hlater, List.mem_range'_1] at hnumber
    omega

/-- What an update with a list of hosts keeps of a set, and what it has made. -/
structure Reconciles (before after : ServerSet) (new : List Server) (hosts : List Address) :
    Prop where
  addresses : after.addresses = hosts.eraseDups
  /-- A server is kept, as the one it is, if and only if its address is named. -/
  kept : ∀ server ∈ before.servers, server ∈ after.servers ↔ server.address ∈ hosts
  /-- Whatever is there besides has been made, and nothing has been made in vain. -/
  made : ∀ server, server ∈ new ↔ server ∈ after.servers ∧ server ∉ before.servers
  /-- One server is made for each address that is new, in order, and none for any other. -/
  asked : new.map Server.address =
    hosts.eraseDups.filter fun address => address ∉ before.addresses

/-- A server is made by an update if it is there afterwards and was not before. -/
theorem Sound.reconciles (h : set.Sound made) (hosts : List Address) :
    set.Reconciles (set.update hosts) (set.arrivals hosts) hosts := by
  have hnew : ∀ server ∈ set.arrivals hosts, server ∉ set.servers := fun server hserver hold =>
    Nat.not_lt_of_le (h.number_le (h.mem_made server hold)) (lt_number_of_mem_numbered hserver)
  refine ⟨?_, fun server hserver => ?_, fun server => ?_, map_address_numbered _ _ _⟩
  · rw [addresses_update, Address.distinct_eq_eraseDups]
  · rw [h.mem_update_iff, and_iff_right hserver,
      or_iff_left fun harrival => hnew server harrival hserver]
  · rw [h.mem_update_iff]
    constructor
    · exact fun hserver => ⟨.inr hserver, hnew server hserver⟩
    · rintro ⟨⟨hold, _⟩ | hserver, hnot⟩
      · exact absurd hold hnot
      · exact hserver

end ServerSet

namespace Cluster

namespace Works

/-- The account of a set says what has been made for it. -/
theorem exists_maintain_eq (id : ClusterId) (hosts : List Address)
    (updates : List (List Address)) :
    ∃ made, maintain id hosts updates =
        ((ServerSet.ofHosts id hosts).through updates, { servers := made }) ∧
      ((ServerSet.ofHosts id hosts).through updates).Sound made := by
  induction updates using List.reverseRecOn with
  | nil => exact ⟨_, makeSet_eq id hosts, ServerSet.sound_ofHosts id hosts⟩
  | append_singleton before last ih =>
      rcases ih with ⟨made, hbefore, hsound⟩
      refine ⟨made ++ ((ServerSet.ofHosts id hosts).through before).arrivals last, ?_, ?_⟩
      · rw [maintain_concat, hbefore, updateSet_eq hsound.length_eq, ServerSet.through_concat]
      · rw [ServerSet.through_concat]
        exact hsound.update last

end Works

end Cluster

namespace ServerSet

/-- A set that was made with some hosts and has been updated, and the account of it. -/
structure Maintained (id : ClusterId) (hosts : List Address) (updates : List (List Address))
    (set : ServerSet) (made : List Server) : Prop where
  set_eq : set = (ofHosts id hosts).through updates
  addresses : set.addresses = (updates.getLastD hosts).eraseDups
  /-- There is a server at an address if and only if the last list names the address. -/
  found : ∀ address, (∃ server, set.server? address = some server) ↔
    address ∈ updates.getLastD hosts
  /-- It is the only one at the address. -/
  unique : ∀ address server, set.server? address = some server ↔
    server ∈ set.servers ∧ server.address = address
  mem_made : ∀ server ∈ set.servers, server ∈ made
  /-- No number is given out twice. -/
  numbers : made.map Server.number = List.range' 1 made.length
  /-- Of any later state: the server at an address is the same one if and only if every list
      in between names the address. -/
  stays : ∀ later address server, set.server? address = some server →
    ((set.through later).server? address = some server ↔ ∀ list ∈ later, address ∈ list)
  /-- And if one of them does not, the server at the address was made in between. -/
  renewed : ∀ later address server found, set.server? address = some server →
    (set.through later).server? address = some found → (∃ list ∈ later, address ∉ list) →
      made.length < found.number

/-- A set that was made with any hosts and updated with any lists, and what one update more
    makes of it and adds to the account. -/
theorem maintained (id : ClusterId) (hosts : List Address) (updates : List (List Address)) :
    ∃ set made, Cluster.Works.maintain id hosts updates = (set, { servers := made }) ∧
      Maintained id hosts updates set made ∧
      ∀ next, ∃ new, set.Reconciles (set.update next) new next ∧
        Cluster.Works.maintain id hosts (updates ++ [next]) =
          (set.update next, { servers := made ++ new }) := by
  rcases Cluster.Works.exists_maintain_eq id hosts updates with ⟨made, hmaintained, hsound⟩
  refine ⟨_, made, hmaintained, ?_, fun next => ⟨_, hsound.reconciles next, ?_⟩⟩
  · exact {
      set_eq := rfl
      addresses := addresses_through id hosts updates
      found := fun address => by
        rw [← Option.isSome_iff_exists, Option.isSome_iff_ne_none, ne_eq, server?_eq_none_iff,
          not_not, addresses_through, List.mem_eraseDups]
      unique := fun _ _ => server?_eq_some_iff hsound.nodup
      mem_made := hsound.mem_made
      numbers := hsound.numbers
      stays := fun later _ _ hserver => hsound.server?_through_iff hserver later
      renewed := fun _ _ _ _ hserver hfound hleft =>
        hsound.length_eq ▸ hsound.created_lt_number hserver hfound hleft }
  · rw [Cluster.Works.maintain_concat, hmaintained,
      Cluster.Works.updateSet_eq hsound.length_eq]

end ServerSet

end DocumentLink
