import FieldConfig.Broker
import FieldConfig.Proofs.Outcome
import FieldConfig.Proofs.Repetition
import Mathlib.Data.List.Nodup

set_option autoImplicit false

-- The brokers that a registry tracks, one for each host. What is known of a host is settled by its
-- first entry; each further one only adds a federate. Calls that fail or need no tracking add nothing.
namespace FieldConfig

def BrokerHost.joined (host : BrokerHost) (federates : Nat) : BrokerHost :=
  { host with federates := host.federates + .ofNat federates }

theorem BrokerHost.joined_federates (host : BrokerHost) (federates : Nat) :
    (host.joined federates).federates.toNat = (host.federates.toNat + federates) % UInt32.size := by
  simp [joined]

theorem BrokerHost.joined_zero (host : BrokerHost) : host.joined 0 = host := by
  simp [joined]

theorem BrokerHost.joined_joined (host : BrokerHost) (earlier later : Nat) :
    (host.joined earlier).joined later = host.joined (earlier + later) := by
  simp [joined, UInt32.ofNat_add, UInt32.add_assoc]

namespace BrokerSettings

def isTracked (broker : BrokerSettings) : Bool :=
  broker.baseFederates.isSome || broker.dynamic.isSome

def base (broker : BrokerSettings) : Nat := (broker.baseFederates.getD 0).toNat

theorem tracked_host (broker : BrokerSettings) :
    broker.trackedHost? =
      if broker.isTracked then broker.hostname.map fun spec => (place spec).1 else none := rfl

end BrokerSettings

namespace BrokerRegistry

def enter (hosts : List BrokerHost) (fresh : BrokerHost) : List BrokerHost :=
  count fresh.hostname fresh hosts

theorem enter_listed (hosts : List BrokerHost) (fresh : BrokerHost) :
    (enter hosts fresh).map (·.hostname) =
      if fresh.hostname ∈ hosts.map (·.hostname) then hosts.map (·.hostname)
      else hosts.map (·.hostname) ++ [fresh.hostname] := by
  induction hosts with
  | nil => simp [enter, count]
  | cons known rest ih =>
      rw [enter, count]
      by_cases same : known.hostname = fresh.hostname
      · simp [same]
      · rw [if_neg same, List.map_cons, ← enter, ih]
        by_cases later : fresh.hostname ∈ rest.map (·.hostname)
        · have present : fresh.hostname ∈ (known :: rest).map (·.hostname) :=
            List.mem_cons_of_mem _ later
          rw [if_pos later, if_pos present, List.map_cons]
        · have absent : fresh.hostname ∉ (known :: rest).map (·.hostname) :=
            List.not_mem_cons_of_ne_of_not_mem (Ne.symm same) later
          rw [if_neg later, if_neg absent, List.map_cons, List.cons_append]

theorem enter_names (hosts : List BrokerHost) (fresh : BrokerHost) (name : String) :
    name ∈ (enter hosts fresh).map (·.hostname) ↔
      name = fresh.hostname ∨ name ∈ hosts.map (·.hostname) := by
  rw [enter_listed]
  by_cases known : fresh.hostname ∈ hosts.map (·.hostname)
  · rw [if_pos known]
    exact ⟨.inr, fun named => named.elim (fun own => own ▸ known) id⟩
  · rw [if_neg known, List.mem_append, List.mem_singleton, or_comm]

theorem enter_distinct (hosts : List BrokerHost) (fresh : BrokerHost)
    (distinct : (hosts.map (·.hostname)).Nodup) :
    ((enter hosts fresh).map (·.hostname)).Nodup := by
  rw [enter_listed]
  by_cases known : fresh.hostname ∈ hosts.map (·.hostname)
  · rwa [if_pos known]
  · rw [if_neg known]
    exact List.concat_eq_append ▸ distinct.concat known

theorem enter_found (hosts : List BrokerHost) (fresh : BrokerHost) (name : String) :
    (enter hosts fresh).find? (·.hostname == name) =
      if fresh.hostname = name then
        some (((hosts.find? (·.hostname == name)).getD fresh).joined 1)
      else hosts.find? (·.hostname == name) := by
  induction hosts with
  | nil => by_cases own : fresh.hostname = name <;> simp [enter, count, own, BrokerHost.joined]
  | cons known rest ih =>
      rw [enter, count]
      by_cases same : known.hostname = fresh.hostname
      · rw [if_pos same]
        by_cases own : fresh.hostname = name <;> simp [same, own, BrokerHost.joined]
      · rw [if_neg same, ← enter]
        by_cases here : known.hostname = name
        · have other : fresh.hostname ≠ name := fun own => same (here.trans own.symm)
          simp [here, other]
        · simpa [here] using ih

def entered (hosts fresh : List BrokerHost) : List BrokerHost := fresh.foldl enter hosts

theorem entered_cons {α : Type} (hosts : List BrokerHost) (tracked : α → Option BrokerHost)
    (first : α) (rest : List α) :
    entered hosts ((first :: rest).filterMap tracked) =
      entered (entered hosts (tracked first).toList) (rest.filterMap tracked) := by
  cases made : tracked first with
  | none => rw [List.filterMap_cons_none made]; rfl
  | some fresh => rw [List.filterMap_cons_some made]; rfl

theorem made_first {α : Type} (made : α → Option BrokerHost) (host : String) (counts : α → Bool)
    (agree : ∀ item, (made item).any (·.hostname == host) = counts item) (items : List α) :
    (items.filterMap made).find? (·.hostname == host) = (items.find? counts).bind made := by
  rw [List.find?_filterMap]
  exact congrArg (fun matching => (items.find? matching).bind made) (funext agree)

theorem made_count {α : Type} (made : α → Option BrokerHost) (host : String) (counts : α → Bool)
    (agree : ∀ item, (made item).any (·.hostname == host) = counts item) (items : List α) :
    (items.filterMap made).countP (·.hostname == host) = items.countP counts := by
  rw [List.countP_filterMap]
  refine congrArg (List.countP · items) (funext fun item => ?_)
  rw [← agree item]
  cases made item <;> rfl

theorem entered_names (hosts fresh : List BrokerHost) (name : String) :
    name ∈ (entered hosts fresh).map (·.hostname) ↔
      name ∈ fresh.map (·.hostname) ∨ name ∈ hosts.map (·.hostname) := by
  induction fresh generalizing hosts with
  | nil => simp [entered]
  | cons first rest ih =>
      rw [entered, List.foldl_cons, ← entered, ih, enter_names, List.map_cons, List.mem_cons,
        or_left_comm, or_assoc]

theorem entered_listed (fresh : List BrokerHost) :
    (entered [] fresh).map (·.hostname) = (fresh.map (·.hostname)).eraseDups := by
  induction fresh using List.reverseRecOn with
  | nil => rfl
  | append_singleton earlier last ih =>
      rw [entered, List.foldl_append, List.foldl_cons, List.foldl_nil, ← entered, enter_listed, ih,
        List.map_append, List.map_singleton, eraseDups_snoc]
      simp only [List.mem_eraseDups]

theorem entered_distinct (hosts fresh : List BrokerHost)
    (distinct : (hosts.map (·.hostname)).Nodup) :
    ((entered hosts fresh).map (·.hostname)).Nodup := by
  induction fresh generalizing hosts with
  | nil => exact distinct
  | cons first rest ih => exact ih _ (enter_distinct hosts first distinct)

theorem entered_found (hosts fresh : List BrokerHost) (name : String) :
    (entered hosts fresh).find? (·.hostname == name) =
      ((hosts ++ fresh).find? (·.hostname == name)).map
        (·.joined (fresh.countP (·.hostname == name))) := by
  induction fresh using List.reverseRecOn with
  | nil =>
      rw [List.append_nil, List.countP_nil]
      simp [entered, BrokerHost.joined_zero]
  | append_singleton earlier last ih =>
      rw [entered, List.foldl_append, List.foldl_cons, List.foldl_nil, ← entered, enter_found,
        ← List.append_assoc, List.find?_append, ih, List.countP_append, List.countP_singleton]
      by_cases own : last.hostname = name
      · cases first : (hosts ++ earlier).find? (·.hostname == name) with
        | none =>
            have absent := List.find?_eq_none.mp first
            have fewer : earlier.countP (·.hostname == name) = 0 :=
              List.countP_eq_zero.mpr fun entry member => absent entry (List.mem_append_right _ member)
            simp [own, fewer]
        | some known => simp [own, BrokerHost.joined_joined]
      · simp [own]

theorem host_found (hosts : List BrokerHost) (host : BrokerHost)
    (distinct : (hosts.map (·.hostname)).Nodup) (member : host ∈ hosts) :
    hosts.find? (·.hostname == host.hostname) = some host := by
  cases found : hosts.find? (·.hostname == host.hostname) with
  | none => simpa using List.find?_eq_none.mp found host member
  | some known =>
      have named : known.hostname = host.hostname := by simpa using List.find?_some found
      exact congrArg some
        (List.inj_on_of_nodup_map distinct (List.mem_of_find?_eq_some found) member named)

theorem entered_member (fresh : List BrokerHost) (host : BrokerHost)
    (member : host ∈ entered [] fresh) :
    ∃ first, fresh.find? (·.hostname == host.hostname) = some first ∧
      host = first.joined (fresh.countP (·.hostname == host.hostname)) := by
  have found := host_found _ host (entered_distinct [] fresh List.nodup_nil) member
  rw [entered_found, List.nil_append, Option.map_eq_some_iff] at found
  obtain ⟨first, here, joins⟩ := found
  exact ⟨first, here, joins.symm⟩

theorem entered_kept (hosts fresh : List BrokerHost) (host : BrokerHost)
    (distinct : (hosts.map (·.hostname)).Nodup) (member : host ∈ hosts) :
    host.joined (fresh.countP (·.hostname == host.hostname)) ∈ entered hosts fresh := by
  have found := entered_found hosts fresh host.hostname
  rw [List.find?_append, host_found hosts host distinct member] at found
  exact List.mem_of_find?_eq_some found

def names (registry : BrokerRegistry) : List String := registry.hosts.map (·.hostname)

theorem resolve_address (registry : BrokerRegistry) (topology : Topology)
    (broker : BrokerSettings) (requester : String) :
    (registry.resolve topology broker requester).2 = broker.address? topology requester := by
  rw [resolve]
  cases broker.address? topology requester with
  | error fault => rfl
  | ok address => cases broker.trackedHost? <;> rfl

theorem resolve_enters (registry : BrokerRegistry) (topology : Topology)
    (broker : BrokerSettings) (requester : String) :
    (registry.resolve topology broker requester).1.hosts = entered registry.hosts
      ((broker.address? topology requester).toOption.bind fun address =>
        broker.trackedHost?.map (broker.firstEntry · address)).toList := by
  rw [resolve]
  cases broker.address? topology requester with
  | error fault => rfl
  | ok address => cases broker.trackedHost? <;> rfl

theorem resolve_hosts (registry after : BrokerRegistry) (topology : Topology)
    (broker : BrokerSettings) (requester address : String)
    (resolved : registry.resolve topology broker requester = (after, .ok address)) :
    after.hosts = entered registry.hosts
      (broker.trackedHost?.map (broker.firstEntry · address)).toList := by
  have asked := registry.resolve_address topology broker requester
  have enters := registry.resolve_enters topology broker requester
  rw [← asked, resolved] at enters
  exact enters

end BrokerRegistry

structure BrokerCall where
  broker : BrokerSettings
  requester : String

theorem BrokerSettings.address_anyone (broker : BrokerSettings) (topology : Topology)
    (requester other : String) :
    (broker.address? topology requester).toOption = (broker.address? topology other).toOption := by
  rw [address?, address?]
  cases broker.hostname with
  | none => cases broker.address <;> rfl
  | some spec =>
      simp only
      cases topology.node? (place spec).1 <;> rfl

namespace BrokerCall

variable (topology : Topology)

def answer (registry : BrokerRegistry) (call : BrokerCall) : Except CompileError String :=
  (registry.resolve topology call.broker call.requester).2

-- The host that a call counts for: one that it names, if it asks for tracking and is answered.
def host? (call : BrokerCall) : Option String :=
  if call.broker.isTracked && (call.answer topology {}).isOk then
    call.broker.hostname.map fun spec => (BrokerSettings.place spec).1
  else none

def counts (host : String) (call : BrokerCall) : Bool :=
  call.host? topology = some host

def fresh? (call : BrokerCall) : Option BrokerHost :=
  (call.answer topology {}).toOption.bind fun address =>
    call.broker.trackedHost?.map (call.broker.firstEntry · address)

theorem fresh_host (call : BrokerCall) :
    (call.fresh? topology).map (·.hostname) = call.host? topology := by
  rw [fresh?, host?, BrokerSettings.tracked_host]
  cases call.answer topology {} with
  | error fault => simp [Except.toOption, Except.isOk, Except.toBool]
  | ok address =>
      by_cases tracked : call.broker.isTracked
      · cases call.broker.hostname <;>
          simp [tracked, Except.toOption, Except.isOk, Except.toBool, BrokerSettings.firstEntry]
      · simp [tracked, Except.toOption]

theorem fresh_counts (host : String) (call : BrokerCall) :
    (call.fresh? topology).any (·.hostname == host) = call.counts topology host := by
  rw [counts, ← fresh_host]
  cases call.fresh? topology with
  | none => rfl
  | some fresh => simp [Bool.beq_eq_decide_eq]

end BrokerCall

namespace BrokerRegistry

variable (topology : Topology)

def step (registry : BrokerRegistry) (call : BrokerCall) : BrokerRegistry :=
  (registry.resolve topology call.broker call.requester).1

def run (registry : BrokerRegistry) (calls : List BrokerCall) : BrokerRegistry :=
  calls.foldl (step topology) registry

theorem answer_alone (registry : BrokerRegistry) (call : BrokerCall) :
    call.answer topology registry = call.answer topology {} := by
  rw [BrokerCall.answer, BrokerCall.answer, resolve_address, resolve_address]

theorem step_hosts (registry : BrokerRegistry) (call : BrokerCall) :
    (registry.step topology call).hosts =
      entered registry.hosts (call.fresh? topology).toList := by
  rw [step, resolve_enters, BrokerCall.fresh?, BrokerCall.answer, resolve_address]

theorem run_hosts (registry : BrokerRegistry) (calls : List BrokerCall) :
    (registry.run topology calls).hosts =
      entered registry.hosts (calls.filterMap (·.fresh? topology)) := by
  induction calls generalizing registry with
  | nil => rfl
  | cons call rest ih =>
      rw [run, List.foldl_cons, ← run, ih, step_hosts, entered_cons]

theorem step_idle (registry : BrokerRegistry) (call : BrokerCall)
    (idle : call.host? topology = none) : registry.step topology call = registry := by
  rw [← BrokerCall.fresh_host, Option.map_eq_none_iff] at idle
  have hosts := registry.step_hosts topology call
  rw [idle] at hosts
  exact congrArg BrokerRegistry.mk hosts

theorem run_append (registry : BrokerRegistry) (earlier later : List BrokerCall) :
    registry.run topology (earlier ++ later) = (registry.run topology earlier).run topology later :=
  List.foldl_append

theorem run_names (calls : List BrokerCall) :
    (run topology {} calls).names = (calls.filterMap (·.host? topology)).eraseDups := by
  have hosts : (calls.filterMap (·.fresh? topology)).map (·.hostname) =
      calls.filterMap (·.host? topology) := by
    rw [List.map_filterMap]
    exact List.filterMap_congr fun call _ => call.fresh_host topology
  rw [names, run_hosts, entered_listed, hosts]

-- What is known of a host after calls: what the first of those that count for it says, with a
-- federate for each of them.
structure Tallied (calls : List BrokerCall) (host : BrokerHost) (call : BrokerCall) : Prop where
  first : ∃ earlier later, calls = earlier ++ call :: later ∧
    ∀ other ∈ earlier, other.host? topology ≠ some host.hostname
  counted : call.host? topology = some host.hostname
  endpoint : call.answer topology {} = .ok host.endpoint
  dynamic : host.dynamic = call.broker.dynamic.getD false
  logLevel : host.logLevel = call.broker.logLevel.getD "SUMMARY"
  logFile : host.logFile = call.broker.logFile.getD "/var/log/helics-broker.log"
  federates : host.federates.toNat =
    (call.broker.base + calls.countP (·.counts topology host.hostname)) % UInt32.size

theorem run_tallied (calls : List BrokerCall) (host : BrokerHost)
    (member : host ∈ (run topology {} calls).hosts) : ∃ call, Tallied topology calls host call := by
  rw [run_hosts] at member
  obtain ⟨fresh, found, joins⟩ := entered_member _ host member
  rw [made_first _ _ _ (BrokerCall.fresh_counts topology host.hostname),
    Option.bind_eq_some_iff] at found
  rw [made_count _ _ _ (BrokerCall.fresh_counts topology host.hostname)] at joins
  obtain ⟨call, earliest, entry⟩ := found
  obtain ⟨counted, earlier, later, split, before⟩ := List.find?_eq_some_iff_append.mp earliest
  simp only [BrokerCall.fresh?, Option.bind_eq_some_iff, Option.map_eq_some_iff,
    toOption_some] at entry
  obtain ⟨address, answered, hostname, _, rfl⟩ := entry
  have endpoint : host.endpoint = address := congrArg BrokerHost.endpoint joins
  refine ⟨call, ⟨earlier, later, split, fun other among same => ?_⟩, ?_, endpoint ▸ answered,
    congrArg BrokerHost.dynamic joins, congrArg BrokerHost.logLevel joins,
    congrArg BrokerHost.logFile joins,
    (congrArg (·.federates.toNat) joins).trans (BrokerHost.joined_federates _ _)⟩
  · simpa [BrokerCall.counts, same] using before other among
  · simpa [BrokerCall.counts] using counted

end BrokerRegistry

/-- A registry has one entry for each host that its calls count for, in the order of the first of these
calls. An entry has what the first call for its host says and one federate for each call, in 32 bits,
and later calls only add federates. A call that fails, names no host or asks for no tracking changes
nothing. The answer to a call is the same whatever was asked before, and its address whoever asks. -/
theorem calls_tallied (topology : Topology) (calls : List BrokerCall) (registry : BrokerRegistry)
    (ran : BrokerRegistry.run topology {} calls = registry) :
    registry.names = (calls.filterMap (·.host? topology)).eraseDups ∧ registry.names.Nodup ∧
      (∀ host ∈ registry.hosts,
        (∃ first, BrokerRegistry.Tallied topology calls host first) ∧
        ∀ later, host.joined (later.countP (·.counts topology host.hostname)) ∈
          (BrokerRegistry.run topology {} (calls ++ later)).hosts) ∧
      ∀ call,
        ((∃ fault, call.answer topology registry = .error fault) ∨ call.broker.hostname = none ∨
            call.broker.isTracked = false →
          registry.step topology call = registry) ∧
        call.answer topology registry = call.answer topology {} ∧
        ∀ requester, (call.answer topology registry).toOption =
          (BrokerCall.answer topology {} ⟨call.broker, requester⟩).toOption := by
  subst ran
  have hosts := BrokerRegistry.run_hosts topology {} calls
  have distinct : (BrokerRegistry.run topology {} calls).names.Nodup := by
    rw [BrokerRegistry.run_names]
    exact eraseDups_distinct _
  refine ⟨BrokerRegistry.run_names topology calls, distinct, fun host member => ⟨?_, fun later => ?_⟩,
    fun call => ⟨fun idle => ?_, BrokerRegistry.answer_alone topology _ call, fun requester => ?_⟩⟩
  · exact BrokerRegistry.run_tallied topology calls host member
  · rw [BrokerRegistry.run_append, BrokerRegistry.run_hosts,
      ← BrokerRegistry.made_count _ _ _ (BrokerCall.fresh_counts topology host.hostname)]
    exact BrokerRegistry.entered_kept _ _ host distinct member
  · apply BrokerRegistry.step_idle
    rw [BrokerRegistry.answer_alone] at idle
    obtain ⟨fault, refused⟩ | unnamed | untracked := idle
    · simp [BrokerCall.host?, refused, Except.isOk, Except.toBool]
    · simp [BrokerCall.host?, unnamed]
    · simp [BrokerCall.host?, untracked]
  · simp only [BrokerCall.answer, BrokerRegistry.resolve_address]
    exact call.broker.address_anyone topology call.requester requester

def harbour : Topology where
  nodes :=
    [{ hostname := "hub"
       nodeType := "server"
       interfaces :=
         [{ name := "eth0", address := "10.0.0.9" }, { name := "eth1", address := "10.1.0.9" }] },
     { hostname := "mute", nodeType := "server" }]

-- Two calls count for the host: the others give an address, ask for no tracking, or name an interface
-- or a host without an address.
def harbourCalls : List BrokerCall :=
  [⟨{ address := "127.0.0.1", dynamic := some true }, "rtu1"⟩,
   ⟨{ hostname := "hub|eth1", baseFederates := some 2 }, "rtu2"⟩,
   ⟨{ hostname := "hub" }, "rtu3"⟩,
   ⟨{ hostname := "hub|eth9", dynamic := some true }, "rtu4"⟩,
   ⟨{ hostname := "mute", baseFederates := some 1 }, "rtu5"⟩,
   ⟨{ hostname := "hub", baseFederates := some 7, logLevel := "TRACE" }, "rtu6"⟩]

theorem harbour_tallied :
    ∃ host, (BrokerRegistry.run harbour {} harbourCalls).hosts = [host] ∧
      host = ⟨"hub", "10.1.0.9", 4, false, "SUMMARY", "/var/log/helics-broker.log"⟩ ∧
      (∃ first, BrokerRegistry.Tallied harbour harbourCalls host first) ∧
      host.joined 2 ∈ (BrokerRegistry.run harbour {} (harbourCalls ++ harbourCalls)).hosts := by
  obtain ⟨host, hosts, known⟩ : ∃ host,
      (BrokerRegistry.run harbour {} harbourCalls).hosts = [host] ∧
        host = ⟨"hub", "10.1.0.9", 4, false, "SUMMARY", "/var/log/helics-broker.log"⟩ :=
    ⟨_, rfl, rfl⟩
  obtain ⟨_, _, each, _⟩ := calls_tallied harbour harbourCalls _ rfl
  obtain ⟨first, kept⟩ := each host (hosts ▸ List.mem_singleton_self host)
  refine ⟨host, hosts, known, first, ?_⟩
  subst known
  exact kept harbourCalls

end FieldConfig
