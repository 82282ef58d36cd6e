import Availability.Client.Network
import Availability.Proofs.Store
import Availability.Proofs.World

namespace Availability

def Store.RetrievesFrom (store : Store) (protocol : Protocol) (uri : String) : Prop :=
  store.retrieve uri = ExceptT.mk (.perform (.retrieve protocol uri store.retrieveTimeout) .done)

theorem Store.RetrievesFrom.unique {store : Store} {first second : Protocol} {uri : String}
    (one : store.RetrievesFrom first uri) (other : store.RetrievesFrom second uri) : first = second := by
  have same := (Program.perform.inj (one.symm.trans other)).1
  exact (Operation.retrieve.inj same).1

theorem Store.retrievesFrom_of_owns {store : Store} {protocol : Protocol} {uri : String}
    (known : protocol ∈ store.registry) (owned : protocol.Owns uri) : store.RetrievesFrom protocol uri := by
  have backend : store.registry.backend protocol = .ok protocol := if_pos known
  rw [RetrievesFrom, retrieve, Storage.backendForUri_of_owns _ owned, backend]
  rfl

namespace Storage

section

variable {β : Type} {protocol : β → Protocol} {backends : List β} {backend : β} {uri : String}

def RoutedTo (protocol : β → Protocol) (backends : List β) (backend : β) (uri : String) : Prop :=
  ∀ limit, ∀ other ∈ backends,
    Store.RetrievesFrom ⟨backends.map protocol, limit⟩ (protocol other) uri ↔ other = backend

theorem routedTo_of_owns (single : (backends.map protocol).Nodup) (member : backend ∈ backends)
    (owned : (protocol backend).Owns uri) : RoutedTo protocol backends backend uri := by
  intro limit other listed
  have routed : Store.RetrievesFrom ⟨backends.map protocol, limit⟩ (protocol backend) uri :=
    Store.retrievesFrom_of_owns (List.mem_map_of_mem member) owned
  constructor
  · intro reached
    exact List.inj_on_of_nodup_map single listed member (reached.unique routed)
  · rintro rfl
    exact routed

end

theorem Memory.uriFor_of_store {memory : Memory} {object : Bytes} {uri : String}
    (stored : (memory.store object).1 = .ok uri) : ∃ id, id ≠ "" ∧ uri = memory.protocol.uriFor id := by
  obtain ⟨object, nonce, -, rfl⟩ := unused_of_store stored
  exact ⟨idOf object nonce, idOf_ne_empty object nonce, rfl⟩

end Storage

namespace Client

open Storage (Error)

theorem run_askAt_eq_ok {α : Type} {url : Except Error Url} {request : Url → Request}
    {read : Except Fault Response → Except Error α} {service : Request → Except Fault Response} {value : α}
    (answered : (askAt url request read).run service = .ok value) :
    ∃ target, url = .ok target ∧ read (service (request target)) = .ok value := by
  cases url with
  | error err => cases answered
  | ok target => exact ⟨target, rfl, answered⟩

theorem uriFor_of_readStored {protocol : Protocol} {name target uri : String} {reply : Except Fault Response}
    (stored : readStored protocol name target reply = .ok uri) : ∃ id, uri = protocol.uriFor id := by
  obtain ⟨response, -, stored⟩ := Except.bind_eq_ok.mp stored
  obtain ⟨id, -, stored⟩ := Except.bind_eq_ok.mp stored
  cases stored
  exact ⟨id, rfl⟩

theorem Network.uriFor_of_store {network : Network} {object : Bytes} {service : Request → Except Fault Response}
    {uri : String} (stored : (network.store object).run service = .ok uri) :
    ∃ id, uri = network.protocol.uriFor id := by
  cases network with
  | ipfs settings =>
    obtain ⟨_, -, stored⟩ := run_askAt_eq_ok stored
    exact uriFor_of_readStored stored
  | arweave settings => exact uriFor_of_readStored stored

end Client

namespace Store

open World (environment)

variable {store : Store} {protocol : Protocol} {order : World → (workers : Nat) → Order workers}
  {world after : World} {uri : String}

theorem retrievesFrom_of_publishMetadata (proper : world.Proper) {metadata : Metadata}
    (ran : Attempt.runIn (environment order) (store.publishMetadata protocol metadata) world = (.ok uri, after)) :
    store.RetrievesFrom protocol uri := by
  obtain ⟨bytes, -, performed⟩ := publishMetadata_eq_ok ran
  have stored : ((world.memory protocol).store bytes).1 = .ok uri := congrArg Prod.fst performed
  obtain ⟨id, -, rfl⟩ := Storage.Memory.uriFor_of_store stored
  rw [proper protocol]
  exact retrievesFrom_of_owns (registered_of_runIn ran) (Protocol.owns_uriFor protocol id)

theorem retrievesFrom_of_publishShards (proper : world.Proper) {shards : List Bytes} {uris : List String}
    (ran : Attempt.runIn (environment order) (store.publishShards protocol shards) world = (.ok uris, after))
    (member : uri ∈ uris) : store.RetrievesFrom protocol uri := by
  obtain ⟨-, -, answered⟩ := publishShards_eq_ok ran
  obtain ⟨position, there⟩ := List.mem_iff_getElem?.mp member
  have stored := World.stored_finish (environment order) rfl protocol
    ((environment order).queue shards world) world
  obtain ⟨object, nonce, -, rfl⟩ := stored.unused (answered position uri there)
  rw [proper protocol]
  exact retrievesFrom_of_owns (registered_of_runIn ran) (Protocol.owns_uriFor protocol _)

end Store

namespace Storage

open World (environment)

/-- A uri tells the network it belongs to, if there is one, and gives back the identifier it was made of; every other
network refuses it. So what a backend has stored is always retrieved from that same backend, and what is published to a
network from that network. -/
theorem uris_routed_back :
    (∀ uri,
      (∀ first second : Protocol, first.Owns uri → second.Owns uri → first = second) ∧
      (∀ protocol, protocolOfUri uri = .ok protocol ↔ protocol.Owns uri) ∧
      ∀ err, protocolOfUri uri = .error err ↔
        err = .unsupportedProtocol uri ∧ ∀ protocol : Protocol, ¬protocol.Owns uri) ∧
    (∀ (protocol : Protocol) (id : String),
      protocolOfUri (protocol.uriFor id) = .ok protocol ∧
      (id ≠ "" → objectId protocol (protocol.uriFor id) = .ok id) ∧
      objectId protocol (protocol.uriFor "") = .error (.invalidUri (protocol.uriFor ""))) ∧
    (∀ protocol uri id, objectId protocol uri = .ok id →
      uri = protocol.uriFor id ∧ ∀ other ≠ protocol, objectId other uri = .error (.invalidUri uri)) ∧
    (∀ {β : Type} (protocol : β → Protocol) (backends : List β), (backends.map protocol).Nodup →
      ∀ backend ∈ backends, ∀ id, RoutedTo protocol backends backend ((protocol backend).uriFor id)) ∧
    (∀ (memory : Memory) (object : Bytes) (uri : String), (memory.store object).1 = .ok uri →
      ∃ id, id ≠ "" ∧ uri = memory.protocol.uriFor id) ∧
    (∀ (network : Client.Network) (object : Bytes) (service : Client.Request → Except Client.Fault Client.Response)
      (uri : String), (network.store object).run service = .ok uri → ∃ id, uri = network.protocol.uriFor id) ∧
    ∀ (order : World → (workers : Nat) → Order workers) (store : Store) (protocol : Protocol) (world after : World),
      world.Proper →
        (∀ metadata uri, Attempt.runIn (environment order) (store.publishMetadata protocol metadata) world =
          (.ok uri, after) → store.RetrievesFrom protocol uri) ∧
        ∀ shards uris, Attempt.runIn (environment order) (store.publishShards protocol shards) world =
          (.ok uris, after) → ∀ uri ∈ uris, store.RetrievesFrom protocol uri := by
  refine ⟨fun uri => ⟨fun _ _ => Protocol.Owns.unique, fun _ => protocolOfUri_eq_ok_iff,
    fun _ => protocolOfUri_eq_error_iff⟩,
    fun protocol id => ⟨?_, objectId_uriFor protocol, objectId_uriFor_empty protocol⟩,
    fun protocol uri id named => ⟨(objectId_eq_ok_iff.mp named).2, fun other => objectId_of_apart named⟩,
    fun protocol backends single backend member id => ?_, fun _ _ _ => Memory.uriFor_of_store,
    fun _ _ _ _ => Client.Network.uriFor_of_store, fun order store protocol world after proper => ⟨?_, ?_⟩⟩
  · exact protocolOfUri_eq_ok_iff.mpr (Protocol.owns_uriFor protocol id)
  · exact routedTo_of_owns single member (Protocol.owns_uriFor _ id)
  · exact fun metadata uri => Store.retrievesFrom_of_publishMetadata proper
  · exact fun shards uris ran uri => Store.retrievesFrom_of_publishShards proper ran

end Storage

end Availability
