import Availability.Proofs.Transcript
import Availability.Proofs.World

namespace Availability

structure Storage.Memory.Keeps (before after : Memory) : Prop where
  protocol : after.protocol = before.protocol
  latency : after.latency = before.latency
  held : ∀ uri object, before.Holds uri object → after.Holds uri object

namespace Storage.Memory

theorem Keeps.refl (memory : Memory) : memory.Keeps memory := ⟨rfl, rfl, fun _ _ held => held⟩

theorem Keeps.trans {before between after : Memory} (first : before.Keeps between) (second : between.Keeps after) :
    before.Keeps after where
  protocol := second.protocol.trans first.protocol
  latency := second.latency.trans first.latency
  held := fun uri object held => second.held uri object (first.held uri object held)

theorem keeps_dial (memory : Memory) (source : String) : memory.Keeps (memory.dial source).2 :=
  ⟨rfl, rfl, fun _ _ held => ⟨held.named, held.found⟩⟩

theorem keeps_retrieve (memory : Memory) (uri : String) (limit : Duration) :
    memory.Keeps (memory.retrieve uri limit).2 :=
  ⟨rfl, rfl, fun _ _ held => ⟨held.named, held.found⟩⟩

theorem latency_store (memory : Memory) (object : Bytes) : (memory.store object).2.latency = memory.latency := by
  unfold store
  simp only
  split
  · rfl
  split <;> rfl

theorem keeps_store (memory : Memory) (object : Bytes) : memory.Keeps (memory.store object).2 :=
  ⟨memory.protocol_store object, memory.latency_store object, fun _ _ held => held.store object⟩

end Storage.Memory

namespace World

open Storage (Memory)

theorem keeps_setMemory {world : World} {protocol : Protocol} {memory : Memory}
    (keeps : (world.memory protocol).Keeps memory) (other : Protocol) :
    (world.memory other).Keeps ((world.setMemory protocol memory).memory other) := by
  by_cases same : other = protocol
  · subst same
    rw [memory_setMemory_self]
    exact keeps
  · rw [memory_setMemory_ne _ _ same]
    exact .refl _

theorem keeps_perform (world : World) (operation : Operation) (protocol : Protocol) :
    (world.memory protocol).Keeps ((world.perform operation).2.memory protocol) := by
  cases operation with
  | chain call =>
    change (world.memory protocol).Keeps ((world.ask call).2.memory protocol)
    cases fault : world.fault? call.method with
    | some err =>
      rw [ask_of_fault fault]
      exact .refl _
    | none =>
      rw [ask_of_served fault, memory_ledger]
      exact .refl _
  | prove witness => cases protocol <;> exact .refl _
  | dial network source => exact keeps_setMemory ((world.memory network).keeps_dial source) protocol
  | store network object => exact keeps_setMemory ((world.memory network).keeps_store object) protocol
  | retrieve network uri limit => exact keeps_setMemory ((world.memory network).keeps_retrieve uri limit) protocol

theorem faults_perform (world : World) (operation : Operation) : (world.perform operation).2.faults = world.faults := by
  cases operation with
  | chain call =>
    change (world.ask call).2.faults = _
    cases fault : world.fault? call.method with
    | some err => rw [ask_of_fault fault]
    | none => rw [ask_of_served fault]
  | prove witness => rfl
  | dial network _ | store network _ | retrieve network _ _ => exact world.faults_setMemory network _

variable {order : World → (workers : Nat) → Order workers} {heard : Transcript} {world after : World}

theorem faults_of_plays (plays : Plays (environment order) heard world after) : after.faults = world.faults :=
  plays.preserves (fun between => between.faults = world.faults)
    (fun between operation same => (between.faults_perform operation).trans same) rfl

theorem keeps_of_plays (plays : Plays (environment order) heard world after) (protocol : Protocol) :
    (world.memory protocol).Keeps (after.memory protocol) :=
  plays.preserves (fun between => (world.memory protocol).Keeps (between.memory protocol))
    (fun between operation first => first.trans (between.keeps_perform operation protocol)) (.refl _)

theorem holds_of_plays (plays : Plays (environment order) heard world after) {protocol : Protocol} {object : Bytes}
    {uri : String} (stored : ⟨.store protocol object, .ok uri⟩ ∈ heard) : (after.memory protocol).Holds uri object := by
  obtain ⟨first, rest, rfl⟩ := List.append_of_mem stored
  obtain ⟨between, -, others⟩ := plays.of_append
  cases others with
  | @step _ _ _ _ next _ performed others =>
    have held := (keeps_of_plays others protocol).held uri object
    apply held
    have answer : ((between.memory protocol).store object).1 = .ok uri := congrArg Prod.fst performed
    have same : next = (between.store protocol object).2 := (congrArg Prod.snd performed).symm
    rw [same, memory_store]
    exact Storage.Memory.holds_of_store answer

theorem proper_of_plays (plays : Plays (environment order) heard world after) (proper : world.Proper) : after.Proper :=
  fun protocol => (keeps_of_plays plays protocol).protocol.trans (proper protocol)

theorem ne_of_plays (plays : Plays (environment order) heard world after) {protocol : Protocol} {object other : Bytes}
    {uri added : String} (held : (world.memory protocol).Holds uri object)
    (stored : ⟨.store protocol other, .ok added⟩ ∈ heard) : uri ≠ added := by
  obtain ⟨first, rest, rfl⟩ := List.append_of_mem stored
  obtain ⟨between, before, others⟩ := plays.of_append
  cases others with
  | step performed others =>
    have answer : ((between.memory protocol).store other).1 = .ok added := congrArg Prod.fst performed
    exact ((keeps_of_plays before protocol).held uri object held).ne_of_unused (Storage.Memory.unused_of_store answer)

theorem retrieved_of_plays (plays : Plays (environment order) heard world after) {protocol : Protocol} {object : Bytes}
    {uri : String} {limit : Duration} {answer : Except Storage.Error Bytes}
    (held : (world.memory protocol).Holds uri object)
    (prompt : (world.memory protocol).latency.nanoseconds ≤ limit.nanoseconds)
    (retrieved : ⟨.retrieve protocol uri limit, answer⟩ ∈ heard) : answer = .ok object := by
  obtain ⟨first, rest, rfl⟩ := List.append_of_mem retrieved
  obtain ⟨between, before, others⟩ := plays.of_append
  cases others with
  | @step _ _ _ _ next _ performed others =>
    have keeps := keeps_of_plays before protocol
    have still := keeps.held uri object held
    obtain ⟨id, filled, named⟩ := still.uriFor
    have looked : (between.memory protocol).lookup uri limit = answer := congrArg Prod.fst performed
    rw [← keeps.latency] at prompt
    rw [← looked, named, Storage.Memory.lookup_uriFor prompt filled, ← named, still.found]

end World

end Availability
