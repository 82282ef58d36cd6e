import Availability.Proofs.Transcript
import Availability.Proofs.World

namespace Availability

namespace Storage.Memory

/-- A store call takes the number that will be part of its uri before it does anything else. -/
def call (memory : Memory) : Nat × Memory := (memory.stores, { memory with stores := memory.stores + 1 })

def complete (memory : Memory) (nonce : Nat) (object : Bytes) : Except Error String × Memory :=
  if memory.failingStores.contains nonce then (.error (.backend s!"store {nonce} rejected"), memory)
  else if memory.failStores then (.error (.backend "store rejected"), memory)
  else (.ok (uriOf memory.protocol object nonce), memory.insert (uriOf memory.protocol object nonce) object)

/-- Alone, a store call ends as soon as it has its number. -/
theorem store_eq (memory : Memory) (object : Bytes) :
    memory.store object = memory.call.2.complete memory.call.1 object := rfl

theorem complete_cases (memory : Memory) (nonce : Nat) (object : Bytes) :
    (∃ err, memory.complete nonce object = (.error err, memory)) ∨
      memory.complete nonce object =
        (.ok (uriOf memory.protocol object nonce), memory.insert (uriOf memory.protocol object nonce) object) := by
  unfold complete
  split
  · exact .inl ⟨_, rfl⟩
  split
  · exact .inl ⟨_, rfl⟩
  · exact .inr rfl

end Storage.Memory

open Storage (Memory)

namespace World

theorem setMemory_memory (world : World) (protocol : Protocol) :
    world.setMemory protocol (world.memory protocol) = world := by
  cases protocol <;> rfl

theorem setMemory_setMemory (world : World) (protocol : Protocol) (first second : Memory) :
    (world.setMemory protocol first).setMemory protocol second = world.setMemory protocol second := by
  cases protocol <;> rfl

theorem object?_insert (world : World) (protocol other : Protocol) (uri target : String) (object : Bytes) :
    (world.setMemory protocol ((world.memory protocol).insert uri object)).object? other target =
      if other = protocol ∧ target = uri then some object else world.object? other target := by
  unfold object?
  by_cases same : other = protocol
  · subst same
    rw [memory_setMemory_self]
    by_cases here : target = uri
    · subst here
      simp [Memory.insert, Table.get?_put_self]
    · simp [Memory.insert, Table.get?_put_ne _ _ here, here]
  · rw [memory_setMemory_ne _ _ same, if_neg (fun both => same both.1)]

structure Undisturbed (before after : World) : Prop where
  protocol : ∀ protocol, (after.memory protocol).protocol = (before.memory protocol).protocol
  objects : ∀ protocol, (after.memory protocol).objects = (before.memory protocol).objects
  stores : ∀ protocol, (after.memory protocol).stores = (before.memory protocol).stores

theorem Undisturbed.refl (world : World) : Undisturbed world world := ⟨fun _ => rfl, fun _ => rfl, fun _ => rfl⟩

theorem memory_setMemory_congr {α : Type} (view : Memory → α) (world : World) {protocol : Protocol} (memory : Memory)
    (same : view memory = view (world.memory protocol)) (other : Protocol) :
    view ((world.setMemory protocol memory).memory other) = view (world.memory other) := by
  by_cases here : other = protocol
  · subst here
    rw [memory_setMemory_self, same]
  · rw [memory_setMemory_ne _ _ here]

theorem Undisturbed.setMemory {world : World} {protocol : Protocol} {memory : Memory}
    (sameProtocol : memory.protocol = (world.memory protocol).protocol)
    (objects : memory.objects = (world.memory protocol).objects)
    (stores : memory.stores = (world.memory protocol).stores) :
    Undisturbed world (world.setMemory protocol memory) where
  protocol := memory_setMemory_congr Memory.protocol world memory sameProtocol
  objects := memory_setMemory_congr Memory.objects world memory objects
  stores := memory_setMemory_congr Memory.stores world memory stores

theorem Undisturbed.object? {before after : World} (still : Undisturbed before after) (protocol : Protocol)
    (uri : String) : after.object? protocol uri = before.object? protocol uri := by
  unfold World.object?
  rw [still.objects]

theorem undisturbed_perform {world after : World} {operation : Operation} {answer : operation.Answer}
    (performed : world.perform operation = (answer, after))
    (other : ∀ protocol object, operation ≠ .store protocol object) : Undisturbed world after := by
  cases operation with
  | chain call =>
    change world.ask call = (answer, after) at performed
    cases fault : world.fault? call.method with
    | some err =>
      rw [ask_of_fault fault] at performed
      cases performed
      exact .refl _
    | none =>
      rw [ask_of_served fault] at performed
      cases performed
      constructor <;> simp
  | prove witness =>
    cases performed
    constructor <;> (rintro (_ | _) <;> rfl)
  | dial protocol _ | retrieve protocol _ _ =>
    cases performed
    exact Undisturbed.setMemory rfl rfl rfl
  | store protocol object => exact absurd rfl (other protocol object)

end World

def Operation.storesOn (protocol : Protocol) : Operation → Bool
  | .store network _ => network = protocol
  | _ => false

namespace World

variable {world after : World} (protocol : Protocol)

theorem stores_performed {operation : Operation} {answer : operation.Answer}
    (performed : world.perform operation = (answer, after)) :
    (after.memory protocol).stores = (world.memory protocol).stores + (operation.storesOn protocol).toNat := by
  cases operation with
  | store network object =>
    have same : after = (world.store network object).2 := (congrArg Prod.snd performed).symm
    rw [same]
    by_cases here : network = protocol
    · subst here
      rw [memory_store, Memory.stores_store]
      simp [Operation.storesOn]
    · simp only [Operation.storesOn, here, decide_false, Bool.toNat_false, Nat.add_zero]
      exact congrArg Memory.stores (world.memory_setMemory_ne _ (Ne.symm here))
  | _ => exact (undisturbed_perform performed nofun).stores protocol

theorem stores_of_plays {order : World → (workers : Nat) → Order workers} {heard : Transcript}
    (plays : Plays (environment order) heard world after) : (after.memory protocol).stores =
      (world.memory protocol).stores + heard.countP fun event => event.operation.storesOn protocol := by
  induction plays with
  | done => rfl
  | @step operation answer rest state between after performed others ih =>
    rw [ih, stores_performed protocol performed, List.countP_cons]
    cases operation.storesOn protocol
    · rfl
    · simp only [Bool.toNat_true, if_true]
      omega

end World

/-- A world with the store calls that have taken their number and not ended yet. -/
structure Busy where
  world : World
  calls : List (Protocol × Nat) := []

namespace Busy

def call (busy : Busy) (protocol : Protocol) : Busy where
  world := busy.world.setMemory protocol (busy.world.memory protocol).call.2
  calls := (protocol, (busy.world.memory protocol).call.1) :: busy.calls

def complete (busy : Busy) (protocol : Protocol) (nonce : Nat) (object : Bytes) : Except Storage.Error String × Busy :=
  let (answer, memory) := (busy.world.memory protocol).complete nonce object
  (answer, ⟨busy.world.setMemory protocol memory, busy.calls.erase (protocol, nonce)⟩)

theorem memory_call {α : Type} (busy : Busy) (view : Memory → α) {protocol : Protocol}
    (same : view (busy.world.memory protocol).call.2 = view (busy.world.memory protocol)) (other : Protocol) :
    view ((busy.call protocol).world.memory other) = view (busy.world.memory other) :=
  World.memory_setMemory_congr view busy.world _ same other

theorem object?_call (busy : Busy) (protocol other : Protocol) (uri : String) :
    (busy.call protocol).world.object? other uri = busy.world.object? other uri := by
  unfold World.object?
  rw [busy.memory_call Memory.objects rfl]

theorem stores_call (busy : Busy) (protocol other : Protocol) :
    (busy.world.memory other).stores ≤ ((busy.call protocol).world.memory other).stores := by
  by_cases same : other = protocol
  · subst same
    simp [call, Memory.call]
  · simp [call, World.memory_setMemory_ne _ _ same]

theorem mem_calls_call {busy : Busy} {protocol other : Protocol} {nonce : Nat}
    (numbered : (other, nonce) ∈ (busy.call protocol).calls) :
    other = protocol ∧ nonce = (busy.world.memory protocol).stores ∨ (other, nonce) ∈ busy.calls := by
  rcases List.mem_cons.mp numbered with same | begun
  · cases same
    exact .inl ⟨rfl, rfl⟩
  · exact .inr begun

structure Numbered (busy : Busy) : Prop where
  apart : busy.calls.Nodup
  past : ∀ protocol nonce, (protocol, nonce) ∈ busy.calls → nonce < (busy.world.memory protocol).stores

theorem numbered_of_idle (world : World) : Numbered { world } where
  apart := List.nodup_nil
  past _ _ begun := (List.not_mem_nil begun).elim

theorem Numbered.call {busy : Busy} (numbered : busy.Numbered) (protocol : Protocol) :
    (busy.call protocol).Numbered where
  apart := List.nodup_cons.mpr ⟨fun begun => (numbered.past _ _ begun).false, numbered.apart⟩
  past other nonce begun := by
    rcases mem_calls_call begun with ⟨rfl, rfl⟩ | begun
    · simp [Busy.call, Memory.call]
    · exact (numbered.past other nonce begun).trans_le (busy.stores_call protocol other)

inductive Performs : Busy → Transcript → Busy → Prop where
  | nothing (busy : Busy) : Performs busy [] busy
  | completes {busy after : Busy} {protocol : Protocol} {nonce : Nat} {object : Bytes}
      {answer : Except Storage.Error String} (begun : (protocol, nonce) ∈ busy.calls)
      (completed : busy.complete protocol nonce object = (answer, after)) :
      Performs busy [⟨.store protocol object, answer⟩] after
  | other {busy : Busy} {operation : Operation} {answer : operation.Answer} {after : World}
      (other : ∀ protocol object, operation ≠ .store protocol object)
      (performed : busy.world.perform operation = (answer, after)) :
      Performs busy [⟨operation, answer⟩] { busy with world := after }

theorem complete_cases {busy after : Busy} {protocol : Protocol} {nonce : Nat} {object : Bytes}
    {answer : Except Storage.Error String} (completed : busy.complete protocol nonce object = (answer, after)) :
    after.calls = busy.calls.erase (protocol, nonce) ∧
      ((∃ err, answer = .error err ∧ after.world = busy.world) ∨
        ∃ uri, uri = Memory.uriOf (busy.world.memory protocol).protocol object nonce ∧ answer = .ok uri ∧
          after.world = busy.world.setMemory protocol ((busy.world.memory protocol).insert uri object)) := by
  unfold complete at completed
  rcases (busy.world.memory protocol).complete_cases nonce object with ⟨err, failed⟩ | stored
  · rw [failed] at completed
    cases completed
    exact ⟨rfl, .inl ⟨err, rfl, World.setMemory_memory _ _⟩⟩
  · rw [stored] at completed
    cases completed
    exact ⟨rfl, .inr ⟨_, rfl, rfl, rfl⟩⟩

theorem complete_call (busy : Busy) (protocol : Protocol) (object : Bytes) :
    (busy.call protocol).complete protocol (busy.world.memory protocol).stores object =
      ((busy.world.store protocol object).1, { busy with world := (busy.world.store protocol object).2 }) := by
  have numbered : (busy.call protocol).world.memory protocol = (busy.world.memory protocol).call.2 :=
    World.memory_setMemory_self _ _ _
  have replaced (memory : Memory) :
      (busy.call protocol).world.setMemory protocol memory = busy.world.setMemory protocol memory :=
    World.setMemory_setMemory _ _ _ _
  have ended : (busy.call protocol).calls.erase (protocol, (busy.world.memory protocol).stores) = busy.calls :=
    List.erase_cons_head ..
  rw [World.store, Memory.store_eq]
  simp only [complete, numbered, replaced, ended]
  rfl

theorem performs_of_perform {busy : Busy} {operation : Operation} {answer : operation.Answer} {after : World}
    (performed : busy.world.perform operation = (answer, after)) :
    Performs busy [⟨operation, answer⟩] { busy with world := after } ∨
      ∃ protocol, Performs (busy.call protocol) [⟨operation, answer⟩] { busy with world := after } := by
  cases operation with
  | store protocol object =>
    have completed := busy.complete_call protocol object
    have stored : busy.world.store protocol object = (answer, after) := performed
    rw [stored] at completed
    exact .inr ⟨protocol, .completes List.mem_cons_self completed⟩
  | chain | prove | dial | retrieve => exact .inl (.other (fun _ _ => nofun) performed)

end Busy

namespace Event

def stored? : Event → Option String
  | ⟨.store .., .ok uri⟩ => some uri
  | _ => none

theorem stored?_eq_some {event : Event} {uri : String} :
    event.stored? = some uri ↔ ∃ protocol object, event = ⟨.store protocol object, .ok uri⟩ := by
  constructor
  · intro stored
    obtain ⟨operation, answer⟩ := event
    cases operation with
    | store protocol object =>
      cases answer with
      | ok target =>
        cases stored
        exact ⟨protocol, object, rfl⟩
      | error err => cases stored
    | _ => cases stored
  · rintro ⟨protocol, object, rfl⟩
    rfl

end Event

namespace Transcript

def stored (heard : Transcript) : List String := heard.filterMap Event.stored?

theorem mem_stored {heard : Transcript} {uri : String} :
    uri ∈ heard.stored ↔ ∃ protocol object, ⟨.store protocol object, .ok uri⟩ ∈ heard := by
  simp only [stored, List.mem_filterMap, Event.stored?_eq_some]
  constructor
  · rintro ⟨_, member, protocol, object, rfl⟩
    exact ⟨protocol, object, member⟩
  · rintro ⟨protocol, object, member⟩
    exact ⟨_, member, protocol, object, rfl⟩

@[simp] theorem stored_append (heard later : Transcript) : stored (heard ++ later) = heard.stored ++ later.stored :=
  List.filterMap_append

theorem stored_singleton {event : Event} (other : event.stored? = none) : stored [event] = [] :=
  List.filterMap_cons_none other

end Transcript

/-- The networks hold what was stored and nothing else, and no uri was given twice or can still be given by a call
that is under way. -/
structure Shelved (busy : Busy) (told : Transcript) : Prop where
  proper : busy.world.Proper
  apart : busy.calls.Nodup
  numbered : ∀ protocol nonce, (protocol, nonce) ∈ busy.calls → nonce < (busy.world.memory protocol).stores
  named : ∀ protocol object uri, ⟨.store protocol object, .ok uri⟩ ∈ told →
    ∃ nonce < (busy.world.memory protocol).stores, uri = Memory.uriOf protocol object nonce ∧
      (protocol, nonce) ∉ busy.calls
  distinct : told.stored.Nodup
  held : ∀ protocol uri object,
    busy.world.object? protocol uri = some object ↔ ⟨.store protocol object, .ok uri⟩ ∈ told

namespace Shelved

variable {busy after : Busy} {told heard : Transcript} (shelved : Shelved busy told)
include shelved

theorem undisturbed {world : World} (still : World.Undisturbed busy.world world) :
    Shelved { busy with world } told where
  proper protocol := (still.protocol protocol).trans (shelved.proper protocol)
  apart := shelved.apart
  numbered protocol nonce begun := by
    change nonce < (world.memory protocol).stores
    rw [still.stores]
    exact shelved.numbered protocol nonce begun
  named protocol object uri member := by
    change ∃ nonce < (world.memory protocol).stores, _
    rw [still.stores]
    exact shelved.named protocol object uri member
  distinct := shelved.distinct
  held protocol uri object := by
    rw [still.object?]
    exact shelved.held protocol uri object

theorem snoc {event : Event} (other : event.stored? = none) : Shelved busy (told ++ [event]) := by
  have same (protocol : Protocol) (object : Bytes) (uri : String) :
      (⟨.store protocol object, .ok uri⟩ : Event) ∈ told ++ [event] ↔ ⟨.store protocol object, .ok uri⟩ ∈ told := by
    rw [List.mem_append, List.mem_singleton, or_iff_left]
    rintro rfl
    cases other
  obtain ⟨proper, apart, numbered, named, distinct, held⟩ := shelved
  refine ⟨proper, apart, numbered, fun protocol object uri member => ?_, ?_, fun protocol uri object => ?_⟩
  · exact named protocol object uri ((same protocol object uri).mp member)
  · rwa [Transcript.stored_append, Transcript.stored_singleton other, List.append_nil]
  · rw [same]
    exact held protocol uri object

theorem calls_numbered : busy.Numbered := ⟨shelved.apart, shelved.numbered⟩

theorem call (protocol : Protocol) : Shelved (busy.call protocol) told where
  proper other := (busy.memory_call Memory.protocol rfl other).trans (shelved.proper other)
  apart := (shelved.calls_numbered.call protocol).apart
  numbered := (shelved.calls_numbered.call protocol).past
  named other object uri member := by
    obtain ⟨nonce, past, named, ended⟩ := shelved.named other object uri member
    refine ⟨nonce, past.trans_le (busy.stores_call protocol other), named, fun begun => ?_⟩
    rcases Busy.mem_calls_call begun with ⟨rfl, rfl⟩ | begun
    · exact past.false
    · exact ended begun
  distinct := shelved.distinct
  held other uri object := by
    rw [busy.object?_call]
    exact shelved.held other uri object

theorem unnamed {protocol other : Protocol} {nonce : Nat} (begun : (protocol, nonce) ∈ busy.calls)
    {object stored : Bytes} : ⟨.store other stored, .ok (Memory.uriOf protocol object nonce)⟩ ∉ told := by
  intro member
  obtain ⟨number, -, named, ended⟩ := shelved.named other stored _ member
  obtain rfl : protocol = other := Protocol.eq_of_uriFor named
  obtain rfl : nonce = number := Memory.nonce_eq_of_uriOf named
  exact ended begun

theorem erase (entry : Protocol × Nat) : Shelved ⟨busy.world, busy.calls.erase entry⟩ told := by
  have fewer : ∀ other ∈ busy.calls.erase entry, other ∈ busy.calls := fun _ => List.mem_of_mem_erase
  obtain ⟨proper, apart, numbered, named, distinct, held⟩ := shelved
  refine ⟨proper, apart.erase _, fun protocol nonce begun => ?_, fun protocol object uri member => ?_, distinct, held⟩
  · exact numbered protocol nonce (fewer _ begun)
  · obtain ⟨nonce, past, same, ended⟩ := named protocol object uri member
    exact ⟨nonce, past, same, fun begun => ended (fewer _ begun)⟩

theorem insert {protocol : Protocol} {nonce : Nat} {object : Bytes} {uri : String}
    (past : nonce < (busy.world.memory protocol).stores) (ended : (protocol, nonce) ∉ busy.calls)
    (named : uri = Memory.uriOf protocol object nonce) (fresh : uri ∉ told.stored) :
    Shelved ⟨busy.world.setMemory protocol ((busy.world.memory protocol).insert uri object), busy.calls⟩
      (told ++ [⟨.store protocol object, .ok uri⟩]) := by
  have stores := World.memory_setMemory_congr Memory.stores busy.world
    ((busy.world.memory protocol).insert uri object) rfl
  constructor
  case proper =>
    intro other
    have still := World.memory_setMemory_congr Memory.protocol busy.world
      ((busy.world.memory protocol).insert uri object) rfl other
    exact still.trans (shelved.proper other)
  case apart => exact shelved.apart
  case numbered =>
    intro other number begun
    rw [stores]
    exact shelved.numbered other number begun
  case named =>
    intro other stored target member
    rw [stores]
    rcases List.mem_append.mp member with earlier | last
    · exact shelved.named other stored target earlier
    · cases List.mem_singleton.mp last
      exact ⟨nonce, past, named, ended⟩
  case distinct =>
    rw [Transcript.stored_append]
    exact List.nodup_append_comm.mp (List.nodup_cons.mpr ⟨fresh, shelved.distinct⟩)
  case held =>
    intro other target stored
    rw [World.object?_insert, List.mem_append, List.mem_singleton, ← shelved.held other target stored]
    by_cases here : other = protocol ∧ target = uri
    · obtain ⟨rfl, rfl⟩ := here
      have absent : busy.world.object? other target ≠ some stored := fun found =>
        fresh (Transcript.mem_stored.mpr ⟨other, stored, (shelved.held other target stored).mp found⟩)
      simp [absent, eq_comm]
    · rw [if_neg here, or_iff_left]
      intro last
      cases last
      exact here ⟨rfl, rfl⟩

theorem completes {protocol : Protocol} {nonce : Nat} {object : Bytes} {answer : Except Storage.Error String}
    (begun : (protocol, nonce) ∈ busy.calls) (completed : busy.complete protocol nonce object = (answer, after)) :
    Shelved after (told ++ [⟨.store protocol object, answer⟩]) := by
  obtain ⟨world, calls⟩ := after
  obtain ⟨rfl, outcome⟩ := Busy.complete_cases completed
  -- The number is free again before the object is put down, and nothing was stored under it while it was taken.
  have ended := shelved.erase (protocol, nonce)
  rcases outcome with ⟨err, rfl, rfl⟩ | ⟨uri, named, rfl, rfl⟩
  · exact ended.snoc rfl
  · rw [shelved.proper protocol] at named
    refine ended.insert (shelved.numbered _ _ begun) shelved.apart.not_mem_erase named fun stored => ?_
    obtain ⟨other, kept, member⟩ := Transcript.mem_stored.mp stored
    exact shelved.unnamed begun (named ▸ member)

/-- No operation, and no call that ends, takes an object away or gives a uri again. -/
theorem performs (performs : Busy.Performs busy heard after) : Shelved after (told ++ heard) := by
  cases performs with
  | nothing => rwa [List.append_nil]
  | completes begun completed => exact shelved.completes begun completed
  | @other operation answer world other performed =>
    have quiet : Event.stored? ⟨operation, answer⟩ = none := by
      refine Option.eq_none_iff_forall_ne_some.mpr fun uri stored => ?_
      obtain ⟨protocol, object, same⟩ := Event.stored?_eq_some.mp stored
      exact other protocol object (congrArg Event.operation same)
    exact (shelved.undisturbed (World.undisturbed_perform performed other)).snoc quiet

theorem holds {protocol : Protocol} {object : Bytes} {uri : String}
    (stored : ⟨.store protocol object, .ok uri⟩ ∈ told) : (busy.world.memory protocol).Holds uri object := by
  obtain ⟨nonce, past, named, -⟩ := shelved.named protocol object uri stored
  refine ⟨⟨nonce, past, ?_⟩, (shelved.held protocol uri object).mpr stored⟩
  rw [shelved.proper protocol]
  exact named

theorem uriFor {protocol : Protocol} {object : Bytes} {uri : String}
    (stored : ⟨.store protocol object, .ok uri⟩ ∈ told) : ∃ id, uri = protocol.uriFor id := by
  obtain ⟨nonce, -, named, -⟩ := shelved.named protocol object uri stored
  exact ⟨Memory.idOf object nonce, named⟩

end Shelved

structure World.Empty (world : World) : Prop where
  proper : world.Proper
  objects : ∀ protocol, (world.memory protocol).objects = []
  published : world.ledger.published = []

theorem World.Empty.shelved {world : World} (empty : world.Empty) : Shelved { world } [] where
  proper := empty.proper
  apart := List.nodup_nil
  numbered _ _ begun := (List.not_mem_nil begun).elim
  named _ _ _ member := (List.not_mem_nil member).elim
  distinct := List.nodup_nil
  held protocol uri object := by simp [World.object?, empty.objects, Table.get?]

end Availability
