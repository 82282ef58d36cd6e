import Availability.Proofs.Storage.Call

namespace Availability

open Storage (Memory)

namespace Busy

inductive Run : Busy → Transcript → Busy → Prop where
  | done (busy : Busy) : Run busy [] busy
  | calls {busy after : Busy} {told : Transcript} (protocol : Protocol) (others : Run (busy.call protocol) told after) :
      Run busy told after
  | performs {busy between after : Busy} {heard told : Transcript} (performs : Performs busy heard between)
      (others : Run between told after) : Run busy (heard ++ told) after

structure Placed (busy : Busy) (protocol : Protocol) (uri : String) (object : Bytes) : Prop where
  named : ∃ nonce < (busy.world.memory protocol).stores, (protocol, nonce) ∉ busy.calls ∧
    uri = Memory.uriOf (busy.world.memory protocol).protocol object nonce
  found : busy.world.object? protocol uri = some object

variable {busy after : Busy} {heard told : Transcript} {protocol other : Protocol} {nonce : Nat}
  {object stored : Bytes} {answer : Except Storage.Error String} {uri : String}

theorem stores_complete (completed : busy.complete protocol nonce object = (answer, after)) (other : Protocol) :
    (after.world.memory other).stores = (busy.world.memory other).stores ∧
      (after.world.memory other).protocol = (busy.world.memory other).protocol := by
  obtain ⟨-, ⟨err, -, same⟩ | ⟨uri, -, -, same⟩⟩ := complete_cases completed
  · rw [same]
    exact ⟨rfl, rfl⟩
  · have kept {α : Type} (view : Memory → α) (unchanged : view ((busy.world.memory protocol).insert uri object) =
        view (busy.world.memory protocol)) : view (after.world.memory other) = view (busy.world.memory other) :=
      same ▸ World.memory_setMemory_congr view busy.world _ unchanged other
    exact ⟨kept Memory.stores rfl, kept Memory.protocol rfl⟩

theorem Numbered.performs (numbered : busy.Numbered) (performs : Performs busy heard after) : after.Numbered := by
  cases performs with
  | nothing => exact numbered
  | completes begun completed =>
    have calls := (complete_cases completed).1
    constructor
    · exact calls ▸ numbered.apart.erase _
    · intro other nonce underway
      rw [(stores_complete completed other).1]
      exact numbered.past other nonce (List.mem_of_mem_erase (calls ▸ underway))
  | other unrelated performed =>
    refine ⟨numbered.apart, fun other nonce begun => ?_⟩
    exact (World.undisturbed_perform performed unrelated).stores other ▸ numbered.past other nonce begun

namespace Placed

theorem call (placed : busy.Placed other uri stored) (protocol : Protocol) :
    (busy.call protocol).Placed other uri stored := by
  obtain ⟨nonce, past, ended, named⟩ := placed.named
  refine ⟨⟨nonce, past.trans_le (busy.stores_call protocol other), fun begun => ?_, ?_⟩, ?_⟩
  · rcases mem_calls_call begun with ⟨rfl, rfl⟩ | begun
    · exact past.false
    · exact ended begun
  · rw [busy.memory_call Memory.protocol rfl]
    exact named
  · rw [busy.object?_call]
    exact placed.found

/-- Two calls that have ended never share a uri, as they had different numbers. -/
theorem completes (placed : busy.Placed other uri stored) (begun : (protocol, nonce) ∈ busy.calls)
    (completed : busy.complete protocol nonce object = (answer, after)) : after.Placed other uri stored := by
  obtain ⟨number, past, ended, named⟩ := placed.named
  obtain ⟨calls, outcome⟩ := complete_cases completed
  obtain ⟨stores, sameProtocol⟩ := stores_complete completed other
  refine ⟨⟨number, stores ▸ past, fun underway => ended (List.mem_of_mem_erase (calls ▸ underway)), ?_⟩, ?_⟩
  · rw [sameProtocol]
    exact named
  · rcases outcome with ⟨err, -, same⟩ | ⟨target, target_eq, -, same⟩
    · rw [same]
      exact placed.found
    · rw [same, World.object?_insert, if_neg]
      · exact placed.found
      · rintro ⟨rfl, rfl⟩
        obtain rfl : number = nonce := Memory.nonce_eq_of_uriOf (named.symm.trans target_eq)
        exact ended begun

theorem performs (placed : busy.Placed other uri stored) (performs : Performs busy heard after) :
    after.Placed other uri stored := by
  cases performs with
  | nothing => exact placed
  | completes begun completed => exact placed.completes begun completed
  | other unrelated performed =>
    have still := World.undisturbed_perform performed unrelated
    obtain ⟨nonce, past, ended, named⟩ := placed.named
    refine ⟨⟨nonce, still.stores other ▸ past, ended, ?_⟩, ?_⟩
    · rw [still.protocol]
      exact named
    · rw [still.object?]
      exact placed.found

theorem run (placed : busy.Placed other uri stored) (run : Run busy told after) : after.Placed other uri stored := by
  induction run with
  | done => exact placed
  | calls protocol _ ih => exact ih (placed.call protocol)
  | performs performs _ ih => exact ih (placed.performs performs)

end Placed

theorem placed_of_completes (numbered : busy.Numbered) (begun : (protocol, nonce) ∈ busy.calls)
    (completed : busy.complete protocol nonce object = (.ok uri, after)) : after.Placed protocol uri object := by
  obtain ⟨calls, ⟨err, failed, -⟩ | ⟨_, named, same, world⟩⟩ := complete_cases completed
  · cases failed
  cases same
  obtain ⟨stores, sameProtocol⟩ := stores_complete completed protocol
  refine ⟨⟨nonce, stores ▸ numbered.past _ _ begun, calls ▸ numbered.apart.not_mem_erase, ?_⟩, ?_⟩
  · rw [sameProtocol]
    exact named
  · rw [world, World.object?_insert, if_pos ⟨rfl, rfl⟩]

/-- Whatever is stored stays at its uri, whichever calls end before and after it. -/
theorem Run.placed (run : Run busy told after) (numbered : busy.Numbered)
    (stored : ⟨.store protocol object, .ok uri⟩ ∈ told) : after.Placed protocol uri object := by
  induction run with
  | done => exact (List.not_mem_nil stored).elim
  | calls protocol _ ih => exact ih (numbered.call protocol) stored
  | performs performs others ih =>
    rcases List.mem_append.mp stored with here | later
    · cases performs with
      | nothing => exact (List.not_mem_nil here).elim
      | completes begun completed =>
        cases List.mem_singleton.mp here
        exact (placed_of_completes numbered begun completed).run others
      | other unrelated _ =>
        cases List.mem_singleton.mp here
        exact (unrelated _ _ rfl).elim
    · exact ih (numbered.performs performs) later

end Busy

end Availability
