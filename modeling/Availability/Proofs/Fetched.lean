import Availability.Proofs.Steps
import Availability.Proofs.Store

namespace Availability

open Program (Path)

def Reported (limit : Duration) (targets : List (Except Storage.Error (Protocol × String)))
    (finished : List (Nat × Except Storage.Error Bytes)) (heard : Transcript) : Prop :=
  ∀ position answer, (position, answer) ∈ finished → ∃ target, targets[position]? = some target ∧
    ∀ protocol uri, target = .ok (protocol, uri) → ⟨.retrieve protocol uri limit, answer⟩ ∈ heard

theorem Reported.mono {limit : Duration} {targets : List (Except Storage.Error (Protocol × String))}
    {finished : List (Nat × Except Storage.Error Bytes)} {heard more : Transcript}
    (reported : Reported limit targets finished heard) (part : heard ⊆ more) :
    Reported limit targets finished more := by
  intro position answer member
  obtain ⟨target, located, heard_from⟩ := reported position answer member
  exact ⟨target, located, fun protocol uri owned => part (heard_from protocol uri owned)⟩

namespace Program

theorem Path.of_retrieveEach {limit : Duration} {entries : List (Nat × Except Storage.Error (Protocol × String))}
    {finished : List (Nat × Except Storage.Error Bytes)} {heard : Transcript}
    (path : Path (retrieveEach limit entries) heard (.done finished)) :
    finished.map (·.1) = entries.map (·.1) ∧ ∀ position answer, (position, answer) ∈ finished →
      ∃ target, (position, target) ∈ entries ∧
        ∀ protocol uri, target = .ok (protocol, uri) → ⟨.retrieve protocol uri limit, answer⟩ ∈ heard := by
  induction entries generalizing finished heard with
  | nil =>
    obtain ⟨-, same⟩ := Path.of_done path
    cases same
    exact ⟨rfl, fun _ _ member => (List.not_mem_nil member).elim⟩
  | cons entry rest ih =>
    obtain ⟨position, err | ⟨protocol, uri⟩⟩ := entry
    · obtain ⟨others, first, second, rfl, each, ended⟩ := Path.done_of_bind path
      obtain ⟨rfl, same⟩ := Path.of_done ended
      cases same
      obtain ⟨positions, reported⟩ := ih each
      refine ⟨congrArg (position :: ·) positions, fun other answer member => ?_⟩
      rcases List.mem_cons.mp member with same | later
      · cases same
        exact ⟨.error err, List.mem_cons_self, fun _ _ located => nomatch located⟩
      · obtain ⟨target, queued, known⟩ := reported other answer later
        exact ⟨target, List.mem_cons_of_mem _ queued, fun protocol uri located =>
          List.mem_append_left _ (known protocol uri located)⟩
    · obtain ⟨answered, later, rfl, fetching⟩ := Path.done_of_perform path
      obtain ⟨others, first, second, rfl, each, ended⟩ := Path.done_of_bind fetching
      obtain ⟨rfl, same⟩ := Path.of_done ended
      cases same
      obtain ⟨positions, reported⟩ := ih each
      refine ⟨congrArg (position :: ·) positions, fun other answer member => ?_⟩
      rcases List.mem_cons.mp member with same | later
      · cases same
        refine ⟨.ok (protocol, uri), List.mem_cons_self, fun _ _ located => ?_⟩
        cases located
        exact List.mem_cons_self
      · obtain ⟨target, queued, known⟩ := reported other answer later
        exact ⟨target, List.mem_cons_of_mem _ queued, fun protocol uri located =>
          List.mem_cons_of_mem _ (List.mem_append_left _ (known protocol uri located))⟩

theorem Path.of_retrieveAll {α : Type} {targets : List (Except Storage.Error (Protocol × String))} {limit : Duration}
    {next : List (Except Storage.Error Bytes) → Program α} {heard : Transcript} {value : α}
    (path : Path (.retrieveAll targets limit next) heard (.done value)) :
    ∃ finished first second, heard = first ++ second ∧ (finished.map (·.1)).Perm (List.range targets.length) ∧
      Reported limit targets finished first ∧
        Path (next ((Indexed.collect finished).map (·.2))) second (.done value) := by
  cases path with
  | step taken others =>
    cases taken with
    | retrieveAll _ _ _ order =>
      obtain ⟨finished, first, second, rfl, each, rest⟩ := Path.done_of_bind others
      obtain ⟨positions, reported⟩ := Path.of_retrieveEach each
      refine ⟨finished, first, second, rfl, ?_, fun position answer member => ?_, rest⟩
      · rw [positions, Order.queue_positions_eq]
        exact order.complete
      · obtain ⟨target, queued, known⟩ := reported position answer member
        exact ⟨target, Order.mem_queue.mp queued, known⟩

end Program

namespace Store

variable {store : Store} {heard : Transcript}

theorem path_retrieve {uri : String} {protocol : Protocol} {result : Except Storage.Error Bytes}
    (known : store.registry.backendForUri uri = .ok protocol)
    (path : Path (store.retrieve uri).run heard (.done result)) :
    heard = [⟨.retrieve protocol uri store.retrieveTimeout, result⟩] := by
  unfold retrieve at path
  rw [known] at path
  have path : Path (.perform (.retrieve protocol uri store.retrieveTimeout) .done) heard (.done result) := path
  obtain ⟨answer, later, rfl, ended⟩ := Path.done_of_perform path
  obtain ⟨rfl, same⟩ := Path.of_done ended
  cases same
  rfl

theorem path_fetchMetadata {uri : String} {protocol : Protocol} {result : Except Storage.Error Metadata}
    (known : store.registry.backendForUri uri = .ok protocol)
    (path : Path (store.fetchMetadata uri).run heard (.done result)) :
    ∃ answer, heard = [⟨.retrieve protocol uri store.retrieveTimeout, answer⟩] ∧
      result = answer.bind fun bytes => (Metadata.ofBytes bytes).mapError .wire := by
  unfold fetchMetadata at path
  rcases Attempt.path_done_of_bind path with ⟨err, rfl, failed⟩ | ⟨bytes, first, second, rfl, found, ended⟩
  · exact ⟨.error err, path_retrieve known failed, rfl⟩
  · obtain ⟨rfl, same⟩ := Path.of_done ended
    cases same
    rw [List.append_nil]
    exact ⟨.ok bytes, path_retrieve known found, rfl⟩

theorem path_fetchShards {shardUris : List String} {result : Except Storage.Error (List (Nat × Bytes))}
    (path : Path (store.fetchShards shardUris (List.range shardUris.length) .tolerate).run heard (.done result)) :
    ∃ finished, (finished.map (·.1)).Perm (List.range shardUris.length) ∧
      result = .ok (Indexed.succeeded (Indexed.collect finished)) ∧
        Reported store.retrieveTimeout (shardUris.map store.target) finished heard := by
  rw [fetchShards_eq] at path
  have path : Path (.retrieveAll (shardUris.map store.target) store.retrieveTimeout fun answers =>
      .done (Indexed.join .tolerate ((List.range shardUris.length).zip answers))) heard (.done result) := path
  obtain ⟨finished, first, second, rfl, complete, reported, ended⟩ := Path.of_retrieveAll path
  obtain ⟨rfl, same⟩ := Path.of_done ended
  rw [List.length_map] at complete
  rw [← Indexed.collect_positions complete, ← List.unzip_fst, ← List.unzip_snd, List.zip_unzip,
    Indexed.join_tolerate] at same
  rw [List.append_nil]
  exact ⟨finished, complete, Program.done.inj same, reported⟩

end Store

end Availability
