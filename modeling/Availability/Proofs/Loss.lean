import Availability.Proofs.Lookup
import Availability.Proofs.Publish.Acceptance

namespace Availability

open World (environment)

theorem lookup_target {reader : Store} {protocol : Protocol} {world : World}
    (backend : protocol ∈ reader.registry) (proper : world.Proper)
    (prompt : (world.memory protocol).latency.nanoseconds ≤ reader.retrieveTimeout.nanoseconds) {uri : String}
    (owned : ∃ id, id ≠ "" ∧ uri = protocol.uriFor id) :
    reader.registry.backendForUri uri = .ok protocol ∧
      world.lookup reader.retrieveTimeout (reader.target uri) =
        match world.object? protocol uri with
        | some object => .ok object
        | none => .error (.notFound uri) := by
  obtain ⟨id, filled, rfl⟩ := owned
  have known := Storage.backendForUri_uriFor backend id
  refine ⟨known, ?_⟩
  have looked := Storage.Memory.lookup_uriFor prompt filled
  rw [proper protocol] at looked
  rw [Store.target, known]
  exact looked

theorem getElem?_eq_getD {α : Type} {list : List α} {index : Nat} (default : α) (inside : index < list.length) :
    list[index]? = some (list.getD index default) := by
  simp [List.getElem?_eq_getElem inside]

theorem ne_getD_of_nodup {metadataUri : String} {shardUris : List String} (distinct : (metadataUri :: shardUris).Nodup)
    {index : Nat} (inside : index < shardUris.length) : metadataUri ≠ shardUris.getD index "" := by
  intro same
  have member := List.mem_of_getElem? (getElem?_eq_getD "" inside)
  rw [← same] at member
  exact (List.nodup_cons.mp distinct).1 member

/-- A later world in which readers find all that a publish left behind, except that a shard may be gone or
replaced by bytes that miss its commitment. -/
structure Loss (reader : Store) (protocol : Protocol) (metadataUri : String) (metadata : Metadata)
    (before after : World) : Prop where
  backend : protocol ∈ reader.registry
  proper : after.Proper
  prompt : (after.memory protocol).latency.nanoseconds ≤ reader.retrieveTimeout.nanoseconds
  answered : after.fault? .publishedData = none
  described : after.object? protocol metadataUri = before.object? protocol metadataUri
  recorded : after.ledger.published.get? metadataUri = before.ledger.published.get? metadataUri
  shards : ∀ uri ∈ metadata.shardUris,
    after.object? protocol uri = before.object? protocol uri ∨ after.object? protocol uri = none ∨
      ∃ original other, before.object? protocol uri = some original ∧ after.object? protocol uri = some other ∧
        doubleHash other ≠ doubleHash original

def intact (protocol : Protocol) (metadata : Metadata) (before after : World) : List Nat :=
  (List.range metadata.shardCount).filter fun index =>
    after.object? protocol (metadata.shardUris.getD index "") =
      before.object? protocol (metadata.shardUris.getD index "")

namespace Loss

variable {reader : Store} {protocol : Protocol} {metadata : Metadata} {shards : List Bytes}
  {publication : Publication} {before after later : World}

section

variable (standing : Publish.Standing before protocol metadata shards publication)
  (loss : Loss reader protocol publication.metadataUri metadata before after)
include standing loss

theorem lookup_shard {index : Nat} (inside : index < metadata.shardCount) :
    before.object? protocol (metadata.shardUris.getD index "") = some (shards.getD index []) ∧
      after.lookup reader.retrieveTimeout (reader.target (metadata.shardUris.getD index "")) =
        match after.object? protocol (metadata.shardUris.getD index "") with
        | some object => .ok object
        | none => .error (.notFound (metadata.shardUris.getD index "")) := by
  have listed : metadata.shardUris[index]? = some (metadata.shardUris.getD index "") := getElem?_eq_getD "" inside
  have placed : shards[index]? = some (shards.getD index []) := getElem?_eq_getD [] (standing.listed ▸ inside)
  refine ⟨standing.stored listed placed, ?_⟩
  exact (lookup_target loss.backend loss.proper loss.prompt
    (standing.owned _ (List.mem_cons_of_mem _ (List.mem_of_getElem? listed)))).2

theorem matching_shards :
    (after.shardsAt reader metadata).filter
        (fun (index, shard) => (shards.map doubleHash)[index]? = some (doubleHash shard)) =
      (intact protocol metadata before after).map fun index => (index, shards.getD index []) := by
  have committed {index : Nat} (inside : index < metadata.shardCount) :
      (shards.map doubleHash)[index]? = some (doubleHash (shards.getD index [])) := by
    rw [List.getElem?_map, getElem?_eq_getD [] (standing.listed ▸ inside)]
    rfl
  apply Indexed.filter_succeeded
  · intro index member kept
    have inside := List.mem_range.mp member
    obtain ⟨original, looked⟩ := lookup_shard standing loss inside
    rw [decide_eq_true_iff] at kept
    rw [looked, kept, original]
    exact ⟨rfl, decide_eq_true (committed inside)⟩
  · intro index member lost other fetched
    have inside := List.mem_range.mp member
    obtain ⟨original, looked⟩ := lookup_shard standing loss inside
    rw [decide_eq_false_iff_not] at lost
    have listed := List.mem_of_getElem? (getElem?_eq_getD "" inside)
    rw [looked] at fetched
    rcases loss.shards _ listed with same | gone | ⟨stored, replaced, was, now, differs⟩
    · exact absurd same lost
    · rw [gone] at fetched
      cases fetched
    · rw [now] at fetched
      cases fetched
      obtain rfl := Option.some.inj (was.symm.trans original)
      rw [decide_eq_false_iff_not, committed inside]
      exact fun same => differs (Option.some.inj same).symm

theorem metadataAt_after : after.metadataAt reader publication.metadataUri = .ok metadata := by
  obtain ⟨bytes, found, read⟩ := standing.described
  obtain ⟨-, looked⟩ := lookup_target loss.backend loss.proper loss.prompt
    (standing.owned publication.metadataUri List.mem_cons_self)
  rw [loss.described, found] at looked
  rw [World.metadataAt, looked]
  simp only [Except.bind, read]
  rfl

theorem commitmentsAt_after (committed : publication.shardDoubleHashes = shards.map doubleHash) :
    after.commitmentsAt publication.metadataUri metadata.shardCount = some (shards.map doubleHash) := by
  obtain ⟨record, published, hashes⟩ := standing.recorded
  have total : (shards.map doubleHash).length = metadata.shardCount := by
    rw [List.length_map]
    exact standing.listed.symm
  rw [World.commitmentsAt, loss.answered, loss.recorded, published]
  simp only [hashes, committed, total, if_true]

end

/-- The verdict on the commitment counts the intact shards. -/
theorem decide_after (order : World → (workers : Nat) → Order workers)
    (standing : Publish.Standing before protocol metadata shards publication)
    (loss : Loss reader protocol publication.metadataUri metadata before after) (task : Audit.Task)
    (uri : task.metadataUri = publication.metadataUri) (digests : task.shardDoubleHashes = shards.map doubleHash)
    (described : task.Described metadata) :
    ((Audit.decide reader task).runIn (environment order) after).1 =
      Audit.judge task (task.shardCount - task.parityShardCount.toNat)
        ((intact protocol metadata before after).map fun index => (index, shards.getD index [])) := by
  obtain ⟨_, decided, -⟩ := Audit.decide_looked_up order reader task after
  rw [decided]
  unfold Audit.verdictIn
  rw [uri, metadataAt_after standing loss]
  simp only [Audit.requirement_of_described described]
  have matching := matching_shards standing loss
  rw [← digests] at matching
  exact congrArg (Audit.judge task _) matching

/-- What is retrieved depends on how many shards are intact, and on nothing else. -/
theorem retrieve_after (order : World → (workers : Nat) → Order workers) {blob : Bytes}
    {dataShardCount parityShardCount : Nat} {encoded : Erasure.Encoded}
    (standing : Publish.Standing before protocol metadata encoded.shards publication)
    (loss : Loss reader protocol publication.metadataUri metadata before after) (positive : 0 < dataShardCount)
    (few : dataShardCount + parityShardCount ≤ Erasure.maxTotalShards)
    (encodes : Erasure.encode blob dataShardCount parityShardCount = .ok encoded)
    (parity : metadata.parityShardCount.toNat = parityShardCount)
    (size : metadata.recoveredDataSize.toNat = blob.length)
    (whole : recoveredDataHash blob = metadata.recoveredDataHash)
    (committed : publication.shardDoubleHashes = encoded.shards.map doubleHash) :
    (Attempt.runIn (environment order) (Retrieve.retrieve reader publication.metadataUri) after).1 =
      if (intact protocol metadata before after).length < dataShardCount then
        .error (.insufficientShards (intact protocol metadata before after).length dataShardCount)
      else .ok blob := by
  have total : encoded.shards.length = dataShardCount + parityShardCount := Erasure.length_shards positive few encodes
  have count : metadata.shardCount = dataShardCount + parityShardCount := standing.listed.trans total
  have required : metadata.dataShardCount? = some dataShardCount := by
    unfold Metadata.dataShardCount? dataShardCount?
    rw [count, parity, if_pos (by omega), Nat.add_sub_cancel]
  obtain ⟨_, retrieved, -⟩ := Retrieve.retrieve_looked_up order reader publication.metadataUri after
  have usable := (Retrieve.present_place (some (encoded.shards.map doubleHash))
    (after.shardsAt_ascending reader metadata) fun entry => World.shardsAt_inside).trans (matching_shards standing loss)
  have available := congrArg List.length usable
  rw [List.length_map] at available
  rw [retrieved]
  unfold Retrieve.blobIn
  rw [metadataAt_after standing loss]
  simp only [required, commitmentsAt_after standing loss committed]
  split
  · rename_i short
    rw [← available] at short ⊢
    exact Retrieve.rebuild_of_few short
  · rename_i enough
    rw [← available] at enough
    refine Retrieve.rebuild_of_decoded (not_lt.mp enough) ?_ whole
    rw [size]
    apply Erasure.decode_of_held positive few encodes
    · rw [Retrieve.length_place, count]
    · intro index shard found
      have member := Erasure.mem_present.mpr found
      rw [usable] at member
      obtain ⟨position, held, same⟩ := List.mem_map.mp member
      cases same
      have inside : index < metadata.shardCount := List.mem_range.mp (List.mem_of_mem_filter held)
      exact getElem?_eq_getD [] (by omega)
    · exact not_lt.mp enough

theorem ledger {metadataUri : String} (loss : Loss reader protocol metadataUri metadata before after)
    {ledger : Chain.Ledger} (published : ledger.published = after.ledger.published) :
    Loss reader protocol metadataUri metadata before { after with ledger } where
  backend := loss.backend
  proper := loss.proper.ledger ledger
  prompt := by
    rw [World.memory_ledger]
    exact loss.prompt
  answered := loss.answered
  described := by
    rw [World.object?, World.memory_ledger]
    exact loss.described
  recorded := by
    rw [published]
    exact loss.recorded
  shards := by
    intro uri member
    rw [World.object?, World.memory_ledger]
    exact loss.shards uri member

end Loss

/-- Whatever happens to the shards of a publish, retrieval and audit count the same intact ones, and both
succeed when they are as many as the data shards. -/
theorem retrieve_and_decide_agree {order : World → (workers : Nat) → Order workers} {publisher : Publish.Publisher}
    {blob : Bytes} {dataShardCount parityShardCount : UInt64} {tag : String} {published : Publish.Published}
    {world before : World} (proper : world.Proper) (small : blob.length < UInt64.size)
    (ran : Attempt.runIn (environment order)
      (Publish.publish publisher blob dataShardCount parityShardCount tag) world = (.ok published, before)) :
    ∃ protocol metadata shards publication task,
      Storage.protocolOfTag tag = .ok protocol ∧ publication.metadataUri = published.metadataUri ∧
      Publish.Deposit before protocol metadata shards publication ∧
      shards.length = dataShardCount.toNat + parityShardCount.toNat ∧
      Audit.Task.ofMessage? (.publishData publication) = some task ∧
      ∀ (reader : Store) (after : World) (order : World → (workers : Nat) → Order workers),
        Loss reader protocol published.metadataUri metadata before after →
        let held := intact protocol metadata before after
        let evidence : Audit.Evidence :=
          ⟨dataShardCount.toNat + parityShardCount.toNat, held.map fun index => (index, shards.getD index [])⟩
        let retrieved := (Attempt.runIn (environment order) (Retrieve.retrieve reader published.metadataUri) after).1
        let verdict := ((Audit.decide reader task).runIn (environment order) after).1
        (dataShardCount.toNat ≤ held.length → retrieved = .ok blob ∧ verdict = .valid evidence) ∧
        (held.length < dataShardCount.toNat →
          retrieved = .error (.insufficientShards held.length dataShardCount.toNat) ∧
            verdict = .fraud (.insufficientValidShards held.length dataShardCount.toNat) evidence) := by
  obtain ⟨protocol, encoded, shardUris, tagged, some_data, few, encodes, deposit⟩ :=
    Publish.publish_deposits proper ran
  have positive : 0 < dataShardCount.toNat := by
    rw [Nat.pos_iff_ne_zero]
    exact fun zero => some_data (UInt64.toNat_inj.mp zero)
  have total := Erasure.length_shards positive few encodes
  let publication := Publish.publicationFor publisher parityShardCount encoded published.metadataUri
  let task : Audit.Task :=
    ⟨published.metadataUri, encoded.shards.map doubleHash, parityShardCount, publisher.dataSourceInfo⟩
  have count : task.shardCount = dataShardCount.toNat + parityShardCount.toNat := by
    change (encoded.shards.map doubleHash).length = _
    rw [List.length_map, total]
  let metadata := Publish.metadataFor blob parityShardCount encoded shardUris
  refine ⟨protocol, metadata, encoded.shards, publication, task, tagged, rfl, deposit, total, rfl, ?_⟩
  intro reader after later loss held evidence retrieved verdict
  have size : metadata.recoveredDataSize.toNat = blob.length := by
    change (UInt64.ofNat blob.length).toNat = blob.length
    exact UInt64.toNat_ofNat_of_lt' small
  have recovered : retrieved =
      if held.length < dataShardCount.toNat then .error (.insufficientShards held.length dataShardCount.toNat)
      else .ok blob := by
    have counted := Loss.retrieve_after later deposit.standing loss positive few encodes rfl size rfl rfl
    exact counted
  have described : task.Described (Publish.metadataFor blob parityShardCount encoded shardUris) := by
    refine ⟨?_, ?_, rfl⟩
    · change parityShardCount.toNat < task.shardCount
      omega
    · exact deposit.listed.trans (total.trans count.symm)
  have judged : verdict = Audit.judge task (task.shardCount - task.parityShardCount.toNat)
      (held.map fun index => (index, encoded.shards.getD index [])) := by
    have counted := Loss.decide_after later deposit.standing loss task rfl rfl described
    exact counted
  have required : task.shardCount - task.parityShardCount.toNat = dataShardCount.toNat := by
    change task.shardCount - parityShardCount.toNat = _
    omega
  rw [required, Audit.judge, List.length_map, count] at judged
  constructor
  · intro enough
    rw [recovered, judged, if_neg (not_lt.mpr enough), if_neg (not_lt.mpr enough)]
    exact ⟨rfl, rfl⟩
  · intro short
    rw [recovered, judged, if_pos short, if_pos short]
    exact ⟨rfl, rfl⟩

def World.without (world : World) (uri : String) : World :=
  { World.blank with
    ledger := world.ledger
    ipfs := { protocol := .ipfs, objects := (world.memory .ipfs).objects.erase uri } }

theorem loss_of_without {metadata : Metadata} {metadataUri uri : String} {before : World} (other : metadataUri ≠ uri) :
    Loss { registry := [.ipfs] } .ipfs metadataUri metadata before (before.without uri) where
  backend := List.mem_singleton_self _
  proper := by
    intro protocol
    cases protocol <;> rfl
  prompt := Nat.zero_le _
  answered := rfl
  described := Table.get?_erase_ne _ other
  recorded := rfl
  shards := by
    intro shard member
    by_cases same : shard = uri
    · rw [same]
      exact Or.inr (Or.inl (Table.get?_erase_self _ uri))
    · exact Or.inl (Table.get?_erase_ne _ same)

def World.forged (world : World) (uri : String) (object : Bytes) : World :=
  { World.blank with
    ledger := world.ledger
    ipfs := { protocol := .ipfs, objects := (world.memory .ipfs).objects.put uri object } }

theorem loss_of_forged {metadata : Metadata} {metadataUri uri : String} {before : World} {stored object : Bytes}
    (other : metadataUri ≠ uri) (was : before.object? .ipfs uri = some stored)
    (differs : doubleHash object ≠ doubleHash stored) :
    Loss { registry := [.ipfs] } .ipfs metadataUri metadata before (before.forged uri object) where
  backend := List.mem_singleton_self _
  proper := by
    intro protocol
    cases protocol <;> rfl
  prompt := Nat.zero_le _
  answered := rfl
  described := Table.get?_put_ne _ _ other
  recorded := rfl
  shards := by
    intro shard member
    by_cases same : shard = uri
    · subst same
      exact .inr (.inr ⟨stored, object, was, Table.get?_put_self _ _ _, differs⟩)
    · exact .inl (Table.get?_put_ne _ _ same)

theorem intact_altered {metadata : Metadata} {before after : World} (distinct : metadata.shardUris.Nodup) {lost : Nat}
    (inside : lost < metadata.shardCount)
    (elsewhere : ∀ uri ≠ metadata.shardUris.getD lost "", after.object? .ipfs uri = before.object? .ipfs uri)
    (altered : after.object? .ipfs (metadata.shardUris.getD lost "") ≠
      before.object? .ipfs (metadata.shardUris.getD lost "")) :
    intact .ipfs metadata before after = (List.range metadata.shardCount).filter (· ≠ lost) := by
  have there := getElem?_eq_getD "" inside
  refine List.filter_congr fun index member => decide_eq_decide.mpr ?_
  have within : index < metadata.shardCount := List.mem_range.mp member
  by_cases same : index = lost
  · subst same
    exact iff_of_false altered fun apart => apart rfl
  · have apart : metadata.shardUris.getD index "" ≠ metadata.shardUris.getD lost "" := by
      intro equal
      rw [← equal] at there
      exact same ((List.getElem?_inj within distinct).mp ((getElem?_eq_getD "" within).trans there.symm))
    simp only [elsewhere _ apart, same, ne_eq, not_false_eq_true]

theorem intact_without {metadata : Metadata} {before : World} (distinct : metadata.shardUris.Nodup) {lost : Nat}
    (inside : lost < metadata.shardCount) (held : before.object? .ipfs (metadata.shardUris.getD lost "") ≠ none) :
    intact .ipfs metadata before (before.without (metadata.shardUris.getD lost "")) =
      (List.range metadata.shardCount).filter (· ≠ lost) := by
  refine intact_altered distinct inside (fun uri apart => Table.get?_erase_ne _ apart) ?_
  have gone : (before.without (metadata.shardUris.getD lost "")).object? .ipfs (metadata.shardUris.getD lost "") =
      none := Table.get?_erase_self _ _
  rw [gone]
  exact held.symm

theorem Publish.Deposit.intact_without {metadata : Metadata} {shards : List Bytes} {publication : Publication}
    {before : World} (deposit : Publish.Deposit before .ipfs metadata shards publication) {lost : Nat}
    (inside : lost < metadata.shardCount) :
    intact .ipfs metadata before (before.without (metadata.shardUris.getD lost "")) =
      (List.range metadata.shardCount).filter (· ≠ lost) := by
  have here := deposit.stored (getElem?_eq_getD "" inside) (getElem?_eq_getD [] (deposit.listed ▸ inside))
  exact Availability.intact_without (List.nodup_cons.mp deposit.distinct).2 inside (here ▸ Option.some_ne_none _)

theorem length_filter_ne_range {count index : Nat} (inside : index < count) :
    ((List.range count).filter (· ≠ index)).length = count - 1 := by
  have others : (List.range count).filter (· ≠ index) = (List.range count).erase index := by
    rw [List.nodup_range.erase_eq_filter]
    exact List.filter_congr fun other _ => by by_cases here : other = index <;> simp [here]
  rw [others, List.length_erase_of_mem (List.mem_range.mpr inside), List.length_range]

theorem retrieve_and_decide_agree_without_a_data_shard :
    ∃ published before after task,
      Attempt.runIn (environment World.inOrder) (Publish.publish { store := { registry := [.ipfs] }, sender := "alice" }
        [1, 2, 3] 2 1 "ipfs") .blank = (.ok published, before) ∧
      before.ledger.broadcasts.back?.bind Audit.Task.ofMessage? = some task ∧
      (Attempt.runIn (environment World.inOrder)
        (Retrieve.retrieve { registry := [.ipfs] } published.metadataUri) after).1 = .ok [1, 2, 3] ∧
      ∃ evidence, ((Audit.decide { registry := [.ipfs] } task).runIn (environment World.inOrder) after).1 =
        .valid evidence ∧ evidence.validShards.map (·.1) = [1, 2] := by
  obtain ⟨published, before, ran, -⟩ := Publish.publish_accepts World.inOrder
    { store := { registry := [.ipfs] }, sender := "alice" } [1, 2, 3] 2 1 "ipfs" .blank rfl (List.mem_singleton_self _)
    (by decide) ⟨rfl, rfl, rfl⟩ (by decide) (by decide) (by decide)
  obtain ⟨protocol, metadata, shards, publication, task, tagged, named, deposit, total, told, agree⟩ :=
    retrieve_and_decide_agree World.proper_blank (by decide) ran
  obtain rfl : Protocol.ipfs = protocol := Except.ok.inj tagged
  have count : metadata.shardCount = 3 := deposit.listed.trans total
  have inside : 0 < metadata.shardCount := by
    rw [count]
    decide
  have other := named ▸ ne_getD_of_nodup deposit.distinct inside
  have held : intact .ipfs metadata before (before.without (metadata.shardUris.getD 0 "")) = [1, 2] := by
    rw [deposit.intact_without inside, count]
    rfl
  have outcome := (agree _ _ World.inOrder (loss_of_without other)).1
  rw [held] at outcome
  obtain ⟨retrieved, verdict⟩ := outcome (by decide)
  refine ⟨published, before, _, task, ran, ?_, retrieved, _, verdict, rfl⟩
  rw [deposit.announced]
  exact told

end Availability
