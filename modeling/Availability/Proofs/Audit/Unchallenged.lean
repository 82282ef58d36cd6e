import Availability.Proofs.Audit.Decision
import Availability.Proofs.Audit.Underway
import Availability.Proofs.Fetched
import Availability.Proofs.Publish.Acceptance
import Availability.Proofs.Publish.Stored
import Availability.Proofs.Storage.Kept

namespace Availability

open Program (Path)
open World (environment inOrder)

/-- What a network keeps: every uri that it returned is one of its own, and whoever retrieves it in time is given the
object that was stored under it. -/
structure Served (protocol : Protocol) (limit : Duration) (told heard : Transcript) : Prop where
  named : ∀ object uri, ⟨.store protocol object, .ok uri⟩ ∈ told → ∃ id, uri = protocol.uriFor id
  unchanged : ∀ object uri answer, ⟨.store protocol object, .ok uri⟩ ∈ told →
    ⟨.retrieve protocol uri limit, answer⟩ ∈ heard → answer = .ok object

theorem Served.within {protocol : Protocol} {limit : Duration} {told heard more : Transcript}
    (served : Served protocol limit told more) (part : heard ⊆ more) : Served protocol limit told heard where
  named := served.named
  unchanged := fun object uri answer stored retrieved => served.unchanged object uri answer stored (part retrieved)

theorem Served.narrow {protocol : Protocol} {limit : Duration} {told heard fewer : Transcript}
    (served : Served protocol limit told heard) (part : fewer ⊆ told) : Served protocol limit fewer heard where
  named := fun object uri stored => served.named object uri (part stored)
  unchanged := fun object uri answer stored => served.unchanged object uri answer (part stored)

theorem Served.backend {protocol : Protocol} {store : Store} {told heard : Transcript}
    (served : Served protocol store.retrieveTimeout told heard) (registered : protocol ∈ store.registry)
    {object : Bytes} {uri : String} (kept : ⟨.store protocol object, .ok uri⟩ ∈ told) :
    store.registry.backendForUri uri = .ok protocol := by
  obtain ⟨id, rfl⟩ := served.named object uri kept
  exact Storage.backendForUri_uriFor registered id

theorem World.served_of_plays {order other : World → (workers : Nat) → Order workers} {protocol : Protocol}
    {limit : Duration} {told heard : Transcript} {world between after : World}
    (publishing : Plays (World.environment order) told world between)
    (auditing : Plays (World.environment other) heard between after)
    (proper : (world.memory protocol).protocol = protocol)
    (prompt : (world.memory protocol).latency.nanoseconds ≤ limit.nanoseconds) : Served protocol limit told heard := by
  have keeps := World.keeps_of_plays publishing protocol
  constructor
  case named =>
    intro object uri stored
    obtain ⟨id, -, named⟩ := (World.holds_of_plays publishing stored).uriFor
    rw [keeps.protocol, proper] at named
    exact ⟨id, named⟩
  case unchanged =>
    intro object uri answer stored retrieved
    rw [← keeps.latency] at prompt
    exact World.retrieved_of_plays auditing (World.holds_of_plays publishing stored) prompt retrieved

namespace Audit

def taskFor (publication : Publication) : Task :=
  ⟨publication.metadataUri, publication.shardDoubleHashes, publication.parityShardCount, publication.dataSourceInfo⟩

section

variable {store : Store} {protocol : Protocol} {metadata : Metadata} {shards : List Bytes} {publication : Publication}
  {told heard : Transcript}

theorem described_of_stored (stored : Publish.Stored told protocol metadata shards publication) :
    (taskFor publication).Described metadata := by
  have count : (taskFor publication).shardCount = shards.length := by
    change publication.shardDoubleHashes.length = _
    rw [stored.committed, List.length_map]
  refine ⟨?_, stored.listed.trans count.symm, stored.parity⟩
  rw [count]
  exact stored.layout

variable (stored : Publish.Stored told protocol metadata shards publication)
  (served : Served protocol store.retrieveTimeout told heard) (registered : protocol ∈ store.registry)
include stored served registered

theorem fetchMetadata_served {result : Except Storage.Error Metadata}
    (path : Path (store.fetchMetadata publication.metadataUri).run heard (.done result)) : result = .ok metadata := by
  obtain ⟨bytes, kept, read⟩ := stored.described
  obtain ⟨answer, rfl, rfl⟩ := Store.path_fetchMetadata (served.backend registered kept) path
  rw [served.unchanged bytes _ answer kept List.mem_cons_self]
  simp only [Except.bind, read]
  rfl

theorem fetched_of_reported {finished : Fetches}
    (reported : Reported store.retrieveTimeout (metadata.shardUris.map store.target) finished heard) {index : Nat}
    {answer : Except Storage.Error Bytes} (fetched : (index, answer) ∈ finished) :
    ∃ shard, shards[index]? = some shard ∧ answer = .ok shard := by
  obtain ⟨target, located, heard_from⟩ := reported index answer fetched
  rw [List.getElem?_map, Option.map_eq_some_iff] at located
  obtain ⟨uri, listed, rfl⟩ := located
  obtain ⟨shard, placed, kept⟩ := stored.held index uri listed
  have owned : store.target uri = .ok (protocol, uri) := by
    rw [Store.target, served.backend registered kept]
    rfl
  exact ⟨shard, placed, served.unchanged shard uri answer kept (heard_from protocol uri owned)⟩

theorem matching_of_reported {finished : Fetches}
    (complete : (finished.map (·.1)).Perm (List.range metadata.shardUris.length))
    (reported : Reported store.retrieveTimeout (metadata.shardUris.map store.target) finished heard) :
    (taskFor publication).matching finished = Finset.range (taskFor publication).shardCount := by
  have count : metadata.shardUris.length = (taskFor publication).shardCount := (described_of_stored stored).count
  apply Finset.Subset.antisymm
  · intro index member
    obtain ⟨shard, -, committed⟩ := Task.mem_matching.mp member
    exact Finset.mem_range.mpr (List.getElem?_eq_some_iff.mp committed).1
  · intro index member
    have inside : index < metadata.shardUris.length := count ▸ Finset.mem_range.mp member
    obtain ⟨⟨_, answer⟩, fetched, rfl⟩ := List.mem_map.mp (complete.mem_iff.mpr (List.mem_range.mpr inside))
    obtain ⟨shard, placed, rfl⟩ := fetched_of_reported stored served registered reported fetched
    refine Task.mem_matching.mpr ⟨shard, fetched, ?_⟩
    change publication.shardDoubleHashes[_]? = _
    rw [stored.committed, List.getElem?_map, placed]
    rfl

theorem decide_of_served {verdict : Verdict}
    (path : Path (decide store (taskFor publication)) heard (.done verdict)) :
    ∃ evidence, verdict = .valid evidence := by
  have described := described_of_stored stored
  unfold decide at path
  obtain ⟨listing, first, second, rfl, listed, judging⟩ := Path.done_of_bind path
  obtain rfl := fetchMetadata_served stored (served.within (List.subset_append_left _ _)) registered listed
  simp only [requirement_of_described described] at judging
  obtain ⟨fetched, third, fourth, rfl, fetching, ended⟩ := Path.done_of_bind judging
  rw [← described.count] at fetching
  obtain ⟨finished, complete, rfl, reported⟩ := Store.path_fetchShards fetching
  obtain ⟨-, same⟩ := Path.of_done ended
  have shards_served : Served protocol store.retrieveTimeout told third :=
    served.within fun event member => List.mem_append_right first (List.mem_append_left fourth member)
  have matching := matching_of_reported stored shards_served registered complete reported
  rw [described.count] at complete
  have count : (verified (taskFor publication) (Indexed.succeeded (Indexed.collect finished))).length =
      (taskFor publication).shardCount := by
    rw [length_verified complete, matching, Finset.card_range]
  have judged := Program.done.inj same
  rw [judge, if_neg (by omega)] at judged
  exact ⟨_, judged⟩

end

theorem unchallenging_submissionMessages {account : Account} {validator metadataUri : String} {evidence : Evidence}
    {sample : List Nat} {proofs : List Proof} {sender uri : String} :
    .challengeForFraud sender uri ∉ submissionMessages account validator metadataUri evidence sample proofs := by
  unfold submissionMessages validityMessage? invalidityMessage?
  split <;> split <;> simp

theorem unchallenging_of_path_actOnValid {auditor : Auditor} {metadataUri : String} {evidence : Evidence}
    {heard : Transcript} {last : Program (Except Error Outcome)}
    (path : Path (actOnValid auditor metadataUri evidence).run heard last) (sender uri : String) :
    .challengeForFraud sender uri ∉ heard.sent := by
  rcases submits_of_path_actOnValid path with silent | ⟨validator, sample, proofs, later, -, rfl, sent⟩
  · rw [silent]
    exact List.not_mem_nil
  · exact fun member => unchallenging_submissionMessages (sent.subset member)

/-- However far its audit has come, a publish whose objects come back has not been challenged by a node with a backend
for its network. -/
theorem publish_unchallenged {σ : Type} {env : Environment σ} {publisher : Publish.Publisher} {blob : Bytes}
    {dataShardCount parityShardCount : UInt64} {tag : String} {published : Publish.Published} {state after : σ}
    (ran : Attempt.runIn env (Publish.publish publisher blob dataShardCount parityShardCount tag) state =
      (.ok published, after))
    {protocol : Protocol} (tagged : Storage.protocolOfTag tag = .ok protocol) {message : Message} {task : Task}
    (announced : message ∈
      (Attempt.transcript env (Publish.publish publisher blob dataShardCount parityShardCount tag) state).sent)
    (picked : Task.ofMessage? message = some task) {auditor : Auditor} (registered : protocol ∈ auditor.store.registry)
    {heard : Transcript} {last : Program (Except Error Outcome)} (path : Path (audit auditor task).run heard last)
    (served : Served protocol auditor.store.retrieveTimeout
      (Attempt.transcript env (Publish.publish publisher blob dataShardCount parityShardCount tag) state) heard)
    (sender uri : String) : .challengeForFraud sender uri ∉ heard.sent := by
  obtain ⟨network, metadata, shards, publication, known, -, stored⟩ := Publish.publish_stored ran
  obtain rfl : network = protocol := Except.ok.inj (known.symm.trans tagged)
  rw [stored.announced, List.mem_singleton] at announced
  subst announced
  obtain rfl : taskFor publication = task := Option.some.inj picked
  cases underway_of_path path with
  | silent silent =>
    rw [silent]
    exact List.not_mem_nil
  | @acting record dialled judged later verdict last auditable dials decides acts =>
    have judged_served := served.within fun event member =>
      List.mem_cons_of_mem _ (List.mem_append_right dialled (List.mem_append_left later member))
    obtain ⟨evidence, rfl⟩ := decide_of_served stored judged_served registered decides
    -- Up to the verdict the audit has sent nothing.
    have judging := ((storageOnly_decide auditor.store (taskFor publication)).path decides).sent
    have sent : Transcript.sent (⟨.chain (.publishedData (taskFor publication).metadataUri), .ok (some record)⟩ ::
        (dialled ++ (judged ++ later))) = later.sent := by
      change Transcript.sent (dialled ++ (judged ++ later)) = _
      rw [Transcript.sent_append, Transcript.sent_append, dials.sent, judging, List.nil_append, List.nil_append]
    rw [sent]
    exact unchallenging_of_path_actOnValid acts sender uri

def honestPublisher : Publish.Publisher := { store := { registry := [.ipfs] }, sender := "alice" }

def vigilant (registry : Storage.Registry) : Auditor :=
  { store := { registry }, account := ⟨"bob", some "carol"⟩, policy := ⟨true, true⟩ }

theorem exists_published : ∃ published after,
    Attempt.runIn (environment inOrder) (Publish.publish honestPublisher [1, 2, 3] 2 1 "ipfs") .blank =
        (.ok published, after) ∧
      Plays (environment inOrder)
        (Attempt.transcript (environment inOrder) (Publish.publish honestPublisher [1, 2, 3] 2 1 "ipfs") .blank)
        .blank after := by
  obtain ⟨published, after, ran, -⟩ := Publish.publish_accepts inOrder honestPublisher [1, 2, 3] 2 1 "ipfs" .blank rfl
    (List.mem_singleton_self _) (by decide) ⟨rfl, rfl, rfl⟩ (by decide) (by decide) (by decide)
  have plays := Plays.runIn (environment inOrder) (Publish.publish honestPublisher [1, 2, 3] 2 1 "ipfs").run .blank
  have reached : ((Publish.publish honestPublisher [1, 2, 3] 2 1 "ipfs").run.runIn (environment inOrder) .blank).2 =
      after := congrArg Prod.snd ran
  exact ⟨published, after, ran, reached ▸ plays⟩

theorem publish_unchallenged_ipfs : ∃ published after task heard later outcome,
    Attempt.runIn (environment inOrder) (Publish.publish honestPublisher [1, 2, 3] 2 1 "ipfs") .blank =
        (.ok published, after) ∧ task.metadataUri = published.metadataUri ∧
      Path (audit (vigilant [.ipfs]) task).run heard (.done outcome) ∧ Plays (environment inOrder) heard after later ∧
        ∀ sender uri, .challengeForFraud sender uri ∉ heard.sent := by
  obtain ⟨published, after, ran, publishing⟩ := exists_published
  obtain ⟨protocol, metadata, shards, publication, tagged, named, stored⟩ := Publish.publish_stored ran
  cases tagged
  have auditing := Plays.runIn (environment inOrder) (audit (vigilant [.ipfs]) (taskFor publication)).run after
  have path := Program.path_runIn (environment inOrder) (audit (vigilant [.ipfs]) (taskFor publication)).run after
  have served : Served .ipfs (vigilant [.ipfs]).store.retrieveTimeout _ _ :=
    World.served_of_plays publishing auditing rfl (Nat.zero_le _)
  refine ⟨published, after, taskFor publication, _, _, _, ran, named, path, auditing, ?_⟩
  exact publish_unchallenged ran rfl (stored.announced ▸ List.mem_singleton_self _) rfl (List.mem_singleton_self _)
    path served

theorem challenge_mem_actOnFraud {σ : Type} (env : Environment σ) {auditor : Auditor}
    (challenges : auditor.policy.submitChallenge = true) (metadataUri : String) (evidence : Evidence)
    (reason : FraudReason) (state : σ) : .challengeForFraud auditor.account.sender metadataUri ∈
      (Attempt.transcript env (actOnFraud auditor metadataUri reason evidence) state).sent := by
  have message : challengeMessage? auditor metadataUri =
      some (.challengeForFraud auditor.account.sender metadataUri) := if_pos challenges
  rw [actOnFraud_eq, message, Attempt.transcript_bind, Transcript.sent_append, transcript_offer]
  exact List.mem_append_left _ (List.mem_singleton_self _)

theorem decide_unregistered {store : Store} {task : Task} {err : Storage.Error}
    (unknown : store.registry.backendForUri task.metadataUri = .error err) :
    decide store task = .done (.fraud (.metadataUnavailable err) ⟨task.shardCount, []⟩) := by
  unfold decide Store.fetchMetadata Store.retrieve
  rw [unknown]
  rfl

theorem challenge_mem_of_unregistered {σ : Type} (env : Environment σ) {auditor : Auditor} {task : Task} {state : σ}
    (challenges : auditor.policy.submitChallenge = true) {err : Storage.Error}
    (unknown : auditor.store.registry.backendForUri task.metadataUri = .error err) {record : Record}
    (told : (env.perform state (.chain (.publishedData task.metadataUri))).1 = .ok (some record))
    (auditable : record.status.auditable = true) : .challengeForFraud auditor.account.sender task.metadataUri ∈
      (Attempt.transcript env (audit auditor task) state).sent := by
  have judged : verdictFrom auditor task env state =
      .fraud (.metadataUnavailable err) ⟨task.shardCount, []⟩ := by
    unfold verdictFrom examined
    rw [decide_unregistered unknown]
    rfl
  have audited := audited_audit auditor task env state
  generalize Attempt.transcript env (audit auditor task) state = heard at audited ⊢
  generalize (Attempt.runIn env (audit auditor task) state).1 = result at audited
  cases audited with
  | skipped answered left =>
    rw [left record (answered.symm.trans told)] at auditable
    cases auditable
  | examined answered _ apart _ =>
    rw [judged]
    change _ ∈ Transcript.sent (_ ++ _)
    rw [Transcript.sent_append]
    exact List.mem_append_right _ (challenge_mem_actOnFraud env challenges _ _ _ _)

/-- Whoever has no backend for the network of an honest publish challenges it. -/
theorem not_publish_unchallenged : ¬ ∀ (publisher : Publish.Publisher) (blob : Bytes)
    (dataShardCount parityShardCount : UInt64) (tag : String) (published : Publish.Published)
    (world after later : World) (protocol : Protocol) (message : Message) (task : Task) (auditor : Auditor)
    (heard : Transcript) (last : Program (Except Error Outcome)),
    Attempt.runIn (environment inOrder) (Publish.publish publisher blob dataShardCount parityShardCount tag) world =
      (.ok published, after) →
    Storage.protocolOfTag tag = .ok protocol →
    message ∈ (Attempt.transcript (environment inOrder)
      (Publish.publish publisher blob dataShardCount parityShardCount tag) world).sent →
    Task.ofMessage? message = some task →
    Path (audit auditor task).run heard last → Plays (environment inOrder) heard after later →
    Served protocol auditor.store.retrieveTimeout (Attempt.transcript (environment inOrder)
      (Publish.publish publisher blob dataShardCount parityShardCount tag) world) heard →
    ∀ sender uri, .challengeForFraud sender uri ∉ heard.sent := by
  intro claim
  obtain ⟨published, after, ran, publishing⟩ := exists_published
  obtain ⟨protocol, metadata, shards, publication, tagged, named, stored⟩ := Publish.publish_stored ran
  cases tagged
  let auditor := vigilant [.arweave]
  have auditing := Plays.runIn (environment inOrder) (audit auditor (taskFor publication)).run after
  have path := Program.path_runIn (environment inOrder) (audit auditor (taskFor publication)).run after
  have served : Served .ipfs auditor.store.retrieveTimeout _ _ :=
    World.served_of_plays publishing auditing rfl (Nat.zero_le _)
  have silent := claim _ _ _ _ _ published .blank after _ .ipfs _ (taskFor publication) auditor _ _ ran rfl
    (stored.announced ▸ List.mem_singleton_self _) rfl path auditing served
  obtain ⟨bytes, kept, -⟩ := stored.described
  obtain ⟨id, uri⟩ := served.named bytes _ kept
  have unknown : auditor.store.registry.backendForUri (taskFor publication).metadataUri =
      .error (.backendUnavailable .ipfs) := by
    change Storage.Registry.backendForUri [.arweave] publication.metadataUri = _
    rw [uri]
    exact Storage.backendForUri_missing (by decide) id
  have sound : after.faults = [] := World.faults_of_plays publishing
  obtain ⟨recorded, same, ledger⟩ := Publish.publish_ledger ran
  obtain ⟨record, held, auditable⟩ : ∃ record,
      after.ledger.published.get? publication.metadataUri = some record ∧ record.status.auditable = true := by
    rw [ledger, named, ← same]
    exact ⟨_, Table.get?_put_self _ _ _, rfl⟩
  have asked := ask_willing inOrder (.publishedData publication.metadataUri) sound
  have told : ((environment inOrder).perform after (.chain (.publishedData publication.metadataUri))).1 =
      .ok (some record) := (congrArg Prod.fst asked).trans (congrArg Except.ok held)
  exact silent _ _ (challenge_mem_of_unregistered (environment inOrder) rfl unknown told auditable)

end Audit

end Availability
