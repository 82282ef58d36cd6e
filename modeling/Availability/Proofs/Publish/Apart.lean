import Availability.Proofs.Publish.Anchored
import Availability.Proofs.Publish.Traffic
import Availability.Proofs.Retrieve.Served

namespace Availability

open Audit (Log)
open Program (Path)
open World (environment inOrder)

def Event.late : Event → Bool
  | ⟨.retrieve .., .error (.timeout ..)⟩ => true
  | _ => false

theorem Storage.Memory.Holds.lookup {memory : Memory} {uri : String} {object : Bytes} (held : memory.Holds uri object)
    (limit : Duration) :
    memory.lookup uri limit = .ok object ∨ memory.lookup uri limit = .error (.timeout uri limit) := by
  obtain ⟨id, filled, rfl⟩ := held.uriFor
  by_cases prompt : memory.latency.nanoseconds ≤ limit.nanoseconds
  · rw [lookup_uriFor prompt filled, held.found]
    exact .inl rfl
  · right
    unfold Memory.lookup
    rw [objectId_uriFor _ filled]
    simp only [bind, Except.bind, if_pos (not_le.mp prompt)]

namespace Publish

structure Traffic.Retrieves (traffic : Traffic) (protocol : Protocol) (metadataUri : String) (blob : Bytes) : Prop where
  alone : ∀ store, protocol ∈ store.registry → ∀ later, Run traffic later →
    (later.busy.world.memory protocol).latency.nanoseconds ≤ store.retrieveTimeout.nanoseconds → ∀ order,
      (Attempt.runIn (environment order) (Retrieve.retrieve store metadataUri) later.busy.world).1 = .ok blob
  meanwhile : ∀ store, protocol ∈ store.registry → ∀ later, Run traffic later →
    ∀ (more : Log) (heard : Transcript) (result : Except Retrieve.Error Bytes), later.log = traffic.log ++ more →
      heard ⊆ more.events → (∀ event ∈ heard, event.late = false) →
        Path (Retrieve.retrieve store metadataUri).run heard (.done result) → result = .ok blob

/-- Publishes that do not get in each other's way: no uri is given twice, what was stored and what was announced stays
for good, and each publish that succeeded is retrieved as it was published. -/
structure Traffic.Apart (traffic : Traffic) : Prop where
  distinct : traffic.log.events.stored.Nodup
  stored : ∀ protocol object uri, ⟨.store protocol object, .ok uri⟩ ∈ traffic.log.events → ∀ later, Run traffic later →
    later.busy.world.object? protocol uri = some object
  recorded : ∀ publication ∈ traffic.log.events.announced, ∃ status, ∀ later, Run traffic later →
    later.busy.world.ledger.published.get? publication.metadataUri = some (publication.record status)
  retrieved : ∀ (index : Nat) party published, traffic.parties[index]? = some party →
    party.rest = .done (.ok published) → party.request.blob.length < UInt64.size →
      ∃ protocol, Storage.protocolOfTag party.request.tag = .ok protocol ∧
        traffic.Retrieves protocol published.metadataUri party.request.blob

namespace Traffic

variable {traffic later : Traffic} {protocol : Protocol} {limit : Duration} {heard : Transcript}

section

variable (orderly : Orderly traffic) (run : Run traffic later) {more : Log}
  (grown : later.log = traffic.log ++ more) (within : heard ⊆ more.events)
include orderly run grown within

theorem Orderly.served (punctual : ∀ event ∈ heard, event.late = false) :
    Served protocol limit traffic.log.events heard where
  named _ _ stored := orderly.shelved.uriFor stored
  unchanged object uri answer stored retrieved := by
    obtain ⟨⟨party, _⟩, member, rfl⟩ := List.mem_map.mp (within retrieved)
    -- The network held the object when the retrieval was performed, so it gave that or said that it was late.
    obtain ⟨between, after, first, performs⟩ := run.performed grown member
    have prompt := punctual _ retrieved
    cases performs with
    | other _ performed =>
      have looked : (between.busy.world.memory protocol).lookup uri limit = answer := congrArg Prod.fst performed
      rcases (first.holds orderly stored).lookup limit with found | timeout
      · exact looked.symm.trans found
      · rw [← looked, timeout] at prompt
        cases prompt

theorem Orderly.told {uri : String} {record told : Record}
    (recorded : traffic.busy.world.ledger.published.get? uri = some record)
    (asked : ⟨.chain (.publishedData uri), .ok (some told)⟩ ∈ heard) : told = record := by
  obtain ⟨⟨party, _⟩, member, rfl⟩ := List.mem_map.mp (within asked)
  obtain ⟨between, after, first, performs⟩ := run.performed grown member
  cases performs with
  | other _ performed =>
    obtain ⟨answer, -⟩ := World.ask_eq_ok performed
    exact Option.some.inj (answer.trans (first.published orderly recorded))

end

theorem Orderly.served_alone (orderly : Orderly traffic) (run : Run traffic later)
    {order : World → (workers : Nat) → Order workers} {after : World}
    (plays : Plays (environment order) heard later.busy.world after)
    (prompt : (later.busy.world.memory protocol).latency.nanoseconds ≤ limit.nanoseconds) :
    Served protocol limit traffic.log.events heard where
  named _ _ stored := orderly.shelved.uriFor stored
  unchanged _ _ _ stored retrieved :=
    World.retrieved_of_plays plays (run.holds orderly stored) prompt retrieved

theorem Orderly.retrieves (orderly : Orderly traffic) {index : Nat} {party : Party} {published : Published}
    (here : traffic.parties[index]? = some party) (ended : party.rest = .done (.ok published))
    (addressable : party.request.blob.length < UInt64.size) :
    ∃ protocol, Storage.protocolOfTag party.request.tag = .ok protocol ∧
      traffic.Retrieves protocol published.metadataUri party.request.blob := by
  have path := orderly.follows.paths index party here
  rw [ended] at path
  obtain ⟨protocol, encoded, shardUris, before, prepared, told⟩ := (course_of_path path).of_ok
  let publication := publicationFor party.request.publisher party.request.parityShardCount encoded published.metadataUri
  have known : traffic.log.heard index ⊆ traffic.log.events := Log.heard_subset _ _
  rw [told] at known
  have announced : publication ∈ traffic.log.events.announced :=
    Transcript.mem_announced (known (List.mem_append_right _ (List.mem_singleton_self _)))
  obtain ⟨status, recorded⟩ := orderly.booked.recorded publication announced
  refine ⟨protocol, prepared.tagged, fun store registered later run prompt order => ?_,
    fun store registered later run more heard result grown within punctual retrieving => ?_⟩
  · have retrieving := Program.path_runIn (environment order) (Retrieve.retrieve store published.metadataUri).run
      later.busy.world
    have plays := Plays.runIn (environment order) (Retrieve.retrieve store published.metadataUri).run later.busy.world
    obtain ⟨_, _, _, consulted, -⟩ := Retrieve.settled_of_path retrieving
    have served := (orderly.served_alone run plays prompt).narrow known
    refine prepared.retrieved addressable registered served (fun record asked => ?_) retrieving
    exact congrArg Record.shardDoubleHashes
      (World.told_of_plays plays consulted.silent (run.published orderly recorded) asked)
  · have served : Served protocol store.retrieveTimeout _ heard :=
      (orderly.served run grown within punctual).narrow known
    refine prepared.retrieved addressable registered served (fun record asked => ?_) retrieving
    exact congrArg Record.shardDoubleHashes (orderly.told run grown within recorded asked)

end Traffic

/-- Any number of publishes may share networks and chain. A memory counts its store calls without end where a node has
a 64-bit word for them: the two agree, and no uri is given twice, as long as each memory has had fewer than `2 ^ 64`. -/
theorem publishes_apart {world : World} (empty : world.Empty) {traffic : Traffic}
    (run : Traffic.Run { busy := { world } } traffic) : traffic.Apart := by
  have orderly := run.orderly (Traffic.orderly_of_empty empty)
  constructor
  case distinct => exact orderly.shelved.distinct
  case stored => exact fun protocol object uri stored later onward => (onward.holds orderly stored).found
  case recorded =>
    intro publication announced
    obtain ⟨status, recorded⟩ := orderly.booked.recorded publication announced
    exact ⟨status, fun later onward => onward.published orderly recorded⟩
  case retrieved => exact fun index party published here ended addressable => orderly.retrieves here ended addressable

theorem empty_blank : World.blank.Empty where
  proper := by rintro (_ | _) <;> rfl
  objects := by rintro (_ | _) <;> rfl
  published := rfl

section

variable {ε α β : Type} {order : World → (workers : Nat) → Order workers} {world after : World} {attempt : Attempt ε α}
  {value : α}

theorem exists_path (ran : Attempt.runIn (environment order) attempt world = (.ok value, after)) :
    ∃ heard, Path attempt.run heard (.done (.ok value)) ∧ Plays (environment order) heard world after := by
  have path := Program.path_runIn (environment order) attempt.run world
  have plays := Plays.runIn (environment order) attempt.run world
  rw [Attempt.run_runIn, ran] at path plays
  exact ⟨_, path, plays⟩

theorem exists_path_bind (ran : Attempt.runIn (environment order) attempt world = (.ok value, after))
    (rest : α → Attempt ε β) :
    ∃ heard, Path (attempt >>= rest).run heard (rest value).run ∧ Plays (environment order) heard world after := by
  obtain ⟨heard, path, plays⟩ := exists_path ran
  have onward := Attempt.path_bind path (.refl (rest value).run)
  rw [List.append_nil] at onward
  exact ⟨heard, onward, plays⟩

theorem countP_of_leaves {protocol : Protocol} {count : Nat} {heard : Transcript}
    (plays : Plays (environment order) heard world after) (leaves : World.Leaves protocol count world after) :
    (heard.countP fun event => event.operation.storesOn protocol) = count := by
  have counted := World.stores_of_plays protocol plays
  have stores := leaves.stores
  omega

end

/-- Two publishes of one blob on one network: each has stored its shards before either stores its metadata. -/
theorem publishes_apart_side_by_side :
    let request : Request := ⟨{ store := { registry := [.ipfs] }, sender := "alice" }, [1, 2, 3], 2, 1, "ipfs"⟩
    let stores (heard : Transcript) := heard.countP fun event => event.operation.storesOn .ipfs
    ∃ traffic first second, ∃ begun joined ended last : Transcript,
      Traffic.Run { busy := { world := .blank } } traffic ∧
      traffic.parties = [⟨request, .done (.ok first)⟩, ⟨request, .done (.ok second)⟩] ∧
      traffic.log = begun.map (some 0, ·) ++ joined.map (some 1, ·) ++ ended.map (some 0, ·) ++ last.map (some 1, ·) ∧
      stores begun = 3 ∧ stores joined = 3 ∧ stores ended = 1 ∧ stores last = 1 ∧ traffic.Apart ∧
      traffic.Retrieves .ipfs first.metadataUri [1, 2, 3] ∧ traffic.Retrieves .ipfs second.metadataUri [1, 2, 3] := by
  intro request stores
  have ready : World.blank.Ready .ipfs := ⟨rfl, rfl, rfl⟩
  have known : Protocol.ipfs ∈ request.publisher.store.registry := List.mem_singleton_self _
  obtain ⟨encoded, uris, one, uploaded, begins, few, short⟩ := upload_accepts inOrder request.publisher [1, 2, 3] 2 1
    "ipfs" .blank rfl known (by decide) ready (by decide) (by decide) (by decide)
  obtain ⟨coded, others, two, uploading, joins, less, brief⟩ := upload_accepts inOrder request.publisher [1, 2, 3] 2 1
    "ipfs" one rfl known (by decide) begins.ready (begins.stores ▸ by decide) (begins.params ▸ by decide)
    (begins.params ▸ by decide)
  obtain ⟨first, three, announced, ends⟩ :=
    announce_accepts inOrder request.publisher [1, 2, 3] 1 two known joins.ready encoded few short
  obtain ⟨second, four, announcing, finishes⟩ :=
    announce_accepts inOrder request.publisher [1, 2, 3] 1 three known ends.ready coded less brief
  have parts := congrArg ExceptT.run (publish_eq_bind request.publisher [1, 2, 3] 2 1 "ipfs")
  obtain ⟨begun, beginning, beginPlays⟩ := exists_path_bind uploaded fun uploaded =>
    announce request.publisher [1, 2, 3] 1 uploaded.1 uploaded.2.1 uploaded.2.2
  obtain ⟨joined, joining, joinPlays⟩ := exists_path_bind uploading fun uploaded =>
    announce request.publisher [1, 2, 3] 1 uploaded.1 uploaded.2.1 uploaded.2.2
  obtain ⟨ended, ending, endPlays⟩ := exists_path announced
  obtain ⟨last, finishing, lastPlays⟩ := exists_path announcing
  rw [← parts] at beginning joining
  have opened : Traffic.Run { busy := { world := .blank } } { busy := { world := .blank }, parties :=
      [⟨request, request.program⟩, ⟨request, request.program⟩] } :=
    (Relation.ReflTransGen.single (.opens _ request)).tail (.opens _ request)
  have began := opened.trans (Traffic.run_of_path _ 0 rfl beginning beginPlays)
  have met := began.trans (Traffic.run_of_path _ 1 rfl joining joinPlays)
  have went := met.trans (Traffic.run_of_path _ 0 rfl ending endPlays)
  have run := went.trans (Traffic.run_of_path _ 1 rfl finishing lastPlays)
  have apart := publishes_apart empty_blank run
  have addressable : ([1, 2, 3] : Bytes).length < UInt64.size := by decide
  obtain ⟨_, tagged, retrieves⟩ := apart.retrieved 0 _ first rfl rfl addressable
  cases tagged
  obtain ⟨_, tagged, retrieved⟩ := apart.retrieved 1 _ second rfl rfl addressable
  cases tagged
  exact ⟨_, first, second, begun, joined, ended, last, run, rfl, rfl, countP_of_leaves beginPlays begins,
    countP_of_leaves joinPlays joins, countP_of_leaves endPlays ends, countP_of_leaves lastPlays finishes, apart,
    retrieves, retrieved⟩

end Publish

end Availability
