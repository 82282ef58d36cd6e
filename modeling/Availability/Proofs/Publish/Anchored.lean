import Availability.Proofs.Publish.Acceptance
import Availability.Proofs.Publish.Stored
import Availability.Proofs.Storage.Kept

namespace Availability

open World (environment inOrder)

def Event.refused : Event → Bool
  | ⟨.chain _, .error _⟩ => true
  | ⟨.store .., .error _⟩ => true
  | _ => false

theorem Event.accepted?_of_refused {event : Event} (refused : event.refused = true) : event.accepted? = none := by
  obtain ⟨operation, answer⟩ := event
  cases operation with
  | chain call =>
    cases answer with
    | ok value => cases refused
    | error err => exact Transcript.accepted?_of_failed rfl
  | store => rfl
  | prove | dial | retrieve => cases refused

/-- Answers as the world does that is in view, except that stores and chain calls may fail without a trace. -/
structure Environment.Hinders {σ : Type} (env : Environment σ) (view : σ → World) : Prop where
  perform : ∀ state operation,
    (view state).perform operation = ((env.perform state operation).1, view (env.perform state operation).2) ∨
      Event.refused ⟨operation, (env.perform state operation).1⟩ = true ∧
        view (env.perform state operation).2 = view state

theorem World.hinders_environment (order : World → (workers : Nat) → Order workers) :
    (environment order).Hinders id where
  perform _ _ := .inl rfl

def Operation.due? (store? : Option Storage.Error) (call? : Option Chain.Error) :
    (operation : Operation) → Option operation.Answer
  | .store .. => store?.map .error
  | .chain _ => call?.map .error
  | _ => none

/-- A world whose stores and chain calls fail when a schedule says so. Whatever is performed is counted. -/
def World.hindered (order : World × Nat → (workers : Nat) → Order workers) (stores : Nat → Option Storage.Error)
    (calls : Nat → Option Chain.Error) : Environment (World × Nat) where
  order := order
  perform state operation :=
    match operation.due? (stores state.2) (calls state.2) with
    | some answer => (answer, state.1, state.2 + 1)
    | none => ((state.1.perform operation).1, (state.1.perform operation).2, state.2 + 1)

theorem World.hinders_hindered (order : World × Nat → (workers : Nat) → Order workers)
    (stores : Nat → Option Storage.Error) (calls : Nat → Option Chain.Error) :
    (hindered order stores calls).Hinders Prod.fst where
  perform := by
    rintro ⟨world, count⟩ operation
    unfold hindered
    cases due : operation.due? (stores count) (calls count) with
    | none => simp [due]
    | some answer =>
      simp only [due, and_true]
      right
      cases operation with
      | store =>
        obtain ⟨err, -, rfl⟩ := Option.map_eq_some_iff.mp due
        rfl
      | chain =>
        obtain ⟨err, -, rfl⟩ := Option.map_eq_some_iff.mp due
        rfl
      | prove | dial | retrieve => cases due

namespace World

def Calm (stores : Nat → Option Storage.Error) (calls : Nat → Option Chain.Error) (count ahead : Nat) : Prop :=
  ∀ later, count ≤ later → later < count + ahead → stores later = none ∧ calls later = none

section

variable {order : World → (workers : Nat) → Order workers} {stores : Nat → Option Storage.Error}
  {calls : Nat → Option Chain.Error} {world : World} {count : Nat}

theorem Calm.of_add {first second : Nat} (calm : Calm stores calls count (first + second)) :
    Calm stores calls count first ∧ Calm stores calls (count + first) second :=
  ⟨fun later past before => calm later past (by omega), fun later past before => calm later (by omega) (by omega)⟩

theorem Calm.perform (calm : Calm stores calls count 1) (operation : Operation) :
    (hindered (fun state => order state.1) stores calls).perform (world, count) operation =
      (((environment order).perform world operation).1, ((environment order).perform world operation).2,
        count + 1) := by
  obtain ⟨stores, calls⟩ := calm count (Nat.le_refl _) (Nat.lt_succ_self _)
  have nothing : operation.due? none none = none := by cases operation <;> rfl
  simp only [hindered, stores, calls, nothing]
  rfl

theorem Calm.finish_store {protocol : Protocol} {entries : List (Nat × Bytes)}
    (calm : Calm stores calls count ((environment order).storeEvents protocol entries world).length) :
    Environment.finish ((hindered (fun state => order state.1) stores calls).store protocol) entries (world, count) =
      ((Environment.finish ((environment order).store protocol) entries world).1,
        (Environment.finish ((environment order).store protocol) entries world).2,
        count + ((environment order).storeEvents protocol entries world).length) := by
  induction entries generalizing world count with
  | nil => rfl
  | cons entry rest ih =>
    rw [Environment.storeEvents, List.length_cons, Nat.add_comm _ 1] at calm ⊢
    obtain ⟨first, others⟩ := calm.of_add
    rw [← Nat.add_assoc, Environment.finish, Environment.store, first.perform]
    simp only
    rw [ih others]
    rfl

theorem Calm.finish_retrieve {limit : Duration} {entries : List (Nat × Except Storage.Error (Protocol × String))}
    (calm : Calm stores calls count ((environment order).retrieveEvents limit entries world).length) :
    Environment.finish ((hindered (fun state => order state.1) stores calls).retrieve limit) entries (world, count) =
      ((Environment.finish ((environment order).retrieve limit) entries world).1,
        (Environment.finish ((environment order).retrieve limit) entries world).2,
        count + ((environment order).retrieveEvents limit entries world).length) := by
  induction entries generalizing world count with
  | nil => rfl
  | cons entry rest ih =>
    obtain ⟨position, err | ⟨protocol, uri⟩⟩ := entry
    · rw [Environment.finish, Environment.retrieve]
      simp only
      rw [ih calm]
      rfl
    · rw [Environment.retrieveEvents, List.length_cons, Nat.add_comm _ 1] at calm ⊢
      obtain ⟨first, others⟩ := calm.of_add
      rw [← Nat.add_assoc, Environment.finish, Environment.retrieve, first.perform]
      simp only
      rw [ih others]
      rfl

/-- Up to the first failure that is due, a hindered world goes on as it would otherwise. -/
theorem Calm.runIn {α : Type} {program : Program α}
    (calm : Calm stores calls count (program.transcript (environment order) world).length) :
    program.runIn (hindered (fun state => order state.1) stores calls) (world, count) =
      ((program.runIn (environment order) world).1, (program.runIn (environment order) world).2,
        count + (program.transcript (environment order) world).length) := by
  induction program generalizing world count with
  | done value => rfl
  | perform operation next ih =>
    rw [Program.transcript, List.length_cons, Nat.add_comm _ 1] at calm ⊢
    obtain ⟨first, others⟩ := calm.of_add
    rw [← Nat.add_assoc, Program.runIn, first.perform]
    exact ih _ others
  | storeAll protocol objects next ih =>
    rw [Program.transcript, List.length_append] at calm ⊢
    obtain ⟨first, others⟩ := calm.of_add
    have stored : (hindered (fun state => order state.1) stores calls).storeAll protocol objects (world, count) = _ :=
      first.finish_store
    rw [← Nat.add_assoc, Program.runIn, stored]
    exact ih _ others
  | retrieveAll targets limit next ih =>
    rw [Program.transcript, List.length_append] at calm ⊢
    obtain ⟨first, others⟩ := calm.of_add
    have retrieved : (hindered (fun state => order state.1) stores calls).retrieveAll limit targets (world, count) = _ :=
      first.finish_retrieve
    rw [← Nat.add_assoc, Program.runIn, retrieved]
    exact ih _ others

theorem exists_stopped {ε α : Type} {attempt : Attempt ε α} {result : Except ε α} {after : World}
    (ran : Attempt.runIn (environment order) attempt world = (result, after)) (err : Chain.Error) :
    ∃ calls count, Attempt.runIn (hindered (fun state => order state.1) (fun _ => none) calls) attempt (world, 0) =
        (result, (after, count)) ∧ ∀ call : Chain.Call,
      (hindered (fun state => order state.1) (fun _ => none) calls).perform (after, count) (.chain call) =
        (.error err, (after, count + 1)) := by
  let count := (Attempt.transcript (environment order) attempt world).length
  let calls (performed : Nat) : Option Chain.Error := if performed < count then none else some err
  have calm : Calm (fun _ => none) calls 0 count := fun performed _ before => ⟨rfl, if_pos (by omega)⟩
  refine ⟨calls, count, ?_, fun call => ?_⟩
  · refine (Calm.runIn calm).trans ?_
    rw [Attempt.run_runIn, ran, Nat.zero_add]
    rfl
  · simp [hindered, Operation.due?, calls]

end

end World

/-- What a world goes through when the failures without a trace are left out. -/
theorem Environment.Hinders.plays {σ : Type} {env : Environment σ} {view : σ → World} (hinders : env.Hinders view)
    {heard : Transcript} {state after : σ} (plays : Plays env heard state after) :
    ∃ kept : Transcript, Plays (environment inOrder) kept (view state) (view after) ∧
      kept.accepted = heard.accepted ∧ ∀ event ∈ heard, event.refused = false → event ∈ kept := by
  induction plays with
  | done state => exact ⟨[], .done _, rfl, List.forall_mem_nil _⟩
  | @step operation answer rest state between after performed others ih =>
    obtain ⟨kept, plays, accepted, members⟩ := ih
    rcases performed ▸ hinders.perform state operation with answered | ⟨refused, same⟩
    · refine ⟨⟨operation, answer⟩ :: kept, .step answered plays, ?_, ?_⟩
      · simp only [Transcript.accepted, List.filterMap_cons] at accepted ⊢
        rw [accepted]
      · intro event member held
        rcases List.mem_cons.mp member with rfl | member
        · exact List.mem_cons_self
        · exact List.mem_cons_of_mem _ (members event member held)
    · refine ⟨kept, same ▸ plays, ?_, ?_⟩
      · simp only [Transcript.accepted, List.filterMap_cons, Event.accepted?_of_refused refused] at accepted ⊢
        exact accepted
      · intro event member held
        rcases List.mem_cons.mp member with rfl | member
        · rw [refused] at held
          cases held
        · exact members event member held

namespace Chain.Ledger

def Unmoved (before after : Ledger) : Prop := ∃ calls, after = { before with calls }

theorem Unmoved.refl (ledger : Ledger) : Unmoved ledger ledger := ⟨ledger.calls, rfl⟩

theorem Unmoved.trans {before between after : Ledger} (first : Unmoved before between)
    (second : Unmoved between after) : Unmoved before after := by
  obtain ⟨_, rfl⟩ := first
  obtain ⟨calls, rfl⟩ := second
  exact ⟨calls, rfl⟩

end Chain.Ledger

namespace World

theorem unmoved_perform {world after : World} {operation : Operation} {answer : operation.Answer}
    (performed : world.perform operation = (answer, after)) (silent : Event.accepted? ⟨operation, answer⟩ = none) :
    world.ledger.Unmoved after.ledger := by
  cases operation with
  | chain call =>
    change world.ask call = (answer, after) at performed
    cases fault : world.fault? call.method with
    | some err =>
      rw [ask_of_fault fault] at performed
      cases performed
      exact .refl _
    | none =>
      rw [ask_of_served fault] at performed
      cases performed
      cases call with
      | broadcast => cases silent
      | _ => exact ⟨_, rfl⟩
  | prove witness =>
    cases performed
    exact .refl _
  | dial protocol _ | store protocol _ | retrieve protocol _ _ =>
    cases performed
    exact (world.ledger_setMemory protocol _) ▸ .refl _

theorem unmoved_of_plays {order : World → (workers : Nat) → Order workers} {heard : Transcript} {world after : World}
    (plays : Plays (environment order) heard world after) (silent : heard.accepted = []) :
    world.ledger.Unmoved after.ledger := by
  induction plays with
  | done => exact .refl _
  | @step operation answer rest _ _ _ performed others ih =>
    obtain ⟨first, later⟩ := List.forall_mem_cons.mp (List.filterMap_eq_nil_iff.mp silent)
    exact (unmoved_perform performed first).trans (ih (List.filterMap_eq_nil_iff.mpr later))

theorem told_of_plays {order : World → (workers : Nat) → Order workers} {heard : Transcript} {world after : World}
    (plays : Plays (environment order) heard world after) (silent : heard.sent = []) {uri : String}
    {record told : Record} (recorded : world.ledger.published.get? uri = some record)
    (asked : ⟨.chain (.publishedData uri), .ok (some told)⟩ ∈ heard) : told = record := by
  obtain ⟨first, rest, rfl⟩ := List.append_of_mem asked
  obtain ⟨between, before, others⟩ := plays.of_append
  rw [Transcript.sent_append, List.append_eq_nil_iff] at silent
  obtain ⟨_, unmoved⟩ := unmoved_of_plays before (Transcript.accepted_eq_nil silent.1)
  cases others with
  | step performed others =>
    obtain ⟨answer, -⟩ := ask_eq_ok performed
    have found : (between.ledger.answer (.publishedData uri)).1 = some record := by
      rw [unmoved]
      exact recorded
    exact Option.some.inj (answer.trans found)

end World

namespace Publish

/-- The chain took one message more, and its record and the networks hold what that message and the metadata say. -/
structure Anchored (before after : World) (protocol : Protocol) (blob : Bytes)
    (dataShardCount parityShardCount : UInt64) (metadataUri : String) (publication : Publication)
    (metadata : Metadata) : Prop where
  named : publication.metadataUri = metadataUri
  broadcast : after.ledger.broadcasts = before.ledger.broadcasts.push (.publishData publication)
  recorded : ∃ record, after.ledger.published.get? metadataUri = some record ∧
    record.shardDoubleHashes = publication.shardDoubleHashes ∧ record.parityShardCount = parityShardCount ∧
    record.dataShardCount? = some dataShardCount.toNat
  described : ∃ bytes, after.object? protocol metadataUri = some bytes ∧ Metadata.ofBytes bytes = .ok metadata
  parity : publication.parityShardCount = parityShardCount ∧ metadata.parityShardCount = parityShardCount
  total : publication.shardDoubleHashes.length = dataShardCount.toNat + parityShardCount.toNat ∧
    metadata.shardUris.length = dataShardCount.toNat + parityShardCount.toNat
  data : metadata.dataShardCount? = some dataShardCount.toNat
  stored : ∀ (index : Nat) (uri : String), metadata.shardUris[index]? = some uri → ∃ shard,
    after.object? protocol uri = some shard ∧ shard.length = metadata.shardSize.toNat ∧
      publication.shardDoubleHashes[index]? = some (doubleHash shard)
  size : metadata.recoveredDataSize.toNat = blob.length
  hash : metadata.recoveredDataHash = recoveredDataHash blob

section

variable {publisher : Publisher} {blob : Bytes} {dataShardCount parityShardCount : UInt64} {tag : String}
  {protocol : Protocol} {encoded : Erasure.Encoded} {shardUris : List String} {metadataUri : String}
  {heard kept : Transcript} {order : World → (workers : Nat) → Order workers} {world between after : World}

theorem Prepared.holds
    (prepared : Prepared blob dataShardCount parityShardCount tag protocol encoded shardUris metadataUri heard)
    (plays : Plays (environment order) kept world between)
    (members : ∀ event ∈ heard, event.refused = false → event ∈ kept) :
    (∃ bytes, (between.memory protocol).Holds metadataUri bytes ∧
      Metadata.ofBytes bytes = .ok (metadataFor blob parityShardCount encoded shardUris)) ∧
    ∀ (index : Nat) (uri : String), shardUris[index]? = some uri → ∃ shard, encoded.shards[index]? = some shard ∧
      (between.memory protocol).Holds uri shard := by
  constructor
  · obtain ⟨bytes, stored, described⟩ := prepared.described
    exact ⟨bytes, World.holds_of_plays plays (members _ stored rfl), described⟩
  · intro index uri found
    obtain ⟨shard, placed, stored⟩ := prepared.held index uri found
    exact ⟨shard, placed, World.holds_of_plays plays (members _ stored rfl)⟩

theorem Prepared.anchored (publisher : Publisher)
    (prepared : Prepared blob dataShardCount parityShardCount tag protocol encoded shardUris metadataUri heard)
    (addressable : blob.length < UInt64.size) (plays : Plays (environment order) kept world between)
    (silent : kept.accepted = []) (members : ∀ event ∈ heard, event.refused = false → event ∈ kept)
    {transactionHash : String}
    (announced : between.perform (.chain (.broadcast (.publishData
      (publicationFor publisher parityShardCount encoded metadataUri)))) = (.ok transactionHash, after)) :
    Anchored world after protocol blob dataShardCount parityShardCount metadataUri
      (publicationFor publisher parityShardCount encoded metadataUri)
      (metadataFor blob parityShardCount encoded shardUris) := by
  obtain ⟨positive, total⟩ := prepared.total
  obtain ⟨described, held⟩ := prepared.holds plays members
  obtain ⟨calls, ledger⟩ := World.unmoved_of_plays plays silent
  obtain ⟨-, rfl⟩ := World.ask_eq_ok announced
  have listed : shardUris.length = dataShardCount.toNat + parityShardCount.toNat := prepared.listed.trans total
  have taken (count : Nat) (same : count = dataShardCount.toNat + parityShardCount.toNat) :
      dataShardCount? count parityShardCount.toNat = some dataShardCount.toNat := by
    rw [dataShardCount?, if_pos (by omega), same, Nat.add_sub_cancel]
  constructor
  case named => rfl
  case broadcast =>
    change (Chain.Ledger.broadcast _ _).2.broadcasts = _
    rw [Chain.Ledger.broadcasts_broadcast, ledger]
  case recorded =>
    refine ⟨_, Table.get?_put_self _ _ _, rfl, rfl, taken _ ?_⟩
    exact (List.length_map _).trans total
  case described =>
    obtain ⟨bytes, holds, read⟩ := described
    exact ⟨bytes, by rw [World.object?, World.memory_ledger, holds.found], read⟩
  case parity => exact ⟨rfl, rfl⟩
  case total => exact ⟨(List.length_map _).trans total, listed⟩
  case data => exact taken _ listed
  case stored =>
    intro index uri found
    obtain ⟨shard, placed, holds⟩ := held index uri found
    have length := Erasure.length_of_mem_shards positive prepared.few prepared.coded shard (List.mem_of_getElem? placed)
    refine ⟨shard, by rw [World.object?, World.memory_ledger, holds.found], ?_, ?_⟩
    · rw [length]
      exact (UInt64.toNat_ofNat_of_lt prepared.sized).symm
    · change (encoded.shards.map doubleHash)[index]? = _
      rw [List.getElem?_map, placed]
      rfl
  case size => exact UInt64.toNat_ofNat_of_lt addressable
  case hash => rfl

end

section

variable {σ : Type} {env : Environment σ} {view : σ → World} {publisher : Publisher} {blob : Bytes}
  {dataShardCount parityShardCount : UInt64} {tag : String} {published : Published} {state after : σ}

theorem announced_of_ok (hinders : env.Hinders view)
    (ran : Attempt.runIn env (publish publisher blob dataShardCount parityShardCount tag) state =
      (.ok published, after)) :
    ∃ protocol encoded shardUris heard kept between,
      Prepared blob dataShardCount parityShardCount tag protocol encoded shardUris published.metadataUri heard ∧
      (Attempt.transcript env (publish publisher blob dataShardCount parityShardCount tag) state).sent =
        [.publishData (publicationFor publisher parityShardCount encoded published.metadataUri)] ∧
      Plays (environment inOrder) kept (view state) between ∧ kept.accepted = [] ∧
      (∀ event ∈ heard, event.refused = false → event ∈ kept) ∧
      between.perform (.chain (.broadcast (.publishData
        (publicationFor publisher parityShardCount encoded published.metadataUri)))) =
          (.ok published.transactionHash, view after) := by
  have path := Program.path_runIn env (publish publisher blob dataShardCount parityShardCount tag).run state
  have plays := Plays.runIn env (publish publisher blob dataShardCount parityShardCount tag).run state
  rw [Attempt.run_runIn, ran] at path plays
  obtain ⟨protocol, encoded, shardUris, before, prepared, heard⟩ := (course_of_path path).of_ok
  rw [heard] at plays
  obtain ⟨between, preparing, announcing⟩ := plays.of_append
  obtain ⟨kept, world, silent, members⟩ := hinders.plays preparing
  have quiet := silent.trans (Transcript.accepted_eq_nil prepared.silent)
  cases announcing with
  | step performed others =>
    cases others
    rcases performed ▸ hinders.perform between _ with announced | ⟨refused, -⟩
    · refine ⟨protocol, encoded, shardUris, before, kept, _, prepared, ?_, world, quiet, members, announced⟩
      rw [Attempt.transcript, heard, Transcript.sent_append, prepared.silent]
      rfl
    · cases refused

theorem quiet_of_error (hinders : env.Hinders view) {err : Error}
    (ran : Attempt.runIn env (publish publisher blob dataShardCount parityShardCount tag) state = (.error err, after)) :
    ∃ kept, Plays (environment inOrder) kept (view state) (view after) ∧ kept.accepted = [] := by
  have path := Program.path_runIn env (publish publisher blob dataShardCount parityShardCount tag).run state
  have plays := Plays.runIn env (publish publisher blob dataShardCount parityShardCount tag).run state
  rw [Attempt.run_runIn, ran] at path plays
  obtain ⟨kept, world, accepted, -⟩ := hinders.plays plays
  exact ⟨kept, world, accepted.trans (course_of_path path).of_error⟩

end

/-- A publish anchors what it stored, or it leaves the chain alone, whatever fails and in whatever order uploads end. -/
theorem publish_anchors {σ : Type} {env : Environment σ} {view : σ → World} (hinders : env.Hinders view)
    (publisher : Publisher) (blob : Bytes) (dataShardCount parityShardCount : UInt64) (tag : String) (state : σ)
    (addressable : blob.length < UInt64.size) :
    (∀ published after,
      Attempt.runIn env (publish publisher blob dataShardCount parityShardCount tag) state = (.ok published, after) →
        ∃ protocol publication metadata, Storage.protocolOfTag tag = .ok protocol ∧
          (Attempt.transcript env (publish publisher blob dataShardCount parityShardCount tag) state).sent =
            [.publishData publication] ∧
          Anchored (view state) (view after) protocol blob dataShardCount parityShardCount published.metadataUri
            publication metadata) ∧
    ∀ err after,
      Attempt.runIn env (publish publisher blob dataShardCount parityShardCount tag) state = (.error err, after) →
        (view state).ledger.Unmoved (view after).ledger := by
  constructor
  · intro published after ran
    obtain ⟨protocol, encoded, shardUris, heard, kept, between, prepared, sent, world, quiet, members, announced⟩ :=
      announced_of_ok hinders ran
    exact ⟨protocol, _, _, prepared.tagged, sent,
      prepared.anchored publisher addressable world quiet members announced⟩
  · intro err after ran
    obtain ⟨kept, world, quiet⟩ := quiet_of_error hinders ran
    exact World.unmoved_of_plays world quiet

theorem publish_anchors_ipfs : ∃ publisher : Publisher, ∃ published after protocol publication metadata,
    (Attempt.runIn (environment inOrder) (publish publisher [1, 2, 3] 2 1 "ipfs") .blank).1 = .ok published ∧
      Anchored .blank after protocol [1, 2, 3] 2 1 published.metadataUri publication metadata := by
  let publisher : Publisher := { store := { registry := [.ipfs] }, sender := "alice" }
  obtain ⟨published, after, ran, -⟩ := publish_accepts inOrder publisher [1, 2, 3] 2 1 "ipfs" .blank rfl
    (List.mem_singleton_self _) (by decide) ⟨rfl, rfl, rfl⟩ (by decide) (by decide) (by decide)
  obtain ⟨protocol, publication, metadata, -, -, anchored⟩ := (publish_anchors (World.hinders_environment inOrder)
    publisher [1, 2, 3] 2 1 "ipfs" .blank (by decide)).1 published after ran
  exact ⟨publisher, published, after, protocol, publication, metadata, congrArg Prod.fst ran, anchored⟩

end Publish

end Availability
