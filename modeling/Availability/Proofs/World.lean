import Availability.Proofs.Environment
import Availability.Proofs.Storage.Memory

namespace Availability

namespace Chain.Ledger

theorem apply_kept (ledger : Ledger) (message : Message) :
    (ledger.apply message).blocks = ledger.blocks ∧ (ledger.apply message).height = ledger.height ∧
      (ledger.apply message).broadcasts = ledger.broadcasts := by
  cases message <;> exact ⟨rfl, rfl, rfl⟩

theorem blocks_broadcast (ledger : Ledger) (message : Message) :
    (ledger.broadcast message).2.blocks.toList = ledger.blocks.toList ++ [(ledger.height, message)] := by
  change ((ledger.apply message).blocks.push (ledger.height, message)).toList = _
  rw [(ledger.apply_kept message).1, Array.toList_push]

theorem height_broadcast (ledger : Ledger) (message : Message) : (ledger.broadcast message).2.height = ledger.height :=
  (ledger.apply_kept message).2.1

theorem broadcasts_broadcast (ledger : Ledger) (message : Message) :
    (ledger.broadcast message).2.broadcasts = ledger.broadcasts.push message := by
  change (ledger.apply message).broadcasts.push message = _
  rw [(ledger.apply_kept message).2.2]

end Chain.Ledger

namespace World

theorem ask_of_served {world : World} {call : Chain.Call} (served : world.fault? call.method = none) :
    world.ask call = (.ok (world.ledger.answer call).1, { world with ledger := (world.ledger.answer call).2 }) := by
  rw [ask, served]

theorem ask_of_fault {world : World} {call : Chain.Call} {err : Chain.Error}
    (fault : world.fault? call.method = some err) : world.ask call = (.error err, world) := by
  rw [ask, fault]

theorem ask_eq_ok {world after : World} {call : Chain.Call} {answer : call.Answer}
    (answered : world.ask call = (.ok answer, after)) :
    answer = (world.ledger.answer call).1 ∧ after = { world with ledger := (world.ledger.answer call).2 } := by
  cases fault : world.fault? call.method with
  | none =>
    rw [ask_of_served fault] at answered
    cases answered
    exact ⟨rfl, rfl⟩
  | some err =>
    rw [ask_of_fault fault] at answered
    cases answered

@[simp] theorem memory_setMemory_self (world : World) (protocol : Protocol) (memory : Storage.Memory) :
    (world.setMemory protocol memory).memory protocol = memory := by
  cases protocol <;> rfl

@[simp] theorem memory_setMemory_ne (world : World) {protocol other : Protocol} (memory : Storage.Memory)
    (distinct : other ≠ protocol) : (world.setMemory protocol memory).memory other = world.memory other := by
  cases protocol <;> cases other
  · exact absurd rfl distinct
  · rfl
  · rfl
  · exact absurd rfl distinct

@[simp] theorem ledger_setMemory (world : World) (protocol : Protocol) (memory : Storage.Memory) :
    (world.setMemory protocol memory).ledger = world.ledger := by
  cases protocol <;> rfl

@[simp] theorem faults_setMemory (world : World) (protocol : Protocol) (memory : Storage.Memory) :
    (world.setMemory protocol memory).faults = world.faults := by
  cases protocol <;> rfl

@[simp] theorem memory_ledger (world : World) (ledger : Chain.Ledger) (protocol : Protocol) :
    memory { world with ledger } protocol = world.memory protocol := by
  cases protocol <;> rfl

def blank : World where
  ledger := { params := ⟨1, 8, 1024⟩ }
  ipfs := { protocol := .ipfs }
  arweave := { protocol := .arweave }
  prover := {}

def environment (order : World → (workers : Nat) → Order workers) : Environment World := ⟨perform, order⟩

def inOrder (_ : World) (workers : Nat) : Order workers := ⟨List.range workers, .refl _⟩

section

variable {α : Type}

theorem queue_inOrder (items : List α) (world : World) :
    (environment inOrder).queue items world = items.mapIdx fun position item => (position, item) := by
  have positions : ((environment inOrder).queue items world).map (·.1) = List.range items.length :=
    Environment.queue_positions_eq _ items world
  apply List.ext_getElem (by simpa using congrArg List.length positions)
  intro position inside within
  obtain ⟨entry, here⟩ : ∃ entry, ((environment inOrder).queue items world)[position] = entry := ⟨_, rfl⟩
  have place := congrArg (·[position]?) positions
  simp only [List.getElem?_map, List.getElem?_eq_getElem inside, here, Option.map_some] at place
  obtain ⟨_, same⟩ := List.getElem?_eq_some_iff.mp place.symm
  rw [List.getElem_range] at same
  have queued : items[entry.1]? = some entry.2 := Environment.mem_queue.mp (here ▸ List.getElem_mem inside)
  rw [← same] at queued
  obtain ⟨_, item⟩ := List.getElem?_eq_some_iff.mp queued
  rw [here, List.getElem_mapIdx, item]
  exact Prod.ext same.symm rfl

theorem storeAll_eq_finish (order : World → (workers : Nat) → Order workers) (protocol : Protocol)
    (entries : List (Nat × Bytes)) (world : World) :
    world.storeAll protocol (entries.map (·.2)) =
      ((Environment.finish ((environment order).store protocol) entries world).1.map (·.2),
        (Environment.finish ((environment order).store protocol) entries world).2) := by
  induction entries generalizing world with
  | nil => rfl
  | cons entry rest ih =>
    rw [List.map_cons, storeAll]
    simp only [ih]
    rfl

theorem retrieveAll_eq_finish (order : World → (workers : Nat) → Order workers) (limit : Duration)
    (entries : List (Nat × Except Storage.Error (Protocol × String))) (world : World) :
    world.retrieveAll limit (entries.map (·.2)) =
      ((Environment.finish ((environment order).retrieve limit) entries world).1.map (·.2),
        (Environment.finish ((environment order).retrieve limit) entries world).2) := by
  induction entries generalizing world with
  | nil => rfl
  | cons entry rest ih =>
    obtain ⟨position, target⟩ := entry
    rcases target with err | ⟨protocol, uri⟩
    · simp only [List.map_cons, retrieveAll, ih]
      rfl
    · simp only [List.map_cons, retrieveAll, ih]
      rfl

theorem collect_finish_inOrder {β : Type} (work : α → World → β × World) (items : List α) (world : World) :
    Indexed.collect (Environment.finish work ((environment inOrder).queue items world) world).1 =
      (Environment.finish work ((environment inOrder).queue items world) world).1 := by
  apply Indexed.collect_of_ascending
  rw [← List.pairwise_map, Environment.finish_positions, Environment.queue_positions_eq]
  exact List.pairwise_lt_range.imp Nat.le_of_lt

/-- A program runs to its end as it does in the world whose workers end in the order of their positions. -/
theorem run_eq_runIn (program : Program α) (world : World) :
    program.run world = program.runIn (environment inOrder) world := by
  have items {β : Type} (list : List β) : (list.mapIdx fun position item => (position, item)).map (·.2) = list := by
    apply List.ext_getElem (by simp)
    simp
  induction program generalizing world with
  | done value => rfl
  | perform operation next ih => exact ih _ _
  | storeAll protocol objects next ih =>
    have stored := storeAll_eq_finish inOrder protocol ((environment inOrder).queue objects world) world
    rw [queue_inOrder, items, ← queue_inOrder] at stored
    simp only [Program.run, Program.runIn, Environment.storeAll, stored, collect_finish_inOrder]
    exact ih _ _
  | retrieveAll targets limit next ih =>
    have retrieved := retrieveAll_eq_finish inOrder limit ((environment inOrder).queue targets world) world
    rw [queue_inOrder, items, ← queue_inOrder] at retrieved
    simp only [Program.run, Program.runIn, Environment.retrieveAll, retrieved, collect_finish_inOrder]
    exact ih _ _

end

def object? (world : World) (protocol : Protocol) (uri : String) : Option Bytes :=
  (world.memory protocol).objects.get? uri

def Proper (world : World) : Prop := ∀ protocol, (world.memory protocol).protocol = protocol

theorem proper_blank : blank.Proper := by
  intro protocol
  cases protocol <;> rfl

theorem Proper.ledger {world : World} (proper : world.Proper) (ledger : Chain.Ledger) :
    Proper { world with ledger } := by
  intro protocol
  rw [memory_ledger]
  exact proper protocol

section

variable {protocol : Protocol}

/-- No object that was stored is lost, no uri is given twice, and the chain is left alone. -/
structure Kept (protocol : Protocol) (before after : World) : Prop where
  held : ∀ {uri object}, (before.memory protocol).Holds uri object → (after.memory protocol).Holds uri object
  unused : ∀ {uri}, (after.memory protocol).Unused uri → (before.memory protocol).Unused uri
  proper : before.Proper → after.Proper
  ledger : after.ledger = before.ledger
  faults : after.faults = before.faults

theorem Kept.refl (world : World) : Kept protocol world world := ⟨id, id, id, rfl, rfl⟩

theorem Kept.trans {before between after : World} (first : Kept protocol before between)
    (second : Kept protocol between after) : Kept protocol before after where
  held := fun held => second.held (first.held held)
  unused := fun unused => first.unused (second.unused unused)
  proper := fun proper => second.proper (first.proper proper)
  ledger := second.ledger.trans first.ledger
  faults := second.faults.trans first.faults

theorem memory_store (world : World) (protocol : Protocol) (object : Bytes) :
    (world.store protocol object).2.memory protocol = ((world.memory protocol).store object).2 :=
  world.memory_setMemory_self protocol _

theorem kept_store (world : World) (protocol : Protocol) (object : Bytes) :
    Kept protocol world (world.store protocol object).2 where
  held := by
    intro uri other held
    rw [memory_store]
    exact held.store object
  unused := by
    intro uri unused
    rw [memory_store] at unused
    exact unused.of_store
  proper := by
    intro proper other
    by_cases same : other = protocol
    · rw [same, memory_store, Storage.Memory.protocol_store]
      exact proper protocol
    · exact (congrArg Storage.Memory.protocol (world.memory_setMemory_ne _ same)).trans (proper other)
  ledger := world.ledger_setMemory protocol _
  faults := world.faults_setMemory protocol _

structure Stored (protocol : Protocol) (entries : List (Nat × Bytes)) (before : World)
    (finished : List (Nat × Except Storage.Error String)) (after : World) : Prop where
  kept : Kept protocol before after
  unused : ∀ {position uri}, (position, .ok uri) ∈ finished → (before.memory protocol).Unused uri
  held : ∀ {position uri}, (position, .ok uri) ∈ finished →
    ∃ object, (position, object) ∈ entries ∧ (after.memory protocol).Holds uri object
  distinct : ∀ {first second uri}, (first, .ok uri) ∈ finished → (second, .ok uri) ∈ finished → first = second

theorem stored_finish (env : Environment World) (performs : env.perform = perform) (protocol : Protocol)
    (entries : List (Nat × Bytes)) (world : World) :
    Stored protocol entries world (Environment.finish (env.store protocol) entries world).1
      (Environment.finish (env.store protocol) entries world).2 := by
  induction entries generalizing world with
  | nil =>
    refine ⟨.refl world, ?_, ?_, ?_⟩
    · intro position uri member
      cases member
    · intro position uri member
      cases member
    · intro first second uri member
      cases member
  | cons entry rest ih =>
    obtain ⟨position, object⟩ := entry
    have store : env.store protocol object world = world.store protocol object := by
      rw [Environment.store, performs]
      rfl
    simp only [Environment.finish, store]
    have kept := world.kept_store protocol object
    have later := ih (world.store protocol object).2
    have held {uri} (stored : Except.ok uri = (world.store protocol object).1) :
        ((world.store protocol object).2.memory protocol).Holds uri object := by
      rw [memory_store]
      exact Storage.Memory.holds_of_store stored.symm
    have apart {place uri} (stored : Except.ok uri = (world.store protocol object).1)
        (member : (place, .ok uri) ∈
          (Environment.finish (env.store protocol) rest (world.store protocol object).2).1) : False :=
      (held stored).ne_of_unused (later.unused member) rfl
    refine ⟨kept.trans later.kept, ?_, ?_, ?_⟩
    · intro place uri member
      rcases List.mem_cons.mp member with here | member
      · exact Storage.Memory.unused_of_store (Prod.ext_iff.mp here).2.symm
      · exact kept.unused (later.unused member)
    · intro place uri member
      rcases List.mem_cons.mp member with here | member
      · obtain ⟨rfl, stored⟩ := Prod.ext_iff.mp here
        exact ⟨object, List.mem_cons_self, later.kept.held (held stored)⟩
      · obtain ⟨other, listed, held⟩ := later.held member
        exact ⟨other, List.mem_cons_of_mem _ listed, held⟩
    · intro first second uri one other
      rcases List.mem_cons.mp one with here | one
      · rcases List.mem_cons.mp other with there | other
        · exact (Prod.ext_iff.mp here).1.trans (Prod.ext_iff.mp there).1.symm
        · exact (apart (Prod.ext_iff.mp here).2 other).elim
      · rcases List.mem_cons.mp other with there | other
        · exact (apart (Prod.ext_iff.mp there).2 one).elim
        · exact later.distinct one other

end

section

def lookup (world : World) (limit : Duration) : Except Storage.Error (Protocol × String) → Except Storage.Error Bytes
  | .error err => .error err
  | .ok (protocol, uri) => (world.memory protocol).lookup uri limit

structure Alike (before after : World) : Prop where
  lookup : ∀ limit target, after.lookup limit target = before.lookup limit target
  published : after.ledger.published = before.ledger.published
  faults : after.faults = before.faults

theorem Alike.refl (world : World) : Alike world world := ⟨fun _ _ => rfl, rfl, rfl⟩

theorem Alike.trans {before between after : World} (first : Alike before between) (second : Alike between after) :
    Alike before after where
  lookup := fun limit target => (second.lookup limit target).trans (first.lookup limit target)
  published := second.published.trans first.published
  faults := second.faults.trans first.faults

theorem alike_retrieve (world : World) (protocol : Protocol) (uri : String) (limit : Duration) :
    Alike world (world.retrieve protocol uri limit).2 where
  lookup := by
    rintro limit (err | ⟨other, uri⟩)
    · rfl
    · by_cases same : other = protocol
      · subst same
        exact (congrArg (Storage.Memory.lookup · uri limit) (world.memory_setMemory_self other _)).trans rfl
      · exact congrArg (Storage.Memory.lookup · uri limit) (world.memory_setMemory_ne _ same)
  published := congrArg Chain.Ledger.published (world.ledger_setMemory protocol _)
  faults := world.faults_setMemory protocol _

theorem alike_ledger (world : World) {ledger : Chain.Ledger} (same : ledger.published = world.ledger.published) :
    Alike world { world with ledger } where
  lookup := by
    rintro limit (err | ⟨protocol, uri⟩)
    · rfl
    · cases protocol <;> rfl
  published := same
  faults := rfl

theorem alike_ask_publishedData (world : World) (uri : String) : Alike world (world.ask (.publishedData uri)).2 := by
  cases fault : world.fault? (Chain.Call.publishedData uri).method with
  | none =>
    rw [ask_of_served fault]
    exact world.alike_ledger rfl
  | some err =>
    rw [ask_of_fault fault]
    exact .refl world

variable (order : World → (workers : Nat) → Order workers)

theorem retrieve_eq (limit : Duration) (target : Except Storage.Error (Protocol × String)) (world : World) :
    ((environment order).retrieve limit target world).1 = world.lookup limit target ∧
      Alike world ((environment order).retrieve limit target world).2 := by
  rcases target with err | ⟨protocol, uri⟩
  · exact ⟨rfl, .refl world⟩
  · exact ⟨rfl, world.alike_retrieve protocol uri limit⟩

theorem finish_retrieve (limit : Duration) (entries : List (Nat × Except Storage.Error (Protocol × String)))
    (world : World) :
    (Environment.finish ((environment order).retrieve limit) entries world).1 =
        entries.map (fun entry => (entry.1, world.lookup limit entry.2)) ∧
      Alike world (Environment.finish ((environment order).retrieve limit) entries world).2 := by
  induction entries generalizing world with
  | nil => exact ⟨rfl, .refl world⟩
  | cons entry rest ih =>
    obtain ⟨result, alike⟩ := retrieve_eq order limit entry.2 world
    obtain ⟨results, later⟩ := ih ((environment order).retrieve limit entry.2 world).2
    refine ⟨?_, alike.trans later⟩
    simp only [Environment.finish, List.map_cons, result, results]
    congr 1
    exact List.map_congr_left fun other _ => by rw [alike.lookup]

variable {order} in
/-- Whatever order the retrievals end in, each target is looked up in the world as it was. -/
theorem mem_retrieveAll {limit : Duration} {targets : List (Except Storage.Error (Protocol × String))} {world : World}
    {position : Nat} {result : Except Storage.Error Bytes} :
    (position, result) ∈ ((environment order).retrieveAll limit targets world).1 ↔
      ∃ target, targets[position]? = some target ∧ world.lookup limit target = result := by
  obtain ⟨results, -⟩ := finish_retrieve order limit ((environment order).queue targets world) world
  rw [Environment.retrieveAll, results]
  simp only [List.mem_map, Prod.mk.injEq]
  constructor
  · rintro ⟨⟨_, target⟩, queued, rfl, looked⟩
    exact ⟨target, Environment.mem_queue.mp queued, looked⟩
  · rintro ⟨target, listed, looked⟩
    exact ⟨(position, target), Environment.mem_queue.mpr listed, rfl, looked⟩

theorem collect_retrieveAll (limit : Duration) (target : String → Except Storage.Error (Protocol × String))
    (uris : List String) (world : World) :
    Indexed.collect ((environment order).retrieveAll limit (uris.map target) world).1 =
        (List.range uris.length).map (fun index => (index, world.lookup limit (target (uris.getD index "")))) ∧
      Alike world ((environment order).retrieveAll limit (uris.map target) world).2 := by
  have complete := (environment order).retrieveAll_complete limit (uris.map target) world
  rw [List.length_map] at complete
  refine ⟨Indexed.collect_eq_map complete ?_, (finish_retrieve order limit _ world).2⟩
  intro position result member
  obtain ⟨_, listed, rfl⟩ := mem_retrieveAll.mp member
  rw [List.getElem?_map, Option.map_eq_some_iff] at listed
  obtain ⟨uri, here, rfl⟩ := listed
  rw [List.getD_eq_getElem?_getD, here]
  rfl

end

end World

end Availability
