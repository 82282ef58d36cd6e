import Availability.Proofs.Audit.Docket
import Availability.Proofs.Schedule

namespace Availability

open Program (Path pausesFor)
open World (environment inOrder)

namespace Store

variable (store : Store)

theorem waits_connectSource (uri source : String) : (store.connectSource uri source).Waits 0 := by
  unfold connectSource
  split
  · exact trivial
  · cases store.registry.backendForUri uri with
    | error err => exact trivial
    | ok protocol => exact fun answer => trivial

theorem waits_fetchMetadata (uri : String) : (store.fetchMetadata uri).Waits 1 := by
  unfold fetchMetadata retrieve
  cases store.registry.backendForUri uri with
  | error err => exact trivial
  | ok protocol =>
    refine ⟨0, Nat.le_refl 1, fun answer => ?_⟩
    cases answer <;> exact trivial

theorem length_locate {shardUris : List String} {indices : List Nat} {located : List (Nat × String)}
    (found : locate shardUris indices = .ok located) : located.length = indices.length := by
  cases first : indices.find? (shardUris.length ≤ ·) with
  | some index =>
    rw [locate_eq_error first] at found
    cases found
  | none =>
    have inside : ∀ index ∈ indices, index < shardUris.length := by simpa using first
    rw [locate_eq_ok shardUris inside] at found
    cases found
    exact List.length_map _

theorem waits_fetchShards (shardUris : List String) (indices : List Nat) (policy : Indexed.Policy) :
    (store.fetchShards shardUris indices policy).Waits (1 + pausesFor indices.length) := by
  unfold fetchShards
  cases found : locate shardUris indices with
  | error err => exact trivial
  | ok located =>
    refine ⟨0, ?_, fun answers => trivial⟩
    rw [List.length_map, length_locate found, Nat.zero_add]

end Store

namespace Audit

theorem waits_decide (store : Store) (task : Task) : (decide store task).Waits (2 + pausesFor task.shardCount) := by
  have metadata : (store.fetchMetadata task.metadataUri).Waits 1 := store.waits_fetchMetadata task.metadataUri
  have shards (uris : List String) :
      (store.fetchShards uris (List.range task.shardCount) .tolerate).Waits (1 + pausesFor task.shardCount) := by
    have waits := store.waits_fetchShards uris (List.range task.shardCount) .tolerate
    rwa [List.length_range] at waits
  have waits : (decide store task).Waits (1 + (1 + pausesFor task.shardCount)) := by
    refine Program.Waits.bind metadata fun listing => ?_
    cases listing with
    | error err => exact trivial
    | ok metadata =>
      simp only
      cases requirement task metadata with
      | error reason => exact trivial
      | ok required =>
        refine Program.Waits.last (shards metadata.shardUris) fun fetched => ?_
        cases fetched <;> exact trivial
  exact waits.mono (by omega)

/-- An audit waits for the metadata and for the shards, and for nothing else. -/
theorem waits_audit (auditor : Auditor) (task : Task) : (audit auditor task).Waits (2 + pausesFor task.shardCount) := by
  refine (Attempt.Direct.ask (.publishedData task.metadataUri) _).waits.after fun record? => ?_
  cases record? with
  | none => exact trivial
  | some record =>
    cases auditable : record.status.auditable with
    | false =>
      simp only [auditable]
      exact trivial
    | true =>
      simp only [auditable]
      refine (Attempt.waits_lift (auditor.store.waits_connectSource _ _)).after fun _ => ?_
      have acts (verdict : Verdict) := (direct_act auditor task.metadataUri verdict).waits
      exact (Attempt.waits_lift (waits_decide auditor.store task)).bind acts

namespace Docket

open Schedule (Turn Affords)
open Watcher (auditJob startAudits)

variable {docket : Docket} {schedule next : Schedule} {after : World} {indices : List Nat}

theorem run_of_plays (auditor : Auditor) (docket : Docket) {heard : Transcript}
    (plays : Plays (environment inOrder) heard docket.world after) :
    ∃ log, Run auditor docket { docket with world := after, log } := by
  generalize begun : docket.world = start at plays
  induction plays generalizing docket with
  | done state =>
    subst begun
    exact ⟨docket.log, .refl⟩
  | step performed others ih =>
    subst begun
    obtain ⟨log, run⟩ := ih ⟨_, docket.audits, docket.log ++ [(none, ⟨_, _⟩)]⟩ rfl
    exact ⟨log, .head (.others performed) run⟩

def Runs (docket : Docket) (index : Nat) (job : Job) : Prop :=
  ∃ ongoing, docket.audits[index]? = some ongoing ∧ job.program = ongoing.rest.bind fun _ => .done ()

/-- Every job is what is left of an audit, each of another one, and an audit without a job has ended. -/
structure Held (docket : Docket) (schedule : Schedule) (indices : List Nat) : Prop where
  runs : List.Forall₂ docket.Runs indices schedule.jobs
  apart : indices.Nodup
  ended : ∀ index ongoing, docket.audits[index]? = some ongoing → index ∉ indices →
    ∃ result, ongoing.rest = .done result

theorem Held.insert {job : Job} {jobs : List Job} (held : docket.Held ⟨job :: jobs⟩ indices) :
    ∃ places, docket.Held ⟨Schedule.insert job jobs⟩ places := by
  have moved : Relation.Comp (List.Forall₂ docket.Runs) List.Perm indices (Schedule.insert job jobs) :=
    ⟨job :: jobs, held.runs, (Schedule.insert_perm job jobs).symm⟩
  rw [List.forall₂_comp_perm_eq_perm_comp_forall₂] at moved
  obtain ⟨places, same, runs⟩ := moved
  refine ⟨places, runs, same.nodup_iff.mp held.apart, ?_⟩
  intro index ongoing here outside
  exact held.ended index ongoing here (same.mem_iff.not.mpr outside)

theorem Held.goes {job : Job} {jobs : List Job} {heard : Transcript} {last : Program Unit}
    (held : docket.Held ⟨job :: jobs⟩ indices) (auditor : Auditor) (path : Path job.program heard last)
    (plays : Plays (environment inOrder) heard docket.world after) :
    ∃ later, Run auditor docket later ∧ later.world = after ∧ later.tasks = docket.tasks ∧
      ∀ moved : Job, moved.program = last → later.Held ⟨moved :: jobs⟩ indices := by
  obtain ⟨index, indices, ⟨⟨task, rest⟩, here, left⟩, runs, rfl⟩ := List.forall₂_cons_right_iff.mp held.runs
  -- The job is the audit and nothing behind it, so it gets no further than the audit does.
  obtain ⟨reached, on, onward⟩ : ∃ reached, Path rest heard reached ∧ last = reached.bind fun _ => .done () := by
    rw [left] at path
    rcases path.of_bind with ⟨reached, on, same⟩ | ⟨value, first, second, rfl, on, stopped⟩
    · exact ⟨reached, on, same⟩
    · obtain ⟨rfl, rfl⟩ := stopped.of_done
      exact ⟨.done value, (List.append_nil first).symm ▸ on, rfl⟩
  obtain ⟨inside, -⟩ := List.getElem?_eq_some_iff.mp here
  refine ⟨_, run_of_path docket index here on plays, rfl, tasks_set here reached, ?_⟩
  intro moved same
  have distinct : ∀ other ∈ indices, other ≠ index := fun other member same =>
    (List.nodup_cons.mp held.apart).1 (same ▸ member)
  refine ⟨.cons ⟨⟨task, reached⟩, List.getElem?_set_self inside, same.trans onward⟩ ?_, held.apart, ?_⟩
  · refine ((List.forall₂_and_left indices jobs).mpr ⟨distinct, runs⟩).imp fun other job here => ?_
    obtain ⟨different, ongoing, listed, left⟩ := here
    exact ⟨ongoing, (List.getElem?_set_ne different.symm).trans listed, left⟩
  · intro other ongoing listed outside
    rw [List.getElem?_set_ne (List.ne_of_not_mem_cons outside).symm] at listed
    exact held.ended other ongoing listed outside

theorem Held.finishes {job : Job} {jobs : List Job} (held : docket.Held ⟨job :: jobs⟩ indices)
    (stopped : job.program = .done ()) : ∃ others, docket.Held ⟨jobs⟩ others := by
  obtain ⟨index, others, ⟨⟨task, rest⟩, here, left⟩, runs, rfl⟩ := List.forall₂_cons_right_iff.mp held.runs
  refine ⟨others, runs, (List.nodup_cons.mp held.apart).2, ?_⟩
  intro other ongoing listed outside
  by_cases same : other = index
  · subst same
    cases here.symm.trans listed
    rw [stopped] at left
    cases rest with
    | done result => exact ⟨result, rfl⟩
    | _ => cases left
  · exact held.ended other ongoing listed (List.not_mem_cons_of_ne_of_not_mem same outside)

/-- A turn is a run of the audit whose turn it is. -/
theorem Held.turn (held : docket.Held schedule indices) (auditor : Auditor)
    (turn : Turn schedule docket.world next after) :
    ∃ later places, Run auditor docket later ∧ later.world = after ∧ later.tasks = docket.tasks ∧
      later.Held next places := by
  generalize begun : docket.world = world at turn
  cases turn with
  | @pauses job jobs =>
    have same (moved : Job) (kept : moved.program = job.program) : docket.Held ⟨moved :: jobs⟩ indices := by
      obtain ⟨index, others, ⟨ongoing, here, left⟩, runs, rfl⟩ := List.forall₂_cons_right_iff.mp held.runs
      exact ⟨.cons ⟨ongoing, here, kept.trans left⟩ runs, held.apart, held.ended⟩
    obtain ⟨places, held⟩ := (same { job with pauses := job.pauses - 1, turns := job.turns - 1 } rfl).insert
    exact ⟨docket, places, .refl, begun, rfl, held⟩
  | @finishes job jobs _ _ ready went =>
    subst begun
    obtain ⟨heard, path, plays⟩ := Program.path_advance job.program docket.world
    rw [went] at path plays
    obtain ⟨later, run, level, tasks, holds⟩ := held.goes auditor path plays
    obtain ⟨others, held⟩ := (holds { job with program := .done () } rfl).finishes rfl
    exact ⟨later, others, run, level, tasks, held⟩
  | @waits job jobs _ _ span pauses program ready went =>
    subst begun
    obtain ⟨heard, path, plays⟩ := Program.path_advance job.program docket.world
    rw [went] at path plays
    obtain ⟨later, run, level, tasks, holds⟩ := held.goes auditor path plays
    obtain ⟨places, held⟩ := (holds ⟨job.time + span.nanoseconds, pauses, job.turns - 1, program⟩ rfl).insert
    exact ⟨later, places, run, level, tasks, held⟩

theorem Held.opens (held : docket.Held schedule indices) (auditor : Auditor) (time : Nat) (task : Task) :
    ∃ places, Held { docket with audits := docket.audits ++ [⟨task, (audit auditor task).run⟩] }
      (schedule.start (auditJob auditor time task)) places := by
  have known := held.runs.imp fun index job here =>
    And.intro (List.getElem?_eq_some_iff.mp here.choose_spec.1).1 here
  obtain ⟨inside, -⟩ := (List.forall₂_and_left indices schedule.jobs).mp known
  have opened : Held { docket with audits := docket.audits ++ [⟨task, (audit auditor task).run⟩] }
      ⟨auditJob auditor time task :: schedule.jobs⟩ (docket.audits.length :: indices) := by
    refine ⟨.cons ⟨_, List.getElem?_concat_length, rfl⟩ ?_, ?_, ?_⟩
    · refine known.imp fun index job here => ?_
      obtain ⟨inside, ongoing, listed, left⟩ := here
      exact ⟨ongoing, (List.getElem?_append_left inside).trans listed, left⟩
    · exact List.nodup_cons.mpr ⟨fun member => Nat.lt_irrefl _ (inside _ member), held.apart⟩
    · intro index ongoing listed outside
      have other : index ≠ docket.audits.length := List.ne_of_not_mem_cons outside
      have within : index < (docket.audits ++ [_]).length := (List.getElem?_eq_some_iff.mp listed).1
      rw [List.length_append, List.length_singleton] at within
      rw [List.getElem?_append_left (by omega)] at listed
      exact held.ended index ongoing listed (List.not_mem_of_not_mem_cons outside)
  exact opened.insert

theorem Held.startAudits (held : docket.Held schedule indices) (auditor : Auditor) (time : Nat) (tasks : List Task) :
    ∃ later places, Run auditor docket later ∧ later.world = docket.world ∧ later.tasks = docket.tasks ++ tasks ∧
      later.Held (Watcher.startAudits auditor time tasks schedule) places := by
  induction tasks generalizing docket schedule indices with
  | nil => exact ⟨docket, indices, .refl, rfl, (List.append_nil _).symm, held⟩
  | cons task rest ih =>
    obtain ⟨places, opened⟩ := held.opens auditor time task
    obtain ⟨later, others, run, level, tasks, held⟩ := ih opened
    refine ⟨later, others, .head (.opens docket task) run, level, ?_, held⟩
    rw [tasks, Docket.tasks, List.map_append, List.append_assoc]
    rfl

theorem affords_auditJob (auditor : Auditor) (time : Nat) (task : Task) : Affords (auditJob auditor time task) := by
  refine ⟨2 + pausesFor task.shardCount, (waits_audit auditor task).map, ?_⟩
  change 0 + (2 + pausesFor task.shardCount) + 1 ≤ 3 + pausesFor task.shardCount
  omega

theorem affords_startAudits (affords : ∀ job ∈ schedule.jobs, Affords job) (auditor : Auditor) (time : Nat)
    (tasks : List Task) : ∀ job ∈ (startAudits auditor time tasks schedule).jobs, Affords job := by
  induction tasks generalizing schedule with
  | nil => exact affords
  | cons task rest ih =>
    exact ih (Schedule.affords_insert.mpr ⟨affords_auditJob auditor time task, affords⟩)

end Docket

end Audit

end Availability
