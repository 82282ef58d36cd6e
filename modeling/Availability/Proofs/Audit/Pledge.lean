import Availability.Proofs.Audit.Docket

namespace Availability

def Transcript.publications (heard : Transcript) (metadataUri : String) : List Publication :=
  (heard.accepted.filterMap Message.publication?).filter (·.metadataUri = metadataUri)

theorem Transcript.publications_append (heard later : Transcript) (metadataUri : String) :
    publications (heard ++ later) metadataUri = heard.publications metadataUri ++ later.publications metadataUri := by
  simp [publications]

def Transcript.announced (heard : Transcript) : List Publication := heard.accepted.filterMap Message.publication?

@[simp] theorem Transcript.announced_append (heard later : Transcript) :
    announced (heard ++ later) = heard.announced ++ later.announced := by
  simp [announced]

theorem Transcript.mem_announced {heard : Transcript} {publication : Publication} {receipt : String}
    (taken : ⟨.chain (.broadcast (.publishData publication)), .ok receipt⟩ ∈ heard) :
    publication ∈ heard.announced :=
  List.mem_filterMap.mpr ⟨.publishData publication, List.mem_filterMap.mpr ⟨_, taken, rfl⟩, rfl⟩

def Publication.record (publication : Publication) (status : Status) : Record where
  metadataUri := publication.metadataUri
  shardDoubleHashes := publication.shardDoubleHashes
  parityShardCount := publication.parityShardCount
  dataSourceInfo := publication.dataSourceInfo
  status := status

theorem World.published_performed {operation : Operation} {answer : operation.Answer} {before after : World}
    (performed : before.perform operation = (answer, after)) :
    (Transcript.announced [⟨operation, answer⟩] = [] ∧ after.ledger.published = before.ledger.published) ∨
      ∃ publication status, Transcript.announced [⟨operation, answer⟩] = [publication] ∧
        after.ledger.published = before.ledger.published.put publication.metadataUri (publication.record status) := by
  cases operation with
  | chain call =>
    cases fault : before.fault? call.method with
    | some err =>
      have failed : before.ask call = (.error err, before) := World.ask_of_fault fault
      cases failed.symm.trans performed
      have silent : Event.accepted? ⟨.chain call, .error err⟩ = none := Transcript.accepted?_of_failed rfl
      exact .inl ⟨by simp [Transcript.announced, Transcript.accepted, silent], rfl⟩
    | none =>
      have served : before.ask call = _ := World.ask_of_served fault
      cases served.symm.trans performed
      cases call with
      | broadcast message =>
        cases message with
        | publishData publication => exact .inr ⟨publication, before.ledger.statusOnPublish, rfl, rfl⟩
        | _ => exact .inl ⟨rfl, rfl⟩
      | _ => exact .inl ⟨rfl, rfl⟩
  | prove witness =>
    cases performed
    exact .inl ⟨rfl, rfl⟩
  | dial protocol source | store protocol object | retrieve protocol object limit =>
    cases performed
    exact .inl ⟨rfl, congrArg Chain.Ledger.published (before.ledger_setMemory protocol _)⟩

namespace Audit

open World (environment inOrder)
open Program (Path)

def pledgeIn (world : World) (metadataUri : String) : Option Pledge :=
  (world.ledger.published.get? metadataUri).map Record.pledge

/-- A publish replaces what the chain holds of its record, and nothing else does. -/
theorem pledgeIn_performed {operation : Operation} {answer : operation.Answer} {before after : World}
    (performed : before.perform operation = (answer, after)) (metadataUri : String) :
    pledgeIn after metadataUri =
      (((Transcript.publications [⟨operation, answer⟩] metadataUri).getLast?).map Publication.pledge).or
        (pledgeIn before metadataUri) := by
  have listed : Transcript.publications [⟨operation, answer⟩] metadataUri =
      (Transcript.announced [⟨operation, answer⟩]).filter (·.metadataUri = metadataUri) := rfl
  unfold pledgeIn
  rcases World.published_performed performed with ⟨silent, same⟩ | ⟨publication, status, announced, put⟩
  · rw [same, listed, silent]
    rfl
  · rw [put, listed, announced]
    by_cases same : publication.metadataUri = metadataUri
    · subst same
      simp [Table.get?_put_self, Record.pledge, Publication.pledge, Publication.record]
    · rw [Table.get?_put_ne _ _ (Ne.symm same)]
      simp [same]

variable {auditor : Auditor} {start docket : Docket}

theorem Docket.Run.pledgeIn (run : Docket.Run auditor start docket) (fresh : start.log = [])
    (blank : start.world.ledger.published = []) (metadataUri : String) :
    pledgeIn docket.world metadataUri =
      ((docket.log.events.publications metadataUri).getLast?).map Publication.pledge := by
  induction run with
  | refl => simp [Audit.pledgeIn, fresh, blank, Log.events, Transcript.publications, Transcript.accepted, Table.get?]
  | @tail between next run step ih =>
    rcases step.moves with ⟨same, drift⟩ | ⟨party, event, grown, performed⟩
    · rw [same]
      exact (drift.pledges metadataUri).trans ih
    · have events : next.log.events = between.log.events ++ [event] := by simp [grown, Log.events]
      rw [pledgeIn_performed performed, events, Transcript.publications_append, List.getLast?_append, ih,
        Option.map_or]

/-- On what grounds an audit sends a message: on a verdict on its own task, and on a record that holds what the last
publish had promised when the audit asked for it. -/
structure Grounds (auditor : Auditor) (task : Task) (index : Nat) (earlier : Log) (event : Event) (message : Message)
    (record : Record) : Prop where
  about : message.metadataUri = task.metadataUri ∧ message.publication? = none
  judged : ∃ dialled judged later verdict last,
    earlier.heard index ++ [event] =
        ⟨.chain (.publishedData task.metadataUri), .ok (some record)⟩ :: (dialled ++ (judged ++ later)) ∧
      Path (decide auditor.store task) judged (.done verdict) ∧
        Path (act auditor task.metadataUri verdict).run later last
  recorded : ∃ (before rest : Log) (publication : Publication),
    earlier = before ++ (some index, ⟨.chain (.publishedData task.metadataUri), .ok (some record)⟩) :: rest ∧
      (before.events.publications task.metadataUri).getLast? = some publication ∧ record.pledge = publication.pledge

/-- Every message of an audit comes from a verdict on the commitments of its task. The record that the audit was told
of holds those of the last publish before it asked, which may be another one. -/
theorem audit_judges_task (run : Docket.Run auditor start docket) (fresh : start.log = []) (idle : start.audits = [])
    (blank : start.world.ledger.published = []) {earlier : Log} {index : Nat} {event : Event} {message : Message}
    (within : earlier ++ [(some index, event)] <+: docket.log) (sent : event.sent? = some message) :
    ∃ task record, docket.tasks[index]? = some task ∧ Grounds auditor task index earlier event message record := by
  obtain ⟨task, named, underway⟩ := run.underway fresh idle within
  have spoken : message ∈ (earlier.heard index ++ [event]).sent :=
    List.mem_filterMap.mpr ⟨event, by simp, sent⟩
  have about := underway.cautious.about message spoken
  generalize performed : earlier.heard index ++ [event] = heard at underway spoken
  cases underway with
  | silent silent =>
    rw [silent] at spoken
    cases spoken
  | @acting record dialled judged later verdict last auditable dials decides acts =>
    have asked : ⟨.chain (.publishedData task.metadataUri), .ok (some record)⟩ ∈ earlier.heard index := by
      have first : _ ∈ earlier.heard index ++ [event] := performed ▸ List.mem_cons_self
      refine (List.mem_append.mp first).resolve_right fun here => ?_
      cases List.mem_singleton.mp here
      cases sent
    obtain ⟨before, rest, rfl⟩ := List.append_of_mem ((Log.mem_heard _ _).mp asked)
    have answered : before ++ [(some index, ⟨.chain (.publishedData task.metadataUri), .ok (some record)⟩)] <+:
        docket.log := by
      refine List.IsPrefix.trans ⟨rest ++ [(some index, event)], ?_⟩ within
      simp
    obtain ⟨asking, _, first, -, -, rfl, -, told⟩ := run.entry fresh answered
    obtain ⟨found, -⟩ := World.ask_eq_ok told
    have held : pledgeIn asking.world task.metadataUri = some record.pledge :=
      congrArg (Option.map Record.pledge) found.symm
    rw [first.pledgeIn fresh blank] at held
    obtain ⟨publication, last, same⟩ := Option.map_eq_some_iff.mp held
    refine ⟨task, record, named, about, ⟨dialled, judged, later, verdict, _, performed, decides, acts⟩,
      ⟨asking.log, rest, publication, rfl, last, same.symm⟩⟩

def firstPublish : Message := .publishData ⟨"alice", "x", 1, [], ""⟩

def secondPublish : Message := .publishData ⟨"mallory", "x", 2, [], ""⟩

def challenger : Auditor :=
  { store := { registry := [] }, account := ⟨"bob", none⟩, policy := { submitChallenge := true } }

def republished : World :=
  ((World.blank.perform (.chain (.broadcast firstPublish))).2.perform (.chain (.broadcast secondPublish))).2

theorem transcript_republished : ∃ receipt,
    Program.transcript (environment inOrder) (audit challenger ⟨"x", [], 1, ""⟩).run republished =
      [⟨.chain (.publishedData "x"), .ok (some ⟨"x", [], 2, "", .voteExtensionPassed⟩)⟩,
        ⟨.chain (.broadcast (.challengeForFraud "bob" "x")), .ok receipt⟩] := ⟨_, rfl⟩

theorem exists_challenge : ∃ (docket : Docket) (earlier : Log) (event : Event),
    Docket.Run challenger ⟨.blank, [], []⟩ docket ∧ docket.tasks = [⟨"x", [], 1, ""⟩] ∧
      (0, firstPublish) ∈ docket.world.ledger.blocks.toList ∧ docket.log = earlier ++ [(some 0, event)] ∧
        event.sent? = some (.challengeForFraud "bob" "x") ∧
          (some 0, ⟨.chain (.publishedData "x"), .ok (some ⟨"x", [], 2, "", .voteExtensionPassed⟩)⟩) ∈ earlier := by
  let one : Docket := ⟨(World.blank.perform (.chain (.broadcast firstPublish))).2, [],
    [(none, ⟨.chain (.broadcast firstPublish), (World.blank.perform (.chain (.broadcast firstPublish))).1⟩)]⟩
  let two : Docket := ⟨republished, [], one.log ++
    [(none, ⟨.chain (.broadcast secondPublish), (one.world.perform (.chain (.broadcast secondPublish))).1⟩)]⟩
  have published : Docket.Step challenger ⟨.blank, [], []⟩ one :=
    Docket.Step.other _ _ (.chain (.broadcast firstPublish))
  have again : Docket.Step challenger one two := Docket.Step.other _ one (.chain (.broadcast secondPublish))
  have opened := ((Relation.ReflTransGen.single published).tail again).tail (.opens _ ⟨"x", [], 1, ""⟩)
  have run := opened.trans (Docket.run_of_path _ 0 rfl
    (Program.path_runIn (environment inOrder) (audit challenger ⟨"x", [], 1, ""⟩).run republished)
    (Plays.runIn _ _ republished))
  obtain ⟨receipt, told⟩ := transcript_republished
  refine ⟨_, two.log ++ [(some 0, ⟨.chain (.publishedData "x"), .ok (some ⟨"x", [], 2, "", .voteExtensionPassed⟩)⟩)],
    ⟨.chain (.broadcast (.challengeForFraud "bob" "x")), .ok receipt⟩, run, rfl, ?_, ?_, rfl,
    List.mem_append_right _ List.mem_cons_self⟩
  · exact List.mem_cons_self
  · rw [told]
    rfl

theorem audit_judges_task_republished : ∃ (docket : Docket) (earlier : Log) (event : Event) (task : Task)
    (record : Record),
    Docket.Run challenger ⟨.blank, [], []⟩ docket ∧ docket.log = earlier ++ [(some 0, event)] ∧
      docket.tasks[0]? = some task ∧
        Grounds challenger task 0 earlier event (.challengeForFraud "bob" "x") record := by
  obtain ⟨docket, earlier, event, run, -, -, log, sent, -⟩ := exists_challenge
  have within : earlier ++ [(some 0, event)] <+: docket.log := by rw [log]
  obtain ⟨task, record, named, grounds⟩ := audit_judges_task run rfl rfl rfl within sent
  exact ⟨docket, earlier, event, task, record, run, log, named, grounds⟩

/-- The chain may tell an audit another pledge than the one it judges. -/
theorem not_judges_record : ¬ ∀ (auditor : Auditor) (world : World) (docket : Docket),
    Docket.Run auditor ⟨world, [], []⟩ docket → world.ledger.published = [] →
      (∀ task ∈ docket.tasks, ∃ entry ∈ docket.world.ledger.blocks.toList, Task.ofMessage? entry.2 = some task) →
        ∀ (earlier : Log) (index : Nat) (event : Event) (message : Message) (task : Task) (record : Record),
          earlier ++ [(some index, event)] <+: docket.log → event.sent? = some message →
            docket.tasks[index]? = some task →
              (some index, ⟨.chain (.publishedData task.metadataUri), .ok (some record)⟩) ∈ earlier →
                task.pledge = record.pledge := by
  intro claim
  obtain ⟨docket, earlier, event, run, tasks, listed, log, sent, asked⟩ := exists_challenge
  have carried : ∀ task ∈ docket.tasks, ∃ entry ∈ docket.world.ledger.blocks.toList,
      Task.ofMessage? entry.2 = some task := by
    rw [tasks]
    exact List.forall_mem_singleton.mpr ⟨_, listed, rfl⟩
  have within : earlier ++ [(some 0, event)] <+: docket.log := by rw [log]
  have named : docket.tasks[0]? = some ⟨"x", [], 1, ""⟩ := by rw [tasks]; rfl
  have same := claim challenger .blank docket run rfl carried earlier 0 event _ _ _ within sent named asked
  cases congrArg Pledge.parityShardCount same

end Audit

end Availability
