import Availability.Proofs.Audit.Docket
import Availability.Proofs.Lookup

namespace Availability

namespace Audit

open World (environment inOrder)
open Program (Path)

section

variable {validator metadataUri : String}

theorem proved_of_performed {operation : Operation} {answer : operation.Answer} {before after : World}
    (performed : before.perform operation = (answer, after))
    (either : (metadataUri, validator) ∈ before.ledger.validityProofs ∨
      Proves validator metadataUri ⟨operation, answer⟩) :
    (metadataUri, validator) ∈ after.ledger.validityProofs := by
  have counted : ∃ calls, (World.unreliable inOrder fun _ => none).perform (before, 0) operation =
      (answer, after, calls) := by
    cases operation with
    | chain call =>
      refine ⟨1, ?_⟩
      rw [unreliable_of_spared inOrder (fun _ => none) rfl]
      exact congrArg (fun result => (result.1, result.2, 1)) performed
    | _ => exact ⟨0, congrArg (fun result => (result.1, result.2, 0)) performed⟩
  obtain ⟨calls, counted⟩ := counted
  exact proved_perform inOrder (fun _ => none) counted either

variable {auditor : Auditor} {start docket : Docket}

namespace Docket

theorem Run.proved (run : Run auditor start docket) (fresh : start.log = []) {entry : Option Nat × Event}
    (member : entry ∈ docket.log) (proves : Proves validator metadataUri entry.2) :
    (metadataUri, validator) ∈ docket.world.ledger.validityProofs := by
  induction run with
  | refl =>
    rw [fresh] at member
    cases member
  | tail _ step ih =>
    rcases step.moves with ⟨same, drift⟩ | ⟨party, event, grown, performed⟩
    · rw [drift.proofs]
      exact ih (same ▸ member)
    · rw [grown] at member
      apply proved_of_performed performed
      rcases List.mem_append.mp member with earlier | here
      · exact .inl (ih earlier)
      · obtain rfl := List.mem_singleton.mp here
        exact .inr proves

theorem Run.denied (run : Run auditor start docket) (fresh : start.log = []) {earlier : Log} {party : Option Nat}
    (within : earlier ++ [(party, ⟨.chain (.hasValidityProof metadataUri validator), .ok false⟩)] <+: docket.log) :
    ∀ entry ∈ earlier, ¬ Proves validator metadataUri entry.2 := by
  intro entry member proves
  obtain ⟨before, after, first, -, -, rfl, -, performed⟩ := run.entry fresh within
  obtain ⟨denied, -⟩ := World.ask_eq_ok performed
  have proved := first.proved fresh member proves
  have told : before.world.ledger.validityProofs.contains (metadataUri, validator) = false := denied.symm
  rw [List.contains_iff_mem.mpr proved] at told
  cases told

end Docket

/-- Whenever a second validity proof is sent for a record, its audit is another one than that of the first proof and
has asked the chain before the chain took that one. So audits that do not overlap send one proof at most. -/
theorem proofs_overlap (run : Docket.Run auditor start docket) (fresh : start.log = []) (idle : start.audits = [])
    {before middle rest : Log} {first : Option Nat × Event} {index : Nat} {event : Event} {sender : String}
    {indices : List Nat} {proofs : List Proof}
    (log : docket.log = before ++ first :: (middle ++ (some index, event) :: rest))
    (proves : Proves validator metadataUri first.2)
    (sent : event.sent? = some (.submitValidityProof sender validator metadataUri indices proofs)) :
    first.1 ≠ some index ∧
      (some index, ⟨.chain (.hasValidityProof metadataUri validator), .ok false⟩) ∈ before ∧
        ∃ task, docket.tasks[index]? = some task ∧ task.metadataUri = metadataUri ∧
          auditor.provingFor? = some validator := by
  have took := proves
  obtain ⟨other, proved, listed, took⟩ := took
  have within : (before ++ first :: middle) ++ [(some index, event)] <+: docket.log := ⟨rest, by simp [log]⟩
  obtain ⟨task, named, underway⟩ := run.underway fresh idle within
  have cautious := underway.cautious
  have spoken : Message.submitValidityProof sender validator metadataUri indices proofs ∈
      (Log.heard (before ++ first :: middle) index ++ [event]).sent :=
    List.mem_filterMap.mpr ⟨event, by simp, sent⟩
  obtain ⟨proving, told⟩ := cautious.checked _ _ _ _ _ spoken
  refine ⟨?_, ?_, task, named, (cautious.about _ spoken).1.symm, proving⟩
  · intro same
    have whole : Log.heard (before ++ first :: middle) index ++ [event] =
        before.heard index ++ ([first.2] ++ (middle.heard index ++ [event])) := by
      simp [Log.heard, List.filterMap_append, same]
    have one : Transcript.sent [first.2] = [.submitValidityProof other validator metadataUri proved listed] := by
      simp [Transcript.sent, Event.sent?_of_accepted? took]
    have two : Transcript.sent [event] = [.submitValidityProof sender validator metadataUri indices proofs] := by
      simp [Transcript.sent, sent]
    have both : [.submitValidityProof other validator metadataUri proved listed,
        .submitValidityProof sender validator metadataUri indices proofs].Sublist
          (Log.heard (before ++ first :: middle) index ++ [event]).sent := by
      rw [whole, Transcript.sent_append, Transcript.sent_append, Transcript.sent_append, one, two]
      exact ((List.Sublist.refl [_]).append (List.sublist_append_right _ _)).trans (List.sublist_append_right _ _)
    cases cautious.once both rfl
  · have asked : ⟨.chain (.hasValidityProof metadataUri validator), .ok false⟩ ∈
        Log.heard (before ++ first :: middle) index := by
      refine (List.mem_append.mp told).resolve_right fun last => ?_
      obtain rfl := List.mem_singleton.mp last
      cases sent
    rcases List.mem_append.mp ((Log.mem_heard _ _).mp asked) with early | late
    · exact early
    -- After the first proof the chain denies no more that there is one.
    rcases List.mem_cons.mp late with rfl | late
    · cases took
    · obtain ⟨between, others, rfl⟩ := List.append_of_mem late
      have denied : (before ++ first :: between) ++
          [(some index, ⟨.chain (.hasValidityProof metadataUri validator), .ok false⟩)] <+: docket.log :=
        ⟨others ++ (some index, event) :: rest, by simp [log]⟩
      exact absurd proves (run.denied fresh denied first (by simp))

end

def submitAssigned (auditor : Auditor) (metadataUri : String) (evidence : Evidence) (validator : String) :
    Attempt Error Outcome :=
  Attempt.orFail (Program.ask (.proofThreshold evidence.shardCount)) .chain >>= fun threshold =>
    (submit auditor.account metadataUri evidence (sampleIndices validator threshold evidence.shardCount)).adapt .submit
      >>= fun submission => pure (.valid (some submission))

structure Steady (validator : String) (evidence : Evidence) (world : World) : Prop where
  faultless : world.faults = []
  keyed : world.prover.missingKey = false
  sound : world.prover.fault = none
  held : evidence.provable
    (sampleIndices validator (min world.ledger.proofThreshold evidence.shardCount) evidence.shardCount) ≠ []

structure Ready (auditor : Auditor) (task : Task) (validator : String) (evidence : Evidence) (world : World) :
    Prop where
  steady : Steady validator evidence world
  recorded : ∃ record, world.ledger.published.get? task.metadataUri = some record ∧ record.status.auditable = true
  judged : verdictIn world auditor.store task = .valid evidence
  fresh : (task.metadataUri, validator) ∉ world.ledger.validityProofs

section

variable {auditor : Auditor} {task : Task} {validator : String} {evidence : Evidence} {world after : World}

theorem Steady.served (steady : Steady validator evidence world) (call : Chain.Call) :
    (environment inOrder).perform world (.chain call) =
      (.ok (world.ledger.answer call).1, { world with ledger := (world.ledger.answer call).2 }) := by
  have answered : world.fault? call.method = none := by simp [World.fault?, steady.faultless]
  exact World.ask_of_served answered

theorem proofThreshold_answer (ledger : Chain.Ledger) (call : Chain.Call) :
    (ledger.answer call).2.proofThreshold = ledger.proofThreshold := by
  cases call with
  | broadcast message => cases message <;> rfl
  | _ => rfl

theorem prove_kept (prover : Prover.Local) (witness : Witness) :
    (prover.prove witness).2.missingKey = prover.missingKey ∧ (prover.prove witness).2.fault = prover.fault := by
  unfold Prover.Local.prove
  cases prover.dueFault? with
  | some reason => exact ⟨rfl, rfl⟩
  | none =>
    simp only
    split
    · exact ⟨rfl, rfl⟩
    split <;> exact ⟨rfl, rfl⟩

theorem Steady.same (steady : Steady validator evidence world) (same : SameChain world after) :
    Steady validator evidence after where
  faultless := same.faults.trans steady.faultless
  keyed := (congrArg Prover.Local.missingKey same.prover).trans steady.keyed
  sound := (congrArg Prover.Local.fault same.prover).trans steady.sound
  held := by
    rw [same.ledger]
    exact steady.held

theorem Steady.performed (steady : Steady validator evidence world) {operation : Operation}
    {answer : operation.Answer} (performed : (environment inOrder).perform world operation = (answer, after)) :
    Steady validator evidence after := by
  obtain ⟨faultless, keyed, sound, held⟩ := steady
  cases operation with
  | chain call =>
    rw [Steady.served ⟨faultless, keyed, sound, held⟩ call] at performed
    cases performed
    refine ⟨faultless, keyed, sound, ?_⟩
    rw [proofThreshold_answer]
    exact held
  | prove witness =>
    cases performed
    obtain ⟨key, fault⟩ := prove_kept world.prover witness
    exact ⟨faultless, key.trans keyed, fault.trans sound, held⟩
  | dial protocol source | store protocol object | retrieve protocol object limit =>
    cases performed
    exact Steady.same ⟨faultless, keyed, sound, held⟩ (sameChain_setMemory ⟨rfl, rfl, rfl⟩ protocol _)

theorem Steady.plays (steady : Steady validator evidence world) {heard : Transcript}
    (plays : Plays (environment inOrder) heard world after) : Steady validator evidence after :=
  plays.preserves (Steady validator evidence) (fun _ _ steady => steady.performed rfl) steady

theorem Steady.proves_shard (steady : Steady validator evidence world) (shard : Bytes) :
    ∃ proof after, (environment inOrder).perform world (.prove (.ofShard shard)) = (.ok proof, after) ∧
      Steady validator evidence after := by
  have performed : (environment inOrder).perform world (.prove (.ofShard shard)) =
      (.ok (Prover.proofOf (.ofShard shard)), { world with prover := (world.prover.prove (.ofShard shard)).2 }) := by
    have proved := congrArg Prod.fst (prove_ofShard steady.keyed steady.sound shard)
    exact Prod.ext proved rfl
  exact ⟨_, _, performed, steady.performed performed⟩

theorem Steady.proves_submit (steady : Steady validator evidence world)
    (named : auditor.account.validator = some validator) (metadataUri : String) {sample : List Nat}
    (held : evidence.provable sample ≠ []) :
    ∃ event ∈ Attempt.transcript (environment inOrder) (submit auditor.account metadataUri evidence sample) world,
      Proves validator metadataUri event := by
  obtain ⟨proofs, ready, ran, still⟩ :=
    proveAll_served (fun state shard (steady : Steady validator evidence state) => steady.proves_shard shard)
      (evidence.holdings sample) steady
  let message : Message :=
    .submitValidityProof auditor.account.sender validator metadataUri (evidence.provable sample) proofs
  refine ⟨⟨.chain (.broadcast message), .ok (ready.ledger.answer (.broadcast message)).1⟩, ?_, _, _, _, rfl⟩
  rw [submit_eq named, Attempt.transcript_bind_of_ok _ ran, validityMessage?, if_neg held, announce,
    Attempt.transcript_bind, transcript_offer, still.served]
  simp [message]

theorem Steady.proves (steady : Steady validator evidence world) (proving : auditor.provingFor? = some validator)
    (metadataUri : String) :
    ∃ event ∈ Attempt.transcript (environment inOrder) (submitAssigned auditor metadataUri evidence validator) world,
      Proves validator metadataUri event := by
  have served := steady.served (.proofThreshold evidence.shardCount)
  obtain ⟨event, member, proves⟩ :=
    (steady.performed served).proves_submit (Auditor.validator_of_provingFor proving) metadataUri steady.held
  refine ⟨event, ?_, proves⟩
  unfold submitAssigned
  rw [Attempt.transcript_ask_bind, served]
  simp only [Attempt.transcript_bind_pure, Attempt.transcript_adapt]
  exact List.mem_cons_of_mem _ member

theorem Ready.denied (ready : Ready auditor task validator evidence world)
    (proving : auditor.provingFor? = some validator) (sourceless : task.dataSourceInfo = "") :
    ∃ heard later, Path (audit auditor task).run heard
        (submitAssigned auditor task.metadataUri evidence validator).run ∧
      Plays (environment inOrder) heard world later ∧ Ready auditor task validator evidence later := by
  obtain ⟨steady, ⟨record, recorded, auditable⟩, judged, fresh⟩ := ready
  let asked : World := { world with ledger := (world.ledger.answer (.publishedData task.metadataUri)).2 }
  have published : (environment inOrder).perform world (.chain (.publishedData task.metadataUri)) =
      (.ok (some record), asked) := by
    rw [steady.served]
    exact Prod.ext (congrArg Except.ok recorded) rfl
  have alike : World.Alike world asked := world.alike_ledger rfl
  obtain ⟨examined, decided, still⟩ := decide_looked_up inOrder auditor.store task asked
  rw [verdictIn_of_alike alike, judged] at decided
  have decides := Program.path_runIn (environment inOrder) (decide auditor.store task) asked
  have judging := Plays.runIn (environment inOrder) (decide auditor.store task) asked
  have same := sameChain_of_storageOnly inOrder (storageOnly_decide auditor.store task) asked
  rw [decided] at decides judging same
  have kept : Steady validator evidence examined := (steady.performed published).same same
  let later : World :=
    { examined with ledger := (examined.ledger.answer (.hasValidityProof task.metadataUri validator)).2 }
  have unproved : (task.metadataUri, validator) ∉ examined.ledger.validityProofs := by
    rw [same.ledger]
    exact fresh
  have denies : (environment inOrder).perform examined (.chain (.hasValidityProof task.metadataUri validator)) =
      (.ok false, later) := by
    rw [kept.served]
    exact Prod.ext (congrArg Except.ok (by simpa [Chain.Ledger.answer] using unproved)) rfl
  refine ⟨_, later, ?_, .step published (judging.append (.step denies (.done later))), ?_⟩
  · unfold audit
    apply Attempt.path_ask_bind
    simp only [auditable, Bool.not_true, Bool.false_eq_true, if_false, sourceless]
    have skipped : Path (auditor.store.connectSource task.metadataUri "").run [] (.done (.ok ())) := .refl _
    apply Attempt.path_lift_bind skipped
    apply Attempt.path_lift_bind decides
    change Path (actOnValid auditor task.metadataUri evidence).run _ _
    rw [actOnValid_eq _ _ _ proving]
    exact Attempt.path_ask_bind (.refl _)
  · refine ⟨kept.performed denies, ⟨record, ?_, auditable⟩, ?_, ?_⟩
    · exact (congrArg (fun ledger => Table.get? ledger.published task.metadataUri) same.ledger).trans recorded
    · have unchanged : World.Alike examined later := examined.alike_ledger rfl
      rw [verdictIn_of_alike ((alike.trans still).trans unchanged), judged]
    · exact unproved

theorem Ready.overlap (ready : Ready auditor task validator evidence world)
    (proving : auditor.provingFor? = some validator) (sourceless : task.dataSourceInfo = "") :
    ∃ docket before first middle second rest,
      Docket.Run auditor ⟨world, [], []⟩ docket ∧ (∀ entry ∈ docket.log, entry.1 ≠ none) ∧
        Plays (environment inOrder) docket.log.events world docket.world ∧
          docket.log = before ++ (some 0, first) :: (middle ++ (some 1, second) :: rest) ∧
            Proves validator task.metadataUri first ∧ Proves validator task.metadataUri second := by
  let opened : Ongoing := ⟨task, (audit auditor task).run⟩
  let left := (submitAssigned auditor task.metadataUri evidence validator).run
  obtain ⟨heard, between, path, plays, still⟩ := ready.denied proving sourceless
  obtain ⟨heard', denied, path', plays', ready⟩ := still.denied proving sourceless
  -- Both audits have come to the point where they submit. Now the first one goes on to its end, then the second one.
  have submits := Program.path_runIn (environment inOrder) left
  have acts := Plays.runIn (environment inOrder) left
  obtain ⟨first, sent, proves⟩ := ready.steady.proves proving task.metadataUri
  obtain ⟨earlier, later, told⟩ := List.append_of_mem sent
  have steady := ready.steady.plays (acts denied)
  obtain ⟨second, sent', proves'⟩ := steady.proves proving task.metadataUri
  obtain ⟨earlier', later', told'⟩ := List.append_of_mem sent'
  have opens : Docket.Run auditor ⟨world, [], []⟩ ⟨world, [opened, opened], []⟩ :=
    .tail (.single (.opens _ task)) (.opens _ task)
  have run := opens.trans (Docket.run_of_path ⟨world, [opened, opened], []⟩ 0 rfl path plays)
  have run := run.trans (Docket.run_of_path _ 1 rfl path' plays')
  have run := run.trans (Docket.run_of_path _ 0 rfl (submits denied) (acts denied))
  have run := run.trans (Docket.run_of_path _ 1 rfl (submits _) (acts _))
  have whole := (plays.append plays').append ((acts denied).append (acts _))
  have one : Program.transcript (environment inOrder) left denied = earlier ++ first :: later := told
  have two : Program.transcript (environment inOrder) left (left.runIn (environment inOrder) denied).2 =
      earlier' ++ second :: later' := told'
  refine ⟨_, heard.map (some 0, ·) ++ (heard'.map (some 1, ·) ++ earlier.map (some 0, ·)), first,
    later.map (some 0, ·) ++ earlier'.map (some 1, ·), second, later'.map (some 1, ·), run, ?_, ?_, ?_, proves, proves'⟩
  · simp
    grind
  · simpa [Log.events] using whole
  · simp [one, two]

end

theorem exists_ready : ∃ auditor task evidence world,
    Ready auditor task "carol" evidence world ∧ auditor.provingFor? = some "carol" ∧ task.dataSourceInfo = "" := by
  obtain ⟨auditor, task, evidence, sample, world, partly⟩ := exists_partlyHeld
  obtain ⟨proving, sourceless, sound, keyed, faultless, recorded, fresh, judged, rfl, held, lacking⟩ := partly
  refine ⟨auditor, task, evidence, world, ⟨⟨sound, keyed, faultless, held⟩, recorded, ?_, fresh⟩, proving, sourceless⟩
  obtain ⟨_, decided, -⟩ := decide_looked_up inOrder auditor.store task
    { world with ledger := (world.ledger.answer (.publishedData task.metadataUri)).2 }
  rw [decided] at judged
  rw [← verdictIn_of_alike (world.alike_ledger rfl)]
  exact judged

theorem proofs_overlap_twice : ∃ (auditor : Auditor) (task : Task) (world : World) (docket : Docket)
    (validator : String) (before middle rest : Log) (first second : Event),
    Docket.Run auditor ⟨world, [], []⟩ docket ∧
    docket.log = before ++ (some 0, first) :: (middle ++ (some 1, second) :: rest) ∧
      Proves validator task.metadataUri first ∧ Proves validator task.metadataUri second ∧
        (some 1, ⟨.chain (.hasValidityProof task.metadataUri validator), .ok false⟩) ∈ before ∧
          docket.tasks[1]? = some task ∧ auditor.provingFor? = some validator := by
  obtain ⟨auditor, task, evidence, world, ready, proving, sourceless⟩ := exists_ready
  obtain ⟨docket, before, first, middle, second, rest, run, -, -, log, proves, proves'⟩ :=
    ready.overlap proving sourceless
  have took := proves'
  obtain ⟨sender, indices, proofs, took⟩ := took
  obtain ⟨-, asked, same, named, uri, -⟩ := proofs_overlap run rfl rfl log proves (Event.sent?_of_accepted? took)
  refine ⟨auditor, same, world, docket, "carol", before, middle, rest, first, second, run, log, ?_⟩
  rw [uri]
  exact ⟨proves, proves', asked, named, proving⟩

def AtMostOneProof (log : Log) : Prop :=
  ∀ validator metadataUri, log.Pairwise fun first second =>
    ¬ (Proves validator metadataUri first.2 ∧ Proves validator metadataUri second.2)

/-- What an audit is told before it proves need not hold any more when it sends its proof. -/
theorem not_atMostOneProof : ¬ ∀ (auditor : Auditor) (world : World) (docket : Docket),
    Docket.Run auditor ⟨world, [], []⟩ docket → (∀ entry ∈ docket.log, entry.1 ≠ none) →
      Plays (environment inOrder) docket.log.events world docket.world → AtMostOneProof docket.log := by
  intro claim
  obtain ⟨auditor, task, evidence, world, ready, proving, sourceless⟩ := exists_ready
  obtain ⟨docket, before, first, middle, second, rest, run, alone, plays, log, proves, proves'⟩ :=
    ready.overlap proving sourceless
  have once := claim auditor world docket run alone plays "carol" task.metadataUri
  rw [log] at once
  have later := (List.pairwise_cons.mp (List.pairwise_append.mp once).2.1).1
  exact later (some 1, second) (by simp) ⟨proves, proves'⟩

end Audit

end Availability
