import Availability.Proofs.Audit.Repeated
import Availability.Proofs.Steps

namespace Availability.Audit

open Program (Path)

section

variable {ε : Type} {heard : Transcript}

theorem sublist_of_path_offer {message : Option Message} {f : Chain.Error → ε}
    {last : Program (Except ε (Option String))} (path : Path (offer message f).run heard last) :
    heard.sent.Sublist message.toList := by
  cases message with
  | none =>
    obtain ⟨rfl, -⟩ := Path.of_done path
    exact .refl _
  | some message =>
    have asking : offer (some message) f =
        Attempt.orFail (Program.ask (.broadcast message)) f >>= fun transaction => pure (some transaction) := rfl
    rw [asking] at path
    rcases Attempt.path_of_ask_bind path with rfl | ⟨err, rfl⟩ | ⟨transaction, later, rfl, ended⟩
    · exact List.nil_sublist _
    · exact .refl _
    · obtain ⟨rfl, -⟩ := Path.of_done ended
      exact .refl _

theorem silent_of_path_proveAll {entries : List (Nat × Bytes)} {last : Program (Except SubmitError (List Proof))}
    (path : Path (proveAll entries).run heard last) : heard.sent = [] := by
  induction entries generalizing heard last with
  | nil =>
    obtain ⟨rfl, -⟩ := Path.of_done path
    rfl
  | cons entry rest ih =>
    have one {first : Transcript} {next} (path : Path (Attempt.orFail (Program.prove (.ofShard entry.2))
        (SubmitError.prover entry.1)).run first next) : first.sent = [] := by
      rcases Path.of_perform path with rfl | ⟨answer, later, rfl, ended⟩
      · rfl
      · obtain ⟨rfl, -⟩ := Path.of_done ended
        rfl
    rcases Attempt.path_of_bind path with ⟨next, started⟩ | ⟨proof, first, second, rfl, proved, others⟩
    · exact one started
    rw [Transcript.sent_append, one proved, List.nil_append]
    rcases Attempt.path_of_bind others with ⟨next, started⟩ | ⟨proofs, third, fourth, rfl, ended, done⟩
    · exact ih started
    · obtain ⟨rfl, -⟩ := Path.of_done done
      rw [List.append_nil]
      exact ih ended

theorem sublist_of_path_announce {validity invalidity : Option Message} {proved unprovable : List Nat}
    {last : Program (Except SubmitError Submission)}
    (path : Path (announce validity invalidity proved unprovable).run heard last) :
    heard.sent.Sublist (validity.toList ++ invalidity.toList) := by
  rcases Attempt.path_of_bind path with ⟨next, started⟩ | ⟨transaction, first, rest, rfl, offered, others⟩
  · exact (sublist_of_path_offer started).trans (List.sublist_append_left _ _)
  rw [Transcript.sent_append]
  refine (sublist_of_path_offer offered).append ?_
  rcases Attempt.path_of_bind others with ⟨next, started⟩ | ⟨report, second, third, rfl, reported, done⟩
  · exact sublist_of_path_offer started
  · obtain ⟨rfl, -⟩ := Path.of_done done
    rw [List.append_nil]
    exact sublist_of_path_offer reported

theorem sublist_of_path_submit {account : Account} {validator metadataUri : String} {evidence : Evidence}
    {sample : List Nat} {last : Program (Except SubmitError Submission)} (named : account.validator = some validator)
    (path : Path (submit account metadataUri evidence sample).run heard last) :
    ∃ proofs, heard.sent.Sublist (submissionMessages account validator metadataUri evidence sample proofs) := by
  rw [submit_eq named] at path
  rcases Attempt.path_of_bind path with ⟨next, started⟩ | ⟨proofs, first, rest, rfl, proved, announced⟩
  · exact ⟨[], silent_of_path_proveAll started ▸ List.nil_sublist _⟩
  · rw [Transcript.sent_append, silent_of_path_proveAll proved, List.nil_append]
    exact ⟨proofs, sublist_of_path_announce announced⟩

end

/-- A message about that record that is neither a publish nor a validity proof. -/
def Accuses (metadataUri : String) (message : Message) : Prop :=
  message.metadataUri = metadataUri ∧ message.publication? = none ∧ message.isValidityProof = false

section

variable (auditor : Auditor) (account : Account) (validator metadataUri : String) (indices : List Nat)

theorem accuses_challengeMessage :
    ∀ message ∈ (challengeMessage? auditor metadataUri).toList, Accuses metadataUri message := by
  unfold challengeMessage?
  split
  · exact List.forall_mem_singleton.mpr ⟨rfl, rfl, rfl⟩
  · exact List.forall_mem_nil _

theorem accuses_invalidityMessage :
    ∀ message ∈ (invalidityMessage? account metadataUri indices).toList, Accuses metadataUri message := by
  unfold invalidityMessage?
  split
  · exact List.forall_mem_nil _
  · exact List.forall_mem_singleton.mpr ⟨rfl, rfl, rfl⟩

theorem validityMessage_eq (proofs : List Proof) :
    (validityMessage? account validator metadataUri indices proofs).toList = [] ∨
      (validityMessage? account validator metadataUri indices proofs).toList =
        [.submitValidityProof account.sender validator metadataUri indices proofs] := by
  unfold validityMessage?
  split
  · exact .inl rfl
  · exact .inr rfl

end

/-- What an audit may have sent so far: nothing about another record, at most one validity proof, and that one only
after the chain has denied that there is one. -/
structure Cautious (auditor : Auditor) (metadataUri : String) (heard : Transcript) : Prop where
  about : ∀ message ∈ heard.sent, message.metadataUri = metadataUri ∧ message.publication? = none
  single : (heard.sent.filter Message.isValidityProof).length ≤ 1
  checked : ∀ sender address uri indices proofs, Message.submitValidityProof sender address uri indices proofs ∈
    heard.sent → auditor.provingFor? = some address ∧ ⟨.chain (.hasValidityProof uri address), .ok false⟩ ∈ heard

section

variable {auditor : Auditor} {metadataUri : String} {evidence : Evidence} {heard : Transcript}
variable {last : Program (Except Error Outcome)}

theorem Cautious.prepend (cautious : Cautious auditor metadataUri heard) {first : Transcript}
    (silent : first.sent = []) : Cautious auditor metadataUri (first ++ heard) := by
  have sent : (first ++ heard).sent = heard.sent := by rw [Transcript.sent_append, silent, List.nil_append]
  constructor
  case about => exact sent ▸ cautious.about
  case single => exact sent ▸ cautious.single
  case checked =>
    intro sender address uri indices proofs member
    obtain ⟨proving, told⟩ := cautious.checked sender address uri indices proofs (sent ▸ member)
    exact ⟨proving, List.mem_append_right first told⟩

theorem Cautious.once (cautious : Cautious auditor metadataUri heard) {first second : Message}
    (both : [first, second].Sublist heard.sent) (proof : first.isValidityProof = true) :
    second.isValidityProof = false := by
  by_contra other
  have kept := (both.filter Message.isValidityProof).length_le.trans cautious.single
  simp [proof, Bool.eq_true_of_not_eq_false other] at kept

theorem filter_isValidityProof_of_accuses {messages : List Message}
    (accuses : ∀ message ∈ messages, Accuses metadataUri message) : messages.filter Message.isValidityProof = [] :=
  List.filter_eq_nil_iff.mpr fun message member => by simp [(accuses message member).2.2]

theorem Cautious.of_accuses (accuses : ∀ message ∈ heard.sent, Accuses metadataUri message) :
    Cautious auditor metadataUri heard := by
  constructor
  case about => exact fun message member => ⟨(accuses message member).1, (accuses message member).2.1⟩
  case single => exact filter_isValidityProof_of_accuses accuses ▸ Nat.zero_le 1
  case checked =>
    intro sender address uri indices proofs member
    cases (accuses _ member).2.2

theorem Cautious.of_silent (silent : heard.sent = []) : Cautious auditor metadataUri heard :=
  .of_accuses (silent ▸ List.forall_mem_nil _)

theorem Cautious.of_denied {validator : String} (proving : auditor.provingFor? = some validator) {sample : List Nat}
    {proofs : List Proof}
    (sent : heard.sent.Sublist (submissionMessages auditor.account validator metadataUri evidence sample proofs)) :
    Cautious auditor metadataUri (⟨.chain (.hasValidityProof metadataUri validator), .ok false⟩ :: heard) := by
  have accuses := accuses_invalidityMessage auditor.account metadataUri (evidence.missing sample)
  have validity := validityMessage_eq auditor.account validator metadataUri (evidence.provable sample) proofs
  unfold submissionMessages at sent
  constructor
  case about =>
    intro message member
    rcases List.mem_append.mp (sent.subset member) with proof | report
    · rcases validity with none | one
      · rw [none] at proof
        cases proof
      · obtain rfl := List.mem_singleton.mp (one ▸ proof)
        exact ⟨rfl, rfl⟩
    · exact ⟨(accuses message report).1, (accuses message report).2.1⟩
  case single =>
    refine (sent.filter Message.isValidityProof).length_le.trans ?_
    rw [List.filter_append, filter_isValidityProof_of_accuses accuses, List.append_nil]
    rcases validity with none | one
    · exact none ▸ Nat.zero_le 1
    · exact one ▸ Nat.le_refl 1
  case checked =>
    intro sender address uri indices listed member
    obtain ⟨-, rfl, rfl, -⟩ := validity_of_mem_submissionMessages (sent.subset member)
    exact ⟨proving, List.mem_cons_self⟩

theorem accuses_of_path_reportAssigned {last : Program (Except Error (Option String))}
    (path : Path (reportAssigned auditor metadataUri evidence).run heard last) :
    ∀ message ∈ heard.sent, Accuses metadataUri message := by
  unfold reportAssigned at path
  cases proving : auditor.provingFor? with
  | none =>
    rw [proving] at path
    obtain ⟨rfl, -⟩ := Path.of_done path
    exact List.forall_mem_nil _
  | some validator =>
    rw [proving] at path
    rcases Attempt.path_of_ask_bind path with rfl | ⟨err, rfl⟩ | ⟨threshold, later, rfl, others⟩
    · exact List.forall_mem_nil _
    · exact List.forall_mem_nil _
    · obtain ⟨next, offered⟩ := Attempt.path_of_adapt others
      exact fun message member =>
        accuses_invalidityMessage _ _ _ message ((sublist_of_path_offer offered).subset member)

theorem cautious_of_path_actOnFraud {reason : FraudReason}
    (path : Path (actOnFraud auditor metadataUri reason evidence).run heard last) :
    Cautious auditor metadataUri heard := by
  have challenged {first : Transcript} {next}
      (path : Path (offer (challengeMessage? auditor metadataUri) Error.chain).run first next) :
      ∀ message ∈ first.sent, Accuses metadataUri message := fun message member =>
    accuses_challengeMessage _ _ message ((sublist_of_path_offer path).subset member)
  apply Cautious.of_accuses
  rw [actOnFraud_eq] at path
  rcases Attempt.path_of_bind path with ⟨next, started⟩ | ⟨transaction, first, rest, rfl, offered, others⟩
  · exact challenged started
  rw [Transcript.sent_append]
  refine List.forall_mem_append.mpr ⟨challenged offered, ?_⟩
  rcases Attempt.path_of_bind others with ⟨next, started⟩ | ⟨report, second, third, rfl, ended, done⟩
  · exact accuses_of_path_reportAssigned started
  · obtain ⟨rfl, -⟩ := Path.of_done done
    rw [List.append_nil]
    exact accuses_of_path_reportAssigned ended

theorem submits_of_path_actOnValid (path : Path (actOnValid auditor metadataUri evidence).run heard last) :
    heard.sent = [] ∨ ∃ validator sample proofs, ∃ later : Transcript, auditor.provingFor? = some validator ∧
      heard = ⟨.chain (.hasValidityProof metadataUri validator), .ok false⟩ :: later ∧
        later.sent.Sublist (submissionMessages auditor.account validator metadataUri evidence sample proofs) := by
  cases proving : auditor.provingFor? with
  | none =>
    rw [actOnValid, proving] at path
    obtain ⟨rfl, -⟩ := Path.of_done path
    exact .inl rfl
  | some validator =>
    rw [actOnValid_eq _ _ _ proving] at path
    rcases Attempt.path_of_ask_bind path with rfl | ⟨err, rfl⟩ | ⟨_ | _, later, rfl, others⟩
    · exact .inl rfl
    · exact .inl rfl
    case inr.inr.true =>
      obtain ⟨rfl, -⟩ := Path.of_done others
      exact .inl rfl
    simp only [Bool.false_eq_true, if_false] at others
    rcases Attempt.path_of_ask_bind others with rfl | ⟨err, rfl⟩ | ⟨threshold, asked, rfl, submits⟩
    · exact .inl rfl
    · exact .inl rfl
    have named := Auditor.validator_of_provingFor proving
    rcases Attempt.path_of_bind submits with ⟨next, started⟩ | ⟨submission, first, rest, rfl, ended, done⟩
    · obtain ⟨_, submitting⟩ := Attempt.path_of_adapt started
      obtain ⟨proofs, sent⟩ := sublist_of_path_submit named submitting
      exact .inr ⟨validator, _, proofs, _, rfl, rfl, sent⟩
    · obtain ⟨_, submitting⟩ := Attempt.path_of_adapt ended
      obtain ⟨proofs, sent⟩ := sublist_of_path_submit named submitting
      obtain ⟨rfl, -⟩ := Path.of_done done
      rw [List.append_nil]
      exact .inr ⟨validator, _, proofs, _, rfl, rfl, sent⟩

theorem cautious_of_path_actOnValid (path : Path (actOnValid auditor metadataUri evidence).run heard last) :
    Cautious auditor metadataUri heard := by
  rcases submits_of_path_actOnValid path with silent | ⟨validator, sample, proofs, later, proving, rfl, sent⟩
  · exact .of_silent silent
  · exact .of_denied proving sent

end

theorem cautious_of_path_act {auditor : Auditor} {metadataUri : String} {heard : Transcript} {verdict : Verdict}
    {last : Program (Except Error Outcome)} (path : Path (act auditor metadataUri verdict).run heard last) :
    Cautious auditor metadataUri heard := by
  cases verdict with
  | fraud reason evidence => exact cautious_of_path_actOnFraud path
  | valid evidence => exact cautious_of_path_actOnValid path

section

variable (auditor : Auditor) (task : Task)

/-- How far an audit may have come: it has sent nothing, or it acts on the verdict on its task, after it was told that
the record is auditable. -/
inductive Underway : Transcript → Prop where
  | silent {heard : Transcript} (silent : heard.sent = []) : Underway heard
  | acting {record : Record} {dialled judged later : Transcript} {verdict : Verdict}
      {last : Program (Except Error Outcome)} (auditable : record.status.auditable = true)
      (dials : dialled.OnStorage) (decides : Path (decide auditor.store task) judged (.done verdict))
      (acts : Path (act auditor task.metadataUri verdict).run later last) :
      Underway (⟨.chain (.publishedData task.metadataUri), .ok (some record)⟩ :: (dialled ++ (judged ++ later)))

variable {auditor task} {heard : Transcript} {last : Program (Except Error Outcome)}

theorem underway_of_path (path : Path (audit auditor task).run heard last) : Underway auditor task heard := by
  unfold audit at path
  rcases Attempt.path_of_ask_bind path with rfl | ⟨err, rfl⟩ | ⟨_ | record, later, rfl, others⟩
  · exact .silent rfl
  · exact .silent rfl
  · obtain ⟨rfl, -⟩ := Path.of_done others
    exact .silent rfl
  cases auditable : record.status.auditable with
  | false =>
    simp only [auditable] at others
    obtain ⟨rfl, -⟩ := Path.of_done others
    exact .silent rfl
  | true =>
    simp only [auditable] at others
    have connects := auditor.store.storageOnly_connectSource task.metadataUri task.dataSourceInfo
    have judges := storageOnly_decide auditor.store task
    rcases Attempt.path_of_lift_bind others with ⟨_, dialling⟩ | ⟨_, dialled, rest, rfl, dials, others⟩
    · exact .silent (connects.path dialling).sent
    rcases Attempt.path_of_lift_bind others with ⟨_, deciding⟩ | ⟨verdict, judged, later, rfl, decides, acts⟩
    · refine .silent ?_
      change (dialled ++ rest).sent = []
      rw [Transcript.sent_append, (connects.path dials).sent, (judges.path deciding).sent, List.nil_append]
    · cases verdict with
      | fraud reason evidence => exact .acting auditable (connects.path dials) decides acts
      | valid evidence => exact .acting auditable (connects.path dials) decides acts

theorem Underway.cautious (underway : Underway auditor task heard) : Cautious auditor task.metadataUri heard := by
  cases underway with
  | silent silent => exact .of_silent silent
  | @acting record dialled judged later verdict last auditable dials decides acts =>
    have judging := ((storageOnly_decide auditor.store task).path decides).sent
    have asked : Transcript.sent [⟨.chain (.publishedData task.metadataUri), .ok (some record)⟩] = [] := rfl
    exact (((cautious_of_path_act acts).prepend judging).prepend dials.sent).prepend asked

end

end Availability.Audit
