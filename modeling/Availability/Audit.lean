import Availability.Audit.Submission
import Availability.Shuffle
import Availability.Text.Quoted

namespace Availability.Audit

inductive Error where
  | chain (error : Chain.Error)
  | submit (error : SubmitError)
  | noValidator
  | deputyMismatch (validator expected : String) (found : Option String)
deriving DecidableEq

def Error.message : Error → String
  | .chain error => error.message
  | .submit error => error.message
  | .noValidator => "No validator address configured"
  | .deputyMismatch validator expected found =>
    let found := match found with
      | some deputy => "Some(" ++ Text.quoted deputy ++ ")"
      | none => "None"
    s!"Validator {validator} delegates proofs to {found}, not to {expected}"

/-- The operator's switches; a node with both off only detects. -/
structure Policy where
  submitChallenge : Bool := false
  submitProof : Bool := false
deriving DecidableEq

inductive Outcome where
  | notIndexed
  | notReady (status : Status)
  | alreadyProved
  | fraud (reason : FraudReason) (challengeTransaction invalidityTransaction : Option String)
  | valid (submission : Option Submission)
deriving DecidableEq

structure Auditor where
  store : Store
  account : Account
  policy : Policy

def Auditor.provingFor? (auditor : Auditor) : Option String :=
  if auditor.policy.submitProof then auditor.account.validator else none

def assignment (validator : String) (shardCount : Nat) : Program (Except Chain.Error (List Nat)) := do
  match ← Program.ask (.proofThreshold shardCount) with
  | .ok threshold => return .ok (sampleIndices validator threshold shardCount)
  | .error err => return .error err

def challenge (auditor : Auditor) (metadataUri : String) : Attempt Error (Option String) :=
  if auditor.policy.submitChallenge then
    let message : Message := .challengeForFraud auditor.account.sender metadataUri
    some <$> Attempt.orFail (Program.ask (.broadcast message)) .chain
  else return none

def actOnFraud (auditor : Auditor) (metadataUri : String) (reason : FraudReason) (evidence : Evidence) :
    Attempt Error Outcome := do
  let challengeTransaction ← challenge auditor metadataUri
  let invalidityTransaction ← match auditor.provingFor? with
    | none => pure none
    | some validator => do
      let assigned ← Attempt.orFail (assignment validator evidence.shardCount) .chain
      let missing := assigned.filter fun index => !evidence.isValid index
      (reportMissing auditor.account metadataUri missing).adapt .submit
  return .fraud reason challengeTransaction invalidityTransaction

def actOnValid (auditor : Auditor) (metadataUri : String) (evidence : Evidence) : Attempt Error Outcome :=
  match auditor.provingFor? with
  | none => return .valid none
  | some validator => do
    if ← Attempt.orFail (Program.ask (.hasValidityProof metadataUri validator)) .chain then
      return .alreadyProved
    let assigned ← Attempt.orFail (assignment validator evidence.shardCount) .chain
    let submission ← (submit auditor.account metadataUri evidence assigned).adapt .submit
    return .valid (some submission)

def audit (auditor : Auditor) (task : Task) : Attempt Error Outcome := do
  let uri := task.metadataUri
  match ← Attempt.orFail (Program.ask (.publishedData uri)) .chain with
  | none => return .notIndexed
  | some record =>
    if !record.status.auditable then return .notReady record.status
    let _ ← ExceptT.lift (auditor.store.connectSource uri task.dataSourceInfo).run
    match ← ExceptT.lift (decide auditor.store task) with
    | .fraud reason evidence => actOnFraud auditor uri reason evidence
    | .valid evidence => actOnValid auditor uri evidence

/-- Proofs are only accepted from the deputy that the validator registered on chain. -/
def verifyDeputy (account : Account) : Attempt Error Unit := do
  let some validator := account.validator | throw .noValidator
  let deputy ← Attempt.orFail (Program.ask (.proofDeputy validator)) .chain
  if deputy ≠ some account.sender then throw (.deputyMismatch validator account.sender deputy)

end Availability.Audit
