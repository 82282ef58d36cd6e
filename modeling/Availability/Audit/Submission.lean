import Availability.Audit.Verdict

namespace Availability

structure Account where
  sender : String
  validator : Option String
deriving DecidableEq

namespace Audit

inductive SubmitError where
  | noValidator
  | prover (index : Nat) (error : Prover.Error)
  | chain (error : Chain.Error)
deriving DecidableEq

def SubmitError.message : SubmitError → String
  | .noValidator => "No validator address configured"
  | .prover index error => s!"Failed to prove shard {index}: {error.message}"
  | .chain error => error.message

structure Submission where
  proved : List Nat
  unprovable : List Nat
  validityTransaction : Option String
  invalidityTransaction : Option String
deriving DecidableEq

def proveAll : List (Nat × Bytes) → Attempt SubmitError (List Proof)
  | [] => return []
  | (index, shard) :: rest => do
    let proof ← Attempt.orFail (Program.prove (.ofShard shard)) (.prover index)
    let proofs ← proveAll rest
    return proof :: proofs

def submitInvalidity (account : Account) (metadataUri : String) (indices : List Nat) :
    Attempt SubmitError String :=
  Attempt.orFail (Program.ask (.broadcast (.submitInvalidity account.sender metadataUri indices))) .chain

/-- Sends nothing for an empty list. -/
def reportMissing (account : Account) (metadataUri : String) (indices : List Nat) :
    Attempt SubmitError (Option String) :=
  if indices.isEmpty then return none
  else return some (← submitInvalidity account metadataUri indices)

/-- Proves every sampled shard that the evidence holds and reports the others. A shard that cannot be
proved ends the submission before anything is broadcast. -/
def submit (account : Account) (metadataUri : String) (evidence : Evidence) (sample : List Nat) :
    Attempt SubmitError Submission := do
  let some validator := account.validator | throw .noValidator
  let (proved, unprovable) := sample.partition evidence.isValid
  let proofs ← proveAll (proved.filterMap fun index => (evidence.shard? index).map (index, ·))
  let validityTransaction ←
    if proved.isEmpty then pure none
    else
      let message : Message := .submitValidityProof account.sender validator metadataUri proved proofs
      some <$> Attempt.orFail (Program.ask (.broadcast message)) .chain
  let invalidityTransaction ← reportMissing account metadataUri unprovable
  return { proved, unprovable, validityTransaction, invalidityTransaction }

end Audit

end Availability
