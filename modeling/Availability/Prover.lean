import Availability.Hex
import Availability.Message
import Availability.Wire

namespace Availability

structure Witness where
  shardHash : Digest
  shardDoubleHash : Digest
deriving DecidableEq

namespace Witness

def ofShard (shard : Bytes) : Witness := ⟨hash shard, doubleHash shard⟩

def consistent (witness : Witness) : Bool := hash witness.shardHash.toBytes = witness.shardDoubleHash

open Wire.Format in
def format : Wire.Format Witness :=
  (pair digest digest).map (fun (single, double) => ⟨single, double⟩)
    (fun witness => (witness.shardHash, witness.shardDoubleHash))

end Witness

end Availability

namespace Availability.Prover

inductive Error where
  | malformedWitness (reason : String)
  | missingProvingKey
  | backend (reason : String)
deriving DecidableEq

def Error.message : Error → String
  | .malformedWitness reason => "Malformed witness: " ++ reason
  | .missingProvingKey => "Proving key is not available"
  | .backend reason => reason

structure Local where
  missingKey : Bool := false
  proved : Nat := 0
  fault : Option (String × Nat) := none

def proofOf (witness : Witness) : Proof :=
  (hash (witness.shardHash.toBytes ++ witness.shardDoubleHash.toBytes)).toBytes

namespace Local

def dueFault? (prover : Local) : Option String :=
  match prover.fault with
  | some (reason, after) => if after ≤ prover.proved then some reason else none
  | none => none

def prove (prover : Local) (witness : Witness) : Except Error Proof × Local :=
  match prover.dueFault? with
  | some reason => (.error (.backend reason), prover)
  | none =>
    if prover.missingKey then (.error .missingProvingKey, prover)
    else if !witness.consistent then
      (.error (.malformedWitness (Hex.encode witness.shardHash.toBytes)), prover)
    else (.ok (proofOf witness), { prover with proved := prover.proved + 1 })

end Local

end Availability.Prover
