import Availability.Client
import Availability.Prover
import Availability.Url.Reader

/-! A prover behind a service that holds the proving key. -/

namespace Availability.Client.ProvingService

def readReply : Except Fault Response → Except Prover.Error Proof
  | .error fault => .error (.backend fault.message)
  | .ok response =>
    match response.status with
    | 200 =>
      match response.member "proof" Json.toText? with
      | .error fault => .error (.backend fault.message)
      | .ok text => (Hex.decode (Bytes.ofText text)).mapError fun err =>
          .backend ("Proof is not valid hex: " ++ err.message)
    | 503 => .error .missingProvingKey
    | _ => .error (.backend ("Prover service error: " ++ response.unexpected))

/-- A witness whose hashes do not belong together is not worth a request. -/
def prove (settings : ProverSettings) (witness : Witness) : Exchange Prover.Error Proof :=
  let shardHash := Hex.encode witness.shardHash.toBytes
  let doubleHash := Hex.encode witness.shardDoubleHash.toBytes
  if !witness.consistent then
    .settled (.error (.malformedWitness (shardHash ++ " does not hash to " ++ doubleHash)))
  else
    match settings.url.join "prove" with
    | .error err => .settled (.error (.backend err.message))
    | .ok url =>
      let body := Json.object [("shard_hash", .text shardHash), ("shard_double_hash", .text doubleHash)]
      .ask { method := .post, url, payload := .json body } readReply

end Availability.Client.ProvingService
