import Availability.Chain
import Availability.Prover
import Availability.Storage

namespace Availability

/-- What a node asks of the chain, the prover and the storage networks, one indivisible step each. -/
inductive Operation where
  | chain (call : Chain.Call)
  | prove (witness : Witness)
  | dial (protocol : Protocol) (source : String)
  | store (protocol : Protocol) (object : Bytes)
  | retrieve (protocol : Protocol) (uri : String) (limit : Duration)

abbrev Operation.Answer : Operation → Type
  | .chain call => Except Chain.Error call.Answer
  | .prove _ => Except Prover.Error Proof
  | .dial .. => Except Storage.Error Unit
  | .store .. => Except Storage.Error String
  | .retrieve .. => Except Storage.Error Bytes

/-- A program that performs operations and goes on with their answers. -/
inductive Program (α : Type) : Type where
  | done (value : α)
  | perform (operation : Operation) (next : operation.Answer → Program α)
  /-- Stores all objects at the same time; the answers are in the order of the objects. -/
  | storeAll (protocol : Protocol) (objects : List Bytes) (next : List (Except Storage.Error String) → Program α)
  /-- Retrieves all targets at the same time, except those that already failed. -/
  | retrieveAll (targets : List (Except Storage.Error (Protocol × String))) (limit : Duration)
      (next : List (Except Storage.Error Bytes) → Program α)

namespace Program

variable {α β : Type}

def bind : Program α → (α → Program β) → Program β
  | .done value, rest => rest value
  | .perform operation next, rest => .perform operation fun answer => (next answer).bind rest
  | .storeAll protocol objects next, rest => .storeAll protocol objects fun answers => (next answers).bind rest
  | .retrieveAll targets limit next, rest =>
    .retrieveAll targets limit fun answers => (next answers).bind rest

instance : Monad Program where
  pure := .done
  bind := bind

end Program

abbrev Attempt (ε : Type) := ExceptT ε Program

namespace Attempt

variable {ε δ α : Type}

def ofExcept (result : Except ε α) : Attempt ε α := ExceptT.mk (.done result)

def orFail (program : Program (Except δ α)) (f : δ → ε) : Attempt ε α :=
  ExceptT.mk (program.bind fun result => .done (result.mapError f))

end Attempt

namespace Program

def ask (call : Chain.Call) : Program (Except Chain.Error call.Answer) := .perform (.chain call) .done

def prove (witness : Witness) : Program (Except Prover.Error Proof) := .perform (.prove witness) .done

end Program

end Availability
