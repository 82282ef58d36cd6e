import Availability.Chain.Ledger
import Availability.Program
import Availability.Storage.Memory

namespace Availability

structure World where
  ledger : Chain.Ledger
  ipfs : Storage.Memory
  arweave : Storage.Memory
  prover : Prover.Local
  faults : List (Chain.Method × Chain.Error) := []

namespace World

def memory (world : World) : Protocol → Storage.Memory
  | .ipfs => world.ipfs
  | .arweave => world.arweave

def setMemory (world : World) (protocol : Protocol) (memory : Storage.Memory) : World :=
  match protocol with
  | .ipfs => { world with ipfs := memory }
  | .arweave => { world with arweave := memory }

def fault? (world : World) (method : Chain.Method) : Option Chain.Error :=
  (world.faults.find? (·.1 = method)).map (·.2)

/-- A failed call leaves no trace. -/
def ask (world : World) (call : Chain.Call) : Except Chain.Error call.Answer × World :=
  match world.fault? call.method with
  | some err => (.error err, world)
  | none =>
    let (answer, ledger) := world.ledger.answer call
    (.ok answer, { world with ledger })

def store (world : World) (protocol : Protocol) (object : Bytes) : Except Storage.Error String × World :=
  let (answer, memory) := (world.memory protocol).store object
  (answer, world.setMemory protocol memory)

def retrieve (world : World) (protocol : Protocol) (uri : String) (limit : Duration) :
    Except Storage.Error Bytes × World :=
  let (answer, memory) := (world.memory protocol).retrieve uri limit
  (answer, world.setMemory protocol memory)

def perform (world : World) : (operation : Operation) → operation.Answer × World
  | .chain call => world.ask call
  | .prove witness =>
    let (answer, prover) := world.prover.prove witness
    (answer, { world with prover })
  | .dial protocol source =>
    let (answer, memory) := (world.memory protocol).dial source
    (answer, world.setMemory protocol memory)
  | .store protocol object => world.store protocol object
  | .retrieve protocol uri limit => world.retrieve protocol uri limit

def storeAll (world : World) (protocol : Protocol) : List Bytes → List (Except Storage.Error String) × World
  | [] => ([], world)
  | object :: rest =>
    let (answer, world) := world.store protocol object
    let (answers, world) := world.storeAll protocol rest
    (answer :: answers, world)

def retrieveAll (world : World) (limit : Duration) : List (Except Storage.Error (Protocol × String)) →
    List (Except Storage.Error Bytes) × World
  | [] => ([], world)
  | .error err :: rest =>
    let (answers, world) := world.retrieveAll limit rest
    (.error err :: answers, world)
  | .ok (protocol, uri) :: rest =>
    let (answer, world) := world.retrieve protocol uri limit
    let (answers, world) := world.retrieveAll limit rest
    (answer :: answers, world)

end World

def Program.run {α : Type} : Program α → World → α × World
  | .done value, world => (value, world)
  | .perform operation next, world =>
    let (answer, world) := world.perform operation
    (next answer).run world
  | .storeAll protocol objects next, world =>
    let (answers, world) := world.storeAll protocol objects
    (next answers).run world
  | .retrieveAll targets limit next, world =>
    let (answers, world) := world.retrieveAll limit targets
    (next answers).run world

end Availability
