import Availability.Hex
import Availability.Storage
import Availability.Table

namespace Availability.Storage

structure Memory where
  protocol : Protocol
  objects : Table Bytes := []
  latency : Duration := ⟨0⟩
  failStores : Bool := false
  failingStores : List Nat := []
  failDials : Bool := false
  dials : Array String := #[]
  stores : Nat := 0
  retrieves : Nat := 0

namespace Memory

/-- The uri of the object stored after `nonce` others: the start of its hash and the number. -/
def uriOf (protocol : Protocol) (object : Bytes) (nonce : Nat) : String :=
  protocol.uriFor (Hex.encode ((hash object).toBytes.take 8) ++ Duration.zeroPadded 4 nonce)

def store (memory : Memory) (object : Bytes) : Except Error String × Memory :=
  let nonce := memory.stores
  let counted := { memory with stores := nonce + 1 }
  if memory.failingStores.contains nonce then (.error (.backend s!"store {nonce} rejected"), counted)
  else if memory.failStores then (.error (.backend "store rejected"), counted)
  else
    let uri := uriOf memory.protocol object nonce
    (.ok uri, { counted with objects := counted.objects.put uri object })

def lookup (memory : Memory) (uri : String) (limit : Duration) : Except Error Bytes := do
  let _ ← objectId memory.protocol uri
  if limit.nanoseconds < memory.latency.nanoseconds then .error (.timeout uri limit)
  match memory.objects.get? uri with
  | some object => return object
  | none => .error (.notFound uri)

def retrieve (memory : Memory) (uri : String) (limit : Duration) : Except Error Bytes × Memory :=
  (memory.lookup uri limit, { memory with retrieves := memory.retrieves + 1 })

def dial (memory : Memory) (source : String) : Except Error Unit × Memory :=
  (if memory.failDials then .error (.backend "dial refused") else .ok (),
    { memory with dials := memory.dials.push source })

/-- Flips the first byte, or makes an empty object one byte long. -/
def tampered : Bytes → Bytes
  | [] => [0xff]
  | first :: rest => (first ^^^ 0xff) :: rest

def corrupt (memory : Memory) (uri : String) : Bool × Memory :=
  ((memory.objects.get? uri).isSome, { memory with objects := memory.objects.adjust uri tampered })

def remove (memory : Memory) (uri : String) : Bool × Memory :=
  ((memory.objects.get? uri).isSome, { memory with objects := memory.objects.erase uri })

def insert (memory : Memory) (uri : String) (object : Bytes) : Memory :=
  { memory with objects := memory.objects.put uri object }

end Memory

end Availability.Storage
