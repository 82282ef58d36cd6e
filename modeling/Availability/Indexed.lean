namespace Availability.Indexed

inductive Policy where
  | abort
  | tolerate
deriving DecidableEq

def insert {α : Type} (entry : Nat × α) : List (Nat × α) → List (Nat × α)
  | [] => [entry]
  | head :: rest => if entry.1 ≤ head.1 then entry :: head :: rest else head :: insert entry rest

/-- The results of workers, given in the order they finish, in the order of their positions. -/
def collect {α : Type} (finished : List (Nat × α)) : List (Nat × α) := finished.foldr insert []

inductive Ending (ψ ε α : Type) where
  | returned (result : Except ε α)
  | panicked (cause : ψ)

def Ending.result {ψ ε α : Type} (ofPanic : ψ → ε) : Ending ψ ε α → Except ε α
  | .returned result => result
  | .panicked cause => .error (ofPanic cause)

def results {ψ ε α : Type} (ofPanic : ψ → ε) (ended : List (Nat × Ending ψ ε α)) : List (Nat × Except ε α) :=
  collect (ended.map fun entry => (entry.1, entry.2.result ofPanic))

/-- Resolves the failures among results in position order; the first failure is the one reported. -/
def join {α ε : Type} (policy : Policy) : List (Nat × Except ε α) → Except ε (List (Nat × α))
  | [] => .ok []
  | (position, .ok value) :: rest => (join policy rest).map ((position, value) :: ·)
  | (_, .error err) :: rest =>
    match policy with
    | .abort => .error err
    | .tolerate => join policy rest

end Availability.Indexed
