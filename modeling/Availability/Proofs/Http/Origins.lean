import Availability.Proofs.Http
import Availability.Proofs.World

namespace Availability.Http.Router

open World (environment)

/-- Whatever may read the responses before, of several origins the last one may in the end. -/
theorem foldlM_allow {origins : List String} (valid : ∀ origin ∈ origins, isHeaderValue origin = true)
    (router : Router) : origins.foldlM allow router = .ok ⟨origins.getLast?.getD router.allowOrigin⟩ := by
  induction origins generalizing router with
  | nil => rfl
  | cons origin origins ih =>
    obtain ⟨first, others⟩ := List.forall_mem_cons.mp valid
    have allowed : allow router origin = .ok ⟨origin⟩ := if_pos first
    rw [List.foldlM_cons, allowed, List.getLast?_cons]
    exact ih others ⟨origin⟩

theorem ofOrigins_of_valid {origins : List String} (valid : ∀ origin ∈ origins, isHeaderValue origin = true) :
    ofOrigins origins = .ok ⟨origins.getLast?.getD "*"⟩ := foldlM_allow valid ⟨"*"⟩

def named {σ : Type} (env : Environment σ) (router : Router) (node : Node) (request : Request) (state : σ) :
    Option String :=
  ((router.answer node request).runIn env state).1.allowOrigin

theorem named_eq {σ : Type} (env : Environment σ) (router : Router) (node : Node) (request : Request) (state : σ) :
    named env router node request state = some router.allowOrigin := by
  rw [named, answer, Program.runIn_bind]
  rfl

/-- Every response names the origin that was configured last, whoever asks; without any, all may read. -/
theorem last_origin_named (origins : List String) (valid : ∀ origin ∈ origins, isHeaderValue origin = true) :
    ∃ router, ofOrigins origins = .ok router ∧
      ∀ {σ : Type} (env : Environment σ) (node : Node) (request : Request) (state : σ),
        (origins = [] → named env router node request state = some "*") ∧
          ∀ filled : origins ≠ [],
            named env router node request state = some (origins.getLast filled) ∧
              ∀ origin ∉ origins, named env router node request state ≠ some origin := by
  refine ⟨_, ofOrigins_of_valid valid, fun env node request state => ⟨?_, fun filled => ?_⟩⟩
  · rintro rfl
    exact named_eq ..
  · have last : named env ⟨origins.getLast?.getD "*"⟩ node request state = some (origins.getLast filled) := by
      rw [named_eq, List.getLast?_eq_some_getLast filled]
      rfl
    refine ⟨last, fun origin outside same => outside ?_⟩
    rw [← Option.some_inj.mp (last.symm.trans same)]
    exact List.getLast_mem filled

theorem last_origin_named_of_two :
    (∀ origin ∈ ["https://a.example", "https://b.example"], isHeaderValue origin = true) ∧
      ∃ router, ofOrigins ["https://a.example", "https://b.example"] = .ok router ∧
        ∀ node request, named (environment World.inOrder) router node request World.blank =
          some "https://b.example" := by
  have valid : ∀ origin ∈ ["https://a.example", "https://b.example"], isHeaderValue origin = true := by
    simp [isHeaderValue]
  obtain ⟨router, configured, answered⟩ := last_origin_named _ valid
  exact ⟨valid, router, configured, fun node request => ((answered _ node request _).2 (by decide)).1⟩

/-- The first of two origins may not read what it asks for. -/
theorem not_every_origin_named :
    let origins := ["https://a.example", "https://b.example"]
    let node : Node := { publisher := { store := { registry := [.ipfs] }, sender := "alice" } }
    let request : Request := { method := "GET", target := "/api", headers := [("origin", "https://a.example")] }
    (∀ origin ∈ origins, isHeaderValue origin = true) ∧ "https://a.example" ∈ origins ∧
      ∃ router, ofOrigins origins = .ok router ∧
        named (environment World.inOrder) router node request World.blank ≠ some "https://a.example" := by
  intro origins node request
  have valid : ∀ origin ∈ origins, isHeaderValue origin = true := by simp [origins, isHeaderValue]
  refine ⟨valid, List.mem_cons_self, _, ofOrigins_of_valid valid, ?_⟩
  rw [named_eq]
  decide

end Availability.Http.Router
