import Availability.Http.Router
import Availability.Proofs.Transcript

namespace Availability.Http

variable {σ : Type} (env : Environment σ)

theorem respond_runIn {ε α : Type} (attempt : Attempt ε α) (status : ε → Nat) (message : ε → String)
    (response : α → Response) (state : σ) :
    ((respond attempt status message response).runIn env state).1 =
      match (Attempt.runIn env attempt state).1 with
      | .ok value => response value
      | .error err => .text (status err) (message err) := by
  unfold respond
  rw [Program.runIn_bind, Attempt.run_runIn]
  cases (Attempt.runIn env attempt state).1 <;> rfl

theorem state_respond {ε α : Type} (attempt : Attempt ε α) (status : ε → Nat) (message : ε → String)
    (response : α → Response) (state : σ) :
    ((respond attempt status message response).runIn env state).2 = (Attempt.runIn env attempt state).2 := by
  unfold respond
  rw [Program.runIn_bind, Attempt.run_runIn]
  cases (Attempt.runIn env attempt state).1 <;> rfl

theorem transcript_respond {ε α : Type} (attempt : Attempt ε α) (status : ε → Nat) (message : ε → String)
    (response : α → Response) (state : σ) :
    (respond attempt status message response).transcript env state = Attempt.transcript env attempt state := by
  unfold respond
  rw [Program.transcript_bind, Attempt.run_runIn]
  cases (Attempt.runIn env attempt state).1 <;> exact List.append_nil _

theorem typed_of_headers {request : Request} (headers : request.headers = [("content-type", "application/json")]) :
    (request.header? "content-type").any Input.isJsonType = true := by
  have lower : ("content-type".toLower == "content-type") = true := by decide +kernel
  have json : Input.isJsonType "application/json" = true := by decide +kernel
  simp [Request.header?, headers, lower, json]

theorem status_routed (router : Router) (node : Node) {request : Request} {route : Route}
    (found : Route.ofPath? request.path = some route) (accepted : route.accepts request.method = true)
    (proper : request.method ≠ "OPTIONS") (state : σ) :
    ((router.answer node request).runIn env state).1.status =
      ((route.handle node request).runIn env state).1.status := by
  have asks : (request.method == "OPTIONS") = false := by simpa using proper
  unfold Router.answer Router.dispatch
  rw [Program.runIn_bind, asks, found]
  simp only [accepted, Program.runIn, pure]
  cases request.method == "HEAD" <;> simp [Program.runIn_bind, Program.runIn, Response.withoutContent]

/-- What a route is asked for is answered as its handler does, which is all that is performed for it. -/
theorem answer_handled (router : Router) (node : Node) {request : Request} {route : Route}
    (found : Route.ofPath? request.path = some route) (accepted : route.accepts request.method = true)
    (proper : request.method ≠ "OPTIONS") (visible : request.method ≠ "HEAD") (state : σ) :
    (router.answer node request).runIn env state =
        ({ ((route.handle node request).runIn env state).1 with allowOrigin := some router.allowOrigin },
          ((route.handle node request).runIn env state).2) ∧
      (router.answer node request).transcript env state = (route.handle node request).transcript env state := by
  have asks : (request.method == "OPTIONS") = false := by simpa using proper
  have heads : (request.method == "HEAD") = false := by simpa using visible
  unfold Router.answer Router.dispatch
  rw [Program.runIn_bind, Program.transcript_bind, asks, found]
  simp [accepted, heads, Program.runIn_bind, Program.transcript_bind, Program.runIn, Program.transcript, pure]

theorem answer_routed (router : Router) (node : Node) {request : Request} {route : Route}
    (found : Route.ofPath? request.path = some route) (accepted : route.accepts request.method = true)
    (gets : request.method = "GET") (state : σ) :
    ((router.answer node request).runIn env state).1 =
        { ((route.handle node request).runIn env state).1 with allowOrigin := some router.allowOrigin } ∧
      (router.answer node request).transcript env state = (route.handle node request).transcript env state := by
  obtain ⟨answered, heard⟩ := answer_handled env router node found accepted (by rw [gets]; decide)
    (by rw [gets]; decide) state
  exact ⟨congrArg Prod.fst answered, heard⟩

end Availability.Http
