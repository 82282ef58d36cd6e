import Availability.Client.Network
import Availability.Proofs.Url

namespace Availability.Client

open Storage (objectId)

variable {α : Type} {sent : Request} {uri : String}

theorem request_askAt {url : Except Storage.Error Url} {request : Url → Request}
    {read : Except Fault Response → Except Storage.Error α} (asked : (askAt url request read).request? = some sent) :
    ∃ target, url = .ok target ∧ sent = request target := by
  unfold askAt at asked
  split at asked
  · cases asked
    exact ⟨_, rfl, rfl⟩
  · cases asked

theorem joined_eq_ok {base url : Url} {reference : String} :
    joined base reference = .ok url ↔ base.join reference = .ok url := Except.mapError_eq_ok

theorem Ipfs.request_retrieve {settings : IpfsSettings} (asked : (retrieve settings uri).request? = some sent) :
    ∃ id url, objectId .ipfs uri = .ok id ∧ settings.apiUrl.join "api/v0/cat" = .ok url ∧
      sent.url = url.withPairs [("arg", id)] := by
  obtain ⟨target, found, rfl⟩ := request_askAt asked
  obtain ⟨id, named, found⟩ := Except.bind_eq_ok.mp found
  obtain ⟨url, reached, rfl⟩ := Except.map_eq_ok.mp found
  exact ⟨id, url, named, joined_eq_ok.mp reached, rfl⟩

theorem Arweave.request_retrieve {settings : ArweaveSettings} (asked : (retrieve settings uri).request? = some sent) :
    ∃ id, objectId .arweave uri = .ok id ∧ settings.gatewayUrl.join id = .ok sent.url := by
  obtain ⟨target, found, rfl⟩ := request_askAt asked
  obtain ⟨id, named, found⟩ := Except.bind_eq_ok.mp found
  exact ⟨id, named, joined_eq_ok.mp found⟩

theorem Ipfs.join_path {base url : Url} (hosted : base.FileHosted) (joined : base.join "api/v0/cat" = .ok url) :
    url.origin = base.origin ∧ url.query = none := by
  obtain ⟨same, query⟩ := Url.join_below hosted (by decide +kernel) (by decide +kernel) joined
  have queryless : (Url.sections (Url.clean "api/v0/cat")).query = none := by decide +kernel
  refine ⟨same, ?_⟩
  rw [query (by decide +kernel), Url.queryIn, queryless]
  rfl

/-- Ipfs objects are asked for at the configured node, by their whole identifier. An arweave identifier is resolved at
the gateway: the request goes there if the identifier stays there, and to the url that it is if it leaves by a scheme. -/
theorem retrieve_targets (ipfs : IpfsSettings) (arweave : ArweaveSettings) (uri : String) (request : Request) :
    (∀ address, Url.ofText? address = some ipfs.apiUrl → (Ipfs.retrieve ipfs uri).request? = some request →
      request.url.origin = ipfs.apiUrl.origin ∧
        ∃ id, objectId .ipfs uri = .ok id ∧ Percent.pairs (request.url.query.getD "") = [("arg", id)]) ∧
      ∀ address, Url.ofText? address = some arweave.gatewayUrl →
        (Arweave.retrieve arweave uri).request? = some request →
          ∃ id, objectId .arweave uri = .ok id ∧ arweave.gatewayUrl.join id = .ok request.url ∧
            (Url.StaysAt arweave.gatewayUrl id → request.url.origin = arweave.gatewayUrl.origin) ∧
            ((Url.scheme? (Url.clean id)).isSome = true → ¬Url.StaysAt arweave.gatewayUrl id →
              Url.ofText? id = some request.url) := by
  refine ⟨fun address read asked => ?_, fun address read asked => ?_⟩
  · obtain ⟨id, url, named, reached, sent⟩ := Ipfs.request_retrieve asked
    obtain ⟨same, bare⟩ := Ipfs.join_path (Url.fileHosted_of_ofText? read) reached
    rw [sent]
    exact ⟨(Url.origin_withPairs url _).trans same, id, named, Url.query_withPairs bare _⟩
  · obtain ⟨id, named, reached⟩ := Arweave.request_retrieve asked
    refine ⟨id, named, reached, fun stays => ?_, fun absolute leaves => ?_⟩
    · exact Url.origin_join (Url.fileHosted_of_ofText? read) stays reached
    · obtain ⟨⟨scheme, behind⟩, found⟩ := Option.isSome_iff_exists.mp absolute
      rw [Url.join_of_not_staysAt found leaves] at reached
      exact Url.ofText?_eq_some_iff.mpr reached

/-- Identifiers that are urls, or begin with two slashes, take the request from the gateway to a host that they name. -/
theorem not_retrieved_at_gateway :
    let gateway : Url :=
      { scheme := "http", host := some (.address (.v6 [0, 0, 0, 0, 0, 0, 0, 1])), path := .segments [""] }
    let settings : ArweaveSettings := { gatewayUrl := gateway, uploadUrl := gateway, requestTimeout := .ofSeconds 30 }
    Url.ofText? "http://[::1]/" = some gateway ∧
      ∀ uri ∈ ["ar://http://[::2]/x", "ar:////[::2]/x"],
        ((Arweave.retrieve settings uri).request?.map fun request => request.url.origin) =
            some ("http", some (.address (.v6 [0, 0, 0, 0, 0, 0, 0, 2])), none) ∧
          gateway.origin ≠ ("http", some (.address (.v6 [0, 0, 0, 0, 0, 0, 0, 2])), none) := by
  decide +kernel

end Availability.Client
