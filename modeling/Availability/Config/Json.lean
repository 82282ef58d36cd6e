import Availability.Config
import Availability.Json.Fields

namespace Availability

def Json.Fields.maybe {α : Type} (fields : Json.Fields) (name : String) (value? : Json → Option α) :
    Option (Option α) :=
  fields.orDefault name (Json.toOption? value?) none

def IpfsSettings.ofJson? (value : Json) : Option IpfsSettings := do
  let fields ← value.fields? ["api_url", "request_timeout"]
  return {
    apiUrl := ← fields.required "api_url" Url.ofJson?
    requestTimeout := ← fields.required "request_timeout" Duration.ofJson? }

def IpfsSettings.toJson (settings : IpfsSettings) : Json :=
  .object [("api_url", settings.apiUrl.toJson), ("request_timeout", settings.requestTimeout.toJson)]

def ArweaveSettings.ofJson? (value : Json) : Option ArweaveSettings := do
  let fields ← value.fields? ["gateway_url", "upload_url", "api_key", "request_timeout"]
  return {
    gatewayUrl := ← fields.required "gateway_url" Url.ofJson?
    uploadUrl := ← fields.required "upload_url" Url.ofJson?
    apiKey := ← fields.maybe "api_key" Json.toText?
    requestTimeout := ← fields.required "request_timeout" Duration.ofJson? }

def ArweaveSettings.toJson (settings : ArweaveSettings) : Json :=
  .object [
    ("gateway_url", settings.gatewayUrl.toJson),
    ("upload_url", settings.uploadUrl.toJson),
    ("api_key", Json.orNull .text settings.apiKey),
    ("request_timeout", settings.requestTimeout.toJson)]

def StorageSettings.retrieveTimeoutOfJson? (value : Json) : Option Duration := do
  let fields ← value.fields? ["retrieve_timeout"]
  fields.required "retrieve_timeout" Duration.ofJson?

def StorageSettings.ofJson? (value : Json) : Option StorageSettings := do
  let fields ← value.fields? ["ipfs", "arweave", "shards"]
  return {
    ipfs := ← fields.maybe "ipfs" IpfsSettings.ofJson?
    arweave := ← fields.maybe "arweave" ArweaveSettings.ofJson?
    retrieveTimeout := ← fields.orDefault "shards" retrieveTimeoutOfJson? (.ofSeconds 60) }

def StorageSettings.toJson (settings : StorageSettings) : Json :=
  .object [
    ("ipfs", Json.orNull IpfsSettings.toJson settings.ipfs),
    ("arweave", Json.orNull ArweaveSettings.toJson settings.arweave),
    ("shards", .object [("retrieve_timeout", settings.retrieveTimeout.toJson)])]

def GatewaySettings.ofJson? (value : Json) : Option GatewaySettings := do
  let fields ← value.fields? ["url", "fees", "timeout"]
  return {
    url := ← fields.required "url" Url.ofJson?
    fees := ← fields.orDefault "fees" Json.toText? ""
    timeout := ← fields.orDefault "timeout" Duration.ofJson? (.ofSeconds 30) }

def GatewaySettings.toJson (settings : GatewaySettings) : Json :=
  .object [("url", settings.url.toJson), ("fees", .text settings.fees), ("timeout", settings.timeout.toJson)]

def ChainSettings.ofJson? (value : Json) : Option ChainSettings := do
  let fields ← value.fields? ["gateway", "sender"]
  return {
    gateway := ← fields.required "gateway" GatewaySettings.ofJson?
    sender := ← fields.required "sender" Json.toText? }

def ChainSettings.toJson (settings : ChainSettings) : Json :=
  .object [("gateway", settings.gateway.toJson), ("sender", .text settings.sender)]

def ProverSettings.ofJson? (value : Json) : Option ProverSettings := do
  let fields ← value.fields? ["url", "timeout"]
  return {
    url := ← fields.required "url" Url.ofJson?
    timeout := ← fields.orDefault "timeout" Duration.ofJson? (.ofSeconds 120) }

def ProverSettings.toJson (settings : ProverSettings) : Json :=
  .object [("url", settings.url.toJson), ("timeout", settings.timeout.toJson)]

def Config.dataSourceInfoOfJson? (value : Json) : Option String := do
  let fields ← value.fields? ["data_source_info"]
  fields.orDefault "data_source_info" Json.toText? ""

def Audit.Policy.ofJson? (value : Json) : Option Audit.Policy := do
  let fields ← value.fields? ["submit_challenge", "submit_proof"]
  return {
    submitChallenge := ← fields.required "submit_challenge" Json.toBool?
    submitProof := ← fields.required "submit_proof" Json.toBool? }

def Audit.Policy.toJson (policy : Audit.Policy) : Json :=
  .object [("submit_challenge", .bool policy.submitChallenge), ("submit_proof", .bool policy.submitProof)]

def Watcher.Settings.ofJson? (value : Json) : Option Watcher.Settings := do
  let fields ← value.fields? ["poll_interval", "confirmation_delay", "start_height"]
  let defaults : Watcher.Settings := {}
  return {
    pollInterval := ← fields.orDefault "poll_interval" Duration.ofJson? defaults.pollInterval
    confirmationDelay := ← fields.orDefault "confirmation_delay" Json.word? defaults.confirmationDelay
    startHeight := ← fields.maybe "start_height" Json.word? }

def Watcher.Settings.toJson (settings : Watcher.Settings) : Json :=
  .object [
    ("poll_interval", settings.pollInterval.toJson),
    ("confirmation_delay", Json.ofWord settings.confirmationDelay),
    ("start_height", Json.orNull Json.ofWord settings.startHeight)]

def ValidatorSettings.ofJson? (value : Json) : Option ValidatorSettings := do
  let fields ← value.fields? ["address", "policy", "watcher"]
  return {
    address := ← fields.maybe "address" Json.toText?
    policy := ← fields.orDefault "policy" Audit.Policy.ofJson? {}
    watcher := ← fields.orDefault "watcher" Watcher.Settings.ofJson? {} }

def ValidatorSettings.toJson (settings : ValidatorSettings) : Json :=
  .object [
    ("address", Json.orNull .text settings.address),
    ("policy", settings.policy.toJson),
    ("watcher", settings.watcher.toJson)]

def AltDa.Settings.ofJson? (value : Json) : Option AltDa.Settings := do
  let fields ← value.fields? ["data_shard_count", "parity_shard_count"]
  return {
    dataShardCount := ← fields.required "data_shard_count" Json.word?
    parityShardCount := ← fields.required "parity_shard_count" Json.word? }

def AltDa.Settings.toJson (settings : AltDa.Settings) : Json :=
  .object [
    ("data_shard_count", Json.ofWord settings.dataShardCount),
    ("parity_shard_count", Json.ofWord settings.parityShardCount)]

def Rollkit.Settings.ofJson? (value : Json) : Option Rollkit.Settings := do
  let fields ← value.fields? ["data_shard_count", "parity_shard_count", "max_blob_size"]
  return {
    dataShardCount := ← fields.required "data_shard_count" Json.word?
    parityShardCount := ← fields.required "parity_shard_count" Json.word?
    maxBlobSize := ← fields.orDefault "max_blob_size" Json.word? defaultMaxBlobSize }

def Rollkit.Settings.toJson (settings : Rollkit.Settings) : Json :=
  .object [
    ("data_shard_count", Json.ofWord settings.dataShardCount),
    ("parity_shard_count", Json.ofWord settings.parityShardCount),
    ("max_blob_size", Json.ofWord settings.maxBlobSize)]

def HttpSettings.ofJson? (value : Json) : Option HttpSettings := do
  let fields ← value.fields? ["address", "cors_origins"]
  return {
    address := ← fields.required "address" fun value => value.toText?.bind Socket.ofText?
    corsOrigins := ← fields.orDefault "cors_origins" (Json.toList? Json.toText?) [] }

def HttpSettings.toJson (settings : HttpSettings) : Json :=
  .object [("address", .text settings.address.toText), ("cors_origins", Json.texts settings.corsOrigins)]

namespace Config

def ofJson? (value : Json) : Option Config := do
  let fields ← value.fields?
    ["log", "http", "storage", "chain", "prover", "publish", "validator", "alt_da", "rollkit"]
  return {
    log := ← fields.orDefault "log" Logging.Settings.ofJson? {}
    http := ← fields.required "http" HttpSettings.ofJson?
    storage := ← fields.required "storage" StorageSettings.ofJson?
    chain := ← fields.required "chain" ChainSettings.ofJson?
    prover := ← fields.required "prover" ProverSettings.ofJson?
    dataSourceInfo := ← fields.orDefault "publish" dataSourceInfoOfJson? ""
    validator := ← fields.orDefault "validator" ValidatorSettings.ofJson? {}
    altDa := ← fields.orDefault "alt_da" AltDa.Settings.ofJson? {}
    rollkit := ← fields.orDefault "rollkit" Rollkit.Settings.ofJson? {} }

def toJson (config : Config) : Json :=
  .object [
    ("log", config.log.toJson),
    ("http", config.http.toJson),
    ("storage", config.storage.toJson),
    ("chain", config.chain.toJson),
    ("prover", config.prover.toJson),
    ("publish", .object [("data_source_info", .text config.dataSourceInfo)]),
    ("validator", config.validator.toJson),
    ("alt_da", config.altDa.toJson),
    ("rollkit", config.rollkit.toJson)]

end Config

end Availability
