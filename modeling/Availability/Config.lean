import Availability.Client
import Availability.Duration
import Availability.Logging
import Availability.Rollup
import Availability.Url.Reader
import Availability.Watcher

namespace Availability

structure StorageSettings where
  ipfs : Option IpfsSettings := none
  arweave : Option ArweaveSettings := none
  retrieveTimeout : Duration := .ofSeconds 60
deriving DecidableEq

structure ChainSettings where
  gateway : GatewaySettings
  sender : String
deriving DecidableEq

structure ValidatorSettings where
  address : Option String := none
  policy : Audit.Policy := {}
  watcher : Watcher.Settings := {}
deriving DecidableEq

structure HttpSettings where
  address : Socket
  corsOrigins : List String := []
deriving DecidableEq

structure Config where
  log : Logging.Settings := {}
  http : HttpSettings
  storage : StorageSettings
  chain : ChainSettings
  prover : ProverSettings
  dataSourceInfo : String := ""
  validator : ValidatorSettings := {}
  altDa : AltDa.Settings := {}
  rollkit : Rollkit.Settings := {}
deriving DecidableEq

def StorageSettings.registry (settings : StorageSettings) : Storage.Registry :=
  (if settings.ipfs.isSome then [.ipfs] else []) ++ (if settings.arweave.isSome then [.arweave] else [])

end Availability
