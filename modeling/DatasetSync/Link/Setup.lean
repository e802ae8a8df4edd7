import DatasetSync.Config
import DatasetSync.Link

/-!
# Links from configurations
-/

namespace DatasetSync.Link

variable {T : Type}

def ofConfig (config : LinkConfig) (transport : T) : Except Obstacle (Link T) := do
  config.validate.mapError .refused
  let link := { new config.instanceName transport with aliasName := config.aliasName }
  link.addChannels (config.channels.map ChannelConfig.spec)

end DatasetSync.Link
