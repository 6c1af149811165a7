import LiveConfig.Discovery.Locator
import LiveConfig.Fetch.Request
import LiveConfig.Notify.Channel
import LiveConfig.Sync.Refresh

/-!
# What the parts are told

The configuration of a client, handed on to its parts: discovery, fetches, long polls and the
namespaces.
-/

namespace LiveConfig.SyncConfig

/-- The parameters of discovery. -/
def locator (c : SyncConfig) : LocatorConfig where
  metaServer := c.metaServer
  appId := c.appId
  clientIp := c.clientIp
  fixed := c.serviceUrls
  refreshInterval := c.discoveryInterval
  timeout := c.discoveryTimeout

/-- The parameters of fetches. -/
def fetch (c : SyncConfig) : FetchConfig where
  appId := c.appId
  cluster := c.cluster
  dataCenter := c.dataCenter
  label := c.label
  clientIp := c.clientIp
  timeout := c.fetchTimeout
  maxAttempts := c.maxAttempts
  keepOrder := c.keepOrder

/-- The parameters of long polls. -/
def poll (c : SyncConfig) : PollConfig where
  appId := c.appId
  cluster := c.cluster
  dataCenter := c.dataCenter
  clientIp := c.clientIp
  timeout := c.pollTimeout
  backoff := c.pollBackoff

/-- What the namespaces are told, with the cache that could be opened. -/
def sync (c : SyncConfig) (cache : Option CacheStore) : SyncSetting where
  policy := c.fallback
  failureLogInterval := c.failureLogInterval
  fetchBackoff := c.fetchBackoff
  refreshInterval := c.refreshInterval
  cache := cache

end LiveConfig.SyncConfig
