import GrabRedis.Breaker

/-!
# Pool options and `createClient`

The option records handed to the lower layer (`goredis.Options`, `goredis.ClusterOptions`),
the builders `singleHostOptions`, `clusterOptions`, `masterSlaveGroupOptions`, and
`createClient`. A cluster client creates its node clients lazily; `addNode` is that step,
through the `NewClient` hook when `clusterOptions` installed one.
-/

namespace GrabRedis

set_option autoImplicit false

/-- The pool settings both option records carry; durations are nanoseconds. -/
structure PoolSettings where
  username : String
  password : String
  maxRetries : Int
  minRetryBackoff : Int
  maxRetryBackoff : Int
  dialTimeout : Int
  readTimeout : Int
  writeTimeout : Int
  poolSize : Int
  minIdleConns : Int
  maxIdleConns : Int
  maxConnAge : Int
  poolTimeout : Int
  idleTimeout : Int
  idleCheckFrequency : Int
  deriving DecidableEq, Inhabited

/-- The pool settings `singleHostOptions` and `clusterOptions` derive from a config. -/
def ClientConfig.poolSettings (c : ClientConfig) : PoolSettings where
  username := c.username
  password := c.password
  maxRetries := c.maxRetries
  minRetryBackoff := parseDurationInMs c.minRetryBackoffInMs
  maxRetryBackoff := parseDurationInMs c.maxRetryBackoffInMs
  dialTimeout := parseDurationInMs c.dialTimeoutInMs
  readTimeout := parseDurationInMs c.readTimeoutInMs
  writeTimeout := parseDurationInMs c.writeTimeoutInMs
  poolSize := c.poolSize
  minIdleConns := c.minIdleConns
  maxIdleConns := c.maxIdleConns
  maxConnAge := parseDurationInMs c.maxConnAgeInMs
  poolTimeout := parseDurationInMs c.poolTimeoutInMs
  idleTimeout := parseDurationInMs c.idleTimeoutInMs
  idleCheckFrequency := parseDurationInMs c.idleCheckFrequencyInMs

/-- `&tls.Config{InsecureSkipVerify: true}` when TLS is enabled. -/
def tlsConfigOf (tlsEnabled : Bool) : Option Bool := if tlsEnabled then some true else none

structure Options where
  addr : String
  db : Int
  pool : PoolSettings
  tlsConfig : Option Bool
  limiter : Option Limiter
  deriving Inhabited

/-- `goredis.ClusterOptions`. `newClient` is the hook: the breaker options it captured, or
`none` for the lower layer's default. `clusterSlots` lists the fixed nodes of a
master-slave group, the first one its master. The seed list `Addrs` is the config's own
slice, which `name` and `isAddrsEquals` sort in place, so the model reads the seeds from the
wrapper's config. -/
structure ClusterOptions where
  pool : PoolSettings
  maxRedirects : Int
  readOnly : Bool
  routeByLatency : Bool
  routeRandomly : Bool
  tlsConfig : Option Bool
  newClient : Option (List CBOption)
  clusterSlots : Option (List String)

structure Node where
  addr : String
  limiter : Option Limiter

inductive Pool where
  | single (opt : Options)
  | cluster (opt : ClusterOptions) (shards : List Node)
  deriving Inhabited

/-- `clientWrapperImpl` or `clusterWrapperImpl`: the pool, and the config pointer the
wrapper, the client and the `NewClient` hook share. -/
structure Wrapper where
  config : ClientConfig
  pool : Pool
  deriving Inhabited

/-- `readOnly`, `routeByLatency` and `routeRandomly` for a read mode, as both the switch of
`clusterOptions` and the one of the cluster reload set them. -/
def readFlags (m : ReadMode) : Bool × Bool × Bool :=
  if m = ModeReadFromMaster then (false, false, false)
  else if m = ModeReadFromSlaves then (true, false, false)
  else if m = ModeReadByLatency then (false, true, false)
  else if m = ModeReadRandomly then (false, false, true)
  else (false, false, false)

namespace ClientConfig

def clusterOptions (c : ClientConfig) (cbOptions : List CBOption) : ClusterOptions where
  pool := c.poolSettings
  maxRedirects := c.maxRedirects
  readOnly := (readFlags c.readMode).1
  routeByLatency := (readFlags c.readMode).2.1
  routeRandomly := (readFlags c.readMode).2.2
  tlsConfig := tlsConfigOf c.tlsEnabled
  newClient := if c.hystrixEnabled then some cbOptions else none
  clusterSlots := none

def masterSlaveGroupOptions (c : ClientConfig) (cbOptions : List CBOption) : ClusterOptions :=
  { c.clusterOptions cbOptions with clusterSlots := some c.addrs }

/-- The options and the registry: with hystrix on, the node's circuit is configured. -/
def singleHostOptions (c : ClientConfig) (cbOptions : List CBOption) (reg : Registry) :
    Options × Registry :=
  let addr := match c.addrs with
    | [] => defaultHostAndPort
    | a :: _ => a
  let opt : Options := ⟨addr, c.db, c.poolSettings, tlsConfigOf c.tlsEnabled, none⟩
  if c.hystrixEnabled then
    let cbKey := generateCBKey addr
    ({ opt with limiter := some (newLimiter cbKey cbOptions) },
      configureHystrix reg cbKey c.hystrix)
  else (opt, reg)

def createClient (c : ClientConfig) (cbOptions : List CBOption) (reg : Registry) :
    Except String Wrapper × Registry :=
  if c.clientMode = ModeCluster then (.ok ⟨c, .cluster (c.clusterOptions cbOptions) []⟩, reg)
  else if c.clientMode = ModeMasterSlaveGroup then
    (.ok ⟨c, .cluster (c.masterSlaveGroupOptions cbOptions) []⟩, reg)
  else if c.clientMode = ModeSingleHost then
    (.ok ⟨c, .single (c.singleHostOptions cbOptions reg).1⟩, (c.singleHostOptions cbOptions reg).2)
  else (.error "invalid client mode to init Redis client", reg)

end ClientConfig

/-- The lower layer creates the node client for `addr`. Through the hook, the node's circuit
is configured with the settings the shared config holds now. -/
def Wrapper.addNode (w : Wrapper) (addr : String) (reg : Registry) : Wrapper × Registry :=
  match w.pool with
  | .single _ => (w, reg)
  | .cluster opt shards =>
    match opt.newClient with
    | none => ({ w with pool := .cluster opt (shards ++ [⟨addr, none⟩]) }, reg)
    | some cbOptions =>
      let cbKey := generateCBKey addr
      ({ w with pool := .cluster opt (shards ++ [⟨addr, some (newLimiter cbKey cbOptions)⟩]) },
        configureHystrix reg cbKey w.config.hystrix)

end GrabRedis
