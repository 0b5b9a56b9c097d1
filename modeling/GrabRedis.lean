import GrabRedis.Config
import GrabRedis.Breaker
import GrabRedis.Options
import GrabRedis.Wrapper
import GrabRedis.Lifecycle
import GrabRedis.Matching
import GrabRedis.Scheduler
import GrabRedis.Connector
import GrabRedis.Reload
import GrabRedis.Invariant
import GrabRedis.Latencies
import GrabRedis.Runtime
import GrabRedis.LatencyRing
import GrabRedis.Dispatch
import GrabRedis.Progress
import GrabRedis.Strconv
import GrabRedis.Reply
import GrabRedis.Reflect
import GrabRedis.Scripts
import GrabRedis.Scan
import GrabRedis.Args
import GrabRedis.Integers
import GrabRedis.Typing
import GrabRedis.StringReplies
import GrabRedis.Geo
import GrabRedis.Subscribe
import GrabRedis.HashRoundTrip
