import GrabRedis.Config

/-!
# The load-test scheduler

The options of the scheduler that runs the shadow tasks. `newScheduler` normalises the
options it is given in place: the connector keeps the normalised values and compares them with
the raw ones of a new config on reload.
-/

namespace GrabRedis

set_option autoImplicit false

/-- `schedulerOptions`; the idle timeout is a duration in nanoseconds. -/
structure SchedulerOptions where
  maxChanSize : Int
  maxWorker : Int
  workerIdleTimeout : Int
  deriving DecidableEq

/-- `normalise`: a value that is not positive takes the default. The idle timeout's default is
the constant `1000` read as a duration, one microsecond. -/
def SchedulerOptions.normalise (s : SchedulerOptions) : SchedulerOptions where
  maxChanSize := if s.maxChanSize ≤ 0 then defaultMaxChanSize else s.maxChanSize
  maxWorker := if s.maxWorker ≤ 0 then defaultMaxWorker else s.maxWorker
  workerIdleTimeout :=
    if s.workerIdleTimeout ≤ 0 then defaultWorkerIdleTimeout else s.workerIdleTimeout

end GrabRedis
