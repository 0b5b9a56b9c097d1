import GrabRedis.Config

/-!
# Per-node circuit breakers

The process-wide registry keyed by `generateCBKey addr`, the settings builder behind
`configureHystrix`, the node `limiter`, the default error classification
(`shouldCountAsCBError`) and the asynchronous `circuitbreaker.Go` with its two result
channels. hystrix-go itself is not part of the repository: only what the code relies on
is modelled, each such definition says so.
-/

namespace GrabRedis

set_option autoImplicit false

/-! ## Errors -/

/-- The Go `error` values the classification distinguishes. `RoutinePanicError` is declared
outside `src/`: it is a plain error carrying an arbitrary message. -/
inductive GoError where
  | canceled
  | deadlineExceeded
  | redis (msg : String)
  | wrapped (msg : String) (inner : GoError)
  | routinePanic (msg : String)
  | other (msg : String)
  deriving DecidableEq

namespace GoError

def text : GoError → String
  | canceled => "context canceled"
  | deadlineExceeded => "context deadline exceeded"
  | redis msg | wrapped msg _ | routinePanic msg | other msg => msg

/-- `errors.Is(err, context.Canceled)`, following `Unwrap`. -/
def isCanceled : GoError → Bool
  | canceled => true
  | wrapped _ inner => inner.isCanceled
  | _ => false

/-- `err.(goredis.Error)`: only replies the server sent as errors have `RedisError()`. -/
def isRedisError : GoError → Bool
  | redis _ => true
  | _ => false

end GoError

/-- Modelled from the spec: `goredis.IsReadOnlyError` recognises the server's
`READONLY ` reply by its text. -/
def isReadOnlyError (err : GoError) : Bool := "READONLY ".isPrefixOf err.text

def shouldCountAsCBError : Option GoError → Bool
  | none => false
  | some err =>
    if err.isCanceled then false
    else if isReadOnlyError err then true
    else if err.isRedisError then false
    else true

/-! ## Options of `circuitbreaker.Go` -/

/-- `IsNonThreatErr`: whether the error is harmless, and the error to track. -/
abbrev IsNonThreatErr := Option GoError → Bool × Option GoError

structure CbOption where
  userErrHandler : Option IsNonThreatErr
  fallbackHandler : Option (GoError → Option GoError)
  tags : List String
  unlockFeature : Bool

abbrev CBOption := CbOption → CbOption

def newCBOption : CbOption := ⟨none, none, [], false⟩

def getDefaultUserErrorHandler : IsNonThreatErr := fun err => (false, err)

def makeOption (opts : List CBOption) : CbOption :=
  let options := opts.foldl (fun o opt => opt o) newCBOption
  match options.userErrHandler with
  | none => { options with userErrHandler := some getDefaultUserErrorHandler }
  | some _ => options

def WithUserErrorHandler (handler : IsNonThreatErr) : CBOption := fun opt =>
  { opt with userErrHandler := some fun err =>
      match err with
      | none => (false, none)
      | some e => handler (some e) }

def getDefaultCBOptions : List CBOption :=
  [WithUserErrorHandler fun err => (!shouldCountAsCBError err, err)]

@[simp] theorem makeOption_default_fallback :
    (makeOption getDefaultCBOptions).fallbackHandler = none := rfl

/-! ## One protected call -/

/-- How the routine ends: it returns an error (`none` is `nil`) or panics. -/
inductive Routine where
  | returns (err : Option GoError)
  | panics (recovered : String)

/-- The routine's own result, a panic recovered as a `RoutinePanicError`. -/
def Routine.result : Routine → Option GoError
  | .returns err => err
  | .panics r => some (.routinePanic r)

/-- What `run` leaves: the values it sent on `softErrorCh` and the error it returns to
hystrix, which hystrix counts as a failure when it is not `nil`. -/
structure RunTrace where
  soft : List (Option GoError)
  output : Option GoError

def handleError (option : CbOption) (routineError : Option GoError) : RunTrace :=
  match routineError with
  | none => ⟨[none], none⟩
  | some e =>
    let (isErrorSafe, err) := (option.userErrHandler.getD getDefaultUserErrorHandler) (some e)
    if !isErrorSafe then ⟨[], err⟩ else ⟨[some e], none⟩

/-- `run`: the deferred recovery hands a panic to `handleError` as a `RoutinePanicError`. -/
def run (option : CbOption) (routine : Routine) : RunTrace :=
  handleError option routine.result

/-- The error upstream hystrix-go's `tryFallback` reports when the fallback fails:
`fmt.Errorf("fallback failed with '%v'. run error was '%v'", fallbackErr, err)`. -/
def fallbackFailed (fallbackErr err : GoError) : GoError :=
  .other ("fallback failed with \x27" ++ fallbackErr.text ++ "\x27. run error was \x27" ++
    err.text ++ "\x27")

/-- Modelled from upstream hystrix-go, which the imported fork follows: `hystrix.Go` on a
call it admits and that does not time out. It runs `run` once; a non-`nil` error is a
failure, handed to the fallback when there is one, and what remains of it is sent on the
returned channel. -/
def hystrixGo (option : CbOption) (tr : RunTrace) : List GoError :=
  match tr.output with
  | none => []
  | some e =>
    match option.fallbackHandler with
    | none => [e]
    | some fb => (fb e).toList.map (fallbackFailed · e)

/-- The fallback wrapper of `Go` also sends `nil` on `softErrorCh` when the fallback
swallows the error. -/
def fallbackSoft (option : CbOption) (tr : RunTrace) : List (Option GoError) :=
  match tr.output, option.fallbackHandler with
  | some e, some fb => if fb e = none then [none] else []
  | _, _ => []

/-- The cases of the `select` in `aggregateError` that can fire: a value on `softErrorCh`,
one on the fatal channel, or the context's error. -/
def aggregateError (ctxErr : Option GoError) (soft : List (Option GoError))
    (fatal : List GoError) : List (Option GoError) :=
  soft.take 1 ++ (fatal.take 1).map some ++ ctxErr.toList.map some

/-- `circuitbreaker.Go`: the values `aggregateError` may deliver on the returned channel. -/
def Go (ctxErr : Option GoError) (opts : List CBOption) (routine : Routine) :
    List (Option GoError) :=
  let option := makeOption opts
  let tr := run option routine
  aggregateError ctxErr (tr.soft ++ fallbackSoft option tr) (hystrixGo option tr)

/-- One `circuitbreaker.Do`: the circuit hystrix runs the call on, the error `run` hands
hystrix (recorded on that circuit as a failure when it is not `nil`), and the values the
caller may receive. -/
structure DoCall where
  circuit : String
  recorded : Option GoError
  returned : List (Option GoError)

def Do (ctxErr : Option GoError) (name : String) (routine : Routine) (opts : List CBOption) :
    DoCall :=
  ⟨name, (run (makeOption opts) routine).output, Go ctxErr opts routine⟩

/-! ## Registry and limiter -/

def generateCBKey (addr : String) : String := "redis_" ++ addr

structure Settings where
  commandName : String
  commandGroup : String
  timeout : Int
  maxConcurrentRequests : Int
  errorPercentThreshold : Int
  requestVolumeThreshold : Nat
  sleepWindow : Int
  queueSizeRejectionThreshold : Int
  deriving DecidableEq

structure HystrixDefaults where
  timeout : Int := 1000
  maxConcurrent : Int := 10
  volumeThreshold : Int := 20
  sleepWindow : Int := 5000
  errorPercentThreshold : Int := 50

/-- `commandbuilder.New(key)` followed by the `With...` calls of `configureHystrix` and
`Build`: a setting replaces the default only when it is positive; a zero queue size is
kept, a negative one falls back to five times the concurrency. -/
def buildSettings (key : String) (setting : Hystrix) : Settings :=
  let d : HystrixDefaults := {}
  let pick (v dflt : Int) := if v > 0 then v else dflt
  let maxConcurrent := pick setting.maxConcurrentRequests d.maxConcurrent
  { commandName := key
    commandGroup := ""
    timeout := toInt64 (pick setting.timeoutInMs d.timeout * 1000000)
    maxConcurrentRequests := maxConcurrent
    errorPercentThreshold := pick setting.errorPercentThreshold d.errorPercentThreshold
    requestVolumeThreshold :=
      (pick setting.requestVolumeThreshold d.volumeThreshold % 2 ^ 64).toNat
    sleepWindow := toInt64 (pick setting.sleepWindowInMs d.sleepWindow * 1000000)
    queueSizeRejectionThreshold :=
      if setting.queueSizeRejectionThreshold ≥ 0 then setting.queueSizeRejectionThreshold
      else 5 * maxConcurrent }

structure Circuit where
  isOpen : Bool
  successes : Nat
  failures : Nat
  deriving DecidableEq

/-- The process-wide registry: the settings installed per key, and the circuits that
exist (hystrix creates one on first use and `Flush` drops them all). -/
structure Registry where
  settings : String → Option Settings
  circuits : String → Option Circuit

def Registry.empty : Registry := ⟨fun _ => none, fun _ => none⟩

def configureHystrix (reg : Registry) (key : String) (setting : Hystrix) : Registry :=
  { reg with settings := Function.update reg.settings key (some (buildSettings key setting)) }

/-- `configureHystrix` then `hystrix.Flush()`, which drops every circuit. -/
def reconfigureHystrix (reg : Registry) (key : String) (setting : Hystrix) : Registry :=
  { configureHystrix reg key setting with circuits := fun _ => none }

@[simp] theorem configureHystrix_settings (reg : Registry) (key : String) (setting : Hystrix) :
    (configureHystrix reg key setting).settings key = some (buildSettings key setting) := by
  simp [configureHystrix]

@[simp] theorem reconfigureHystrix_settings (reg : Registry) (key k : String)
    (setting : Hystrix) :
    (reconfigureHystrix reg key setting).settings k =
      (configureHystrix reg key setting).settings k :=
  rfl

structure Limiter where
  key : String
  cbOptions : List CBOption

def newLimiter (key : String) (cbOptions : List CBOption) : Limiter := ⟨key, cbOptions⟩

/-- `limiter.Execute`: `cb.Do` on the limiter's circuit with the background context,
which is never done. -/
def Limiter.Execute (l : Limiter) (fn : Routine) : DoCall :=
  Do none l.key fn l.cbOptions

end GrabRedis

/-! ## The default classification reaches hystrix unchanged -/

namespace GrabRedis

set_option autoImplicit false

@[simp] theorem shouldCountAsCBError_routinePanic (r : String) :
    shouldCountAsCBError (some (.routinePanic r)) = true := by
  simp [shouldCountAsCBError, GoError.isCanceled, GoError.isRedisError]

theorem handleError_default (e : Option GoError) :
    handleError (makeOption getDefaultCBOptions) e =
      if shouldCountAsCBError e then ⟨[], e⟩ else ⟨[e], none⟩ := by
  cases e with
  | none => rfl
  | some x =>
    by_cases h : shouldCountAsCBError (some x) <;>
      simp [handleError, makeOption, getDefaultCBOptions, WithUserErrorHandler, h]

theorem run_default_output (fn : Routine) :
    (run (makeOption getDefaultCBOptions) fn).output =
      if shouldCountAsCBError fn.result then fn.result else none := by
  rw [run, handleError_default]; split <;> rfl

theorem aggregateError_eq_nil_iff {ctxErr : Option GoError} {soft : List (Option GoError)}
    {fatal : List GoError} :
    aggregateError ctxErr soft fatal = [] ↔ soft = [] ∧ fatal = [] ∧ ctxErr = none := by
  cases soft <;> cases fatal <;> cases ctxErr <;> simp [aggregateError]

theorem handleError_some {option : CbOption} {e : GoError} {safe : Bool} {err : Option GoError}
    (h : (option.userErrHandler.getD getDefaultUserErrorHandler) (some e) = (safe, err)) :
    handleError option (some e) = if safe then ⟨[some e], none⟩ else ⟨[], err⟩ := by
  simp only [handleError, h]
  cases safe <;> rfl

theorem soft_sends_le_one (option : CbOption) (routine : Routine) :
    ((run option routine).soft ++ fallbackSoft option (run option routine)).length ≤ 1 := by
  simp only [run]
  generalize routine.result = r
  rcases r with _ | e
  · simp [handleError, fallbackSoft]
  · rcases hp : (option.userErrHandler.getD getDefaultUserErrorHandler) (some e) with
      ⟨_ | _, _ | err⟩ <;> simp only [handleError_some hp, fallbackSoft] <;> try simp
    cases option.fallbackHandler with
    | none => simp
    | some fb => rcases hfb : fb err <;> simp [hfb]

/-- The `select` of `aggregateError` has no case that can fire exactly when the context is
never done and the user's handler calls the routine's error a threat but hands hystrix `nil`
to track: the error then reaches neither channel. -/
theorem Go_eq_nil_iff (ctxErr : Option GoError) (opts : List CBOption) (routine : Routine) :
    Go ctxErr opts routine = [] ↔ ctxErr = none ∧ ∃ e, routine.result = some e ∧
      ((makeOption opts).userErrHandler.getD getDefaultUserErrorHandler) (some e) =
        (false, none) := by
  simp only [Go, aggregateError_eq_nil_iff, run]
  generalize makeOption opts = option
  generalize routine.result = r
  rcases r with _ | e
  · simp [handleError]
  · simp only [Option.some.injEq, exists_eq_left']
    rcases hp : (option.userErrHandler.getD getDefaultUserErrorHandler) (some e) with
      ⟨_ | _, _ | err⟩ <;> simp only [handleError_some hp, fallbackSoft, hystrixGo] <;> try simp
    cases option.fallbackHandler with
    | none => simp
    | some fb => rcases hfb : fb err <;> simp [hfb]

example : Go none [WithUserErrorHandler fun _ => (false, none)] (.returns (some (.other "x"))) =
    [] := rfl

end GrabRedis
