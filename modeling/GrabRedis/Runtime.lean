import GrabRedis.Invariant
import GrabRedis.Latencies

/-!
# The connector at run time: commands, the scheduler and `ShutDown`

The caller, the scheduler's monitor and the workers it spawns, one step of one goroutine at a
time. Under go 1.18 the closures one command queues share its range variable `client`, and
read it when they run.
-/

namespace GrabRedis

set_option autoImplicit false

namespace Runtime

/-- What a run reads from the connector: the shadows, the mode, whether the primary serves
read-only commands itself, and the scheduler's normalised options. -/
structure Env where
  loadTestClients : List Nat
  processAllLoadTestPackets : Bool
  ignoreReadOnly : Bool
  maxChanSize : Nat
  maxWorker : Nat
  deriving DecidableEq

def Env.ofConnector (c : Connector) (h : Heap) : Env :=
  ⟨c.loadTestClients, c.processAllLoadTestPackets, (h.get c.client).config.ignoreReadOnly,
    c.schedulerOptions.maxChanSize.toNat, c.schedulerOptions.maxWorker.toNat⟩

/-- A closure on `fnChan`: the call of `queueLoadTest` that built it and, as a ghost, the
shadow of the iteration that built it. The closure itself does not hold that shadow. -/
structure Task where
  call : Nat
  target : Nat
  deriving DecidableEq

inductive CallerPc
  | idle
  /-- In `queueLoadTest` of call `call`, with the shadows still to visit. -/
  | queue (call : Nat) (rest : List Nat)
  /-- At the primary's command. -/
  | primary
  /-- In `ShutDown`, at `c.schedulerCancel()`. -/
  | cancelling
  /-- In `ShutDown`, at `c.loadTestScheduler.wg.Wait()`. -/
  | waiting
  deriving DecidableEq

inductive MonitorPc
  /-- At the `select` of `start`'s loop. -/
  | select
  /-- In the spawn loop, at iteration `i` of `need`. -/
  | spawn (i need : Nat)
  /-- In the `ctx.Done()` case, at `s.wg.Wait()`. -/
  | wait
  | exited
  deriving DecidableEq

inductive WorkerPc
  /-- Started by `go s.spawnWorker(ctx)`, before `s.numWorker.Inc()`. -/
  | starting
  /-- At the `select` of the worker's loop. -/
  | select
  | exited
  deriving DecidableEq

structure State where
  caller : CallerPc
  monitor : MonitorPc
  workers : List WorkerPc
  fnChan : List Task
  closed : Bool
  cancelled : Bool
  numWorker : Nat
  wg : Nat
  latencies : Latencies
  /-- The range variable `client` of each call of `queueLoadTest`. -/
  client : Nat → Nat
  calls : Nat
  /-- Ghost: each closure sent, and each queue-full error count, by call and shadow. -/
  sends : List (Nat × Nat × Bool)
  /-- Ghost: each closure that ran its command, with the shadow the command went to. -/
  ran : List (Task × Nat)
  primaryClosed : Bool
  shutDownReturned : Bool
  replies : List (Except String Unit)
  /-- A goroutine panicked, which ends the process. -/
  panicked : Bool

/-- The state `NewDynamicConnector` leaves: the monitor started, no worker, `fnChan` empty. -/
def State.init : State :=
  ⟨.idle, .select, [], [], false, false, 0, 0, newLatencies 1000, fun _ => 0, 0, [], [], false,
    false, [], false⟩

def State.liveWorkers (s : State) : Nat := s.workers.countP (· != .exited)

def errClosed : String := "redis: client is closed"

/-- The number of workers the monitor asks for `backlog` closures: one, or
`⌈backlog · avgLatency / 1e9⌉` when the average latency is positive. The model divides exactly
where the code divides in float64. -/
def need (backlog : Nat) (avg : Int × Nat) : Nat :=
  if avg.1 ≤ 0 ∨ avg.2 = 0 then 1
  else (backlog * avg.1.toNat + avg.2 * 1000000000 - 1) / (avg.2 * 1000000000)

inductive WorkerAction
  /-- `s.numWorker.Inc()`. -/
  | start
  /-- The `fnChan` case: the worker takes the oldest closure and runs it in `elapsed` ns. -/
  | run (elapsed : Nat)
  /-- The idle ticker's case. -/
  | idle
  /-- The `ctx.Done()` case. -/
  | done

inductive Action
  /-- The caller calls a command method; `bypass` is that the method is `Do` or `DoReadOnly`
  and `ifCommandReadonly` says the command is read-only. -/
  | call (bypass : Bool)
  | shutDown
  /-- The caller's next step in its call. -/
  | caller
  /-- The monitor takes the backlog ticker's case. -/
  | tick
  /-- The monitor takes the `ctx.Done()` case. -/
  | done
  /-- The monitor's next step in its case. -/
  | monitor
  | worker (i : Nat) (a : WorkerAction)

namespace State

variable (E : Env) (s : State)

/-- The caller's next step. A send on a closed channel panics, also in a `select`; a send on a
full channel blocks in strict mode and takes the `default` case otherwise. -/
def callerStep : Option State :=
  match s.caller with
  | .queue _ [] => some { s with caller := .primary }
  | .queue k (x :: rest) =>
    let s := { s with client := Function.update s.client k x }
    if s.closed then some { s with panicked := true }
    else if s.fnChan.length < E.maxChanSize then
      some { s with
        fnChan := s.fnChan ++ [⟨k, x⟩]
        sends := s.sends ++ [(k, x, true)]
        caller := .queue k rest }
    else if E.processAllLoadTestPackets then none
    else some { s with sends := s.sends ++ [(k, x, false)], caller := .queue k rest }
  | .primary =>
    some { s with
      caller := .idle
      replies := s.replies ++ [if s.primaryClosed then .error errClosed else .ok ()] }
  | .cancelling => some { s with cancelled := true, caller := .waiting }
  | .waiting => if s.wg = 0 then some { s with caller := .idle, shutDownReturned := true } else none
  | .idle => none

def monitorStep : Option State :=
  match s.monitor with
  | .spawn i n =>
    if i < n ∧ s.numWorker < E.maxWorker then
      some { s with
        wg := s.wg + 1
        workers := s.workers ++ [.starting]
        monitor := .spawn (i + 1) n }
    else some { s with monitor := .select }
  | .wait => if s.wg = 0 then some { s with closed := true, monitor := .exited } else none
  | _ => none

/-- A worker's return: `s.wg.Done()` and `s.numWorker.Dec()`. -/
def exit (i : Nat) : State :=
  { s with wg := s.wg - 1, numWorker := s.numWorker - 1, workers := s.workers.set i .exited }

/-- A step of worker `i`. A closure that finds the context done returns without its command;
a receive from the closed, empty channel yields a nil function, whose call panics. -/
def workerStep (i : Nat) : WorkerAction → Option State
  | .start =>
    if s.workers[i]? = some .starting then
      some { s with numWorker := s.numWorker + 1, workers := s.workers.set i .select }
    else none
  | .run elapsed =>
    if s.workers[i]? = some .select then
      match s.fnChan with
      | t :: rest =>
        some { s with
          fnChan := rest
          ran := if s.cancelled then s.ran else s.ran ++ [(t, s.client t.call)]
          latencies := s.latencies.add elapsed }
      | [] => if s.closed then some { s with panicked := true } else none
    else none
  | .idle => if s.workers[i]? = some .select then some (s.exit i) else none
  | .done => if s.workers[i]? = some .select ∧ s.cancelled then some (s.exit i) else none

/-- What a worker's step can do: move past `Inc`; or, at its `select`, run the oldest closure,
panic on the closed and empty channel, or return. -/
theorem workerStep_cases {s s' : State} {i : Nat} {a : WorkerAction}
    (h : s.workerStep i a = some s') :
    (s.workers[i]? = some .starting ∧
        s' = { s with numWorker := s.numWorker + 1, workers := s.workers.set i .select }) ∨
      (s.workers[i]? = some .select ∧
        ((∃ e t rest, s.fnChan = t :: rest ∧ s' = { s with
            fnChan := rest
            ran := if s.cancelled then s.ran else s.ran ++ [(t, s.client t.call)]
            latencies := s.latencies.add e }) ∨
          (s.fnChan = [] ∧ s.closed = true ∧ s' = { s with panicked := true }) ∨
          s' = s.exit i)) := by
  cases a with
  | start =>
    simp only [workerStep] at h
    split_ifs at h with hi
    cases h
    exact .inl ⟨hi, rfl⟩
  | run e =>
    simp only [workerStep] at h
    split at h
    · rename_i hi
      split at h
      · rename_i t rest hf
        cases h
        exact .inr ⟨hi, .inl ⟨e, t, rest, hf, rfl⟩⟩
      · rename_i hf
        split at h
        · cases h; exact .inr ⟨hi, .inr (.inl ⟨hf, by assumption, rfl⟩)⟩
        · cases h
    · cases h
  | idle =>
    simp only [workerStep] at h
    split_ifs at h with hi
    cases h
    exact .inr ⟨hi, .inr (.inr rfl)⟩
  | done =>
    simp only [workerStep] at h
    split_ifs at h with hi
    cases h
    exact .inr ⟨hi.1, .inr (.inr rfl)⟩

end State

/-- One step of one goroutine; nothing moves after a panic. -/
def step (E : Env) (s : State) : Action → Option State
  | .call bypass =>
    if s.panicked ∨ s.caller ≠ .idle then none
    else if E.ignoreReadOnly && bypass then some { s with caller := .primary }
    else some { s with caller := .queue s.calls E.loadTestClients, calls := s.calls + 1 }
  | .shutDown =>
    if s.panicked ∨ s.caller ≠ .idle then none
    else some { s with primaryClosed := true, caller := .cancelling }
  | .caller => if s.panicked then none else s.callerStep E
  | .tick =>
    if s.panicked ∨ s.monitor ≠ .select then none
    else if s.fnChan.length = 0 then some s
    else some { s with monitor := .spawn 0 (need s.fnChan.length s.latencies.average) }
  | .done =>
    if s.panicked ∨ s.monitor ≠ .select ∨ !s.cancelled then none
    else some { s with monitor := .wait }
  | .monitor => if s.panicked then none else s.monitorStep E
  | .worker i a => if s.panicked then none else s.workerStep i a

/-- What a step can do, with nothing panicked: the caller starts a call or `ShutDown` when idle,
or moves on in one; the monitor at its `select` takes the ticker's case or the `ctx.Done()` case,
or moves on in one; or a worker moves. -/
theorem step_cases {E : Env} {s s' : State} {a : Action} (h : step E s a = some s') :
    s.panicked = false ∧
      ((s.caller = .idle ∧ (s' = { s with caller := .primary } ∨
          s' = { s with caller := .queue s.calls E.loadTestClients, calls := s.calls + 1 } ∨
          s' = { s with primaryClosed := true, caller := .cancelling })) ∨
        s.callerStep E = some s' ∨
        (s.monitor = .select ∧ (s' = s ∨
          s' = { s with monitor := .spawn 0 (need s.fnChan.length s.latencies.average) } ∨
          s.cancelled = true ∧ s' = { s with monitor := .wait })) ∨
        s.monitorStep E = some s' ∨
        ∃ i a, s.workerStep i a = some s') := by
  cases a with
  | call b =>
    simp only [step] at h
    split_ifs at h with h1 <;> cases h <;> simp only [not_or, not_not, Bool.not_eq_true] at h1
    · exact ⟨h1.1, .inl ⟨h1.2, .inl rfl⟩⟩
    · exact ⟨h1.1, .inl ⟨h1.2, .inr (.inl rfl)⟩⟩
  | shutDown =>
    simp only [step] at h
    split_ifs at h with h1
    cases h
    simp only [not_or, not_not, Bool.not_eq_true] at h1
    exact ⟨h1.1, .inl ⟨h1.2, .inr (.inr rfl)⟩⟩
  | caller =>
    simp only [step] at h
    split_ifs at h with h1
    exact ⟨by simpa using h1, .inr (.inl h)⟩
  | tick =>
    simp only [step] at h
    split_ifs at h with h1 <;> cases h <;> simp only [not_or, not_not, Bool.not_eq_true] at h1
    · exact ⟨h1.1, .inr (.inr (.inl ⟨h1.2, .inl rfl⟩))⟩
    · exact ⟨h1.1, .inr (.inr (.inl ⟨h1.2, .inr (.inl rfl)⟩))⟩
  | done =>
    simp only [step] at h
    split_ifs at h with h1
    cases h
    simp only [not_or, not_not, Bool.not_eq_true, Bool.not_eq_eq_eq_not, Bool.not_true,
      Bool.not_eq_false] at h1
    exact ⟨h1.1, .inr (.inr (.inl ⟨h1.2.1, .inr (.inr ⟨h1.2.2, rfl⟩)⟩))⟩
  | monitor =>
    simp only [step] at h
    split_ifs at h with h1
    exact ⟨by simpa using h1, .inr (.inr (.inr (.inl h)))⟩
  | worker i a =>
    simp only [step] at h
    split_ifs at h with h1
    exact ⟨by simpa using h1, .inr (.inr (.inr (.inr ⟨i, a, h⟩)))⟩

inductive Reachable (E : Env) : State → Prop
  | init : Reachable E State.init
  | step {s s' : State} (a : Action) : Reachable E s → step E s a = some s' → Reachable E s'

def run (E : Env) : State → List Action → Option State
  | s, [] => some s
  | s, a :: as => (step E s a).bind (run E · as)

theorem Reachable.run {E : Env} {s s' : State} (hs : Reachable E s) :
    ∀ {l : List Action}, Runtime.run E s l = some s' → Reachable E s'
  | [], h => by cases h; exact hs
  | a :: l, h => by
    simp only [Runtime.run] at h
    cases ha : Runtime.step E s a with
    | none => simp [ha] at h
    | some s₁ => simp only [ha, Option.bind_some] at h; exact (hs.step a ha).run h

theorem exists_of_run (E : Env) (l : List Action) (p : State → Bool)
    (h : (run E State.init l).map p = some true) : ∃ s, Reachable E s ∧ p s = true := by
  cases hr : run E State.init l with
  | none => simp [hr] at h
  | some s => exact ⟨s, Reachable.init.run hr, by simpa [hr] using h⟩

/-! ## The scheduler's bookkeeping -/

theorem State.callerStep_frame {E : Env} {s s' : State} (hs : s.callerStep E = some s') :
    s'.workers = s.workers ∧ s'.wg = s.wg ∧ s'.numWorker = s.numWorker ∧
      s'.closed = s.closed ∧ s'.monitor = s.monitor := by
  unfold State.callerStep at hs
  split at hs <;> (try dsimp only at hs) <;> (try split_ifs at hs) <;> cases hs <;>
    exact ⟨rfl, rfl, rfl, rfl, rfl⟩

/-- The wait group counts the live workers and `numWorker` those past `Inc`; `fnChan` is
closed only by the monitor, once it has exited with no worker left. -/
structure SchedInv (s : State) : Prop where
  wg_eq : s.wg = s.liveWorkers
  numWorker_eq : s.numWorker = s.workers.countP (· == .select)
  closed : s.closed = true → s.monitor = .exited ∧ s.wg = 0

theorem countP_set_add {α : Type} {l : List α} {i : Nat} {a : α} (b : α) (p : α → Bool)
    (h : l[i]? = some a) :
    (l.set i b).countP p + (if p a then 1 else 0) = l.countP p + (if p b then 1 else 0) := by
  obtain ⟨hi, rfl⟩ := List.getElem?_eq_some_iff.mp h
  have hle : (if p l[i] then 1 else 0) ≤ l.countP p := by
    split
    · exact List.countP_pos_iff.mpr ⟨_, List.getElem_mem hi, by assumption⟩
    · exact Nat.zero_le _
  rw [List.countP_set p l i b hi]
  omega

namespace SchedInv

variable {E : Env} {s s' : State}

theorem init : SchedInv State.init := ⟨rfl, rfl, fun h => by cases h⟩

theorem of_frame (h : SchedInv s) (hw : s'.workers = s.workers) (hg : s'.wg = s.wg)
    (hn : s'.numWorker = s.numWorker) (hc : s'.closed = s.closed)
    (hm : s'.closed = true → s'.monitor = s.monitor) : SchedInv s' :=
  ⟨by rw [hg, h.wg_eq]; unfold State.liveWorkers; rw [hw], by rw [hn, hw, h.numWorker_eq],
    fun hc' => by rw [hm hc', hg]; exact h.closed (hc ▸ hc')⟩

theorem callerStep (h : SchedInv s) (hs : s.callerStep E = some s') : SchedInv s' := by
  obtain ⟨hw, hg, hn, hc, hm⟩ := State.callerStep_frame hs
  exact h.of_frame hw hg hn hc fun _ => hm

theorem open_of_monitor (h : SchedInv s) (hm : s.monitor ≠ .exited) : s.closed = false := by
  cases hc : s.closed
  · rfl
  · exact absurd (h.closed hc).1 hm

theorem wg_pos (h : SchedInv s) {i : Nat} (hi : s.workers[i]? = some .select) : 0 < s.wg := by
  have h1 := countP_set_add .exited (· != .exited) hi
  simp at h1
  rw [h.wg_eq, State.liveWorkers, ← h1]
  omega

theorem monitorStep (h : SchedInv s) (hs : s.monitorStep E = some s') : SchedInv s' := by
  unfold State.monitorStep at hs
  split at hs
  · rename_i hm
    have hc := h.open_of_monitor (by simp [hm])
    split at hs <;> cases hs
    · refine ⟨?_, ?_, fun hc' => absurd hc' (by simp [hc])⟩
      · simp [State.liveWorkers, List.countP_append, h.wg_eq]
      · simp [List.countP_append, h.numWorker_eq]
    · exact h.of_frame rfl rfl rfl rfl fun hc' => absurd hc' (by simp [hc])
  · split at hs
    · rename_i hw
      cases hs
      exact ⟨by simpa [hw] using h.wg_eq, h.numWorker_eq, fun _ => ⟨rfl, hw⟩⟩
    · cases hs
  · cases hs

theorem exit (h : SchedInv s) {i : Nat} (hi : s.workers[i]? = some .select) :
    SchedInv (s.exit i) := by
  have h1 := countP_set_add .exited (· != .exited) hi
  have h2 := countP_set_add .exited (· == .select) hi
  have hpos := h.wg_pos hi
  simp at h1 h2
  refine ⟨?_, ?_, fun hc => absurd (h.closed hc).2 (by omega)⟩
  · simp only [State.exit, State.liveWorkers, h.wg_eq] at hpos ⊢
    omega
  · simp only [State.exit, h.numWorker_eq]
    omega

theorem workerStep {i : Nat} {a : WorkerAction} (h : SchedInv s)
    (hs : s.workerStep i a = some s') : SchedInv s' := by
  obtain ⟨hi, rfl⟩ | ⟨hi, ⟨-, -, -, -, rfl⟩ | ⟨-, -, rfl⟩ | rfl⟩ := State.workerStep_cases hs
  · have h1 := countP_set_add .select (· != .exited) hi
    have h2 := countP_set_add .select (· == .select) hi
    refine ⟨?_, ?_, h.closed⟩
    · simp only [State.liveWorkers, h.wg_eq]; simpa using h1.symm
    · simp only [h.numWorker_eq]; simp at h2; omega
  iterate 2 exact h.of_frame rfl rfl rfl rfl fun _ => rfl
  · exact h.exit hi

theorem step {a : Action} (h : SchedInv s) (hs : Runtime.step E s a = some s') :
    SchedInv s' := by
  obtain ⟨-, ⟨-, rfl | rfl | rfl⟩ | hs | ⟨hm, rfl | rfl | ⟨-, rfl⟩⟩ | hs | ⟨i, a, hs⟩⟩ :=
    step_cases hs
  -- the caller starts a call or `ShutDown`
  iterate 3 exact h.of_frame rfl rfl rfl rfl fun _ => rfl
  · exact h.callerStep hs
  · exact h
  -- the monitor leaves its `select`, so `fnChan` is open
  iterate 2
    have hc := h.open_of_monitor (by simp [hm])
    exact h.of_frame rfl rfl rfl rfl fun hc' => absurd hc' (by simp [hc])
  · exact h.monitorStep hs
  · exact h.workerStep hs

end SchedInv

theorem Reachable.schedInv {E : Env} {s : State} (hs : Reachable E s) : SchedInv s := by
  induction hs with
  | init => exact SchedInv.init
  | step _ _ hst ih => exact ih.step hst

/-- `fnChan` is closed only once every worker has returned and the monitor has exited, so no
worker takes the nil function from the closed channel. -/
theorem closed_after_workers_exit {E : Env} {s : State} (hs : Reachable E s)
    (hc : s.closed = true) : s.liveWorkers = 0 ∧ s.monitor = .exited :=
  ⟨hs.schedInv.wg_eq.symm.trans (hs.schedInv.closed hc).2, (hs.schedInv.closed hc).1⟩

set_option maxRecDepth 20000 in
theorem closed_after_workers_exit_shutDown :
    let E : Env := ⟨[1], true, false, 10000, 10⟩
    ∃ s, Reachable E s ∧ s.closed = true ∧ s.liveWorkers = 0 ∧ s.monitor = .exited := by
  intro E
  obtain ⟨s, hs, hc⟩ := exists_of_run E [.call false, .caller, .caller, .caller, .tick, .monitor,
    .worker 0 .start, .shutDown, .caller, .worker 0 .done, .caller, .monitor, .done, .monitor]
    (fun s => s.closed) (by decide)
  exact ⟨s, hs, hc, closed_after_workers_exit hs hc⟩

set_option maxRecDepth 20000 in
/-- `ShutDown` waits for the workers but not for the monitor, which closes `fnChan` on its own
schedule: a command called after `ShutDown` returned sends on the closed channel and panics. -/
theorem command_after_shutDown_panics :
    let C0 : ConnectorConfig := ⟨some (ClientConfig.ofAddrs ModeSingleHost ["10.0.0.1:6379"]),
      [some (ClientConfig.ofAddrs ModeSingleHost ["10.0.0.2:6379"])], true, true, 0, 0, 0⟩
    let c0 : Connector := ⟨0, [1], true, ⟨10000, 10, 1000000000⟩⟩
    let r : Except Failure Connector × Heap :=
      NewDynamicConnector none getDefaultCBOptions C0 Heap.empty
    r.1 = .ok c0 ∧ ∃ s, Reachable (Env.ofConnector c0 r.2) s ∧ s.shutDownReturned = true ∧
      s.caller = .idle ∧
      (run (Env.ofConnector c0 r.2) s [.call false, .caller]).map (·.panicked) = some true := by
  intro C0 c0 r
  have hE : Env.ofConnector c0 r.2 = ⟨[1], true, false, 10000, 10⟩ := by decide
  refine ⟨by decide, ?_⟩
  rw [hE]
  obtain ⟨s, hs, hp⟩ := exists_of_run ⟨[1], true, false, 10000, 10⟩
    [.shutDown, .caller, .caller, .done, .monitor]
    (fun s => s.shutDownReturned && s.caller == .idle &&
      (run ⟨[1], true, false, 10000, 10⟩ s [.call false, .caller]).map (·.panicked) == some true)
    (by decide)
  simp only [Bool.and_eq_true, beq_iff_eq] at hp
  exact ⟨s, hs, hp.1.1, hp.1.2, hp.2⟩

set_option maxRecDepth 20000 in
/-- The spawn loop reads `numWorker` before the workers it started have counted themselves:
with one worker allowed and two asked for, it starts two. -/
theorem spawn_loop_exceeds_maxWorker :
    let C0 : ConnectorConfig := ⟨some (ClientConfig.ofAddrs ModeSingleHost ["10.0.0.1:6379"]),
      [some (ClientConfig.ofAddrs ModeSingleHost ["10.0.0.2:6379"])], true, true, 1, 0, 0⟩
    let c0 : Connector := ⟨0, [1], true, ⟨10000, 1, 1000000000⟩⟩
    let r : Except Failure Connector × Heap :=
      NewDynamicConnector none getDefaultCBOptions C0 Heap.empty
    r.1 = .ok c0 ∧ ∃ s, Reachable (Env.ofConnector c0 r.2) s ∧
      (Env.ofConnector c0 r.2).maxWorker < s.liveWorkers := by
  intro C0 c0 r
  have hE : Env.ofConnector c0 r.2 = ⟨[1], true, false, 10000, 1⟩ := by decide
  refine ⟨by decide, ?_⟩
  rw [hE]
  obtain ⟨s, hs, hp⟩ := exists_of_run ⟨[1], true, false, 10000, 1⟩
    [.call false, .caller, .caller, .caller, .tick, .monitor, .monitor, .worker 0 .start,
      .worker 0 (.run 2000000000), .call false, .caller, .caller, .caller, .worker 0 .idle,
      .tick, .monitor, .monitor]
    (fun s => decide (1 < s.liveWorkers)) (by decide)
  exact ⟨s, hs, by simpa using hp⟩

end Runtime

end GrabRedis
