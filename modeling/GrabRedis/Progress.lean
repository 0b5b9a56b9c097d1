import GrabRedis.Runtime

/-!
# The scheduler drains `fnChan`

Before `ShutDown`, the monitor and the workers alone can run every closure on `fnChan`, in
order. What is shown is a schedule that drains the channel, not that every schedule does: the
idle timeout and the ticks make no fairness promise.
-/

namespace GrabRedis

namespace Runtime

set_option autoImplicit false

/-- The steps of the scheduler's goroutines, the monitor's and the workers'. -/
def Action.byScheduler : Action → Bool
  | .tick | .done | .monitor | .worker _ _ => true
  | .call _ | .shutDown | .caller => false

theorem run_append (E : Env) (s : State) (l₁ l₂ : List Action) :
    run E s (l₁ ++ l₂) = (run E s l₁).bind (run E · l₂) := by
  induction l₁ generalizing s with
  | nil => rfl
  | cons a l ih => simp only [List.cons_append, run]; cases step E s a <;> simp [ih]

theorem need_pos {backlog : Nat} (hb : 0 < backlog) (avg : Int × Nat) :
    0 < need backlog avg := by
  unfold need
  split_ifs with h
  · exact Nat.one_pos
  · simp only [not_or, not_le] at h
    have : 1 ≤ backlog * avg.1.toNat := Nat.mul_pos hb (by omega)
    exact Nat.div_pos (by omega) (Nat.mul_pos (Nat.pos_of_ne_zero h.2) (by norm_num))

/-! ## The steps the schedule takes -/

section steps

variable {E : Env} {s : State} (hp : s.panicked = false)
include hp

theorem step_tick (hm : s.monitor = .select) (hf : s.fnChan ≠ []) :
    step E s .tick =
      some { s with monitor := .spawn 0 (need s.fnChan.length s.latencies.average) } := by
  simp [step, hp, hm, hf]

theorem step_spawn {i n : Nat} (hm : s.monitor = .spawn i n) (hi : i < n)
    (hn : s.numWorker < E.maxWorker) :
    step E s .monitor = some { s with
      wg := s.wg + 1
      workers := s.workers ++ [.starting]
      monitor := .spawn (i + 1) n } := by
  simp [step, State.monitorStep, hp, hm, hi, hn]

theorem step_spawn_end {i n : Nat} (hm : s.monitor = .spawn i n)
    (h : ¬ (i < n ∧ s.numWorker < E.maxWorker)) :
    step E s .monitor = some { s with monitor := .select } := by
  simp only [step, hp, Bool.false_eq_true, if_false, State.monitorStep, hm, if_neg h]

theorem step_start {i : Nat} (hi : s.workers[i]? = some .starting) :
    step E s (.worker i .start) =
      some { s with numWorker := s.numWorker + 1, workers := s.workers.set i .select } := by
  simp [step, State.workerStep, hp, hi]

theorem step_run {i : Nat} (hi : s.workers[i]? = some .select) (hc : s.cancelled = false)
    {t : Task} {rest : List Task} (hf : s.fnChan = t :: rest) (e : Nat) :
    step E s (.worker i (.run e)) = some { s with
      fnChan := rest
      ran := s.ran ++ [(t, s.client t.call)]
      latencies := s.latencies.add e } := by
  simp [step, State.workerStep, hp, hi, hf, hc]

end steps

/-! ## The monitor's loop runs until the cancel -/

theorem State.callerStep_cancelled {E : Env} {s s' : State} (hs : s.callerStep E = some s')
    (hc : s.cancelled = true) : s'.cancelled = true := by
  unfold State.callerStep at hs
  split at hs <;> (try dsimp only at hs) <;> (try split_ifs at hs) <;> cases hs <;>
    first | exact hc | rfl

/-- The monitor leaves its loop only in the `ctx.Done()` case, after the cancel. -/
def MonitorInv (s : State) : Prop :=
  s.monitor = .wait ∨ s.monitor = .exited → s.cancelled = true

theorem MonitorInv.step {E : Env} {s s' : State} {a : Action} (h : MonitorInv s)
    (hs : Runtime.step E s a = some s') : MonitorInv s' := by
  obtain ⟨-, ⟨-, rfl | rfl | rfl⟩ | hs | ⟨-, rfl | rfl | ⟨hc, rfl⟩⟩ | hs | ⟨i, a, hs⟩⟩ :=
    step_cases hs
  iterate 3 exact h
  · intro hm
    rw [(State.callerStep_frame hs).2.2.2.2] at hm
    exact State.callerStep_cancelled hs (h hm)
  · exact h
  · intro hm; simp at hm
  · exact fun _ => hc
  · unfold State.monitorStep at hs
    split at hs
    · split at hs <;> cases hs <;> intro hm <;> simp at hm
    · split at hs
      · cases hs; exact fun _ => h (.inl ‹_›)
      · cases hs
    · cases hs
  · obtain ⟨-, rfl⟩ | ⟨-, ⟨-, -, -, -, rfl⟩ | ⟨-, -, rfl⟩ | rfl⟩ :=
      State.workerStep_cases hs <;> exact h

theorem Reachable.monitorInv {E : Env} {s : State} (hs : Reachable E s) : MonitorInv s := by
  induction hs with
  | init => intro hm; simp [State.init] at hm
  | step _ _ hst ih => exact ih.step hst

/-! ## The schedule -/

section schedule

variable {E : Env}

theorem run_drain {i : Nat} (e : Nat) (l : List Task) {s : State} (hf : s.fnChan = l)
    (hp : s.panicked = false) (hc : s.cancelled = false) (hi : s.workers[i]? = some .select) :
    ∃ s', run E s (l.map fun _ => .worker i (.run e)) = some s' ∧ s'.fnChan = [] ∧
      s'.ran = s.ran ++ l.map fun t => (t, s.client t.call) := by
  induction l generalizing s with
  | nil => exact ⟨s, rfl, hf, by simp⟩
  | cons t rest ih =>
    obtain ⟨s', hr, hf', hran⟩ := ih (s := { s with
      fnChan := rest
      ran := s.ran ++ [(t, s.client t.call)]
      latencies := s.latencies.add e }) rfl hp hc hi
    refine ⟨s', ?_, hf', by simp [hran]⟩
    simp only [List.map_cons, run, step_run hp hi hc hf, Option.some_bind]
    exact hr

/-- `s'` is `s` after steps of the scheduler that leave `fnChan`, what ran and the range
variables alone, now with a worker at its `select`. -/
structure Ready (s s' : State) : Prop where
  fnChan : s'.fnChan = s.fnChan
  ran : s'.ran = s.ran
  client : s'.client = s.client
  panicked : s'.panicked = false
  cancelled : s'.cancelled = false
  worker : ∃ i : Nat, s'.workers[i]? = some .select

theorem ready_of_spawn {s : State} {i n : Nat} (hp : s.panicked = false)
    (hc : s.cancelled = false) (hm : s.monitor = .spawn i n) (hi : i < n)
    (hn : s.numWorker < E.maxWorker) :
    ∃ s', run E s [.monitor, .worker s.workers.length .start] = some s' ∧ Ready s s' := by
  let s₂ : State :=
    { s with wg := s.wg + 1, workers := s.workers ++ [.starting], monitor := .spawn (i + 1) n }
  have hw : s₂.workers[s.workers.length]? = some .starting := by simp [s₂]
  refine ⟨{ s₂ with
    numWorker := s₂.numWorker + 1
    workers := s₂.workers.set s.workers.length .select }, ?_,
    ⟨rfl, rfl, rfl, hp, hc, s.workers.length, by simp [s₂]⟩⟩
  simp only [run, step_spawn hp hm hi hn, Option.some_bind]
  rw [step_start (s := s₂) hp hw]
  rfl

theorem exists_ready {s : State} (hs : Reachable E s) (hw : 0 < E.maxWorker)
    (hp : s.panicked = false) (hc : s.cancelled = false) (hf : s.fnChan ≠ []) :
    ∃ acts s', (∀ a ∈ acts, a.byScheduler) ∧ run E s acts = some s' ∧ Ready s s' := by
  by_cases hsel : ∃ i : Nat, s.workers[i]? = some .select
  · exact ⟨[], s, by simp, rfl, ⟨rfl, rfl, rfl, hp, hc, hsel⟩⟩
  by_cases hst : ∃ i : Nat, s.workers[i]? = some .starting
  · obtain ⟨i, hi⟩ := hst
    obtain ⟨hlt, -⟩ := List.getElem?_eq_some_iff.mp hi
    refine ⟨[.worker i .start],
      { s with numWorker := s.numWorker + 1, workers := s.workers.set i .select },
      by simp [Action.byScheduler], ?_,
      ⟨rfl, rfl, rfl, hp, hc, i, by simp [List.getElem?_set, hlt]⟩⟩
    simp only [run, step_start hp hi, Option.some_bind]
  -- no worker is started, so none is counted and the monitor may spawn one
  have hn : s.numWorker = 0 := by
    rw [hs.schedInv.numWorker_eq, List.countP_eq_zero]
    intro w hw' hsw
    obtain ⟨i, hi⟩ := List.mem_iff_getElem?.mp hw'
    exact hsel ⟨i, by simpa using hi.trans (by simpa using hsw)⟩
  have hne : 0 < s.fnChan.length := List.length_pos.mpr hf
  cases hm : s.monitor with
  | select =>
    obtain ⟨s', hr, h1, h2, h3, h4, h5, h6⟩ := ready_of_spawn (E := E) (s := { s with
      monitor := .spawn 0 (need s.fnChan.length s.latencies.average) }) hp hc rfl
      (need_pos hne _) (by simp [hn, hw])
    refine ⟨.tick :: [.monitor, .worker s.workers.length .start], s',
      by simp [Action.byScheduler], ?_, ⟨h1, h2, h3, h4, h5, h6⟩⟩
    simp only [run, step_tick hp hm hf, Option.some_bind] at hr ⊢
    exact hr
  | spawn i n =>
    by_cases hi : i < n ∧ s.numWorker < E.maxWorker
    · obtain ⟨s', hr, hR⟩ := ready_of_spawn (E := E) hp hc hm hi.1 hi.2
      exact ⟨_, s', by simp [Action.byScheduler], hr, hR⟩
    · obtain ⟨s', hr, h1, h2, h3, h4, h5, h6⟩ := ready_of_spawn (E := E) (s := { s with
        monitor := .spawn 0 (need s.fnChan.length s.latencies.average) }) hp hc rfl
        (need_pos hne _) (by simp [hn, hw])
      refine ⟨.monitor :: .tick :: [.monitor, .worker s.workers.length .start], s',
        by simp [Action.byScheduler], ?_, ⟨h1, h2, h3, h4, h5, h6⟩⟩
      simp only [run, step_spawn_end hp hm hi, Option.some_bind,
        step_tick (s := { s with monitor := .select }) hp rfl hf] at hr ⊢
      exact hr
  | wait => exact absurd (hs.monitorInv (.inl hm)) (by simp [hc])
  | exited => exact absurd (hs.monitorInv (.inr hm)) (by simp [hc])

/-- The scheduler cannot get stuck with closures waiting: before `ShutDown` cancels it, from
every reachable state without a panic, the monitor and the workers alone can run every closure
on `fnChan`, in the order queued, each on the shadow its call's range variable holds. -/
theorem fnChan_drains {s : State} (hs : Reachable E s) (hw : 0 < E.maxWorker)
    (hp : s.panicked = false) (hc : s.cancelled = false) :
    ∃ acts s', (∀ a ∈ acts, a.byScheduler) ∧ run E s acts = some s' ∧ s'.fnChan = [] ∧
      s'.ran = s.ran ++ s.fnChan.map fun t => (t, s.client t.call) := by
  cases hf : s.fnChan with
  | nil => exact ⟨[], s, by simp, rfl, hf, by simp⟩
  | cons t rest =>
    obtain ⟨acts, s₁, hb, hr, hR⟩ := exists_ready hs hw hp hc (by simp [hf])
    obtain ⟨i, hi⟩ := hR.worker
    obtain ⟨s', hr', hf', hran⟩ :=
      run_drain (E := E) 1 (t :: rest) (hR.fnChan.trans hf) hR.panicked hR.cancelled hi
    refine ⟨acts ++ (t :: rest).map fun _ => .worker i (.run 1), s', ?_,
      by rw [run_append, hr]; exact hr', hf', by rw [hran, hR.ran, hR.client]⟩
    simp only [List.mem_append, List.mem_map]
    rintro a (ha | ⟨_, -, rfl⟩)
    · exact hb a ha
    · rfl

set_option maxRecDepth 20000 in
theorem fnChan_drains_two_waiting :
    let E : Env := ⟨[1, 2], true, false, 10000, 10⟩
    ∃ s, Reachable E s ∧ s.fnChan.length = 2 ∧ 0 < E.maxWorker ∧ s.panicked = false ∧
      s.cancelled = false ∧ ∃ acts s', (∀ a ∈ acts, a.byScheduler) ∧ run E s acts = some s' ∧
        s'.fnChan = [] ∧ s'.ran = s.ran ++ s.fnChan.map fun t => (t, s.client t.call) := by
  intro E
  obtain ⟨s, hs, hp⟩ := exists_of_run E [.call false, .caller, .caller, .caller, .caller]
    (fun s => s.fnChan.length == 2 && !s.panicked && !s.cancelled) (by decide)
  simp only [Bool.and_eq_true, beq_iff_eq, Bool.not_eq_true'] at hp
  exact ⟨s, hs, hp.1.1, by decide, hp.1.2, hp.2, fnChan_drains hs (by decide) hp.1.2 hp.2⟩

end schedule

end Runtime

end GrabRedis
