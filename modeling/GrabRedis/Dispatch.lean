import GrabRedis.Runtime

/-!
# What `queueLoadTest` queues, and where the closures go

Each call of `queueLoadTest` visits every shadow once, in order. For each it queues a closure or,
in the non-strict mode with the channel full, counts a drop. The closures read the call's range
variable only when they run, so every closure of a call whose loop has ended goes to the last
shadow. This module does NOT cover the commands themselves or the shadows' replies.
-/

namespace GrabRedis

namespace Runtime

set_option autoImplicit false

/-- The shadows that call `k` visited, in order, as its sends and drops record them. -/
def visits (sends : List (Nat × Nat × Bool)) (k : Nat) : List Nat :=
  (sends.filter (·.1 == k)).map (·.2.1)

theorem visits_snoc (sends : List (Nat × Nat × Bool)) (k x : Nat) (b : Bool) (k' : Nat) :
    visits (sends ++ [(k, x, b)]) k' =
      if k = k' then visits sends k' ++ [x] else visits sends k' := by
  by_cases hk : k = k' <;> simp [visits, hk]

theorem State.monitorStep_frame {E : Env} {s s' : State} (hs : s.monitorStep E = some s') :
    s'.caller = s.caller ∧ s'.calls = s.calls ∧ s'.sends = s.sends ∧ s'.client = s.client ∧
      s'.fnChan = s.fnChan ∧ s'.panicked = s.panicked ∧ s'.ran = s.ran ∧
      s'.cancelled = s.cancelled := by
  unfold State.monitorStep at hs
  split at hs <;> (try split_ifs at hs) <;> cases hs <;>
    exact ⟨rfl, rfl, rfl, rfl, rfl, rfl, rfl, rfl⟩

theorem State.workerStep_frame {s s' : State} {i : Nat} {a : WorkerAction}
    (hs : s.workerStep i a = some s') :
    s'.caller = s.caller ∧ s'.calls = s.calls ∧ s'.sends = s.sends ∧ s'.client = s.client ∧
      ∀ t ∈ s'.fnChan, t ∈ s.fnChan := by
  obtain ⟨-, rfl⟩ | ⟨-, ⟨-, t, rest, hf, rfl⟩ | ⟨-, -, rfl⟩ | rfl⟩ := State.workerStep_cases hs
  · exact ⟨rfl, rfl, rfl, rfl, fun _ h => h⟩
  · exact ⟨rfl, rfl, rfl, rfl, fun u hu => by rw [hf]; exact List.mem_cons_of_mem t hu⟩
  iterate 2 exact ⟨rfl, rfl, rfl, rfl, fun _ h => h⟩

/-- What every call of `queueLoadTest` has visited: nothing for calls not made, every shadow for
calls whose loop has ended, and for the running call the shadows before the rest. Only sends
are made in strict mode; each queued closure's shadow was visited by its call; and the range
variable of a call holds the last shadow it visited. -/
structure QueueInv (E : Env) (s : State) : Prop where
  fresh : ∀ k, s.calls ≤ k → visits s.sends k = []
  finished : ∀ k < s.calls, (∀ rest, s.caller ≠ .queue k rest) →
    visits s.sends k = E.loadTestClients
  current : ∀ k rest, s.caller = .queue k rest →
    k + 1 = s.calls ∧ visits s.sends k ++ rest = E.loadTestClients
  strict : E.processAllLoadTestPackets = true → ∀ e ∈ s.sends, e.2.2 = true
  queued : ∀ t ∈ s.fnChan, t.target ∈ visits s.sends t.call
  lastVar : s.panicked = false → ∀ k x, (visits s.sends k).getLast? = some x → s.client k = x

namespace QueueInv

variable {E : Env} {s s' : State}

theorem init : QueueInv E State.init := by
  refine ⟨fun _ _ => rfl, fun _ hk => absurd hk (Nat.not_lt_zero _), ?_, ?_, ?_, ?_⟩ <;>
    intros <;> simp_all [State.init, visits]

theorem of_frame (h : QueueInv E s) (hc : s'.caller = s.caller) (hn : s'.calls = s.calls)
    (hs : s'.sends = s.sends) (hcl : s'.client = s.client) (hf : ∀ t ∈ s'.fnChan, t ∈ s.fnChan)
    (hp : s'.panicked = false → s.panicked = false) : QueueInv E s' := by
  refine ⟨?_, ?_, ?_, ?_, ?_, ?_⟩ <;> simp only [hc, hn, hs, hcl]
  · exact h.fresh
  · exact h.finished
  · exact h.current
  · exact h.strict
  · exact fun t ht => h.queued t (hf t ht)
  · exact fun hp' => h.lastVar (hp hp')

theorem of_outside (h : QueueInv E s) (hc : ∀ k rest, s.caller ≠ .queue k rest)
    (hc' : ∀ k rest, s'.caller ≠ .queue k rest) (hn : s'.calls = s.calls)
    (hs : s'.sends = s.sends) (hcl : s'.client = s.client) (hf : s'.fnChan = s.fnChan)
    (hp : s'.panicked = s.panicked) : QueueInv E s' := by
  refine ⟨?_, fun k hk _ => ?_, fun k rest he => absurd he (hc' k rest), ?_, ?_, ?_⟩ <;>
    simp only [hn, hs, hcl, hf, hp]
  · exact h.fresh
  · exact h.finished k (hn ▸ hk) (hc k)
  · exact h.strict
  · exact h.queued
  · exact h.lastVar

theorem visit (h : QueueInv E s) {k x : Nat} {rest : List Nat}
    (hc : s.caller = .queue k (x :: rest)) (b : Bool)
    (hb : E.processAllLoadTestPackets = true → b = true) (fn : List Task)
    (hfn : ∀ t ∈ fn, t ∈ s.fnChan ∨ t = ⟨k, x⟩) :
    QueueInv E { s with
      client := Function.update s.client k x
      sends := s.sends ++ [(k, x, b)]
      caller := .queue k rest
      fnChan := fn } := by
  obtain ⟨hk, hL⟩ := h.current k _ hc
  refine ⟨fun k' hk' => ?_, fun k' hk' hne => ?_, fun k' rest' he => ?_, fun hs e he => ?_,
    fun t ht => ?_, fun hp k' x' hl => ?_⟩ <;> dsimp only at *
  · rw [visits_snoc, if_neg (by omega)]; exact h.fresh k' hk'
  · have hne' : k ≠ k' := fun e => hne rest (e ▸ rfl)
    rw [visits_snoc, if_neg hne']
    exact h.finished k' hk' fun r he => hne' (by rw [hc] at he; cases he; rfl)
  · cases he
    refine ⟨hk, ?_⟩
    rw [visits_snoc, if_pos rfl, List.append_assoc, List.singleton_append, hL]
  · rcases List.mem_append.mp he with he | he
    · exact h.strict hs e he
    · rw [List.mem_singleton.mp he]; exact hb hs
  · rw [visits_snoc]
    rcases hfn t ht with ht | rfl
    · split_ifs
      · exact List.mem_append_left _ (h.queued t ht)
      · exact h.queued t ht
    · simp
  · rw [visits_snoc] at hl
    by_cases hkk : k = k'
    · subst hkk
      rw [if_pos rfl] at hl
      simp at hl
      simp [hl]
    · rw [if_neg hkk] at hl
      rw [Function.update_noteq (Ne.symm hkk)]
      exact h.lastVar hp k' x' hl

theorem callerStep (h : QueueInv E s) (hs : s.callerStep E = some s') : QueueInv E s' := by
  unfold State.callerStep at hs
  split at hs
  · rename_i k hc
    cases hs
    refine ⟨h.fresh, fun k' hk' _ => ?_, fun _ _ he => (by cases he), h.strict, h.queued,
      h.lastVar⟩
    by_cases hkk : k = k'
    · subst hkk; simpa using (h.current k [] hc).2
    · exact h.finished k' hk' fun r he => hkk (by rw [hc] at he; cases he; rfl)
  · rename_i k x rest hc
    dsimp only at hs
    split_ifs at hs with h1 h2 h3
    · cases hs
      exact ⟨h.fresh, h.finished, h.current, h.strict, h.queued, fun hp => by cases hp⟩
    · cases hs
      exact h.visit hc true (fun _ => rfl) _ fun t ht => by simpa using ht
    · cases hs
      exact h.visit hc false (fun hs => absurd hs h3) _ fun t ht => .inl ht
  · cases hs
    exact h.of_outside (by simp_all) (by simp) rfl rfl rfl rfl rfl
  · cases hs
    exact h.of_outside (by simp_all) (by simp) rfl rfl rfl rfl rfl
  · split_ifs at hs
    cases hs
    exact h.of_outside (by simp_all) (by simp) rfl rfl rfl rfl rfl
  · cases hs

theorem step {a : Action} (h : QueueInv E s) (hs : Runtime.step E s a = some s') :
    QueueInv E s' := by
  obtain ⟨hp, ⟨hi, rfl | rfl | rfl⟩ | hs | ⟨-, rfl | rfl | ⟨-, rfl⟩⟩ | hs | ⟨i, a, hs⟩⟩ :=
    step_cases hs
  · exact h.of_outside (by simp [hi]) (by simp) rfl rfl rfl rfl rfl
  · -- a call starts its loop over every shadow
    refine ⟨fun k hk => h.fresh k (by dsimp only at hk; omega), fun k hk hne => ?_,
      fun k rest he => ?_, h.strict, h.queued, h.lastVar⟩
    · have hk' : k ≠ s.calls := fun e => hne _ (by rw [e])
      exact h.finished k (by dsimp only at hk; omega) (by simp [hi])
    · cases he
      exact ⟨rfl, by rw [h.fresh _ le_rfl]; rfl⟩
  · exact h.of_outside (by simp [hi]) (by simp) rfl rfl rfl rfl rfl
  · exact h.callerStep hs
  · exact h
  iterate 2 exact h.of_frame rfl rfl rfl rfl (fun _ h => h) fun h => h
  · obtain ⟨h1, h2, h3, h4, h5, h6, -⟩ := State.monitorStep_frame hs
    exact h.of_frame h1 h2 h3 h4 (fun t ht => h5 ▸ ht) fun h => h6 ▸ h
  · obtain ⟨h1, h2, h3, h4, h5⟩ := State.workerStep_frame hs
    exact h.of_frame h1 h2 h3 h4 h5 fun _ => hp

end QueueInv

theorem Reachable.queueInv {E : Env} {s : State} (hs : Reachable E s) : QueueInv E s := by
  induction hs with
  | init => exact QueueInv.init
  | step _ _ hst ih => exact ih.step hst

/-- Every call of `queueLoadTest` whose loop has ended visited each shadow once, in the shadows'
order: it queued a closure for it or, in the non-strict mode only, counted a drop. -/
theorem queueLoadTest_visits_each_shadow {E : Env} {s : State} (hs : Reachable E s) {k : Nat}
    (hk : k < s.calls) (hq : ∀ rest, s.caller ≠ .queue k rest) :
    visits s.sends k = E.loadTestClients ∧
      (E.processAllLoadTestPackets = true → ∀ e ∈ s.sends, e.2.2 = true) :=
  ⟨hs.queueInv.finished k hk hq, hs.queueInv.strict⟩

set_option maxRecDepth 20000 in
theorem queueLoadTest_visits_each_shadow_drop :
    let E : Env := ⟨[1, 2], false, false, 1, 10⟩
    ∃ s, Reachable E s ∧ 0 < s.calls ∧ (∀ rest, s.caller ≠ .queue 0 rest) ∧
      s.sends = [(0, 1, true), (0, 2, false)] ∧ visits s.sends 0 = E.loadTestClients ∧
      (E.processAllLoadTestPackets = true → ∀ e ∈ s.sends, e.2.2 = true) := by
  intro E
  obtain ⟨s, hs, hp⟩ := exists_of_run E [.call false, .caller, .caller, .caller, .caller]
    (fun s => s.calls == 1 && s.caller == .idle && s.sends == [(0, 1, true), (0, 2, false)])
    (by decide)
  simp only [Bool.and_eq_true, beq_iff_eq] at hp
  have hq : ∀ rest, s.caller ≠ .queue 0 rest := fun _ => by simp [hp.1.2]
  exact ⟨s, hs, by omega, hq, hp.2, queueLoadTest_visits_each_shadow hs (by omega) hq⟩

/-- A closure that runs after its call's loop has ended sends the command to the last shadow,
whichever shadow it was queued for. -/
theorem closure_after_loop_runs_on_last_shadow {E : Env} {s s' : State} {i e : Nat}
    (hs : Reachable E s) (hst : step E s (.worker i (.run e)) = some s') {t : Task}
    {rest : List Task} (hf : s.fnChan = t :: rest) (hq : ∀ r, s.caller ≠ .queue t.call r)
    (hc : s.cancelled = false) :
    ∃ x, E.loadTestClients.getLast? = some x ∧ s'.ran = s.ran ++ [(t, x)] := by
  have hi := hs.queueInv
  have hv : t.target ∈ visits s.sends t.call := hi.queued t (by simp [hf])
  have hk : t.call < s.calls := by
    by_contra hge
    rw [hi.fresh t.call (by omega)] at hv
    cases hv
  simp only [step, State.workerStep, hf, hc, Bool.false_eq_true, if_false] at hst
  split_ifs at hst with hp
  cases hst
  cases hx : (visits s.sends t.call).getLast? with
  | none => rw [List.getLast?_eq_none_iff] at hx; rw [hx] at hv; cases hv
  | some x =>
    refine ⟨x, hi.finished t.call hk hq ▸ hx, ?_⟩
    simp [hi.lastVar (by simpa using hp) _ _ hx]

set_option maxRecDepth 20000 in
theorem closure_after_loop_runs_on_last_shadow_first :
    let E : Env := ⟨[1, 2], true, false, 10000, 10⟩
    ∃ s s', Reachable E s ∧ step E s (.worker 0 (.run 1)) = some s' ∧
      s.fnChan = [⟨0, 1⟩, ⟨0, 2⟩] ∧ (∀ r, s.caller ≠ .queue 0 r) ∧ s.cancelled = false ∧
      ∃ x, E.loadTestClients.getLast? = some x ∧ s'.ran = s.ran ++ [(⟨0, 1⟩, x)] := by
  intro E
  obtain ⟨s, hs, hp⟩ := exists_of_run E [.call false, .caller, .caller, .caller, .caller, .tick,
    .monitor, .worker 0 .start]
    (fun s => s.fnChan == [⟨0, 1⟩, ⟨0, 2⟩] && s.caller == .idle && !s.cancelled &&
      (step E s (.worker 0 (.run 1))).isSome) (by decide)
  simp only [Bool.and_eq_true, beq_iff_eq, Bool.not_eq_true'] at hp
  obtain ⟨⟨⟨hf, hi⟩, hc⟩, hst⟩ := hp
  obtain ⟨s', hs'⟩ := Option.isSome_iff_exists.mp hst
  have hq : ∀ r, s.caller ≠ .queue 0 r := fun _ => by simp [hi]
  exact ⟨s, s', hs, hs', hf, hq, hc,
    closure_after_loop_runs_on_last_shadow hs hs' hf hq hc⟩

set_option maxRecDepth 20000 in
/-- A strict command with two shadows: both closures run after the loop, and both go to the
second shadow; the first gets nothing. -/
theorem queueLoadTest_closures_share_loop_variable :
    let C0 : ConnectorConfig := ⟨some (ClientConfig.ofAddrs ModeSingleHost ["10.0.0.1:6379"]),
      [some (ClientConfig.ofAddrs ModeSingleHost ["10.0.0.2:6379"]),
        some (ClientConfig.ofAddrs ModeSingleHost ["10.0.0.3:6379"])], true, true, 0, 0, 0⟩
    let c0 : Connector := ⟨0, [1, 2], true, ⟨10000, 10, 1000000000⟩⟩
    let r : Except Failure Connector × Heap :=
      NewDynamicConnector none getDefaultCBOptions C0 Heap.empty
    r.1 = .ok c0 ∧ ∃ s, Reachable (Env.ofConnector c0 r.2) s ∧
      s.ran = [(⟨0, 1⟩, 2), (⟨0, 2⟩, 2)] := by
  intro C0 c0 r
  have hE : Env.ofConnector c0 r.2 = ⟨[1, 2], true, false, 10000, 10⟩ := by decide
  refine ⟨by decide, ?_⟩
  rw [hE]
  obtain ⟨s, hs, hp⟩ := exists_of_run ⟨[1, 2], true, false, 10000, 10⟩
    [.call false, .caller, .caller, .tick, .monitor, .worker 0 .start, .worker 0 (.run 1),
      .worker 0 (.run 1)]
    (fun s => s.ran == [(⟨0, 1⟩, 2), (⟨0, 2⟩, 2)]) (by decide)
  exact ⟨s, hs, by simpa using hp⟩

/-! ## Every queued closure runs once

`fnChan` is a FIFO channel, so the workers take the closures in the order `queueLoadTest` sent
them. A closure that a worker takes after `ShutDown` cancelled the scheduler returns without its
command. -/

/-- The closures `queueLoadTest` put on `fnChan`, in the order it sent them. -/
def queued (sends : List (Nat × Nat × Bool)) : List Task :=
  (sends.filter (·.2.2)).map fun e => ⟨e.1, e.2.1⟩

theorem queued_snoc (sends : List (Nat × Nat × Bool)) (k x : Nat) (b : Bool) :
    queued (sends ++ [(k, x, b)]) = if b then queued sends ++ [⟨k, x⟩] else queued sends := by
  cases b <;> simp [queued]

theorem queued_filter_call {sends : List (Nat × Nat × Bool)} (h : ∀ e ∈ sends, e.2.2 = true)
    (k : Nat) : ((queued sends).filter (·.call == k)).map (·.target) = visits sends k := by
  rw [queued, List.filter_eq_self.mpr h]
  simp [visits, List.filter_map, Function.comp_def]

/-- The closures queued are, in order, those the workers ran, those they discarded after the
cancel, and those still on `fnChan`; none is discarded before the cancel. -/
def Delivered (s : State) : Prop :=
  ∃ skipped, queued s.sends = s.ran.map Prod.fst ++ skipped ++ s.fnChan ∧
    (s.cancelled = false → skipped = [])

namespace Delivered

variable {E : Env} {s s' : State}

theorem init : Delivered State.init := ⟨[], rfl, fun _ => rfl⟩

theorem of_frame (h : Delivered s) (hq : queued s'.sends = queued s.sends) (hr : s'.ran = s.ran)
    (hf : s'.fnChan = s.fnChan) (hc : s'.cancelled = false → s.cancelled = false) :
    Delivered s' := by
  obtain ⟨sk, hd, hsk⟩ := h
  exact ⟨sk, by rw [hq, hr, hf, hd], fun h => hsk (hc h)⟩

/-- The caller sends its closure to the end of `fnChan`, drops it, or moves on without
touching the channel. -/
theorem callerStep (h : Delivered s) (hs : s.callerStep E = some s') : Delivered s' := by
  unfold State.callerStep at hs
  split at hs <;> (try dsimp only at hs) <;> (try split_ifs at hs) <;> cases hs
  iterate 2 exact h.of_frame rfl rfl rfl id
  · obtain ⟨sk, hd, hsk⟩ := h
    exact ⟨sk, by simp [queued_snoc, hd], hsk⟩
  · exact h.of_frame (by simp [queued_snoc]) rfl rfl id
  iterate 2 exact h.of_frame rfl rfl rfl id
  · exact h.of_frame rfl rfl rfl fun h => by cases h
  · exact h.of_frame rfl rfl rfl id

/-- A worker takes the oldest closure and runs it, or discards it after the cancel. -/
theorem workerStep {i : Nat} {a : WorkerAction} (h : Delivered s)
    (hs : s.workerStep i a = some s') : Delivered s' := by
  obtain ⟨-, rfl⟩ | ⟨-, ⟨-, t, rest, hf, rfl⟩ | ⟨-, -, rfl⟩ | rfl⟩ := State.workerStep_cases hs
  · exact h.of_frame rfl rfl rfl id
  · obtain ⟨sk, hd, hsk⟩ := h
    rw [hf] at hd
    cases hc : s.cancelled
    · exact ⟨[], by simp [hc, hd, hsk hc], fun _ => rfl⟩
    · exact ⟨sk ++ [t], by simp [hc, hd], by simp [hc]⟩
  iterate 2 exact h.of_frame rfl rfl rfl id

theorem step {a : Action} (h : Delivered s) (hs : Runtime.step E s a = some s') :
    Delivered s' := by
  obtain ⟨-, ⟨-, rfl | rfl | rfl⟩ | hs | ⟨-, rfl | rfl | ⟨-, rfl⟩⟩ | hs | ⟨i, a, hs⟩⟩ :=
    step_cases hs
  iterate 3 exact h.of_frame rfl rfl rfl id
  · exact h.callerStep hs
  iterate 3 exact h.of_frame rfl rfl rfl id
  · obtain ⟨-, -, h3, -, h5, -, h7, h8⟩ := State.monitorStep_frame hs
    exact h.of_frame (congrArg queued h3) h7 h5 fun h => h8.symm.trans h
  · exact h.workerStep hs

end Delivered

theorem Reachable.delivered {E : Env} {s : State} (hs : Reachable E s) : Delivered s := by
  induction hs with
  | init => exact Delivered.init
  | step _ _ hst ih => exact ih.step hst

/-- No closure is lost or run twice, whatever the interleaving of the caller, the monitor and
the workers: the closures `queueLoadTest` queued are, in the order queued, those the workers
ran, then those the workers took and discarded after `ShutDown` cancelled the scheduler, then
those still on `fnChan`. Before the cancel none is discarded. -/
theorem queued_closures_run_once {E : Env} {s : State} (hs : Reachable E s) :
    ∃ skipped, queued s.sends = s.ran.map Prod.fst ++ skipped ++ s.fnChan ∧
      (s.cancelled = false → skipped = []) :=
  hs.delivered

set_option maxRecDepth 20000 in
theorem queued_closures_run_once_cancel :
    let E : Env := ⟨[1, 2], true, false, 10000, 10⟩
    ∃ s, Reachable E s ∧ s.ran = [(⟨0, 1⟩, 2)] ∧ s.fnChan = [] ∧ s.cancelled = true ∧
      ∃ skipped, queued s.sends = s.ran.map Prod.fst ++ skipped ++ s.fnChan ∧
        (s.cancelled = false → skipped = []) := by
  intro E
  obtain ⟨s, hs, hp⟩ := exists_of_run E [.call false, .caller, .caller, .caller, .caller, .tick,
    .monitor, .worker 0 .start, .worker 0 (.run 1), .shutDown, .caller, .worker 0 (.run 1)]
    (fun s => s.ran == [(⟨0, 1⟩, 2)] && s.fnChan == [] && s.cancelled) (by decide)
  simp only [Bool.and_eq_true, beq_iff_eq] at hp
  exact ⟨s, hs, hp.1.1, hp.1.2, hp.2, queued_closures_run_once hs⟩

/-- In strict mode, once the workers have emptied `fnChan` before any `ShutDown`, every call of
`queueLoadTest` whose loop has ended has had exactly one closure run for each iteration of its
loop, in order. A closure is named by the shadow its iteration visited, not the one it runs on. -/
theorem strict_drained_runs_each_shadow {E : Env} {s : State} (hs : Reachable E s)
    (hstrict : E.processAllLoadTestPackets = true) (hc : s.cancelled = false)
    (hf : s.fnChan = []) {k : Nat} (hk : k < s.calls) (hq : ∀ rest, s.caller ≠ .queue k rest) :
    ((s.ran.map Prod.fst).filter (·.call == k)).map (·.target) = E.loadTestClients := by
  obtain ⟨sk, hd, hsk⟩ := hs.delivered
  rw [hsk hc, hf, List.append_nil, List.append_nil] at hd
  rw [← hd, queued_filter_call (hs.queueInv.strict hstrict)]
  exact hs.queueInv.finished k hk hq

set_option maxRecDepth 20000 in
theorem strict_drained_runs_each_shadow_two :
    let E : Env := ⟨[1, 2], true, false, 10000, 10⟩
    ∃ s, Reachable E s ∧ E.processAllLoadTestPackets = true ∧ s.cancelled = false ∧
      s.fnChan = [] ∧ 0 < s.calls ∧ (∀ rest, s.caller ≠ .queue 0 rest) ∧
      ((s.ran.map Prod.fst).filter (·.call == 0)).map (·.target) = E.loadTestClients := by
  intro E
  obtain ⟨s, hs, hp⟩ := exists_of_run E [.call false, .caller, .caller, .caller, .caller, .tick,
    .monitor, .worker 0 .start, .worker 0 (.run 1), .worker 0 (.run 1)]
    (fun s => s.calls == 1 && s.caller == .idle && !s.cancelled && s.fnChan == []) (by decide)
  simp only [Bool.and_eq_true, beq_iff_eq, Bool.not_eq_true'] at hp
  obtain ⟨⟨⟨hn, hi⟩, hc⟩, hf⟩ := hp
  have hq : ∀ rest, s.caller ≠ .queue 0 rest := fun _ => by simp [hi]
  exact ⟨s, hs, rfl, hc, hf, by omega, hq,
    strict_drained_runs_each_shadow hs rfl hc hf (by omega) hq⟩

end Runtime

end GrabRedis
