import GrabRedis.Runtime

/-!
# `Add` and `Average` interleaved on the latency ring

`latencies` takes no lock: each call is a sequence of atomic operations on the ring's
`int64`s, and a run applies one operation of one goroutine at a time, in any order. Calls that
do not overlap give the ring and the average of `Latencies`.
-/
namespace GrabRedis

set_option autoImplicit false

/-- Where a goroutine in `Add` stands: outside the call, after the `index` increment with the
slot it claimed and its sample, or after the store. -/
inductive AddPc
  | idle
  | claimed (slot : Nat) (value : Int)
  | stored
  deriving DecidableEq

/-- Where a goroutine in `Average` stands: not yet called, in the loop over `length` slots with
the first `i` summed into `total`, or returned with the fraction `(total, length)`. -/
inductive AveragePc
  | idle
  | summing (length i : Nat) (total : Int)
  | done (result : Int × Nat)
  deriving DecidableEq

/-- One atomic operation of `Add(value)` from the point `pc`: the point after it, and the ring
after it. Only the call's first operation reads `value`. -/
def Latencies.addOp (l : Latencies) (value : Int) : AddPc → AddPc × Latencies
  | .idle =>
    let index := toInt64 (l.index + 1)
    (.claimed (index.tmod l.values.length).toNat value, { l with index := index })
  | .claimed slot v => (.stored, { l with values := l.values.set slot v })
  | .stored => (.idle, { l with added := toInt64 (l.added + 1) })

/-- One atomic load of `Average` from the point `pc`, with the loop's test after it; a call
that has returned takes no more steps. -/
def Latencies.averageOp (l : Latencies) : AveragePc → Option AveragePc
  | .idle =>
    let length : Int := if l.added < l.values.length then l.added else l.values.length
    some (if length ≤ 0 then .done (0, 0) else .summing length.toNat 0 0)
  | .summing length i total =>
    let total := toInt64 (total + l.values.getD i 0)
    some (if i + 1 < length then .summing length (i + 1) total else .done (total, length))
  | .done _ => none

/-- The ring and the goroutines in `Add` and in `Average`, each at its own point. -/
structure RingState where
  mem : Latencies
  adders : List AddPc
  readers : List AveragePc
  deriving DecidableEq

/-- `newLatencies(L)`, `nAdd` goroutines that call `Add` and `nAvg` calls of `Average`, none
started. -/
def RingState.init (L nAdd nAvg : Nat) : RingState :=
  ⟨newLatencies L, List.replicate nAdd .idle, List.replicate nAvg .idle⟩

/-- The next atomic operation of goroutine `t`: of its call `Add(value)`, or of its call to
`Average`. -/
inductive RingAct
  | add (t : Nat) (value : Int)
  | average (t : Nat)
  deriving DecidableEq

def RingState.step (r : RingState) : RingAct → Option RingState
  | .add t value => r.adders[t]?.map fun pc =>
    { r with mem := (r.mem.addOp value pc).2, adders := r.adders.set t (r.mem.addOp value pc).1 }
  | .average t => r.readers[t]?.bind fun pc => (r.mem.averageOp pc).map fun pc' =>
    { r with readers := r.readers.set t pc' }

/-- A run: the operations in order, `none` from the first one that is not enabled. -/
def RingState.run (r : RingState) : List RingAct → Option RingState
  | [] => some r
  | a :: acts => (r.step a).bind fun r' => r'.run acts

theorem RingState.run_append (r : RingState) (acts acts' : List RingAct) :
    r.run (acts ++ acts') = (r.run acts).bind fun r' => r'.run acts' := by
  induction acts generalizing r with
  | nil => rfl
  | cons a acts ih => cases r.step a <;> simp [RingState.run, ih, Option.bind_assoc]

/-- What one operation can do: one step of one `Add`, or one load of one `Average`, which
leaves the ring as it is. -/
theorem RingState.step_cases {r r' : RingState} {a : RingAct} (h : r.step a = some r') :
    (∃ t v pc, a = .add t v ∧ r.adders[t]? = some pc ∧
      r' = { r with mem := (r.mem.addOp v pc).2, adders := r.adders.set t (r.mem.addOp v pc).1 }) ∨
    (∃ t pc pc', a = .average t ∧ r.readers[t]? = some pc ∧ r.mem.averageOp pc = some pc' ∧
      r' = { r with readers := r.readers.set t pc' }) := by
  cases a with
  | add t v =>
    simp only [RingState.step, Option.map_eq_some'] at h
    obtain ⟨pc, hpc, rfl⟩ := h
    exact .inl ⟨t, v, pc, rfl, hpc, rfl⟩
  | average t =>
    simp only [RingState.step, Option.bind_eq_some, Option.map_eq_some'] at h
    obtain ⟨pc, hpc, pc', hpc', rfl⟩ := h
    exact .inr ⟨t, pc, pc', rfl, hpc, hpc', rfl⟩

/-- What every step with an operation allowed by `Q` keeps holds after every run of such
operations. -/
theorem RingState.run_invariant {P : RingState → Prop} {Q : RingAct → Prop}
    (hstep : ∀ {r r' : RingState} {a : RingAct}, P r → Q a → r.step a = some r' → P r') :
    ∀ {acts : List RingAct} {r r' : RingState}, P r → (∀ a ∈ acts, Q a) → r.run acts = some r' → P r'
  | [], _, _, hr, _, h => by cases h; exact hr
  | a :: _, _, _, hr, hq, h => by
    obtain ⟨r₁, h₁, h₂⟩ := Option.bind_eq_some.mp h
    exact RingState.run_invariant hstep (hstep hr (hq a (List.mem_cons_self _ _)) h₁)
      (fun b hb => hq b (List.mem_cons_of_mem _ hb)) h₂

/-! ## The two counters -/

def RingState.inflight (r : RingState) : Nat := r.adders.countP (· != .idle)

/-- `index + 1` counts the claims and `added` the finished `Add`s, as `int64`s. -/
structure RingState.Counted (r : RingState) : Prop where
  index : toInt64 (r.mem.index + 1) = toInt64 (r.mem.added + r.inflight)
  added : toInt64 r.mem.added = r.mem.added

theorem RingState.counted_init (L nAdd nAvg : Nat) : (RingState.init L nAdd nAvg).Counted :=
  ⟨by simp [RingState.init, RingState.inflight, newLatencies, List.countP_replicate], rfl⟩

theorem toInt64_congr_add {a b : Int} (h : toInt64 a = toInt64 b) (c : Int) :
    toInt64 (a + c) = toInt64 (b + c) := by
  rw [← toInt64_add_toInt64 a, h, toInt64_add_toInt64]

theorem RingState.Counted.step {r r' : RingState} {a : RingAct} (h : r.Counted)
    (hs : r.step a = some r') : r'.Counted := by
  obtain ⟨t, v, pc, -, ht, rfl⟩ | ⟨t, pc, pc', -, -, -, rfl⟩ := RingState.step_cases hs
  · have hc := Runtime.countP_set_add (r.mem.addOp v pc).1 (· != AddPc.idle) ht
    obtain ⟨hi, ha⟩ := h
    simp only [RingState.inflight] at hi
    cases pc with
    | idle =>
      simp [Latencies.addOp] at hc
      refine ⟨?_, ha⟩
      simp only [RingState.inflight, Latencies.addOp, hc, toInt64_add_toInt64, Nat.cast_succ,
        ← add_assoc]
      exact toInt64_congr_add hi 1
    | claimed =>
      simp [Latencies.addOp] at hc
      exact ⟨by simpa only [RingState.inflight, Latencies.addOp, hc] using hi, ha⟩
    | stored =>
      simp [Latencies.addOp] at hc
      refine ⟨?_, by simpa only [add_zero] using toInt64_add_toInt64 (r.mem.added + 1) 0⟩
      simp only [RingState.inflight, Latencies.addOp, toInt64_add_toInt64, hi, ← hc, Nat.cast_succ]
      ring_nf
  · exact ⟨h.index, h.added⟩

/-- Whatever the interleaving, `index + 1` leads `added` by the `Add`s between their two
increments, as `int64`s; with no `Add` in flight the two agree, as in `Latencies`. -/
theorem index_leads_added_by_inflight {L nAdd nAvg : Nat} {acts : List RingAct} {r : RingState}
    (hr : (RingState.init L nAdd nAvg).run acts = some r) :
    toInt64 (r.mem.index + 1) = toInt64 (r.mem.added + r.inflight) ∧
      (r.inflight = 0 → toInt64 (r.mem.index + 1) = r.mem.added) := by
  have h : r.Counted := @RingState.run_invariant RingState.Counted (fun _ => True)
    (fun h _ hs => h.step hs) acts _ r (RingState.counted_init L nAdd nAvg) (fun _ _ => trivial) hr
  refine ⟨h.index, fun h0 => ?_⟩
  rw [h.index, h0, Nat.cast_zero, add_zero, h.added]

theorem index_leads_added_by_inflight_claimed :
    let r : RingState := ⟨⟨[0, 0], 0, 0⟩, [.claimed 0 7, .idle], [.idle]⟩
    (RingState.init 2 2 1).run [.add 0 7] = some r ∧
      toInt64 (r.mem.index + 1) = toInt64 (r.mem.added + r.inflight) ∧
      (r.inflight = 0 → toInt64 (r.mem.index + 1) = r.mem.added) := by
  intro r
  have hr : (RingState.init 2 2 1).run [.add 0 7] = some r := by decide
  exact ⟨hr, index_leads_added_by_inflight hr⟩

/-! ## Samples in `[0, M]` -/

def RingAct.sampleIn (M : Int) : RingAct → Bool
  | .add _ v => 0 ≤ v && v ≤ M
  | .average _ => true

def AddPc.Within (M : Int) : AddPc → Prop
  | .idle => True
  | .claimed _ v => 0 ≤ v ∧ v ≤ M
  | .stored => True

/-- An `Average` over at most `L` slots whose total lies in `[0, i · M]` after `i` of them. -/
def AveragePc.Within (L : Nat) (M : Int) : AveragePc → Prop
  | .idle => True
  | .summing length i total => i < length ∧ length ≤ L ∧ 0 ≤ total ∧ total ≤ i * M
  | .done (total, length) => length ≤ L ∧ 0 ≤ total ∧ total ≤ length * M

structure Latencies.Within (L : Nat) (M : Int) (l : Latencies) : Prop where
  length : l.values.length = L
  values : ∀ x ∈ l.values, 0 ≤ x ∧ x ≤ M

structure RingState.Within (L : Nat) (M : Int) (r : RingState) : Prop where
  mem : r.mem.Within L M
  adders : ∀ pc ∈ r.adders, pc.Within M
  readers : ∀ pc ∈ r.readers, pc.Within L M

theorem forall_mem_set {α : Type} {P : α → Prop} {l : List α} (hl : ∀ x ∈ l, P x) {y : α}
    (hy : P y) (i : Nat) : ∀ x ∈ l.set i y, P x :=
  fun x hx => (List.mem_or_eq_of_mem_set hx).elim (hl x) fun h => h ▸ hy

section within

variable {L : Nat} {M : Int}

theorem Latencies.Within.getD {l : Latencies} (h : l.Within L M) (hM : 0 ≤ M) (i : Nat) :
    0 ≤ l.values.getD i 0 ∧ l.values.getD i 0 ≤ M := by
  rw [List.getD_eq_getElem?_getD]
  cases hi : l.values[i]? with
  | none => exact ⟨le_rfl, hM⟩
  | some x => exact h.values x (List.getElem?_mem hi)

theorem Latencies.Within.addOp {v : Int} {l : Latencies} {pc : AddPc} (h : l.Within L M)
    (hpc : pc.Within M) (hv : 0 ≤ v ∧ v ≤ M) :
    (l.addOp v pc).2.Within L M ∧ (l.addOp v pc).1.Within M := by
  cases pc with
  | idle => exact ⟨⟨h.length, h.values⟩, hv⟩
  | claimed slot x =>
    exact ⟨⟨by simp [Latencies.addOp, h.length], forall_mem_set h.values hpc slot⟩, trivial⟩
  | stored => exact ⟨⟨h.length, h.values⟩, trivial⟩

theorem sum_step_within {i : Nat} {total x : Int} (hM : 0 ≤ M) (hLM : L * M < 2 ^ 63)
    (hi : i < L) (ht : 0 ≤ total ∧ total ≤ i * M) (hx : 0 ≤ x ∧ x ≤ M) :
    0 ≤ toInt64 (total + x) ∧ toInt64 (total + x) ≤ (i + 1 : Nat) * M := by
  have hle : ((i + 1 : Nat) : Int) * M ≤ L * M := mul_le_mul_of_nonneg_right (by omega) hM
  push_cast at hle ⊢
  rw [toInt64_of_mem (by omega) (by linarith)]
  constructor <;> linarith

theorem Latencies.Within.averageOp (hM : 0 ≤ M) (hLM : L * M < 2 ^ 63) {l : Latencies}
    (h : l.Within L M) {pc pc' : AveragePc} (hpc : pc.Within L M)
    (hs : l.averageOp pc = some pc') : pc'.Within L M := by
  cases pc with
  | idle =>
    simp only [Latencies.averageOp, Option.some.injEq, h.length] at hs
    subst hs
    split_ifs <;> simp only [AveragePc.Within] <;> omega
  | summing length i total =>
    obtain ⟨hi, hl, ht⟩ := hpc
    have hsum := sum_step_within hM hLM (by omega) ht (h.getD hM i)
    simp only [Latencies.averageOp, Option.some.injEq] at hs
    subst hs
    split_ifs with hlt
    · exact ⟨hlt, hl, hsum⟩
    · exact ⟨hl, by rwa [show length = i + 1 by omega]⟩
  | done => cases hs

theorem RingState.Within.step (hM : 0 ≤ M) (hLM : L * M < 2 ^ 63) {r r' : RingState} {a : RingAct}
    (h : r.Within L M) (ha : a.sampleIn M) (hs : r.step a = some r') : r'.Within L M := by
  obtain ⟨t, v, pc, rfl, ht, rfl⟩ | ⟨t, pc, pc', rfl, ht, hpc', rfl⟩ := RingState.step_cases hs
  · have hv : 0 ≤ v ∧ v ≤ M := by simpa [RingAct.sampleIn] using ha
    obtain ⟨hmem, hpc⟩ := h.mem.addOp (h.adders pc (List.getElem?_mem ht)) hv
    exact ⟨hmem, forall_mem_set h.adders hpc t, h.readers⟩
  · exact ⟨h.mem, h.adders, forall_mem_set h.readers
      (h.mem.averageOp hM hLM (h.readers pc (List.getElem?_mem ht)) hpc') t⟩

theorem RingState.within_init (hM : 0 ≤ M) (nAdd nAvg : Nat) : (RingState.init L nAdd nAvg).Within L M :=
  ⟨⟨by simp [RingState.init, newLatencies], by simp [RingState.init, newLatencies, hM]⟩,
    by simp [RingState.init, AddPc.Within], by simp [RingState.init, AveragePc.Within]⟩

end within

/-- Whatever the interleaving, an `Average` of samples in `[0, M]` over a ring of `L` slots,
with `L · M` below `2^63`, returns a total in `[0, length · M]` over `length ≤ L` slots: an
average in `[0, M]`. -/
theorem average_within_samples {L nAdd nAvg : Nat} {M : Int} (hM : 0 ≤ M)
    (hLM : L * M < 2 ^ 63) {acts : List RingAct} (hacts : ∀ a ∈ acts, a.sampleIn M) {r : RingState}
    (hr : (RingState.init L nAdd nAvg).run acts = some r) {total : Int} {length : Nat}
    (hd : AveragePc.done (total, length) ∈ r.readers) :
    length ≤ L ∧ 0 ≤ total ∧ total ≤ length * M :=
  (@RingState.run_invariant (RingState.Within L M) (fun a => a.sampleIn M = true)
    (fun h ha hs => h.step hM hLM ha hs) acts _ r (RingState.within_init hM nAdd nAvg) hacts hr).readers
    _ hd

theorem average_within_samples_interleaved :
    let acts : List RingAct := [.add 0 7, .add 1 9, .add 1 9, .add 1 9, .average 0, .average 0]
    let r : RingState := ⟨⟨[0, 9], 1, 1⟩, [.claimed 0 7, .idle], [.done (0, 1)]⟩
    (∀ a ∈ acts, a.sampleIn 10) ∧ (RingState.init 2 2 1).run acts = some r ∧
      (1 ≤ 2 ∧ 0 ≤ (0 : Int) ∧ (0 : Int) ≤ ((1 : Nat) : Int) * 10) := by
  intro acts r
  have hacts : ∀ a ∈ acts, a.sampleIn 10 := by decide
  have hr : (RingState.init 2 2 1).run acts = some r := by decide
  exact ⟨hacts, hr, average_within_samples (by decide) (by decide) hacts hr (by decide)⟩

/-! ## Calls that do not overlap -/

/-- The three operations of `Add(value)` by goroutine `t`, with no other operation between. -/
def serialAdd (t : Nat) (value : Int) : List RingAct := List.replicate 3 (.add t value)

/-- Whole `Add`s one after another, each by the goroutine and with the sample `tvs` lists. -/
def serialAdds (tvs : List (Nat × Int)) : List RingAct := tvs.flatMap fun p => serialAdd p.1 p.2

theorem set_eq_self_of_getElem? {α : Type} {l : List α} {i : Nat} {a : α} (h : l[i]? = some a) :
    l.set i a = l := by
  apply List.ext_getElem?
  intro j
  rw [List.getElem?_set]
  split
  · subst_vars; simp [(List.getElem?_eq_some_iff.mp h).1, h]
  · rfl

theorem RingState.run_serialAdd {r : RingState} {t : Nat} (ht : r.adders[t]? = some .idle) (v : Int) :
    r.run (serialAdd t v) = some { r with mem := r.mem.add v } := by
  have hlt : t < r.adders.length := (List.getElem?_eq_some_iff.mp ht).1
  simp [serialAdd, RingState.run, RingState.step, ht, hlt, Latencies.addOp, Latencies.add, List.set_set,
    set_eq_self_of_getElem? ht]

theorem RingState.run_serialAdds {tvs : List (Nat × Int)} :
    ∀ {r : RingState}, (∀ p ∈ tvs, r.adders[p.1]? = some .idle) →
      r.run (serialAdds tvs) = some { r with mem := (tvs.map Prod.snd).foldl Latencies.add r.mem } := by
  induction tvs with
  | nil => intro r _; rfl
  | cons p tvs ih =>
    intro r ht
    rw [serialAdds, List.flatMap_cons, RingState.run_append,
      RingState.run_serialAdd (ht p (List.mem_cons_self _ _)), Option.some_bind]
    exact ih fun q hq => ht q (List.mem_cons_of_mem _ hq)

theorem take_drop_eq_getD_cons {l : List Int} {n i : Nat} (hi : i < n) (hn : n ≤ l.length) :
    (l.take n).drop i = l.getD i 0 :: (l.take n).drop (i + 1) := by
  rw [List.drop_eq_getElem_cons (by simp; omega)]
  simp [List.getElem?_eq_getElem (show i < l.length by omega)]

theorem RingState.run_averageLoop {t length : Nat} :
    ∀ {k i : Nat} {total : Int} {r : RingState}, i + k = length → i < length →
      length ≤ r.mem.values.length → r.readers[t]? = some (.summing length i total) →
      r.run (List.replicate k (.average t)) = some { r with
        readers := r.readers.set t (.done (((r.mem.values.take length).drop i).foldl
          (fun total v => toInt64 (total + v)) total, length)) }
  | 0, _, _, _, hk, hi, _, _ => absurd hk (by omega)
  | k + 1, i, total, r, hk, hi, hn, ht => by
    have hlt : t < r.readers.length := (List.getElem?_eq_some_iff.mp ht).1
    rw [List.replicate_succ, RingState.run, take_drop_eq_getD_cons hi hn, List.foldl_cons]
    simp only [RingState.step, ht, Option.some_bind, Latencies.averageOp, Option.map_some']
    split_ifs with hnext
    · rw [@RingState.run_averageLoop t length k (i + 1) _
        { r with readers := r.readers.set t (.summing length (i + 1) _) } (by omega) hnext hn
        (List.getElem?_set_self hlt)]
      simp [List.set_set]
    · obtain rfl : k = 0 := by omega
      rw [List.drop_eq_nil_of_le (by simp; omega)]
      rfl

/-- One whole `Average` by goroutine `t`, with no other operation between its loads, returns
`Latencies.average`. -/
theorem RingState.run_average {r : RingState} {t : Nat} (ht : r.readers[t]? = some .idle) :
    r.run (List.replicate (r.mem.average.2 + 1) (.average t)) =
      some { r with readers := r.readers.set t (.done r.mem.average) } := by
  have hlt : t < r.readers.length := (List.getElem?_eq_some_iff.mp ht).1
  have hle : (if r.mem.added < r.mem.values.length then r.mem.added
      else (r.mem.values.length : Int)) ≤ r.mem.values.length := by split <;> omega
  unfold Latencies.average
  simp only [List.replicate_succ, RingState.run, RingState.step, ht, Option.some_bind, Latencies.averageOp,
    Option.map_some']
  generalize (if r.mem.added < r.mem.values.length then r.mem.added
    else (r.mem.values.length : Int)) = length at hle ⊢
  by_cases h0 : length ≤ 0
  · simp [h0, RingState.run, List.set_set]
  · simp only [h0, if_false]
    rw [RingState.run_averageLoop (by omega) (by omega) (by dsimp only; omega)
      (List.getElem?_set_self hlt)]
    simp [List.set_set]

/-- Calls that do not overlap behave as `Latencies`: whole `Add`s one after another leave the
ring `Latencies.add` leaves, and a whole `Average` after them returns `Latencies.average`. -/
theorem serial_calls_refine_latencies {L nAdd nAvg : Nat} {tvs : List (Nat × Int)}
    (hadd : ∀ p ∈ tvs, p.1 < nAdd) {t : Nat} (havg : t < nAvg) :
    let l := (tvs.map Prod.snd).foldl Latencies.add (newLatencies L)
    (RingState.init L nAdd nAvg).run (serialAdds tvs ++ List.replicate (l.average.2 + 1) (.average t)) =
      some ⟨l, List.replicate nAdd .idle, (List.replicate nAvg .idle).set t (.done l.average)⟩ := by
  intro l
  rw [RingState.run_append, RingState.run_serialAdds fun p hp => by simp [RingState.init, hadd p hp],
    Option.some_bind]
  exact RingState.run_average (by simp [RingState.init, havg])

theorem serial_calls_refine_latencies_three :
    let tvs : List (Nat × Int) := [(0, 5), (1, 7), (0, 9)]
    let l := (tvs.map Prod.snd).foldl Latencies.add (newLatencies 2)
    (∀ p ∈ tvs, p.1 < 2) ∧ 0 < 1 ∧
      (RingState.init 2 2 1).run (serialAdds tvs ++ List.replicate (l.average.2 + 1) (.average 0)) =
        some ⟨l, List.replicate 2 .idle, (List.replicate 1 .idle).set 0 (.done l.average)⟩ ∧
      l.average = (16, 2) :=
  ⟨by decide, by decide, serial_calls_refine_latencies (by decide) (by decide), by decide⟩

end GrabRedis
