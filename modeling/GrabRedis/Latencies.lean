import GrabRedis.Config

/-!
# Latency samples of the scheduler's workers

`latencies` keeps the last `len(values)` task durations, in nanoseconds, in a ring that the
workers add to and the monitor averages. `index`, `added` and the running total are `int64`s
and wrap as Go's do. The model is sequential: the three atomic steps of `Add` are one step
here. This module does NOT cover an `Average` that runs during an `Add`, nor the slot index
that turns negative after 2^63 `Add`s (Go panics there).
-/

namespace GrabRedis

set_option autoImplicit false

structure Latencies where
  values : List Int
  index : Int
  added : Int
  deriving DecidableEq

def newLatencies (l : Nat) : Latencies := ⟨List.replicate l 0, -1, 0⟩

def Latencies.add (l : Latencies) (value : Int) : Latencies :=
  let index := toInt64 (l.index + 1)
  { values := l.values.set (index.tmod l.values.length).toNat value
    index := index
    added := toInt64 (l.added + 1) }

/-- `Average` as the fraction `(total, length)`, the total summed in `int64`. The code returns
`float64(total) / float64(length)`, and `0.0`, here `(0, 0)`, when `length` is not positive. -/
def Latencies.average (l : Latencies) : Int × Nat :=
  let length : Int := if l.added < l.values.length then l.added else l.values.length
  if length ≤ 0 then (0, 0)
  else ((l.values.take length.toNat).foldl (fun total v => toInt64 (total + v)) 0, length.toNat)

/-! ## The ring holds the latest samples -/

theorem toInt64_of_mem {x : Int} (h1 : -2 ^ 63 ≤ x) (h2 : x < 2 ^ 63) : toInt64 x = x := by
  unfold toInt64; omega

theorem toInt64_add_toInt64 (a b : Int) : toInt64 (toInt64 a + b) = toInt64 (a + b) := by
  unfold toInt64; omega

/-- Go's wrapping sum of `int64`s is the exact sum, wrapped once. -/
theorem foldl_toInt64_add (l : List Int) (t : Int) :
    l.foldl (fun total v => toInt64 (total + v)) (toInt64 t) = toInt64 (t + l.sum) := by
  induction l generalizing t with
  | nil => simp
  | cons v l ih => simp only [List.foldl_cons, List.sum_cons, toInt64_add_toInt64, ih, add_assoc]

/-- The ring after the samples `vs`, oldest first. While it fills, slot `i` holds sample `i`;
once full, the window of the last `L` samples starts at the next slot to write and wraps. -/
structure Latencies.Holds (L : Nat) (vs : List Int) (l : Latencies) : Prop where
  length : l.values.length = L
  index : l.index = vs.length - 1
  added : l.added = vs.length
  filling : vs.length ≤ L → l.values = vs ++ List.replicate (L - vs.length) 0
  full : L ≤ vs.length →
    vs.drop (vs.length - L) = l.values.drop (vs.length % L) ++ l.values.take (vs.length % L)

theorem Latencies.holds_new (L : Nat) : (newLatencies L).Holds L [] :=
  ⟨by simp [newLatencies], rfl, rfl, fun _ => by simp [newLatencies],
    fun h => by simp_all [newLatencies]⟩

theorem succ_mod_of_lt {n L : Nat} (h : n % L + 1 < L) : (n + 1) % L = n % L + 1 := by
  conv_lhs => rw [← Nat.div_add_mod n L, add_assoc, Nat.mul_add_mod, Nat.mod_eq_of_lt h]

theorem succ_mod_of_eq {n L : Nat} (h : n % L + 1 = L) : (n + 1) % L = 0 := by
  conv_lhs => rw [← Nat.div_add_mod n L, add_assoc, h, ← Nat.mul_succ, Nat.mul_mod_right]

theorem rotate_write (B A : List Int) (v : Int) :
    (B ++ v :: A).drop (B.length + 1) ++ (B ++ v :: A).take (B.length + 1) = A ++ (B ++ [v]) := by
  rw [List.drop_append_eq_append_drop, List.take_append_eq_append_take,
    List.drop_eq_nil_of_le (by omega), List.take_of_length_le (by omega)]
  simp

theorem Latencies.Holds.add_index {L : Nat} {vs : List Int} {l : Latencies} (h : l.Holds L vs)
    (hn : vs.length + 1 < 2 ^ 63) : toInt64 (l.index + 1) = vs.length := by
  rw [h.index, sub_add_cancel]; exact toInt64_of_mem (by omega) (by omega)

theorem Latencies.Holds.add_values {L : Nat} {vs : List Int} {l : Latencies} (h : l.Holds L vs)
    (hn : vs.length + 1 < 2 ^ 63) (v : Int) :
    (l.add v).values = l.values.set (vs.length % L) v := by
  simp only [Latencies.add, h.add_index hn, h.length, ← Int.ofNat_tmod, Int.toNat_ofNat]

theorem Latencies.Holds.split {L : Nat} {vs : List Int} {l : Latencies} (h : l.Holds L vs)
    (hL : 0 < L) (hf : L ≤ vs.length + 1) : ∃ B a A, B.length = vs.length % L ∧ l.values = B ++ a :: A ∧
      vs.drop (vs.length + 1 - L) = A ++ B := by
  rcases Nat.lt_or_ge vs.length L with hlt | hge
  · refine ⟨vs, 0, [], (Nat.mod_eq_of_lt hlt).symm, ?_, ?_⟩
    · rw [h.filling hlt.le, show L - vs.length = 1 by omega]; rfl
    · simp [show vs.length + 1 - L = 0 by omega]
  · have hr : vs.length % L < L := Nat.mod_lt _ hL
    obtain ⟨a, A, hA⟩ : ∃ a A, l.values.drop (vs.length % L) = a :: A := by
      cases hd : l.values.drop (vs.length % L) with
      | nil => rw [List.drop_eq_nil_iff, h.length] at hd; omega
      | cons a A => exact ⟨a, A, rfl⟩
    refine ⟨l.values.take (vs.length % L), a, A, by rw [List.length_take, h.length]; omega,
      by rw [← hA, List.take_append_drop], ?_⟩
    rw [show vs.length + 1 - L = vs.length - L + 1 by omega, ← List.drop_drop, h.full hge, hA]
    simp

theorem Latencies.Holds.add {L : Nat} {vs : List Int} {l : Latencies} (h : l.Holds L vs)
    (hL : 0 < L) (hn : vs.length + 1 < 2 ^ 63) (v : Int) : (l.add v).Holds L (vs ++ [v]) := by
  have hv := h.add_values hn v
  have hlen : (vs ++ [v]).length = vs.length + 1 := by simp
  refine ⟨by rw [hv, List.length_set, h.length], ?_, ?_, fun hf => ?_, fun hf => ?_⟩
  · simp only [Latencies.add, h.add_index hn, hlen]; push_cast; ring
  · simp only [Latencies.add, h.added, hlen]
    push_cast; exact toInt64_of_mem (by omega) (by omega)
  · -- still filling: the next free slot takes the sample
    rw [hlen] at hf ⊢
    rw [hv, h.filling (by omega), Nat.mod_eq_of_lt (by omega),
      show L - vs.length = (L - (vs.length + 1)) + 1 by omega, List.replicate_succ,
      List.set_append_right _ _ le_rfl, Nat.sub_self, List.set_cons_zero, List.append_assoc,
      List.singleton_append]
  · -- the window moves on by one slot, past the sample just written
    rw [hlen] at hf ⊢
    obtain ⟨B, a, A, hB, hval, hwin⟩ := h.split hL hf
    have hlenA : B.length + 1 + A.length = L := by
      rw [← h.length, hval]; simp; omega
    have hset : (l.add v).values = B ++ v :: A := by
      rw [hv, hval, ← hB, List.set_append_right _ _ le_rfl, Nat.sub_self, List.set_cons_zero]
    have hdrop : (vs ++ [v]).drop (vs.length + 1 - L) = A ++ (B ++ [v]) := by
      rw [List.drop_append_of_le_length (by omega), hwin]; simp
    rw [hdrop, hset]
    rcases Nat.lt_or_ge (vs.length % L + 1) L with hs | hs
    · rw [succ_mod_of_lt hs, ← hB, rotate_write]
    · have hA0 : A = [] := List.eq_nil_of_length_eq_zero (by omega)
      rw [succ_mod_of_eq (by omega), hA0]; simp

theorem Latencies.holds_foldl {L : Nat} (hL : 0 < L) (vs : List Int) (hn : vs.length < 2 ^ 63) :
    (vs.foldl Latencies.add (newLatencies L)).Holds L vs := by
  induction vs using List.reverseRecOn with
  | nil => exact Latencies.holds_new L
  | append_singleton vs v ih =>
    have hn' : vs.length + 1 < 2 ^ 63 := by simpa using hn
    rw [List.foldl_append, List.foldl_cons, List.foldl_nil]
    exact (ih (by omega)).add hL hn' v

/-- The first `min n L` slots hold the latest `min n L` samples, each once; the others were
never written. -/
theorem Latencies.Holds.latest {L : Nat} {vs : List Int} {l : Latencies} (h : l.Holds L vs) :
    (l.values.take (min vs.length L)).Perm (vs.drop (vs.length - min vs.length L)) ∧
      l.values.drop (min vs.length L) = List.replicate (L - min vs.length L) 0 := by
  rcases Nat.le_total vs.length L with hle | hge
  · rw [min_eq_left hle, Nat.sub_self, List.drop_zero, h.filling hle]
    simp
  · rw [min_eq_right hge, Nat.sub_self, List.replicate_zero, h.full hge,
      List.take_of_length_le h.length.le]
    refine ⟨?_, List.drop_of_length_le h.length.le⟩
    conv_lhs => rw [← List.take_append_drop (vs.length % L) l.values]
    exact List.perm_append_comm

theorem Latencies.Holds.average_eq {L : Nat} {vs : List Int} {l : Latencies} (h : l.Holds L vs)
    (hL : 0 < L) :
    l.average = if vs = [] then (0, 0)
      else (toInt64 (l.values.take (min vs.length L)).sum, min vs.length L) := by
  have hlen : ((if l.added < l.values.length then l.added else l.values.length : Int)) =
      (min vs.length L : Nat) := by
    rw [h.added, h.length]; split <;> omega
  simp only [Latencies.average, hlen, Int.toNat_ofNat]
  by_cases hv : vs = []
  · simp [hv]
  · have hpos : 0 < min vs.length L := by
      have := List.length_pos.mpr hv; omega
    rw [if_neg (by omega), if_neg hv, show (0 : Int) = toInt64 0 from rfl, foldl_toInt64_add,
      zero_add]

/-- `Average` after `n` sequential `Add`s into `newLatencies(L)`: `0` with no sample,
otherwise the latest `m = min(n, L)` samples' exact sum over `m` when that sum fits in an
`int64`; those samples fill slots `0 .. m-1`, each once, and the other slots were never
written. -/
theorem average_is_mean_of_latest_samples (L : Nat) (hL : 1 ≤ L) (vs : List Int)
    (hn : vs.length < 2 ^ 63) :
    let l := vs.foldl Latencies.add (newLatencies L)
    let m := min vs.length L
    let T := (vs.drop (vs.length - m)).sum
    (vs = [] → l.average = (0, 0)) ∧
      (vs ≠ [] → -2 ^ 63 ≤ T → T < 2 ^ 63 → l.average = (T, m)) ∧
      (l.values.take m).Perm (vs.drop (vs.length - m)) ∧
      l.values.drop m = List.replicate (L - m) 0 := by
  intro l m T
  have h := Latencies.holds_foldl hL vs hn
  have hp := h.latest
  refine ⟨fun hv => by rw [h.average_eq hL, if_pos hv], fun hv h1 h2 => ?_, hp.1, hp.2⟩
  rw [h.average_eq hL, if_neg hv, hp.1.sum_eq, toInt64_of_mem h1 h2]

theorem average_is_mean_of_latest_samples_wrapped :
    1 ≤ 2 ∧ [5, 7, 9].length < 2 ^ 63 ∧
      ((newLatencies 2).add 5 |>.add 7 |>.add 9).average = (16, 2) := by
  refine ⟨by decide, by decide, ?_⟩
  exact (average_is_mean_of_latest_samples 2 (by decide) [5, 7, 9] (by decide)).2.1 (by decide)
    (by decide) (by decide)

end GrabRedis
