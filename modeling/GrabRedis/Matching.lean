import Mathlib

/-!
# Matching new shadow configs to old shadows

The matching loop of `connectorImpl.reload` with the clients' effects left out: each new
config pops the last old shadow of its name, or gets a new client. `plan` lists the choices
and `fill` numbers the new clients.
-/

namespace GrabRedis

set_option autoImplicit false

/-- `client, loadTestMap[key] = clients[len(clients)-1], clients[:len(clients)-1]` when the
stack of `key` is not empty. -/
def pop (σ : String → List Nat) (key : String) : Option Nat × (String → List Nat) :=
  match (σ key).getLast? with
  | none => (none, σ)
  | some x => (some x, Function.update σ key (σ key).dropLast)

/-- The choices of the matching loop for new configs named `keys`: the old client each slot
pops, `none` for a new client, and the stacks left at the end. -/
def plan : List String → (String → List Nat) → List (Option Nat) × (String → List Nat)
  | [], σ => ([], σ)
  | k :: ks, σ => ((pop σ k).1 :: (plan ks (pop σ k).2).1, (plan ks (pop σ k).2).2)

/-- The slots' clients: the popped ones, and new ones numbered from `next` in creation order. -/
def fill : List (Option Nat) → Nat → List Nat
  | [], _ => []
  | some x :: os, next => x :: fill os next
  | none :: os, next => next :: fill os (next + 1)

def Labelled (nm : Nat → String) (σ : String → List Nat) : Prop :=
  ∀ n, ∀ x ∈ σ n, nm x = n

theorem pop_cases (σ : String → List Nat) (k : String) :
    (σ k = [] ∧ pop σ k = (none, σ)) ∨
      ∃ x s, σ k = s ++ [x] ∧ pop σ k = (some x, Function.update σ k s) := by
  unfold pop
  cases h : (σ k).getLast? with
  | none => exact .inl ⟨List.getLast?_eq_none_iff.mp h, rfl⟩
  | some x =>
    obtain ⟨s, hs⟩ := List.getLast?_eq_some_iff.mp h
    exact .inr ⟨x, s, hs, by rw [hs, List.dropLast_concat]⟩

/-! ## What the plan pops -/

section Plan

variable {nm : Nat → String}

theorem Labelled.update_of_append {σ : String → List Nat} (hl : Labelled nm σ) {k : String}
    {s : List Nat} {x : Nat} (hs : σ k = s ++ [x]) : Labelled nm (Function.update σ k s) := by
  intro n y hy
  by_cases hn : n = k
  · subst hn
    rw [Function.update_same] at hy
    exact hl n y (by rw [hs]; exact List.mem_append_left _ hy)
  · rw [Function.update_noteq hn] at hy
    exact hl n y hy

/-- The plan pops from the end: each stack is what is left of it followed by the clients popped
from it, last popped first. -/
theorem plan_stacks (ks : List String) {σ : String → List Nat} (hl : Labelled nm σ) (n : String) :
    σ n = (plan ks σ).2 n ++
      ((plan ks σ).1.reduceOption.filter (fun x => nm x = n)).reverse := by
  induction ks generalizing σ with
  | nil => simp [plan]
  | cons k ks ih =>
    rcases pop_cases σ k with ⟨-, hp⟩ | ⟨x, s, hs, hp⟩
    · simpa [plan, hp, List.reduceOption_cons_of_none] using ih hl
    · have hx : nm x = k := hl k x (by simp [hs])
      have := ih (hl.update_of_append hs)
      simp only [plan, hp, List.reduceOption_cons_of_some, List.filter_cons] at this ⊢
      by_cases hn : n = k
      · subst hn
        simp only [Function.update_same] at this
        rw [hs]; conv_lhs => rw [this]
        simp [hx]
      · simp only [Function.update_noteq hn] at this
        simp [this, hx, Ne.symm hn]

theorem plan_labelled (ks : List String) {σ : String → List Nat} (hl : Labelled nm σ) :
    Labelled nm (plan ks σ).2 :=
  fun n x hx => hl n x (by rw [plan_stacks ks hl n]; exact List.mem_append_left _ hx)

theorem mem_of_mem_plan (ks : List String) {σ : String → List Nat} (hl : Labelled nm σ)
    {x : Nat} (hx : x ∈ (plan ks σ).1.reduceOption) : x ∈ σ (nm x) := by
  rw [plan_stacks ks hl (nm x)]
  exact List.mem_append_right _ (List.mem_reverse.mpr (List.mem_filter.mpr ⟨hx, by simp⟩))

theorem plan_count (ks : List String) {σ : String → List Nat} (hl : Labelled nm σ) (n : String) :
    ((plan ks σ).1.reduceOption.filter (fun x => nm x = n)).length =
      min (σ n).length (ks.count n) := by
  induction ks generalizing σ with
  | nil => simp [plan]
  | cons k ks ih =>
    rcases pop_cases σ k with ⟨hk, hp⟩ | ⟨x, s, hs, hp⟩
    · simp only [plan, hp, List.reduceOption_cons_of_none, ih hl, List.count_cons]
      by_cases hn : n = k
      · subst hn; simp [hk]
      · simp [Ne.symm hn]
    · have hx : nm x = k := hl k x (by simp [hs])
      have ih' := ih (hl.update_of_append hs)
      simp only [plan, hp, List.reduceOption_cons_of_some, List.filter_cons, List.count_cons]
      by_cases hn : n = k
      · subst hn
        simp only [Function.update_same] at ih'
        simp [hx, hs, ih']; omega
      · rw [Function.update_noteq hn] at ih'
        simp [hx, Ne.symm hn, ih']

theorem nodup_of_filter_nodup {l : List Nat} (h : ∀ n, (l.filter (fun x => nm x = n)).Nodup) :
    l.Nodup :=
  List.nodup_iff_count_le_one.mpr fun x => by
    have := List.nodup_iff_count_le_one.mp (h (nm x)) x
    rwa [List.count_filter (by simp)] at this

theorem plan_nodup (ks : List String) {σ : String → List Nat} (hl : Labelled nm σ)
    (hσ : ∀ n, (σ n).Nodup) : (plan ks σ).1.reduceOption.Nodup :=
  nodup_of_filter_nodup fun n => by
    have := hσ n
    rw [plan_stacks ks hl n] at this
    exact List.nodup_reverse.mp (List.nodup_append.mp this).2.1

theorem not_mem_plan_of_mem_left (ks : List String) {σ : String → List Nat}
    (hl : Labelled nm σ) (hσ : ∀ n, (σ n).Nodup) {n : String} {x : Nat}
    (hx : x ∈ (plan ks σ).2 n) : x ∉ (plan ks σ).1.reduceOption := by
  intro hk
  have hd := hσ n
  rw [plan_stacks ks hl n] at hd
  refine (List.nodup_append.mp hd).2.2 hx (List.mem_reverse.mpr (List.mem_filter.mpr ⟨hk, ?_⟩))
  simpa using plan_labelled ks hl n x hx

end Plan

/-! ## Planning over the old shadows -/

/-- The stacks of `loadTestMap` once each client of `olds` is pushed under its name. -/
def stacksOf (nm : Nat → String) (olds : List Nat) (n : String) : List Nat :=
  olds.filter (fun x => nm x = n)

section Olds

variable {nm : Nat → String} {olds : List Nat} (ks : List String)

theorem mem_stacksOf {x : Nat} {n : String} : x ∈ stacksOf nm olds n ↔ x ∈ olds ∧ nm x = n := by
  simp [stacksOf]

theorem stacksOf_labelled : Labelled nm (stacksOf nm olds) :=
  fun _ _ hx => (mem_stacksOf.mp hx).2

theorem plan_kept_mem {x : Nat} (hx : x ∈ (plan ks (stacksOf nm olds)).1.reduceOption) :
    x ∈ olds :=
  (mem_stacksOf.mp (mem_of_mem_plan ks stacksOf_labelled hx)).1

theorem plan_left_mem {x : Nat} {n : String} (hx : x ∈ (plan ks (stacksOf nm olds)).2 n) :
    x ∈ olds ∧ nm x = n := by
  have := plan_stacks ks (stacksOf_labelled : Labelled nm (stacksOf nm olds)) n
  exact mem_stacksOf.mp (this ▸ List.mem_append_left _ hx)

variable (hd : olds.Nodup)
include hd

theorem plan_left_nodup (n : String) : ((plan ks (stacksOf nm olds)).2 n).Nodup := by
  have h := hd.filter (fun x => nm x = n)
  rw [show olds.filter (fun x => nm x = n) = stacksOf nm olds n from rfl,
    plan_stacks ks stacksOf_labelled n] at h
  exact (List.nodup_append.mp h).1

theorem mem_plan_left_iff {x : Nat} (hx : x ∈ olds) :
    x ∈ (plan ks (stacksOf nm olds)).2 (nm x) ↔
      x ∉ (plan ks (stacksOf nm olds)).1.reduceOption := by
  refine ⟨not_mem_plan_of_mem_left ks stacksOf_labelled fun n => hd.filter _, fun hk => ?_⟩
  have hmem : x ∈ stacksOf nm olds (nm x) := mem_stacksOf.mpr ⟨hx, rfl⟩
  rw [plan_stacks ks stacksOf_labelled (nm x)] at hmem
  rcases List.mem_append.mp hmem with h | h
  · exact h
  · exact absurd (List.mem_filter.mp (List.mem_reverse.mp h)).1 hk

theorem nodup_flatMap_plan_left {keys : List String} (hkd : keys.Nodup) :
    (keys.flatMap (plan ks (stacksOf nm olds)).2).Nodup :=
  List.nodup_flatMap.mpr ⟨fun n _ => plan_left_nodup ks hd n,
    hkd.imp fun {_ _} hab => by
      intro x hxa hxb
      exact hab ((plan_left_mem ks hxa).2.symm.trans (plan_left_mem ks hxb).2)⟩

variable {keys : List String} (hkeys : ∀ n, n ∈ keys ↔ ∃ x ∈ olds, nm x = n)
include hkeys

theorem mem_flatMap_plan_left {x : Nat} :
    x ∈ keys.flatMap (plan ks (stacksOf nm olds)).2 ↔
      x ∈ olds ∧ x ∉ (plan ks (stacksOf nm olds)).1.reduceOption := by
  simp only [List.mem_flatMap]
  constructor
  · rintro ⟨n, -, hn⟩
    obtain ⟨hx, rfl⟩ := plan_left_mem ks hn
    exact ⟨hx, (mem_plan_left_iff ks hd hx).mp hn⟩
  · rintro ⟨hx, hk⟩
    exact ⟨nm x, (hkeys _).mpr ⟨x, hx, rfl⟩, (mem_plan_left_iff ks hd hx).mpr hk⟩

end Olds

/-! ## Numbering the new clients -/

@[simp] theorem length_fill (os : List (Option Nat)) (next : Nat) :
    (fill os next).length = os.length := by
  induction os generalizing next with
  | nil => rfl
  | cons o os ih => cases o <;> simp [fill, ih]

theorem mem_fill {os : List (Option Nat)} {next x : Nat} (hx : x ∈ fill os next) :
    x ∈ os.reduceOption ∨ next ≤ x := by
  induction os generalizing next with
  | nil => simp [fill] at hx
  | cons o os ih =>
    cases o with
    | none =>
      simp only [fill, List.mem_cons] at hx
      rcases hx with rfl | hx
      · exact .inr le_rfl
      · rcases ih hx with h | h
        · exact .inl (by simpa [List.reduceOption_cons_of_none] using h)
        · exact .inr (by omega)
    | some y =>
      simp only [fill, List.mem_cons] at hx
      rcases hx with rfl | hx
      · simp [List.reduceOption_cons_of_some]
      · simpa [List.reduceOption_cons_of_some] using (ih hx).imp .inr id

theorem filter_fill {os : List (Option Nat)} {next : Nat} {p : Nat → Bool}
    (hp : ∀ x ∈ os.reduceOption, p x) (hn : ∀ x, next ≤ x → p x = false) :
    (fill os next).filter p = os.reduceOption := by
  induction os generalizing next with
  | nil => rfl
  | cons o os ih =>
    cases o with
    | none =>
      simp only [List.reduceOption_cons_of_none] at hp ⊢
      simp [fill, hn next le_rfl, @ih (next + 1) hp fun x hx => hn x (by omega)]
    | some y =>
      simp only [List.reduceOption_cons_of_some, List.mem_cons, forall_eq_or_imp] at hp ⊢
      simp [fill, hp.1, ih hp.2 hn]

theorem nodup_fill {os : List (Option Nat)} {next : Nat} (hd : os.reduceOption.Nodup)
    (hlt : ∀ x ∈ os.reduceOption, x < next) : (fill os next).Nodup := by
  induction os generalizing next with
  | nil => exact List.nodup_nil
  | cons o os ih =>
    cases o with
    | none =>
      simp only [List.reduceOption_cons_of_none] at hd hlt
      refine List.nodup_cons.mpr
        ⟨fun hm => ?_, @ih (next + 1) hd fun x hx => by have := hlt x hx; omega⟩
      rcases mem_fill hm with h | h
      · exact absurd (hlt next h) (lt_irrefl _)
      · omega
    | some y =>
      simp only [List.reduceOption_cons_of_some, List.nodup_cons, List.mem_cons,
        forall_eq_or_imp] at hd hlt
      refine List.nodup_cons.mpr ⟨fun hm => ?_, ih hd.2 hlt.2⟩
      rcases mem_fill hm with h | h
      · exact hd.1 h
      · omega

/-! ## The slots of a reload -/

section Slots

variable {nm : Nat → String} {olds : List Nat} (ks : List String) {lo : Nat}

theorem mem_olds_of_mem_fill {x : Nat} (hx : x ∈ fill (plan ks (stacksOf nm olds)).1 lo)
    (hlt : x < lo) : x ∈ olds :=
  plan_kept_mem ks ((mem_fill hx).resolve_right (by omega))

variable (hlo : ∀ x ∈ olds, x < lo)
include hlo

theorem filter_fill_plan :
    (fill (plan ks (stacksOf nm olds)).1 lo).filter (· ∈ olds) =
      (plan ks (stacksOf nm olds)).1.reduceOption :=
  filter_fill (fun x hx => by simpa using plan_kept_mem ks hx)
    fun x hx => by simpa using fun hm => absurd (hlo x hm) (by omega)

theorem mem_fill_plan_iff {x : Nat} (hx : x ∈ olds) :
    x ∈ fill (plan ks (stacksOf nm olds)).1 lo ↔
      x ∈ (plan ks (stacksOf nm olds)).1.reduceOption := by
  rw [← filter_fill_plan ks hlo]
  simp [hx]

theorem nodup_fill_plan (hd : olds.Nodup) : (fill (plan ks (stacksOf nm olds)).1 lo).Nodup :=
  nodup_fill (plan_nodup ks stacksOf_labelled fun _ => hd.filter _)
    fun x hx => hlo x (plan_kept_mem ks hx)

theorem mem_flatMap_plan_left_iff (hd : olds.Nodup) {keys : List String}
    (hkeys : ∀ n, n ∈ keys ↔ ∃ x ∈ olds, nm x = n) {x : Nat} :
    x ∈ keys.flatMap (plan ks (stacksOf nm olds)).2 ↔
      x ∈ olds ∧ x ∉ fill (plan ks (stacksOf nm olds)).1 lo := by
  rw [mem_flatMap_plan_left ks hd hkeys]
  exact and_congr_right fun hx => not_congr (mem_fill_plan_iff ks hlo hx).symm

end Slots

end GrabRedis
