import GrabRedis.Typing

/-!
# A Go string reply scans as the `[]byte` of its bytes, in `ScanSlice` and as a struct value

go-redis hands bulk replies over as Go strings, while the scanner was written for `[]byte`.
`ScanSlice`, and `ScanStruct` on its values, store the same value and fail alike when replies
are swapped for the same bytes as the other kind of string. Error texts are not compared.
-/

namespace GrabRedis

set_option autoImplicit false

/-- `r'` is the reply `r`, or the same bytes as the other kind of string. -/
inductive SameBytes : Reply → Reply → Prop where
  | refl (r : Reply) : SameBytes r r
  | toStr (b : GoString) : SameBytes (.bytes b) (.str b)
  | toBytes (b : GoString) : SameBytes (.str b) (.bytes b)

theorem SameBytes.ne_nil {r r' : Reply} (h : SameBytes r r') (hr : r ≠ .nil) : r' ≠ .nil := by
  cases h <;> first | exact hr | exact nofun

/-- Two results that store the same value and fail alike, whatever their errors say. -/
def SameOutcome {α : Type} (r r' : Except Panic (α × Option ScanError)) : Prop :=
  r.map (fun p => (p.1, p.2.isSome)) = r'.map (fun p => (p.1, p.2.isSome))

namespace SameOutcome

variable {α β : Type} {A A' : Except Panic (α × Option ScanError)}

theorem bind (h : SameOutcome A A')
    {f g : α × Option ScanError → Except Panic (β × Option ScanError)}
    (hfg : ∀ x e e', e.isSome = e'.isSome → SameOutcome (f (x, e)) (g (x, e'))) :
    SameOutcome (A >>= f) (A' >>= g) := by
  cases A with
  | error p => cases A' <;> simp_all [SameOutcome, Except.map, bind, Except.bind]
  | ok a =>
    cases A' with
    | error => simp [SameOutcome, Except.map] at h
    | ok a' =>
      simp only [SameOutcome, Except.map, Except.ok.injEq, Prod.mk.injEq] at h
      obtain ⟨x, e⟩ := a
      obtain ⟨x', e'⟩ := a'
      obtain ⟨rfl, he⟩ := h
      exact hfg x e e' he

theorem map_fst (h : SameOutcome A A') (g : α → β) :
    SameOutcome (A.map fun p => (g p.1, p.2)) (A'.map fun p => (g p.1, p.2)) := by
  cases A <;> cases A' <;> simp_all [SameOutcome, Except.map]

end SameOutcome

section conversions

variable (parseFloat : GoString → Nat → Parsed Float)

theorem refuse_sameOutcome {s s' : Reply} (hs : s ≠ .nil) (hs' : s' ≠ .nil) (t : GoType)
    (v : GoValue) : SameOutcome (refuse (some (t, v)) s) (refuse (some (t, v)) s') := by
  obtain ⟨e, he⟩ := @refuse_some t v s hs
  obtain ⟨e', he'⟩ := @refuse_some t v s' hs'
  simp [SameOutcome, he, he', Except.map]

theorem convertAssignText_sameOutcome (src src' : GoString → Reply) (hsrc : ∀ s, src s ≠ .nil)
    (hsrc' : ∀ s, src' s ≠ .nil) (d : RValue) (s : GoString) :
    SameOutcome (convertAssignText parseFloat src d s) (convertAssignText parseFloat src' d s) := by
  unfold convertAssignText
  split
  · rfl
  · split <;> try rfl
    split <;> first | rfl | exact refuse_sameOutcome (hsrc s) (hsrc' s) _ _

theorem convertAssignValue_sameOutcome {r r' : Reply} (h : SameBytes r r') (d : RValue) :
    SameOutcome (convertAssignValue parseFloat d r) (convertAssignValue parseFloat d r') := by
  cases h with
  | refl => rfl
  | toStr b => exact convertAssignText_sameOutcome parseFloat .bytes .str nofun nofun d b
  | toBytes b => exact convertAssignText_sameOutcome parseFloat .str .bytes nofun nofun d b

/-! ## `ScanSlice` -/

theorem scanSliceElems_sameOutcome {elem : GoType} {rs rs' : List Reply}
    (h : List.Forall₂ SameBytes rs rs') (i : ℕ) (b : List GoValue) :
    SameOutcome (scanSliceElems parseFloat elem i rs b)
      (scanSliceElems parseFloat elem i rs' b) := by
  induction h generalizing i b with
  | nil => rfl
  | @cons r r' rs rs' hr _ ih =>
    by_cases hn : r = .nil
    · subst hn
      cases hr
      exact ih (i + 1) b
    rw [scanSliceElems_cons parseFloat elem i rs b hn,
      scanSliceElems_cons parseFloat elem i rs' b (hr.ne_nil hn)]
    refine (convertAssignValue_sameOutcome parseFloat hr _).bind fun x e e' he => ?_
    cases e <;> cases e' <;> first | exact ih (i + 1) (b.set i x) | rfl | exact absurd he nofun

theorem scanElemFields_sameOutcome (t : GoType) (base : ℕ) :
    ∀ (j : ℕ) (fss : List FieldSpec) {src src' : List Reply}, List.Forall₂ SameBytes src src' →
      ∀ v, SameOutcome (scanElemFields parseFloat t base j fss src v)
        (scanElemFields parseFloat t base j fss src' v)
  | _, [], _, _, _, _ => rfl
  | _, _ :: _, _, _, .nil, _ => rfl
  | j, fs :: fss, s :: src, s' :: src', .cons hs h, v => by
    by_cases hn : s = .nil
    · subst hn
      cases hs
      exact scanElemFields_sameOutcome t base (j + 1) fss h v
    rw [scanElemFields_cons parseFloat t base j fs fss src v hn,
      scanElemFields_cons parseFloat t base j fs fss src' v (hs.ne_nil hn)]
    refine (convertAssignValue_sameOutcome parseFloat hs _).bind fun _ e e' he => ?_
    cases e <;> cases e' <;>
      first | exact scanElemFields_sameOutcome t base (j + 1) fss h _ | rfl | exact absurd he nofun

theorem scanStructElems_sameOutcome (t : GoType) (isPtr : Bool) (fss : List FieldSpec)
    {src src' : List Reply} (h : List.Forall₂ SameBytes src src') :
    ∀ (m i : ℕ) (b : List GoValue), SameOutcome (scanStructElems parseFloat t isPtr fss src m i b)
      (scanStructElems parseFloat t isPtr fss src' m i b)
  | 0, _, _ => rfl
  | m + 1, i, b => by
    simp only [scanStructElems]
    refine (scanElemFields_sameOutcome parseFloat t _ 0 fss (List.forall₂_drop _ h) _).bind
      fun _ e e' he => ?_
    cases e <;> cases e' <;>
      first
      | exact scanStructElems_sameOutcome t isPtr fss h m (i + 1) _
      | rfl
      | exact absurd he nofun

/-- `ScanSlice` over replies swapped one for one for the same bytes as the other kind of string
stores the same slice, and returns an error, or panics, exactly when it does on the original
replies, into every destination and with every list of field names. -/
theorem ScanSlice_sameOutcome {rs rs' : List Reply} (h : List.Forall₂ SameBytes rs rs')
    (dest : Dest) (fieldNames : List GoString) :
    SameOutcome (ScanSlice parseFloat rs dest fieldNames)
      (ScanSlice parseFloat rs' dest fieldNames) := by
  unfold ScanSlice
  split
  · rename_i elem v
    simp only [h.length_eq]
    split
    · exact (scanSliceElems_sameOutcome parseFloat h 0 _).map_fst
        fun b => (some (.ptr (.slice elem), .ptr (some (.slice rs'.length b))) : Dest)
    · rename_i isPtr n fs _
      cases structSpecForType (.strct n fs) with
      | error p => rfl
      | ok ss =>
        simp only [bind, Except.bind]
        split
        · rfl
        · rfl
        · split_ifs
          · rfl
          · exact (scanStructElems_sameOutcome parseFloat _ isPtr _ h _ 0 _).map_fst
              fun b => (some (.ptr (.slice elem), .ptr (some (.slice _ b))) : Dest)
  · rfl

theorem ScanSlice_sameOutcome_swapped :
    let rs : List Reply := [.bytes (.ofString "12"), .nil, .str (.ofString "x")]
    let rs' : List Reply := [.str (.ofString "12"), .nil, .bytes (.ofString "x")]
    let dest : Dest := some (.ptr (.slice .int), .ptr (some (.slice 0 [])))
    List.Forall₂ SameBytes rs rs' ∧
      SameOutcome (ScanSlice (fun _ _ => (0, none)) rs dest [])
        (ScanSlice (fun _ _ => (0, none)) rs' dest []) := by
  intro rs rs' dest
  have h : List.Forall₂ SameBytes rs rs' :=
    .cons (.toStr _) (.cons (.refl _) (.cons (.toBytes _) .nil))
  exact ⟨h, ScanSlice_sameOutcome _ h dest []⟩

/-! ## `ScanStruct` -/

def flattenPairs (kvs : List (Reply × Reply)) : List Reply := kvs.flatMap fun p => [p.1, p.2]

theorem flattenPairs_cons (k x : Reply) (kvs : List (Reply × Reply)) :
    flattenPairs ((k, x) :: kvs) = k :: x :: flattenPairs kvs := rfl

theorem flattenPairs_length (kvs : List (Reply × Reply)) :
    (flattenPairs kvs).length = 2 * kvs.length := by
  induction kvs with
  | nil => rfl
  | cons p kvs ih =>
    obtain ⟨k, x⟩ := p
    rw [flattenPairs_cons, List.length_cons, List.length_cons, ih, List.length_cons]
    omega

def SameValues (kvs kvs' : List (Reply × Reply)) : Prop :=
  List.Forall₂ (fun p q => p.1 = q.1 ∧ SameBytes p.2 q.2) kvs kvs'

theorem scanStructPairs_sameOutcome {ss : StructSpec} {t : GoType}
    {kvs kvs' : List (Reply × Reply)} (h : SameValues kvs kvs') (i : ℕ) (v : GoValue) :
    SameOutcome (scanStructPairs parseFloat ss t i (flattenPairs kvs) v)
      (scanStructPairs parseFloat ss t i (flattenPairs kvs') v) := by
  induction h generalizing i v with
  | nil => rfl
  | @cons p q kvs kvs' hpq _ ih =>
    obtain ⟨k, x⟩ := p
    obtain ⟨k', x'⟩ := q
    obtain ⟨rfl, hx⟩ := hpq
    rw [flattenPairs_cons, flattenPairs_cons]
    by_cases hn : x = .nil
    · subst hn
      cases hx
      exact ih (i + 2) v
    by_cases hk : ∃ key, k = .bytes key
    · obtain ⟨key, rfl⟩ := hk
      rw [scanStructPairs_pair parseFloat ss t i key _ v hn,
        scanStructPairs_pair parseFloat ss t i key _ v (hx.ne_nil hn)]
      cases ss.m key with
      | none => exact ih (i + 2) v
      | some fs =>
        refine (convertAssignValue_sameOutcome parseFloat hx _).bind fun _ e e' he => ?_
        cases e <;> cases e' <;> first | exact ih (i + 2) _ | rfl | exact absurd he nofun
    · rw [scanStructPairs_badKey parseFloat ss t i _ v hn fun key h => hk ⟨key, h⟩,
        scanStructPairs_badKey parseFloat ss t i _ v (hx.ne_nil hn) fun key h => hk ⟨key, h⟩]
      rfl

/-- `ScanStruct` over name-value pairs whose values are swapped for the same bytes as the other
kind of string, with the names kept, stores the same struct and returns an error, or panics,
exactly when it does on the original pairs, into every destination. -/
theorem ScanStruct_sameOutcome {kvs kvs' : List (Reply × Reply)} (h : SameValues kvs kvs')
    (dest : Dest) :
    SameOutcome (ScanStruct parseFloat (flattenPairs kvs) dest)
      (ScanStruct parseFloat (flattenPairs kvs') dest) := by
  unfold ScanStruct
  split
  · rename_i n fs v
    cases structSpecForType (.strct n fs) with
    | error p => rfl
    | ok ss =>
      simp only [bind, Except.bind, flattenPairs_length, Nat.mul_mod_right, ne_eq,
        not_true_eq_false, if_false]
      exact (scanStructPairs_sameOutcome parseFloat h 0 v).map_fst
        fun w => (some (.ptr (.strct n fs), .ptr (some w)) : Dest)
  · rfl

theorem ScanStruct_sameOutcome_value :
    let S : GoType := .strct "main.S" [(⟨"A", true, false, ""⟩, .int)]
    let kvs : List (Reply × Reply) := [(.bytes (.ofString "A"), .bytes (.ofString "7"))]
    let kvs' : List (Reply × Reply) := [(.bytes (.ofString "A"), .str (.ofString "7"))]
    SameValues kvs kvs' ∧
      SameOutcome (ScanStruct (fun _ _ => (0, none)) (flattenPairs kvs)
          (some (.ptr S, .ptr (some S.zero))))
        (ScanStruct (fun _ _ => (0, none)) (flattenPairs kvs')
          (some (.ptr S, .ptr (some S.zero)))) := by
  intro S kvs kvs'
  have h : SameValues kvs kvs' := .cons ⟨rfl, .toStr _⟩ .nil
  exact ⟨h, ScanStruct_sameOutcome _ h _⟩

end conversions

end GrabRedis
