import GrabRedis.Args

/-!
# Integer replies keep their value or are refused

A reply denotes `x` when it is the `int64` `x` or the decimal text `FormatInt` writes for it.
Such a reply converts into an integer kind without error exactly when `x` is in the kind's
range, and the destination then holds `x`, on every path the scanner and the helpers take.
-/

namespace GrabRedis

set_option autoImplicit false

def GoType.intRange (t : GoType) : Option (ℤ × ℤ) :=
  match t.intBits, t.uintBits with
  | some bits, _ => some (-2 ^ (bits - 1), 2 ^ (bits - 1) - 1)
  | none, some bits => some (0, 2 ^ bits - 1)
  | none, none => none

def GoType.ofInt (t : GoType) (x : ℤ) : GoValue :=
  match t.intBits with
  | some _ => .int x
  | none => .uint x.toNat

def Denotes (r : Reply) (x : ℤ) : Prop :=
  r = .bytes (formatInt x) ∨ r = .str (formatInt x) ∨ ∃ h, r = .int ⟨x, h⟩

/-- A conversion into integer kind `t` of a reply denoting `x` obeys the law: it returns,
without error exactly when `x` is in `t`'s range, and then with `x` stored. -/
def IntLaw (t : GoType) (x : ℤ) (r : Except Panic (GoValue × Option ScanError)) : Prop :=
  ∃ lo hi v e, t.intRange = some (lo, hi) ∧ r = .ok (v, e) ∧
    (e = none ↔ lo ≤ x ∧ x ≤ hi) ∧ (e = none → v = t.ofInt x)

theorem Denotes.ne_nil {r : Reply} {x : ℤ} (h : Denotes r x) : r ≠ .nil := by
  rcases h with rfl | rfl | ⟨_, rfl⟩ <;> nofun

theorem GoType.intRange_cases {t : GoType} {lo hi : ℤ} (h : t.intRange = some (lo, hi)) :
    (∃ bits, t.floatBits = none ∧ t.intBits = some bits ∧ 2 ≤ bits ∧ bits ≤ 64 ∧
        lo = -2 ^ (bits - 1) ∧ hi = 2 ^ (bits - 1) - 1) ∨
      ∃ bits, t.floatBits = none ∧ t.intBits = none ∧ t.uintBits = some bits ∧ 1 ≤ bits ∧
        bits ≤ 64 ∧ lo = 0 ∧ hi = 2 ^ bits - 1 := by
  cases t <;> simp only [intRange, intBits, uintBits, Option.some.injEq, Prod.mk.injEq,
    reduceCtorEq] at h <;> obtain ⟨rfl, rfl⟩ := h <;>
    first
    | exact .inl ⟨_, rfl, rfl, by decide, by decide, rfl, rfl⟩
    | exact .inr ⟨_, rfl, rfl, rfl, by decide, by decide, rfl, rfl⟩

/-! ## The three mechanisms -/

theorem truncInt_eq_iff {bits : ℕ} (hb : 1 ≤ bits) (x : ℤ) :
    truncInt bits x = x ↔ -2 ^ (bits - 1) ≤ x ∧ x ≤ 2 ^ (bits - 1) - 1 := by
  obtain ⟨P, hP⟩ : ∃ P : ℤ, 2 ^ (bits - 1) = P := ⟨_, rfl⟩
  have h2 : (2 : ℤ) ^ bits = 2 * P := by
    rw [← hP, ← pow_succ']; congr 1; omega
  have hP0 : 0 < P := hP ▸ by positivity
  have hlo := Int.emod_nonneg (x + P) (by omega : 2 * P ≠ 0)
  have hhi := Int.emod_lt_of_pos (x + P) (by omega : 0 < 2 * P)
  unfold truncInt
  rw [h2, hP]
  constructor
  · intro h; omega
  · intro h; rw [Int.emod_eq_of_lt (by omega) (by omega)]; omega

theorem parseInt_formatInt_law (x : ℤ) {bits : ℕ} (hb : 2 ≤ bits ∧ bits ≤ 64) :
    ((parseInt (formatInt x) bits).2 = none ↔
        -2 ^ (bits - 1) ≤ x ∧ x ≤ 2 ^ (bits - 1) - 1) ∧
      ((parseInt (formatInt x) bits).2 = none → (parseInt (formatInt x) bits).1 = x) := by
  have h := @parseInt_formatInt x bits (.inr hb)
  simp only [if_neg (by omega : bits ≠ 0)] at h
  rw [h]
  split_ifs with hr
  · exact ⟨iff_of_true rfl (by omega), fun _ => rfl⟩
  all_goals exact ⟨iff_of_false nofun (by omega), nofun⟩

theorem parseInt_formatInt_law_zero (x : ℤ) :
    ((parseInt (formatInt x) 0).2 = none ↔ -2 ^ 63 ≤ x ∧ x ≤ 2 ^ 63 - 1) ∧
      ((parseInt (formatInt x) 0).2 = none → (parseInt (formatInt x) 0).1 = x) := by
  have h := @parseInt_formatInt x 0 (.inl rfl)
  simp only [if_pos] at h
  rw [h]
  split_ifs with hr
  · exact ⟨iff_of_true rfl (by omega), fun _ => rfl⟩
  all_goals exact ⟨iff_of_false nofun (by omega), nofun⟩

theorem parseUint_formatInt_law (x : ℤ) {bits : ℕ} (hb : 1 ≤ bits ∧ bits ≤ 64) :
    ((parseUint (formatInt x) bits).2 = none ↔ 0 ≤ x ∧ x ≤ 2 ^ bits - 1) ∧
      ((parseUint (formatInt x) bits).2 = none → ((parseUint (formatInt x) bits).1 : ℤ) = x) := by
  rcases lt_or_le x 0 with hx | hx
  · rw [parseUint_formatInt_neg hx]
    exact ⟨iff_of_false nofun (by omega), nofun⟩
  · have hf : formatInt x = formatUint x.toNat := if_neg (not_lt.mpr hx)
    have ht : (x.toNat : ℤ) = x := Int.toNat_of_nonneg hx
    have hpow : ((2 ^ bits - 1 : ℕ) : ℤ) = 2 ^ bits - 1 := by
      have : 1 ≤ 2 ^ bits := Nat.one_le_two_pow
      push_cast [Nat.cast_sub this]; rfl
    rw [hf, parseUint_formatUint _ hb.2]
    simp only [if_neg (by omega : bits ≠ 0)]
    split_ifs with hr
    · exact ⟨iff_of_true rfl (by omega), fun _ => ht⟩
    · exact ⟨iff_of_false nofun (by omega), nofun⟩


theorem uint_readback_iff {bits : ℕ} (x : ℤ) (hx : 0 ≤ x) :
    x.toNat % 2 ^ bits = x.toNat ↔ x ≤ 2 ^ bits - 1 := by
  rw [Nat.mod_eq_iff_lt (by positivity)]
  have : ((2 ^ bits : ℕ) : ℤ) = 2 ^ bits := by push_cast; rfl
  omega

/-! ## Into a `reflect.Value` of an integer kind -/

section paths

variable (parseFloat : GoString → Nat → Parsed Float)

theorem convertAssignText_signed (src : GoString → Reply) {t : GoType} {bits : ℕ}
    (hf : t.floatBits = none) (hi : t.intBits = some bits) (v0 : GoValue) (s : GoString) :
    convertAssignText parseFloat src (some (t, v0)) s =
      .ok (.int (parseInt s bits).1, (parseInt s bits).2.map .num) := by
  simp only [convertAssignText, hf, hi]

theorem convertAssignText_unsigned (src : GoString → Reply) {t : GoType} {bits : ℕ}
    (hf : t.floatBits = none) (hi : t.intBits = none) (hu : t.uintBits = some bits)
    (v0 : GoValue) (s : GoString) :
    convertAssignText parseFloat src (some (t, v0)) s =
      .ok (.uint (parseUint s bits).1, (parseUint s bits).2.map .num) := by
  simp only [convertAssignText, hf, hi, hu]

theorem convertAssignText_intLaw (src : GoString → Reply) {t : GoType} {lo hi : ℤ}
    (ht : t.intRange = some (lo, hi)) (v0 : GoValue) (x : ℤ) :
    IntLaw t x (convertAssignText parseFloat src (some (t, v0)) (formatInt x)) := by
  rcases GoType.intRange_cases ht with
    ⟨bits, hf, hi, hb1, hb2, rfl, rfl⟩ | ⟨bits, hf, hi, hu, hb1, hb2, rfl, rfl⟩
  · obtain ⟨h1, h2⟩ := parseInt_formatInt_law x ⟨hb1, hb2⟩
    rw [convertAssignText_signed parseFloat src hf hi]
    refine ⟨_, _, _, _, ht, rfl, by rw [Option.map_eq_none', h1], fun h => ?_⟩
    rw [GoType.ofInt, hi, h2 (Option.map_eq_none'.mp h)]
  · obtain ⟨h1, h2⟩ := parseUint_formatInt_law x ⟨hb1, hb2⟩
    rw [convertAssignText_unsigned parseFloat src hf hi hu]
    refine ⟨_, _, _, _, ht, rfl, by rw [Option.map_eq_none', h1], fun h => ?_⟩
    have hx := h2 (Option.map_eq_none'.mp h)
    rw [GoType.ofInt, hi]
    exact congrArg GoValue.uint (by omega)

theorem convertAssignInt_signed {t : GoType} {bits : ℕ} (hi : t.intBits = some bits)
    (v0 : GoValue) (x : Int64) :
    convertAssignInt (some (t, v0)) x =
      if truncInt bits x.1 ≠ x.1 then .ok (.int 0, some .range) else .ok (.int x.1, none) := by
  simp only [convertAssignInt, hi]

theorem convertAssignInt_unsigned {t : GoType} {bits : ℕ} (hi : t.intBits = none)
    (hu : t.uintBits = some bits) (v0 : GoValue) (x : Int64) :
    convertAssignInt (some (t, v0)) x =
      if x.1 < 0 then .ok (v0, some .range)
      else if x.1.toNat % 2 ^ bits ≠ x.1.toNat then .ok (.uint 0, some .range)
      else .ok (.uint x.1.toNat, none) := by
  simp only [convertAssignInt, hi, hu]

theorem convertAssignInt_intLaw {t : GoType} {lo hi : ℤ} (ht : t.intRange = some (lo, hi))
    (v0 : GoValue) (x : Int64) : IntLaw t x.1 (convertAssignInt (some (t, v0)) x) := by
  rcases GoType.intRange_cases ht with
    ⟨bits, hf, hi, hb1, hb2, rfl, rfl⟩ | ⟨bits, hf, hi, hu, hb1, hb2, rfl, rfl⟩
  · have hr := truncInt_eq_iff (by omega : 1 ≤ bits) x.1
    rw [convertAssignInt_signed hi]
    split_ifs with hx
    · exact ⟨_, _, _, _, ht, rfl, iff_of_false nofun (mt hr.mpr hx), nofun⟩
    · exact ⟨_, _, _, _, ht, rfl, iff_of_true rfl (hr.mp (not_not.mp hx)),
        fun _ => by rw [GoType.ofInt, hi]⟩
  · rw [convertAssignInt_unsigned hi hu]
    split_ifs with hneg hm
    · exact ⟨_, _, _, _, ht, rfl, iff_of_false nofun (by omega), nofun⟩
    · have hr := @uint_readback_iff bits x.1 (by omega)
      exact ⟨_, _, _, _, ht, rfl, iff_of_false nofun fun h => hm (hr.mpr h.2), nofun⟩
    · have hr := @uint_readback_iff bits x.1 (by omega)
      exact ⟨_, _, _, _, ht, rfl, iff_of_true rfl ⟨by omega, hr.mp (not_not.mp hm)⟩,
        fun _ => by rw [GoType.ofInt, hi]⟩

theorem convertAssignValue_intLaw {t : GoType} {lo hi : ℤ} (ht : t.intRange = some (lo, hi))
    (v0 : GoValue) {r : Reply} {x : ℤ} (hr : Denotes r x) :
    IntLaw t x (convertAssignValue parseFloat (some (t, v0)) r) := by
  rcases hr with rfl | rfl | ⟨h, rfl⟩
  · exact convertAssignText_intLaw parseFloat .bytes ht v0 x
  · exact convertAssignText_intLaw parseFloat .str ht v0 x
  · exact convertAssignInt_intLaw ht v0 ⟨x, h⟩

theorem IntLaw.map_ptr {t : GoType} {x : ℤ} {r : Except Panic (GoValue × Option ScanError)}
    (h : IntLaw t x r) :
    ∃ v e, r.map (fun p => ((some (.ptr t, .ptr (some p.1)) : Dest), p.2)) =
      .ok (some (.ptr t, .ptr (some v)), e) ∧ IntLaw t x (.ok (v, e)) := by
  obtain ⟨lo, hi, v, e, ht, rfl, h1, h2⟩ := h
  exact ⟨v, e, rfl, lo, hi, v, e, ht, rfl, h1, h2⟩

theorem convertAssign_intLaw {t : GoType} {lo hi : ℤ} (ht : t.intRange = some (lo, hi))
    (v0 : GoValue) {r : Reply} {x : ℤ} (hr : Denotes r x) :
    ∃ v e, convertAssign parseFloat (some (.ptr t, .ptr (some v0))) r =
      .ok (some (.ptr t, .ptr (some v)), e) ∧ IntLaw t x (.ok (v, e)) := by
  have hv := (convertAssignValue_intLaw parseFloat ht v0 hr).map_ptr
  rcases hr with rfl | rfl | ⟨h, rfl⟩ <;> cases t <;>
    first
    | exact hv
    | (simp only [GoType.intRange, GoType.intBits, GoType.uintBits, reduceCtorEq] at ht; done)
    | skip
  · obtain ⟨h1, h2⟩ := parseInt_formatInt_law_zero x
    refine ⟨_, _, rfl, _, _, _, _, ht, rfl, ?_, fun h => ?_⟩
    · simp only [atoi, Option.map_map, Option.map_eq_none', h1]
      simp only [GoType.intRange, GoType.intBits, Option.some.injEq, Prod.mk.injEq] at ht
      obtain ⟨rfl, rfl⟩ := ht
      norm_num
    · simp only [atoi, Option.map_map, Option.map_eq_none'] at h
      rw [GoType.ofInt, GoType.intBits]; exact congrArg GoValue.int (h2 h)
  · simp only [GoType.intRange, GoType.intBits, Option.some.injEq, Prod.mk.injEq] at ht
    obtain ⟨rfl, rfl⟩ := ht
    exact ⟨_, _, rfl, _, _, _, _, rfl, rfl, iff_of_true rfl (by norm_num at h ⊢; omega),
      fun _ => rfl⟩

theorem Scan_intLaw {t : GoType} {lo hi : ℤ} (ht : t.intRange = some (lo, hi)) (v0 : GoValue)
    {r : Reply} {x : ℤ} (hr : Denotes r x) :
    ∃ d e, Scan parseFloat [r] [some (.ptr t, .ptr (some v0))] = .ok ([], [d], e) ∧
      (e = none ↔ lo ≤ x ∧ x ≤ hi) ∧ (e = none → d = some (.ptr t, .ptr (some (t.ofInt x)))) := by
  obtain ⟨v, e, heq, lo', hi', _, _, ht', hve, h1, h2⟩ := convertAssign_intLaw parseFloat ht v0 hr
  cases hve
  obtain ⟨rfl, rfl⟩ := Prod.mk.inj (Option.some.inj (ht'.symm.trans ht))
  refine ⟨some (.ptr t, .ptr (some v)), e.map (.scan 0), ?_, by rw [Option.map_eq_none', h1],
    fun h => ?_⟩
  · cases e <;> simp [Scan, scanDests, heq, bind, Except.bind, Except.map, pure, Except.pure]
  · rw [h2 (Option.map_eq_none'.mp h)]

/-! ## Along a slice -/

theorem take_succ_set {α : Type} (l : List α) {i : ℕ} (h : i < l.length) (v : α) :
    (l.set i v).take (i + 1) = l.take i ++ [v] := by
  rw [List.take_succ, List.set_take, List.set_eq_of_length_le (by simp), List.getElem?_set_self h]
  rfl

theorem scanSliceElems_cons (elem : GoType) (i : ℕ) {r : Reply} (rs : List Reply)
    (b : List GoValue) (hr : r ≠ .nil) :
    scanSliceElems parseFloat elem i (r :: rs) b = (do
      let (x, err) ← convertAssignValue parseFloat (some (elem, b.getD i elem.zero)) r
      match err with
      | some e => pure (b.set i x, some (.sliceElem i e))
      | none => scanSliceElems parseFloat elem (i + 1) rs (b.set i x)) := by
  cases r <;> first | rfl | exact absurd rfl hr

theorem scanSliceElems_intLaw {t : GoType} {lo hi : ℤ} (ht : t.intRange = some (lo, hi))
    {rs : List Reply} {xs : List ℤ} (hrs : List.Forall₂ Denotes rs xs) (i : ℕ) (b : List GoValue)
    (hb : i + rs.length ≤ b.length) :
    ∃ b' e, scanSliceElems parseFloat t i rs b = .ok (b', e) ∧ b'.length = b.length ∧
      (e = none ↔ ∀ x ∈ xs, lo ≤ x ∧ x ≤ hi) ∧
      (e = none → b'.take (i + rs.length) = b.take i ++ xs.map t.ofInt) := by
  induction hrs generalizing i b with
  | nil => exact ⟨b, none, rfl, rfl, by simp, by simp⟩
  | @cons r x rs xs hrx _ ih =>
    obtain ⟨lo', hi', v, e, ht', heq, h1, h2⟩ :=
      convertAssignValue_intLaw parseFloat ht (b.getD i t.zero) hrx
    obtain ⟨rfl, rfl⟩ := Prod.mk.inj (Option.some.inj (ht'.symm.trans ht))
    have hi : i < b.length := by simp only [List.length_cons] at hb; omega
    rw [scanSliceElems_cons parseFloat t i rs b hrx.ne_nil, heq]
    cases e with
    | some e =>
      exact ⟨_, _, rfl, List.length_set .., iff_of_false nofun fun hall =>
        absurd (h1.mpr (hall x (List.mem_cons_self x xs))) nofun, nofun⟩
    | none =>
      obtain ⟨b', e', heq', hlen, hiff, htake⟩ :=
        ih (i + 1) (b.set i v) (by simp only [List.length_cons, List.length_set] at hb ⊢; omega)
      refine ⟨b', e', heq', hlen.trans (List.length_set ..), ?_, fun he => ?_⟩
      · rw [hiff, List.forall_mem_cons, iff_and_self]
        exact fun _ => h1.mp rfl
      · rw [List.length_cons, show i + (rs.length + 1) = i + 1 + rs.length by omega, htake he,
          take_succ_set b hi, h2 rfl, List.map_cons, List.append_assoc, List.singleton_append]

theorem ensureLen_length (elem : GoType) (v : GoValue) (n : ℕ) : n ≤ (ensureLen elem v n).length := by
  unfold ensureLen
  split
  · split_ifs with h
    · simp
    · omega
  · simp

theorem GoType.sliceStruct_of_intRange {t : GoType} {lo hi : ℤ} (ht : t.intRange = some (lo, hi)) :
    sliceStruct t = none := by
  cases t <;> first | rfl | simp [intRange, intBits, uintBits] at ht

theorem ScanSlice_intLaw {t : GoType} {lo hi : ℤ} (ht : t.intRange = some (lo, hi))
    {rs : List Reply} {xs : List ℤ} (hrs : List.Forall₂ Denotes rs xs) (sv : GoValue) :
    ∃ d e, ScanSlice parseFloat rs (some (.ptr (.slice t), .ptr (some sv))) [] = .ok (d, e) ∧
      (e = none ↔ ∀ x ∈ xs, lo ≤ x ∧ x ≤ hi) ∧ (e = none → sliceElems d = xs.map t.ofInt) := by
  obtain ⟨b', e, heq, -, hiff, htake⟩ := scanSliceElems_intLaw parseFloat ht hrs 0
    (ensureLen t sv rs.length) (by simpa using ensureLen_length t sv rs.length)
  refine ⟨some (.ptr (.slice t), .ptr (some (.slice rs.length b'))), e, ?_, hiff, fun he => ?_⟩
  · simp only [ScanSlice, GoType.sliceStruct_of_intRange ht, heq]; rfl
  · simpa [sliceElems] using htake he

/-! ## A struct field -/

theorem scanStructPairs_pair (ss : StructSpec) (t : GoType) (i : ℕ) (key : GoString) {s : Reply}
    (rest : List Reply) (v : GoValue) (hs : s ≠ .nil) :
    scanStructPairs parseFloat ss t i (.bytes key :: s :: rest) v =
      (match ss.m key with
      | none => scanStructPairs parseFloat ss t (i + 2) rest v
      | some fs => do
        let (x, err) ← convertAssignValue parseFloat (fieldByIndex t v fs.index) s
        match err with
        | some e => pure (v.setField fs.index x, some (.structField fs.name e))
        | none => scanStructPairs parseFloat ss t (i + 2) rest (v.setField fs.index x)) := by
  cases s <;> first | rfl | exact absurd rfl hs

theorem ScanStruct_intLaw {name : String} {fields : List (FieldHeader × GoType)} {ss : StructSpec}
    (hss : structSpecForType (.strct name fields) = .ok ss) {key : GoString} {fs : FieldSpec}
    (hkey : ss.m key = some fs) {v fv : GoValue} {t : GoType}
    (hf : fieldByIndex (.strct name fields) v fs.index = some (t, fv)) {lo hi : ℤ}
    (ht : t.intRange = some (lo, hi)) {r : Reply} {x : ℤ} (hr : Denotes r x) :
    ∃ v' e, ScanStruct parseFloat [.bytes key, r] (some (.ptr (.strct name fields), .ptr (some v))) =
        .ok (some (.ptr (.strct name fields), .ptr (some (v.setField fs.index v'))),
          e.map (.structField fs.name)) ∧
      (e = none ↔ lo ≤ x ∧ x ≤ hi) ∧ (e = none → v' = t.ofInt x) := by
  obtain ⟨lo', hi', v', e, ht', heq, h1, h2⟩ := convertAssignValue_intLaw parseFloat ht fv hr
  obtain ⟨rfl, rfl⟩ := Prod.mk.inj (Option.some.inj (ht'.symm.trans ht))
  refine ⟨v', e, ?_, h1, h2⟩
  simp only [ScanStruct, hss, List.length_cons, List.length_nil, Nat.reduceAdd, Nat.reduceMod,
    ne_eq, not_true_eq_false, if_false, scanStructPairs_pair parseFloat ss _ 0 key [] v hr.ne_nil,
    hkey, hf, heq, bind, Except.bind]
  cases e <;> rfl

/-! ## The helpers -/

theorem Int_intLaw {r : Reply} {x : ℤ} (hr : Denotes r x) :
    ((redisapi.Int r none).2 = none ↔ -2 ^ 63 ≤ x ∧ x ≤ 2 ^ 63 - 1) ∧
      ((redisapi.Int r none).2 = none → (redisapi.Int r none).1 = x) := by
  rcases hr with rfl | rfl | ⟨h, rfl⟩
  · simpa only [redisapi.Int, Option.map_eq_none'] using parseInt_formatInt_law_zero x
  · simpa only [redisapi.Int, Option.map_eq_none'] using parseInt_formatInt_law_zero x
  · have hx : truncInt 64 x = x := (truncInt_eq_iff (by norm_num) x).mpr (by norm_num; omega)
    simp only [redisapi.Int, hx, ne_eq, not_true_eq_false, if_false]
    exact ⟨iff_of_true trivial (by omega), fun _ => trivial⟩

theorem Int64_intLaw {r : Reply} {x : ℤ} (hr : Denotes r x) :
    ((redisapi.Int64 r none).2 = none ↔ -2 ^ 63 ≤ x ∧ x ≤ 2 ^ 63 - 1) ∧
      ((redisapi.Int64 r none).2 = none → (redisapi.Int64 r none).1 = x) := by
  rcases hr with rfl | rfl | ⟨h, rfl⟩
  · simpa only [redisapi.Int64, Option.map_eq_none'] using
      @parseInt_formatInt_law x 64 ⟨by norm_num, le_refl _⟩
  · simpa only [redisapi.Int64, Option.map_eq_none'] using
      @parseInt_formatInt_law x 64 ⟨by norm_num, le_refl _⟩
  · exact ⟨iff_of_true rfl (by omega), fun _ => rfl⟩

theorem Uint64_intLaw {r : Reply} {x : ℤ} (hr : Denotes r x) :
    ((redisapi.Uint64 r none).2 = none ↔ 0 ≤ x ∧ x ≤ 2 ^ 64 - 1) ∧
      ((redisapi.Uint64 r none).2 = none → ((redisapi.Uint64 r none).1 : ℤ) = x) := by
  rcases hr with rfl | rfl | ⟨h, rfl⟩
  · simpa only [redisapi.Uint64, Option.map_eq_none'] using
      @parseUint_formatInt_law x 64 ⟨by norm_num, le_refl _⟩
  · simpa only [redisapi.Uint64, Option.map_eq_none'] using
      @parseUint_formatInt_law x 64 ⟨by norm_num, le_refl _⟩
  · by_cases hx : x < 0
    · simp only [redisapi.Uint64, hx, if_true]
      exact ⟨iff_of_false nofun (by omega), nofun⟩
    · simp only [redisapi.Uint64, hx, if_false]
      exact ⟨iff_of_true trivial (by omega), fun _ => Int.toNat_of_nonneg (by omega)⟩

theorem Ints_intLaw {rs : List Reply} {xs : List ℤ} (hrs : List.Forall₂ Denotes rs xs) :
    ∃ vs e, redisapi.Ints parseFloat (.array rs) none = .ok (vs, e) ∧
      (e = none ↔ ∀ x ∈ xs, -2 ^ 63 ≤ x ∧ x ≤ 2 ^ 63 - 1) ∧ (e = none → vs = xs.map .int) := by
  obtain ⟨d, e, heq, hiff, hval⟩ :=
    @ScanSlice_intLaw parseFloat .int _ _ rfl _ _ hrs (.slice 0 [])
  refine ⟨_, e.map .scan, by simp only [redisapi.Ints, redisapi.Values, nilSlicePtr, heq]; rfl,
    by rw [Option.map_eq_none', hiff], fun he => hval (Option.map_eq_none'.mp he)⟩

theorem Int64s_intLaw {rs : List Reply} {xs : List ℤ} (hrs : List.Forall₂ Denotes rs xs) :
    ∃ vs e, redisapi.Int64s parseFloat (.array rs) none = .ok (vs, e) ∧
      (e = none ↔ ∀ x ∈ xs, -2 ^ 63 ≤ x ∧ x ≤ 2 ^ 63 - 1) ∧ (e = none → vs = xs.map .int) := by
  obtain ⟨d, e, heq, hiff, hval⟩ :=
    @ScanSlice_intLaw parseFloat .int64 _ _ rfl _ _ hrs (.slice 0 [])
  cases e with
  | some e =>
    exact ⟨[], some (.scan e), by simp only [redisapi.Int64s, redisapi.Values, nilSlicePtr, heq]; rfl,
      iff_of_false nofun (fun h => absurd (hiff.mpr h) nofun), nofun⟩
  | none =>
    exact ⟨_, none, by simp only [redisapi.Int64s, redisapi.Values, nilSlicePtr, heq]; rfl,
      iff_of_true rfl (hiff.mp rfl), fun _ => hval rfl⟩

end paths

end GrabRedis
