import GrabRedis.Integers

/-!
# `ScanStruct` and `ScanSlice` keep the destination's type

`GoValue.Typed v t`: `v` is a value a Go variable of type `t` can hold. Unlike `Scan`,
`ScanStruct` and `ScanSlice` never panic on a well-typed destination whose tags carry no option
but `omitempty`, and what they store keeps its type.
-/

namespace GrabRedis

set_option autoImplicit false

/-! ## Well-typed values -/

/-- A value of type `t`, as a Go variable of that type holds it. -/
inductive GoValue.Typed : GoValue → GoType → Prop where
  | int {x : ℤ} {t : GoType} {bits : ℕ} : t.intBits = some bits → -2 ^ (bits - 1) ≤ x →
      x < 2 ^ (bits - 1) → Typed (.int x) t
  | uint {x : ℕ} {t : GoType} {bits : ℕ} : t.uintBits = some bits → x < 2 ^ bits →
      Typed (.uint x) t
  | float {x : Float} {t : GoType} {bits : ℕ} : t.floatBits = some bits → Typed (.float x) t
  | bool {b : Bool} : Typed (.bool b) .bool
  | str {s : GoString} : Typed (.str s) .string
  | slice {n : ℕ} {b : List GoValue} {e : GoType} : n ≤ b.length → (∀ x ∈ b, Typed x e) →
      Typed (.slice n b) (.slice e)
  | iface {r : Reply} : Typed (.iface r) .iface
  | ptrNil {e : GoType} : Typed (.ptr none) (.ptr e)
  | ptr {v : GoValue} {e : GoType} : Typed v e → Typed (.ptr (some v)) (.ptr e)
  | strct {vs : List GoValue} {n : String} {fs : List (FieldHeader × GoType)} :
      vs.length = fs.length →
      (∀ (i : ℕ) (v : GoValue) (f : FieldHeader × GoType), vs[i]? = some v → fs[i]? = some f →
        Typed v f.2) → Typed (.strct vs) (.strct n fs)
  | other {n : String} : Typed .other (.other n)

theorem GoType.zeroFields_length (fs : List (FieldHeader × GoType)) :
    (GoType.zeroFields fs).length = fs.length := by
  induction fs with
  | nil => rfl
  | cons f fs ih => simp [GoType.zeroFields, ih]

mutual
theorem GoType.zero_typed : (t : GoType) → t.zero.Typed t
  | .int | .int64 => .int rfl (by decide) (by decide)
  | .int8 => .int rfl (by decide) (by decide)
  | .int16 => .int rfl (by decide) (by decide)
  | .int32 => .int rfl (by decide) (by decide)
  | .uint | .uint64 => .uint rfl (by decide)
  | .uint8 => .uint rfl (by decide)
  | .uint16 => .uint rfl (by decide)
  | .uint32 => .uint rfl (by decide)
  | .float32 => .float rfl
  | .float64 => .float rfl
  | .bool => .bool
  | .string => .str
  | .slice _ => .slice (Nat.zero_le _) nofun
  | .iface => .iface
  | .ptr _ => .ptrNil
  | .strct _ fs => .strct (GoType.zeroFields_length fs) (GoType.zeroFields_typed fs)
  | .other _ => .other

theorem GoType.zeroFields_typed : (fs : List (FieldHeader × GoType)) →
    ∀ (i : ℕ) (v : GoValue) (f : FieldHeader × GoType), (GoType.zeroFields fs)[i]? = some v →
      fs[i]? = some f → v.Typed f.2
  | [], _, _, _, _, hf => nomatch hf
  | (_, t) :: _, 0, _, _, hv, hf => by
    simp only [GoType.zeroFields, List.getElem?_cons_zero, Option.some.injEq] at hv hf
    subst hv hf; exact GoType.zero_typed t
  | (_, _) :: fs, i + 1, v, f, hv, hf => GoType.zeroFields_typed fs i v f
    (by simpa only [GoType.zeroFields, List.getElem?_cons_succ] using hv)
    (by simpa only [List.getElem?_cons_succ] using hf)
end

theorem GoType.intBits_pos {t : GoType} {bits : ℕ} (h : t.intBits = some bits) : 0 < bits := by
  cases t <;> cases h <;> decide

theorem GoType.uintBits_pos {t : GoType} {bits : ℕ} (h : t.uintBits = some bits) : 0 < bits := by
  cases t <;> cases h <;> decide

theorem GoValue.ofBytes_typed (b : GoString) : (GoValue.ofBytes b).Typed (.slice .uint8) :=
  .slice (by simp [GoValue.ofBytes]) (by
    simp only [GoValue.ofBytes, List.mem_map]
    rintro _ ⟨c, -, rfl⟩
    exact .uint rfl c.toNat_lt)

namespace GoValue.Typed

variable {v : GoValue} {t : GoType}

theorem strct_inv {n : String} {fs : List (FieldHeader × GoType)} (h : v.Typed (.strct n fs)) :
    ∃ vs, v = .strct vs ∧ vs.length = fs.length ∧
      ∀ (i : ℕ) (w : GoValue) (f : FieldHeader × GoType), vs[i]? = some w → fs[i]? = some f →
        w.Typed f.2 := by
  cases h with
  | strct hlen hfs => exact ⟨_, rfl, hlen, hfs⟩
  | int hb => cases hb
  | uint hb => cases hb
  | float hb => cases hb

theorem slice_inv {e : GoType} (h : v.Typed (.slice e)) :
    ∃ n b, v = .slice n b ∧ n ≤ b.length ∧ ∀ x ∈ b, x.Typed e := by
  cases h with
  | slice hn hb => exact ⟨_, _, rfl, hn, hb⟩
  | int hb => cases hb
  | uint hb => cases hb
  | float hb => cases hb

theorem elemStruct {isPtr : Bool} (h : v.Typed (if isPtr then .ptr t else t)) :
    (elemStruct t isPtr v).Typed t := by
  cases isPtr with
  | false => exact h
  | true =>
    cases h with
    | ptrNil => exact GoType.zero_typed t
    | ptr hx => exact hx
    | int hb => cases hb
    | uint hb => cases hb
    | float hb => cases hb

theorem field (hv : v.Typed t) {idx : List ℕ} {ft : GoType} (h : t.fieldType idx = some ft) :
    ∃ fv, v.field idx = some fv ∧ fv.Typed ft := by
  induction idx generalizing v t with
  | nil => exact ⟨v, rfl, Option.some.inj h ▸ hv⟩
  | cons i is ih =>
    cases t <;> simp only [GoType.fieldType, reduceCtorEq] at h
    obtain ⟨vs, rfl, hlen, hfs⟩ := hv.strct_inv
    obtain ⟨f, hf, hft⟩ := Option.bind_eq_some.mp h
    have hi : i < vs.length := hlen ▸ (List.getElem?_eq_some_iff.mp hf).1
    obtain ⟨fv, h1, h2⟩ := ih (hfs i _ f (List.getElem?_eq_getElem hi) hf) hft
    exact ⟨fv, by simp [GoValue.field, List.getElem?_eq_getElem hi, h1], h2⟩

theorem fieldByIndex_some (hv : v.Typed t) {idx : List ℕ} {ft : GoType}
    (h : t.fieldType idx = some ft) : ∃ fv, fieldByIndex t v idx = some (ft, fv) ∧ fv.Typed ft := by
  obtain ⟨fv, h1, h2⟩ := hv.field h
  exact ⟨fv, by simp only [fieldByIndex, h, h1], h2⟩

theorem setField (hv : v.Typed t) {idx : List ℕ} {ft : GoType} (h : t.fieldType idx = some ft)
    {x : GoValue} (hx : x.Typed ft) : (v.setField idx x).Typed t := by
  induction idx generalizing v t with
  | nil => simpa only [GoValue.setField, Option.some.inj h] using hx
  | cons i is ih =>
    cases t <;> simp only [GoType.fieldType, reduceCtorEq] at h
    obtain ⟨vs, rfl, hlen, hfs⟩ := hv.strct_inv
    obtain ⟨f, hf, hft⟩ := Option.bind_eq_some.mp h
    have hi : i < vs.length := hlen ▸ (List.getElem?_eq_some_iff.mp hf).1
    simp only [GoValue.setField, List.getElem?_eq_getElem hi]
    refine .strct (by simp [hlen]) fun j w g hw hg => ?_
    rcases eq_or_ne i j with rfl | hij
    · rw [List.getElem?_set_self hi, Option.some_inj] at hw
      rw [hf, Option.some_inj] at hg
      subst hw hg
      exact ih (hfs i _ f (List.getElem?_eq_getElem hi) hf) hft
    · rw [List.getElem?_set_ne hij] at hw
      exact hfs j w g hw hg

end GoValue.Typed

theorem getD_typed {b : List GoValue} {e : GoType} (hb : ∀ x ∈ b, x.Typed e) (i : ℕ)
    {d : GoValue} (hd : d.Typed e) : (b.getD i d).Typed e := by
  rw [List.getD_eq_getElem?_getD]
  cases h : b[i]? with
  | none => exact hd
  | some x =>
    obtain ⟨_, rfl⟩ := List.getElem?_eq_some_iff.mp h
    exact hb _ (List.getElem_mem ..)

theorem set_typed {b : List GoValue} {e : GoType} (hb : ∀ x ∈ b, x.Typed e) (i : ℕ)
    {x : GoValue} (hx : x.Typed e) : ∀ y ∈ b.set i x, y.Typed e := fun y hy =>
  (List.mem_or_eq_of_mem_set hy).elim (hb y) (· ▸ hx)

theorem ensureLen_typed {e : GoType} {v : GoValue} (hv : v.Typed (.slice e)) (n : ℕ) :
    ∀ x ∈ ensureLen e v n, x.Typed e := by
  obtain ⟨m, b, rfl, -, hb⟩ := hv.slice_inv
  have hz : ∀ x ∈ List.replicate n e.zero, x.Typed e := fun x hx =>
    List.eq_of_mem_replicate hx ▸ GoType.zero_typed e
  simp only [ensureLen]
  split_ifs
  · exact hz
  · exact hb

/-! ## Conversions keep the destination's type -/

section conversions

variable (parseFloat : GoString → Nat → Parsed Float)

theorem refuse_some {t : GoType} (v : GoValue) {s : Reply} (hs : s ≠ .nil) :
    ∃ e, refuse (some (t, v)) s = .ok (v, some e) := by
  cases s <;> first | exact absurd rfl hs | exact ⟨_, rfl⟩

theorem convertAssignText_typed (src : GoString → Reply) (hsrc : ∀ s, src s ≠ .nil)
    {t : GoType} {v : GoValue} (hv : v.Typed t) (s : GoString) :
    ∃ x e, convertAssignText parseFloat src (some (t, v)) s = .ok (x, e) ∧ x.Typed t := by
  simp only [convertAssignText]
  split
  · exact ⟨_, _, rfl, .float ‹_›⟩
  · rename_i bits _ hi
    have hb := parseInt_bounds s (GoType.intBits_pos hi)
    exact ⟨_, _, rfl, .int hi hb.1 hb.2⟩
  · rename_i bits _ _ hu
    exact ⟨_, _, rfl, .uint hu (parseUint_lt s (GoType.uintBits_pos hu))⟩
  · split
    · exact ⟨_, _, rfl, .bool⟩
    · exact ⟨_, _, rfl, .str⟩
    · exact ⟨_, _, rfl, GoValue.ofBytes_typed s⟩
    · obtain ⟨e, he⟩ := refuse_some v (hsrc s)
      exact ⟨v, _, he, hv⟩

theorem convertAssignInt_typed {t : GoType} {v : GoValue} (hv : v.Typed t) (s : Int64) :
    ∃ x e, convertAssignInt (some (t, v)) s = .ok (x, e) ∧ x.Typed t := by
  simp only [convertAssignInt]
  split
  · rename_i bits hi
    have hb := GoType.intBits_pos hi
    have h2 : (0 : ℤ) < 2 ^ (bits - 1) := by positivity
    split_ifs with hx
    · exact ⟨_, _, rfl, .int hi (by omega) h2⟩
    · have := (truncInt_eq_iff hb s.1).mp (not_not.mp hx)
      exact ⟨_, _, rfl, .int hi this.1 (by omega)⟩
  · rename_i bits _ hu
    split_ifs with hneg hm
    · exact ⟨_, _, rfl, hv⟩
    · exact ⟨_, _, rfl, .uint hu (Nat.pos_pow_of_pos _ (by decide))⟩
    · exact ⟨_, _, rfl, .uint hu (Nat.mod_eq_iff_lt (by positivity) |>.mp (not_not.mp hm))⟩
  · split
    · exact ⟨_, _, rfl, .bool⟩
    · obtain ⟨e, he⟩ := @refuse_some t v (.int s) nofun
      exact ⟨v, _, he, hv⟩

/-- The conversion `ScanStruct` and `ScanSlice` make into a field or an element returns on every
reply but `nil`, which they skip, and stores a value of the destination's type: the parse's
value clamped to the kind's range, the bytes, `0`, or the old value when it refuses. -/
theorem convertAssignValue_typed {t : GoType} {v : GoValue} (hv : v.Typed t) {s : Reply}
    (hs : s ≠ .nil) :
    ∃ x e, convertAssignValue parseFloat (some (t, v)) s = .ok (x, e) ∧ x.Typed t := by
  cases s with
  | bytes b => exact convertAssignText_typed parseFloat .bytes (fun _ => nofun) hv b
  | str b => exact convertAssignText_typed parseFloat .str (fun _ => nofun) hv b
  | int x => exact convertAssignInt_typed hv x
  | nil => exact absurd rfl hs
  | array _ | other _ =>
    obtain ⟨e, he⟩ := refuse_some v hs
    exact ⟨v, _, he, hv⟩

end conversions

/-! ## Struct specs name fields of the type -/

def tagValid (tag : String) : Bool := (splitComma tag.data []).tail.all (· = "omitempty")

mutual
/-- Every `redis` tag in a type, through its fields, elements and pointers, is valid. -/
def GoType.tagsValid : GoType → Bool
  | .strct _ fs => GoType.fieldsTagsValid fs
  | .slice e | .ptr e => e.tagsValid
  | _ => true

def GoType.fieldsTagsValid : List (FieldHeader × GoType) → Bool
  | [] => true
  | (f, t) :: fs => tagValid f.tag && t.tagsValid && GoType.fieldsTagsValid fs
end

def SpecFields (t : GoType) (ss : StructSpec) : Prop :=
  (∀ fs ∈ ss.l, (t.fieldType fs.index).isSome) ∧
    ∀ k fs, ss.m k = some fs → (t.fieldType fs.index).isSome

theorem GoType.fieldType_append (t : GoType) (index is : List ℕ) :
    t.fieldType (index ++ is) = (t.fieldType index).bind (GoType.fieldType is) := by
  induction index generalizing t with
  | nil => rfl
  | cons i index ih => cases t <;> simp [GoType.fieldType, Option.bind_assoc, ih]

theorem tagOptions_ok (tName : String) {l : List String} (h : l.all (· = "omitempty")) :
    ∃ b, tagOptions tName l = .ok b := by
  induction l with
  | nil => exact ⟨false, rfl⟩
  | cons s l ih =>
    simp only [List.all_cons, Bool.and_eq_true, decide_eq_true_eq] at h
    obtain ⟨b, hb⟩ := ih h.2
    exact ⟨true, by simp [tagOptions, h.1, hb, Except.map]⟩

theorem compileField_fields {T : GoType} (tName : String) (index : List ℕ) (i : ℕ)
    {f : FieldHeader} {acc : SpecState} (hi : (T.fieldType (index ++ [i])).isSome)
    (hv : tagValid f.tag) (hacc : SpecFields T acc.2) :
    ∃ acc', compileField tName index i f acc = .ok acc' ∧ SpecFields T acc'.2 := by
  obtain ⟨b, hb⟩ := tagOptions_ok tName hv
  obtain ⟨depth, ss⟩ := acc
  simp only [compileField, hb]
  split_ifs
  · exact ⟨_, rfl, hacc⟩
  · refine ⟨_, rfl, fun fs h => hacc.1 fs (List.mem_filter.mp h).1, fun k fs h => ?_⟩
    simp only [Function.update_apply] at h
    split_ifs at h
    exact hacc.2 k fs h
  · refine ⟨_, rfl, fun fs h => ?_, fun k fs h => ?_⟩
    · rcases List.mem_append.mp h with h | h
      · exact hacc.1 fs h
      · rw [List.mem_singleton.mp h]; exact hi
    · simp only [Function.update_apply] at h
      split_ifs at h
      · cases h; exact hi
      · exact hacc.2 k fs h
  · exact ⟨_, rfl, hacc⟩

mutual
theorem compileEmbedded_fields {T : GoType} : (t : GoType) → ∀ (index : List ℕ) (acc : SpecState),
    T.fieldType index = some t → t.tagsValid → SpecFields T acc.2 →
    ∃ acc', compileEmbedded t index acc = .ok acc' ∧ SpecFields T acc'.2
  | .strct n fs, index, acc, h, hv, hacc => compileFields_fields fs n index 0 acc fs n h rfl hv hacc
  | .int, _, acc, _, _, hacc | .int8, _, acc, _, _, hacc | .int16, _, acc, _, _, hacc
  | .int32, _, acc, _, _, hacc | .int64, _, acc, _, _, hacc | .uint, _, acc, _, _, hacc
  | .uint8, _, acc, _, _, hacc | .uint16, _, acc, _, _, hacc | .uint32, _, acc, _, _, hacc
  | .uint64, _, acc, _, _, hacc | .float32, _, acc, _, _, hacc | .float64, _, acc, _, _, hacc
  | .bool, _, acc, _, _, hacc | .string, _, acc, _, _, hacc | .slice _, _, acc, _, _, hacc
  | .iface, _, acc, _, _, hacc | .ptr _, _, acc, _, _, hacc | .other _, _, acc, _, _, hacc =>
    ⟨acc, rfl, hacc⟩

theorem compileFields_fields {T : GoType} : (fs : List (FieldHeader × GoType)) →
    ∀ (tName : String) (index : List ℕ) (i : ℕ) (acc : SpecState)
      (all : List (FieldHeader × GoType)) (n : String),
    T.fieldType index = some (.strct n all) → all.drop i = fs → GoType.fieldsTagsValid fs →
    SpecFields T acc.2 → ∃ acc', compileFields tName index i fs acc = .ok acc' ∧ SpecFields T acc'.2
  | [], _, _, _, acc, _, _, _, _, _, hacc => ⟨acc, rfl, hacc⟩
  | (f, t) :: fs, tName, index, i, acc, all, n, h, hdrop, hv, hacc => by
    have hget : all[i]? = some (f, t) := by
      rw [← Nat.add_zero i, ← List.getElem?_drop, hdrop, List.getElem?_cons_zero]
    have hft : T.fieldType (index ++ [i]) = some t := by
      simp [GoType.fieldType_append, h, GoType.fieldType, hget]
    have hrest : all.drop (i + 1) = fs := by
      rw [← List.drop_drop, hdrop]; rfl
    simp only [GoType.fieldsTagsValid, Bool.and_eq_true] at hv
    obtain ⟨⟨hv1, hv2⟩, hv3⟩ := hv
    simp only [compileFields]
    split_ifs
    · exact compileFields_fields fs tName index (i + 1) acc all n h hrest hv3 hacc
    · obtain ⟨acc1, he, hacc1⟩ := compileEmbedded_fields t (index ++ [i]) acc hft hv2 hacc
      rw [he]
      exact compileFields_fields fs tName index (i + 1) acc1 all n h hrest hv3 hacc1
    · obtain ⟨acc1, he, hacc1⟩ := compileField_fields tName index i (by rw [hft]; rfl) hv1 hacc
      rw [he]
      exact compileFields_fields fs tName index (i + 1) acc1 all n h hrest hv3 hacc1
end

/-- `structSpecForType` returns on a struct type with valid tags, and its spec names fields of
the type only. -/
theorem structSpecForType_fields {n : String} {fs : List (FieldHeader × GoType)}
    (hv : (GoType.strct n fs).tagsValid) :
    ∃ ss, structSpecForType (.strct n fs) = .ok ss ∧ SpecFields (.strct n fs) ss := by
  obtain ⟨acc, he, hacc⟩ := compileEmbedded_fields (.strct n fs) []
    (fun _ => none, ⟨fun _ => none, []⟩) rfl hv ⟨nofun, fun _ _ => nofun⟩
  exact ⟨acc.2, by simp [structSpecForType, he, Except.map], hacc⟩

theorem lookupFields_fields {t : GoType} {ss : StructSpec} (hss : SpecFields t ss)
    {names : List GoString} {fss : List FieldSpec} (h : lookupFields ss names = .ok fss) :
    ∀ fs ∈ fss, (t.fieldType fs.index).isSome := by
  induction names using lookupFields.induct ss generalizing fss with
  | case1 => cases h; nofun
  | case2 name names hname => simp [lookupFields, hname] at h
  | case3 name names fs hfs ih =>
    simp only [lookupFields, hfs] at h
    cases hr : lookupFields ss names with
    | error e => simp [hr, Except.map] at h
    | ok r =>
      simp only [hr, Except.map, Except.ok.injEq] at h
      subst h
      intro f hf
      rcases List.mem_cons.mp hf with rfl | hf
      · exact hss.2 _ _ hfs
      · exact ih hr f hf

theorem sliceStruct_eq_some {elem : GoType} {isPtr : Bool} {n : String}
    {fs : List (FieldHeader × GoType)} (h : sliceStruct elem = some (isPtr, n, fs)) :
    elem = if isPtr then .ptr (.strct n fs) else .strct n fs := by
  unfold sliceStruct at h
  split at h <;> cases h <;> rfl

/-! ## The scan loops -/

section loops

variable (parseFloat : GoString → Nat → Parsed Float)

theorem scanStructPairs_badKey (ss : StructSpec) (t : GoType) (i : ℕ) {name s : Reply}
    (rest : List Reply) (v : GoValue) (hs : s ≠ .nil) (hname : ∀ key, name ≠ .bytes key) :
    scanStructPairs parseFloat ss t i (name :: s :: rest) v = .ok (v, some (.structKey i)) := by
  cases s <;> cases name <;> first | exact absurd rfl hs | exact absurd rfl (hname _) | rfl

theorem scanStructPairs_typed {ss : StructSpec} {t : GoType} (hss : SpecFields t ss) :
    ∀ (i : ℕ) (src : List Reply) (v : GoValue), src.length % 2 = 0 → v.Typed t →
      ∃ v' e, scanStructPairs parseFloat ss t i src v = .ok (v', e) ∧ v'.Typed t
  | _, [], v, _, hv => ⟨v, _, rfl, hv⟩
  | _, [_], _, heven, _ => absurd heven (by simp)
  | i, name :: s :: rest, v, heven, hv => by
    have hrest : rest.length % 2 = 0 := by simp only [List.length_cons] at heven; omega
    by_cases hs : s = .nil
    · subst hs; exact scanStructPairs_typed hss (i + 2) rest v hrest hv
    by_cases hname : ∃ key, name = .bytes key
    · obtain ⟨key, rfl⟩ := hname
      rw [scanStructPairs_pair parseFloat ss t i key rest v hs]
      cases hkey : ss.m key with
      | none => exact scanStructPairs_typed hss (i + 2) rest v hrest hv
      | some fs =>
        obtain ⟨ft, hft⟩ := Option.isSome_iff_exists.mp (hss.2 key fs hkey)
        obtain ⟨fv, hfv, hfvt⟩ := hv.fieldByIndex_some hft
        obtain ⟨x, e, hx, hxt⟩ := convertAssignValue_typed parseFloat hfvt hs
        simp only [hfv, hx, bind, Except.bind]
        cases e with
        | none => exact scanStructPairs_typed hss (i + 2) rest _ hrest (hv.setField hft hxt)
        | some e => exact ⟨_, _, rfl, hv.setField hft hxt⟩
    · exact ⟨v, _, scanStructPairs_badKey parseFloat ss t i rest v hs fun k h => hname ⟨k, h⟩, hv⟩

/-- `ScanStruct` into a non-nil pointer to a well-typed struct whose tags are valid returns on
every reply list, and leaves a struct of the same type behind the pointer. -/
theorem ScanStruct_typed {n : String} {fs : List (FieldHeader × GoType)}
    (htags : (GoType.strct n fs).tagsValid) {v : GoValue} (hv : v.Typed (.strct n fs))
    (src : List Reply) :
    ∃ v' e, ScanStruct parseFloat src (some (.ptr (.strct n fs), .ptr (some v))) =
      .ok (some (.ptr (.strct n fs), .ptr (some v')), e) ∧ v'.Typed (.strct n fs) := by
  obtain ⟨ss, hss, hspec⟩ := structSpecForType_fields htags
  simp only [ScanStruct, hss, bind, Except.bind]
  split_ifs with hodd
  · exact ⟨v, _, rfl, hv⟩
  · obtain ⟨v', e, h, hv'⟩ := scanStructPairs_typed parseFloat hspec 0 src v (not_not.mp hodd) hv
    exact ⟨v', e, by rw [h]; rfl, hv'⟩

theorem ScanStruct_typed_int8 :
    let S : GoType := .strct "main.S" [(⟨"A", true, false, "a,omitempty"⟩, .int8)]
    S.tagsValid ∧ S.zero.Typed S ∧
      ∃ v' e, ScanStruct (fun _ _ => (0, none)) [.bytes (.ofString "a"), .bytes (.ofString "300")]
        (some (.ptr S, .ptr (some S.zero))) = .ok (some (.ptr S, .ptr (some v')), e) ∧
        v'.Typed S := by
  intro S
  exact ⟨by decide, GoType.zero_typed S, ScanStruct_typed _ (by decide) (GoType.zero_typed S) _⟩

theorem scanSliceElems_typed {elem : GoType} (i : ℕ) (src : List Reply) (b : List GoValue)
    (hb : ∀ x ∈ b, x.Typed elem) :
    ∃ b' e, scanSliceElems parseFloat elem i src b = .ok (b', e) ∧ b'.length = b.length ∧
      ∀ x ∈ b', x.Typed elem := by
  induction i, src, b using scanSliceElems.induct parseFloat elem with
  | case1 => exact ⟨_, _, rfl, rfl, hb⟩
  | case2 i ss b ih => exact ih hb
  | case3 i s ss b hs ih =>
    obtain ⟨x, e, hx, hxt⟩ :=
      convertAssignValue_typed parseFloat (getD_typed hb i (GoType.zero_typed elem)) hs
    rw [scanSliceElems_cons parseFloat elem i ss b hs]
    simp only [hx, bind, Except.bind]
    cases e with
    | none =>
      obtain ⟨b', e', h, hlen, hb'⟩ := ih x (set_typed hb i hxt)
      exact ⟨b', e', h, hlen.trans (List.length_set ..), hb'⟩
    | some e => exact ⟨_, _, rfl, List.length_set .., set_typed hb i hxt⟩

theorem scanElemFields_cons (t : GoType) (base j : ℕ) (fs : FieldSpec) (fss : List FieldSpec)
    {s : Reply} (src : List Reply) (v : GoValue) (hs : s ≠ .nil) :
    scanElemFields parseFloat t base j (fs :: fss) (s :: src) v = (do
      let (x, err) ← convertAssignValue parseFloat (fieldByIndex t v fs.index) s
      match err with
      | some e => pure (v.setField fs.index x, some (.sliceField (base + j) fs.name e))
      | none => scanElemFields parseFloat t base (j + 1) fss src (v.setField fs.index x)) := by
  cases s <;> first | rfl | exact absurd rfl hs

theorem scanElemFields_typed {t : GoType} (base : ℕ) :
    ∀ (j : ℕ) (fss : List FieldSpec) (src : List Reply) (v : GoValue),
      (∀ fs ∈ fss, (t.fieldType fs.index).isSome) → fss.length ≤ src.length → v.Typed t →
      ∃ v' e, scanElemFields parseFloat t base j fss src v = .ok (v', e) ∧ v'.Typed t
  | _, [], _, v, _, _, hv => ⟨v, _, rfl, hv⟩
  | _, _ :: _, [], _, _, hlen, _ => absurd hlen (by simp)
  | j, fs :: fss, s :: src, v, hfss, hlen, hv => by
    have hfss' : ∀ f ∈ fss, (t.fieldType f.index).isSome := fun f hf =>
      hfss f (List.mem_cons_of_mem _ hf)
    have hlen' : fss.length ≤ src.length := by simpa using hlen
    by_cases hs : s = .nil
    · subst hs; exact scanElemFields_typed base (j + 1) fss src v hfss' hlen' hv
    obtain ⟨ft, hft⟩ := Option.isSome_iff_exists.mp (hfss fs (List.mem_cons_self _ _))
    obtain ⟨fv, hfv, hfvt⟩ := hv.fieldByIndex_some hft
    obtain ⟨x, e, hx, hxt⟩ := convertAssignValue_typed parseFloat hfvt hs
    rw [scanElemFields_cons parseFloat t base j fs fss src v hs]
    simp only [hfv, hx, bind, Except.bind]
    cases e with
    | none => exact scanElemFields_typed base (j + 1) fss src _ hfss' hlen' (hv.setField hft hxt)
    | some e => exact ⟨_, _, rfl, hv.setField hft hxt⟩

theorem scanStructElems_typed {t : GoType} {isPtr : Bool} {fss : List FieldSpec}
    {src : List Reply} (hfss : ∀ fs ∈ fss, (t.fieldType fs.index).isSome) (m i : ℕ)
    (b : List GoValue) (hb : ∀ x ∈ b, x.Typed (if isPtr then .ptr t else t))
    (hi : i + m ≤ b.length) (hsrc : (i + m) * fss.length ≤ src.length) :
    ∃ b' e, scanStructElems parseFloat t isPtr fss src m i b = .ok (b', e) ∧
      b'.length = b.length ∧ ∀ x ∈ b', x.Typed (if isPtr then .ptr t else t) := by
  induction m, i, b using scanStructElems.induct parseFloat t isPtr fss src with
  | case1 => exact ⟨_, _, rfl, rfl, hb⟩
  | case2 m i b ih =>
    have hik : i * fss.length + fss.length ≤ src.length :=
      calc i * fss.length + fss.length = (i + 1) * fss.length := (Nat.succ_mul ..).symm
        _ ≤ (i + (m + 1)) * fss.length := Nat.mul_le_mul_right _ (by omega)
        _ ≤ src.length := hsrc
    have hel : (elemStruct t isPtr (b.getD i .other)).Typed t := by
      rw [List.getD_eq_getElem _ _ (by omega)]
      exact GoValue.Typed.elemStruct (hb _ (List.getElem_mem ..))
    obtain ⟨x, e, hx, hxt⟩ := scanElemFields_typed parseFloat (i * fss.length) 0 fss
      (src.drop (i * fss.length)) _ hfss (by simp only [List.length_drop]; omega) hel
    have hset := @set_typed _ _ hb i (if isPtr then .ptr (some x) else x)
      (by cases isPtr with | false => exact hxt | true => exact .ptr hxt)
    simp only [scanStructElems, hx, bind, Except.bind]
    cases e with
    | some e => exact ⟨_, _, rfl, List.length_set .., hset⟩
    | none =>
      obtain ⟨b', e', h, hlen, hb'⟩ := ih x hset (by simp only [List.length_set]; omega)
        (by rw [show i + 1 + m = i + (m + 1) by omega]; exact hsrc)
      exact ⟨b', e', h, hlen.trans (List.length_set ..), hb'⟩

/-- `ScanSlice` into a non-nil pointer to a well-typed slice whose element type has valid tags
returns on every reply list and every list of field names, and leaves a slice of the same type
behind the pointer. -/
theorem ScanSlice_typed {elem : GoType} (htags : elem.tagsValid) {v : GoValue}
    (hv : v.Typed (.slice elem)) (src : List Reply) (fieldNames : List GoString) :
    ∃ v' e, ScanSlice parseFloat src (some (.ptr (.slice elem), .ptr (some v))) fieldNames =
      .ok (some (.ptr (.slice elem), .ptr (some v')), e) ∧ v'.Typed (.slice elem) := by
  simp only [ScanSlice]
  split
  · obtain ⟨b', e, h, hlen, hb'⟩ :=
      scanSliceElems_typed parseFloat 0 src _ (ensureLen_typed hv src.length)
    exact ⟨_, _, by rw [h]; rfl, .slice (hlen ▸ ensureLen_length ..) hb'⟩
  · rename_i isPtr n fs hsl
    have helem := sliceStruct_eq_some hsl
    have htags' : (GoType.strct n fs).tagsValid := by
      cases isPtr <;> simp only [helem, if_true, if_false, GoType.tagsValid] at htags ⊢ <;>
        exact htags
    obtain ⟨ss, hss, hspec⟩ := structSpecForType_fields htags'
    have hfss : ∀ fss, (if fieldNames = [] then .ok ss.l else lookupFields ss fieldNames) =
        Except.ok fss → ∀ f ∈ fss, ((GoType.strct n fs).fieldType f.index).isSome := by
      intro fss h
      split_ifs at h
      · cases h; exact hspec.1
      · exact lookupFields_fields hspec h
    simp only [hss, bind, Except.bind]
    split
    · exact ⟨v, _, rfl, hv⟩
    · exact ⟨v, _, rfl, hv⟩
    · rename_i fss _ hres
      split_ifs with hmul
      · exact ⟨v, _, rfl, hv⟩
      · have hb : ∀ x ∈ ensureLen elem v (src.length / fss.length),
            x.Typed (if isPtr then .ptr (.strct n fs) else .strct n fs) := by
          rw [← helem]; exact ensureLen_typed hv _
        obtain ⟨b', e, h, hlen, hb'⟩ := scanStructElems_typed parseFloat (hfss fss hres)
          (src.length / fss.length) 0 _ hb (by simpa using ensureLen_length ..)
          (by rw [Nat.zero_add]; exact (not_not.mp hmul).le)
        rw [← helem] at hb'
        exact ⟨_, _, by rw [h]; rfl, .slice (hlen ▸ ensureLen_length ..) hb'⟩

theorem ScanSlice_typed_ptrElems :
    let S : GoType := .strct "main.S" [(⟨"A", true, false, ""⟩, .int8)]
    (GoType.ptr S).tagsValid ∧ (GoValue.slice 0 []).Typed (.slice (.ptr S)) ∧
      ∃ v' e, ScanSlice (fun _ _ => (0, none)) [.bytes (.ofString "7"), .nil]
        (some (.ptr (.slice (.ptr S)), .ptr (some (.slice 0 [])))) [] =
        .ok (some (.ptr (.slice (.ptr S)), .ptr (some v')), e) ∧ v'.Typed (.slice (.ptr S)) := by
  intro S
  have hv : (GoValue.slice 0 []).Typed (.slice (.ptr S)) := .slice (Nat.zero_le _) nofun
  exact ⟨by decide, hv, ScanSlice_typed _ (by decide) hv _ _⟩

end loops

end GrabRedis
