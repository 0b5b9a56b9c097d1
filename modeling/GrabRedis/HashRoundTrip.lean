import GrabRedis.StringReplies

/-!
# A struct through `AddFlat`, `HSET`, `HGETALL` and `ScanStruct`

`AddFlat` writes the listed fields of a struct, leaving out an empty `omitempty` one, and
`HSET` stores them as pairs. go-redis hands `HGETALL`'s pairs back as Go strings, and
`ScanStruct` refuses the first of them as a field name. The same pairs as `[]byte`, the type
the scanner was written for, bring back a struct of integer, `bool` and `string` fields.
-/
namespace GrabRedis

set_option autoImplicit false

/-! ## Names as bytes -/

/-- The bytes `String.utf8EncodeChar` writes for the code point `v`, as numbers. -/
def utf8Bytes (v : Nat) : List Nat :=
  if v ≤ 0x7f then [v]
  else if v ≤ 0x7ff then [v / 64 % 32 + 192, v % 64 + 128]
  else if v ≤ 0xffff then [v / 4096 % 16 + 224, v / 64 % 64 + 128, v % 64 + 128]
  else [v / 262144 % 8 + 240, v / 4096 % 64 + 128, v / 64 % 64 + 128, v % 64 + 128]

theorem UInt32.toNat_shiftRight_of_lt (v k : UInt32) (hk : k.toNat < 32) :
    (v >>> k).toNat = v.toNat / 2 ^ k.toNat := by
  show (v.toBitVec >>> (UInt32.mod k 32).toBitVec.toNat).toNat = _
  simp only [UInt32.mod, BitVec.toNat_ushiftRight, Nat.shiftRight_eq_div_pow, BitVec.toNat_umod]
  show v.toNat / 2 ^ (k.toNat % 32) = _
  rw [Nat.mod_eq_of_lt hk]

theorem UInt8.toNat_and_or (x m o : UInt8) :
    (x &&& m ||| o).toNat = (x.toNat &&& m.toNat) ||| o.toNat := by
  show (x.toBitVec &&& m.toBitVec ||| o.toBitVec).toNat = _
  simp only [BitVec.toNat_or, BitVec.toNat_and]
  rfl

theorem or_two_pow_mul {y k c : Nat} (hy : y < 2 ^ k) : y ||| 2 ^ k * c = y + 2 ^ k * c := by
  rw [Nat.lor_comm, ← Nat.mul_add_lt_is_or hy, Nat.add_comm]

theorem UInt8.toNat_and_or_eq (x m o : UInt8) (j c : Nat) (hm : m.toNat = 2 ^ j - 1)
    (ho : o.toNat = 2 ^ j * c) : (x &&& m ||| o).toNat = x.toNat % 2 ^ j + 2 ^ j * c := by
  rw [UInt8.toNat_and_or, hm, ho, Nat.and_pow_two_sub_one_eq_mod,
    or_two_pow_mul (Nat.mod_lt _ (Nat.two_pow_pos j))]

theorem UInt32.toNat_toUInt8 (v : UInt32) : v.toUInt8.toNat = v.toNat % 256 := by
  simp [UInt32.toUInt8, Nat.toUInt8, UInt8.toNat, UInt8.ofNat]

theorem UInt32.le_iff_toNat_le (v w : UInt32) : v ≤ w ↔ v.toNat ≤ w.toNat := by
  simp only [UInt32.le_def, BitVec.le_def]; rfl

theorem utf8EncodeChar_toNat (c : Char) :
    (String.utf8EncodeChar c).map UInt8.toNat = utf8Bytes c.val.toNat := by
  have h6 := UInt32.toNat_shiftRight_of_lt c.val 6 (by decide)
  have h12 := UInt32.toNat_shiftRight_of_lt c.val 12 (by decide)
  have h18 := UInt32.toNat_shiftRight_of_lt c.val 18 (by decide)
  have cont := fun x : UInt8 => UInt8.toNat_and_or_eq x 0x3f 0x80 6 2 rfl rfl
  have l2 := fun x : UInt8 => UInt8.toNat_and_or_eq x 0x1f 0xc0 5 6 rfl rfl
  have l3 := fun x : UInt8 => UInt8.toNat_and_or_eq x 0x0f 0xe0 4 14 rfl rfl
  have l4 := fun x : UInt8 => UInt8.toNat_and_or_eq x 0x07 0xf0 3 30 rfl rfl
  have k : (0x7f : UInt32).toNat = 0x7f ∧ (0x7ff : UInt32).toNat = 0x7ff ∧
      (0xffff : UInt32).toNat = 0xffff ∧ (6 : UInt32).toNat = 6 ∧ (12 : UInt32).toNat = 12 ∧
      (18 : UInt32).toNat = 18 := ⟨rfl, rfl, rfl, rfl, rfl, rfl⟩
  simp only [String.utf8EncodeChar, utf8Bytes, UInt32.le_iff_toNat_le, k.1, k.2.1, k.2.2.1]
  split_ifs <;> simp only [List.map_cons, List.map_nil, cont, l2, l3, l4, UInt32.toNat_toUInt8,
    h6, h12, h18, k.2.2.2.1, k.2.2.2.2.1, k.2.2.2.2.2, List.cons.injEq, and_true] <;> omega

/-- Reading one code point off the front of UTF-8 bytes: the first byte says how many follow. -/
def utf8Decode : List Nat → Option (Nat × List Nat)
  | [] => none
  | b₀ :: bs =>
    if b₀ < 0x80 then some (b₀, bs)
    else if b₀ < 0xe0 then
      match bs with
      | b₁ :: r => some ((b₀ - 0xc0) * 64 + (b₁ - 0x80), r)
      | _ => none
    else if b₀ < 0xf0 then
      match bs with
      | b₁ :: b₂ :: r => some (((b₀ - 0xe0) * 64 + (b₁ - 0x80)) * 64 + (b₂ - 0x80), r)
      | _ => none
    else
      match bs with
      | b₁ :: b₂ :: b₃ :: r =>
        some ((((b₀ - 0xf0) * 64 + (b₁ - 0x80)) * 64 + (b₂ - 0x80)) * 64 + (b₃ - 0x80), r)
      | _ => none

theorem utf8Decode_utf8Bytes {v : Nat} (hv : v < 0x110000) (r : List Nat) :
    utf8Decode (utf8Bytes v ++ r) = some (v, r) := by
  unfold utf8Bytes
  split_ifs with h1 h2 h3
  · simp only [List.singleton_append, utf8Decode, if_pos (show v < 0x80 by omega)]
  · simp only [List.cons_append, List.singleton_append, utf8Decode,
      if_neg (show ¬v / 64 % 32 + 192 < 0x80 by omega), if_pos (show v / 64 % 32 + 192 < 0xe0 by omega)]
    simp only [Option.some.injEq, Prod.mk.injEq, List.nil_append, and_true]
    omega
  · simp only [List.cons_append, List.singleton_append, utf8Decode,
      if_neg (show ¬v / 4096 % 16 + 224 < 0x80 by omega),
      if_neg (show ¬v / 4096 % 16 + 224 < 0xe0 by omega),
      if_pos (show v / 4096 % 16 + 224 < 0xf0 by omega)]
    simp only [Option.some.injEq, Prod.mk.injEq, List.nil_append, and_true]
    omega
  · simp only [List.cons_append, List.singleton_append, utf8Decode,
      if_neg (show ¬v / 262144 % 8 + 240 < 0x80 by omega),
      if_neg (show ¬v / 262144 % 8 + 240 < 0xe0 by omega),
      if_neg (show ¬v / 262144 % 8 + 240 < 0xf0 by omega)]
    simp only [Option.some.injEq, Prod.mk.injEq, List.nil_append, and_true]
    omega

theorem utf8Bytes_ne_nil (v : Nat) : utf8Bytes v ≠ [] := by
  unfold utf8Bytes; split_ifs <;> simp

theorem char_val_toNat_lt (c : Char) : c.val.toNat < 0x110000 := by
  have := c.valid
  simp only [UInt32.isValidChar, Nat.isValidChar] at this
  omega

theorem flatMap_utf8Bytes_inj : ∀ {l₁ l₂ : List Char},
    l₁.flatMap (fun c => utf8Bytes c.val.toNat) = l₂.flatMap (fun c => utf8Bytes c.val.toNat) →
      l₁ = l₂
  | [], [], _ => rfl
  | [], d :: _, h => by simp [utf8Bytes_ne_nil] at h
  | c :: _, [], h => by simp [utf8Bytes_ne_nil] at h
  | c :: _, d :: _, h => by
    simp only [List.flatMap_cons] at h
    have hdec := congrArg utf8Decode h
    rw [utf8Decode_utf8Bytes (char_val_toNat_lt c), utf8Decode_utf8Bytes (char_val_toNat_lt d),
      Option.some.injEq, Prod.mk.injEq] at hdec
    obtain ⟨hcd, hl⟩ := hdec
    rw [Char.ext (UInt32.toNat.inj hcd), flatMap_utf8Bytes_inj hl]

/-- Distinct names have distinct bytes. -/
theorem GoString.ofString_injective : Function.Injective GoString.ofString := by
  intro s t h
  have hmap := congrArg (List.map UInt8.toNat) h
  simp only [GoString.ofString, List.map_flatMap, utf8EncodeChar_toNat] at hmap
  exact String.ext (flatMap_utf8Bytes_inj hmap)

/-! ## The spec's map follows its list -/

def StructSpec.Consistent (ss : StructSpec) : Prop :=
  ∀ name, ss.m (.ofString name) = (ss.l.filter (·.name = name)).getLast?

/-- What the `default` case of `compileStructSpec` can do to the spec: nothing, remove a name
found again at the same depth, or add a field. -/
theorem compileField_cases {tName : String} {index : List Nat} {i : Nat} {f : FieldHeader}
    {acc acc' : SpecState} (h : compileField tName index i f acc = .ok acc') :
    acc'.2 = acc.2 ∨
      (∃ name, acc'.2 = ⟨Function.update acc.2.m (.ofString name) none,
        acc.2.l.filter (·.name ≠ name)⟩) ∨
      ∃ fs : FieldSpec, acc'.2 = ⟨Function.update acc.2.m (.ofString fs.name) (some fs),
        acc.2.l ++ [fs]⟩ := by
  unfold compileField at h
  dsimp only at h
  repeat' split at h
  all_goals first
    | (cases h; exact .inl rfl)
    | (cases h; exact .inr (.inl ⟨_, rfl⟩))
    | (cases h; exact .inr (.inr ⟨⟨_, _, _⟩, rfl⟩))
    | nomatch h

theorem StructSpec.Consistent.compileField {tName : String} {index : List Nat} {i : Nat}
    {f : FieldHeader} {acc acc' : SpecState} (hc : acc.2.Consistent)
    (h : compileField tName index i f acc = .ok acc') : acc'.2.Consistent := by
  rcases compileField_cases h with h' | ⟨name, h'⟩ | ⟨fs, h'⟩ <;> rw [h'] <;> intro name'
  · exact hc name'
  · dsimp only
    by_cases hn : name' = name
    · subst hn; simp [List.filter_filter]
    · rw [Function.update_noteq (fun heq => hn (GoString.ofString_injective heq)), hc name']
      simp only [List.filter_filter]
      congr 2
      funext e
      by_cases he : e.name = name' <;> simp [he, hn]
  · dsimp only
    by_cases hn : name' = fs.name
    · subst hn; simp [List.filter_append]
    · rw [Function.update_noteq (fun heq => hn (GoString.ofString_injective heq)), hc name']
      simp [List.filter_append, Ne.symm hn]

mutual
theorem StructSpec.Consistent.compileEmbedded : (t : GoType) → ∀ {index : List Nat}
    {acc acc' : SpecState}, acc.2.Consistent → compileEmbedded t index acc = .ok acc' →
      acc'.2.Consistent
  | .strct n fs, _, _, _, hc, h => StructSpec.Consistent.compileFields fs hc h
  | .int, _, _, _, hc, h | .int8, _, _, _, hc, h | .int16, _, _, _, hc, h
  | .int32, _, _, _, hc, h | .int64, _, _, _, hc, h | .uint, _, _, _, hc, h
  | .uint8, _, _, _, hc, h | .uint16, _, _, _, hc, h | .uint32, _, _, _, hc, h
  | .uint64, _, _, _, hc, h | .float32, _, _, _, hc, h | .float64, _, _, _, hc, h
  | .bool, _, _, _, hc, h | .string, _, _, _, hc, h | .slice _, _, _, _, hc, h
  | .iface, _, _, _, hc, h | .ptr _, _, _, _, hc, h | .other _, _, _, _, hc, h => by
    cases h; exact hc

theorem StructSpec.Consistent.compileFields : (fs : List (FieldHeader × GoType)) →
    ∀ {tName : String} {index : List Nat} {i : Nat} {acc acc' : SpecState},
      acc.2.Consistent → compileFields tName index i fs acc = .ok acc' → acc'.2.Consistent
  | [], _, _, _, _, _, hc, h => by cases h; exact hc
  | (f, t) :: fs, tName, index, i, acc, acc', hc, h => by
    simp only [GrabRedis.compileFields] at h
    split_ifs at h
    · exact StructSpec.Consistent.compileFields fs hc h
    · split at h
      · cases h
      · exact StructSpec.Consistent.compileFields fs
          (StructSpec.Consistent.compileEmbedded t hc ‹_›) h
    · split at h
      · cases h
      · exact StructSpec.Consistent.compileFields fs (hc.compileField ‹_›) h
end

theorem structSpecForType_consistent {t : GoType} {ss : StructSpec}
    (h : structSpecForType t = .ok ss) : ss.Consistent := by
  unfold structSpecForType at h
  cases he : GrabRedis.compileEmbedded t [] (fun _ => none, ⟨fun _ => none, []⟩) with
  | error e => simp [he, Except.map] at h
  | ok acc =>
    simp only [he, Except.map, Except.ok.injEq] at h
    subst h
    exact StructSpec.Consistent.compileEmbedded t (fun _ => rfl) he

theorem StructSpec.Consistent.lookup {ss : StructSpec} (hc : ss.Consistent)
    (hnames : (ss.l.map (·.name)).Nodup) {e : FieldSpec} (he : e ∈ ss.l) :
    ss.m (.ofString e.name) = some e := by
  rw [hc e.name]
  suffices ∀ l : List FieldSpec, (l.map (·.name)).Nodup → e ∈ l → l.filter (·.name = e.name) = [e] by
    rw [this ss.l hnames he]; rfl
  intro l hl hel
  induction l with
  | nil => cases hel
  | cons x l ih =>
    simp only [List.map_cons, List.nodup_cons, List.mem_map, not_exists, not_and] at hl
    rcases List.mem_cons.mp hel with rfl | hel
    · simp only [List.filter_cons, decide_True, if_true, List.cons.injEq, true_and]
      exact List.filter_eq_nil_iff.mpr fun y hy => by simpa using fun h => hl.1 y hy h
    · have hx : x.name ≠ e.name := fun h => hl.1 e hel h.symm
      simp [List.filter_cons, hx, ih hl.2 hel]

/-! ## Fields apart from each other -/

/-- The kinds whose values `WriteArg` writes as text that `ScanStruct` parses back to the same
value: the integers, `bool` and `string`. -/
def GoType.isTextScalar : GoType → Bool
  | .int | .int8 | .int16 | .int32 | .int64 | .uint | .uint8 | .uint16 | .uint32 | .uint64
  | .bool | .string => true
  | _ => false

theorem GoType.fieldType_append_of_isTextScalar {t ft : GoType} {p : List Nat}
    (h : t.fieldType p = some ft) (hs : ft.isTextScalar) (j : Nat) (r : List Nat) :
    t.fieldType (p ++ j :: r) = none := by
  rw [GoType.fieldType_append, h, Option.some_bind]
  cases ft with
  | strct => exact absurd hs Bool.false_ne_true
  | _ => rfl

theorem GoValue.field_setField_self :
    ∀ {v : GoValue} {p : List Nat} {x fv : GoValue}, v.field p = some fv →
      (v.setField p x).field p = some x
  | v, [], _, _, _ => by cases v <;> rfl
  | .strct fs, i :: is, x, fv, h => by
    obtain ⟨f, hf, h'⟩ := Option.bind_eq_some.mp h
    have hi : i < fs.length := (List.getElem?_eq_some_iff.mp hf).1
    simp only [GoValue.setField, hf, GoValue.field, List.getElem?_set_self hi, Option.some_bind]
    exact GoValue.field_setField_self h'

theorem GoValue.field_setField_of_not_prefix :
    ∀ {v : GoValue} {p q : List Nat} {x : GoValue}, ¬p <+: q → ¬q <+: p →
      (v.setField p x).field q = v.field q
  | _, [], _, _, hpq, _ => absurd (List.nil_prefix) hpq
  | _, _ :: _, [], _, _, hqp => absurd (List.nil_prefix) hqp
  | .strct fs, i :: is, j :: js, x, hpq, hqp => by
    simp only [GoValue.setField, GoValue.field]
    cases hf : fs[i]? with
    | none => rfl
    | some f =>
      dsimp only
      rcases eq_or_ne i j with rfl | hij
      · have hi : i < fs.length := (List.getElem?_eq_some_iff.mp hf).1
        rw [List.getElem?_set_self hi, hf, Option.some_bind, Option.some_bind]
        exact GoValue.field_setField_of_not_prefix (fun h => hpq (List.prefix_cons_inj i |>.mpr h))
          (fun h => hqp (List.prefix_cons_inj i |>.mpr h))
      · rw [List.getElem?_set_ne hij]
  | .int _, _ :: _, _ :: _, _, _, _ | .uint _, _ :: _, _ :: _, _, _, _
  | .float _, _ :: _, _ :: _, _, _, _ | .bool _, _ :: _, _ :: _, _, _, _
  | .str _, _ :: _, _ :: _, _, _, _ | .slice _ _, _ :: _, _ :: _, _, _, _
  | .iface _, _ :: _, _ :: _, _, _, _ | .ptr _, _ :: _, _ :: _, _, _, _
  | .other, _ :: _, _ :: _, _, _, _ => rfl

theorem GoType.zeroFields_eq_map (fs : List (FieldHeader × GoType)) :
    GoType.zeroFields fs = fs.map (·.2.zero) := by
  induction fs with
  | nil => rfl
  | cons f fs ih => obtain ⟨_, _⟩ := f; simp [GoType.zeroFields, ih]

theorem GoType.zero_field : ∀ {t : GoType} {p : List Nat} {ft : GoType},
    t.fieldType p = some ft → t.zero.field p = some ft.zero
  | _, [], _, h => by cases h; rfl
  | .strct _ fs, i :: is, ft, h => by
    obtain ⟨f, hf, h'⟩ := Option.bind_eq_some.mp h
    simp only [GoType.zero, GoValue.field, GoType.zeroFields_eq_map, List.getElem?_map, hf,
      Option.map_some', Option.some_bind]
    exact GoType.zero_field h'

theorem GoValue.eq_zero_of_isEmpty {fv : GoValue} {ft : GoType} (hv : fv.Typed ft)
    (hs : ft.isTextScalar) (he : fv.isEmpty) : fv = ft.zero := by
  cases hv with
  | @int x _ _ hb =>
    obtain rfl : x = 0 := by simpa [GoValue.isEmpty] using he
    cases ft <;> first | rfl | cases hb
  | @uint x _ _ hb =>
    obtain rfl : x = 0 := by simpa [GoValue.isEmpty] using he
    cases ft <;> first | rfl | cases hb
  | bool => simpa [GoValue.isEmpty, GoType.zero] using he
  | str => simpa [GoValue.isEmpty, GoType.zero, List.isEmpty_iff] using he
  | float hb => cases ft <;> first | exact absurd hs (by decide) | cases hb
  | slice | iface | ptrNil | ptr | strct | other => exact absurd hs Bool.false_ne_true

/-! ## `HSET` and `HGETALL` -/

/-- The error Redis answers a `HSET` whose fields and values do not pair up. -/
def hsetArity : GoError := .redis "ERR wrong number of arguments for \x27hset\x27 command"

section wire

variable (formatFloat : Float → GoString)

/-- Modelled from go-redis's documentation: the bulk string `proto.Writer.WriteArg` writes for
an argument, by its dynamic type: `nil` as the empty string, a `string` or `[]byte` as its bytes,
an integer in decimal, a float as `formatFloat` writes it, a `bool` as `1` or `0`. Any other
value is refused. -/
def writeArg : Arg → Except GoError GoString
  | (_, .iface .nil) => .ok []
  | (_, .iface (.str s)) | (_, .iface (.bytes s)) => .ok s
  | (_, .iface (.int x)) => .ok (formatInt x.1)
  | (_, .iface r) =>
    .error (.other ("redis: can\x27t marshal " ++ r.goTypeName ++
      " (implement encoding.BinaryMarshaler)"))
  | (.string, .str s) => .ok s
  | (.slice .uint8, .slice n b) => .ok ((b.take n).map fun | .uint x => UInt8.ofNat x | _ => 0)
  | (_, .int x) => .ok (formatInt x)
  | (_, .uint x) => .ok (formatUint x)
  | (_, .float f) => .ok (formatFloat f)
  | (.bool, .bool b) => .ok (.ofString (if b then "1" else "0"))
  | (t, _) =>
    .error (.other ("redis: can\x27t marshal " ++ t.name ++
      " (implement encoding.BinaryMarshaler)"))

/-- The loop over the field-value pairs of `HSET`: go-redis refuses the command at the first
argument it cannot write, and Redis a field without a value. -/
def hsetLoop : List Arg → Except GoError (List (GoString × GoString))
  | [] => .ok []
  | [a] => (writeArg formatFloat a).bind fun _ => .error hsetArity
  | a :: b :: rest => do
    let k ← writeArg formatFloat a
    let x ← writeArg formatFloat b
    let r ← hsetLoop rest
    pure ((k, x) :: r)

/-- The pairs `HSET key args...` stores in a new hash; Redis refuses the command with no pair. -/
def hset (args : List Arg) : Except GoError (List (GoString × GoString)) :=
  if args.isEmpty then .error hsetArity else hsetLoop formatFloat args

end wire

/-- `HGETALL` as go-redis returns it through `Do`: the hash's fields and values as Go strings,
one pair after the other. -/
def hgetall (ps : List (GoString × GoString)) : List Reply :=
  flattenPairs (ps.map fun p => (.str p.1, .str p.2))

/-- `ScanStruct` stops at the first pair of `HGETALL`'s reply: its name is a string, not the
`[]byte` the loop expects, so the destination is left as it was. -/
theorem ScanStruct_hgetall (parseFloat : GoString → Nat → Parsed Float) {n : String}
    {fs : List (FieldHeader × GoType)} {ss : StructSpec} (hss : structSpecForType (.strct n fs) = .ok ss)
    {ps : List (GoString × GoString)} (hps : ps ≠ []) (w : GoValue) :
    ScanStruct parseFloat (hgetall ps) (some (.ptr (.strct n fs), .ptr (some w))) =
      .ok (some (.ptr (.strct n fs), .ptr (some w)), some (.structKey 0)) := by
  obtain ⟨p, ps, rfl⟩ := List.exists_cons_of_ne_nil hps
  have heven : (hgetall (p :: ps)).length % 2 = 0 := by simp [hgetall, flattenPairs_length]
  simp only [ScanStruct, hss, heven, bind, Except.bind, ne_eq, not_true_eq_false, if_false]
  simp only [hgetall, List.map_cons, flattenPairs_cons]
  rw [scanStructPairs_badKey parseFloat ss _ 0 _ w (by simp) (by simp)]
  rfl

/-! ## A scalar field through the wire -/

def GoValue.text : GoValue → GoString
  | .int x => formatInt x
  | .uint x => formatUint x
  | .bool b => .ofString (if b then "1" else "0")
  | .str s => s
  | _ => []

theorem writeArg_text (formatFloat : Float → GoString) {fv : GoValue} {ft : GoType}
    (hv : fv.Typed ft) (hs : ft.isTextScalar) : writeArg formatFloat (ft, fv) = .ok fv.text := by
  cases hv with
  | int hb | uint hb => cases ft <;> first | rfl | cases hb
  | bool | str => rfl
  | float hb => cases ft <;> first | exact absurd hs Bool.false_ne_true | cases hb
  | slice | iface | ptrNil | ptr | strct | other => exact absurd hs Bool.false_ne_true

theorem parseInt_formatInt_of_intBits {t : GoType} {bits : Nat} (hb : t.intBits = some bits)
    {x : Int} (hlo : -2 ^ (bits - 1) ≤ x) (hhi : x < 2 ^ (bits - 1)) :
    parseInt (formatInt x) bits = (x, none) := by
  have hbits : 2 ≤ bits ∧ bits ≤ 64 := by
    cases t <;> simp only [GoType.intBits, Option.some.injEq, reduceCtorEq] at hb <;> omega
  have h := parseInt_formatInt x (.inr hbits)
  simp only [if_neg (by omega : bits ≠ 0)] at h
  rw [h, if_pos ⟨hlo, hhi⟩]

theorem parseUint_formatUint_of_uintBits {t : GoType} {bits : Nat} (hb : t.uintBits = some bits)
    {x : Nat} (hx : x < 2 ^ bits) : parseUint (formatUint x) bits = (x, none) := by
  have hbits : 1 ≤ bits ∧ bits ≤ 64 := by
    cases t <;> simp only [GoType.uintBits, Option.some.injEq, reduceCtorEq] at hb <;> omega
  have h := parseUint_formatUint x hbits.2
  simp only [if_neg (by omega : bits ≠ 0)] at h
  rw [h, if_pos (by omega)]

section conversions

variable (parseFloat : GoString → Nat → Parsed Float)

theorem convertAssignValue_text {fv fw : GoValue} {ft : GoType} (hv : fv.Typed ft)
    (hs : ft.isTextScalar) :
    convertAssignValue parseFloat (some (ft, fw)) (.bytes fv.text) = .ok (fv, none) := by
  cases hv with
  | int hb hlo hhi =>
    have hf : ft.floatBits = none := by cases ft <;> first | rfl | cases hb
    simp only [convertAssignValue, convertAssignBulkString, convertAssignText, hf, hb,
      GoValue.text, parseInt_formatInt_of_intBits hb hlo hhi, Option.map_none']
  | uint hb hx =>
    have hf : ft.floatBits = none ∧ ft.intBits = none := by
      cases ft <;> first | exact ⟨rfl, rfl⟩ | cases hb
    simp only [convertAssignValue, convertAssignBulkString, convertAssignText, hf.1, hf.2, hb,
      GoValue.text, parseUint_formatUint_of_uintBits hb hx, Option.map_none']
  | bool => cases ‹Bool› <;> rfl
  | str => rfl
  | float hb => cases ft <;> first | exact absurd hs (by decide) | cases hb
  | slice | iface | ptrNil | ptr | strct | other => exact absurd hs Bool.false_ne_true

end conversions

/-! ## What `AddFlat` writes and `HSET` stores -/

/-- The two arguments `flattenStruct` writes for the field `e` of `v`, or none when `omitempty`
leaves it out. -/
def fieldArgs (t : GoType) (v : GoValue) (e : FieldSpec) : List Arg :=
  match t.fieldType e.index, v.field e.index with
  | some ft, some fv =>
    if e.omitEmpty ∧ fv.isEmpty then [] else [(.string, .str (.ofString e.name)), (ft, fv)]
  | _, _ => []

theorem flattenStruct_nil (t : GoType) (v : GoValue) :
    flattenStruct [] t v = (structSpecForType t).map fun ss => ss.l.flatMap (fieldArgs t v) := by
  unfold flattenStruct
  congr 1
  funext ss
  rw [List.flatMap_eq_foldl]
  congr 1
  funext args e
  simp only [fieldArgs]
  rcases t.fieldType e.index with _ | ft <;> rcases v.field e.index with _ | fv <;>
    simp only [List.append_nil]
  split_ifs <;> simp

/-- The pair `HSET` stores for the field `e` of `v`, unless `omitempty` leaves it out. -/
def fieldPairs (t : GoType) (v : GoValue) (e : FieldSpec) : List (GoString × GoString) :=
  match t.fieldType e.index, v.field e.index with
  | some _, some fv => if e.omitEmpty ∧ fv.isEmpty then [] else [(.ofString e.name, fv.text)]
  | _, _ => []

theorem fieldArgs_eq_nil_iff (t : GoType) (v : GoValue) (e : FieldSpec) :
    fieldArgs t v e = [] ↔ fieldPairs t v e = [] := by
  simp only [fieldArgs, fieldPairs]
  rcases t.fieldType e.index with _ | ft <;> rcases v.field e.index with _ | fv <;> simp only
  split_ifs <;> simp

/-- A struct type whose spec `AddFlat` and `ScanStruct` agree on: every field the spec lists is
of a scalar kind, and no name is listed twice. -/
structure TextStruct (t : GoType) (ss : StructSpec) : Prop where
  spec : structSpecForType t = .ok ss
  kinds : ∀ e ∈ ss.l, (t.fieldType e.index).any GoType.isTextScalar
  names : (ss.l.map (·.name)).Nodup

theorem GoValue.field_setField_of_scalar_ne {t : GoType} {p q : List Nat} {fp fq : GoType}
    (hp : t.fieldType p = some fp) (hps : fp.isTextScalar) (hq : t.fieldType q = some fq)
    (hqs : fq.isTextScalar) (hne : p ≠ q) (w x : GoValue) :
    (w.setField p x).field q = w.field q := by
  apply GoValue.field_setField_of_not_prefix
  · rintro ⟨_ | ⟨j, r⟩, rfl⟩
    · exact hne (List.append_nil p).symm
    · rw [GoType.fieldType_append_of_isTextScalar hp hps] at hq; cases hq
  · rintro ⟨_ | ⟨j, r⟩, rfl⟩
    · exact hne (List.append_nil q)
    · rw [GoType.fieldType_append_of_isTextScalar hq hqs] at hp; cases hp

section roundTrip

variable {t : GoType} {ss : StructSpec} (ht : TextStruct t ss) {v : GoValue} (hv : v.Typed t)
include ht hv

theorem TextStruct.field {e : FieldSpec} (he : e ∈ ss.l) :
    ∃ ft fv, t.fieldType e.index = some ft ∧ ft.isTextScalar ∧ v.field e.index = some fv ∧
      fv.Typed ft := by
  have hk := ht.kinds e he
  cases hft : t.fieldType e.index with
  | none => simp [hft] at hk
  | some ft =>
    obtain ⟨fv, hfv, hfvt⟩ := hv.field hft
    exact ⟨ft, fv, rfl, by simpa [hft] using hk, hfv, hfvt⟩

theorem TextStruct.hsetLoop (formatFloat : Float → GoString) :
    ∀ L : List FieldSpec, (∀ e ∈ L, e ∈ ss.l) →
      hsetLoop formatFloat (L.flatMap (fieldArgs t v)) = .ok (L.flatMap (fieldPairs t v))
  | [], _ => rfl
  | e :: L, hL => by
    obtain ⟨ft, fv, hft, hs, hfv, hfvt⟩ := ht.field hv (hL e (.head _))
    have ih := TextStruct.hsetLoop formatFloat L fun e' he' => hL e' (.tail _ he')
    simp only [List.flatMap_cons, fieldArgs, fieldPairs, hft, hfv]
    split_ifs
    · exact ih
    · simp only [List.cons_append, List.nil_append, GrabRedis.hsetLoop,
        writeArg_text formatFloat hfvt hs, List.append_eq, ih]
      rfl


variable (parseFloat : GoString → Nat → Parsed Float)

/-- The loop of `ScanStruct` over stored pairs, in any order: a field whose pair is still to come
may hold anything, every other listed field already holds the value of `v`. -/
theorem TextStruct.scanStructPairs :
    ∀ (R : List (GoString × GoString)) (i : Nat) (w : GoValue), w.Typed t →
      (∀ p ∈ R, p ∈ ss.l.flatMap (fieldPairs t v)) →
      (∀ e ∈ ss.l, (∀ p ∈ R, p.1 ≠ .ofString e.name) → w.field e.index = v.field e.index) →
      ∃ w', GrabRedis.scanStructPairs parseFloat ss t i
          (flattenPairs (R.map fun p => (.bytes p.1, .bytes p.2))) w = .ok (w', none) ∧
        ∀ e ∈ ss.l, w'.field e.index = v.field e.index
  | [], _, w, _, _, hinv => ⟨w, rfl, fun e he => hinv e he nofun⟩
  | p :: R, i, w, hw, hR, hinv => by
    obtain ⟨e₀, he₀, hp⟩ := List.mem_flatMap.mp (hR p (.head _))
    obtain ⟨ft, fv, hft, hs, hfv, hfvt⟩ := ht.field hv he₀
    simp only [fieldPairs, hft, hfv] at hp
    split_ifs at hp
    · cases hp
    rw [List.mem_singleton] at hp
    subst hp
    obtain ⟨fw, hfw, -⟩ := hw.fieldByIndex_some hft
    obtain ⟨fw', hfw', -⟩ := hw.field hft
    have hlookup := (structSpecForType_consistent ht.spec).lookup ht.names he₀
    simp only [List.map_cons, flattenPairs_cons]
    rw [scanStructPairs_pair parseFloat ss t i _ _ w (by simp)]
    simp only [hlookup, hfw, convertAssignValue_text parseFloat hfvt hs]
    refine TextStruct.scanStructPairs R (i + 2) _ (hw.setField hft hfvt)
      (fun p hp => hR p (.tail _ hp)) fun e he hno => ?_
    by_cases hk : GoString.ofString e₀.name = .ofString e.name
    · obtain rfl := List.inj_on_of_nodup_map ht.names he₀ he (GoString.ofString_injective hk)
      rw [GoValue.field_setField_self hfw', hfv]
    have hold := hinv e he fun p hp => by
      rcases List.mem_cons.mp hp with rfl | hp
      · exact hk
      · exact hno p hp
    by_cases hidx : e₀.index = e.index
    · rw [← hidx, GoValue.field_setField_self hfw', hfv]
    obtain ⟨fte, -, hfte, hse, -⟩ := ht.field hv he
    rw [GoValue.field_setField_of_scalar_ne hft hs hfte hse hidx, hold]

theorem TextStruct.zero_field_of_no_pair {ps : List (GoString × GoString)}
    (hps : ∀ p ∈ ss.l.flatMap (fieldPairs t v), p ∈ ps) {e : FieldSpec} (he : e ∈ ss.l)
    (hno : ∀ p ∈ ps, p.1 ≠ .ofString e.name) : t.zero.field e.index = v.field e.index := by
  obtain ⟨ft, fv, hft, hs, hfv, hfvt⟩ := ht.field hv he
  rw [GoType.zero_field hft, hfv]
  by_cases hempty : e.omitEmpty ∧ fv.isEmpty
  · rw [GoValue.eq_zero_of_isEmpty hfvt hs hempty.2]
  · have hmem : (GoString.ofString e.name, fv.text) ∈ ss.l.flatMap (fieldPairs t v) :=
      List.mem_flatMap.mpr ⟨e, he, by simp [fieldPairs, hft, hfv, hempty]⟩
    exact absurd rfl (hno _ (hps _ hmem))

end roundTrip

theorem GoValue.Typed.strct_of_forall₂ {vs : List GoValue} {n : String}
    {fs : List (FieldHeader × GoType)} (h : List.Forall₂ (fun v f => GoValue.Typed v f.2) vs fs) :
    (GoValue.strct vs).Typed (.strct n fs) := by
  refine .strct h.length_eq fun i v f hv hf => ?_
  induction h generalizing i with
  | nil => cases hv
  | cons hab _ ih =>
    cases i with
    | zero =>
      simp only [List.getElem?_cons_zero, Option.some.injEq] at hv hf
      exact hv ▸ hf ▸ hab
    | succ i =>
      simp only [List.getElem?_cons_succ] at hv hf
      exact ih i hv hf

end GrabRedis
