import GrabRedis.Reflect

/-!
# The reply scanner: `convertAssign`, `Scan`, `ScanStruct` and `ScanSlice`

A destination is an `interface{}`: `nil`, or a value with its type. Each function returns what
it stores and its error; a panic is a result of its own. `strconv.ParseFloat` is the parameter
`parseFloat`.
-/

namespace GrabRedis

set_option autoImplicit false

inductive ScanError where
  /-- `cannotConvert`: "cannot convert from %s to %s". -/
  | cannotConvert (src dst : String)
  /-- A `*strconv.NumError`. -/
  | num (e : NumError)
  /-- `strconv.ErrRange` itself, from `convertAssignInt`. -/
  | range
  /-- An error with a fixed text. -/
  | msg (text : String)
  /-- "redis.Scan: cannot assign to dest %d: %v". -/
  | scan (i : Nat) (err : ScanError)
  /-- "redis.ScanStruct: key %d not a bulk string value". -/
  | structKey (i : Nat)
  /-- "redis.ScanStruct: cannot assign field %s: %v". -/
  | structField (name : String) (err : ScanError)
  /-- "redis.ScanSlice: cannot assign element %d: %v". -/
  | sliceElem (i : Nat) (err : ScanError)
  /-- "redis.ScanSlice: ScanSlice bad field name %s". -/
  | badFieldName (name : GoString)
  /-- "redis.ScanSlice: cannot assign element %d to field %s: %v". -/
  | sliceField (i : Nat) (name : String) (err : ScanError)
  deriving DecidableEq

abbrev Dest := Option (GoType × GoValue)

def nilDereference : Panic := ⟨"runtime error: invalid memory address or nil pointer dereference"⟩

def zeroValueType : Panic := ⟨"reflect: call of reflect.Value.Type on zero Value"⟩

def indexOutOfRange : Panic := ⟨"runtime error: index out of range"⟩

/-! ## `cannotConvert` -/

/-- The name `cannotConvert` gives a reply; for another type, `reflect.TypeOf(s).String()`,
which dereferences the nil `Type` of a nil reply. -/
def Reply.sourceName : Reply → Except Panic String
  | .str _ => .ok "Redis simple string"
  | .int _ => .ok "Redis integer"
  | .bytes _ => .ok "Redis bulk string"
  | .array _ => .ok "Redis array"
  | .other n => .ok n
  | .nil => .error nilDereference

def cannotConvert (d : RValue) (s : Reply) : Except Panic ScanError := do
  let sname ← s.sourceName
  match d with
  | none => .error zeroValueType
  | some (t, _) => pure (.cannotConvert sname t.name)

def refuse (d : RValue) (s : Reply) : Except Panic (GoValue × Option ScanError) := do
  let e ← cannotConvert d s
  match d with
  | none => .error zeroValueType
  | some (_, v) => pure (v, some e)

/-! ## Conversions into a `reflect.Value` -/

def fieldByIndex (t : GoType) (v : GoValue) (index : List Nat) : RValue :=
  match t.fieldType index, v.field index with
  | some ft, some fv => some (ft, fv)
  | _, _ => none

/-- What `SetInt` leaves in a signed integer of `bits` bits, read back by `Int()`. -/
def truncInt (bits : Nat) (x : Int) : Int := (x + 2 ^ (bits - 1)) % 2 ^ bits - 2 ^ (bits - 1)

section conversions

variable (parseFloat : GoString → Nat → Parsed Float)

/-- The body `convertAssignBulkString` and `convertAssignSimpleString` share: by the kind of
`d`, a `strconv` parse, the bytes themselves, or `cannotConvert`, where `src s` is the reply
as the caller holds it. -/
def convertAssignText (src : GoString → Reply) (d : RValue) (s : GoString) :
    Except Panic (GoValue × Option ScanError) :=
  match d with
  | none => .error zeroValueType
  | some (t, v) =>
    match t.floatBits, t.intBits, t.uintBits with
    | some bits, _, _ => let r := parseFloat s bits; .ok (.float r.1, r.2.map .num)
    | none, some bits, _ => let r := parseInt s bits; .ok (.int r.1, r.2.map .num)
    | none, none, some bits => let r := parseUint s bits; .ok (.uint r.1, r.2.map .num)
    | none, none, none =>
      match t with
      | .bool => let r := parseBool s; .ok (.bool r.1, r.2.map .num)
      | .string => .ok (.str s, none)
      | .slice .uint8 => .ok (.ofBytes s, none)
      | _ => refuse (some (t, v)) (src s)

def convertAssignBulkString (d : RValue) (s : GoString) :
    Except Panic (GoValue × Option ScanError) :=
  convertAssignText parseFloat .bytes d s

def convertAssignSimpleString (d : RValue) (s : GoString) :
    Except Panic (GoValue × Option ScanError) :=
  convertAssignText parseFloat .str d s

/-- `convertAssignInt`: `SetInt` or `SetUint` with the value read back, `ErrRange` and zero
when it does not survive; a negative value leaves an unsigned `d` as it is. -/
def convertAssignInt (d : RValue) (s : Int64) : Except Panic (GoValue × Option ScanError) :=
  match d with
  | none => .error zeroValueType
  | some (t, v) =>
    match t.intBits, t.uintBits with
    | some bits, _ =>
      if truncInt bits s.1 ≠ s.1 then .ok (.int 0, some .range) else .ok (.int s.1, none)
    | none, some bits =>
      if s.1 < 0 then .ok (v, some .range)
      else if s.1.toNat % 2 ^ bits ≠ s.1.toNat then .ok (.uint 0, some .range)
      else .ok (.uint s.1.toNat, none)
    | none, none =>
      match t with
      | .bool => .ok (.bool (s.1 != 0), none)
      | _ => refuse (some (t, v)) (.int s)

def convertAssignValue (d : RValue) : Reply → Except Panic (GoValue × Option ScanError)
  | .bytes s => convertAssignBulkString parseFloat d s
  | .str s => convertAssignSimpleString parseFloat d s
  | .int s => convertAssignInt d s
  | s => refuse d s

/-- `ensureLen(d, n)` on a slice value of element type `elem`: the backing array after it,
a new zeroed one when `n` exceeds the capacity. -/
def ensureLen (elem : GoType) (v : GoValue) (n : Nat) : List GoValue :=
  match v with
  | .slice _ backing => if backing.length < n then List.replicate n elem.zero else backing
  | _ => List.replicate n elem.zero

/-- The loop of `convertAssignArray` from element `i` on, over the backing array. -/
def assignElems (elem : GoType) :
    Nat → List Reply → List GoValue → Except Panic (List GoValue × Option ScanError)
  | _, [], backing => .ok (backing, none)
  | i, s :: ss, backing => do
    let (x, err) ← convertAssignValue parseFloat (some (elem, backing.getD i elem.zero)) s
    match err with
    | some e => pure (backing.set i x, some e)
    | none => assignElems elem (i + 1) ss (backing.set i x)

def convertAssignArray (d : RValue) (s : List Reply) :
    Except Panic (GoValue × Option ScanError) :=
  match d with
  | some (.slice elem, v) =>
    (assignElems parseFloat elem 0 s (ensureLen elem v s.length)).map fun r =>
      (.slice s.length r.1, r.2)
  | d => refuse d (.array s)

/-! ## `convertAssign` -/

/-- What a fast path stores through a pointer to `t`; through a nil one it panics. -/
def store (t : GoType) (p : GoValue) (x : GoValue) (err : Option ScanError) :
    Except Panic (Dest × Option ScanError) :=
  match p with
  | .ptr (some _) => .ok (some (.ptr t, .ptr (some x)), err)
  | _ => .error nilDereference

/-- The `default` case of a type switch on the destination: `reflect.ValueOf(d)`. A pointer
has its element converted by `assign`, anything else is refused; `nil` gives the zero
`Value`, whose `Type()` panics. -/
def viaReflect (assign : RValue → Except Panic (GoValue × Option ScanError)) (s : Reply) :
    Dest → Except Panic (Dest × Option ScanError)
  | none => .error zeroValueType
  | some (.ptr e, .ptr p) =>
    (assign (p.map (e, ·))).map fun r => (some (.ptr e, .ptr (some r.1)), r.2)
  | some (t, v) => (refuse (some (t, v)) s).map fun r => (some (t, v), r.2)

def convertAssign (d : Dest) : Reply → Except Panic (Dest × Option ScanError)
  | .nil => .ok (d, none)
  | .bytes b =>
    match d with
    | some (.ptr .string, p) => store .string p (.str b) none
    | some (.ptr .int, p) => let r := atoi b; store .int p (.int r.1) (r.2.map .num)
    | some (.ptr .bool, p) => let r := parseBool b; store .bool p (.bool r.1) (r.2.map .num)
    | some (.ptr (.slice .uint8), p) => store (.slice .uint8) p (.ofBytes b) none
    | some (.ptr .iface, p) => store .iface p (.iface (.bytes b)) none
    | none => .ok (none, none)
    | d => viaReflect (convertAssignBulkString parseFloat · b) (.bytes b) d
  | .int x =>
    match d with
    | some (.ptr .int, p) => store .int p (.int x.1) none
    | some (.ptr .bool, p) => store .bool p (.bool (x.1 != 0)) none
    | some (.ptr .iface, p) => store .iface p (.iface (.int x)) none
    | none => .ok (none, none)
    | d => viaReflect (convertAssignInt · x) (.int x) d
  | .str s =>
    match d with
    | some (.ptr .string, p) => store .string p (.str s) none
    | d => viaReflect (convertAssignSimpleString parseFloat · s) (.str s) d
  | .array ss =>
    match d with
    | some (.ptr (.slice .iface), p) =>
      store (.slice .iface) p (.slice ss.length (ss.map .iface)) none
    | some (.ptr .iface, p) => store .iface p (.iface (.array ss)) none
    | none => .ok (none, none)
    | d => viaReflect (convertAssignArray parseFloat · ss) (.array ss) d
  | .other n =>
    match d with
    | none => .error zeroValueType
    | some (t, v) => (refuse (some (t, v)) (.other n)).map fun r => (some (t, v), r.2)

/-! ## `Scan` -/

/-- The loop of `Scan` from dest `i` on: `src` holds the replies from `src[i]` on. -/
def scanDests : Nat → List Reply → List Dest → Except Panic (List Dest × Option ScanError)
  | _, _, [] => .ok ([], none)
  | _, [], _ :: _ => .error indexOutOfRange
  | i, s :: src, d :: ds => do
    let (d', err) ← convertAssign parseFloat d s
    match err with
    | some e => pure (d' :: ds, some (.scan i e))
    | none => (scanDests (i + 1) src ds).map fun r => (d' :: r.1, r.2)

/-- `Scan(src, dest...)`: the rest of `src`, the destinations after the call, and the error. -/
def Scan (src : List Reply) (dest : List Dest) :
    Except Panic (List Reply × List Dest × Option ScanError) :=
  if src.length < dest.length then .ok ([], dest, some (.msg "redis.Scan: array short"))
  else (scanDests parseFloat 0 src dest).map fun r => (src.drop dest.length, r.1, r.2)

/-! ### `Scan` in a loop

`Scan` returns the replies after those it copied, "to enable easy use of Scan in a loop":
scanning `d₁` and then `d₂` from the replies left is one `Scan` into `d₁ ++ d₂`. -/

/-- An error of the loop of `Scan` at dest `i`, counted from `n` dests earlier. -/
def ScanError.shiftDest (n : Nat) : ScanError → ScanError
  | .scan i e => .scan (n + i) e
  | e => e

@[simp] theorem scanDests_nil_right (i : Nat) (src : List Reply) :
    scanDests parseFloat i src [] = .ok ([], none) := by
  cases src <;> rfl

theorem scanDests_shift (n : Nat) (i : Nat) (src : List Reply) (ds : List Dest) :
    scanDests parseFloat (n + i) src ds =
      (scanDests parseFloat i src ds).map fun r => (r.1, r.2.map (ScanError.shiftDest n)) := by
  induction ds generalizing i src with
  | nil => simp [Except.map]
  | cons d ds ih =>
    cases src with
    | nil => rfl
    | cons s src =>
      simp only [scanDests, bind, Except.bind]
      rcases convertAssign parseFloat d s with _ | ⟨d', _ | e⟩
      · rfl
      · rw [show n + i + 1 = n + (i + 1) by omega, ih]
        cases scanDests parseFloat (i + 1) src ds <;> rfl
      · rfl

theorem scanDests_append_of_ok {i : Nat} {src : List Reply} {d₁ d₁' : List Dest}
    (h : scanDests parseFloat i src d₁ = .ok (d₁', none)) (d₂ : List Dest) :
    scanDests parseFloat i src (d₁ ++ d₂) =
      (scanDests parseFloat (i + d₁.length) (src.drop d₁.length) d₂).map
        fun r => (d₁' ++ r.1, r.2) := by
  induction d₁ generalizing i src d₁' with
  | nil =>
    simp only [scanDests_nil_right, Except.ok.injEq, Prod.mk.injEq] at h
    obtain ⟨rfl, -⟩ := h
    simp only [List.nil_append, List.length_nil, Nat.add_zero, List.drop_zero]
    cases scanDests parseFloat i src d₂ <;> rfl
  | cons d ds ih =>
    cases src with
    | nil => cases h
    | cons s src =>
      simp only [scanDests, bind, Except.bind] at h ⊢
      rcases hc : convertAssign parseFloat d s with _ | ⟨d', _ | e⟩ <;> rw [hc] at h <;>
        dsimp only at h ⊢
      · cases h
      · cases hr : scanDests parseFloat (i + 1) src ds with
        | error => simp [hr, Except.map] at h
        | ok r =>
          obtain ⟨r₁, r₂⟩ := r
          simp only [hr, Except.map, Except.ok.injEq, Prod.mk.injEq] at h
          obtain ⟨rfl, rfl⟩ := h
          rw [List.append_eq, ih hr, List.length_cons, List.drop_succ_cons,
            show i + (ds.length + 1) = i + 1 + ds.length by omega]
          cases scanDests parseFloat (i + 1 + ds.length) (src.drop ds.length) d₂ <;> rfl
      · simp [pure, Except.pure] at h

/-- The loop idiom `Scan` documents: scanning `d₁`, and then `d₂` from the replies it returns, is
one `Scan` into `d₁ ++ d₂`, with the second scan's error counting its dest after `d₁`'s. -/
theorem Scan_in_loop {src rest : List Reply} {d₁ d₂ d₁' : List Dest}
    (hlen : d₁.length + d₂.length ≤ src.length)
    (h₁ : Scan parseFloat src d₁ = .ok (rest, d₁', none)) :
    Scan parseFloat src (d₁ ++ d₂) =
      (Scan parseFloat rest d₂).map fun r =>
        (r.1, d₁' ++ r.2.1, r.2.2.map (.shiftDest d₁.length)) := by
  have h1 : ¬ src.length < d₁.length := by omega
  simp only [Scan, if_neg h1] at h₁
  cases hs : scanDests parseFloat 0 src d₁ with
  | error => simp [hs, Except.map] at h₁
  | ok r =>
    obtain ⟨r₁, r₂⟩ := r
    simp only [hs, Except.map, Except.ok.injEq, Prod.mk.injEq] at h₁
    obtain ⟨rfl, rfl, rfl⟩ := h₁
    have h2 : ¬ src.length < (d₁ ++ d₂).length := by simp; omega
    have h3 : ¬ (src.drop d₁.length).length < d₂.length := by simp; omega
    rw [Scan, if_neg h2, Scan, if_neg h3, scanDests_append_of_ok parseFloat hs,
      show 0 + d₁.length = d₁.length + 0 by omega, scanDests_shift, List.drop_drop,
      List.length_append]
    cases scanDests parseFloat 0 (src.drop d₁.length) d₂ <;> rfl

theorem Scan_in_loop_int_then_string :
    let src : List Reply := [.bytes (.ofString "42"), .str (.ofString "ok"), .nil]
    let d₁ : List Dest := [some (.ptr .int, .ptr (some (.int 0)))]
    let d₂ : List Dest := [some (.ptr .string, .ptr (some (.str [])))]
    let d₁' : List Dest := [some (.ptr .int, .ptr (some (.int 42)))]
    d₁.length + d₂.length ≤ src.length ∧
      Scan (fun _ _ => (0, none)) src d₁ = .ok (src.drop 1, d₁', none) ∧
      Scan (fun _ _ => (0, none)) src (d₁ ++ d₂) =
        (Scan (fun _ _ => (0, none)) (src.drop 1) d₂).map fun r =>
          (r.1, d₁' ++ r.2.1, r.2.2.map (.shiftDest d₁.length)) := by
  intro src d₁ d₂ d₁'
  have h₁ : Scan (fun _ _ => (0, none)) src d₁ = .ok (src.drop 1, d₁', none) := rfl
  exact ⟨by decide, h₁, Scan_in_loop _ (by decide) h₁⟩

/-! ## `ScanStruct` -/

def errScanStructValue : ScanError :=
  .msg "redis.ScanStruct: value must be non-nil pointer to a struct"

/-- The loop of `ScanStruct` over the name-value pairs from index `i` on, into the value `v`
of struct type `t`. -/
def scanStructPairs (ss : StructSpec) (t : GoType) :
    Nat → List Reply → GoValue → Except Panic (GoValue × Option ScanError)
  | _, [], v => .ok (v, none)
  | _, [_], _ => .error indexOutOfRange
  | i, name :: s :: rest, v =>
    match s with
    | .nil => scanStructPairs ss t (i + 2) rest v
    | s =>
      match name with
      | .bytes key =>
        match ss.m key with
        | none => scanStructPairs ss t (i + 2) rest v
        | some fs => do
          let (x, err) ← convertAssignValue parseFloat (fieldByIndex t v fs.index) s
          match err with
          | some e => pure (v.setField fs.index x, some (.structField fs.name e))
          | none => scanStructPairs ss t (i + 2) rest (v.setField fs.index x)
      | _ => .ok (v, some (.structKey i))

def ScanStruct (src : List Reply) (dest : Dest) : Except Panic (Dest × Option ScanError) :=
  match dest with
  | some (.ptr (.strct n fs), .ptr (some v)) => do
    let ss ← structSpecForType (.strct n fs)
    if src.length % 2 ≠ 0 then
      pure (dest, some (.msg "redis.ScanStruct: number of values not a multiple of 2"))
    else
      (scanStructPairs parseFloat ss (.strct n fs) 0 src v).map fun r =>
        (some (.ptr (.strct n fs), .ptr (some r.1)), r.2)
  | d => .ok (d, some errScanStructValue)

/-! ## `ScanSlice` -/

def errScanSliceValue : ScanError := .msg "redis.ScanSlice: dest must be non-nil pointer to a struct"

/-- The loop of `ScanSlice` into a slice of non-structs, from element `i` on: unlike
`convertAssignArray`'s, it skips a `nil` reply. -/
def scanSliceElems (elem : GoType) :
    Nat → List Reply → List GoValue → Except Panic (List GoValue × Option ScanError)
  | _, [], backing => .ok (backing, none)
  | i, .nil :: ss, backing => scanSliceElems elem (i + 1) ss backing
  | i, s :: ss, backing => do
    let (x, err) ← convertAssignValue parseFloat (some (elem, backing.getD i elem.zero)) s
    match err with
    | some e => pure (backing.set i x, some (.sliceElem i e))
    | none => scanSliceElems elem (i + 1) ss (backing.set i x)

/-- The fields of one struct element from field `j` on; `base` is the index of its first
reply, and `src` holds the replies from field `j` on. -/
def scanElemFields (t : GoType) (base : Nat) :
    Nat → List FieldSpec → List Reply → GoValue → Except Panic (GoValue × Option ScanError)
  | _, [], _, v => .ok (v, none)
  | _, _ :: _, [], _ => .error indexOutOfRange
  | j, fs :: fss, s :: src, v =>
    match s with
    | .nil => scanElemFields t base (j + 1) fss src v
    | s => do
      let (x, err) ← convertAssignValue parseFloat (fieldByIndex t v fs.index) s
      match err with
      | some e => pure (v.setField fs.index x, some (.sliceField (base + j) fs.name e))
      | none => scanElemFields t base (j + 1) fss src (v.setField fs.index x)

/-- The struct a slice element holds: itself, or what it points to, a new zero struct for a
nil pointer. -/
def elemStruct (t : GoType) (isPtr : Bool) (di : GoValue) : GoValue :=
  if isPtr then
    match di with
    | .ptr (some x) => x
    | _ => t.zero
  else di

/-- The loop of `ScanSlice` over the `m` struct elements left from element `i` on. -/
def scanStructElems (t : GoType) (isPtr : Bool) (fss : List FieldSpec) (src : List Reply) :
    Nat → Nat → List GoValue → Except Panic (List GoValue × Option ScanError)
  | 0, _, backing => .ok (backing, none)
  | m + 1, i, backing => do
    let k := fss.length
    let (x, err) ← scanElemFields parseFloat t (i * k) 0 fss (src.drop (i * k))
      (elemStruct t isPtr (backing.getD i .other))
    let backing := backing.set i (if isPtr then .ptr (some x) else x)
    match err with
    | some e => pure (backing, some e)
    | none => scanStructElems t isPtr fss src m (i + 1) backing

/-- The field specs `fieldNames` selects, or the error for the first unknown name. -/
def lookupFields (ss : StructSpec) : List GoString → Except ScanError (List FieldSpec)
  | [] => .ok []
  | name :: names =>
    match ss.m name with
    | none => .error (.badFieldName name)
    | some fs => (lookupFields ss names).map (fs :: ·)

/-- The struct type a slice's elements are, or point to, with whether they point. -/
def sliceStruct : GoType → Option (Bool × String × List (FieldHeader × GoType))
  | .strct n fs => some (false, n, fs)
  | .ptr (.strct n fs) => some (true, n, fs)
  | _ => none

def ScanSlice (src : List Reply) (dest : Dest) (fieldNames : List GoString) :
    Except Panic (Dest × Option ScanError) :=
  match dest with
  | some (.ptr (.slice elem), .ptr (some v)) =>
    let result (n : Nat) (r : List GoValue × Option ScanError) : Dest × Option ScanError :=
      (some (.ptr (.slice elem), .ptr (some (.slice n r.1))), r.2)
    match sliceStruct elem with
    | none =>
      (scanSliceElems parseFloat elem 0 src (ensureLen elem v src.length)).map (result src.length)
    | some (isPtr, name, fields) => do
      let t := GoType.strct name fields
      let ss ← structSpecForType t
      let fss := if fieldNames = [] then .ok ss.l else lookupFields ss fieldNames
      match fss with
      | .error e => pure (dest, some e)
      | .ok [] => pure (dest, some (.msg "redis.ScanSlice: no struct fields"))
      | .ok fss =>
        let n := src.length / fss.length
        if n * fss.length ≠ src.length then
          pure (dest, some (.msg "redis.ScanSlice: length not a multiple of struct field count"))
        else
          (scanStructElems parseFloat t isPtr fss src n 0 (ensureLen elem v n)).map (result n)
  | d => .ok (d, some errScanSliceValue)

/-! ## Bulk strings and simple strings, `nil` destinations -/

/-- go-redis hands bulk replies over as Go strings, while the fast paths of `convertAssign` and
the keys of `ScanStruct` are written for `[]byte`. The same bytes as a string are not skipped
by a `nil` destination (the zero `Value`'s `Type()` panics), are refused by `*interface{}`, and
are refused as the name of a field. -/
theorem string_reply_not_scanned_as_bytes (b : GoString) :
    let iface : Dest := some (.ptr .iface, .ptr (some (.iface .nil)))
    let S : GoType := .strct "main.S" [(⟨"A", true, false, ""⟩, .string)]
    let dest : Dest := some (.ptr S, .ptr (some S.zero))
    Scan parseFloat [.bytes b] [none] = .ok ([], [none], none) ∧
      Scan parseFloat [.str b] [none] = .error zeroValueType ∧
      Scan parseFloat [.bytes b] [iface] =
        .ok ([], [some (.ptr .iface, .ptr (some (.iface (.bytes b))))], none) ∧
      Scan parseFloat [.str b] [iface] =
        .ok ([], [iface], some (.scan 0 (.cannotConvert "Redis simple string" "interface {}"))) ∧
      ScanStruct parseFloat [.bytes (.ofString "A"), .bytes b] dest =
        .ok (some (.ptr S, .ptr (some (.strct [.str b]))), none) ∧
      ScanStruct parseFloat [.str (.ofString "A"), .str b] dest = .ok (dest, some (.structKey 0)) := by
  intro iface S dest
  refine ⟨rfl, rfl, rfl, rfl, ?_, ?_⟩ <;>
    simp only [ScanStruct, dest, S, List.length_cons, List.length_nil, Nat.reduceAdd,
      Nat.reduceMod, ne_eq, not_true_eq_false, if_false] <;> rfl

/-- `Scan` panics on inputs its documentation covers: a simple-string reply, as go-redis returns
one, into a `nil` destination, which should skip it; and an array with a `nil` element, as MGET
returns, into a `*[]string`, where `convertAssignArray` hands the `nil` element to
`cannotConvert`. -/
theorem scan_panics_on_documented_inputs (b : GoString) :
    Scan parseFloat [.str b] [none] = .error zeroValueType ∧
      Scan parseFloat [.array [.bytes b, .nil]]
        [some (.ptr (.slice .string), .ptr (some (.slice 0 [])))] = .error nilDereference :=
  ⟨rfl, rfl⟩

/-! ## A shadowed field is listed -/

/-- A struct that embeds `Inner { A int }` before its own field `A`. The outer `A` shadows the
embedded one, but `compileStructSpec` visits the deeper field first and keeps it in the list:
`l` names `A` twice while `m` maps `A` to the outer field only. `AddFlat` emits the name twice,
and `ScanSlice` reads two replies per element, one for each `A`. -/
theorem shadowed_field_listed_twice :
    let T : GoType := .strct "main.T"
      [(⟨"Inner", true, true, ""⟩, .strct "main.Inner" [(⟨"A", true, false, ""⟩, .int)]),
        (⟨"A", true, false, ""⟩, .int)]
    let dest : Dest := some (.ptr (.slice T), .ptr (some (.slice 0 [])))
    (structSpecForType T).map (fun ss => ss.l.map fun fs => (fs.name, fs.index)) =
        .ok [("A", [0, 0]), ("A", [1])] ∧
      (structSpecForType T).map (fun ss => ss.m (.ofString "A")) = .ok (some ⟨"A", [1], false⟩) ∧
      addFlat [] (T, T.zero) = .ok [(.string, .str (.ofString "A")), (.int, .int 0),
        (.string, .str (.ofString "A")), (.int, .int 0)] ∧
      ScanSlice parseFloat [.bytes (.ofString "1")] dest [] =
        .ok (dest, some (.msg "redis.ScanSlice: length not a multiple of struct field count")) ∧
      ScanSlice parseFloat [.bytes (.ofString "1"), .bytes (.ofString "2")] dest [] =
        .ok (some (.ptr (.slice T), .ptr (some (.slice 1 [.strct [.strct [.int 1], .int 2]]))),
          none) := by
  intro T dest
  exact ⟨by decide, by decide, rfl, rfl, rfl⟩

end conversions

end GrabRedis
