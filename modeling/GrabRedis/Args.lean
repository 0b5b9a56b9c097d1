import GrabRedis.Scan

/-!
# The reply helpers of `args.go`

The conversions of one reply, of an array reply, and of an array of alternating keys and
values into a map. Each passes the command's error through. A Go map is a function, and a read
past the end of a slice panics.
-/

namespace GrabRedis

set_option autoImplicit false

inductive HelperError where
  /-- The command's own error, passed through. -/
  | cmd (e : GoError)
  /-- A `*strconv.NumError`. -/
  | num (e : NumError)
  /-- `strconv.ErrRange`. -/
  | range
  /-- `ErrNoData`: "redis: nil returned". -/
  | noData
  /-- "redis: unexpected type for %s, got type %T". -/
  | unexpectedType (helper typeName : String)
  /-- "redis: unexpected element type for Strings, got type %T". -/
  | unexpectedElementType (typeName : String)
  /-- "redis: unexpected value for Uint64, got %d". -/
  | unexpectedValue (v : ℤ)
  /-- "redis: unexpected type=%T for []byte". -/
  | unexpectedBytesType (typeName : String)
  /-- An error of `ScanSlice`. -/
  | scan (e : ScanError)
  /-- An error with a fixed text. -/
  | msg (text : String)
  deriving DecidableEq

def Reply.goTypeName : Reply → String
  | .nil => "<nil>"
  | .int _ => "int64"
  | .str _ => "string"
  | .bytes _ => "[]uint8"
  | .array _ => "[]interface {}"
  | .other n => n

abbrev GoMap (β : Type) := GoString → Option β

/-- `make(map[string]T)`, and the `nil` map a helper returns with its error. -/
def GoMap.empty {β : Type} : GoMap β := fun _ => none

/-! ## One reply -/

/-- `Int`: an `int64` as it is, as `int` has 64 bits; a text through `ParseInt(s, 10, 0)`. -/
def redisapi.Int (reply : Reply) (err : Option GoError) : ℤ × Option HelperError :=
  match err with
  | some e => (0, some (.cmd e))
  | none =>
    match reply with
    | .int x => if truncInt 64 x.1 ≠ x.1 then (0, some .range) else (x.1, none)
    | .bytes b => let r := parseInt b 0; (r.1, r.2.map .num)
    | .str s => let r := parseInt s 0; (r.1, r.2.map .num)
    | .nil => (0, some .noData)
    | r => (0, some (.unexpectedType "Int" r.goTypeName))

def redisapi.Int64 (reply : Reply) (err : Option GoError) : ℤ × Option HelperError :=
  match err with
  | some e => (0, some (.cmd e))
  | none =>
    match reply with
    | .int x => (x.1, none)
    | .bytes b => let r := parseInt b 64; (r.1, r.2.map .num)
    | .str s => let r := parseInt s 64; (r.1, r.2.map .num)
    | .nil => (0, some .noData)
    | r => (0, some (.unexpectedType "Int64" r.goTypeName))

/-- `Uint64`: a non-negative `int64` as it is; a text through `ParseUint(s, 10, 64)`. -/
def redisapi.Uint64 (reply : Reply) (err : Option GoError) : ℕ × Option HelperError :=
  match err with
  | some e => (0, some (.cmd e))
  | none =>
    match reply with
    | .int x => if x.1 < 0 then (0, some (.unexpectedValue x.1)) else (x.1.toNat, none)
    | .bytes b => let r := parseUint b 64; (r.1, r.2.map .num)
    | .str s => let r := parseUint s 64; (r.1, r.2.map .num)
    | .nil => (0, some .noData)
    | r => (0, some (.unexpectedType "Uint64" r.goTypeName))

/-- `Float64`: a text through `ParseFloat(s, 64)`; an `int64` is refused. -/
def redisapi.Float64 (parseFloat : GoString → Nat → Parsed Float) (reply : Reply)
    (err : Option GoError) : Float × Option HelperError :=
  match err with
  | some e => (0, some (.cmd e))
  | none =>
    match reply with
    | .bytes b => let r := parseFloat b 64; (r.1, r.2.map .num)
    | .str s => let r := parseFloat s 64; (r.1, r.2.map .num)
    | .nil => (0, some .noData)
    | r => (0, some (.unexpectedType "Float64" r.goTypeName))

def redisapi.String (reply : Reply) (err : Option GoError) : GoString × Option HelperError :=
  match err with
  | some e => ([], some (.cmd e))
  | none =>
    match reply with
    | .bytes b => (b, none)
    | .str s => (s, none)
    | .nil => ([], some .noData)
    | r => ([], some (.unexpectedType "String" r.goTypeName))

def redisapi.Bytes (reply : Reply) (err : Option GoError) : GoString × Option HelperError :=
  match err with
  | some e => ([], some (.cmd e))
  | none =>
    match reply with
    | .bytes b => (b, none)
    | .str s => (s, none)
    | .nil => ([], some .noData)
    | r => ([], some (.unexpectedBytesType r.goTypeName))

def redisapi.Bool (reply : Reply) (err : Option GoError) : Bool × Option HelperError :=
  match err with
  | some e => (false, some (.cmd e))
  | none =>
    match reply with
    | .int x => (x.1 != 0, none)
    | .bytes b => let r := parseBool b; (r.1, r.2.map .num)
    | .str s => let r := parseBool s; (r.1, r.2.map .num)
    | .nil => (false, some .noData)
    | r => (false, some (.unexpectedType "Bool" r.goTypeName))

/-! ## Array replies -/

def redisapi.Values (reply : Reply) (err : Option GoError) :
    List Reply × Option HelperError :=
  match err with
  | some e => ([], some (.cmd e))
  | none =>
    match reply with
    | .array vs => (vs, none)
    | .nil => ([], some .noData)
    | r => ([], some (.unexpectedType "Values" r.goTypeName))

def toString : Reply → Option GoString
  | .bytes b => some b
  | .str s => some s
  | _ => none

/-- The loop of `Strings`: a `nil` element leaves `""`. -/
def stringsLoop : List Reply → Except HelperError (List GoString)
  | [] => .ok []
  | .nil :: rs => (stringsLoop rs).map ([] :: ·)
  | r :: rs =>
    match toString r with
    | some s => (stringsLoop rs).map (s :: ·)
    | none => .error (.unexpectedElementType r.goTypeName)

def redisapi.Strings (reply : Reply) (err : Option GoError) :
    List GoString × Option HelperError :=
  match err with
  | some e => ([], some (.cmd e))
  | none =>
    match reply with
    | .array vs =>
      match stringsLoop vs with
      | .ok result => (result, none)
      | .error e => ([], some e)
    | .nil => ([], some .noData)
    | r => ([], some (.unexpectedType "Strings" r.goTypeName))

/-- The loop of `ByteSlices`: a `nil` element is left `nil`, any other goes through `Bytes`. -/
def byteSlicesLoop : List Reply → Except HelperError (List GoString)
  | [] => .ok []
  | .nil :: rs => (byteSlicesLoop rs).map ([] :: ·)
  | r :: rs =>
    match redisapi.Bytes r none with
    | (_, some e) => .error e
    | (b, none) => (byteSlicesLoop rs).map (b :: ·)

/-- `ByteSlices`: `Values`, and `nil` for an empty array. -/
def redisapi.ByteSlices (reply : Reply) (err : Option GoError) :
    List GoString × Option HelperError :=
  match redisapi.Values reply err with
  | (_, some e) => ([], some e)
  | (values, none) =>
    if values.length = 0 then ([], none)
    else
      match byteSlicesLoop values with
      | .ok slices => (slices, none)
      | .error e => ([], some e)

/-- The elements a slice destination holds after a scan: the first `len` of its backing array. -/
def sliceElems : Dest → List GoValue
  | some (_, .ptr (some (.slice n backing))) => backing.take n
  | _ => []

/-- A pointer to a `nil` slice of `elem`, as `var ints []int; &ints`. -/
def nilSlicePtr (elem : GoType) : Dest := some (.ptr (.slice elem), .ptr (some (.slice 0 [])))

section floats

variable (parseFloat : GoString → Nat → Parsed Float)

/-- `Ints`: `ScanSlice` into a `nil` `[]int`; on its error, what it stored is returned too. -/
def redisapi.Ints (reply : Reply) (err : Option GoError) :
    Except Panic (List GoValue × Option HelperError) :=
  match redisapi.Values reply err with
  | (_, some e) => .ok ([], some e)
  | (values, none) =>
    (ScanSlice parseFloat values (nilSlicePtr .int) []).map fun r =>
      (sliceElems r.1, r.2.map .scan)

/-- `Int64s`: `ScanSlice` into a `nil` `[]int64`; on its error, `nil`. -/
def redisapi.Int64s (reply : Reply) (err : Option GoError) :
    Except Panic (List GoValue × Option HelperError) :=
  match redisapi.Values reply err with
  | (_, some e) => .ok ([], some e)
  | (values, none) =>
    (ScanSlice parseFloat values (nilSlicePtr .int64) []).map fun r =>
      match r.2 with
      | some e => ([], some (.scan e))
      | none => (sliceElems r.1, none)

def float64sLoop : List Reply → Except HelperError (List Float)
  | [] => .ok []
  | r :: rs =>
    match redisapi.Float64 parseFloat r none with
    | (_, some e) => .error e
    | (f, none) => (float64sLoop rs).map (f :: ·)

def redisapi.Float64s (reply : Reply) (err : Option GoError) :
    List Float × Option HelperError :=
  match redisapi.Values reply err with
  | (_, some e) => ([], some e)
  | (values, none) =>
    match float64sLoop parseFloat values with
    | .ok floats => (floats, none)
    | .error e => ([], some e)

end floats

/-! ## Alternating keys and values -/

def scanMapKeyError : HelperError := .msg "redis: ScanMap key not a bulk string value"

/-- The loop of the map helpers over the keys and values left: a key through `String`, its
value through `conv`; the first failure ends it with a fixed error. A key without a value
reads past the end. -/
def scanMapLoop {β : Type} (conv : Reply → Option GoError → β × Option HelperError)
    (valueError : String) : List Reply → GoMap β → Except Panic (GoMap β × Option HelperError)
  | [], m => .ok (m, none)
  | [k], _ =>
    match redisapi.String k none with
    | (_, some _) => .ok (GoMap.empty, some scanMapKeyError)
    | (_, none) => .error indexOutOfRange
  | k :: v :: rest, m =>
    match redisapi.String k none with
    | (_, some _) => .ok (GoMap.empty, some scanMapKeyError)
    | (key, none) =>
      match conv v none with
      | (_, some _) => .ok (GoMap.empty, some (.msg valueError))
      | (value, none) => scanMapLoop conv valueError rest (Function.update m key (some value))

/-- The body `StringMap`, `IntMap`, `Int64Map` and `Float64Map` share: `Values`, the parity
check, then the loop from an empty map. -/
def scanMap {β : Type} (conv : Reply → Option GoError → β × Option HelperError)
    (evenError valueError : String) (result : Reply) (err : Option GoError) :
    Except Panic (GoMap β × Option HelperError) :=
  match redisapi.Values result err with
  | (_, some e) => .ok (GoMap.empty, some e)
  | (values, none) =>
    if values.length % 2 ≠ 0 then .ok (GoMap.empty, some (.msg evenError))
    else scanMapLoop conv valueError values GoMap.empty

def redisapi.StringMap (reply : Reply) (err : Option GoError) :
    Except Panic (GoMap GoString × Option HelperError) :=
  scanMap redisapi.String "redis: StringMap expects even number of values result"
    "redis: ScanMap value not a bulk string value" reply err

def redisapi.IntMap (result : Reply) (err : Option GoError) :
    Except Panic (GoMap ℤ × Option HelperError) :=
  scanMap redisapi.Int "redis: IntMap expects even number of values result"
    "redis: ScanMap value not a bulk int value" result err

def redisapi.Int64Map (result : Reply) (err : Option GoError) :
    Except Panic (GoMap ℤ × Option HelperError) :=
  scanMap redisapi.Int64 "redis: Int64Map expects even number of values result"
    "redis: ScanMap value not a bulk int64 value" result err

def redisapi.Float64Map (parseFloat : GoString → Nat → Parsed Float) (result : Reply)
    (err : Option GoError) : Except Panic (GoMap Float × Option HelperError) :=
  scanMap (redisapi.Float64 parseFloat) "redis: Float64Map expects even number of values result"
    "redis: ScanMap value not a bulk float64 value" result err

abbrev ScoreMap := ℤ → List GoString

/-- The loop of `Int64StringMapSlice`: each member is appended to the list of its score. -/
def memberLoop : List Reply → ScoreMap → Except Panic (ScoreMap × Option HelperError)
  | [], out => .ok (out, none)
  | [v], _ =>
    match redisapi.String v none with
    | (_, some _) => .ok (fun _ => [], some scanMapKeyError)
    | (_, none) => .error indexOutOfRange
  | v :: s :: rest, out =>
    match redisapi.String v none with
    | (_, some _) => .ok (fun _ => [], some scanMapKeyError)
    | (value, none) =>
      match redisapi.Int64 s none with
      | (_, some _) => .ok (fun _ => [], some (.msg "redis: ScanMap value not a bulk int64 value"))
      | (score, none) => memberLoop rest (Function.update out score (out score ++ [value]))

/-- `Int64StringMapSlice`: unlike the other map helpers it does not go through `Values`, so
a reply that is not an array reads as an empty one. -/
def redisapi.Int64StringMapSlice (reply : Reply) (err : Option GoError) :
    Except Panic (ScoreMap × Option HelperError) :=
  match err with
  | some e => .ok (fun _ => [], some (.cmd e))
  | none =>
    let values := match reply with
      | .array vs => vs
      | _ => []
    if values.length % 2 ≠ 0 then .ok (fun _ => [], some (.msg "expects even number of values"))
    else memberLoop values (fun _ => [])


/-! ## The map helpers follow the pairs in order -/

/-- An array's alternating keys and values as the pairs `(v[2j], v[2j+1])`. -/
def pairsOf : List Reply → List (Reply × Reply)
  | k :: v :: rest => (k, v) :: pairsOf rest
  | _ => []

/-- The map that inserts `kvs` in order into an empty one, a later key overwriting. -/
def insertAll {β : Type} (kvs : List (GoString × β)) : GoMap β :=
  kvs.foldl (fun m kv => Function.update m kv.1 (some kv.2)) GoMap.empty

/-- What a map helper `f` returns on the array `v`, by the law of pairs: the pairs inserted in
order when every value converts through `conv`, otherwise the helper's fixed value error. -/
def MapLaw {β : Type} (conv : Reply → Option GoError → β × Option HelperError)
    (valueError : String) (f : Reply → Option GoError → Except Panic (GoMap β × Option HelperError))
    (v : List Reply) : Prop :=
  f (.array v) none = .ok
    (if (pairsOf v).all fun p => (conv p.2 none).2.isNone then
      (insertAll ((pairsOf v).map fun p => ((redisapi.String p.1 none).1, (conv p.2 none).1)),
        none)
    else (GoMap.empty, some (.msg valueError)))

theorem String_of_toString {r : Reply} {b : GoString} (h : toString r = some b) :
    redisapi.String r none = (b, none) := by
  cases r <;> simp_all [toString, redisapi.String]

section loops

variable {β : Type} (conv : Reply → Option GoError → β × Option HelperError) (valueError : String)

theorem scanMapLoop_eq (v : List Reply) (heven : v.length % 2 = 0)
    (hkeys : ∀ p ∈ pairsOf v, (toString p.1).isSome) (m : GoMap β) :
    scanMapLoop conv valueError v m = .ok
      (if (pairsOf v).all fun p => (conv p.2 none).2.isNone then
        ((pairsOf v).foldl (fun m p =>
          Function.update m (redisapi.String p.1 none).1 (some (conv p.2 none).1)) m, none)
      else (GoMap.empty, some (.msg valueError))) := by
  induction v using pairsOf.induct generalizing m with
  | case1 k w rest ih =>
    obtain ⟨b, hb⟩ : ∃ b, toString k = some b :=
      Option.isSome_iff_exists.mp (hkeys (k, w) (by simp [pairsOf]))
    have hrest := ih (by simp only [List.length_cons] at heven; omega) fun p hp => hkeys p (by simp [pairsOf, hp])
    simp only [scanMapLoop, String_of_toString hb, pairsOf, List.all_cons, List.foldl_cons]
    cases hc : conv w none with
    | mk value e =>
      cases e with
      | some _ => rfl
      | none => simp only [hrest, String_of_toString hb, Option.isNone_none, Bool.true_and]
  | case2 t ht =>
    match t, ht with
    | [], _ => rfl
    | [_], _ => simp at heven
    | _ :: _ :: _, ht => exact absurd rfl (ht _ _ _)

theorem scanMapLoop_returns (v : List Reply) (heven : v.length % 2 = 0) (m : GoMap β) :
    ∃ r, scanMapLoop conv valueError v m = .ok r := by
  induction v using pairsOf.induct generalizing m with
  | case1 k w rest ih =>
    simp only [scanMapLoop]
    split
    · exact ⟨_, rfl⟩
    · split
      · exact ⟨_, rfl⟩
      · exact ih (by simp only [List.length_cons] at heven; omega) _
  | case2 t ht =>
    match t, ht with
    | [], _ => exact ⟨_, rfl⟩
    | [_], _ => simp at heven
    | _ :: _ :: _, ht => exact absurd rfl (ht _ _ _)

theorem scanMap_array (evenError : String) (v : List Reply) :
    scanMap conv evenError valueError (.array v) none =
      if v.length % 2 ≠ 0 then .ok (GoMap.empty, some (.msg evenError))
      else scanMapLoop conv valueError v GoMap.empty := rfl

theorem scanMap_returns (evenError : String) (reply : Reply) (err : Option GoError) :
    ∃ r, scanMap conv evenError valueError reply err = .ok r := by
  unfold scanMap
  split
  · exact ⟨_, rfl⟩
  · split
    · exact ⟨_, rfl⟩
    · exact scanMapLoop_returns conv valueError _ (by omega) _

theorem mapLaw_scanMap (evenError : String) (v : List Reply) (heven : v.length % 2 = 0)
    (hkeys : ∀ p ∈ pairsOf v, (toString p.1).isSome) :
    MapLaw conv valueError (scanMap conv evenError valueError) v := by
  rw [MapLaw, scanMap_array, if_neg (by omega), scanMapLoop_eq conv valueError v heven hkeys,
    insertAll, List.foldl_map]

end loops

theorem memberLoop_eq (v : List Reply) (heven : v.length % 2 = 0)
    (hkeys : ∀ p ∈ pairsOf v, (toString p.1).isSome) (out : ScoreMap) :
    memberLoop v out = .ok
      (if (pairsOf v).all fun p => (redisapi.Int64 p.2 none).2.isNone then
        (fun s => out s ++ ((pairsOf v).filter fun p => (redisapi.Int64 p.2 none).1 = s).map
          fun p => (redisapi.String p.1 none).1, none)
      else (fun _ => [], some (.msg "redis: ScanMap value not a bulk int64 value"))) := by
  induction v using pairsOf.induct generalizing out with
  | case1 k w rest ih =>
    obtain ⟨b, hb⟩ : ∃ b, toString k = some b :=
      Option.isSome_iff_exists.mp (hkeys (k, w) (by simp [pairsOf]))
    have hrest := ih (by simp only [List.length_cons] at heven; omega) (fun p hp => hkeys p (by simp [pairsOf, hp]))
    simp only [memberLoop, String_of_toString hb, pairsOf, List.all_cons]
    cases hc : redisapi.Int64 w none with
    | mk score e =>
      cases e with
      | some _ => rfl
      | none =>
        simp only [hrest, Option.isNone_none, Bool.true_and]
        split
        · congr 2
          funext s
          by_cases hs : score = s
          · subst hs; simp [hc, String_of_toString hb]
          · simp [Function.update_noteq (Ne.symm hs), hc, hs]
        · rfl
  | case2 t ht =>
    match t, ht with
    | [], _ => simp [memberLoop, pairsOf]
    | [_], _ => simp at heven
    | _ :: _ :: _, ht => exact absurd rfl (ht _ _ _)

theorem memberLoop_returns (v : List Reply) (heven : v.length % 2 = 0) (out : ScoreMap) :
    ∃ r, memberLoop v out = .ok r := by
  induction v using pairsOf.induct generalizing out with
  | case1 k w rest ih =>
    simp only [memberLoop]
    split
    · exact ⟨_, rfl⟩
    · split
      · exact ⟨_, rfl⟩
      · exact ih (by simp only [List.length_cons] at heven; omega) _
  | case2 t ht =>
    match t, ht with
    | [], _ => exact ⟨_, rfl⟩
    | [_], _ => simp at heven
    | _ :: _ :: _, ht => exact absurd rfl (ht _ _ _)


theorem Int64StringMapSlice_array (v : List Reply) (heven : v.length % 2 = 0)
    (hkeys : ∀ p ∈ pairsOf v, (toString p.1).isSome) :
    redisapi.Int64StringMapSlice (.array v) none = .ok
      (if (pairsOf v).all fun p => (redisapi.Int64 p.2 none).2.isNone then
        (fun s => ((pairsOf v).filter fun p => (redisapi.Int64 p.2 none).1 = s).map
          fun p => (redisapi.String p.1 none).1, none)
      else (fun _ => [], some (.msg "redis: ScanMap value not a bulk int64 value"))) := by
  simp only [redisapi.Int64StringMapSlice, heven, ne_eq, not_true_eq_false, if_false,
    memberLoop_eq v heven hkeys, List.nil_append]

theorem Int64StringMapSlice_returns (reply : Reply) (err : Option GoError) :
    ∃ r, redisapi.Int64StringMapSlice reply err = .ok r := by
  unfold redisapi.Int64StringMapSlice
  split
  · exact ⟨_, rfl⟩
  · dsimp only
    split
    · exact ⟨_, rfl⟩
    · exact memberLoop_returns _ (by omega) _

section maps

variable (parseFloat : GoString → Nat → Parsed Float)

/-- On an array of even length whose keys are strings or `[]byte`s, `StringMap`, `IntMap`,
`Int64Map` and `Float64Map` return the pairs inserted in order, a later key overwriting an
earlier one, or, once a value fails to convert, their own fixed error in place of the
conversion's; `Int64StringMapSlice` lists under each score, in input order, exactly the members
whose score converts to it. All five refuse an odd count, and none panics on any reply. -/
theorem map_helpers_follow_pairs (v : List Reply) (heven : v.length % 2 = 0)
    (hkeys : ∀ p ∈ pairsOf v, (toString p.1).isSome) :
    MapLaw redisapi.String "redis: ScanMap value not a bulk string value" redisapi.StringMap v ∧
      MapLaw redisapi.Int "redis: ScanMap value not a bulk int value" redisapi.IntMap v ∧
      MapLaw redisapi.Int64 "redis: ScanMap value not a bulk int64 value" redisapi.Int64Map v ∧
      MapLaw (redisapi.Float64 parseFloat) "redis: ScanMap value not a bulk float64 value"
        (redisapi.Float64Map parseFloat) v ∧
      redisapi.Int64StringMapSlice (.array v) none = .ok
        (if (pairsOf v).all fun p => (redisapi.Int64 p.2 none).2.isNone then
          (fun s => ((pairsOf v).filter fun p => (redisapi.Int64 p.2 none).1 = s).map
            fun p => (redisapi.String p.1 none).1, none)
        else (fun _ => [], some (.msg "redis: ScanMap value not a bulk int64 value"))) ∧
      (∀ w : List Reply, w.length % 2 = 1 →
        (redisapi.StringMap (.array w) none).map (·.2) =
            .ok (some (.msg "redis: StringMap expects even number of values result")) ∧
          (redisapi.IntMap (.array w) none).map (·.2) =
            .ok (some (.msg "redis: IntMap expects even number of values result")) ∧
          (redisapi.Int64Map (.array w) none).map (·.2) =
            .ok (some (.msg "redis: Int64Map expects even number of values result")) ∧
          (redisapi.Float64Map parseFloat (.array w) none).map (·.2) =
            .ok (some (.msg "redis: Float64Map expects even number of values result")) ∧
          (redisapi.Int64StringMapSlice (.array w) none).map (·.2) =
            .ok (some (.msg "expects even number of values"))) ∧
      ∀ reply err, (∃ r, redisapi.StringMap reply err = .ok r) ∧
        (∃ r, redisapi.IntMap reply err = .ok r) ∧ (∃ r, redisapi.Int64Map reply err = .ok r) ∧
        (∃ r, redisapi.Float64Map parseFloat reply err = .ok r) ∧
        ∃ r, redisapi.Int64StringMapSlice reply err = .ok r := by
  refine ⟨mapLaw_scanMap _ _ _ v heven hkeys, mapLaw_scanMap _ _ _ v heven hkeys,
    mapLaw_scanMap _ _ _ v heven hkeys, mapLaw_scanMap _ _ _ v heven hkeys,
    Int64StringMapSlice_array v heven hkeys, fun w hw => ?_, fun reply err =>
      ⟨scanMap_returns .., scanMap_returns .., scanMap_returns .., scanMap_returns ..,
        Int64StringMapSlice_returns reply err⟩⟩
  have hodd : w.length % 2 ≠ 0 := by omega
  simp only [redisapi.StringMap, redisapi.IntMap, redisapi.Int64Map, redisapi.Float64Map,
    scanMap_array, redisapi.Int64StringMapSlice, hodd, ne_eq, not_false_eq_true, if_true]
  exact ⟨rfl, rfl, rfl, rfl, rfl⟩

/-- The map helpers drop the conversion's error: `IntMap` on a value `Int` refuses with a
syntax error reports its own fixed text. -/
theorem intMap_drops_conversion_error :
    (redisapi.Int (.bytes (.ofString "x")) none).2 =
        some (.num ⟨"ParseInt", .ofString "x", .invalid⟩) ∧
      (redisapi.IntMap (.array [.bytes (.ofString "k"), .bytes (.ofString "x")]) none).map (·.2) =
        .ok (some (.msg "redis: ScanMap value not a bulk int value")) := by
  decide

end maps

theorem map_helpers_follow_pairs_duplicate :
    let v : List Reply := [.bytes (.ofString "a"), .bytes (.ofString "1"), .str (.ofString "a"),
      .bytes (.ofString "2")]
    v.length % 2 = 0 ∧ (∀ p ∈ pairsOf v, (toString p.1).isSome) ∧
      MapLaw redisapi.Int "redis: ScanMap value not a bulk int value" redisapi.IntMap v :=
  ⟨by decide, by decide,
    (map_helpers_follow_pairs (fun _ _ => (0, none)) _ (by decide) (by decide)).2.1⟩

/-! ## `ByteSlices` is `Strings` for byte slices -/

theorem byteSlicesLoop_stringsLoop (vs : List Reply) :
    (∃ r, byteSlicesLoop vs = .ok r ∧ stringsLoop vs = .ok r) ∨
      ∃ t, byteSlicesLoop vs = .error (.unexpectedBytesType t) ∧
        stringsLoop vs = .error (.unexpectedElementType t) := by
  induction vs with
  | nil => exact .inl ⟨[], rfl, rfl⟩
  | cons r rs ih =>
    have step : ∀ b : GoString, (∃ r', byteSlicesLoop rs = .ok r' ∧ stringsLoop rs = .ok r') ∨
        (∃ t, byteSlicesLoop rs = .error (.unexpectedBytesType t) ∧
          stringsLoop rs = .error (.unexpectedElementType t)) →
        (∃ r', (byteSlicesLoop rs).map (b :: ·) = .ok r' ∧
          (stringsLoop rs).map (b :: ·) = .ok r') ∨
        ∃ t, (byteSlicesLoop rs).map (b :: ·) = .error (.unexpectedBytesType t) ∧
          (stringsLoop rs).map (b :: ·) = .error (.unexpectedElementType t) := by
      rintro b (⟨r', h₁, h₂⟩ | ⟨t, h₁, h₂⟩)
      · exact .inl ⟨b :: r', by rw [h₁]; rfl, by rw [h₂]; rfl⟩
      · exact .inr ⟨t, by rw [h₁]; rfl, by rw [h₂]; rfl⟩
    cases r with
    | nil => exact step [] ih
    | bytes b => exact step b ih
    | str s => exact step s ih
    | int _ | array _ | other _ => exact .inr ⟨_, rfl, rfl⟩

/-- On every reply and command error, `ByteSlices` returns the slices `Strings` returns, and
fails exactly when `Strings` does. -/
theorem ByteSlices_agrees_with_Strings (reply : Reply) (err : Option GoError) :
    (redisapi.ByteSlices reply err).1 = (redisapi.Strings reply err).1 ∧
      ((redisapi.ByteSlices reply err).2 = none ↔ (redisapi.Strings reply err).2 = none) := by
  rcases err with _ | e
  · cases reply with
    | array vs =>
      simp only [redisapi.ByteSlices, redisapi.Values, redisapi.Strings]
      by_cases h0 : vs.length = 0
      · simp [List.length_eq_zero.mp h0, stringsLoop]
      · simp only [h0, if_false]
        rcases byteSlicesLoop_stringsLoop vs with ⟨r, h₁, h₂⟩ | ⟨t, h₁, h₂⟩ <;> simp [h₁, h₂]
    | _ => simp [redisapi.ByteSlices, redisapi.Values, redisapi.Strings]
  · simp [redisapi.ByteSlices, redisapi.Values, redisapi.Strings]

end GrabRedis
