import GrabRedis.Reply

/-!
# Go types and values as `reflect` sees them, and the struct specs of the scanner

`GoType` has the kinds the scanner distinguishes, `int` and `uint` of 64 bits; a struct type
lists its fields with their `redis` tags. `compileStructSpec` walks a struct and its embedded
structs into the spec `ScanStruct`, `ScanSlice` and `AddFlat` use.
-/

namespace GrabRedis

set_option autoImplicit false

/-- What a struct field tells `reflect`: its name, whether it is exported (`PkgPath == ""`),
whether it is embedded, and its tag's value for the key `redis` (`""` when absent). -/
structure FieldHeader where
  name : String
  exported : Bool
  anonymous : Bool
  tag : String
  deriving DecidableEq

inductive GoType where
  | int | int8 | int16 | int32 | int64
  | uint | uint8 | uint16 | uint32 | uint64
  | float32 | float64
  | bool
  | string
  | slice (elem : GoType)
  /-- `interface{}`. -/
  | iface
  | ptr (elem : GoType)
  | strct (name : String) (fields : List (FieldHeader × GoType))
  /-- A type of a kind the scanner does not convert to, by its name. -/
  | other (name : String)

namespace GoType

def intBits : GoType → Option Nat
  | int | int64 => some 64
  | int8 => some 8
  | int16 => some 16
  | int32 => some 32
  | _ => none

def uintBits : GoType → Option Nat
  | uint | uint64 => some 64
  | uint8 => some 8
  | uint16 => some 16
  | uint32 => some 32
  | _ => none

def floatBits : GoType → Option Nat
  | float32 => some 32
  | float64 => some 64
  | _ => none

def name : GoType → String
  | int => "int" | int8 => "int8" | int16 => "int16" | int32 => "int32" | int64 => "int64"
  | uint => "uint" | uint8 => "uint8" | uint16 => "uint16" | uint32 => "uint32"
  | uint64 => "uint64"
  | float32 => "float32" | float64 => "float64"
  | bool => "bool"
  | string => "string"
  | slice e => "[]" ++ e.name
  | iface => "interface {}"
  | ptr e => "*" ++ e.name
  | strct n _ | other n => n

end GoType

/-- A Go value: of an integer kind, a float kind (as `ParseFloat` returns it), `bool` or
`string`; a slice, by its length and backing array; an `interface{}` holding a reply; a
pointer; a struct, by its fields; or a value of another kind. -/
inductive GoValue where
  | int (v : Int)
  | uint (v : Nat)
  | float (v : Float)
  | bool (b : Bool)
  | str (s : GoString)
  | slice (len : Nat) (backing : List GoValue)
  | iface (v : Reply)
  | ptr (v : Option GoValue)
  | strct (fields : List GoValue)
  | other

mutual
def GoType.zero : GoType → GoValue
  | .int | .int8 | .int16 | .int32 | .int64 => .int 0
  | .uint | .uint8 | .uint16 | .uint32 | .uint64 => .uint 0
  | .float32 | .float64 => .float 0
  | .bool => .bool false
  | .string => .str []
  | .slice _ => .slice 0 []
  | .iface => .iface .nil
  | .ptr _ => .ptr none
  | .strct _ fs => .strct (GoType.zeroFields fs)
  | .other _ => .other

def GoType.zeroFields : List (FieldHeader × GoType) → List GoValue
  | [] => []
  | (_, t) :: fs => t.zero :: GoType.zeroFields fs
end

/-- A `reflect.Value`: none is the zero `Value`, on which `Type()` panics. -/
abbrev RValue := Option (GoType × GoValue)

def GoValue.ofBytes (b : GoString) : GoValue := .slice b.length (b.map fun c => .uint c.toNat)

/-! ## `FieldByIndex` -/

def GoType.fieldType : List Nat → GoType → Option GoType
  | [], t => some t
  | i :: is, .strct _ fs => fs[i]?.bind fun f => GoType.fieldType is f.2
  | _ :: _, _ => none

def GoValue.field : List Nat → GoValue → Option GoValue
  | [], v => some v
  | i :: is, .strct fs => fs[i]?.bind (GoValue.field is)
  | _ :: _, _ => none

def GoValue.setField : GoValue → List Nat → GoValue → GoValue
  | _, [], x => x
  | .strct fs, i :: is, x =>
    .strct (match fs[i]? with
      | some f => fs.set i (f.setField is x)
      | none => fs)
  | v, _ :: _, _ => v

/-! ## `structSpec` -/

structure Panic where
  msg : String
  deriving DecidableEq

structure FieldSpec where
  name : String
  index : List Nat
  omitEmpty : Bool
  deriving DecidableEq

/-- `structSpec`: `m` looks names up by their bytes, `l` lists the fields in order. -/
structure StructSpec where
  m : GoString → Option FieldSpec
  l : List FieldSpec

/-- What `compileStructSpec` updates: the depth at which each name was found, and the spec. -/
abbrev SpecState := (String → Option Nat) × StructSpec

/-- `strings.Split(tag, ",")` from the piece read so far, reversed: `""` gives `[""]`. -/
def splitComma : List Char → List Char → List String
  | [], cur => [String.mk cur.reverse]
  | c :: cs, cur =>
    if c = ',' then String.mk cur.reverse :: splitComma cs [] else splitComma cs (c :: cur)

/-- The options after the name in a `redis` tag: `omitempty`, or a panic. -/
def tagOptions (tName : String) : List String → Except Panic Bool
  | [] => .ok false
  | s :: ss =>
    if s = "omitempty" then (tagOptions tName ss).map fun _ => true
    else .error ⟨"redis: unknown field tag " ++ s ++ " for type " ++ tName⟩

/-- The `default` case of `compileStructSpec` for field `i` at `index`: a field tagged `-` is
skipped; a name first found at this depth replaces any deeper one, a name found again at the
same depth is removed, and a deeper one is ignored. -/
def compileField (tName : String) (index : List Nat) (i : Nat) (f : FieldHeader)
    (acc : SpecState) : Except Panic SpecState :=
  let p := splitComma f.tag.data []
  if p.head? = some "-" then .ok acc
  else
    let name := match p.head? with
      | some p0 => if p0.length > 0 then p0 else f.name
      | none => f.name
    match tagOptions tName p.tail with
    | .error e => .error e
    | .ok omitEmpty =>
      let (depth, ss) := acc
      let d := (depth name).getD (2 ^ 30)
      if index.length = d then
        .ok (depth, ⟨Function.update ss.m (.ofString name) none, ss.l.filter (·.name ≠ name)⟩)
      else if index.length < d then
        let fs : FieldSpec := ⟨name, index ++ [i], omitEmpty⟩
        .ok (Function.update depth name (some index.length),
          ⟨Function.update ss.m (.ofString name) (some fs), ss.l ++ [fs]⟩)
      else .ok acc

mutual
/-- `compileStructSpec` on an embedded field: into a struct, nothing for other types. -/
def compileEmbedded : GoType → List Nat → SpecState → Except Panic SpecState
  | .strct n fs, index, acc => compileFields n index 0 fs acc
  | _, _, acc => .ok acc

/-- The loop of `compileStructSpec` over the fields of struct `tName`, from field `i` on. -/
def compileFields (tName : String) (index : List Nat) :
    Nat → List (FieldHeader × GoType) → SpecState → Except Panic SpecState
  | _, [], acc => .ok acc
  | i, (f, t) :: fs, acc =>
    if !f.exported ∧ !f.anonymous then compileFields tName index (i + 1) fs acc
    else if f.anonymous then
      match compileEmbedded t (index ++ [i]) acc with
      | .error e => .error e
      | .ok acc => compileFields tName index (i + 1) fs acc
    else
      match compileField tName index i f acc with
      | .error e => .error e
      | .ok acc => compileFields tName index (i + 1) fs acc
end

/-- `structSpecForType(t)` for a struct type: the spec compiled from an empty one. The cache
only saves recompiling. -/
def structSpecForType (t : GoType) : Except Panic StructSpec :=
  (compileEmbedded t [] (fun _ => none, ⟨fun _ => none, []⟩)).map (·.2)

/-! ## `AddFlat` -/

abbrev Arg := GoType × GoValue

/-- The `omitempty` test of `flattenStruct`, by kind: a zero length, `false`, zero, or `nil`. -/
def GoValue.isEmpty : GoValue → Bool
  | .slice n _ => n == 0
  | .str s => s.isEmpty
  | .bool b => !b
  | .int x => x == 0
  | .uint x => x == 0
  | .float x => x == 0
  | .iface r => match r with
    | .nil => true
    | _ => false
  | .ptr v => v.isNone
  | .strct _ | .other => false

/-- `flattenStruct`: each field of the spec's list, by name and value, unless `omitempty`
leaves it out. -/
def flattenStruct (args : List Arg) (t : GoType) (v : GoValue) : Except Panic (List Arg) :=
  (structSpecForType t).map fun ss =>
    ss.l.foldl (fun args fs =>
        match t.fieldType fs.index, v.field fs.index with
        | some ft, some fv =>
          if fs.omitEmpty ∧ fv.isEmpty then args
          else args ++ [(.string, .str (.ofString fs.name)), (ft, fv)]
        | _, _ => args)
      args

/-- `AddFlat`: a struct, or a non-nil pointer to one, by its fields; a slice by its elements;
anything else as it is. -/
def addFlat (args : List Arg) : Arg → Except Panic (List Arg)
  | (.strct n fs, v) => flattenStruct args (.strct n fs) v
  | (.slice e, .slice n backing) => .ok (args ++ (backing.take n).map (e, ·))
  | (.ptr (.strct n fs), .ptr (some v)) => flattenStruct args (.strct n fs) v
  | (.ptr (.strct _ _), .ptr none) => .ok args
  | a => .ok (args ++ [a])

end GrabRedis
