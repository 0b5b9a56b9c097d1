import Mathlib

/-!
# The `strconv` conversions the replies go through

Go strings and `[]byte`s are byte lists. `ParseUint`, `ParseInt`, `Atoi`, `ParseBool` and
`FormatInt`/`FormatUint` follow Go's standard library for base 10, the only base the
repository uses; `ParseFloat` is left as a parameter of its callers.
-/

namespace GrabRedis

set_option autoImplicit false

/-- A Go `string` or `[]byte`: its bytes. -/
abbrev GoString := List UInt8

/-- The bytes of a Go string literal: its UTF-8 encoding. -/
def GoString.ofString (s : String) : GoString := s.data.flatMap String.utf8EncodeChar

abbrev Int64 := {x : Int // -2 ^ 63 ≤ x ∧ x < 2 ^ 63}

/-- The cause of a `*strconv.NumError`: `ErrSyntax` ("invalid syntax") or `ErrRange`
("value out of range"). -/
inductive NumErr where
  | invalid
  | outOfRange
  deriving DecidableEq

/-- A `*strconv.NumError`: the function that failed, its input and the cause. -/
structure NumError where
  func : String
  num : GoString
  err : NumErr
  deriving DecidableEq

abbrev Parsed (α : Type) := α × Option NumError

/-- The loop of `ParseUint` in base 10 from the value `n` read so far: a non-digit is a syntax
error; a value past `maxVal`, or past `uint64` on the way, a range error. -/
def parseUintDigits (maxVal : Nat) : Nat → GoString → Except NumErr Nat
  | n, [] => .ok n
  | n, c :: cs =>
    if 48 ≤ c.toNat ∧ c.toNat ≤ 57 then
      if 1844674407370955162 ≤ n then .error .outOfRange
      else
        let n := n * 10
        let n1 := (n + (c.toNat - 48)) % 2 ^ 64
        if n1 < n ∨ maxVal < n1 then .error .outOfRange
        else parseUintDigits maxVal n1 cs
    else .error .invalid

/-- `strconv.ParseUint(s, 10, bitSize)`; a `bitSize` of 0 is `int`'s, 64 bits. A syntax error
gives 0, a range error the largest value. -/
def parseUint (s : GoString) (bitSize : Nat) : Parsed Nat :=
  let bitSize := if bitSize = 0 then 64 else bitSize
  let maxVal := 2 ^ bitSize - 1
  if s = [] then (0, some ⟨"ParseUint", s, .invalid⟩)
  else
    match parseUintDigits maxVal 0 s with
    | .ok n => (n, none)
    | .error .invalid => (0, some ⟨"ParseUint", s, .invalid⟩)
    | .error .outOfRange => (maxVal, some ⟨"ParseUint", s, .outOfRange⟩)

def pickSign : GoString → Bool × GoString
  | 43 :: r => (false, r)
  | 45 :: r => (true, r)
  | r => (false, r)

/-- `strconv.ParseInt(s, 10, bitSize)`: an optional sign, then `ParseUint`'s digits, clamped
to the range of `bitSize` bits. -/
def parseInt (s : GoString) (bitSize : Nat) : Parsed Int :=
  if s = [] then (0, some ⟨"ParseInt", s, .invalid⟩)
  else
    let (neg, digits) := pickSign s
    match parseUint digits bitSize with
    | (_, some ⟨_, _, .invalid⟩) => (0, some ⟨"ParseInt", s, .invalid⟩)
    | (un, _) =>
      let bitSize := if bitSize = 0 then 64 else bitSize
      let cutoff := 2 ^ (bitSize - 1)
      if !neg ∧ cutoff ≤ un then (cutoff - 1, some ⟨"ParseInt", s, .outOfRange⟩)
      else if neg ∧ cutoff < un then (-cutoff, some ⟨"ParseInt", s, .outOfRange⟩)
      else (if neg then -un else un, none)

/-- `strconv.Atoi(s)` on a 64-bit platform: `ParseInt(s, 10, 0)` under the name `Atoi`; its
fast path for short inputs gives the same results. -/
def atoi (s : GoString) : Parsed Int :=
  let (n, err) := parseInt s 0
  (n, err.map fun e => { e with func := "Atoi" })

def parseBool (s : GoString) : Parsed Bool :=
  if s ∈ ["1", "t", "T", "TRUE", "true", "True"].map GoString.ofString then (true, none)
  else if s ∈ ["0", "f", "F", "FALSE", "false", "False"].map GoString.ofString then
    (false, none)
  else (false, some ⟨"ParseBool", s, .invalid⟩)

/-! ## Canonical decimal text -/

def digitByte (d : Nat) : UInt8 := UInt8.ofNat (d + 48)

/-- `strconv.FormatUint(n, 10)`: the digits, most significant first, and `"0"` for zero. -/
def formatUint (n : Nat) : GoString :=
  if n = 0 then [digitByte 0] else ((Nat.digits 10 n).map digitByte).reverse

/-- `strconv.FormatInt(x, 10)`: a minus sign before the digits of a negative number. -/
def formatInt (x : Int) : GoString :=
  if x < 0 then 45 :: formatUint x.natAbs else formatUint x.toNat

/-! ## Parsing the canonical text gives the integer back -/

/-- The value of decimal digits, most significant first, read after `n`. -/
def readDigits (n : Nat) (ds : List Nat) : Nat := ds.foldl (fun a d => a * 10 + d) n

@[simp] theorem readDigits_nil (n : Nat) : readDigits n [] = n := rfl

@[simp] theorem readDigits_cons (n d : Nat) (ds : List Nat) :
    readDigits n (d :: ds) = readDigits (n * 10 + d) ds := rfl

theorem le_readDigits (n : Nat) (ds : List Nat) : n ≤ readDigits n ds := by
  induction ds generalizing n with
  | nil => exact le_rfl
  | cons d ds ih => exact le_trans (by omega) (ih (n * 10 + d))

theorem digitByte_toNat {d : Nat} (h : d < 10) : (digitByte d).toNat = d + 48 :=
  UInt8.toNat_ofNat_of_lt (by unfold UInt8.size; omega)

theorem parseUintDigits_digits {maxVal : Nat} (hmax : maxVal < 2 ^ 64) (ds : List Nat)
    (hds : ∀ d ∈ ds, d < 10) (n : Nat) (hn : n ≤ maxVal) :
    parseUintDigits maxVal n (ds.map digitByte) =
      if readDigits n ds ≤ maxVal then .ok (readDigits n ds) else .error .outOfRange := by
  induction ds generalizing n with
  | nil => simp [parseUintDigits, hn]
  | cons d ds ih =>
    have hd := hds d (List.mem_cons_self d ds)
    have hb := digitByte_toNat hd
    have hge := le_readDigits (n * 10 + d) ds
    simp only [List.map_cons, parseUintDigits, readDigits_cons]
    rw [hb, if_pos (by omega), Nat.add_sub_cancel]
    by_cases hc : 1844674407370955162 ≤ n
    · rw [if_pos hc, if_neg (by omega)]
    rw [if_neg hc]
    -- past `maxVal`, with or without a `uint64` overflow on the way
    by_cases hm : maxVal < n * 10 + d
    · rw [if_pos (by omega), if_neg (by omega)]
    · rw [Nat.mod_eq_of_lt (by omega), if_neg (by omega)]
      exact ih (fun d hd' => hds d (List.mem_cons_of_mem _ hd')) _ (by omega)

def decimalDigits (m : Nat) : List Nat := if m = 0 then [0] else (Nat.digits 10 m).reverse

theorem formatUint_eq (m : Nat) : formatUint m = (decimalDigits m).map digitByte := by
  unfold formatUint decimalDigits; split <;> simp [List.map_reverse]

theorem decimalDigits_lt {m d : Nat} (h : d ∈ decimalDigits m) : d < 10 := by
  unfold decimalDigits at h; split at h
  · simp_all
  · exact Nat.digits_lt_base (by omega) (List.mem_reverse.mp h)

theorem readDigits_decimalDigits (m : Nat) : readDigits 0 (decimalDigits m) = m := by
  unfold decimalDigits readDigits; split
  · simp_all
  · rw [List.foldl_reverse]
    conv_rhs => rw [← Nat.ofDigits_digits 10 m]
    generalize Nat.digits 10 m = ds
    induction ds with
    | nil => rfl
    | cons d ds ih => rw [List.foldr_cons, ih, Nat.ofDigits_cons]; omega

theorem decimalDigits_ne_nil (m : Nat) : decimalDigits m ≠ [] := by
  unfold decimalDigits; split
  · simp
  · simpa [Nat.digits_ne_nil_iff_ne_zero]

theorem parseUint_formatUint (m : Nat) {bitSize : Nat} (hb : bitSize ≤ 64) :
    parseUint (formatUint m) bitSize =
      let maxVal := 2 ^ (if bitSize = 0 then 64 else bitSize) - 1
      if m ≤ maxVal then (m, none)
      else (maxVal, some ⟨"ParseUint", formatUint m, .outOfRange⟩) := by
  have hmax : 2 ^ (if bitSize = 0 then 64 else bitSize) - 1 < 2 ^ 64 := by
    have : 2 ^ (if bitSize = 0 then 64 else bitSize) ≤ 2 ^ 64 :=
      Nat.pow_le_pow_right (by omega) (by split <;> omega)
    omega
  have hne : formatUint m ≠ [] := by
    rw [formatUint_eq]; simpa using decimalDigits_ne_nil m
  simp only [parseUint, if_neg hne]
  rw [formatUint_eq, parseUintDigits_digits hmax _ (fun _ => decimalDigits_lt) 0 (Nat.zero_le _),
    readDigits_decimalDigits]
  split_ifs <;> rfl

theorem formatUint_cons (m : Nat) : ∃ d ds, d < 10 ∧ formatUint m = digitByte d :: ds := by
  obtain ⟨d, ds, h⟩ := List.exists_cons_of_ne_nil (decimalDigits_ne_nil m)
  exact ⟨d, ds.map digitByte, decimalDigits_lt (h ▸ List.mem_cons_self d ds),
    by rw [formatUint_eq, h, List.map_cons]⟩

theorem pickSign_digit {c : UInt8} (r : GoString) (h : 48 ≤ c.toNat) :
    pickSign (c :: r) = (false, c :: r) := by
  unfold pickSign; split
  · rename_i he; cases he; exact absurd h (by decide)
  · rename_i he; cases he; exact absurd h (by decide)
  · rfl

/-- `ParseInt` reads back what `FormatInt` wrote when it fits in `bitSize` bits, and otherwise
reports the range error with the value clamped to the nearer bound. -/
theorem parseInt_formatInt (x : Int) {bitSize : Nat}
    (hb : bitSize = 0 ∨ 2 ≤ bitSize ∧ bitSize ≤ 64) :
    let cutoff : Int := 2 ^ ((if bitSize = 0 then 64 else bitSize) - 1)
    parseInt (formatInt x) bitSize =
      if -cutoff ≤ x ∧ x < cutoff then (x, none)
      else (if x < 0 then -cutoff else cutoff - 1, some ⟨"ParseInt", formatInt x, .outOfRange⟩) := by
  intro cutoff
  have hle : bitSize ≤ 64 := by omega
  obtain ⟨B, hB, hBdef⟩ : ∃ B, 2 ≤ B ∧ (if bitSize = 0 then 64 else bitSize) = B :=
    ⟨_, by split <;> omega, rfl⟩
  obtain ⟨P, hP⟩ : ∃ P : Nat, 2 ^ (B - 1) = P := ⟨_, rfl⟩
  have hPI : (2 : Int) ^ (B - 1) = P := by rw [← hP]; push_cast; rfl
  have h2B : 2 ^ B = 2 * P := by rw [← hP, ← pow_succ']; congr 1; omega
  have hP2 : 2 ≤ P := by
    have : 2 ^ 1 ≤ 2 ^ (B - 1) := Nat.pow_le_pow_right (by norm_num) (by omega)
    omega
  rcases lt_or_le x 0 with hx | hx
  · have hf : formatInt x = 45 :: formatUint x.natAbs := if_pos hx
    have ha : (x.natAbs : Int) = -x := Int.ofNat_natAbs_of_nonpos hx.le
    simp only [parseInt, hf, parseUint_formatUint _ hle, pickSign, cutoff, hBdef, hP, hPI, h2B,
      if_neg (List.cons_ne_nil _ _), Bool.not_true, Bool.false_eq_true, false_and, if_false,
      true_and, if_true]
    by_cases h1 : x.natAbs ≤ 2 * P - 1
    · rw [if_pos h1]
      dsimp only
      by_cases h2 : P < x.natAbs
      · rw [if_pos h2, if_neg (by omega), if_pos hx]
      · rw [if_neg h2, if_pos (by omega), ha, neg_neg]
    · rw [if_neg h1]
      dsimp only
      rw [if_pos (by omega), if_neg (by omega), if_pos hx]
  · obtain ⟨d, ds, hd, h⟩ := formatUint_cons x.toNat
    have hf : formatInt x = formatUint x.toNat := if_neg (not_lt.mpr hx)
    have ht : (x.toNat : Int) = x := Int.toNat_of_nonneg hx
    have hs : pickSign (formatUint x.toNat) = (false, formatUint x.toNat) := by
      rw [h]; exact pickSign_digit _ (by rw [digitByte_toNat hd]; omega)
    have hne : formatUint x.toNat ≠ [] := by simp [h]
    simp only [parseInt, hf, hs, if_neg hne, parseUint_formatUint _ hle, cutoff, hBdef, hP, hPI,
      h2B, Bool.not_false, true_and, Bool.false_eq_true, false_and, if_false]
    by_cases h1 : x.toNat ≤ 2 * P - 1
    · rw [if_pos h1]
      dsimp only
      by_cases h2 : P ≤ x.toNat
      · rw [if_pos h2, if_neg (by omega), if_neg (by omega)]
      · rw [if_neg h2, if_pos (by omega), ht]
    · rw [if_neg h1]
      dsimp only
      rw [if_pos (by omega), if_neg (by omega), if_neg (by omega)]

theorem parseUint_formatInt_neg {x : Int} (hx : x < 0) (bitSize : Nat) :
    parseUint (formatInt x) bitSize = (0, some ⟨"ParseUint", formatInt x, .invalid⟩) := by
  have hf : formatInt x = 45 :: formatUint x.natAbs := if_pos hx
  have h45 : (45 : UInt8).toNat = 45 := rfl
  rw [hf]
  simp only [parseUint, List.cons_ne_nil, if_false, parseUintDigits, h45]
  rfl

/-! ## Parses stay in range -/

theorem parseUintDigits_le {maxVal n m : Nat} {s : GoString} (hn : n ≤ maxVal)
    (h : parseUintDigits maxVal n s = .ok m) : m ≤ maxVal := by
  induction s generalizing n with
  | nil => cases h; exact hn
  | cons c cs ih =>
    simp only [parseUintDigits] at h
    split_ifs at h
    exact ih (by omega) h

theorem parseUint_lt (s : GoString) {bitSize : Nat} (hb : 0 < bitSize) :
    (parseUint s bitSize).1 < 2 ^ bitSize := by
  have h2 : 0 < 2 ^ bitSize := Nat.pos_pow_of_pos bitSize (by decide)
  simp only [parseUint, Nat.pos_iff_ne_zero.mp hb, if_false]
  split_ifs
  · exact h2
  · split
    · have := parseUintDigits_le (Nat.zero_le _) ‹_›
      simp only
      omega
    · exact h2
    · simp only; omega

theorem parseInt_bounds (s : GoString) {bitSize : Nat} (hb : 0 < bitSize) :
    -2 ^ (bitSize - 1) ≤ (parseInt s bitSize).1 ∧ (parseInt s bitSize).1 < 2 ^ (bitSize - 1) := by
  have hc : 0 < 2 ^ (bitSize - 1) := Nat.pos_pow_of_pos _ (by decide)
  rw [show (2 : Int) ^ (bitSize - 1) = ((2 ^ (bitSize - 1) : Nat) : Int) by push_cast; rfl]
  unfold parseInt
  by_cases hs : s = []
  · simp only [hs, if_true]; omega
  · simp only [hs, Nat.pos_iff_ne_zero.mp hb, if_false]
    generalize 2 ^ (bitSize - 1) = C at *
    obtain ⟨neg, ds⟩ := pickSign s
    split
    · simp only; omega
    · cases neg <;> split_ifs <;> simp_all <;> omega

end GrabRedis
