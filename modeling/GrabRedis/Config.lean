import Mathlib

/-!
# Configuration records of the connector

`ClientConfig` and `ConnectorConfig` with the defaulting (`init`), the checks
(`validate`, `validateReload`, `initAndValidate`) and the canonical name used to
match shadows on reload. Go's `int` is `Int`; a `*ClientConfig` that JSON may leave
`nil` is an `Option`. Go mutates configs in place: `name` and `isAddrsEquals` sort
address slices, so both return the slices as they leave them.
-/

namespace GrabRedis

set_option autoImplicit false

inductive Failure where
  | error (msg : String)
  | panic (msg : String)
  deriving DecidableEq

instance instDecidableEqExcept {ε α : Type} [DecidableEq ε] [DecidableEq α] :
    DecidableEq (Except ε α)
  | .error a, .error b => if h : a = b then isTrue (h ▸ rfl) else isFalse fun e => by cases e; exact h rfl
  | .ok a, .ok b => if h : a = b then isTrue (h ▸ rfl) else isFalse fun e => by cases e; exact h rfl
  | .error _, .ok _ => isFalse nofun
  | .ok _, .error _ => isFalse nofun

abbrev ClientMode := String
abbrev ReadMode := String

def ModeCluster : ClientMode := "cluster"
def ModeMasterSlaveGroup : ClientMode := "masterSlaveGroup"
def ModeSingleHost : ClientMode := "singleHost"

def ModeReadFromMaster : ReadMode := "readFromMaster"
def ModeReadFromSlaves : ReadMode := "readFromSlaves"
def ModeReadRandomly : ReadMode := "readRandomly"
def ModeReadByLatency : ReadMode := "readByLatency"

def ucmEmptyString : String := "<nil>"
def defaultHostAndPort : String := "localhost:6379"
def defaultReadMode : ReadMode := ModeReadFromSlaves
def defaultDialTimeoutInMs : Int := 5000
def defaultCBTimeoutInMS : Int := 31000
def defaultCBMaxConcurrent : Int := 5000
def defaultCBErrPercent : Int := 50
def defaultMaxChanSize : Int := 10000
def defaultMaxWorker : Int := 10
def defaultWorkerIdleTimeout : Int := 1000

def modeIn (m : String) (modes : List String) : Bool := modes.any (· == m)

def ClientMode.In (m : ClientMode) (modes : List ClientMode) : Bool := modeIn m modes
def ClientMode.IsValid (m : ClientMode) : Bool :=
  ClientMode.In m [ModeCluster, ModeMasterSlaveGroup, ModeSingleHost]

def ReadMode.In (m : ReadMode) (modes : List ReadMode) : Bool := modeIn m modes
def ReadMode.IsValid (m : ReadMode) : Bool :=
  ReadMode.In m [ModeReadFromMaster, ModeReadFromSlaves, ModeReadRandomly, ModeReadByLatency]

structure Hystrix where
  timeoutInMs : Int
  maxConcurrentRequests : Int
  requestVolumeThreshold : Int
  errorPercentThreshold : Int
  sleepWindowInMs : Int
  queueSizeRejectionThreshold : Int
  deriving DecidableEq, Inhabited

def Hystrix.Equals (h hystrix : Hystrix) : Bool :=
  h.timeoutInMs == hystrix.timeoutInMs &&
  h.maxConcurrentRequests == hystrix.maxConcurrentRequests &&
  h.requestVolumeThreshold == hystrix.requestVolumeThreshold &&
  h.errorPercentThreshold == hystrix.errorPercentThreshold &&
  h.sleepWindowInMs == hystrix.sleepWindowInMs &&
  h.queueSizeRejectionThreshold == hystrix.queueSizeRejectionThreshold

@[simp] theorem Hystrix.Equals_iff (h g : Hystrix) : h.Equals g = true ↔ h = g := by
  cases h; cases g; simp [Hystrix.Equals, and_assoc]

structure ClientConfig where
  clientMode : ClientMode
  addrs : List String
  username : String
  password : String
  db : Int
  maxRetries : Int
  minRetryBackoffInMs : Int
  maxRetryBackoffInMs : Int
  dialTimeoutInMs : Int
  readTimeoutInMs : Int
  writeTimeoutInMs : Int
  poolSize : Int
  minIdleConns : Int
  maxIdleConns : Int
  maxConnAgeInMs : Int
  poolTimeoutInMs : Int
  idleTimeoutInMs : Int
  idleCheckFrequencyInMs : Int
  tlsEnabled : Bool
  hystrixEnabled : Bool
  hystrix : Hystrix
  maxRedirects : Int
  readMode : ReadMode
  ignoreReadOnly : Bool
  deriving DecidableEq, Inhabited

structure ConnectorConfig where
  main : Option ClientConfig
  loadTests : List (Option ClientConfig)
  hotReload : Bool
  processAllLoadTestPackets : Bool
  schedulerWorkerNumber : Int
  schedulerChannelSize : Int
  schedulerWorkerIdleTimeoutInMs : Int
  deriving DecidableEq

/-- The config JSON decoding yields when only `clientMode` and `addrs` are given. -/
def ClientConfig.ofAddrs (mode : ClientMode) (addrs : List String) : ClientConfig :=
  ⟨mode, addrs, "", "", 0, 0, 0, 0, 0, 0, 0, 0, 0, 0, 0, 0, 0, 0, false, false, ⟨0, 0, 0, 0, 0, 0⟩,
    0, "", false⟩

/-! ## Address slices -/

/-- Go orders strings bytewise, which for UTF-8 is the order of code points. -/
def addrLe (a b : String) : Prop := a.toList ≤ b.toList

instance : DecidableRel addrLe := fun a b => inferInstanceAs (Decidable (a.toList ≤ b.toList))

theorem addrLe_iff {a b : String} : addrLe a b ↔ a ≤ b := String.le_iff_toList_le.symm

theorem addrLe_total (a b : String) : addrLe a b ∨ addrLe b a := by
  simp only [addrLe_iff]; exact le_total a b

theorem addrLe_trans {a b c : String} : addrLe a b → addrLe b c → addrLe a c := by
  simp only [addrLe_iff]; exact le_trans

theorem addrLe_antisymm {a b : String} : addrLe a b → addrLe b a → a = b := by
  simp only [addrLe_iff]; exact le_antisymm

instance : IsTotal String addrLe := ⟨addrLe_total⟩
instance : IsTrans String addrLe := ⟨fun _ _ _ => addrLe_trans⟩
instance : IsAntisymm String addrLe := ⟨fun _ _ => addrLe_antisymm⟩

/-- `sort.Strings`: any sort gives the one sorted permutation. -/
def sortStrings (l : List String) : List String := l.insertionSort addrLe

theorem sortStrings_perm (l : List String) : (sortStrings l).Perm l := List.perm_insertionSort _ l

theorem sortStrings_eq_of_perm {a b : List String} (h : a.Perm b) :
    sortStrings a = sortStrings b :=
  List.eq_of_perm_of_sorted (((sortStrings_perm a).trans h).trans (sortStrings_perm b).symm)
    (List.sorted_insertionSort _ _) (List.sorted_insertionSort _ _)

theorem perm_of_sortStrings_eq {a b : List String} (h : sortStrings a = sortStrings b) :
    a.Perm b :=
  (sortStrings_perm a).symm.trans (h ▸ sortStrings_perm b)

@[simp] theorem sortStrings_length (l : List String) : (sortStrings l).length = l.length :=
  (sortStrings_perm l).length_eq

/-- `isAddrsEquals`: the verdict and both slices, which are sorted in place when their
lengths agree. -/
def isAddrsEquals (addrs1 addrs2 : List String) : Bool × List String × List String :=
  if addrs1.length ≠ addrs2.length then (false, addrs1, addrs2)
  else (sortStrings addrs1 == sortStrings addrs2, sortStrings addrs1, sortStrings addrs2)

theorem isAddrsEquals_iff (a b : List String) : (isAddrsEquals a b).1 = true ↔ a.Perm b := by
  unfold isAddrsEquals
  split
  · exact ⟨by simp, fun h => absurd h.length_eq ‹_›⟩
  · simpa using ⟨perm_of_sortStrings_eq, sortStrings_eq_of_perm⟩

theorem isAddrsEquals_perm_left (a b : List String) : (isAddrsEquals a b).2.1.Perm a := by
  unfold isAddrsEquals; split
  · exact .refl a
  · exact sortStrings_perm a

theorem isAddrsEquals_perm_right (a b : List String) : (isAddrsEquals a b).2.2.Perm b := by
  unfold isAddrsEquals; split
  · exact .refl b
  · exact sortStrings_perm b

/-- `time.Duration(ms) * time.Millisecond`, an `int64` product that wraps. -/
def toInt64 (x : Int) : Int := (x + 2 ^ 63) % 2 ^ 64 - 2 ^ 63

def parseDurationInMs (durationInMs : Int) : Int := toInt64 (durationInMs * 1000000)

/-! ## Client configuration -/

namespace ClientConfig

def mode (c : ClientConfig) : String := c.clientMode

/-- The canonical name, and the config as it is left: other modes sort `addrs` in place. -/
def name (c : ClientConfig) : String × ClientConfig :=
  match c.addrs with
  | [] => (defaultHostAndPort, c)
  | a :: rest =>
    if c.clientMode = ModeSingleHost then (a, c)
    else
      let sorted := sortStrings (a :: rest)
      (String.intercalate "," sorted, { c with addrs := sorted })

def init (c : ClientConfig) : ClientConfig :=
  { c with
    addrs := if c.addrs.length = 0 then [defaultHostAndPort] else c.addrs
    readMode := if c.readMode = "" ∨ c.readMode = ucmEmptyString then defaultReadMode
      else c.readMode
    username := if c.username = ucmEmptyString then "" else c.username
    password := if c.password = ucmEmptyString then "" else c.password
    dialTimeoutInMs := if c.dialTimeoutInMs = 0 then defaultDialTimeoutInMs
      else c.dialTimeoutInMs
    hystrix := { c.hystrix with
      timeoutInMs := if c.hystrix.timeoutInMs = 0 then defaultCBTimeoutInMS
        else c.hystrix.timeoutInMs
      maxConcurrentRequests := if c.hystrix.maxConcurrentRequests = 0 then defaultCBMaxConcurrent
        else c.hystrix.maxConcurrentRequests
      errorPercentThreshold := if c.hystrix.errorPercentThreshold = 0 then defaultCBErrPercent
        else c.hystrix.errorPercentThreshold } }

theorem init_idem (c : ClientConfig) : c.init.init = c.init := by
  simp only [init]
  congr 1 <;> split_ifs <;> simp_all [defaultReadMode, ModeReadFromSlaves, ucmEmptyString,
    defaultDialTimeoutInMs, defaultCBTimeoutInMS, defaultCBMaxConcurrent, defaultCBErrPercent]

/-- The read-mode message prints the client mode, as the source does. -/
def validate (c : ClientConfig) : Except String Unit :=
  if c.addrs.length = 0 then .error "no addrs found in config"
  else if !c.clientMode.IsValid then .error ("client mode " ++ c.clientMode ++ " is not valid")
  else if !c.readMode.IsValid then .error ("read mode " ++ c.clientMode ++ " is not valid")
  else .ok ()

/-- After `init`, `validate` rejects only the client mode or a read mode that `init` did not
default: the default address and the default read mode pass their checks. An invalid read
mode is reported with the client mode in its text, as the source formats it. -/
theorem validate_init (c : ClientConfig) :
    c.init.validate =
      if !c.clientMode.IsValid then .error ("client mode " ++ c.clientMode ++ " is not valid")
      else if c.readMode = "" ∨ c.readMode = ucmEmptyString ∨ c.readMode.IsValid then .ok ()
      else .error ("read mode " ++ c.clientMode ++ " is not valid") := by
  have ha : c.init.addrs.length ≠ 0 := by dsimp only [init]; split_ifs <;> simp_all
  have hr : c.init.readMode.IsValid = true ↔
      c.readMode = "" ∨ c.readMode = ucmEmptyString ∨ c.readMode.IsValid := by
    dsimp only [init]
    split_ifs with h
    · exact iff_of_true (show defaultReadMode.IsValid = true by decide)
        (h.elim .inl (.inr ∘ .inl))
    · simp only [not_or] at h; simp [h]
  simp only [validate, if_neg ha, show c.init.clientMode = c.clientMode from rfl, ← hr]
  split_ifs <;> simp_all

example : ({ ClientConfig.ofAddrs ModeCluster [] with readMode := "fromMaster" }).init.validate =
    .error "read mode cluster is not valid" := by decide

theorem validate_init_eq_ok_iff (c : ClientConfig) :
    c.init.validate = .ok () ↔ c.clientMode.IsValid ∧
      (c.readMode = "" ∨ c.readMode = ucmEmptyString ∨ c.readMode.IsValid) := by
  rw [validate_init]
  split_ifs <;> simp_all

/-- Both configs after `c.validateReload(config)`: the address check sorts them. -/
structure Checked where
  result : Except String Unit
  self : ClientConfig
  other : ClientConfig

def validateReload (c config : ClientConfig) : Checked :=
  match config.validate with
  | .error e => ⟨.error e, c, config⟩
  | .ok () =>
    if c.clientMode ≠ config.clientMode then
      ⟨.error "client mode change is not allowed in reloading", c, config⟩
    else if c.db ≠ config.db then ⟨.error "DB change is not allowed in reloading", c, config⟩
    else
      let r := isAddrsEquals c.addrs config.addrs
      ⟨if r.1 then .ok () else .error "addrs change is not allowed in reloading",
        { c with addrs := r.2.1 }, { config with addrs := r.2.2 }⟩

end ClientConfig

/-- What a client is connected to: the mode, the DB and the addresses up to their order. A
reload may not change it. -/
def SameBackend (c d : ClientConfig) : Prop :=
  c.clientMode = d.clientMode ∧ c.db = d.db ∧ c.addrs.Perm d.addrs

@[refl] theorem SameBackend.refl (c : ClientConfig) : SameBackend c c := ⟨rfl, rfl, .refl _⟩

@[symm] theorem SameBackend.symm {c d : ClientConfig} (h : SameBackend c d) : SameBackend d c :=
  ⟨h.1.symm, h.2.1.symm, h.2.2.symm⟩

@[trans] theorem SameBackend.trans {c d e : ClientConfig} (h : SameBackend c d)
    (h' : SameBackend d e) : SameBackend c e :=
  ⟨h.1.trans h'.1, h.2.1.trans h'.2.1, h.2.2.trans h'.2.2⟩

theorem SameBackend.of_perm (c : ClientConfig) {a : List String} (h : a.Perm c.addrs) :
    SameBackend { c with addrs := a } c :=
  ⟨rfl, rfl, h⟩

theorem addrs_ne_nil_of_init {c : ClientConfig} (h : c.init = c) : c.addrs ≠ [] := by
  intro he
  have := congrArg ClientConfig.addrs h
  simp [ClientConfig.init, he] at this

theorem init_sameBackend (c : ClientConfig) (h : c.addrs ≠ []) : SameBackend c.init c :=
  ⟨rfl, rfl, by simp [ClientConfig.init, h]⟩

theorem name_sameBackend (c : ClientConfig) : SameBackend c.name.2 c := by
  unfold ClientConfig.name; split
  · rfl
  · split
    · rfl
    · exact SameBackend.of_perm c (by simp_all [sortStrings_perm])

/-! ## Connector configuration -/

/-- A `ConnectorConfig` after `initAndValidate`: every client config is present, initialised
and valid. -/
structure ValidConfig where
  main : ClientConfig
  loadTests : List ClientConfig
  hotReload : Bool
  processAllLoadTestPackets : Bool
  schedulerWorkerNumber : Int
  schedulerChannelSize : Int
  schedulerWorkerIdleTimeoutInMs : Int
  main_init : main.init = main
  main_valid : main.validate = .ok ()
  loadTests_init : ∀ l ∈ loadTests, l.init = l
  loadTests_valid : ∀ l ∈ loadTests, l.validate = .ok ()

/-- The loop validating the load-test configs, which stops at the first error. -/
def validateAll : List ClientConfig → Except String Unit
  | [] => .ok ()
  | c :: cs =>
    match c.validate with
    | .error e => .error e
    | .ok () => validateAll cs

theorem validateAll_ok {cs : List ClientConfig} (h : validateAll cs = .ok ()) :
    ∀ c ∈ cs, c.validate = .ok () := by
  induction cs with
  | nil => simp
  | cons c cs ih =>
    simp only [validateAll] at h
    split at h
    · cases h
    · rename_i hc; simpa [hc] using ih h

theorem validateAll_eq_ok_iff {cs : List ClientConfig} :
    validateAll cs = .ok () ↔ ∀ c ∈ cs, c.validate = .ok () := by
  induction cs with
  | nil => simp [validateAll]
  | cons c cs ih => simp only [validateAll]; split <;> simp_all

/-- `initAndValidate`; a `nil` client config panics on its first dereference. -/
def ConnectorConfig.initAndValidate (c : ConnectorConfig) : Except Failure ValidConfig :=
  match c.main with
  | none => .error (.panic "nil pointer dereference")
  | some m =>
    match hm : m.init.validate with
    | .error e => .error (.error e)
    | .ok () =>
      match c.loadTests.mapM id with
      | none => .error (.panic "nil pointer dereference")
      | some lts =>
        match hl : validateAll (lts.map ClientConfig.init) with
        | .error e => .error (.error e)
        | .ok () => .ok
          { main := m.init
            loadTests := lts.map ClientConfig.init
            hotReload := c.hotReload
            processAllLoadTestPackets := c.processAllLoadTestPackets
            schedulerWorkerNumber :=
              if c.schedulerWorkerNumber = 0 then defaultMaxWorker else c.schedulerWorkerNumber
            schedulerChannelSize :=
              if c.schedulerChannelSize = 0 then defaultMaxChanSize else c.schedulerChannelSize
            schedulerWorkerIdleTimeoutInMs :=
              if c.schedulerWorkerIdleTimeoutInMs = 0 then defaultWorkerIdleTimeout
              else c.schedulerWorkerIdleTimeoutInMs
            main_init := m.init_idem
            main_valid := hm
            loadTests_init := by simp [ClientConfig.init_idem]
            loadTests_valid := validateAll_ok hl }

theorem ConnectorConfig.hotReload_of_initAndValidate {C : ConnectorConfig} {v : ValidConfig}
    (h : C.initAndValidate = .ok v) : v.hotReload = C.hotReload := by
  unfold initAndValidate at h
  split at h
  · cases h
  split at h
  · cases h
  split at h
  · cases h
  split at h
  · cases h
  cases h
  rfl

theorem mapM_id_eq_some {α : Type} {l : List (Option α)} {xs : List α} :
    l.mapM id = some xs ↔ l = xs.map some := by
  induction l generalizing xs with
  | nil => rw [List.mapM_nil]; cases xs <;> simp [Option.pure_def]
  | cons x l ih =>
    rw [List.mapM_cons]
    cases x with
    | none => exact iff_of_false (by simp) (by cases xs <;> simp)
    | some a =>
      rcases h : l.mapM id with _ | zs
      · refine iff_of_false (by simp [h]) fun he => ?_
        cases xs with
        | nil => cases he
        | cons y ys =>
          rw [List.map_cons, List.cons.injEq] at he
          rw [ih.mpr he.2] at h
          cases h
      · cases xs with
        | nil => simp [h, Option.pure_def]
        | cons y ys =>
          rw [List.map_cons, List.cons.injEq, Option.some.injEq, ← ih, h]
          simp only [Option.bind_eq_bind, Option.some_bind, Option.pure_def, Option.some.injEq,
            List.cons.injEq, id]

/-- `initAndValidate` accepts exactly the configs whose main config and every load-test entry
are present, each with a valid client mode and a read mode that is valid or that `init`
defaults: no address list is rejected, since `init` supplies one. -/
theorem initAndValidate_ok_iff (C : ConnectorConfig) :
    (∃ v, C.initAndValidate = .ok v) ↔ ∃ m lts, C.main = some m ∧ C.loadTests = lts.map some ∧
      ∀ c ∈ m :: lts, c.clientMode.IsValid ∧
        (c.readMode = "" ∨ c.readMode = ucmEmptyString ∨ c.readMode.IsValid) := by
  have hacc : ∀ c : ClientConfig, _ ↔ _ := ClientConfig.validate_init_eq_ok_iff
  simp only [← mapM_id_eq_some, ← hacc]
  unfold ConnectorConfig.initAndValidate
  split
  · simp_all
  · rename_i m hm
    split
    · rename_i e he
      refine iff_of_false (by simp) ?_
      rintro ⟨m', lts, hm', -, hc⟩
      cases hm.symm.trans hm'
      rw [hc m (List.mem_cons_self _ _)] at he
      cases he
    · rename_i hv
      split
      · rename_i hn
        refine iff_of_false (by simp) ?_
        rintro ⟨m', lts, -, hl, -⟩
        rw [hl] at hn
        cases hn
      · rename_i lts hlts
        have hall : validateAll (lts.map ClientConfig.init) = .ok () ↔
            ∀ c ∈ lts, c.init.validate = .ok () := by
          simp [validateAll_eq_ok_iff]
        split
        · rename_i e he
          refine iff_of_false (by simp) ?_
          rintro ⟨m', lts', -, hl, hc⟩
          cases hlts.symm.trans hl
          rw [hall.mpr fun c h => hc c (List.mem_cons_of_mem _ h)] at he
          cases he
        · rename_i hl
          refine iff_of_true ⟨_, rfl⟩ ⟨m, lts, hm, hlts, ?_⟩
          simpa [hv] using hall.mp hl

end GrabRedis
