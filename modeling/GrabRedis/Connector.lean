import GrabRedis.Lifecycle
import GrabRedis.Matching
import GrabRedis.Scheduler

/-!
# The connector: a primary, its shadows, and hot reload

`NewDynamicConnector`, the change callback it registers, and `connectorImpl.reload`. The model
keeps a heap of every client the process created, numbered in creation order, with the
`ShutDown` calls made on them; a client's config is its wrapper's.
-/

namespace GrabRedis

set_option autoImplicit false

/-- Every client the process created, numbered in creation order; the breaker registry; and
the clients `ShutDown` was called on, in call order. -/
structure Heap where
  size : Nat
  clients : Nat → Wrapper
  registry : Registry
  shutDowns : List Nat

namespace Heap

def empty : Heap := ⟨0, fun _ => default, Registry.empty, []⟩

def get (h : Heap) (x : Nat) : Wrapper := h.clients x

def nameOf (h : Heap) (x : Nat) : String := (h.get x).config.name.1

def set (h : Heap) (x : Nat) (w : Wrapper) : Heap :=
  { h with clients := Function.update h.clients x w }

def setConfig (h : Heap) (x : Nat) (c : ClientConfig) : Heap := h.set x { h.get x with config := c }

def shutDown (h : Heap) (x : Nat) : Heap := { h with shutDowns := h.shutDowns ++ [x] }

def reload (h : Heap) (x : Nat) (config : ClientConfig) (cbOptions : List CBOption) :
    Except String Unit × Heap :=
  let r := (h.get x).reload config cbOptions h.registry
  (r.result, { h.set x r.wrapper with registry := r.registry })

@[simp] theorem get_set_same (h : Heap) (x : Nat) (w : Wrapper) : (h.set x w).get x = w := by
  simp [get, set]

@[simp] theorem get_set_ne (h : Heap) {x y : Nat} (w : Wrapper) (hy : y ≠ x) :
    (h.set x w).get y = h.get y := by
  simp [get, set, Function.update_noteq hy]

@[simp] theorem size_set (h : Heap) (x : Nat) (w : Wrapper) : (h.set x w).size = h.size := rfl

@[simp] theorem shutDowns_set (h : Heap) (x : Nat) (w : Wrapper) :
    (h.set x w).shutDowns = h.shutDowns := rfl

@[simp] theorem size_reload (h : Heap) (x : Nat) (c : ClientConfig) (cb : List CBOption) :
    (h.reload x c cb).2.size = h.size := rfl

@[simp] theorem shutDowns_reload (h : Heap) (x : Nat) (c : ClientConfig) (cb : List CBOption) :
    (h.reload x c cb).2.shutDowns = h.shutDowns := rfl

@[simp] theorem get_reload_ne (h : Heap) {x y : Nat} (c : ClientConfig) (cb : List CBOption)
    (hy : y ≠ x) : (h.reload x c cb).2.get y = h.get y :=
  get_set_ne h _ hy

@[simp] theorem size_setConfig (h : Heap) (x : Nat) (c : ClientConfig) :
    (h.setConfig x c).size = h.size := rfl

end Heap

/-- `newClient`: the wrapped client is created before the context is checked, and is left open
when the context is done. -/
def newClient (ctxErr : Option String) (config : ClientConfig) (cbOptions : List CBOption)
    (h : Heap) : Except String Nat × Heap :=
  match (config.createClient cbOptions h.registry).1 with
  | .error e => (.error e, h)
  | .ok w =>
    let h' : Heap :=
      { h with
        size := h.size + 1
        clients := Function.update h.clients h.size w
        registry := (config.createClient cbOptions h.registry).2 }
    match ctxErr with
    | some e => (.error e, h')
    | none => (.ok h.size, h')

/-- The loop of `NewDynamicConnector` creating the shadows; it stops at the first error. -/
def newClients (ctxErr : Option String) (cbOptions : List CBOption) :
    List ClientConfig → Heap → Except String (List Nat) × Heap
  | [], h => (.ok [], h)
  | config :: configs, h =>
    match newClient ctxErr config cbOptions h with
    | (.error e, h) => (.error e, h)
    | (.ok x, h) =>
      let rest := newClients ctxErr cbOptions configs h
      (rest.1.map (x :: ·), rest.2)

/-! ## `reload` -/

/-- `loadTestMap`: Go's map from a canonical name to a stack of clients. `keys` holds the names
in the order they were first inserted; Go ranges over a map in no fixed order, and the model
takes this one. -/
structure LoadTestMap where
  keys : List String
  byName : String → List Nat

def LoadTestMap.empty : LoadTestMap := ⟨[], fun _ => []⟩

def LoadTestMap.push (m : LoadTestMap) (key : String) (x : Nat) : LoadTestMap :=
  ⟨if key ∈ m.keys then m.keys else m.keys ++ [key],
    Function.update m.byName key (m.byName key ++ [x])⟩

/-- The first loop of `reload`: each old shadow under its name, which sorts its addresses. -/
def buildLoadTestMap : List Nat → LoadTestMap → Heap → LoadTestMap × Heap
  | [], m, h => (m, h)
  | x :: xs, m, h =>
    buildLoadTestMap xs (m.push (h.nameOf x) x) (h.setConfig x (h.get x).config.name.2)

/-- The matching loop of `reload`: each new config pops the last old shadow of its name, which
must not share the primary's addresses and is reloaded, or gets a new client. It stops at the
first error. -/
def matchLoadTests (ctxErr : Option String) (cbOptions : List CBOption) (primary : Nat) :
    List ClientConfig → LoadTestMap → Heap → Except String (List Nat) × LoadTestMap × Heap
  | [], m, h => (.ok [], m, h)
  | config :: configs, m, h =>
    let p := pop m.byName config.name.1
    let m : LoadTestMap := { m with byName := p.2 }
    match p.1 with
    | some client =>
      let r := isAddrsEquals (h.get primary).config.addrs config.name.2.addrs
      let h := h.setConfig primary { (h.get primary).config with addrs := r.2.1 }
      if r.1 then (.error "can't share the same address with the main client", m, h)
      else
        match h.reload client { config.name.2 with addrs := r.2.2 } cbOptions with
        | (.error e, h) => (.error e, m, h)
        | (.ok (), h) =>
          let rest := matchLoadTests ctxErr cbOptions primary configs m h
          (rest.1.map (client :: ·), rest.2)
    | none =>
      match newClient ctxErr config.name.2 cbOptions h with
      | (.error e, h) => (.error e, m, h)
      | (.ok client, h) =>
        let rest := matchLoadTests ctxErr cbOptions primary configs m h
        (rest.1.map (client :: ·), rest.2)

/-- The last loop of `reload`: every shadow left in the map is shut down. -/
def shutDownRest (m : LoadTestMap) (h : Heap) : Heap :=
  m.keys.foldl (fun h key => (m.byName key).foldl Heap.shutDown h) h

/-- `connectorImpl`: the primary, the shadows, and the scheduler's options. -/
structure Connector where
  client : Nat
  loadTestClients : List Nat
  processAllLoadTestPackets : Bool
  schedulerOptions : SchedulerOptions
  deriving DecidableEq

namespace Connector

/-- `reload`, with the context of `NewDynamicConnector`, whose error `ctxErr` is. -/
def reload (ctxErr : Option String) (cbOptions : List CBOption) (config : ValidConfig)
    (c : Connector) (h : Heap) : Except String Unit × Connector × Heap :=
  if !config.hotReload then (.ok (), c, h)
  else
    let c := { c with processAllLoadTestPackets := config.processAllLoadTestPackets }
    if c.schedulerOptions.maxWorker ≠ config.schedulerWorkerNumber ∨
        c.schedulerOptions.maxChanSize ≠ config.schedulerChannelSize ∨
        c.schedulerOptions.workerIdleTimeout ≠
          parseDurationInMs config.schedulerWorkerIdleTimeoutInMs then
      (.error "dual write worker number/channel size change is not allowed in reloading", c, h)
    else
      match h.reload c.client config.main cbOptions with
      | (.error e, h) => (.error e, c, h)
      | (.ok (), h) =>
        let b := buildLoadTestMap c.loadTestClients .empty h
        match matchLoadTests ctxErr cbOptions c.client config.loadTests b.1 b.2 with
        | (.error e, _, h) => (.error e, c, h)
        | (.ok ids, m, h) => (.ok (), { c with loadTestClients := ids }, shutDownRest m h)

def onChange (ctxErr : Option String) (cbOptions : List CBOption) (config : ConnectorConfig)
    (c : Connector) (h : Heap) : Except Failure Unit × Connector × Heap :=
  match config.initAndValidate with
  | .error f => (.error f, c, h)
  | .ok v =>
    let r := c.reload ctxErr cbOptions v h
    (r.1.mapError .error, r.2)

end Connector

/-- `NewDynamicConnector`; the scheduler's options are normalised by `newScheduler`. -/
def NewDynamicConnector (ctxErr : Option String) (cbOptions : List CBOption)
    (config : ConnectorConfig) (h : Heap) : Except Failure Connector × Heap :=
  match config.initAndValidate with
  | .error f => (.error f, h)
  | .ok v =>
    match newClient ctxErr v.main cbOptions h with
    | (.error e, h) => (.error (.error e), h)
    | (.ok client, h) =>
      match newClients ctxErr cbOptions v.loadTests h with
      | (.error e, h) => (.error (.error e), h)
      | (.ok ids, h) =>
        (.ok ⟨client, ids, v.processAllLoadTestPackets,
          SchedulerOptions.normalise ⟨v.schedulerChannelSize, v.schedulerWorkerNumber,
            parseDurationInMs v.schedulerWorkerIdleTimeoutInMs⟩⟩, h)

/-- The states a connector reaches: `NewDynamicConnector` in a fresh process, then any
calls of the change callback, each with what the context's error is at that time. -/
inductive Reachable (cbOptions : List CBOption) : Connector × Heap → Prop
  | connect (ctxErr : Option String) (config : ConnectorConfig) (c : Connector) (h : Heap)
      (hc : NewDynamicConnector ctxErr cbOptions config Heap.empty = (.ok c, h)) :
      Reachable cbOptions (c, h)
  | change (ctxErr : Option String) (config : ConnectorConfig) (s : Connector × Heap)
      (hs : Reachable cbOptions s) :
      Reachable cbOptions (s.1.onChange ctxErr cbOptions config s.2).2

/-! ## How the steps of `reload` change the heap -/

/-- How a step of `reload` changes the heap: clients are only added, every client keeps its
backend, the clients from `lo` on are left alone once created, and none is shut down. -/
structure Heap.Grows (lo : Nat) (h h' : Heap) : Prop where
  size_le : h.size ≤ h'.size
  backend : ∀ x < h.size, SameBackend (h'.get x).config (h.get x).config
  fresh : ∀ x, lo ≤ x → x < h.size → h'.get x = h.get x
  shutDowns : h'.shutDowns = h.shutDowns

namespace Heap.Grows

variable {lo : Nat} {h h' h'' : Heap}

@[refl] theorem refl (lo : Nat) (h : Heap) : Grows lo h h :=
  ⟨le_rfl, fun _ _ => .refl _, fun _ _ _ => rfl, rfl⟩

@[trans] theorem trans (g : Grows lo h h') (g' : Grows lo h' h'') : Grows lo h h'' :=
  ⟨g.size_le.trans g'.size_le,
    fun x hx => (g'.backend x (lt_of_lt_of_le hx g.size_le)).trans (g.backend x hx),
    fun x hl hx => (g'.fresh x hl (lt_of_lt_of_le hx g.size_le)).trans (g.fresh x hl hx),
    g'.shutDowns.trans g.shutDowns⟩

end Heap.Grows

theorem Heap.setConfig_grows {lo x : Nat} (h : Heap) (c : ClientConfig) (hx : x < lo)
    (hc : SameBackend c (h.get x).config) : Grows lo h (h.setConfig x c) := by
  refine ⟨le_rfl, fun y _ => ?_, fun y hy _ => ?_, rfl⟩
  · by_cases hyx : y = x
    · subst hyx; simpa [setConfig] using hc
    · simpa [setConfig, hyx] using SameBackend.refl (h.get y).config
  · simp [setConfig, show y ≠ x by omega]

theorem Heap.reload_grows {lo x : Nat} (h : Heap) (c : ClientConfig) (cb : List CBOption)
    (hx : x < lo) : Grows lo h (h.reload x c cb).2 := by
  have hget : ∀ y, (h.reload x c cb).2.get y =
      (h.set x ((h.get x).reload c cb h.registry).wrapper).get y := fun _ => rfl
  refine ⟨le_rfl, fun y _ => ?_, fun y hy _ => ?_, rfl⟩
  · by_cases hyx : y = x
    · subst hyx; simpa [hget] using Wrapper.reload_sameBackend (h.get y) c cb h.registry
    · simpa [hget, hyx] using SameBackend.refl (h.get y).config
  · simp [hget, show y ≠ x by omega]

theorem newClient_spec (ctxErr : Option String) (config : ClientConfig) (cb : List CBOption)
    (h : Heap) :
    let r := newClient ctxErr config cb h
    (r.2 = h ∨ (r.2.size = h.size + 1 ∧ (∀ y < h.size, r.2.get y = h.get y) ∧
        (r.2.get h.size).config = config ∧ r.2.shutDowns = h.shutDowns)) ∧
      ∀ x, r.1 = .ok x → x = h.size ∧ r.2.size = h.size + 1 ∧ (r.2.get x).config = config := by
  unfold newClient
  split
  · exact ⟨.inl rfl, fun x hx => by cases hx⟩
  · rename_i w hw
    have hc := (createClient_ok config cb h.registry _ w (Prod.ext hw rfl)).1
    have hs : ∀ y < h.size, Function.update h.clients h.size w y = h.clients y :=
      fun y hy => Function.update_noteq (ne_of_lt hy) _ _
    split
    · exact ⟨.inr ⟨rfl, hs, by simp [Heap.get, hc], rfl⟩, fun x hx => by cases hx⟩
    · exact ⟨.inr ⟨rfl, hs, by simp [Heap.get, hc], rfl⟩,
        fun x hx => by cases hx; exact ⟨rfl, rfl, by simp [Heap.get, hc]⟩⟩

theorem newClient_grows (lo : Nat) (ctxErr : Option String) (config : ClientConfig)
    (cb : List CBOption) (h : Heap) :
    Heap.Grows lo h (newClient ctxErr config cb h).2 := by
  rcases (newClient_spec ctxErr config cb h).1 with he | ⟨hs, hg, -, hd⟩
  · rw [he]
  · exact ⟨by omega, fun y hy => by rw [hg y hy], fun y _ hy => hg y hy, hd⟩

theorem foldl_shutDown (l : List Nat) (h : Heap) :
    l.foldl Heap.shutDown h = { h with shutDowns := h.shutDowns ++ l } := by
  induction l generalizing h with
  | nil => simp
  | cons x l ih => simp [ih, Heap.shutDown]

theorem shutDownRest_eq (m : LoadTestMap) (h : Heap) :
    shutDownRest m h = { h with shutDowns := h.shutDowns ++ m.keys.flatMap m.byName } := by
  unfold shutDownRest
  induction m.keys generalizing h with
  | nil => simp
  | cons k ks ih => rw [List.foldl_cons, ih, foldl_shutDown]; simp

end GrabRedis
