import GrabRedis.Wrapper

/-!
# A client's life: creation, node clients, reloads

`createClient`, then node clients the lower layer creates through the `NewClient` hook and
successful reloads. A reload rebuilds what a fresh `createClient` from the new config would,
except what it never touches: TLS, the address order and the hook.
-/

namespace GrabRedis

set_option autoImplicit false

namespace Wrapper

def tlsConfig (w : Wrapper) : Option Bool :=
  match w.pool with
  | .single opt => opt.tlsConfig
  | .cluster opt _ => opt.tlsConfig

def hook (w : Wrapper) : Option (List CBOption) :=
  match w.pool with
  | .single _ => none
  | .cluster opt _ => opt.newClient

/-- The `NewClient` hook is installed exactly when the config has hystrix on. -/
def HookAgrees (w : Wrapper) : Prop :=
  match w.pool with
  | .single _ => True
  | .cluster opt _ => opt.newClient.isSome = w.config.hystrixEnabled

instance (w : Wrapper) : Decidable w.HookAgrees :=
  match w with
  | ⟨_, .single _⟩ => isTrue trivial
  | ⟨c, .cluster opt _⟩ => inferInstanceAs (Decidable (opt.newClient.isSome = c.hystrixEnabled))

def addNodes (w : Wrapper) (addrs : List String) (reg : Registry) : Wrapper × Registry :=
  addrs.foldl (fun g a => g.1.addNode a g.2) (w, reg)

end Wrapper

theorem LimiterAgrees.configure {c : ClientConfig} {reg : Registry} {l : Option Limiter}
    (k : String) (h : LimiterAgrees c reg l) :
    LimiterAgrees c (configureHystrix reg k c.hystrix) l := by
  refine ⟨h.1, fun l' hl => ?_⟩
  by_cases hk : l'.key = k
  · rw [hk]; simp
  · simpa [configureHystrix, Function.update_noteq hk] using h.2 l' hl

theorem singleHostOptions_spec (c : ClientConfig) (cb : List CBOption) (reg : Registry) :
    let r := c.singleHostOptions cb reg
    r.1.pool = c.poolSettings ∧ LimiterAgrees c r.2 r.1.limiter ∧
      r.1.tlsConfig = tlsConfigOf c.tlsEnabled := by
  unfold ClientConfig.singleHostOptions
  by_cases he : c.hystrixEnabled <;> simp [he, LimiterAgrees, newLimiter]

theorem createClient_ok (c : ClientConfig) (cb : List CBOption) (reg reg' : Registry)
    (w : Wrapper) (h : c.createClient cb reg = (.ok w, reg')) :
    w.config = c ∧ SettingsAgree c w reg' ∧ w.HookAgrees ∧
      w.tlsConfig = tlsConfigOf c.tlsEnabled := by
  unfold ClientConfig.createClient at h
  split_ifs at h
  · cases h
    refine ⟨rfl, ⟨rfl, rfl, rfl, by simp⟩, ?_, rfl⟩
    cases hc : c.hystrixEnabled <;> simp [Wrapper.HookAgrees, ClientConfig.clusterOptions, hc]
  · cases h
    refine ⟨rfl, ⟨rfl, rfl, rfl, by simp⟩, ?_, rfl⟩
    cases hc : c.hystrixEnabled <;> simp [Wrapper.HookAgrees, ClientConfig.masterSlaveGroupOptions,
      ClientConfig.clusterOptions, hc]
  · cases h
    obtain ⟨h1, h2, h3⟩ := singleHostOptions_spec c cb reg
    exact ⟨rfl, ⟨h1, h2⟩, trivial, h3⟩
  · cases h

theorem addNode_ok (w : Wrapper) (a : String) (reg : Registry)
    (hw : SettingsAgree w.config w reg) (hh : w.HookAgrees) :
    let g := w.addNode a reg
    g.1.config = w.config ∧ SettingsAgree w.config g.1 g.2 ∧ g.1.HookAgrees ∧
      g.1.tlsConfig = w.tlsConfig := by
  obtain ⟨c, pool⟩ := w
  cases pool with
  | single opt => exact ⟨rfl, hw, hh, rfl⟩
  | cluster opt shards =>
    obtain ⟨hp, hm, hf, hl⟩ := hw
    simp only [Wrapper.HookAgrees] at hh
    simp only [Wrapper.addNode]
    cases hn : opt.newClient with
    | none =>
      rw [hn] at hh
      refine ⟨rfl, ⟨hp, hm, hf, fun n hn' => ?_⟩, by simpa [Wrapper.HookAgrees, hn] using hh, rfl⟩
      rcases List.mem_append.mp hn' with hn' | hn'
      · exact hl n hn'
      · simp only [List.mem_singleton] at hn'; subst hn'
        exact ⟨by simpa using hh, fun l hl => by cases hl⟩
    | some cbo =>
      rw [hn] at hh
      refine ⟨rfl, ⟨hp, hm, hf, fun n hn' => ?_⟩, by simpa [Wrapper.HookAgrees, hn] using hh, rfl⟩
      rcases List.mem_append.mp hn' with hn' | hn'
      · exact (hl n hn').configure _
      · simp only [List.mem_singleton] at hn'; subst hn'
        exact ⟨by simpa using hh, fun l hl => by cases hl; simp [newLimiter]⟩

theorem addNodes_ok (addrs : List String) (w : Wrapper) (reg : Registry)
    (hw : SettingsAgree w.config w reg) (hh : w.HookAgrees) :
    let g := w.addNodes addrs reg
    g.1.config = w.config ∧ SettingsAgree w.config g.1 g.2 ∧ g.1.HookAgrees ∧
      g.1.tlsConfig = w.tlsConfig := by
  induction addrs generalizing w reg with
  | nil => exact ⟨rfl, hw, hh, rfl⟩
  | cons a addrs ih =>
    obtain ⟨h1, h2, h3, h4⟩ := addNode_ok w a reg hw hh
    obtain ⟨g1, g2, g3, g4⟩ := ih _ _ (h1 ▸ h2) h3
    exact ⟨g1.trans h1, h1 ▸ g2, g3, g4.trans h4⟩

theorem Wrapper.reload_ok (w : Wrapper) (N : ClientConfig) (cb : List CBOption) (reg : Registry)
    (hw : SettingsAgree w.config w reg) (hok : (w.reload N cb reg).result = .ok ()) :
    let r := w.reload N cb reg
    SettingsAgree N.init r.wrapper r.registry ∧ SettingsAgree r.wrapper.config r.wrapper r.registry ∧
      r.wrapper.config.hystrixEnabled = N.init.hystrixEnabled ∧
      r.wrapper.tlsConfig = w.tlsConfig ∧ r.wrapper.hook = w.hook := by
  obtain ⟨c, pool⟩ := w
  cases pool with
  | single opt =>
    obtain ⟨h1, h2, h3, opt', hp, ho, -⟩ := clientWrapperImpl_reload_ok c opt N cb reg hw hok
    refine ⟨h1, h2, h3, ?_, ?_⟩ <;>
      simp only [Wrapper.reload, Wrapper.tlsConfig, Wrapper.hook] at hp ⊢ <;> rw [hp]
    rw [ho]
  | cluster opt shards =>
    obtain ⟨h1, h2, h3, opt', shards', hp, ho, -⟩ :=
      clusterWrapperImpl_reload_ok c opt shards N cb reg hw hok
    refine ⟨h1, h2, h3, ?_, ?_⟩ <;>
      simp only [Wrapper.reload, Wrapper.tlsConfig, Wrapper.hook] at hp ⊢ <;> rw [hp, ho]

end GrabRedis

/-! ## Reload against a fresh build, and the node hook -/

namespace GrabRedis

set_option autoImplicit false

namespace Pool

/-- The options of a pool, without the node clients the lower layer created. -/
def options : Pool → Pool
  | .single opt => .single opt
  | .cluster opt _ => .cluster opt []

def nodes : Pool → List Node
  | .single _ => []
  | .cluster _ shards => shards

def withHook (p : Pool) (hook : Option (List CBOption)) : Pool :=
  match p with
  | .single opt => .single opt
  | .cluster opt shards => .cluster { opt with newClient := hook } shards

theorem newClient_of_options {p : Pool} {opt : ClusterOptions} {hook : Option (List CBOption)}
    (h : Pool.cluster opt [] = p.withHook hook) : opt.newClient = hook := by
  cases p with
  | single => cases h
  | cluster o s => cases h; rfl

end Pool

/-- `w` holds the options `createClient c` builds, its seeds up to order and `hook` as its
`NewClient` hook, and every node client the limiter a client from `c` gives it. -/
def BuiltAs (c : ClientConfig) (cb : List CBOption) (hook : Option (List CBOption))
    (w : Wrapper) : Prop :=
  w.config.addrs.Perm c.addrs ∧
    (∃ fresh, (c.createClient cb Registry.empty).1 = .ok fresh ∧
      w.pool.options = fresh.pool.withHook hook) ∧
    ∀ n ∈ w.pool.nodes, n.limiter = nodeLimiter c.hystrixEnabled cb n.addr

theorem singleHostOptions_fst (c : ClientConfig) (cb : List CBOption) (reg : Registry) :
    (c.singleHostOptions cb reg).1 =
      ⟨c.addrs.headD defaultHostAndPort, c.db, c.poolSettings, tlsConfigOf c.tlsEnabled,
        nodeLimiter c.hystrixEnabled cb (c.addrs.headD defaultHostAndPort)⟩ := by
  unfold ClientConfig.singleHostOptions nodeLimiter
  split <;> rename_i h <;> rw [h] <;> split <;> rfl

theorem createClient_fst {c : ClientConfig} {cb : List CBOption} {reg : Registry} {w : Wrapper}
    (h : (c.createClient cb reg).1 = .ok w) :
    w.config = c ∧
      (c.clientMode = ModeCluster ∧ w.pool = .cluster (c.clusterOptions cb) [] ∨
        c.clientMode = ModeMasterSlaveGroup ∧ w.pool = .cluster (c.masterSlaveGroupOptions cb) [] ∨
        c.clientMode = ModeSingleHost ∧ w.pool = .single (c.singleHostOptions cb reg).1) := by
  unfold ClientConfig.createClient at h
  split_ifs at h with h1 h2 h3 <;> cases h
  exacts [⟨rfl, .inl ⟨h1, rfl⟩⟩, ⟨rfl, .inr (.inl ⟨h2, rfl⟩)⟩, ⟨rfl, .inr (.inr ⟨h3, rfl⟩)⟩]

theorem createClient_fst_of_mode {c : ClientConfig} {cb : List CBOption} {reg : Registry}
    {pool : Pool}
    (h : c.clientMode = ModeCluster ∧ pool = .cluster (c.clusterOptions cb) [] ∨
      c.clientMode = ModeMasterSlaveGroup ∧ pool = .cluster (c.masterSlaveGroupOptions cb) [] ∨
      c.clientMode = ModeSingleHost ∧ pool = .single (c.singleHostOptions cb reg).1) :
    (c.createClient cb reg).1 = .ok ⟨c, pool⟩ := by
  rcases h with ⟨h, rfl⟩ | ⟨h, rfl⟩ | ⟨h, rfl⟩ <;>
    simp [ClientConfig.createClient, h, ModeCluster, ModeMasterSlaveGroup, ModeSingleHost]

theorem createClient_builtAs (c : ClientConfig) (cb : List CBOption) (reg : Registry)
    (w : Wrapper) (h : (c.createClient cb reg).1 = .ok w) :
    BuiltAs c cb (if c.hystrixEnabled then some cb else none) w := by
  obtain ⟨rfl, hm⟩ := createClient_fst h
  refine ⟨.refl _, ⟨w, ?_, ?_⟩, ?_⟩
  · rw [← h]; unfold ClientConfig.createClient; split_ifs <;> simp [singleHostOptions_fst]
  all_goals rcases hm with ⟨-, hp⟩ | ⟨-, hp⟩ | ⟨-, hp⟩ <;> rw [hp] <;> first | rfl | simp [Pool.nodes]

@[simp] theorem Wrapper.addNode_config (w : Wrapper) (a : String) (reg : Registry) :
    (w.addNode a reg).1.config = w.config := by
  obtain ⟨c, pool⟩ := w
  cases pool <;> simp only [Wrapper.addNode]; split <;> rfl

theorem addNode_builtAs {c : ClientConfig} {cb : List CBOption} {w : Wrapper} (a : String)
    (reg : Registry) (hb : BuiltAs c cb (if c.hystrixEnabled then some cb else none) w) :
    BuiltAs c cb (if c.hystrixEnabled then some cb else none) (w.addNode a reg).1 := by
  obtain ⟨c', pool⟩ := w
  cases pool with
  | single opt => exact hb
  | cluster opt shards =>
    obtain ⟨hp, ⟨fresh, hf, ho⟩, hl⟩ := hb
    have hn := Pool.newClient_of_options ho
    refine ⟨by rw [Wrapper.addNode_config]; exact hp, ⟨fresh, hf, ?_⟩, fun n hn' => ?_⟩
    · simp only [Wrapper.addNode]; split <;> exact ho
    · simp only [Wrapper.addNode] at hn' ⊢
      split at hn' <;> rename_i hc <;> simp only [Pool.nodes, List.mem_append,
        List.mem_singleton] at hn' <;> rcases hn' with hn' | rfl
      all_goals first | exact hl n hn' | (rw [hc] at hn; split at hn <;> simp_all [nodeLimiter])

theorem addNodes_builtAs {c : ClientConfig} {cb : List CBOption} (addrs : List String)
    (w : Wrapper) (reg : Registry)
    (hb : BuiltAs c cb (if c.hystrixEnabled then some cb else none) w) :
    BuiltAs c cb (if c.hystrixEnabled then some cb else none) (w.addNodes addrs reg).1 := by
  induction addrs generalizing w reg with
  | nil => exact hb
  | cons a addrs ih => exact ih _ _ (addNode_builtAs a reg hb)

/-- A successful reload keeps what the wrapper was built with and rebuilds the rest from the
new config: the fresh build it matches is from `N` with the old addresses and TLS. -/
theorem reload_builtAs (w : Wrapper) (N : ClientConfig) (cb : List CBOption) (reg : Registry)
    {hook : Option (List CBOption)} (hw : SettingsAgree w.config w reg)
    (hb : BuiltAs w.config cb hook w) (hok : (w.reload N cb reg).result = .ok ()) :
    BuiltAs { N.init with addrs := w.config.addrs, tlsEnabled := w.config.tlsEnabled } cb hook
      (w.reload N cb reg).wrapper := by
  obtain ⟨-, hmode, hdb, -⟩ := (ClientConfig.validateReload_ok_iff _ _).mp
    (w.validateReload_of_reload_ok N cb reg hok)
  have hp := (w.reload_sameBackend N cb reg).2.2
  obtain ⟨c0, pool⟩ := w
  obtain ⟨-, ⟨fresh, hf, ho⟩, hl⟩ := hb
  obtain ⟨-, hm⟩ := createClient_fst hf
  dsimp only at hm ho hl hmode hdb hp ⊢
  set K : ClientConfig := { N.init with addrs := c0.addrs, tlsEnabled := c0.tlsEnabled }
  cases pool with
  | single opt =>
    obtain ⟨-, -, -, opt', hr, ho', hl'⟩ := clientWrapperImpl_reload_ok c0 opt N cb reg hw hok
    rcases hm with ⟨-, hq⟩ | ⟨-, hq⟩ | ⟨hs, hq⟩ <;> rw [hq] at ho <;> cases ho
    rw [singleHostOptions_fst] at hl' ho'
    simp only [Wrapper.reload] at hr ⊢
    refine ⟨hp, ⟨⟨K, .single (K.singleHostOptions cb Registry.empty).1⟩, ?_, ?_⟩, ?_⟩
    · exact createClient_fst_of_mode (.inr (.inr ⟨hmode.symm.trans hs, rfl⟩))
    · rw [hr, ho', hl' rfl, singleHostOptions_fst, hdb]; rfl
    · rw [hr]; simp [Pool.nodes]
  | cluster opt shards =>
    obtain ⟨-, -, -, opt', shards', hr, ho', hl'⟩ :=
      clusterWrapperImpl_reload_ok c0 opt shards N cb reg hw hok
    simp only [Wrapper.reload] at hr ⊢
    refine ⟨hp, ?_, by rw [hr]; exact hl' hl⟩
    rcases hm with ⟨hs, hq⟩ | ⟨hs, hq⟩ | ⟨-, hq⟩ <;> rw [hq] at ho <;> cases ho
    · exact ⟨_, createClient_fst_of_mode (.inl ⟨hmode.symm.trans hs, rfl⟩), by rw [hr, ho']; rfl⟩
    · exact ⟨_, createClient_fst_of_mode (.inr (.inl ⟨hmode.symm.trans hs, rfl⟩)),
        by rw [hr, ho']; rfl⟩

/-- A client built by `createClient O` and grown by any node clients is, once `reload N`
succeeds, what `createClient` builds from `N` with `O`'s addresses and `O`'s TLS, keeping
the `NewClient` hook `O` installed; its circuits carry `N`'s settings. -/
theorem reload_configures_as_createClient (O N : ClientConfig) (cb : List CBOption)
    (reg : Registry) (w : Wrapper) (addrs : List String)
    (hc : (O.createClient cb reg).1 = .ok w)
    (hok : ((w.addNodes addrs (O.createClient cb reg).2).1.reload N cb
      (w.addNodes addrs (O.createClient cb reg).2).2).result = .ok ()) :
    let g := w.addNodes addrs (O.createClient cb reg).2
    let r := g.1.reload N cb g.2
    BuiltAs { N.init with addrs := O.addrs, tlsEnabled := O.tlsEnabled } cb
        (if O.hystrixEnabled then some cb else none) r.wrapper ∧
      SettingsAgree N.init r.wrapper r.registry := by
  intro g r
  obtain ⟨hw1, hw2, hw3, -⟩ := createClient_ok O cb reg _ w (Prod.ext hc rfl)
  obtain ⟨g1, g2, -, -⟩ := addNodes_ok addrs w _ (by rw [hw1]; exact hw2) hw3
  have hO : g.1.config = O := g1.trans hw1
  have hg : SettingsAgree g.1.config g.1 g.2 := by rw [g1]; exact g2
  have hb := reload_builtAs g.1 N cb g.2 hg
    (by rw [hO]; exact addNodes_builtAs addrs w _ (createClient_builtAs O cb reg w hc)) hok
  rw [hO] at hb
  exact ⟨hb, (Wrapper.reload_ok g.1 N cb g.2 hg hok).1⟩

theorem reload_configures_as_createClient_cluster :
    let O : ClientConfig :=
      { ClientConfig.ofAddrs ModeCluster ["10.0.0.1:6379"] with hystrixEnabled := true }
    let N := { O with poolSize := 20, readMode := ModeReadRandomly }
    let w : Wrapper := ⟨O, .cluster (O.clusterOptions getDefaultCBOptions) []⟩
    let g := w.addNodes ["10.0.0.1:6379"] (O.createClient getDefaultCBOptions Registry.empty).2
    let r := g.1.reload N getDefaultCBOptions g.2
    (O.createClient getDefaultCBOptions Registry.empty).1 = .ok w ∧ r.result = .ok () ∧
      BuiltAs { N.init with addrs := O.addrs, tlsEnabled := O.tlsEnabled } getDefaultCBOptions
        (if O.hystrixEnabled then some getDefaultCBOptions else none) r.wrapper ∧
      SettingsAgree N.init r.wrapper r.registry :=
  ⟨rfl, rfl, reload_configures_as_createClient _ _ _ _ _ _ rfl rfl⟩

/-- A TLS change passes validation and the reload succeeds, yet the pool keeps TLS off while a
fresh client from the new config has it on. -/
theorem reload_keeps_tls_off :
    let O : ClientConfig := (ClientConfig.ofAddrs ModeSingleHost ["10.0.0.1:6379"]).init
    let N := { O with tlsEnabled := true }
    let w : Wrapper := ⟨O, .single (O.singleHostOptions getDefaultCBOptions Registry.empty).1⟩
    let r := w.reload N getDefaultCBOptions Registry.empty
    (O.createClient getDefaultCBOptions Registry.empty).1 = .ok w ∧
      (O.validateReload N).result = .ok () ∧ r.result = .ok () ∧ r.wrapper.tlsConfig = none ∧
      ∃ w', (N.createClient getDefaultCBOptions r.registry).1 = .ok w' ∧ w'.tlsConfig = some true :=
  ⟨rfl, rfl, rfl, rfl, _, rfl, rfl⟩

/-- One step of a wrapper after `createClient`: a reload that succeeds, or the lower layer
creating a node client. -/
inductive WrapperStep (cb : List CBOption) : Wrapper × Registry → Wrapper × Registry → Prop
  | reload (w : Wrapper) (reg : Registry) (N : ClientConfig)
      (h : (w.reload N cb reg).result = .ok ()) :
      WrapperStep cb (w, reg) ((w.reload N cb reg).wrapper, (w.reload N cb reg).registry)
  | addNode (w : Wrapper) (reg : Registry) (a : String) : WrapperStep cb (w, reg) (w.addNode a reg)

/-- Every node client carries a limiter iff the current config has hystrix on, and its circuit
has the current settings. -/
def NodesAgree (w : Wrapper) (reg : Registry) : Prop :=
  match w.pool with
  | .single _ => True
  | .cluster _ shards => ∀ n ∈ shards, LimiterAgrees w.config reg n.limiter

theorem hookAgrees_of_addNode (w : Wrapper) (a : String) (reg : Registry)
    (h : NodesAgree (w.addNode a reg).1 (w.addNode a reg).2) : w.HookAgrees := by
  obtain ⟨c, pool⟩ := w
  cases pool with
  | single opt => trivial
  | cluster opt shards =>
    simp only [Wrapper.HookAgrees]
    cases hn : opt.newClient with
    | none =>
      simp only [Wrapper.addNode, hn, NodesAgree] at h
      simpa using (h ⟨a, none⟩ (by simp)).1
    | some cbo =>
      simp only [Wrapper.addNode, hn, NodesAgree] at h
      simpa using (h _ (List.mem_append_right _ (List.mem_singleton_self _))).1

/-- Created with hystrix off, a cluster client that reloads with hystrix on and then gets a node
client from the lower layer: the hook installed at creation gives that node no limiter. -/
theorem node_after_enabling_hystrix_lacks_limiter :
    let O : ClientConfig := (ClientConfig.ofAddrs ModeCluster ["10.0.0.1:6379"]).init
    let N := { O with hystrixEnabled := true }
    let w : Wrapper := ⟨O, .cluster (O.clusterOptions getDefaultCBOptions) []⟩
    let r := w.reload N getDefaultCBOptions Registry.empty
    let g := r.wrapper.addNode "10.0.0.2:6379" r.registry
    (O.createClient getDefaultCBOptions Registry.empty).1 = .ok w ∧
      Relation.ReflTransGen (WrapperStep getDefaultCBOptions) (w, Registry.empty) g ∧
      g.1.config.hystrixEnabled = true ∧ ¬ NodesAgree g.1 g.2 := by
  intro O N w r g
  exact ⟨rfl, .tail (.single (.reload w Registry.empty N (by decide))) (.addNode _ _ _), by decide,
    mt (hookAgrees_of_addNode r.wrapper "10.0.0.2:6379" r.registry) (by decide)⟩

/-- A single-host client on `10.0.0.1:6379` created with hystrix off, while the circuit of
another node, `10.0.0.2:6379`, is open. Turning hystrix on for the first client flushes the
whole registry, so the other node's circuit is gone with its state and metrics. -/
theorem reload_drops_other_nodes_circuit :
    let O : ClientConfig := (ClientConfig.ofAddrs ModeSingleHost ["10.0.0.1:6379"]).init
    let N := { O with hystrixEnabled := true }
    let k := generateCBKey "10.0.0.2:6379"
    let reg : Registry := ⟨fun _ => none, Function.update (fun _ => none) k (some ⟨true, 0, 20⟩)⟩
    let w : Wrapper := ⟨O, .single (O.singleHostOptions getDefaultCBOptions reg).1⟩
    let r := w.reload N getDefaultCBOptions reg
    (O.createClient getDefaultCBOptions reg) = (.ok w, reg) ∧ r.result = .ok () ∧
      k ≠ generateCBKey "10.0.0.1:6379" ∧ reg.circuits k = some ⟨true, 0, 20⟩ ∧
      r.registry.circuits k = none := by
  intro O N k reg w r
  exact ⟨rfl, by decide, by decide, by decide, by decide⟩

/-! ## Runs that keep the breaker enablement -/

/-- What a client keeps from `createClient` on: configured as its own config says, and the
hook installed iff hystrix is on. -/
def Wrapper.Consistent (w : Wrapper) (reg : Registry) : Prop :=
  SettingsAgree w.config w reg ∧ w.HookAgrees

def SteadyStep (cb : List CBOption) (s s' : Wrapper × Registry) : Prop :=
  WrapperStep cb s s' ∧ s'.1.config.hystrixEnabled = s.1.config.hystrixEnabled

theorem reload_hookAgrees (w : Wrapper) (N : ClientConfig) (cb : List CBOption) (reg : Registry)
    (hw : SettingsAgree w.config w reg) (hh : w.HookAgrees)
    (hok : (w.reload N cb reg).result = .ok ())
    (he : (w.reload N cb reg).wrapper.config.hystrixEnabled = w.config.hystrixEnabled) :
    (w.reload N cb reg).wrapper.HookAgrees := by
  obtain ⟨c, pool⟩ := w
  cases pool with
  | single opt =>
    simp only [Wrapper.reload, clientWrapperImpl.reload]
    split <;> trivial
  | cluster opt shards =>
    obtain ⟨-, -, -, opt', shards', hp, ho, -⟩ :=
      clusterWrapperImpl_reload_ok c opt shards N cb reg hw hok
    simp only [Wrapper.reload] at hp he ⊢
    simpa only [Wrapper.HookAgrees, hp, ho, he] using hh

theorem SteadyStep.consistent {cb : List CBOption} {s s' : Wrapper × Registry}
    (h : SteadyStep cb s s') (hi : s.1.Consistent s.2) : s'.1.Consistent s'.2 := by
  obtain ⟨h, he⟩ := h
  cases h with
  | reload w reg N hok =>
    exact ⟨(Wrapper.reload_ok w N cb reg hi.1 hok).2.1,
      reload_hookAgrees w N cb reg hi.1 hi.2 hok he⟩
  | addNode w reg a =>
    obtain ⟨h1, h2, h3, -⟩ := addNode_ok w a reg hi.1 hi.2
    exact ⟨h1 ▸ h2, h3⟩

theorem Wrapper.Consistent.nodesAgree {w : Wrapper} {reg : Registry} (h : w.Consistent reg) :
    NodesAgree w reg := by
  obtain ⟨c, pool⟩ := w
  cases pool with
  | single => trivial
  | cluster opt shards => exact h.1.2.2.2

/-- While no reload flips `HystrixEnabled`, every node client of a client from `createClient`
carries a limiter iff the current config has hystrix on, configured with the current
settings. -/
theorem nodesAgree_of_steady_run (O : ClientConfig) (cb : List CBOption) (reg : Registry)
    (w : Wrapper) (hc : (O.createClient cb reg).1 = .ok w) (s : Wrapper × Registry)
    (hr : Relation.ReflTransGen (SteadyStep cb) (w, (O.createClient cb reg).2) s) :
    NodesAgree s.1 s.2 := by
  obtain ⟨h1, h2, h3, -⟩ := createClient_ok O cb reg _ w (Prod.ext hc rfl)
  refine Wrapper.Consistent.nodesAgree ?_
  induction hr with
  | refl => exact ⟨h1 ▸ h2, h3⟩
  | tail _ hst ih => exact hst.consistent ih

theorem nodesAgree_of_steady_run_cluster :
    let O : ClientConfig :=
      { ClientConfig.ofAddrs ModeCluster ["10.0.0.1:6379"] with hystrixEnabled := true }
    let N := { O with poolSize := 20 }
    let w : Wrapper := ⟨O, .cluster (O.clusterOptions getDefaultCBOptions) []⟩
    let r := w.reload N getDefaultCBOptions Registry.empty
    let g := r.wrapper.addNode "10.0.0.2:6379" r.registry
    (O.createClient getDefaultCBOptions Registry.empty).1 = .ok w ∧
      Relation.ReflTransGen (SteadyStep getDefaultCBOptions)
        (w, (O.createClient getDefaultCBOptions Registry.empty).2) g ∧ NodesAgree g.1 g.2 := by
  intro O N w r g
  have hr : Relation.ReflTransGen (SteadyStep getDefaultCBOptions)
      (w, (O.createClient getDefaultCBOptions Registry.empty).2) g :=
    .tail (.single ⟨.reload w Registry.empty N (by decide), by decide⟩)
      ⟨.addNode r.wrapper r.registry "10.0.0.2:6379", by decide⟩
  have hc : (O.createClient getDefaultCBOptions Registry.empty).1 = .ok w := rfl
  clear_value g
  exact ⟨hc, hr, nodesAgree_of_steady_run O getDefaultCBOptions Registry.empty w hc g hr⟩

end GrabRedis
