import GrabRedis.Options

/-!
# In-place reload of a wrapper

`clientWrapperImpl.reload` and `clusterWrapperImpl.reload`. Both run the same fifteen
blocks `if c.config.F != config.F { c.config.F = config.F; c.SetF(...) }`, modelled once as
the list `poolFields`; each entry carries the two facts that make a block harmless when the
pool already holds what the config says. The lower layer's setters assign the option.
-/

namespace GrabRedis

set_option autoImplicit false

/-- One reload block: the config field, and the pool setter fed with its value. -/
structure PoolField where
  α : Type
  [dec : DecidableEq α]
  get : ClientConfig → α
  set : ClientConfig → α → ClientConfig
  apply : PoolSettings → α → PoolSettings
  set_get : ∀ c, set c (get c) = c
  apply_poolSettings : ∀ c v, apply c.poolSettings v = (set c v).poolSettings
  set_sameBackend : ∀ c v, SameBackend (set c v) c

instance (f : PoolField) : DecidableEq f.α := f.dec

def PoolField.sync (f : PoolField) (config : ClientConfig) (s : ClientConfig × PoolSettings) :
    ClientConfig × PoolSettings :=
  if f.get s.1 ≠ f.get config then (f.set s.1 (f.get config), f.apply s.2 (f.get config)) else s

/-- The blocks from `Username` to `IdleCheckFrequencyInMs`, in the source's order. -/
def poolFields : List PoolField :=
  [⟨String, (·.username), fun c v => { c with username := v }, fun p v => { p with username := v },
      fun _ => rfl, fun _ _ => rfl, fun c _ => .refl c⟩,
   ⟨String, (·.password), fun c v => { c with password := v }, fun p v => { p with password := v },
      fun _ => rfl, fun _ _ => rfl, fun c _ => .refl c⟩,
   ⟨Int, (·.maxRetries), fun c v => { c with maxRetries := v },
      fun p v => { p with maxRetries := v }, fun _ => rfl, fun _ _ => rfl, fun c _ => .refl c⟩,
   ⟨Int, (·.minRetryBackoffInMs), fun c v => { c with minRetryBackoffInMs := v },
      fun p v => { p with minRetryBackoff := parseDurationInMs v }, fun _ => rfl, fun _ _ => rfl, fun c _ => .refl c⟩,
   ⟨Int, (·.maxRetryBackoffInMs), fun c v => { c with maxRetryBackoffInMs := v },
      fun p v => { p with maxRetryBackoff := parseDurationInMs v }, fun _ => rfl, fun _ _ => rfl, fun c _ => .refl c⟩,
   ⟨Int, (·.dialTimeoutInMs), fun c v => { c with dialTimeoutInMs := v },
      fun p v => { p with dialTimeout := parseDurationInMs v }, fun _ => rfl, fun _ _ => rfl, fun c _ => .refl c⟩,
   ⟨Int, (·.readTimeoutInMs), fun c v => { c with readTimeoutInMs := v },
      fun p v => { p with readTimeout := parseDurationInMs v }, fun _ => rfl, fun _ _ => rfl, fun c _ => .refl c⟩,
   ⟨Int, (·.writeTimeoutInMs), fun c v => { c with writeTimeoutInMs := v },
      fun p v => { p with writeTimeout := parseDurationInMs v }, fun _ => rfl, fun _ _ => rfl, fun c _ => .refl c⟩,
   ⟨Int, (·.poolSize), fun c v => { c with poolSize := v },
      fun p v => { p with poolSize := v }, fun _ => rfl, fun _ _ => rfl, fun c _ => .refl c⟩,
   ⟨Int, (·.minIdleConns), fun c v => { c with minIdleConns := v },
      fun p v => { p with minIdleConns := v }, fun _ => rfl, fun _ _ => rfl, fun c _ => .refl c⟩,
   ⟨Int, (·.maxIdleConns), fun c v => { c with maxIdleConns := v },
      fun p v => { p with maxIdleConns := v }, fun _ => rfl, fun _ _ => rfl, fun c _ => .refl c⟩,
   ⟨Int, (·.maxConnAgeInMs), fun c v => { c with maxConnAgeInMs := v },
      fun p v => { p with maxConnAge := parseDurationInMs v }, fun _ => rfl, fun _ _ => rfl, fun c _ => .refl c⟩,
   ⟨Int, (·.poolTimeoutInMs), fun c v => { c with poolTimeoutInMs := v },
      fun p v => { p with poolTimeout := parseDurationInMs v }, fun _ => rfl, fun _ _ => rfl, fun c _ => .refl c⟩,
   ⟨Int, (·.idleTimeoutInMs), fun c v => { c with idleTimeoutInMs := v },
      fun p v => { p with idleTimeout := parseDurationInMs v }, fun _ => rfl, fun _ _ => rfl, fun c _ => .refl c⟩,
   ⟨Int, (·.idleCheckFrequencyInMs), fun c v => { c with idleCheckFrequencyInMs := v },
      fun p v => { p with idleCheckFrequency := parseDurationInMs v }, fun _ => rfl, fun _ _ => rfl, fun c _ => .refl c⟩]

def syncPoolSettings (config : ClientConfig) (s : ClientConfig × PoolSettings) :
    ClientConfig × PoolSettings :=
  poolFields.foldl (fun s f => f.sync config s) s

def ClientConfig.withPoolFields (c config : ClientConfig) : ClientConfig :=
  { c with
    username := config.username
    password := config.password
    maxRetries := config.maxRetries
    minRetryBackoffInMs := config.minRetryBackoffInMs
    maxRetryBackoffInMs := config.maxRetryBackoffInMs
    dialTimeoutInMs := config.dialTimeoutInMs
    readTimeoutInMs := config.readTimeoutInMs
    writeTimeoutInMs := config.writeTimeoutInMs
    poolSize := config.poolSize
    minIdleConns := config.minIdleConns
    maxIdleConns := config.maxIdleConns
    maxConnAgeInMs := config.maxConnAgeInMs
    poolTimeoutInMs := config.poolTimeoutInMs
    idleTimeoutInMs := config.idleTimeoutInMs
    idleCheckFrequencyInMs := config.idleCheckFrequencyInMs }

/-- What a reload leaves: the error it returns, the wrapper and the breaker registry. -/
structure Reloaded where
  result : Except String Unit
  wrapper : Wrapper
  registry : Registry

/-- The breaker block of `clientWrapperImpl.reload`: the config, the options, the registry. -/
def singleHystrix (config : ClientConfig) (cbOptions : List CBOption) (c : ClientConfig)
    (opt : Options) (reg : Registry) : ClientConfig × Options × Registry :=
  if config.hystrixEnabled then
    if !c.hystrix.Equals config.hystrix || !c.hystrixEnabled then
      let cbKey := generateCBKey opt.addr
      ({ c with hystrix := config.hystrix }, { opt with limiter := some (newLimiter cbKey cbOptions) },
        reconfigureHystrix reg cbKey config.hystrix)
    else (c, opt, reg)
  else (c, { opt with limiter := none }, reg)

/-- `clientWrapperImpl.reload` on a wrapper with config `c0` and options `opt`. -/
def clientWrapperImpl.reload (c0 : ClientConfig) (opt : Options) (config : ClientConfig)
    (cbOptions : List CBOption) (reg : Registry) : Reloaded :=
  let chk := c0.validateReload config.init
  match chk.result with
  | .error e => ⟨.error e, ⟨chk.self, .single opt⟩, reg⟩
  | .ok () =>
    let s := syncPoolSettings chk.other (chk.self, opt.pool)
    let h := singleHystrix chk.other cbOptions s.1 { opt with pool := s.2 } reg
    ⟨.ok (), ⟨{ h.1 with
        hystrixEnabled := chk.other.hystrixEnabled
        ignoreReadOnly := chk.other.ignoreReadOnly }, .single h.2.1⟩, h.2.2⟩

def clusterHystrix (config : ClientConfig) (cbOptions : List CBOption) (c : ClientConfig)
    (shards : List Node) (reg : Registry) : ClientConfig × List Node × Registry :=
  if config.hystrixEnabled then
    if !c.hystrix.Equals config.hystrix || !c.hystrixEnabled then
      ({ c with hystrix := config.hystrix },
        shards.map fun n => { n with limiter := some (newLimiter (generateCBKey n.addr) cbOptions) },
        shards.foldl (fun reg n => reconfigureHystrix reg (generateCBKey n.addr) config.hystrix) reg)
    else (c, shards, reg)
  else (c, shards.map fun n => { n with limiter := none }, reg)

/-- The blocks after the breaker in `clusterWrapperImpl.reload`: `MaxRedirects`,
`IgnoreReadOnly` and the read mode with its three routing flags. -/
def clusterRouting (config c : ClientConfig) (opt : ClusterOptions) :
    ClientConfig × ClusterOptions :=
  let m : ClientConfig × ClusterOptions :=
    if c.maxRedirects ≠ config.maxRedirects then
      ({ c with maxRedirects := config.maxRedirects }, { opt with maxRedirects := config.maxRedirects })
    else (c, opt)
  let c := { m.1 with ignoreReadOnly := config.ignoreReadOnly }
  if c.readMode ≠ config.readMode then
    let f := readFlags config.readMode
    ({ c with readMode := config.readMode },
      { m.2 with readOnly := f.1, routeByLatency := f.2.1, routeRandomly := f.2.2 })
  else (c, m.2)

/-- `clusterWrapperImpl.reload` on a wrapper with config `c0`, options `opt` and nodes
`shards`. -/
def clusterWrapperImpl.reload (c0 : ClientConfig) (opt : ClusterOptions) (shards : List Node)
    (config : ClientConfig) (cbOptions : List CBOption) (reg : Registry) : Reloaded :=
  let chk := c0.validateReload config.init
  match chk.result with
  | .error e => ⟨.error e, ⟨chk.self, .cluster opt shards⟩, reg⟩
  | .ok () =>
    let s := syncPoolSettings chk.other (chk.self, opt.pool)
    let h := clusterHystrix chk.other cbOptions s.1 shards reg
    let r := clusterRouting chk.other { h.1 with hystrixEnabled := chk.other.hystrixEnabled }
      { opt with pool := s.2 }
    ⟨.ok (), ⟨r.1, .cluster r.2 h.2.1⟩, h.2.2⟩

def Wrapper.reload (w : Wrapper) (config : ClientConfig) (cbOptions : List CBOption)
    (reg : Registry) : Reloaded :=
  match w.pool with
  | .single opt => clientWrapperImpl.reload w.config opt config cbOptions reg
  | .cluster opt shards => clusterWrapperImpl.reload w.config opt shards config cbOptions reg

/-! ## A successful reload configures the pool from the new config -/

theorem foldl_sync_synced (config : ClientConfig) (fs : List PoolField) (c : ClientConfig) :
    fs.foldl (fun s f => f.sync config s) (c, c.poolSettings) =
      let c' := fs.foldl (fun c f => f.set c (f.get config)) c
      (c', c'.poolSettings) := by
  induction fs generalizing c with
  | nil => rfl
  | cons f fs ih =>
    have h : f.sync config (c, c.poolSettings) =
        (f.set c (f.get config), (f.set c (f.get config)).poolSettings) := by
      unfold PoolField.sync
      split
      · exact congrArg _ (f.apply_poolSettings c _)
      · rename_i h; rw [not_not] at h; simp only [← h, f.set_get]
    simp only [List.foldl_cons, h, ih]

theorem syncPoolSettings_synced (config c : ClientConfig) :
    syncPoolSettings config (c, c.poolSettings) =
      (c.withPoolFields config, config.poolSettings) :=
  foldl_sync_synced config poolFields c

namespace ClientConfig

theorem validateReload_self (c n : ClientConfig) :
    ∃ a, a.Perm c.addrs ∧ (c.validateReload n).self = { c with addrs := a } := by
  unfold validateReload
  split
  · exact ⟨c.addrs, .refl _, rfl⟩
  · split
    · exact ⟨c.addrs, .refl _, rfl⟩
    · split
      · exact ⟨c.addrs, .refl _, rfl⟩
      · exact ⟨_, isAddrsEquals_perm_left _ _, rfl⟩

theorem validateReload_other (c n : ClientConfig) :
    ∃ a, (c.validateReload n).other = { n with addrs := a } := by
  unfold validateReload
  split
  · exact ⟨n.addrs, rfl⟩
  · split
    · exact ⟨n.addrs, rfl⟩
    · split
      · exact ⟨n.addrs, rfl⟩
      · exact ⟨_, rfl⟩

theorem validateReload_ok_iff (c n : ClientConfig) :
    (c.validateReload n).result = .ok () ↔
      n.validate = .ok () ∧ c.clientMode = n.clientMode ∧ c.db = n.db ∧ c.addrs.Perm n.addrs := by
  unfold validateReload
  split
  · rename_i e he; simp [he]
  · rename_i he
    simp only [he, true_and]
    split
    · simp_all
    · split
      · simp_all
      · simp only [← isAddrsEquals_iff]
        split <;> simp_all

theorem syncPoolSettings_validateReload (c n : ClientConfig) {pool : PoolSettings}
    (hpool : pool = c.poolSettings) :
    syncPoolSettings (c.validateReload n).other ((c.validateReload n).self, pool) =
      ((c.validateReload n).self.withPoolFields (c.validateReload n).other, n.poolSettings) := by
  obtain ⟨a, -, ha⟩ := c.validateReload_self n
  obtain ⟨b, hb⟩ := c.validateReload_other n
  rw [hpool, show c.poolSettings = (c.validateReload n).self.poolSettings by rw [ha]; rfl,
    syncPoolSettings_synced, hb]; rfl

end ClientConfig

/-- A node's limiter as a client built from `c` would have it: present iff hystrix is on,
its circuit configured with `c.hystrix`. -/
def LimiterAgrees (c : ClientConfig) (reg : Registry) (limiter : Option Limiter) : Prop :=
  limiter.isSome = c.hystrixEnabled ∧
    ∀ l, limiter = some l → reg.settings l.key = some (buildSettings l.key c.hystrix)

/-- `w`'s pool holds `c`'s value in every field a reload writes: the pool settings, for a
cluster the redirect limit and the read routing, and every limiter with its circuit. -/
def SettingsAgree (c : ClientConfig) (w : Wrapper) (reg : Registry) : Prop :=
  match w.pool with
  | .single opt => opt.pool = c.poolSettings ∧ LimiterAgrees c reg opt.limiter
  | .cluster opt shards =>
    opt.pool = c.poolSettings ∧ opt.maxRedirects = c.maxRedirects ∧
      (opt.readOnly, opt.routeByLatency, opt.routeRandomly) = readFlags c.readMode ∧
      ∀ n ∈ shards, LimiterAgrees c reg n.limiter

/-- The limiter `singleHostOptions` and the `NewClient` hook give the node at `addr` when
hystrix is `enabled`. -/
def nodeLimiter (enabled : Bool) (cbOptions : List CBOption) (addr : String) : Option Limiter :=
  if enabled then some (newLimiter (generateCBKey addr) cbOptions) else none

theorem LimiterAgrees.congr {c d : ClientConfig} {reg : Registry} {l : Option Limiter}
    (he : c.hystrixEnabled = d.hystrixEnabled) (hh : d.hystrixEnabled → c.hystrix = d.hystrix)
    (h : LimiterAgrees c reg l) : LimiterAgrees d reg l := by
  refine ⟨h.1.trans he, fun l' hl => ?_⟩
  have hs : d.hystrixEnabled := he ▸ h.1 ▸ (by simp [hl])
  rw [← hh hs]; exact h.2 l' hl

theorem singleHystrix_spec (config : ClientConfig) (cb : List CBOption) (c : ClientConfig)
    (opt : Options) (reg : Registry) (hl : LimiterAgrees c reg opt.limiter) :
    let h := singleHystrix config cb c opt reg
    h.1 = { c with hystrix := h.1.hystrix } ∧ h.2.1 = { opt with limiter := h.2.1.limiter } ∧
      (config.hystrixEnabled → h.1.hystrix = config.hystrix) ∧
      LimiterAgrees config h.2.2 h.2.1.limiter := by
  unfold singleHystrix
  split
  · rename_i he
    split
    · exact ⟨rfl, rfl, fun _ => rfl, by simp [he], fun l hl => by
        cases hl; simp [newLimiter]⟩
    · rename_i hc
      simp only [Bool.or_eq_true, Bool.not_eq_true', not_or, Bool.not_eq_false,
        Hystrix.Equals_iff] at hc
      exact ⟨rfl, rfl, fun _ => hc.1, hl.congr (by rw [hc.2, he]) fun _ => hc.1⟩
  · rename_i he
    exact ⟨rfl, rfl, fun h => absurd h he, by simp [LimiterAgrees, he]⟩

theorem singleHystrix_limiter (config : ClientConfig) (cb : List CBOption) (c : ClientConfig)
    (opt : Options) (reg : Registry) (hl : opt.limiter = nodeLimiter c.hystrixEnabled cb opt.addr) :
    (singleHystrix config cb c opt reg).2.1.limiter =
      nodeLimiter config.hystrixEnabled cb opt.addr := by
  unfold singleHystrix nodeLimiter at *
  split_ifs <;> simp_all

theorem clientWrapperImpl_reload_ok (c0 : ClientConfig) (opt : Options) (N : ClientConfig)
    (cb : List CBOption) (reg : Registry)
    (hw : SettingsAgree c0 ⟨c0, .single opt⟩ reg)
    (hok : (clientWrapperImpl.reload c0 opt N cb reg).result = .ok ()) :
    let r := clientWrapperImpl.reload c0 opt N cb reg
    SettingsAgree N.init r.wrapper r.registry ∧
      SettingsAgree r.wrapper.config r.wrapper r.registry ∧
      r.wrapper.config.hystrixEnabled = N.init.hystrixEnabled ∧
      ∃ opt', r.wrapper.pool = .single opt' ∧
        opt' = { opt with pool := N.init.poolSettings, limiter := opt'.limiter } ∧
        (opt.limiter = nodeLimiter c0.hystrixEnabled cb opt.addr →
          opt'.limiter = nodeLimiter N.init.hystrixEnabled cb opt.addr) := by
  obtain ⟨hpool, hlim⟩ := hw
  have hs := ClientConfig.syncPoolSettings_validateReload c0 N.init hpool
  obtain ⟨a, -, ha⟩ := c0.validateReload_self N.init
  obtain ⟨b, hb⟩ := c0.validateReload_other N.init
  unfold clientWrapperImpl.reload at hok ⊢
  dsimp only at hok ⊢
  set v := c0.validateReload N.init
  cases hv : v.result with
  | error e => simp [hv] at hok
  | ok u =>
    simp only [hv]
    obtain ⟨h1, h2, h3, h4⟩ := singleHystrix_spec v.other cb
      (syncPoolSettings v.other (v.self, opt.pool)).1
      { opt with pool := (syncPoolSettings v.other (v.self, opt.pool)).2 } reg
      (hlim.congr (by rw [hs, ha]; rfl) fun _ => by rw [hs, ha]; rfl)
    have hN : LimiterAgrees N.init _ _ := h4.congr (by rw [hb]) fun _ => by rw [hb]
    refine ⟨⟨by rw [h2, hs], hN⟩,
      ⟨by rw [h2, h1, hs, hb]; rfl, h4.congr (by rfl) fun he => (h3 he).symm⟩, by rw [hb], _, rfl,
      h2.trans (by rw [hs]), fun hl => ?_⟩
    rw [singleHystrix_limiter _ _ _ _ _ (by rw [hl, hs, ha]; rfl), hb]

theorem reconfigure_keeps (reg : Registry) (k k' : String) (st : Hystrix)
    (h : reg.settings k = some (buildSettings k st)) :
    (reconfigureHystrix reg k' st).settings k = some (buildSettings k st) := by
  by_cases hk : k = k'
  · subst hk; simp
  · simpa [reconfigureHystrix, configureHystrix, Function.update_noteq hk] using h

theorem foldl_reconfigure_keeps (st : Hystrix) (k : String) (shards : List Node) (reg : Registry)
    (h : reg.settings k = some (buildSettings k st)) :
    (shards.foldl (fun reg n => reconfigureHystrix reg (generateCBKey n.addr) st) reg).settings k =
      some (buildSettings k st) := by
  induction shards generalizing reg with
  | nil => exact h
  | cons m shards ih => exact ih _ (reconfigure_keeps _ _ _ _ h)

theorem foldl_reconfigure_settings (st : Hystrix) (shards : List Node) (reg : Registry) :
    ∀ n ∈ shards, (shards.foldl (fun reg n => reconfigureHystrix reg (generateCBKey n.addr) st)
      reg).settings (generateCBKey n.addr) = some (buildSettings (generateCBKey n.addr) st) := by
  induction shards generalizing reg with
  | nil => simp
  | cons m shards ih =>
    intro n hn
    rcases List.mem_cons.mp hn with rfl | hn
    · simp only [List.foldl_cons]
      exact foldl_reconfigure_keeps _ _ _ _ (by simp)
    · exact ih _ n hn

theorem clusterHystrix_spec (config : ClientConfig) (cb : List CBOption) (c : ClientConfig)
    (shards : List Node) (reg : Registry) (hl : ∀ n ∈ shards, LimiterAgrees c reg n.limiter) :
    let h := clusterHystrix config cb c shards reg
    h.1 = { c with hystrix := h.1.hystrix } ∧ (config.hystrixEnabled → h.1.hystrix = config.hystrix) ∧
      ∀ n ∈ h.2.1, LimiterAgrees config h.2.2 n.limiter := by
  unfold clusterHystrix
  split
  · rename_i he
    split
    · refine ⟨rfl, fun _ => rfl, ?_⟩
      simp only [List.mem_map]
      rintro _ ⟨n, hn, rfl⟩
      exact ⟨by simp [he], fun l hl => by
        cases hl; exact foldl_reconfigure_settings _ _ _ n hn⟩
    · rename_i hc
      simp only [Bool.or_eq_true, Bool.not_eq_true', not_or, Bool.not_eq_false,
        Hystrix.Equals_iff] at hc
      exact ⟨rfl, fun _ => hc.1, fun n hn => (hl n hn).congr (by rw [hc.2, he]) fun _ => hc.1⟩
  · rename_i he
    refine ⟨rfl, fun h => absurd h he, ?_⟩
    simp only [List.mem_map]
    rintro _ ⟨n, _, rfl⟩
    simp [LimiterAgrees, he]

theorem clusterHystrix_limiters (config : ClientConfig) (cb : List CBOption) (c : ClientConfig)
    (shards : List Node) (reg : Registry)
    (hl : ∀ n ∈ shards, n.limiter = nodeLimiter c.hystrixEnabled cb n.addr) :
    ∀ n ∈ (clusterHystrix config cb c shards reg).2.1,
      n.limiter = nodeLimiter config.hystrixEnabled cb n.addr := by
  unfold clusterHystrix nodeLimiter at *
  split_ifs <;> simp_all

theorem clusterRouting_spec (config c : ClientConfig) (opt : ClusterOptions)
    (hm : opt.maxRedirects = c.maxRedirects)
    (hf : (opt.readOnly, opt.routeByLatency, opt.routeRandomly) = readFlags c.readMode) :
    let r := clusterRouting config c opt
    r.1 = { c with
      maxRedirects := config.maxRedirects
      ignoreReadOnly := config.ignoreReadOnly
      readMode := config.readMode } ∧
    r.2 = { opt with
      maxRedirects := config.maxRedirects
      readOnly := (readFlags config.readMode).1
      routeByLatency := (readFlags config.readMode).2.1
      routeRandomly := (readFlags config.readMode).2.2 } := by
  cases opt
  rcases hfl : readFlags c.readMode with ⟨f1, f2, f3⟩
  simp only [hfl, Prod.mk.injEq] at hm hf
  obtain ⟨rfl, rfl, rfl⟩ := hf
  subst hm
  unfold clusterRouting
  by_cases h1 : c.maxRedirects = config.maxRedirects <;>
    by_cases h2 : c.readMode = config.readMode <;> simp_all

theorem clusterWrapperImpl_reload_ok (c0 : ClientConfig) (opt : ClusterOptions)
    (shards : List Node) (N : ClientConfig) (cb : List CBOption) (reg : Registry)
    (hw : SettingsAgree c0 ⟨c0, .cluster opt shards⟩ reg)
    (hok : (clusterWrapperImpl.reload c0 opt shards N cb reg).result = .ok ()) :
    let r := clusterWrapperImpl.reload c0 opt shards N cb reg
    SettingsAgree N.init r.wrapper r.registry ∧
      SettingsAgree r.wrapper.config r.wrapper r.registry ∧
      r.wrapper.config.hystrixEnabled = N.init.hystrixEnabled ∧
      ∃ opt' shards', r.wrapper.pool = .cluster opt' shards' ∧
        opt' = { opt with
          pool := N.init.poolSettings
          maxRedirects := N.init.maxRedirects
          readOnly := (readFlags N.init.readMode).1
          routeByLatency := (readFlags N.init.readMode).2.1
          routeRandomly := (readFlags N.init.readMode).2.2 } ∧
        ((∀ n ∈ shards, n.limiter = nodeLimiter c0.hystrixEnabled cb n.addr) →
          ∀ n ∈ shards', n.limiter = nodeLimiter N.init.hystrixEnabled cb n.addr) := by
  obtain ⟨hpool, hm, hf, hl⟩ := hw
  have hs := ClientConfig.syncPoolSettings_validateReload c0 N.init hpool
  obtain ⟨a, -, ha⟩ := c0.validateReload_self N.init
  obtain ⟨b, hb⟩ := c0.validateReload_other N.init
  unfold clusterWrapperImpl.reload at hok ⊢
  dsimp only at hok ⊢
  set v := c0.validateReload N.init
  cases hv : v.result with
  | error e => simp [hv] at hok
  | ok u =>
    simp only [hv]
    obtain ⟨h1, h3, h4⟩ := clusterHystrix_spec v.other cb
      (syncPoolSettings v.other (v.self, opt.pool)).1 shards reg
      fun n hn => (hl n hn).congr (by rw [hs, ha]; rfl) fun _ => by rw [hs, ha]; rfl
    obtain ⟨r1, r2⟩ := clusterRouting_spec v.other
      { (clusterHystrix v.other cb (syncPoolSettings v.other (v.self, opt.pool)).1 shards
          reg).1 with
        hystrixEnabled := v.other.hystrixEnabled }
      { opt with pool := (syncPoolSettings v.other (v.self, opt.pool)).2 }
      (by rw [hm, h1, hs, ha]; rfl) (by rw [hf, h1, hs, ha]; rfl)
    refine ⟨⟨by rw [r2, hs], by rw [r2, hb], by rw [r2, hb],
        fun n hn => (h4 n hn).congr (by rw [hb]) fun _ => by rw [hb]⟩,
      ⟨by rw [r2, r1, h1, hs, hb]; rfl, by rw [r2, r1], by rw [r2, r1],
        fun n hn => (h4 n hn).congr (by rw [r1]) fun he => by rw [r1] at he ⊢; exact (h3 he).symm⟩,
      by rw [r1, hb], _, _, rfl, by rw [r2, hs, hb], fun hl n hn => ?_⟩
    rw [clusterHystrix_limiters _ _ _ _ _ (fun n hn => by rw [hl n hn, hs, ha]; rfl) n hn, hb]

/-! ## A reload never changes what a client is connected to -/

theorem PoolField.sync_sameBackend (f : PoolField) (config : ClientConfig)
    (s : ClientConfig × PoolSettings) : SameBackend (f.sync config s).1 s.1 := by
  unfold PoolField.sync
  split
  · exact f.set_sameBackend _ _
  · rfl

theorem foldl_sync_sameBackend (config : ClientConfig) (fs : List PoolField)
    (s : ClientConfig × PoolSettings) :
    SameBackend (fs.foldl (fun s f => f.sync config s) s).1 s.1 := by
  induction fs generalizing s with
  | nil => rfl
  | cons f fs ih => exact (ih _).trans (f.sync_sameBackend config s)

theorem singleHystrix_sameBackend (config : ClientConfig) (cb : List CBOption) (c : ClientConfig)
    (opt : Options) (reg : Registry) : SameBackend (singleHystrix config cb c opt reg).1 c := by
  unfold singleHystrix; split_ifs <;> exact ⟨rfl, rfl, .refl _⟩

theorem clusterHystrix_sameBackend (config : ClientConfig) (cb : List CBOption) (c : ClientConfig)
    (shards : List Node) (reg : Registry) :
    SameBackend (clusterHystrix config cb c shards reg).1 c := by
  unfold clusterHystrix; split_ifs <;> exact ⟨rfl, rfl, .refl _⟩

theorem clusterRouting_sameBackend (config c : ClientConfig) (opt : ClusterOptions) :
    SameBackend (clusterRouting config c opt).1 c := by
  dsimp only [clusterRouting]; split_ifs <;> exact ⟨rfl, rfl, .refl _⟩

theorem Wrapper.reload_sameBackend (w : Wrapper) (N : ClientConfig) (cb : List CBOption)
    (reg : Registry) : SameBackend (w.reload N cb reg).wrapper.config w.config := by
  obtain ⟨c, pool⟩ := w
  obtain ⟨a, ha, hself⟩ := c.validateReload_self N.init
  have hs : SameBackend (c.validateReload N.init).self c := hself ▸ SameBackend.of_perm c ha
  set chk := c.validateReload N.init
  cases pool with
  | single opt =>
    simp only [Wrapper.reload, clientWrapperImpl.reload]
    split
    · exact hs
    · set s := syncPoolSettings chk.other (chk.self, opt.pool)
      have h := (singleHystrix_sameBackend chk.other cb s.1 { opt with pool := s.2 } reg).trans
        ((foldl_sync_sameBackend chk.other poolFields (chk.self, opt.pool)).trans hs)
      exact ⟨h.1, h.2.1, h.2.2⟩
  | cluster opt shards =>
    simp only [Wrapper.reload, clusterWrapperImpl.reload]
    split
    · exact hs
    · set s := syncPoolSettings chk.other (chk.self, opt.pool)
      set h := clusterHystrix chk.other cb s.1 shards reg
      have h1 := clusterRouting_sameBackend chk.other
        { h.1 with hystrixEnabled := chk.other.hystrixEnabled } { opt with pool := s.2 }
      have h2 := (clusterHystrix_sameBackend chk.other cb s.1 shards reg).trans
        ((foldl_sync_sameBackend chk.other poolFields (chk.self, opt.pool)).trans hs)
      exact h1.trans ⟨h2.1, h2.2.1, h2.2.2⟩

theorem Wrapper.validateReload_of_reload_ok (w : Wrapper) (N : ClientConfig) (cb : List CBOption)
    (reg : Registry) (h : (w.reload N cb reg).result = .ok ()) :
    (w.config.validateReload N.init).result = .ok () := by
  obtain ⟨c, pool⟩ := w
  cases pool with
  | single opt =>
    simp only [Wrapper.reload, clientWrapperImpl.reload] at h
    split at h
    · cases h
    · assumption
  | cluster opt shards =>
    simp only [Wrapper.reload, clusterWrapperImpl.reload] at h
    split at h
    · cases h
    · assumption


/-! ## `hystrix.Flush` is process-wide -/

theorem foldl_reconfigure_circuits (st : Hystrix) (shards : List Node) (reg : Registry) :
    (shards.foldl (fun reg n => reconfigureHystrix reg (generateCBKey n.addr) st) reg).circuits =
      if shards.isEmpty then reg.circuits else fun _ => none := by
  induction shards generalizing reg with
  | nil => rfl
  | cons m shards ih => rw [List.foldl_cons, ih]; split <;> rfl

/-- A reload leaves every circuit of the process as it was, or drops them all: the circuits of
other clients' nodes are not spared. -/
theorem Wrapper.reload_circuits (w : Wrapper) (N : ClientConfig) (cb : List CBOption)
    (reg : Registry) :
    (w.reload N cb reg).registry.circuits = reg.circuits ∨
      (w.reload N cb reg).registry.circuits = fun _ => none := by
  obtain ⟨c, pool⟩ := w
  cases pool with
  | single opt =>
    simp only [Wrapper.reload, clientWrapperImpl.reload]
    split
    · exact .inl rfl
    · dsimp only [singleHystrix]; split_ifs
      · exact .inr rfl
      all_goals exact .inl rfl
  | cluster opt shards =>
    simp only [Wrapper.reload, clusterWrapperImpl.reload]
    split
    · exact .inl rfl
    · dsimp only [clusterHystrix]; split_ifs
      · rw [foldl_reconfigure_circuits]; split
        · exact .inl rfl
        · exact .inr rfl
      all_goals exact .inl rfl

end GrabRedis
