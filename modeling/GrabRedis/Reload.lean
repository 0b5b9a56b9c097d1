import GrabRedis.Connector

/-!
# What `connectorImpl.reload` does to the shadows

The loops of `reload` one at a time: building `loadTestMap`, the matching loop, which makes the
choices of `plan` when it succeeds, and the shut-down loop. Every step changes the heap only
as `Heap.Grows` allows, so a reload never changes what an existing client is connected to.
-/

namespace GrabRedis

set_option autoImplicit false

/-! ## Building `loadTestMap` -/

theorem LoadTestMap.mem_push_keys (m : LoadTestMap) (key n : String) (x : Nat) :
    n ∈ (m.push key x).keys ↔ n ∈ m.keys ∨ n = key := by
  unfold push; split_ifs with hk
  · exact ⟨.inl, fun h => h.elim id fun h => h ▸ hk⟩
  · simp

theorem LoadTestMap.nodup_push_keys (m : LoadTestMap) (key : String) (x : Nat)
    (hd : m.keys.Nodup) : (m.push key x).keys.Nodup := by
  unfold push; split_ifs with hk
  · exact hd
  · exact hd.append (List.nodup_singleton _) (by simpa using hk)

theorem buildLoadTestMap_spec (lo : Nat) (xs : List Nat) (m : LoadTestMap) (h : Heap)
    (hd : xs.Nodup) (hlt : ∀ x ∈ xs, x < lo) :
    let b := buildLoadTestMap xs m h
    (∀ n, b.1.byName n = m.byName n ++ xs.filter (fun x => h.nameOf x = n)) ∧
      (∀ n, n ∈ b.1.keys ↔ n ∈ m.keys ∨ ∃ x ∈ xs, h.nameOf x = n) ∧
      (m.keys.Nodup → b.1.keys.Nodup) ∧ Heap.Grows lo h b.2 ∧ b.2.size = h.size := by
  induction xs generalizing m h with
  | nil => exact ⟨fun _ => by simp [buildLoadTestMap], fun _ => by simp [buildLoadTestMap], id,
      .refl lo h, rfl⟩
  | cons x xs ih =>
    obtain ⟨hx, hd⟩ := List.nodup_cons.mp hd
    have hlt' : ∀ y ∈ xs, y < lo := fun y hy => hlt y (List.mem_cons_of_mem x hy)
    have hg := Heap.setConfig_grows h (h.get x).config.name.2 (hlt x (List.mem_cons_self x xs))
      (name_sameBackend _)
    obtain ⟨h1, h2, h3, h4, h5⟩ := ih (m.push (h.nameOf x) x)
      (h.setConfig x (h.get x).config.name.2) hd hlt'
    have hname : ∀ y ∈ xs, (h.setConfig x (h.get x).config.name.2).nameOf y = h.nameOf y :=
      fun y hy => by
        simp [Heap.nameOf, Heap.setConfig, show y ≠ x from fun e => hx (e ▸ hy)]
    refine ⟨fun n => ?_, fun n => ?_, fun hk => h3 (m.nodup_push_keys _ _ hk), hg.trans h4, h5⟩
    · rw [buildLoadTestMap, h1, List.filter_congr fun y hy => by rw [hname y hy]]
      by_cases hn : h.nameOf x = n
      · subst hn; simp [LoadTestMap.push]
      · simp [LoadTestMap.push, hn, Function.update_noteq (Ne.symm hn)]
    · rw [buildLoadTestMap, h2, LoadTestMap.mem_push_keys]
      simp only [List.mem_cons, exists_eq_or_imp]
      constructor
      · rintro ((h | rfl) | ⟨y, hy, rfl⟩)
        exacts [.inl h, .inr (.inl rfl), .inr (.inr ⟨y, hy, (hname y hy).symm⟩)]
      · rintro (h | rfl | ⟨y, hy, rfl⟩)
        exacts [.inl (.inl h), .inl (.inr rfl), .inr ⟨y, hy, hname y hy⟩]

/-! ## The matching loop -/

theorem map_cons_eq_ok {x : Nat} {r : Except String (List Nat) × LoadTestMap × Heap}
    {ids : List Nat} {m : LoadTestMap} {h : Heap}
    (hr : (r.1.map (x :: ·), r.2) = (.ok ids, m, h)) :
    ∃ ids', r = (.ok ids', m, h) ∧ ids = x :: ids' := by
  obtain ⟨r1, r2⟩ := r
  cases r1 with
  | error e => cases hr
  | ok ids' =>
    simp only [Except.map, Prod.mk.injEq, Except.ok.injEq] at hr
    exact ⟨ids', by rw [hr.2], hr.1.symm⟩

/-- One step of the matching loop that does not fail, from the map `m` and the heap `h` to the
heap `h₂`, with `x` as the slot's client: the config gets a new client, or it pops an old shadow
that does not share the primary's addresses and reloads it. -/
def MatchStep (ctxErr : Option String) (cb : List CBOption) (primary : Nat) (e : ClientConfig)
    (m : LoadTestMap) (h : Heap) (x : Nat) (h₂ : Heap) : Prop :=
  (pop m.byName e.name.1).1 = none ∧ newClient ctxErr e.name.2 cb h = (.ok x, h₂) ∨
    (pop m.byName e.name.1).1 = some x ∧
      (isAddrsEquals (h.get primary).config.addrs e.name.2.addrs).1 = false ∧
      (h.setConfig primary { (h.get primary).config with
          addrs := (isAddrsEquals (h.get primary).config.addrs e.name.2.addrs).2.1 }).reload x
        { e.name.2 with addrs := (isAddrsEquals (h.get primary).config.addrs
          e.name.2.addrs).2.2 } cb = (.ok (), h₂)

theorem matchLoadTests_cons_ok {ctxErr : Option String} {cb : List CBOption} {primary : Nat}
    {e : ClientConfig} {es : List ClientConfig} {m : LoadTestMap} {h : Heap} {ids : List Nat}
    {m' : LoadTestMap} {h' : Heap}
    (hrun : matchLoadTests ctxErr cb primary (e :: es) m h = (.ok ids, m', h')) :
    ∃ x ids' h₂, ids = x :: ids' ∧
      matchLoadTests ctxErr cb primary es { m with byName := (pop m.byName e.name.1).2 } h₂ =
        (.ok ids', m', h') ∧ MatchStep ctxErr cb primary e m h x h₂ := by
  simp only [matchLoadTests] at hrun
  split at hrun
  · rename_i x hx
    split at hrun
    · cases hrun
    · rename_i hne
      split at hrun
      · cases hrun
      · rename_i h₂ hre
        obtain ⟨ids', hrest, rfl⟩ := map_cons_eq_ok hrun
        exact ⟨x, ids', h₂, rfl, hrest, .inr ⟨hx, by simpa using hne, hre⟩⟩
  · rename_i hx
    split at hrun
    · cases hrun
    · rename_i x h₂ hn
      obtain ⟨ids', hrest, rfl⟩ := map_cons_eq_ok hrun
      exact ⟨x, ids', h₂, rfl, hrest, .inl ⟨hx, hn⟩⟩

theorem pop_stacks_lt {lo : Nat} {σ : String → List Nat} (hσ : ∀ n, ∀ x ∈ σ n, x < lo)
    (k : String) : (∀ n, ∀ x ∈ (pop σ k).2 n, x < lo) ∧ ∀ x, (pop σ k).1 = some x → x < lo := by
  rcases pop_cases σ k with ⟨-, hp⟩ | ⟨x, s, hs, hp⟩
  · rw [hp]; exact ⟨hσ, fun _ h => by cases h⟩
  · rw [hp]
    refine ⟨fun n y hy => ?_, fun y hy => ?_⟩
    · by_cases hn : n = k
      · subst hn; exact hσ n y (by simp_all)
      · exact hσ n y (by simpa [Function.update_noteq hn] using hy)
    · cases hy; exact hσ k x (by simp [hs])

section Loop

variable (ctxErr : Option String) (cb : List CBOption) {primary lo : Nat}

/-- A step of the matching loop grows the heap, and the slot's client is a popped old shadow
of the config's backend, or the new client numbered `h.size`, built from the config. -/
theorem MatchStep.spec (hp : primary < lo) {e : ClientConfig} (he : e.init = e)
    {m : LoadTestMap} {h h₂ : Heap} {x : Nat} (hlo : lo ≤ h.size)
    (hσ : ∀ n, ∀ y ∈ m.byName n, y < lo) (hstep : MatchStep ctxErr cb primary e m h x h₂) :
    Heap.Grows lo h h₂ ∧
      (h₂.size = h.size ∧ (pop m.byName e.name.1).1 = some x ∧ x < lo ∧
          SameBackend (h.get x).config e ∨
        h₂.size = h.size + 1 ∧ (pop m.byName e.name.1).1 = none ∧ x = h.size ∧
          (h₂.get x).config = e.name.2) := by
  rcases hstep with ⟨hnone, hn⟩ | ⟨hsome, -, hre⟩
  · obtain ⟨rfl, hs, hc⟩ := (newClient_spec ctxErr e.name.2 cb h).2 x (by rw [hn])
    rw [hn] at hs hc
    exact ⟨by simpa [hn] using newClient_grows lo ctxErr e.name.2 cb h, .inr ⟨hs, hnone, rfl, hc⟩⟩
  · have hxlo := (pop_stacks_lt hσ e.name.1).2 x hsome
    set r := isAddrsEquals (h.get primary).config.addrs e.name.2.addrs
    have hg1 := Heap.setConfig_grows h { (h.get primary).config with addrs := r.2.1 } hp
      (SameBackend.of_perm _ (isAddrsEquals_perm_left _ _))
    have hg2 := Heap.reload_grows (h.setConfig primary
      { (h.get primary).config with addrs := r.2.1 }) { e.name.2 with addrs := r.2.2 } cb hxlo
    rw [hre] at hg2
    -- the reload passed `validateReload`, which checks the backend
    have hv := (ClientConfig.validateReload_ok_iff _ _).mp
      (Wrapper.validateReload_of_reload_ok _ _ _ _ (congrArg Prod.fst hre))
    have hcfg : SameBackend { e.name.2 with addrs := r.2.2 } e :=
      (SameBackend.of_perm _ (isAddrsEquals_perm_right _ _)).trans (name_sameBackend e)
    have hinit : SameBackend { e.name.2 with addrs := r.2.2 }.init e :=
      (init_sameBackend _ fun hn => addrs_ne_nil_of_init he
        (List.Perm.eq_nil (hn ▸ hcfg.2.2).symm)).trans hcfg
    have hs : h₂.size = h.size := by
      have := congrArg (fun r => r.2.size) hre
      simp only [Heap.size_reload, Heap.setConfig, Heap.size_set] at this
      exact this.symm
    refine ⟨hg1.trans hg2, .inl ⟨hs, hsome, hxlo, ?_⟩⟩
    exact ((hg1.backend x (by omega)).symm.trans ⟨hv.2.1, hv.2.2.1, hv.2.2.2⟩).trans hinit

/-- A successful matching loop makes the choices of `plan`, numbers its new clients from the
heap's size, and leaves each slot with an old shadow of the config's backend or a new client
built from the config. -/
theorem matchLoadTests_ok (hp : primary < lo) (es : List ClientConfig) (hes : ∀ e ∈ es, e.init = e)
    (m : LoadTestMap) (h : Heap) (hlo : lo ≤ h.size) (hσ : ∀ n, ∀ x ∈ m.byName n, x < lo)
    {ids : List Nat} {m' : LoadTestMap} {h' : Heap}
    (hrun : matchLoadTests ctxErr cb primary es m h = (.ok ids, m', h')) :
    ids = fill (plan (es.map (·.name.1)) m.byName).1 h.size ∧
      m'.byName = (plan (es.map (·.name.1)) m.byName).2 ∧ m'.keys = m.keys ∧
      Heap.Grows lo h h' ∧ (∀ x ∈ ids, x < h'.size) ∧
      List.Forall₂ (fun x e => (x < lo ∧ SameBackend (h.get x).config e) ∨
        (lo ≤ x ∧ (h'.get x).config = e.name.2)) ids es := by
  induction es generalizing m h ids with
  | nil =>
    simp only [matchLoadTests, Prod.mk.injEq, Except.ok.injEq] at hrun
    obtain ⟨rfl, rfl, rfl⟩ := hrun
    exact ⟨rfl, rfl, rfl, .refl lo h, by simp, .nil⟩
  | cons e es ih =>
    obtain ⟨x, ids', h₂, rfl, hrest, hstep⟩ := matchLoadTests_cons_ok hrun
    obtain ⟨hg, hslot⟩ := hstep.spec ctxErr cb hp (hes e (List.mem_cons_self e es)) hlo hσ
    have hlo₂ : lo ≤ h₂.size := hlo.trans hg.size_le
    obtain ⟨i1, i2, i3, i4, i5, i6⟩ := ih (fun e' he => hes e' (List.mem_cons_of_mem e he)) _ h₂
      hlo₂ (pop_stacks_lt hσ e.name.1).1 hrest
    refine ⟨?_, i2, i3, hg.trans i4, ?_, .cons ?_ (i6.imp fun y e' hy => hy.imp_left ?_)⟩
    · rcases hslot with ⟨hs, hsome, -⟩ | ⟨hs, hnone, rfl, -⟩
      · simp [plan, hsome, fill, i1, hs]
      · simp [plan, hnone, fill, i1, hs]
    · have : x < h₂.size := by rcases hslot with ⟨hs, -, hxlo, -⟩ | ⟨hs, -, rfl, -⟩ <;> omega
      exact List.forall_mem_cons.mpr ⟨lt_of_lt_of_le this i4.size_le, i5⟩
    · rcases hslot with ⟨-, -, hxlo, hb⟩ | ⟨hs, -, rfl, hc⟩
      · exact .inl ⟨hxlo, hb⟩
      · exact .inr ⟨hlo, by rw [i4.fresh _ hlo (by omega), hc]⟩
    · exact fun ⟨hylo, hb⟩ => ⟨hylo, (hg.backend y (by omega)).symm.trans hb⟩

theorem matchLoadTests_grows (hp : primary < lo) (es : List ClientConfig) (m : LoadTestMap)
    (h : Heap) (hσ : ∀ n, ∀ x ∈ m.byName n, x < lo) :
    Heap.Grows lo h (matchLoadTests ctxErr cb primary es m h).2.2 := by
  induction es generalizing m h with
  | nil => exact .refl lo h
  | cons e es ih =>
    obtain ⟨hσ', hx⟩ := pop_stacks_lt hσ e.name.1
    simp only [matchLoadTests]
    split
    · rename_i x hsome
      have hg1 := Heap.setConfig_grows h
        { (h.get primary).config with
          addrs := (isAddrsEquals (h.get primary).config.addrs e.name.2.addrs).2.1 } hp
        (SameBackend.of_perm _ (isAddrsEquals_perm_left _ _))
      split
      · exact hg1
      · have hg2 := hg1.trans (Heap.reload_grows _
          { e.name.2 with addrs := (isAddrsEquals (h.get primary).config.addrs
            e.name.2.addrs).2.2 } cb (hx x hsome))
        split
        · rename_i heq; rw [heq] at hg2; exact hg2
        · rename_i heq; rw [heq] at hg2; exact hg2.trans (ih _ _ hσ')
    · have hg := newClient_grows lo ctxErr e.name.2 cb h
      split
      · rename_i heq; rw [heq] at hg; exact hg
      · rename_i heq; rw [heq] at hg; exact hg.trans (ih _ _ hσ')

end Loop

/-! ## `reload` as a whole -/

namespace Connector

/-- The invariant of the connector's reachable states: its clients exist, the shadows are
distinct, none is the primary or has been shut down, and no client was shut down twice. -/
structure Inv (c : Connector) (h : Heap) : Prop where
  client_lt : c.client < h.size
  shadows_lt : ∀ x ∈ c.loadTestClients, x < h.size
  nodup : c.loadTestClients.Nodup
  client_not_shadow : c.client ∉ c.loadTestClients
  shadows_open : ∀ x ∈ c.loadTestClients, x ∉ h.shutDowns
  shutDowns_lt : ∀ x ∈ h.shutDowns, x < h.size
  shutDowns_nodup : h.shutDowns.Nodup

variable {ctxErr : Option String} {cb : List CBOption} {v : ValidConfig} {c : Connector}
  {h : Heap}

/-- A `reload` that returns `nil`: it did nothing, or it reloaded the primary and both loops
ran to the end. -/
theorem reload_ok_cases (hok : (c.reload ctxErr cb v h).1 = .ok ()) :
    (v.hotReload = false ∧ (c.reload ctxErr cb v h).2 = (c, h)) ∨
      (v.hotReload = true ∧ ∃ h₁ ids m h₂, h.reload c.client v.main cb = (.ok (), h₁) ∧
        matchLoadTests ctxErr cb c.client v.loadTests
          (buildLoadTestMap c.loadTestClients .empty h₁).1
          (buildLoadTestMap c.loadTestClients .empty h₁).2 = (.ok ids, m, h₂) ∧
        (c.reload ctxErr cb v h).2 =
          ({ c with
              processAllLoadTestPackets := v.processAllLoadTestPackets
              loadTestClients := ids }, shutDownRest m h₂)) := by
  generalize hr : c.reload ctxErr cb v h = r at hok ⊢
  unfold reload at hr
  dsimp only at hr
  split at hr
  · rename_i hh; subst hr; exact .inl ⟨by simpa using hh, rfl⟩
  · rename_i hh
    split at hr
    · subst hr; cases hok
    · split at hr
      · subst hr; cases hok
      · rename_i h₁ hre
        split at hr
        · subst hr; cases hok
        · rename_i ids m h₂ hm
          exact .inr ⟨by simpa using hh, h₁, ids, m, h₂, hre, hm, hr ▸ rfl⟩

/-- A `reload` that returns an error has already set `processAllLoadTestPackets`, may have
reloaded existing clients and created new ones, and has shut down none. -/
theorem reload_error (hi : c.Inv h) (he : (c.reload ctxErr cb v h).1 ≠ .ok ()) :
    (c.reload ctxErr cb v h).2.1 =
        { c with processAllLoadTestPackets := v.processAllLoadTestPackets } ∧
      Heap.Grows h.size h (c.reload ctxErr cb v h).2.2 := by
  generalize hr : c.reload ctxErr cb v h = r at he ⊢
  unfold reload at hr
  dsimp only at hr
  split at hr
  · subst hr; exact (he rfl).elim
  · split at hr
    · subst hr; exact ⟨rfl, .refl _ _⟩
    · have hg₁ := h.reload_grows v.main cb hi.client_lt
      split at hr
      · rename_i hre; subst hr; rw [hre] at hg₁; exact ⟨rfl, hg₁⟩
      · rename_i h₁ hre
        rw [hre] at hg₁
        obtain ⟨b1, -, -, b4, -⟩ :=
          buildLoadTestMap_spec h.size c.loadTestClients .empty h₁ hi.nodup hi.shadows_lt
        have hσ : ∀ n, ∀ x ∈ (buildLoadTestMap c.loadTestClients .empty h₁).1.byName n,
            x < h.size := fun n x hx => by
          rw [b1] at hx
          simp only [LoadTestMap.empty, List.nil_append, List.mem_filter] at hx
          exact hi.shadows_lt x hx.1
        have hg := matchLoadTests_grows ctxErr cb hi.client_lt v.loadTests _
          (buildLoadTestMap c.loadTestClients .empty h₁).2 hσ
        split at hr
        · rename_i hm; subst hr; rw [hm] at hg; exact ⟨rfl, hg₁.trans (b4.trans hg)⟩
        · subst hr; exact (he rfl).elim

/-- What a successful `reload` by `v` does to the shadows of `c`, their names and backends
taken at call entry: each slot holds an old shadow of the config's backend or a client created
from the config; no old shadow takes two slots; under each name as many old shadows are kept as
both sides have; and exactly the old shadows not kept are shut down, once each. -/
structure ShadowsReloaded (v : ValidConfig) (c : Connector) (h : Heap) (c' : Connector)
    (h' : Heap) : Prop where
  slots : List.Forall₂ (fun x e => x ∈ c.loadTestClients ∧ SameBackend (h.get x).config e ∨
    h.size ≤ x ∧ (h'.get x).config = e.name.2) c'.loadTestClients v.loadTests
  kept_nodup : (c'.loadTestClients.filter (· ∈ c.loadTestClients)).Nodup
  kept_count : ∀ n, ((c'.loadTestClients.filter (· ∈ c.loadTestClients)).filter
      (fun x => h.nameOf x = n)).length =
    min (c.loadTestClients.filter (fun x => h.nameOf x = n)).length
      ((v.loadTests.map (·.name.1)).count n)
  shut : ∃ l, h'.shutDowns = h.shutDowns ++ l ∧ l.Nodup ∧
    ∀ x, x ∈ l ↔ x ∈ c.loadTestClients ∧ x ∉ c'.loadTestClients

theorem reload_ok_spec (hi : c.Inv h) (hv : v.hotReload = true)
    (hok : (c.reload ctxErr cb v h).1 = .ok ()) :
    ShadowsReloaded v c h (c.reload ctxErr cb v h).2.1 (c.reload ctxErr cb v h).2.2 ∧
      (c.reload ctxErr cb v h).2.1.Inv (c.reload ctxErr cb v h).2.2 := by
  rcases reload_ok_cases hok with ⟨hf, -⟩ | ⟨-, h₁, ids, m, h₂, hre, hm, hr⟩
  · simp [hv] at hf
  rw [hr]
  set olds := c.loadTestClients
  -- the primary's reload touches the primary only
  have hg₁ : Heap.Grows h.size h h₁ := by simpa [hre] using h.reload_grows v.main cb hi.client_lt
  have hname : ∀ x ∈ olds, h₁.nameOf x = h.nameOf x := fun x hx => by
    have hne : x ≠ c.client := fun he => hi.client_not_shadow (he ▸ hx)
    simpa [hre, Heap.nameOf] using congrArg (fun w : Wrapper => w.config.name.1)
      (Heap.get_reload_ne h v.main cb hne)
  -- the map holds the old shadows by name
  obtain ⟨b1, b2, b3, b4, b5⟩ := buildLoadTestMap_spec h.size olds .empty h₁ hi.nodup hi.shadows_lt
  set b := buildLoadTestMap olds .empty h₁
  have hσ : b.1.byName = stacksOf h₁.nameOf olds := funext fun n => by
    simpa [LoadTestMap.empty] using b1 n
  have hkeys : ∀ n, n ∈ b.1.keys ↔ ∃ x ∈ olds, h₁.nameOf x = n := fun n => by
    simpa [LoadTestMap.empty] using b2 n
  have hbs : b.2.size = h.size :=
    b5.trans (by simpa [hre] using Heap.size_reload h c.client v.main cb)
  -- the matching loop follows the plan
  obtain ⟨i1, i2, i3, i4, i5, i6⟩ := matchLoadTests_ok ctxErr cb hi.client_lt v.loadTests
    v.loadTests_init b.1 b.2 hbs.ge (fun n x hx => hi.shadows_lt x
      (mem_stacksOf.mp (hσ ▸ hx)).1) hm
  rw [hσ, hbs] at i1
  rw [hσ] at i2
  set ks := v.loadTests.map (·.name.1)
  have hold : ∀ x ∈ ids, x < h.size → x ∈ olds := fun x hx => by
    rw [i1] at hx; exact mem_olds_of_mem_fill ks hx
  -- the shut-down loop shuts down the old shadows in no slot
  have hl : ∀ x, x ∈ b.1.keys.flatMap (plan ks (stacksOf h₁.nameOf olds)).2 ↔
      x ∈ olds ∧ x ∉ ids := fun x => by
    rw [i1]; exact mem_flatMap_plan_left_iff ks hi.shadows_lt hi.nodup hkeys
  have hlnd : (b.1.keys.flatMap (plan ks (stacksOf h₁.nameOf olds)).2).Nodup :=
    nodup_flatMap_plan_left ks hi.nodup (b3 List.nodup_nil)
  have hsd : (shutDownRest m h₂).shutDowns =
      h.shutDowns ++ b.1.keys.flatMap (plan ks (stacksOf h₁.nameOf olds)).2 := by
    rw [shutDownRest_eq, i2, i3, i4.shutDowns, b4.shutDowns, hg₁.shutDowns]
  have hget : ∀ x, (shutDownRest m h₂).get x = h₂.get x := fun x => by rw [shutDownRest_eq]; rfl
  have hsize : (shutDownRest m h₂).size = h₂.size := by rw [shutDownRest_eq]
  have hle : h.size ≤ (shutDownRest m h₂).size := hsize ▸ (hg₁.trans (b4.trans i4)).size_le
  have hfilter : ids.filter (· ∈ olds) = (plan ks (stacksOf h₁.nameOf olds)).1.reduceOption := by
    rw [i1]; exact filter_fill_plan ks hi.shadows_lt
  refine ⟨⟨?_, ?_, fun n => ?_, ⟨_, hsd, hlnd, hl⟩⟩, ⟨lt_of_lt_of_le hi.client_lt hle,
    fun x hx => hsize ▸ i5 x hx, ?_, ?_, ?_, ?_, ?_⟩⟩
  · -- each slot
    refine ((List.forall₂_and_left _ _).mpr ⟨fun _ h => h, i6⟩).imp fun x e ⟨hx, hr⟩ => ?_
    rcases hr with ⟨hlt, hb⟩ | ⟨hle, hc⟩
    · exact .inl ⟨hold x hx hlt, ((hg₁.trans b4).backend x hlt).symm.trans hb⟩
    · exact .inr ⟨hle, by rw [hget, hc]⟩
  · rw [hfilter]; exact plan_nodup ks stacksOf_labelled fun n => hi.nodup.filter _
  · -- the count per name, with the names at call entry
    have e1 : (plan ks (stacksOf h₁.nameOf olds)).1.reduceOption.filter (fun x => h.nameOf x = n) =
        (plan ks (stacksOf h₁.nameOf olds)).1.reduceOption.filter (fun x => h₁.nameOf x = n) :=
      List.filter_congr fun x hx => by rw [hname x (plan_kept_mem ks hx)]
    have e2 : olds.filter (fun x => h.nameOf x = n) = stacksOf h₁.nameOf olds n :=
      List.filter_congr fun x hx => by rw [hname x hx]
    rw [hfilter, e1, e2]
    exact plan_count ks stacksOf_labelled n
  · rw [i1]; exact nodup_fill_plan ks hi.shadows_lt hi.nodup
  · exact fun hc => hi.client_not_shadow (hold _ hc hi.client_lt)
  · intro x hx
    rw [hsd, List.mem_append, not_or]
    refine ⟨fun hs => ?_, fun hs => ((hl x).mp hs).2 hx⟩
    by_cases hlt : x < h.size
    · exact hi.shadows_open x (hold x hx hlt) hs
    · exact hlt (hi.shutDowns_lt x hs)
  · intro x hx
    rw [hsd, List.mem_append] at hx
    refine lt_of_lt_of_le ?_ hle
    rcases hx with hx | hx
    · exact hi.shutDowns_lt x hx
    · exact hi.shadows_lt x ((hl x).mp hx).1
  · rw [hsd]
    exact hi.shutDowns_nodup.append hlnd fun x hs hx =>
      hi.shadows_open x ((hl x).mp hx).1 hs

end Connector

end GrabRedis
