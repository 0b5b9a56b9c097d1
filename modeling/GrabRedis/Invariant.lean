import GrabRedis.Reload

/-!
# What every run of the connector keeps

A run is `NewDynamicConnector` followed by any calls of the change callback, each of which may
succeed or fail. `Connector.Inv` holds in every reachable state. A successful reload moves the
shadows as `ShadowsReloaded` says; a failed one keeps the primary and the shadow list but not
what it changed on the way. This module does NOT cover the dispatch of commands to the shadows
or the scheduler.
-/

namespace GrabRedis

set_option autoImplicit false

theorem newClients_ok (ctxErr : Option String) (cb : List CBOption) (configs : List ClientConfig)
    (h : Heap) {ids : List Nat} {h' : Heap} (hr : newClients ctxErr cb configs h = (.ok ids, h')) :
    ids = List.range' h.size configs.length ∧ h'.size = h.size + configs.length ∧
      h'.shutDowns = h.shutDowns := by
  induction configs generalizing h ids with
  | nil => cases hr; simp
  | cons e es ih =>
    have hd := (newClient_grows 0 ctxErr e cb h).shutDowns
    have hs := (newClient_spec ctxErr e cb h).2
    unfold newClients at hr
    split at hr
    · cases hr
    · rename_i x h₁ hx
      rw [hx] at hs hd
      dsimp only at hs hd
      obtain ⟨rfl, hsz, -⟩ := hs x rfl
      rcases hq : newClients ctxErr cb es h₁ with ⟨_ | ids', h''⟩
      · rw [hq] at hr; cases hr
      · rw [hq] at hr
        cases hr
        obtain ⟨h1, h2, h3⟩ := ih h₁ hq
        dsimp only at h2 h3 ⊢
        exact ⟨by rw [h1, hsz]; rfl, by rw [List.length_cons]; omega, h3.trans hd⟩

theorem newDynamicConnector_inv {ctxErr : Option String} {cb : List CBOption}
    {C : ConnectorConfig} {c : Connector} {h : Heap}
    (hc : NewDynamicConnector ctxErr cb C Heap.empty = (.ok c, h)) : c.Inv h := by
  unfold NewDynamicConnector at hc
  split at hc
  · cases hc
  rename_i v _
  have hs := (newClient_spec ctxErr v.main cb Heap.empty).2
  have hd := (newClient_grows 0 ctxErr v.main cb Heap.empty).shutDowns
  split at hc
  · cases hc
  rename_i x h₁ hx
  rw [hx] at hs hd
  dsimp only at hs hd
  obtain ⟨rfl, hsz, -⟩ := hs x rfl
  split at hc
  · cases hc
  rename_i ids h₂ hids
  obtain ⟨rfl, h2, h3⟩ := newClients_ok ctxErr cb v.loadTests h₁ hids
  cases hc
  have hnil : h.shutDowns = [] := h3.trans hd
  refine ⟨by simp only [Heap.empty] at hsz ⊢; omega, fun y hy => ?_, List.nodup_range' _ _,
    fun hy => ?_, fun y _ => by simp [hnil], fun y => by simp [hnil], by simp [hnil]⟩
  · rw [List.mem_range'_1] at hy; omega
  · rw [List.mem_range'_1] at hy; simp only [Heap.empty] at hy hsz; omega

namespace Connector

variable {ctxErr : Option String} {cb : List CBOption} {c : Connector} {h : Heap}

theorem Inv.grows {lo : Nat} {h' : Heap} (hi : c.Inv h) (g : Heap.Grows lo h h') (b : Bool) :
    { c with processAllLoadTestPackets := b }.Inv h' :=
  ⟨lt_of_lt_of_le hi.client_lt g.size_le,
    fun x hx => lt_of_lt_of_le (hi.shadows_lt x hx) g.size_le,
    hi.nodup, hi.client_not_shadow, fun x hx => g.shutDowns ▸ hi.shadows_open x hx,
    fun x hx => lt_of_lt_of_le (hi.shutDowns_lt x (g.shutDowns ▸ hx)) g.size_le,
    g.shutDowns ▸ hi.shutDowns_nodup⟩

theorem reload_inv (v : ValidConfig) (hi : c.Inv h) :
    (c.reload ctxErr cb v h).2.1.Inv (c.reload ctxErr cb v h).2.2 := by
  by_cases he : (c.reload ctxErr cb v h).1 = .ok ()
  · rcases reload_ok_cases he with ⟨-, hr⟩ | ⟨hv, -⟩
    · rw [hr]; exact hi
    · exact (reload_ok_spec hi hv he).2
  · obtain ⟨hc, g⟩ := reload_error hi he
    rw [hc]; exact hi.grows g _

/-- The change callback: either the config is rejected and nothing happens, or it is `reload`'s
call with the validated config. -/
theorem onChange_cases (ctxErr : Option String) (cb : List CBOption) (C : ConnectorConfig)
    (c : Connector) (h : Heap) :
    (c.onChange ctxErr cb C h).2 = (c, h) ∧ (c.onChange ctxErr cb C h).1 ≠ .ok () ∨
      ∃ v, C.initAndValidate = .ok v ∧
        (c.onChange ctxErr cb C h).2 = (c.reload ctxErr cb v h).2 ∧
        ((c.onChange ctxErr cb C h).1 = .ok () ↔ (c.reload ctxErr cb v h).1 = .ok ()) := by
  unfold onChange
  split
  · exact .inl ⟨rfl, fun h => by cases h⟩
  · rename_i v hv
    refine .inr ⟨v, hv, rfl, ?_⟩
    rcases hr : (c.reload ctxErr cb v h).1 with e | u <;> simp [Except.mapError, hr]

theorem onChange_inv (C : ConnectorConfig) (hi : c.Inv h) :
    (c.onChange ctxErr cb C h).2.1.Inv (c.onChange ctxErr cb C h).2.2 := by
  rcases onChange_cases ctxErr cb C c h with ⟨hr, -⟩ | ⟨v, -, hr, -⟩ <;> rw [hr]
  · exact hi
  · exact reload_inv v hi

end Connector

/-- The run lemma: every reachable state satisfies the invariant. -/
theorem Reachable.inv {cb : List CBOption} {s : Connector × Heap} (hs : Reachable cb s) :
    s.1.Inv s.2 := by
  induction hs with
  | connect _ _ _ _ hc => exact newDynamicConnector_inv hc
  | change _ C _ _ ih => exact Connector.onChange_inv C ih

/-! ## Reloads from reachable states -/

/-- A successful change callback with hot reload on moves the shadows as `ShadowsReloaded`
says, with the names and backends they had at the call; and in every reachable state the
shadows are distinct and open, and no client was shut down twice. -/
theorem change_ok_reloads_shadows (cb : List CBOption) :
    (∀ s, Reachable cb s → s.1.loadTestClients.Nodup ∧
      (∀ x ∈ s.1.loadTestClients, x ∉ s.2.shutDowns) ∧ s.2.shutDowns.Nodup) ∧
    ∀ (ctxErr : Option String) (C : ConnectorConfig) (c : Connector) (h : Heap),
      Reachable cb (c, h) → C.hotReload = true → (c.onChange ctxErr cb C h).1 = .ok () →
      ∃ v, C.initAndValidate = .ok v ∧ Connector.ShadowsReloaded v c h
        (c.onChange ctxErr cb C h).2.1 (c.onChange ctxErr cb C h).2.2 := by
  refine ⟨fun s hs => ⟨hs.inv.nodup, hs.inv.shadows_open, hs.inv.shutDowns_nodup⟩,
    fun ctxErr C c h hs hv hok => ?_⟩
  rcases Connector.onChange_cases ctxErr cb C c h with ⟨-, hne⟩ | ⟨v, hiv, hr, hiff⟩
  · exact absurd hok hne
  · rw [hr]
    exact ⟨v, hiv, (Connector.reload_ok_spec hs.inv
      ((ConnectorConfig.hotReload_of_initAndValidate hiv).trans hv) (hiff.mp hok)).1⟩

theorem change_ok_reloads_shadows_renamed :
    let X : ClientConfig := ClientConfig.ofAddrs ModeSingleHost ["10.0.0.2:6379"]
    let C0 : ConnectorConfig := ⟨some (ClientConfig.ofAddrs ModeSingleHost ["10.0.0.1:6379"]),
      [some X, some (ClientConfig.ofAddrs ModeSingleHost ["10.0.0.3:6379"]), some X],
      true, false, 0, 0, 0⟩
    let C1 : ConnectorConfig := { C0 with
      loadTests := [some X, some (ClientConfig.ofAddrs ModeSingleHost ["10.0.0.4:6379"]),
        some X, some X] }
    let c0 : Connector := ⟨0, [1, 2, 3], false, ⟨10000, 10, 1000000000⟩⟩
    let h0 : Heap := (NewDynamicConnector none getDefaultCBOptions C0 Heap.empty).2
    Reachable getDefaultCBOptions (c0, h0) ∧ C1.hotReload = true ∧
      (c0.onChange none getDefaultCBOptions C1 h0).1 = .ok () ∧
      ∃ v, C1.initAndValidate = .ok v ∧ Connector.ShadowsReloaded v c0 h0
        (c0.onChange none getDefaultCBOptions C1 h0).2.1
        (c0.onChange none getDefaultCBOptions C1 h0).2.2 := by
  intro X C0 C1 c0 h0
  have hs : Reachable getDefaultCBOptions (c0, h0) :=
    .connect none C0 c0 h0 (Prod.ext (by decide) rfl)
  have hok : (c0.onChange none getDefaultCBOptions C1 h0).1 = .ok () := by decide
  exact ⟨hs, rfl, hok,
    (change_ok_reloads_shadows getDefaultCBOptions).2 none C1 c0 h0 hs rfl hok⟩

/-- With hot reload off, `reload` returns `nil` and leaves the shadows alone, however many the
new config lists. -/
theorem reload_off_keeps_shadow_count :
    let C0 : ConnectorConfig := ⟨some (ClientConfig.ofAddrs ModeSingleHost ["10.0.0.1:6379"]),
      [some (ClientConfig.ofAddrs ModeSingleHost ["10.0.0.2:6379"])], false, false, 0, 0, 0⟩
    let C1 : ConnectorConfig := { C0 with loadTests := [] }
    let c0 : Connector := ⟨0, [1], false, ⟨10000, 10, 1000000000⟩⟩
    let h0 : Heap := (NewDynamicConnector none getDefaultCBOptions C0 Heap.empty).2
    Reachable getDefaultCBOptions (c0, h0) ∧
      (c0.onChange none getDefaultCBOptions C1 h0).1 = .ok () ∧
      (c0.onChange none getDefaultCBOptions C1 h0).2.1.loadTestClients.length ≠
        C1.loadTests.length := by
  intro C0 C1 c0 h0
  exact ⟨.connect none C0 c0 h0 (Prod.ext (by decide) rfl), by decide, by decide⟩

/-- A failed change callback keeps the primary, the shadow list and the scheduler's options,
and shuts nothing down; every client keeps its mode, DB and addresses. It may already have set
`processAllLoadTestPackets`, reloaded the primary and some shadows, and created clients. -/
theorem change_error_keeps_shadows (cb : List CBOption) {c : Connector} {h : Heap}
    (hs : Reachable cb (c, h)) (ctxErr : Option String) (C : ConnectorConfig)
    (he : (c.onChange ctxErr cb C h).1 ≠ .ok ()) :
    ∃ b, (c.onChange ctxErr cb C h).2.1 = { c with processAllLoadTestPackets := b } ∧
      Heap.Grows h.size h (c.onChange ctxErr cb C h).2.2 := by
  rcases Connector.onChange_cases ctxErr cb C c h with ⟨hr, -⟩ | ⟨v, -, hr, hiff⟩
  · exact ⟨c.processAllLoadTestPackets, by rw [hr], by rw [hr]⟩
  · obtain ⟨h1, h2⟩ := Connector.reload_error hs.inv (mt hiff.mpr he)
    exact ⟨_, by rw [hr, h1], by rw [hr]; exact h2⟩

theorem change_error_keeps_shadows_db_change :
    let P : ClientConfig := ClientConfig.ofAddrs ModeSingleHost ["10.0.0.1:6379"]
    let X : ClientConfig := ClientConfig.ofAddrs ModeSingleHost ["10.0.0.2:6379"]
    let C0 : ConnectorConfig := ⟨some P, [some X], true, false, 0, 0, 0⟩
    let C1 : ConnectorConfig := ⟨some P, [some { X with db := 1 }], true, true, 0, 0, 0⟩
    let c0 : Connector := ⟨0, [1], false, ⟨10000, 10, 1000000000⟩⟩
    let h0 : Heap := (NewDynamicConnector none getDefaultCBOptions C0 Heap.empty).2
    Reachable getDefaultCBOptions (c0, h0) ∧
      (c0.onChange none getDefaultCBOptions C1 h0).1 ≠ .ok () ∧
      ∃ b, (c0.onChange none getDefaultCBOptions C1 h0).2.1 =
          { c0 with processAllLoadTestPackets := b } ∧
        Heap.Grows h0.size h0 (c0.onChange none getDefaultCBOptions C1 h0).2.2 := by
  intro P X C0 C1 c0 h0
  have hs : Reachable getDefaultCBOptions (c0, h0) :=
    .connect none C0 c0 h0 (Prod.ext (by decide) rfl)
  have he : (c0.onChange none getDefaultCBOptions C1 h0).1 ≠ .ok () := by decide
  exact ⟨hs, he, change_error_keeps_shadows getDefaultCBOptions hs none C1 he⟩

/-- A reload that fails at its second shadow, whose DB changed, after the primary was reloaded
and a new shadow created: the flag and the primary's pool size have changed, and the new client
is open outside the shadow list. -/
theorem change_error_keeps_partial_reload :
    let P : ClientConfig := ClientConfig.ofAddrs ModeSingleHost ["10.0.0.1:6379"]
    let X : ClientConfig := ClientConfig.ofAddrs ModeSingleHost ["10.0.0.2:6379"]
    let C0 : ConnectorConfig := ⟨some P, [some X], true, false, 0, 0, 0⟩
    let C1 : ConnectorConfig := ⟨some { P with poolSize := 20 },
      [some (ClientConfig.ofAddrs ModeSingleHost ["10.0.0.3:6379"]), some { X with db := 1 }],
      true, true, 0, 0, 0⟩
    let c0 : Connector := ⟨0, [1], false, ⟨10000, 10, 1000000000⟩⟩
    let h0 : Heap := (NewDynamicConnector none getDefaultCBOptions C0 Heap.empty).2
    let s : Except Failure Unit × Connector × Heap := c0.onChange none getDefaultCBOptions C1 h0
    (NewDynamicConnector none getDefaultCBOptions C0 Heap.empty).1 = .ok c0 ∧
      s.1 = .error (.error "DB change is not allowed in reloading") ∧
      s.2.1.processAllLoadTestPackets ≠ c0.processAllLoadTestPackets ∧
      (s.2.2.get 0).config.poolSize ≠ (h0.get 0).config.poolSize ∧
      2 < s.2.2.size ∧ 2 ∉ s.2.1.loadTestClients ∧ 2 ∉ s.2.2.shutDowns := by
  intro P X C0 C1 c0 h0 s
  exact ⟨by decide, by decide, by decide, by decide, by decide, by decide, by decide⟩

/-- The shared-address check is made only for a shadow matched by name: a new shadow whose
addresses are the primary's, in another order, is created, and the reload succeeds. -/
theorem shadow_shares_primary_addrs :
    let P : ClientConfig := ClientConfig.ofAddrs ModeCluster ["10.0.0.1:6379", "10.0.0.2:6379"]
    let C0 : ConnectorConfig := ⟨some P, [], true, false, 0, 0, 0⟩
    let C1 : ConnectorConfig := { C0 with
      loadTests := [some (ClientConfig.ofAddrs ModeCluster ["10.0.0.2:6379", "10.0.0.1:6379"])] }
    let c0 : Connector := ⟨0, [], false, ⟨10000, 10, 1000000000⟩⟩
    let h0 : Heap := (NewDynamicConnector none getDefaultCBOptions C0 Heap.empty).2
    let s : Connector × Heap := (c0.onChange none getDefaultCBOptions C1 h0).2
    Reachable getDefaultCBOptions s ∧ (c0.onChange none getDefaultCBOptions C1 h0).1 = .ok () ∧
      s.1.loadTestClients = [1] ∧
      (s.2.get 1).config.addrs.Perm (s.2.get s.1.client).config.addrs := by
  intro P C0 C1 c0 h0 s
  exact ⟨.change none C1 (c0, h0) (.connect none C0 c0 h0 (Prod.ext (by decide) rfl)),
    by decide, by decide, by decide⟩

/-- Reloading the configuration last applied is not a no-op, in two ways. `newScheduler`
normalises the connector's copy of the scheduler options and `reload` compares it with the raw
values, so a config with a non-positive worker number cannot be applied again. And
`isAddrsEquals` sorts a kept shadow's addresses in place, which changes the canonical name of a
single-host shadow whose addresses were not sorted: the next reload of the same config replaces
it by a new client. -/
theorem same_config_reload_not_idempotent :
    let P : ClientConfig := ClientConfig.ofAddrs ModeSingleHost ["10.0.0.1:6379"]
    let X : ClientConfig := ClientConfig.ofAddrs ModeSingleHost ["10.0.0.3:6379", "10.0.0.2:6379"]
    let C0 : ConnectorConfig := ⟨some P, [some X], true, false, -1, 0, 0⟩
    let C1 : ConnectorConfig := { C0 with schedulerWorkerNumber := 0 }
    let c0 : Connector := ⟨0, [1], false, ⟨10000, 10, 1000000000⟩⟩
    let h0 : Heap := (NewDynamicConnector none getDefaultCBOptions C0 Heap.empty).2
    let h1 : Heap := (NewDynamicConnector none getDefaultCBOptions C1 Heap.empty).2
    let s : Except Failure Unit × Connector × Heap := c0.onChange none getDefaultCBOptions C1 h1
    let t : Except Failure Unit × Connector × Heap :=
      s.2.1.onChange none getDefaultCBOptions C1 s.2.2
    (NewDynamicConnector none getDefaultCBOptions C0 Heap.empty).1 = .ok c0 ∧
      (c0.onChange none getDefaultCBOptions C0 h0).1 = .error
        (.error "dual write worker number/channel size change is not allowed in reloading") ∧
      (NewDynamicConnector none getDefaultCBOptions C1 Heap.empty).1 = .ok c0 ∧
      s.1 = .ok () ∧ s.2.1 = c0 ∧ s.2.2.size = 2 ∧ s.2.2.shutDowns = [] ∧
      t.1 = .ok () ∧ t.2.1.loadTestClients = [2] ∧ t.2.2.shutDowns = [1] := by
  intro P X C0 C1 c0 h0 h1 s t
  exact ⟨by decide, by decide, by decide, by decide, by decide, by decide, by decide, by decide,
    by decide, by decide⟩


/-- Shadows are matched by canonical name only, and a matched shadow must pass
`validateReload`: a shadow whose name stays but whose mode changes (a single host turned into a
one-node cluster), or whose other addresses change, makes the whole reload fail instead of
being rebuilt. Both new configs pass `initAndValidate` and keep the primary and the scheduler
parameters. -/
theorem shadow_mode_or_addrs_change_rejected :
    let P : ClientConfig := ClientConfig.ofAddrs ModeSingleHost ["10.0.0.1:6379"]
    let X : ClientConfig := ClientConfig.ofAddrs ModeSingleHost ["10.0.0.2:6379"]
    let Y : ClientConfig := ClientConfig.ofAddrs ModeSingleHost ["10.0.0.3:6379", "10.0.0.4:6379"]
    let C0 : ConnectorConfig := ⟨some P, [some X, some Y], true, false, 0, 0, 0⟩
    let C1 : ConnectorConfig :=
      { C0 with loadTests := [some (ClientConfig.ofAddrs ModeCluster ["10.0.0.2:6379"]), some Y] }
    let C2 : ConnectorConfig := { C0 with loadTests :=
      [some X, some (ClientConfig.ofAddrs ModeSingleHost ["10.0.0.3:6379", "10.0.0.5:6379"])] }
    let c0 : Connector := ⟨0, [1, 2], false, ⟨10000, 10, 1000000000⟩⟩
    let h0 : Heap := (NewDynamicConnector none getDefaultCBOptions C0 Heap.empty).2
    (NewDynamicConnector none getDefaultCBOptions C0 Heap.empty).1 = .ok c0 ∧
      (C1.initAndValidate.map fun _ => ()) = .ok () ∧
      (C2.initAndValidate.map fun _ => ()) = .ok () ∧
      (c0.onChange none getDefaultCBOptions C1 h0).1 =
        .error (.error "client mode change is not allowed in reloading") ∧
      (c0.onChange none getDefaultCBOptions C2 h0).1 =
        .error (.error "addrs change is not allowed in reloading") := by
  intro P X Y C0 C1 C2 c0 h0
  exact ⟨by decide, by decide, by decide, by decide, by decide⟩

theorem mapM_id_eq_none {α : Type} {l : List (Option α)} (h : none ∈ l) : l.mapM id = none := by
  induction l with
  | nil => cases h
  | cons x xs ih =>
    rw [List.mapM_cons]
    rcases List.mem_cons.mp h with rfl | hxs
    · rfl
    · rw [ih hxs]; cases x <;> rfl

/-- `initAndValidate` calls `init` on the main config and on every entry of `LoadTests` before
it validates them, so a config with no main, or with a `null` entry after a main that
validates, dereferences a nil pointer: `NewDynamicConnector` and the change callback panic
instead of returning an error. -/
theorem nil_client_config_panics (ctxErr : Option String) (cb : List CBOption)
    (C : ConnectorConfig) (c : Connector) (h : Heap)
    (hnil : C.main = none ∨ ∃ m, C.main = some m ∧ m.init.validate = .ok () ∧ none ∈ C.loadTests) :
    (NewDynamicConnector ctxErr cb C h).1 = .error (.panic "nil pointer dereference") ∧
      c.onChange ctxErr cb C h = (.error (.panic "nil pointer dereference"), c, h) := by
  have hv : C.initAndValidate = .error (.panic "nil pointer dereference") := by
    unfold ConnectorConfig.initAndValidate
    rcases hnil with hm | ⟨m, hm, hval, hl⟩
    · rw [hm]
    · simp only [hm]; split
      · simp_all
      · rw [mapM_id_eq_none hl]
  exact ⟨by simp [NewDynamicConnector, hv], by simp [Connector.onChange, hv]⟩

theorem nil_client_config_panics_loadTest :
    let P : ClientConfig := ClientConfig.ofAddrs ModeSingleHost ["10.0.0.1:6379"]
    let C : ConnectorConfig :=
      ⟨some P, [some (ClientConfig.ofAddrs ModeSingleHost ["10.0.0.2:6379"]), none], true, false,
        0, 0, 0⟩
    let c : Connector := ⟨0, [], false, ⟨10000, 10, 1000000000⟩⟩
    (C.main = none ∨ ∃ m, C.main = some m ∧ m.init.validate = .ok () ∧ none ∈ C.loadTests) ∧
      (NewDynamicConnector none getDefaultCBOptions C Heap.empty).1 =
        .error (.panic "nil pointer dereference") ∧
      c.onChange none getDefaultCBOptions C Heap.empty =
        (.error (.panic "nil pointer dereference"), c, Heap.empty) :=
  have hnil := Or.inr ⟨_, rfl, by decide, by simp⟩
  ⟨hnil, nil_client_config_panics none getDefaultCBOptions _ _ Heap.empty hnil⟩

end GrabRedis
