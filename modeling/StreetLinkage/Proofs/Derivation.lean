import StreetLinkage.Proofs.Chain
import StreetLinkage.Proofs.Run

/-!
# The order of derivation

If nothing goes wrong, a lookup of a scenario copy builds exactly the levels that no tier holds, the
oldest first, each once and each from the linkage of the level below it (`getLinkage_derivation`). The
capacity plays no part in this: a level that is evicted, or never taken in, was handed on before.

The capacity matters for what comes next. With room for two, or with a pinned base, a lookup of the base
right after is answered by the very linkage that the copy was derived from (`Lookup.base_held`).
-/

namespace StreetLinkage

open Scene

section Lookups

variable {σ : Type} {f : Forest} {L : Linker σ} {owner : PointSetId} {key : LinkageKey}
  {base : Option Linkage} {s s' : Scene σ} {acts : List Act} {r : Except LinkageError Linkage}

theorem Made.ok_of_succeed (h : Made L owner key base s acts r s')
    (hcalls : ∀ c ∈ callsOf acts, c.SucceedsFor owner) : ∃ l, r = .ok l := by
  obtain ⟨c, hc, hrequest, hresult⟩ := h.exists_call
  obtain ⟨l, hlink, hl⟩ := hcalls c (by rw [hc]; exact List.mem_singleton_self c)
  refine ⟨l, hresult.symm.trans (LinkCall.result_eq_ok_iff.mpr ⟨hlink, ?_⟩)⟩
  rw [hrequest]
  exact hl

/-- A lookup whose calls all succeed succeeds. -/
theorem Lookup.ok_of_succeed (h : Lookup f L owner key s acts r s')
    (hcalls : ∀ c ∈ callsOf acts, c.SucceedsFor owner) : ∃ l, r = .ok l := by
  induction h with
  | pinned hp => exact ⟨_, rfl⟩
  | bounded hp hb => exact ⟨_, rfl⟩
  | root hheld hbase hmade => exact hmade.ok_of_succeed hcalls
  | baseFailed hheld hbase hlookup ih =>
      obtain ⟨l, hl⟩ := ih fun c hc => hcalls c (by rw [callsOf_append]; exact List.mem_append_left _ hc)
      cases hl
  | derived hheld hbase hlookup hmade ih =>
      exact hmade.ok_of_succeed fun c hc =>
        hcalls c (by rw [callsOf_append]; exact List.mem_append_right _ hc)

/-- **The base stays.** After a linkage was made from that of its base, the base still answers with the
same linkage, if it is pinned or the bounded tier has room for two. -/
theorem Lookup.base_held {l : Linkage} {b : LinkageKey} (h : Lookup f L owner key s acts (.ok l) s')
    (hheld : s.store.held? key = none) (hbase : key.base? f = some b)
    (hroom : 2 ≤ s.store.config.capacity ∨ (s.store.pinned? b).isSome = true) :
    ∃ m, (callsOf acts).getLast?.bind LinkCall.base? = some m ∧ s'.store.held? b = some m := by
  cases h with
  | pinned hp => rw [LinkageStore.held?_of_pinned hp] at hheld; cases hheld
  | bounded hp hb => rw [LinkageStore.held?_of_bounded hp hb] at hheld; cases hheld
  | root hheld' hbase' hmade => rw [hbase] at hbase'; cases hbase'
  | @derived _ b' _ below m s₁ more _ _ hheld' hbase' hlookup hmade =>
      rw [hbase] at hbase'
      cases hbase'
      obtain ⟨c, hcalls, hrequest, -⟩ := hmade.exists_call
      have hlast : (callsOf (below ++ more)).getLast?.bind LinkCall.base? = some m := by
        rw [callsOf_append, hcalls, List.getLast?_concat]
        exact congrArg LinkRequest.base hrequest
      refine ⟨m, hlast, ?_⟩
      have hpinned := hlookup.pinned?_eq b
      rcases hlookup.pinned_or_front with hp | ⟨hp, hfront⟩
      · cases hmade with
        | stored hlink hl => exact LinkageStore.held?_of_pinned hp
      · -- The base is in the bounded tier, so it is not pinned and there must be room for two.
        have hcap : 2 ≤ s₁.store.config.capacity := by
          rw [hlookup.frame.2]
          refine hroom.resolve_right fun hsome => ?_
          have hp' : s.store.pinned? b = none := hpinned.symm.trans hp
          rw [hp'] at hsome
          cases hsome
        have hne : b ≠ key := by
          intro heq
          have hlt := LinkageKey.network_lt_of_base hbase
          rw [heq] at hlt
          exact Nat.lt_irrefl _ hlt
        cases hmade with
        | stored hlink hl =>
            refine LinkageStore.held?_of_bounded hp ?_
            exact Recency.find?_insert_of_head? hcap hne (hfront (by omega))

end Lookups

variable {σ ρ : Type} [PointAccess ρ] {p : PointSet σ ρ}

/-- **A lookup derives what is missing, in order.** Let no call of the linker fail or give a foreign
linkage. Then the lookup of a key succeeds. Its calls are for the levels of the lineage before the first
one that a tier holds, each once, the oldest first; the first call starts from the linkage of that held
level, or from nothing if there is none, and each other call starts from the linkage that the call before
it made. The last linkage made, or else the one that was held, is the answer.

Moreover, if the key had to be built and its base is pinned, or there is room for two, then a lookup of
the base right after answers with the linkage that the key was derived from and calls no linker. -/
theorem getLinkage_derivation (f : Forest) (hp : Reachable f p) (key : LinkageKey) (w : World σ)
    (hcalls : ∀ c ∈ p.calls f (.get key) w, c.SucceedsFor p.id) :
    let missing := p.store.missing (key.lineage f)
    let calls := p.calls f (.get key) w
    let linkages := p.store.nearest? (key.lineage f) :: calls.map LinkCall.linkage?
    let q := (p.getLinkage f key w).2.1
    calls.map LinkCall.key = missing.reverse ∧ missing.Nodup ∧
      calls.map LinkCall.base? = linkages.dropLast ∧
      (∃ l, (p.getLinkage f key w).1 = .ok l ∧ linkages.getLast? = some (some l)) ∧
      (∀ c ∈ calls, c.request.owner = p.id) ∧
      ∀ b, key.base? f = some b → p.store.contains key = false →
        2 ≤ p.store.config.capacity ∨ (p.store.pinned? b).isSome = true →
          ∀ w', ∃ m, calls.getLast?.bind LinkCall.base? = some m ∧
            (q.getLinkage f b w').1 = .ok m ∧ q.calls f (.get b) w' = [] := by
  have hown := hp.ownedBy
  obtain ⟨s', hlookup, hstate⟩ := PointSet.lookup_derivation f key hown w
  rw [PointSet.calls_eq hown] at hcalls ⊢
  obtain ⟨l, hl⟩ := hlookup.ok_of_succeed hcalls
  rw [hl] at hlookup ⊢
  have hchain := hlookup.buildChain
  refine ⟨hchain.keys_eq, ?_, hchain.bases_eq, ⟨l, rfl, hchain.last_eq⟩,
    fun c hc => (hlookup.call_owned hown c hc).1, ?_⟩
  · exact (LinkageKey.nodup_lineage f key).sublist (List.takeWhile_sublist _)
  · intro b hbase habsent hroom w'
    obtain ⟨m, hm, hheld⟩ :=
      hlookup.base_held (LinkageStore.contains_eq_false_iff.mp habsent) hbase hroom
    -- The second lookup starts from what the first one left, and that still holds the base.
    have hq : Reachable f (p.getLinkage f key w).2.1 := hp.perform (.get key) w
    have hqown := hq.ownedBy
    obtain ⟨t, hagain, -⟩ := PointSet.lookup_derivation f b hqown w'
    have hqheld : (p.getLinkage f key w).2.1.store.held? b = some m := by
      rw [hstate]
      exact hheld
    obtain ⟨hok, hnone⟩ := hagain.of_held hqheld
    exact ⟨m, hm, hok, (PointSet.calls_eq hqown f (.get b) w').trans hnone⟩

/-- On the way back from a pinned city to a street network two copies further, where there is room for
only one linkage: both copies are built, and nothing else. -/
theorem getLinkage_derivation_over_pin :
    let f := Forest.ofList [("city", none), ("tram", some 0), ("tram and bus lane", some 1)]
    let p := ((PointSet.new 7 (PointSource.freeForm []) Linker.scripted { capacity := 1 }).perform f
      (.pin ⟨0, .walk⟩) (.withTurns [])).1
    (∀ c ∈ p.calls f (.get ⟨2, .walk⟩) (.withTurns []), c.SucceedsFor p.id) ∧
      (p.calls f (.get ⟨2, .walk⟩) (.withTurns [])).map LinkCall.key = [⟨1, .walk⟩, ⟨2, .walk⟩] :=
  ⟨by decide, (getLinkage_derivation _ (.perform _ _ (.new ..)) _ _ (by decide)).1.trans (by decide)⟩

end StreetLinkage
