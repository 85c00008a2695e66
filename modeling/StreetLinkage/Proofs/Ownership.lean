import StreetLinkage.Proofs.Run

/-!
# A point set holds its own linkages

A linker may return a linkage that was made for another point set, and a lookup takes it into the
bounded tier before it looks at the owner. `linkages_belong` says that nothing of this can be seen
between operations, nor by the linker: whatever the tiers hold, whatever is handed out and whatever a
linkage is derived from belongs to the point set itself.

The invariant is `Reachable.ownedBy`. It carries the reads that check nothing (`linkageIfPresent`,
`persistedLinkages`); the lookups and the bases need the derivation of the operation as well.
-/

namespace StreetLinkage

variable {σ ρ : Type} [PointAccess ρ] {f : Forest} {p : PointSet σ ρ}

theorem PointSet.call_base_belongsTo (hp : p.store.OwnedBy p.id) (f : Forest) (op : Operation)
    (w : World σ) {c : LinkCall} (hc : c ∈ p.calls f op w) {l : Linkage} (hl : c.base? = some l) :
    l.belongsTo p.id = true := by
  rw [calls_eq hp] at hc
  cases op with
  | get key =>
      obtain ⟨s', hlookup, -⟩ := lookup_derivation f key hp w
      exact (hlookup.call_owned hp c hc).2 l hl
  | pin key =>
      obtain ⟨s', hpin, -⟩ := pin_derivation f key p w
      have hrequest := hpin.call_fresh c hc
      simp [LinkCall.base?, hrequest, Scene.request] at hl
  | peek key => simp [acts] at hc
  | index => simp [acts] at hc
  | query a b => simp [acts] at hc

/-- **Every linkage belongs to its point set.** In every state that operations lead to, with any linker:
the linkages of the pinned tier, those of the bounded tier, what is saved, what looking a key up gives
with or without a build, and what the linker is given to start from. -/
theorem linkages_belong (f : Forest) (hp : Reachable f p) :
    (∀ entry ∈ p.store.pins, entry.2.belongsTo p.id = true) ∧
      (∀ entry ∈ p.store.bounded.entries, entry.2.belongsTo p.id = true) ∧
      (∀ l ∈ p.persistedLinkages, l.belongsTo p.id = true) ∧
      (∀ key l, (p.linkageIfPresent key).1 = some l → l.belongsTo p.id = true) ∧
      (∀ key w l, (p.getLinkage f key w).1 = .ok l → l.belongsTo p.id = true) ∧
      (∀ op w, ∀ c ∈ p.calls f op w, ∀ l, c.base? = some l → l.belongsTo p.id = true) := by
  have hown := hp.ownedBy
  refine ⟨hown.pins, hown.bounded, ?_, ?_, ?_, ?_⟩
  · intro l hl
    obtain ⟨entry, hentry, rfl⟩ := List.mem_map.mp hl
    exact hown.pins entry hentry
  · intro key l hl
    have hread : (p.linkageIfPresent key).1 = p.store.held? key := LinkageStore.get_fst p.store key
    rw [hread] at hl
    exact hown.of_held? hl
  · intro key w l hl
    obtain ⟨s', hlookup, -⟩ := PointSet.lookup_derivation f key hown w
    rw [hl] at hlookup
    exact hlookup.result_belongsTo hown
  · intro op w c hc l hl
    exact PointSet.call_base_belongsTo hown f op w hc hl

/-- A scenario copy whose linkage turns out foreign: the linkage of its base, built on the way, stays in
the bounded tier and belongs to the point set. -/
theorem linkages_belong_after_foreign :
    let f := Forest.ofList [("city", none), ("city with tram", some 0)]
    let p := PointSet.new 7 (PointSource.freeForm []) Linker.scripted {}
    let q := (p.perform f (.get ⟨1, .walk⟩) (.withTurns [.own, .foreign])).1
    q.store.bounded.keys = [⟨0, .walk⟩] ∧
      ∀ entry ∈ q.store.bounded.entries, entry.2.belongsTo 7 = true :=
  ⟨by decide, (linkages_belong _ (.perform _ _ (.new 7 _ _ _))).2.1⟩

end StreetLinkage
