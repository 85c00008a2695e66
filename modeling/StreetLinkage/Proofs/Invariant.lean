import StreetLinkage.Proofs.Chain
import StreetLinkage.Proofs.Run

/-!
# Invariants of a store

Whatever an operation does to a store, it does by counting, touching, taking in, dropping and pinning.
`LinkageStore.Invariant` asks of a property that it survive each of these steps, two of them with what
has been checked by then: nothing is taken in under a key that a tier holds, and nothing is pinned that
the policy refuses.

Such a property is kept by every run (`PointSet.holds_play`), so one that all empty stores have holds in
every reachable state (`Reachable.holds`). It also holds at every call of the linker, where a lookup is
half done and levels of its lineage may have come and gone already (`PointSet.holds_at_calls`).
-/

namespace StreetLinkage

/-- A property of stores that every step of an operation keeps. -/
structure LinkageStore.Invariant (I : LinkageStore → Prop) : Prop where
  /-- The counters have no part in it. -/
  congr {s t : LinkageStore} : I s → t.config = s.config → t.pins = s.pins → t.bounded = s.bounded →
    I t
  touch {s : LinkageStore} (key : LinkageKey) : I s → I (s.touch key)
  insert {s : LinkageStore} {key : LinkageKey} (l : Linkage) : s.held? key = none → I s →
    I (s.insert key l)
  invalidate {s : LinkageStore} (key : LinkageKey) : I s → I (s.invalidate key)
  pin {s : LinkageStore} {key : LinkageKey} (l : Linkage) : s.refuses key = false → I s →
    I (s.pin key l)

/-- A store is configured once. -/
theorem LinkageStore.invariant_config (config : CacheConfig) :
    LinkageStore.Invariant fun s => s.config = config where
  congr hs hc _ _ := hc.trans hs
  touch _ hs := hs
  insert _ _ hs := hs
  invalidate _ hs := hs
  pin _ _ hs := hs

section Operations

open Scene

variable {σ : Type} {f : Forest} {L : Linker σ} {owner : PointSetId} {key : LinkageKey}
  {base : Option Linkage} {s s' : Scene σ} {acts : List Act} {I : LinkageStore → Prop}

theorem Made.holds {r : Except LinkageError Linkage} (hI : LinkageStore.Invariant I)
    (h : Made L owner key base s acts r s') (hheld : s.store.held? key = none) (hs : I s.store) :
    I s'.store ∧ ∀ c ∈ callsOf acts, I c.request.store := by
  obtain ⟨c, hcalls, hrequest, -⟩ := h.exists_call
  constructor
  · cases h with
    | failed hlink => exact hs
    | stored hlink hl => exact hI.insert _ hheld hs
    | foreign hlink hl => exact hI.invalidate key (hI.insert _ hheld hs)
  · intro d hd
    rw [hcalls, List.mem_singleton] at hd
    rw [hd, hrequest]
    exact hs

/-- A lookup keeps an invariant, and calls the linker only where it holds. -/
theorem Lookup.holds {r : Except LinkageError Linkage} (hI : LinkageStore.Invariant I)
    (h : Lookup f L owner key s acts r s') (hs : I s.store) :
    I s'.store ∧ ∀ c ∈ callsOf acts, I c.request.store := by
  induction h with
  | pinned hp => exact ⟨hI.congr hs rfl rfl rfl, by simp⟩
  | bounded hp hb =>
      exact ⟨hI.congr (hI.touch _ hs) rfl rfl rfl, by simp⟩
  | root hheld hbase hmade => exact hmade.holds hI hheld (hI.congr hs rfl rfl rfl)
  | baseFailed hheld hbase hlookup ih =>
      obtain ⟨hbelow, hcalls⟩ := ih (hI.congr hs rfl rfl rfl)
      rw [callsOf_append_failed]
      exact ⟨hbelow, hcalls⟩
  | derived hheld hbase hlookup hmade ih =>
      obtain ⟨hbelow, hcalls⟩ := ih (hI.congr hs rfl rfl rfl)
      -- The key is younger than the lineage of its base, so looking that up did not bring it in.
      have habsent := hlookup.held?_eq_none (LinkageKey.not_mem_lineage_base hbase) hheld
      obtain ⟨hafter, hlast⟩ := hmade.holds hI habsent hbelow
      refine ⟨hafter, fun c hc => ?_⟩
      rw [callsOf_append] at hc
      rcases List.mem_append.mp hc with hc | hc
      · exact hcalls c hc
      · exact hlast c hc

theorem Pin.holds {r : Except LinkageError Unit} (hI : LinkageStore.Invariant I)
    (h : Pin L owner key s acts r s') (hs : I s.store) :
    I s'.store ∧ ∀ c ∈ callsOf acts, I c.request.store := by
  constructor
  · cases h with
    | refused hrefuse => exact hs
    | failed hrefuse hlink => exact hs
    | foreign hrefuse hlink hl => exact hs
    | costsFailed hrefuse hlink hl hcosts => exact hs
    | pinned hrefuse hlink hl hcosts => exact hI.pin _ hrefuse hs
  · intro c hc
    rw [h.call_fresh c hc]
    exact hs

end Operations

/-! ### Along a run -/

section Runs

variable {σ ρ : Type} [PointAccess ρ] {f : Forest} {p : PointSet σ ρ} {I : LinkageStore → Prop}

theorem PointSet.holds_perform (hI : LinkageStore.Invariant I) (hp : p.store.OwnedBy p.id)
    (hs : I p.store) (op : Operation) (w : World σ) : I (p.perform f op w).1.store := by
  cases op with
  | get key =>
      obtain ⟨s', hlookup, hstate⟩ := lookup_derivation f key hp w
      rw [perform, hstate]
      exact (hlookup.holds hI hs).1
  | pin key =>
      obtain ⟨s', hpin, hstate⟩ := pin_derivation f key p w
      rw [perform, hstate]
      exact (hpin.holds hI hs).1
  | peek key =>
      rcases store_perform_peek f key p w with hsame | htouch
      · exact hsame ▸ hs
      · exact htouch ▸ hI.touch key hs
  | index => exact store_perform_index f p w ▸ hs
  | query a b => exact store_perform_query f a b p w ▸ hs

/-- **What every new store has and every step keeps holds in every reachable state.** -/
theorem Reachable.holds (hI : LinkageStore.Invariant I) (hnew : ∀ config, I { config })
    (hp : Reachable f p) : I p.store := by
  induction hp with
  | new id source linker config => exact hnew config
  | perform op w hp ih => exact PointSet.holds_perform hI hp.ownedBy ih op w

/-- A run keeps an invariant that its first state has. -/
theorem PointSet.holds_play (hI : LinkageStore.Invariant I) (hp : Reachable f p) (hs : I p.store)
    (ops : List Operation) (w : World σ) : I (p.play f ops w).1.store := by
  induction ops generalizing p w with
  | nil => exact hs
  | cons op ops ih => exact ih (hp.perform op w) (holds_perform hI hp.ownedBy hs op w) _

theorem PointSet.config_perform (hp : Reachable f p) (op : Operation) (w : World σ) :
    (p.perform f op w).1.store.config = p.store.config :=
  holds_perform (LinkageStore.invariant_config _) hp.ownedBy rfl op w

theorem PointSet.config_play (hp : Reachable f p) (ops : List Operation) (w : World σ) :
    (p.play f ops w).1.store.config = p.store.config :=
  holds_play (LinkageStore.invariant_config _) hp rfl ops w

/-- **An invariant holds whenever the linker is called**, however deep in the resolution of a base. -/
theorem PointSet.holds_at_calls (hI : LinkageStore.Invariant I) (hp : Reachable f p) (hs : I p.store)
    (op : Operation) (w : World σ) : ∀ c ∈ p.calls f op w, I c.request.store := by
  have hown := hp.ownedBy
  intro c hc
  rw [calls_eq hown] at hc
  cases op with
  | get key =>
      obtain ⟨s', hlookup, -⟩ := lookup_derivation f key hown w
      exact (hlookup.holds hI hs).2 c hc
  | pin key =>
      obtain ⟨s', hpin, -⟩ := pin_derivation f key p w
      exact (hpin.holds hI hs).2 c hc
  | peek key => simp [acts] at hc
  | index => simp [acts] at hc
  | query a b => simp [acts] at hc

end Runs

end StreetLinkage
