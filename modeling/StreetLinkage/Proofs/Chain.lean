import StreetLinkage.Proofs.Lookup

/-!
# The shape of a lookup along a chain

A lookup of a key concerns its lineage: the key, the key of the base network, and so on. It climbs the
levels that no tier holds (`LinkageStore.missing`) and starts from the first linkage that it meets
(`LinkageStore.nearest?`).

* `BuildChain` describes calls of the linker that build one level after the other, each from the linkage
  of the level before. `Lookup.buildChain`: the calls of a lookup that succeeds are such a chain, from
  `nearest?` over all missing levels, the oldest first.
* The frame of a lookup: pins and configuration stay (`Lookup.frame`), and no key outside the lineage
  comes into a tier (`Lookup.held?_eq_none`).
* What a lookup leaves behind: its own key answers afterwards (`Lookup.pinned_or_front`).

How a lookup fails is in `StreetLinkage.Proofs.Failure`.
-/

namespace StreetLinkage

/-! ### Lineages of keys -/

namespace LinkageKey

variable {f : Forest} {key b : LinkageKey}

/-- The key, the key of its base network, the base of that and so on. -/
def lineage (f : Forest) (key : LinkageKey) : List LinkageKey :=
  (f.lineage key.network).map (⟨·, key.mode⟩)

theorem lineage_of_root (h : key.base? f = none) : key.lineage f = [key] := by
  have hbase : f.base key.network = none := by simpa [base?] using h
  simp [lineage, Forest.lineage, f.ancestors_eq key.network, hbase]

theorem lineage_of_base (h : key.base? f = some b) : key.lineage f = key :: b.lineage f := by
  obtain ⟨n, hbase, rfl⟩ := Option.map_eq_some_iff.mp h
  simp [lineage, Forest.lineage, f.ancestors_eq key.network, hbase]

theorem lineage_eq_cons (f : Forest) (key : LinkageKey) :
    ∃ rest, key.lineage f = key :: rest :=
  ⟨_, rfl⟩

theorem network_lt_of_base (h : key.base? f = some b) : b.network < key.network := by
  obtain ⟨n, hbase, rfl⟩ := Option.map_eq_some_iff.mp h
  exact f.base_lt hbase

/-- **Induction along lineages**: what holds of a key without a base, and of a key if it holds of its base
key, holds of every key, since a base network is older than its copies. -/
@[elab_as_elim]
theorem lineage_induction (f : Forest) {motive : LinkageKey → Prop}
    (root : ∀ key, key.base? f = none → motive key)
    (derived : ∀ key b, key.base? f = some b → motive b → motive key) (key : LinkageKey) :
    motive key := by
  obtain ⟨n, mode⟩ := key
  induction n using Nat.strongRecOn with
  | ind n ih =>
      cases hbase : base? f ⟨n, mode⟩ with
      | none => exact root _ hbase
      | some b =>
          have hlt := network_lt_of_base hbase
          obtain ⟨m, -, rfl⟩ := Option.map_eq_some_iff.mp hbase
          exact derived _ _ hbase (ih m hlt)

theorem network_le_of_mem_lineage {k : LinkageKey} (h : k ∈ key.lineage f) :
    k.network ≤ key.network := by
  induction key using lineage_induction f with
  | root key hbase =>
      rw [lineage_of_root hbase, List.mem_singleton] at h
      exact h ▸ Nat.le_refl _
  | derived key b hbase ih =>
      rw [lineage_of_base hbase] at h
      rcases List.mem_cons.mp h with rfl | h
      · exact Nat.le_refl _
      · exact Nat.le_trans (ih h) (Nat.le_of_lt (network_lt_of_base hbase))

/-- A key is older than nothing in the lineage of its base. -/
theorem not_mem_lineage_base (h : key.base? f = some b) : key ∉ b.lineage f := by
  intro hmem
  exact absurd (network_le_of_mem_lineage hmem) (Nat.not_le.mpr (network_lt_of_base h))

theorem nodup_lineage (f : Forest) (key : LinkageKey) : (key.lineage f).Nodup := by
  induction key using lineage_induction f with
  | root key hbase => simp [lineage_of_root hbase]
  | derived key b hbase ih =>
      rw [lineage_of_base hbase]
      exact List.nodup_cons.mpr ⟨not_mem_lineage_base hbase, ih⟩

end LinkageKey

/-! ### What a store lacks of a lineage -/

namespace LinkageStore

variable {s : LinkageStore} {key : LinkageKey} {keys : List LinkageKey}

/-- The first keys, as far as no tier holds one. -/
def missing (s : LinkageStore) (keys : List LinkageKey) : List LinkageKey :=
  keys.takeWhile fun key => !s.contains key

/-- The linkage of the first key that a tier holds. -/
def nearest? (s : LinkageStore) (keys : List LinkageKey) : Option Linkage :=
  keys.findSome? s.held?

theorem missing_cons_of_held {l : Linkage} (h : s.held? key = some l) :
    s.missing (key :: keys) = [] := by
  simp [missing, contains_eq_isSome_held?, h]

theorem missing_cons_of_not_held (h : s.held? key = none) :
    s.missing (key :: keys) = key :: s.missing keys := by
  simp [missing, contains_eq_isSome_held?, h]

theorem nearest?_cons_of_held {l : Linkage} (h : s.held? key = some l) :
    s.nearest? (key :: keys) = some l := by
  simp [nearest?, h]

theorem nearest?_cons_of_not_held (h : s.held? key = none) :
    s.nearest? (key :: keys) = s.nearest? keys := by
  simp [nearest?, h]

/-- Levels that are all missing come before what is missing after them. -/
theorem missing_append (h : ∀ key ∈ keys, s.held? key = none) (more : List LinkageKey) :
    s.missing (keys ++ more) = keys ++ s.missing more := by
  unfold missing
  rw [List.takeWhile_append_of_pos]
  intro key hkey
  simp [contains_eq_isSome_held?, h key hkey]

/-- Nothing is missing if the first key is held, or if there is none. -/
theorem missing_eq_nil (h : ∀ key ∈ keys.head?, s.contains key = true) : s.missing keys = [] := by
  cases keys with
  | nil => rfl
  | cons key rest => simp [missing, h key rfl]

end LinkageStore

/-! ### Calls that build one level after the other -/

/-- The calls make a linkage for each of the keys in turn, the first from `start`, each other one from
the linkage of the call before it; `last` is what comes out at the end. -/
structure BuildChain (owner : PointSetId) (start : Option Linkage) (keys : List LinkageKey)
    (calls : List LinkCall) (last : Option Linkage) : Prop where
  keys_eq : calls.map LinkCall.key = keys
  bases_eq : calls.map LinkCall.base? = (start :: calls.map LinkCall.linkage?).dropLast
  last_eq : (start :: calls.map LinkCall.linkage?).getLast? = some last
  succeed : ∀ c ∈ calls, c.SucceedsFor owner

namespace BuildChain

variable {owner : PointSetId} {start base : Option Linkage} {keys : List LinkageKey}
  {calls : List LinkCall}

theorem nil (owner : PointSetId) (start : Option Linkage) : BuildChain owner start [] [] start where
  keys_eq := rfl
  bases_eq := rfl
  last_eq := rfl
  succeed := by simp

theorem snoc {c : LinkCall} {l : Linkage} (h : BuildChain owner start keys calls base)
    (hbase : c.base? = base) (hlink : c.outcome = .ok l) (hl : l.belongsTo owner = true) :
    BuildChain owner start (keys ++ [c.key]) (calls ++ [c]) (some l) where
  keys_eq := by rw [List.map_append, h.keys_eq]; rfl
  bases_eq := by
    -- The base of the new call is the linkage that the chain so far had left for nobody.
    have hlast : (start :: calls.map LinkCall.linkage?).dropLast ++ [base] =
        start :: calls.map LinkCall.linkage? := by
      have hne : start :: calls.map LinkCall.linkage? ≠ [] := List.cons_ne_nil _ _
      have hget := h.last_eq
      rw [List.getLast?_eq_some_getLast hne, Option.some.injEq] at hget
      rw [← hget]
      exact List.dropLast_concat_getLast hne
    rw [List.map_append, List.map_append, ← List.cons_append, List.map_singleton, List.map_singleton,
      List.dropLast_concat, h.bases_eq, hbase, hlast]
  last_eq := by
    rw [List.map_append, ← List.cons_append, List.map_singleton, List.getLast?_concat]
    simp [LinkCall.linkage?, hlink, Except.toOption]
  succeed := by
    intro d hd
    rcases List.mem_append.mp hd with hd | hd
    · exact h.succeed d hd
    · rw [List.mem_singleton] at hd
      exact ⟨l, hd ▸ hlink, hl⟩

end BuildChain

theorem LinkCall.result_eq_ok_iff {c : LinkCall} {l : Linkage} :
    c.result = .ok l ↔ c.outcome = .ok l ∧ l.belongsTo c.request.owner = true := by
  unfold LinkCall.result
  cases c.outcome with
  | error e => simp
  | ok m =>
      dsimp only
      by_cases hm : m.belongsTo c.request.owner = true
      · rw [if_pos hm, Except.ok.injEq, Except.ok.injEq]
        exact ⟨fun h => ⟨h, h ▸ hm⟩, fun h => h.1⟩
      · rw [if_neg hm]
        refine ⟨fun h => (by cases h), fun h => ?_⟩
        exact absurd (Except.ok.inj h.1 ▸ h.2) hm

section Lookups

open Scene

variable {σ : Type} {f : Forest} {L : Linker σ} {owner : PointSetId} {key : LinkageKey}
  {base : Option Linkage} {s s' : Scene σ} {acts : List Act} {r : Except LinkageError Linkage}

/-- A level that succeeds continues the chain of calls below it. -/
theorem Made.buildChain {start : Option Linkage} {keys : List LinkageKey} {calls : List LinkCall}
    {l : Linkage} (h : Made L owner key base s acts (.ok l) s')
    (hchain : BuildChain owner start keys calls base) :
    BuildChain owner start (keys ++ [key]) (calls ++ callsOf acts) (some l) := by
  obtain ⟨c, hcalls, hrequest, hresult⟩ := h.exists_call
  obtain ⟨hlink, hl⟩ := LinkCall.result_eq_ok_iff.mp hresult
  have hkey : c.key = key := congrArg LinkRequest.key hrequest
  rw [hrequest] at hl
  rw [hcalls, ← hkey]
  exact hchain.snoc (congrArg LinkRequest.base hrequest) hlink hl

/-- **A lookup that succeeds builds up its lineage**: the linker is called for the missing levels and
nothing else, the oldest first, starting from the nearest linkage that a tier held. -/
theorem Lookup.buildChain {l : Linkage} (h : Lookup f L owner key s acts (.ok l) s') :
    BuildChain owner (s.store.nearest? (key.lineage f)) (s.store.missing (key.lineage f)).reverse
      (callsOf acts) (some l) := by
  generalize hr : Except.ok l = r at h
  induction h generalizing l with
  | @pinned key s m hp =>
      cases hr
      have hheld := LinkageStore.held?_of_pinned hp
      obtain ⟨rest, hrest⟩ := key.lineage_eq_cons f
      rw [hrest, LinkageStore.missing_cons_of_held hheld, LinkageStore.nearest?_cons_of_held hheld]
      exact .nil owner _
  | @bounded key s m hp hb =>
      cases hr
      have hheld := LinkageStore.held?_of_bounded hp hb
      obtain ⟨rest, hrest⟩ := key.lineage_eq_cons f
      rw [hrest, LinkageStore.missing_cons_of_held hheld, LinkageStore.nearest?_cons_of_held hheld]
      exact .nil owner _
  | root hheld hbase hmade =>
      subst hr
      rw [LinkageKey.lineage_of_root hbase, LinkageStore.missing_cons_of_not_held hheld,
        LinkageStore.nearest?_cons_of_not_held hheld]
      exact hmade.buildChain (.nil owner none)
  | baseFailed hheld hbase hlookup ih => cases hr
  | derived hheld hbase hlookup hmade ih =>
      subst hr
      rw [LinkageKey.lineage_of_base hbase, LinkageStore.missing_cons_of_not_held hheld,
        LinkageStore.nearest?_cons_of_not_held hheld, List.reverse_cons, callsOf_append]
      exact hmade.buildChain (ih rfl)

/-! ### The frame of a lookup -/

theorem Made.frame (h : Made L owner key base s acts r s') :
    s'.store.pins = s.store.pins ∧ s'.store.config = s.store.config := by
  cases h <;> exact ⟨rfl, rfl⟩

theorem Lookup.frame (h : Lookup f L owner key s acts r s') :
    s'.store.pins = s.store.pins ∧ s'.store.config = s.store.config := by
  induction h with
  | pinned hp => exact ⟨rfl, rfl⟩
  | bounded hp hb => exact ⟨rfl, rfl⟩
  | root hheld hbase hmade => exact hmade.frame
  | baseFailed hheld hbase hlookup ih => exact ih
  | derived hheld hbase hlookup hmade ih => exact ⟨hmade.frame.1.trans ih.1, hmade.frame.2.trans ih.2⟩

/-- A lookup leaves the pinned tier as it was, whatever comes of it. -/
theorem Lookup.pinned?_eq (h : Lookup f L owner key s acts r s') (k : LinkageKey) :
    s'.store.pinned? k = s.store.pinned? k := by
  unfold LinkageStore.pinned?
  rw [h.frame.1]

theorem Made.held?_eq_none (h : Made L owner key base s acts r s') {k : LinkageKey} (hk : k ≠ key)
    (hnone : s.store.held? k = none) : s'.store.held? k = none := by
  obtain ⟨hp, hb⟩ := LinkageStore.held?_eq_none_iff.mp hnone
  rw [LinkageStore.held?_eq_none_iff]
  cases h with
  | failed hlink => exact ⟨hp, hb⟩
  | stored hlink hl => exact ⟨hp, Recency.find?_insert_eq_none hk hb⟩
  | foreign hlink hl =>
      refine ⟨hp, ?_⟩
      exact (Recency.find?_erase _ _ _).trans
        ((if_neg hk).trans (Recency.find?_insert_eq_none hk hb))

/-- No key outside the lineage comes into a tier. -/
theorem Lookup.held?_eq_none (h : Lookup f L owner key s acts r s') {k : LinkageKey}
    (hk : k ∉ key.lineage f) (hnone : s.store.held? k = none) : s'.store.held? k = none := by
  induction h with
  | pinned hp => exact hnone
  | bounded hp hb =>
      obtain ⟨hkp, hkb⟩ := LinkageStore.held?_eq_none_iff.mp hnone
      exact LinkageStore.held?_eq_none_iff.mpr ⟨hkp, (Recency.find?_touch _ _ _).trans hkb⟩
  | root hheld hbase hmade =>
      rw [LinkageKey.lineage_of_root hbase, List.mem_singleton] at hk
      exact hmade.held?_eq_none hk hnone
  | baseFailed hheld hbase hlookup ih =>
      rw [LinkageKey.lineage_of_base hbase, List.mem_cons, not_or] at hk
      exact ih hk.2 hnone
  | derived hheld hbase hlookup hmade ih =>
      rw [LinkageKey.lineage_of_base hbase, List.mem_cons, not_or] at hk
      exact hmade.held?_eq_none hk.1 (ih hk.2 hnone)

/-! ### What a lookup leaves behind -/

/-- A key that a tier holds is answered by it, and the linker is not called. -/
theorem Lookup.of_held {l : Linkage} (h : Lookup f L owner key s acts r s')
    (hl : s.store.held? key = some l) : r = .ok l ∧ callsOf acts = [] := by
  cases h with
  | pinned hp =>
      rw [LinkageStore.held?_of_pinned hp] at hl
      exact ⟨congrArg _ (Option.some.inj hl), rfl⟩
  | bounded hp hb =>
      rw [LinkageStore.held?_of_bounded hp hb] at hl
      exact ⟨congrArg _ (Option.some.inj hl), rfl⟩
  | root hheld hbase hmade => rw [hheld] at hl; cases hl
  | baseFailed hheld hbase hlookup => rw [hheld] at hl; cases hl
  | derived hheld hbase hlookup hmade => rw [hheld] at hl; cases hl

/-- After a lookup that succeeded its linkage is pinned, or it stands in front of the bounded tier if
that has any room at all. -/
theorem Lookup.pinned_or_front {l : Linkage} (h : Lookup f L owner key s acts (.ok l) s') :
    s'.store.pinned? key = some l ∨
      s'.store.pinned? key = none ∧
        (s'.store.config.capacity ≠ 0 → s'.store.bounded.entries.head? = some (key, l)) := by
  -- What a level builds is not pinned meanwhile, and it is taken in last.
  have hstored : ∀ {base s₁ more}, s₁.store.pinned? key = none →
      Made L owner key base s₁ more (.ok l) s' →
      s'.store.pinned? key = none ∧
        (s'.store.config.capacity ≠ 0 → s'.store.bounded.entries.head? = some (key, l)) := by
    intro base s₁ more hp hmade
    cases hmade with
    | stored hlink hl => exact ⟨hp, fun hcap => Recency.head?_insert hcap _ _ _⟩
  cases h with
  | pinned hp => exact Or.inl hp
  | bounded hp hb => exact Or.inr ⟨hp, fun _ => Recency.head?_touch hb⟩
  | root hheld hbase hmade =>
      refine Or.inr (hstored ?_ hmade)
      exact (LinkageStore.held?_eq_none_iff.mp hheld).1
  | derived hheld hbase hlookup hmade =>
      refine Or.inr (hstored ?_ hmade)
      rw [hlookup.pinned?_eq]
      exact (LinkageStore.held?_eq_none_iff.mp hheld).1

end Lookups

end StreetLinkage
