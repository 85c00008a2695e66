import StreetLinkage.Proofs.Invariant

/-!
# The accounts of a store

Four counters of a store are kept at different places: by a lookup when it starts, when the pinned tier
answers and when it starts to build, and by the bounded tier when it drops an entry. `Balanced` says what
they come to over a stretch of work, in terms of what was done: every lookup ends in one of three ways,
every build ends in one of two, and what was taken in is still there, was evicted, or was dropped because
it is foreign.

`Lookup.balanced` holds at every depth of a lookup, where builds of the levels above are under way; the
count of the entries rests on `LinkageStore.Tidy`, the invariant of the bounded tier. `stats_balanced`
reads both for a whole run.
-/

namespace StreetLinkage

/-! ### Sizes of a recency list -/

namespace Recency

variable {κ ν : Type} [DecidableEq κ] {r : Recency κ ν} {bound : Nat} {key : κ}

theorem size_touch (h : r.keys.Nodup) (key : κ) : (r.touch key).size = r.size := by
  rw [size_eq_length_keys, size_eq_length_keys, keys_touch]
  split
  · next hmem =>
    have hfilter : r.keys.filter (· ≠ key) = r.keys.erase key := by
      rw [h.erase_eq_filter]
      exact List.filter_congr fun k _ => by rw [Bool.eq_iff_iff]; simp
    rw [hfilter]
    exact (List.perm_cons_erase hmem).length_eq.symm
  · rfl

theorem entries_erase_of_not_mem (h : key ∉ r.keys) : (r.erase key).entries = r.entries :=
  List.filter_eq_self.mpr fun entry hentry => by
    simpa using fun heq : entry.1 = key => h (heq ▸ List.mem_map_of_mem hentry)

theorem filter_keys_of_not_mem (h : key ∉ r.keys) : r.keys.filter (· ≠ key) = r.keys := by
  rw [← keys_erase, keys, entries_erase_of_not_mem h, keys]

/-- A new key adds one entry, and some go for it. -/
theorem size_insert_add_dropped (hb : bound ≠ 0) (h : key ∉ r.keys) (value : ν) :
    (r.insert bound key value).size + (r.dropped bound key value).length = r.size + 1 := by
  have hlength := congrArg List.length (keys_insert_append_dropped hb r key value)
  rw [filter_keys_of_not_mem h, List.length_append, List.length_reverse, List.length_cons] at hlength
  rw [size_eq_length_keys, size_eq_length_keys]
  exact hlength

/-- What was just taken in is one entry. -/
theorem size_erase_insert (hb : bound ≠ 0) (r : Recency κ ν) (key : κ) (value : ν) :
    ((r.insert bound key value).erase key).size + 1 = (r.insert bound key value).size := by
  obtain ⟨n, rfl⟩ := Nat.exists_eq_succ_of_ne_zero hb
  have hothers : ((r.keys.filter (· ≠ key)).take n).filter (· ≠ key) =
      (r.keys.filter (· ≠ key)).take n :=
    List.filter_eq_self.mpr fun k hk => (List.mem_filter.mp (List.mem_of_mem_take hk)).2
  rw [size_eq_length_keys, size_eq_length_keys, keys_erase, keys_insert, if_neg hb,
    List.take_succ_cons, List.filter_cons_of_neg (by simp), hothers, List.length_cons]

theorem size_insert_le (h : r.size ≤ bound) (key : κ) (value : ν) :
    (r.insert bound key value).size ≤ bound := by
  rw [size_eq_length_keys] at h ⊢
  rw [keys_insert]
  split
  · exact h
  · exact List.length_take_le _ _

theorem size_erase_le (r : Recency κ ν) (key : κ) : (r.erase key).size ≤ r.size :=
  List.length_filter_le _ _

end Recency

/-! ### The bounded tier is tidy -/

/-- The bounded tier holds each key once, and no more entries than there is room for. -/
structure LinkageStore.Tidy (s : LinkageStore) : Prop where
  nodup : s.bounded.keys.Nodup
  size_le : s.bounded.size ≤ s.config.capacity

theorem LinkageStore.invariant_tidy : LinkageStore.Invariant LinkageStore.Tidy where
  congr h hc _ hb := ⟨hb ▸ h.nodup, hc ▸ hb ▸ h.size_le⟩
  touch key h :=
    ⟨Recency.nodup_keys_touch h.nodup key, (Recency.size_touch h.nodup key).symm ▸ h.size_le⟩
  insert l _ h :=
    ⟨Recency.nodup_keys_insert h.nodup _ _ l, Recency.size_insert_le h.size_le _ l⟩
  invalidate key h := by
    refine ⟨?_, Nat.le_trans (Recency.size_erase_le _ key) h.size_le⟩
    have hkeys := h.nodup.filter (· ≠ key)
    rwa [← Recency.keys_erase] at hkeys
  pin l _ h := ⟨h.nodup, h.size_le⟩

theorem Reachable.tidy {σ ρ : Type} [PointAccess ρ] {f : Forest} {p : PointSet σ ρ}
    (hp : Reachable f p) : p.store.Tidy :=
  hp.holds LinkageStore.invariant_tidy fun _ => ⟨List.nodup_nil, Nat.zero_le _⟩

/-! ### Counting acts -/

/-- What an act is, whatever its key and its linkage. -/
inductive ActKind where
  | answeredPinned
  | answered
  | asked
  | failed
  | stored
  | dropped
  | pinned
  deriving DecidableEq

/-- The kind of an act. -/
def Act.kind : Act → ActKind
  | answeredPinned _ _ => .answeredPinned
  | answered _ _ => .answered
  | asked _ => .asked
  | failed _ => .failed
  | stored _ _ => .stored
  | dropped _ => .dropped
  | pinned _ _ => .pinned

/-- How many acts are of a kind. -/
def tally (kind : ActKind) (acts : List Act) : Nat := acts.countP (·.kind = kind)

@[simp] theorem tally_nil (kind : ActKind) : tally kind [] = 0 := rfl

@[simp] theorem tally_cons (kind : ActKind) (act : Act) (acts : List Act) :
    tally kind (act :: acts) = tally kind acts + if act.kind = kind then 1 else 0 := by
  simp [tally, List.countP_cons]

@[simp] theorem tally_append (kind : ActKind) (acts more : List Act) :
    tally kind (acts ++ more) = tally kind acts + tally kind more :=
  List.countP_append

/-! ### Balances -/

/-- The counters of store `t` are those of `s` and what the acts in between add to them, where so many
more builds were started than ended. -/
structure Balanced (underWay : Int) (s t : LinkageStore) (acts : List Act) : Prop where
  lookups_eq : (t.lookups : Int) = s.lookups + tally .answeredPinned acts + tally .answered acts +
    tally .failed acts + tally .stored acts + underWay
  pinnedHits_eq : t.pinnedHits = s.pinnedHits + tally .answeredPinned acts
  builds_eq : (t.builds : Int) = s.builds + tally .failed acts + tally .stored acts + underWay
  entries_eq : t.bounded.size + t.evictions + tally .dropped acts =
    s.bounded.size + s.evictions + tally .stored acts

namespace Balanced

variable {m n : Int} {s t u : LinkageStore} {acts more : List Act}

theorem refl (s : LinkageStore) : Balanced 0 s s [] := by
  constructor <;> simp

theorem trans (h : Balanced m s t acts) (h' : Balanced n t u more) :
    Balanced (m + n) s u (acts ++ more) := by
  constructor
  · have := h.lookups_eq
    have := h'.lookups_eq
    simp only [tally_append]
    omega
  · rw [h'.pinnedHits_eq, h.pinnedHits_eq, tally_append, Nat.add_assoc]
  · have := h.builds_eq
    have := h'.builds_eq
    simp only [tally_append]
    omega
  · have := h.entries_eq
    have := h'.entries_eq
    simp only [tally_append]
    omega

/-- Neither the pins nor the order of the bounded tier are in the accounts. -/
theorem congr_right (h : Balanced n s t acts) (hl : u.lookups = t.lookups)
    (hh : u.pinnedHits = t.pinnedHits) (hb : u.builds = t.builds) (he : u.evictions = t.evictions)
    (hs : u.bounded.size = t.bounded.size) : Balanced n s u acts :=
  ⟨hl ▸ h.lookups_eq, hh ▸ h.pinnedHits_eq, hb ▸ h.builds_eq, he ▸ hs ▸ h.entries_eq⟩

end Balanced

section Operations

open Scene

variable {σ : Type} {f : Forest} {L : Linker σ} {owner : PointSetId} {key : LinkageKey}
  {base : Option Linkage} {s s' : Scene σ} {acts : List Act}

/-- A lookup that has to build is counted before anything else is done. -/
theorem balanced_miss (s : Scene σ) (key : LinkageKey) : Balanced 1 s.store (s.miss key).store [] := by
  constructor <;> simp

/-- A build that fails ends. -/
theorem balanced_failed (s : LinkageStore) (key : LinkageKey) : Balanced (-1) s s [.failed key] := by
  constructor <;> simp only [tally_cons, tally_nil, Act.kind, reduceCtorEq, if_false, if_true] <;>
    omega

theorem balanced_asked (s : LinkageStore) (c : LinkCall) : Balanced 0 s s [.asked c] := by
  constructor <;> simp [Act.kind]

/-- A build whose linkage is taken in ends, and entries are evicted for it. -/
theorem balanced_insert {s : LinkageStore} (hcap : s.config.capacity ≠ 0)
    (hnew : s.held? key = none) (l : Linkage) : Balanced (-1) s (s.insert key l) [.stored key l] := by
  have hkey : key ∉ s.bounded.keys :=
    Recency.find?_eq_none_iff.mp (LinkageStore.held?_eq_none_iff.mp hnew).2
  have hinsert := Recency.size_insert_add_dropped hcap hkey l
  constructor <;>
    simp only [LinkageStore.insert, tally_cons, tally_nil, Act.kind, reduceCtorEq, if_false, if_true] <;>
    omega

/-- A linkage that was just taken in is one entry, and dropping it evicts nothing. -/
theorem balanced_invalidate {s : LinkageStore} (hcap : s.config.capacity ≠ 0) (key : LinkageKey)
    (l : Linkage) :
    Balanced 0 (s.insert key l) ((s.insert key l).invalidate key) [.dropped key] := by
  have herase := Recency.size_erase_insert hcap s.bounded key l
  constructor
  case entries_eq =>
    simp [LinkageStore.insert, LinkageStore.invalidate, Act.kind]
    omega
  all_goals simp [LinkageStore.invalidate, Act.kind]

/-- What a level makes ends its build. -/
theorem Made.balanced {r : Except LinkageError Linkage} (h : Made L owner key base s acts r s')
    (hcap : s.store.config.capacity ≠ 0) (hheld : s.store.held? key = none) :
    Balanced (-1) s.store s'.store acts := by
  cases h with
  | failed hlink => exact (balanced_asked _ _).trans (balanced_failed _ key)
  | stored hlink hl => exact (balanced_asked _ _).trans (balanced_insert hcap hheld _)
  | @foreign l memory hlink hl =>
      have hstored := (balanced_asked s.store ⟨s.request owner key base, .ok l⟩).trans
        (balanced_insert hcap hheld l)
      exact hstored.trans (balanced_invalidate hcap key l)

/-- **A lookup is balanced**, however many levels it builds and wherever it fails. -/
theorem Lookup.balanced {r : Except LinkageError Linkage} (h : Lookup f L owner key s acts r s')
    (hcap : s.store.config.capacity ≠ 0) (hs : s.store.Tidy) :
    Balanced 0 s.store s'.store acts := by
  induction h with
  | pinned hp =>
      constructor <;> simp [Act.kind]
  | bounded hp hb =>
      constructor <;> simp [Act.kind, LinkageStore.touch, Recency.size_touch hs.nodup]
  | root hheld hbase hmade =>
      exact (balanced_miss _ _).trans (hmade.balanced hcap hheld)
  | @baseFailed key b s acts e s' hheld hbase hlookup ih =>
      have hbelow := (balanced_miss s key).trans (ih hcap ⟨hs.nodup, hs.size_le⟩)
      exact hbelow.trans (balanced_failed s'.store key)
  | @derived key b s acts l s₁ more r s' hheld hbase hlookup hmade ih =>
      have hbelow := (balanced_miss s key).trans (ih hcap ⟨hs.nodup, hs.size_le⟩)
      have habsent := hlookup.held?_eq_none (LinkageKey.not_mem_lineage_base hbase) hheld
      exact hbelow.trans (hmade.balanced (hlookup.frame.2 ▸ hcap) habsent)

end Operations

/-! ### Along a run -/

namespace PointSet

variable {σ ρ : Type} [PointAccess ρ] {f : Forest} {p : PointSet σ ρ}

/-- The acts of an operation if it is a lookup. Looking without a build is none, and neither is a pin. -/
def actsOfLookup (f : Forest) (op : Operation) (p : PointSet σ ρ) (w : World σ) : List Act :=
  match op with
  | .get key => p.acts f (.get key) w
  | _ => []

/-- The acts of the lookups of a run, the oldest first. -/
def lookupHistory (f : Forest) : List Operation → PointSet σ ρ → World σ → List Act
  | [], _, _ => []
  | op :: ops, p, w =>
      p.actsOfLookup f op w ++ lookupHistory f ops (p.perform f op w).1 (p.perform f op w).2

theorem balanced_perform (hp : Reachable f p) (hcap : p.store.config.capacity ≠ 0) (op : Operation)
    (w : World σ) : Balanced 0 p.store (p.perform f op w).1.store (p.actsOfLookup f op w) := by
  cases op with
  | get key =>
      obtain ⟨s', hlookup, hstate⟩ := lookup_derivation f key hp.ownedBy w
      rw [perform, hstate]
      exact hlookup.balanced hcap hp.tidy
  | pin key =>
      obtain ⟨s', hpin, hstate⟩ := pin_derivation f key p w
      rw [perform, hstate]
      obtain ⟨pins, hpins⟩ := hpin.frame
      show Balanced 0 p.store s'.store []
      rw [hpins]
      exact .congr_right (.refl p.store) rfl rfl rfl rfl rfl
  | peek key =>
      rcases store_perform_peek f key p w with hsame | htouch
      · rw [hsame]
        exact .refl p.store
      · rw [htouch]
        exact .congr_right (.refl p.store) rfl rfl rfl rfl (Recency.size_touch hp.tidy.nodup key)
  | index => exact store_perform_index f p w ▸ .refl p.store
  | query a b => exact store_perform_query f a b p w ▸ .refl p.store

theorem balanced_play (hp : Reachable f p) (hcap : p.store.config.capacity ≠ 0)
    (ops : List Operation) (w : World σ) :
    Balanced 0 p.store (p.play f ops w).1.store (p.lookupHistory f ops w) := by
  induction ops generalizing p w with
  | nil => exact .refl p.store
  | cons op ops ih =>
      have hnext : (p.perform f op w).1.store.config.capacity ≠ 0 := config_perform hp op w ▸ hcap
      exact (balanced_perform hp hcap op w).trans (ih (hp.perform op w) hnext _)

end PointSet

/-- **The books balance.** After any run of a new point set with room for one linkage or more, whatever
the linker does: the bounded tier holds each key once and no more entries than there is room for; every
build is still there, was evicted, failed, or gave a foreign linkage that was dropped; and every lookup
was answered by the pinned tier, by the bounded tier, or by a build. The bound on the bounded tier also
holds whenever the linker is called by the next operation, however deep in the resolution of a base. -/
theorem stats_balanced {σ ρ : Type} [PointAccess ρ] (f : Forest) (id : PointSetId) (source : ρ)
    (linker : Linker σ) (config : CacheConfig) (hcap : 1 ≤ config.capacity) (ops : List Operation)
    (w : World σ) :
    let p := PointSet.new id source linker config
    let q := (p.play f ops w).1
    let acts := p.lookupHistory f ops w
    q.store.bounded.keys.Nodup ∧ q.store.bounded.size ≤ config.capacity ∧
      q.cacheStats.builds = q.cacheStats.boundedEntries + q.cacheStats.evictions +
        tally .failed acts + tally .dropped acts ∧
      q.cacheStats.lookups = q.cacheStats.pinnedHits + tally .answered acts + q.cacheStats.builds ∧
      ∀ op w', ∀ c ∈ q.calls f op w', c.request.store.bounded.size ≤ config.capacity := by
  intro p q acts
  have hnew : Reachable f p := .new id source linker config
  have hq : Reachable f q := hnew.play ops w
  have hconfig : q.store.config = config := PointSet.config_play hnew ops w
  have hbalance : Balanced 0 p.store q.store acts :=
    PointSet.balanced_play hnew (Nat.ne_of_gt hcap) ops w
  refine ⟨hq.tidy.nodup, hconfig ▸ hq.tidy.size_le, ?_, ?_, ?_⟩
  · have hbuilds := hbalance.builds_eq
    have hentries := hbalance.entries_eq
    simp only [p, PointSet.new, Recency.size, List.length_nil] at hbuilds hentries
    simp only [PointSet.cacheStats, LinkageStore.stats, Recency.size]
    omega
  · have hlookups := hbalance.lookups_eq
    have hhits := hbalance.pinnedHits_eq
    have hbuilds := hbalance.builds_eq
    simp only [p, PointSet.new] at hlookups hhits hbuilds
    simp only [PointSet.cacheStats, LinkageStore.stats]
    omega
  · intro op w' c hc
    have hbound := PointSet.holds_at_calls LinkageStore.invariant_tidy hq hq.tidy op w' c hc
    have hcalls :=
      PointSet.holds_at_calls (LinkageStore.invariant_config config) hq hconfig op w' c hc
    exact hcalls ▸ hbound.size_le

/-- With room for one linkage: the tram fails once and displaces the city when it is linked at last, and
the linkage of the suburb turns out foreign after it has displaced the tram. -/
theorem stats_balanced_after_displacement :
    let f := Forest.ofList [("city", none), ("tram", some 0), ("suburb", none)]
    let p := PointSet.new 7 (PointSource.freeForm []) Linker.scripted { capacity := 1 }
    let ops := [.get ⟨1, .walk⟩, .get ⟨1, .walk⟩, .get ⟨2, .walk⟩, .pin ⟨2, .walk⟩, .get ⟨2, .walk⟩]
    let w := World.withTurns [.own, .fail, .own, .foreign]
    let q := (p.play f ops w).1
    let acts := p.lookupHistory f ops w
    q.cacheStats = ⟨6, 1, 4, 2, 1, 0⟩ ∧ tally .failed acts = 1 ∧ tally .dropped acts = 1 ∧
      q.cacheStats.builds = q.cacheStats.boundedEntries + q.cacheStats.evictions +
        tally .failed acts + tally .dropped acts := by
  intro f p ops w q acts
  have hbalance := stats_balanced f 7 (PointSource.freeForm []) Linker.scripted { capacity := 1 }
    (by decide) ops w
  exact ⟨by decide, by decide, by decide, hbalance.2.2.1⟩

end StreetLinkage
