import Mathlib.Data.Finset.Card
import StreetLinkage.Proofs.Ancestry
import StreetLinkage.Proofs.Capacity
import StreetLinkage.Proofs.ClosedForm

/-!
# Requests in any order

A key is built because it is requested, or because it is the base of another one that has to be built.
Which of the two it is depends on the order of the requests, and so does the number of calls that a single
request makes. What all requests come to does not, if there is room for everything they need.

* `needed` are the requested keys with all their base keys.
* `Gathered` is the state after some requests: the bounded tier holds what they need, each key was built
  once, and the counters are read off the tier. A request adds the missing levels of its lineage
  (`Lookup.gathered`); the tier is closed under bases, so these are all that it lacks
  (`LinkageStore.Closed.mem_missing`).
* `requests_build_once_in_any_order` is about a whole run. Nothing in it depends on the order.
-/

namespace StreetLinkage

/-! ### What requests need -/

namespace LinkageKey

variable {f : Forest} {key k : LinkageKey}

/-- The lineage of a base key is part of the lineage. -/
theorem lineage_subset (h : k ∈ key.lineage f) : k.lineage f ⊆ key.lineage f := by
  induction key using lineage_induction f with
  | root key hbase =>
      rw [lineage_of_root hbase, List.mem_singleton] at h
      exact h ▸ List.Subset.refl _
  | derived key b hbase ih =>
      rw [lineage_of_base hbase] at h ⊢
      rcases List.mem_cons.mp h with rfl | h
      · rw [lineage_of_base hbase]
        exact List.Subset.refl _
      · exact List.subset_cons_of_subset _ (ih h)

end LinkageKey

/-- The requested keys with all their base keys. -/
def needed (f : Forest) (requested : List LinkageKey) : Finset LinkageKey :=
  (requested.flatMap (·.lineage f)).toFinset

section Needed

variable {f : Forest} {requested more : List LinkageKey} {key k : LinkageKey}

theorem mem_needed_iff : k ∈ needed f requested ↔ ∃ key ∈ requested, k ∈ key.lineage f := by
  simp [needed]

theorem mem_needed_append_iff :
    k ∈ needed f (requested ++ [key]) ↔ k ∈ needed f requested ∨ k ∈ key.lineage f := by
  simp [needed]

theorem needed_subset_append (f : Forest) (requested more : List LinkageKey) :
    needed f requested ⊆ needed f (requested ++ more) := by
  intro k hk
  obtain ⟨key, hkey, hmem⟩ := mem_needed_iff.mp hk
  exact mem_needed_iff.mpr ⟨key, List.mem_append_left _ hkey, hmem⟩

theorem needed_perm (h : requested.Perm more) : needed f requested = needed f more := by
  ext k
  simp only [mem_needed_iff, h.mem_iff]

end Needed

/-! ### What a store lacks of a lineage -/

namespace LinkageStore

variable {f : Forest} {s : LinkageStore} {key k : LinkageKey} {keys : List LinkageKey}

theorem mem_keys_of_mem_missing (h : k ∈ s.missing keys) : k ∈ keys ∧ s.contains k = false :=
  ⟨(List.takeWhile_sublist _).subset h, by simpa using List.all_eq_true.mp List.all_takeWhile k h⟩

/-- With a key a tier holds the whole lineage. -/
def Closed (f : Forest) (s : LinkageStore) : Prop :=
  ∀ key, s.contains key = true → ∀ k ∈ key.lineage f, s.contains k = true

/-- What is missing up to the level that answers is all that the tiers lack of a lineage. -/
theorem Closed.mem_missing (h : s.Closed f) (hk : k ∈ key.lineage f) (hnot : s.contains k = false) :
    k ∈ s.missing (key.lineage f) := by
  induction key using LinkageKey.lineage_induction f with
  | root key hbase =>
      rw [LinkageKey.lineage_of_root hbase, List.mem_singleton] at hk
      rw [LinkageKey.lineage_of_root hbase, ← hk,
        missing_cons_of_not_held (contains_eq_false_iff.mp hnot)]
      exact List.mem_cons_self
  | derived key b hbase ih =>
      have hkey : s.contains key = false := by
        cases hheld : s.contains key with
        | false => rfl
        | true => exact absurd (h key hheld k hk) (by simp [hnot])
      rw [LinkageKey.lineage_of_base hbase] at hk
      rw [LinkageKey.lineage_of_base hbase, missing_cons_of_not_held (contains_eq_false_iff.mp hkey)]
      rcases List.mem_cons.mp hk with rfl | hk
      · exact List.mem_cons_self
      · exact List.mem_cons_of_mem _ (ih hk)

/-- All missing levels have a base, except for the last one if no level answers: so a lookup makes one
lookup for itself and one for each missing level with a base. -/
theorem lookups_of_missing (f : Forest) (s : LinkageStore) (key : LinkageKey) :
    (s.missing (key.lineage f)).length + (if (s.nearestKey? (key.lineage f)).isSome then 1 else 0) =
      1 + (s.missing (key.lineage f)).countP fun k => (k.base? f).isSome := by
  induction key using LinkageKey.lineage_induction f with
  | root key hbase =>
      rw [LinkageKey.lineage_of_root hbase]
      cases hkey : s.contains key <;> simp [missing, nearestKey?, hkey, hbase]
  | derived key b hbase ih =>
      rw [LinkageKey.lineage_of_base hbase]
      cases hkey : s.contains key with
      | true => simp [missing, nearestKey?, hkey]
      | false =>
          have hnot := contains_eq_false_iff.mp hkey
          have hcount : (key.base? f).isSome = true := by rw [hbase]; rfl
          rw [missing_cons_of_not_held hnot, nearestKey?_cons_of_not_held hnot, List.length_cons,
            List.countP_cons, if_pos hcount]
          omega

theorem contains_iff_of_pins_nil (h : s.pins = []) : s.contains k = true ↔ k ∈ s.bounded.keys := by
  simp [contains, pinned?, h, Recency.contains_iff_mem_keys]

end LinkageStore

/-! ### Linkers that never let one down -/

/-- The linker gives a linkage of the right point set whenever it is asked. -/
def Linker.Reliable {σ : Type} (L : Linker σ) : Prop :=
  ∀ request memory, ∃ l, (L.link request memory).1 = .ok l ∧ l.belongsTo request.owner = true

theorem Linker.reliable_keyed : (Linker.keyed fun _ => .own).Reliable := by
  intro request memory
  exact ⟨_, rfl, by simp [Linkage.belongsTo, Linkage.owner]⟩

section Operations

variable {σ : Type} {f : Forest} {L : Linker σ} {owner : PointSetId} {key : LinkageKey}
  {base : Option Linkage} {s s' : Scene σ} {acts : List Act} {r : Except LinkageError Linkage}

theorem Made.ok_of_reliable (hL : L.Reliable) (h : Made L owner key base s acts r s') :
    ∃ l, r = .ok l := by
  obtain ⟨m, hm, hown⟩ := hL (s.request owner key base) s.world.memory
  cases h with
  | failed hlink => rw [hlink] at hm; cases hm
  | stored hlink hl => exact ⟨_, rfl⟩
  | foreign hlink hl =>
      rw [hlink] at hm
      cases hm
      exact absurd (hl.symm.trans hown) nofun

theorem Lookup.ok_of_reliable (hL : L.Reliable) (h : Lookup f L owner key s acts r s') :
    ∃ l, r = .ok l := by
  induction h with
  | pinned hp => exact ⟨_, rfl⟩
  | bounded hp hb => exact ⟨_, rfl⟩
  | root hheld hbase hmade => exact hmade.ok_of_reliable hL
  | baseFailed hheld hbase hlookup ih => exact ih
  | derived hheld hbase hlookup hmade ih => exact hmade.ok_of_reliable hL

/-! ### Everything that was needed, once -/

/-- After these requests the bounded tier holds what they need; `made` are the calls so far. -/
structure Gathered (f : Forest) (requested : List LinkageKey) (s : LinkageStore)
    (made : List LinkCall) : Prop where
  mem_keys_iff : ∀ k, k ∈ s.bounded.keys ↔ k ∈ needed f requested
  made_perm : (made.map LinkCall.key).Perm s.bounded.keys
  fresh : ∀ k, s.Fresh k made
  pins_eq : s.pins = []
  lookups_eq : s.lookups =
    requested.length + s.bounded.keys.countP fun k => (k.base? f).isSome
  pinnedHits_eq : s.pinnedHits = 0
  builds_eq : s.builds = s.bounded.size
  evictions_eq : s.evictions = 0

theorem Gathered.nil (f : Forest) (config : CacheConfig) : Gathered f [] { config } [] where
  mem_keys_iff k := by simp [needed, Recency.keys]
  made_perm := .refl _
  fresh k := nofun
  pins_eq := rfl
  lookups_eq := rfl
  pinnedHits_eq := rfl
  builds_eq := rfl
  evictions_eq := rfl

variable {requested : List LinkageKey} {made : List LinkCall}

theorem Gathered.closed {s : LinkageStore} (h : Gathered f requested s made) : s.Closed f := by
  intro key hkey k hk
  rw [LinkageStore.contains_iff_of_pins_nil h.pins_eq, h.mem_keys_iff, mem_needed_iff] at hkey ⊢
  obtain ⟨first, hfirst, hmem⟩ := hkey
  exact ⟨first, hfirst, LinkageKey.lineage_subset hmem hk⟩

/-- The missing levels of a lineage and the keys of the tier are what is needed with that lineage, each
key once. -/
theorem Gathered.levels {s : LinkageStore} (h : Gathered f requested s made) (hs : s.Tidy)
    (key : LinkageKey) :
    (s.missing (key.lineage f) ++ s.bounded.keys).Nodup ∧
      ∀ k, k ∈ s.missing (key.lineage f) ++ s.bounded.keys ↔ k ∈ needed f (requested ++ [key]) := by
  have hheld : ∀ k, s.contains k = true ↔ k ∈ s.bounded.keys := fun _ =>
    LinkageStore.contains_iff_of_pins_nil h.pins_eq
  constructor
  · have hmissing : (s.missing (key.lineage f)).Nodup :=
      (LinkageKey.nodup_lineage f key).sublist (List.takeWhile_sublist _)
    refine hmissing.append hs.nodup fun k hk hmem => ?_
    have hnot := (LinkageStore.mem_keys_of_mem_missing hk).2
    rw [(hheld k).mpr hmem] at hnot
    cases hnot
  · intro k
    rw [List.mem_append, mem_needed_append_iff, ← h.mem_keys_iff]
    constructor
    · rintro (hk | hk)
      · exact Or.inr (LinkageStore.mem_keys_of_mem_missing hk).1
      · exact Or.inl hk
    · rintro (hk | hk)
      · exact Or.inr hk
      · cases hcached : s.contains k with
        | true => exact Or.inr ((hheld k).mp hcached)
        | false => exact Or.inl (h.closed.mem_missing hk hcached)

/-- With room for what is missing, a lookup adds just that, and nothing has to go. -/
theorem Climbed.of_room {s t : LinkageStore} {keys : List LinkageKey} {calls : List LinkCall}
    (h : Climbed s t keys calls)
    (hroom : (s.missing keys ++ s.bounded.keys).length ≤ s.config.capacity) :
    t.bounded.keys.Perm (s.missing keys ++ s.bounded.keys) ∧ t.evictions = s.evictions := by
  have hrest := (s.afterAnswer_perm (s.nearestKey? keys)).map Prod.fst
  have hkeys : ((madeBy calls ++ s.afterAnswer (s.nearestKey? keys)).map Prod.fst).Perm
      (s.missing keys ++ s.bounded.keys) := by
    rw [List.map_append, h.made_eq]
    exact hrest.append_left _
  have hlength := hkeys.length_eq
  rw [List.length_map] at hlength
  constructor
  · rw [Recency.keys, h.entries_eq, List.take_of_length_le (hlength ▸ hroom)]
    exact hkeys
  · rw [h.evictions_eq, cutOff_of_length_le (hlength ▸ hroom), Nat.add_zero]

/-- A request with room for what it needs adds the missing levels of its lineage and evicts nothing. -/
theorem Lookup.gathered {l : Linkage} (h : Lookup f L owner key s acts (.ok l) s')
    (hs : s.store.Tidy) (hgathered : Gathered f requested s.store made)
    (hroom : (needed f (requested ++ [key])).card ≤ s.store.config.capacity) :
    Gathered f (requested ++ [key]) s'.store (made ++ callsOf acts) := by
  have hclimbed := h.climbed hs
  obtain ⟨hnodup, hmem⟩ := hgathered.levels hs key
  have hset : (s.store.missing (key.lineage f) ++ s.store.bounded.keys).toFinset =
      needed f (requested ++ [key]) := by
    ext k
    rw [List.mem_toFinset, hmem]
  rw [← hset, List.toFinset_card_of_nodup hnodup] at hroom
  obtain ⟨hkeys, hevictions⟩ := hclimbed.of_room hroom
  have hsize := hkeys.length_eq
  rw [List.length_append, ← Recency.size_eq_length_keys, ← Recency.size_eq_length_keys] at hsize
  constructor
  case mem_keys_iff => exact fun k => hkeys.mem_iff.trans (hmem k)
  case made_perm =>
    rw [List.map_append, h.buildChain.keys_eq]
    refine List.Perm.trans ?_ hkeys.symm
    exact List.perm_append_comm.trans ((List.reverse_perm _).append hgathered.made_perm)
  case fresh => exact fun k => h.fresh (hgathered.fresh k)
  case pins_eq => exact h.frame.1.trans hgathered.pins_eq
  case lookups_eq =>
    have hlevels := LinkageStore.lookups_of_missing f s.store key
    rw [hclimbed.lookups_eq, hgathered.lookups_eq, hkeys.countP_eq, List.countP_append,
      List.length_append, List.length_singleton]
    omega
  case pinnedHits_eq =>
    have hnone : (s.store.nearestKey? (key.lineage f)).bind s.store.pinned? = none := by
      simp [LinkageStore.pinned?, hgathered.pins_eq]
    rw [hclimbed.pinnedHits_eq, hgathered.pinnedHits_eq, hnone]
    rfl
  case builds_eq => rw [hclimbed.builds_eq, hgathered.builds_eq, hsize, Nat.add_comm]
  case evictions_eq => exact hevictions.trans hgathered.evictions_eq

end Operations

/-! ### Along a run -/

namespace PointSet

variable {σ ρ : Type} [PointAccess ρ] {f : Forest} {p : PointSet σ ρ} {requested : List LinkageKey}
  {made : List LinkCall}

/-- A request is answered with what a call for its key gave, this request's own calls counted in. -/
theorem gathered_get (hp : Reachable f p) (hL : p.linker.Reliable)
    (h : Gathered f requested p.store made) {key : LinkageKey}
    (hroom : (needed f (requested ++ [key])).card ≤ p.store.config.capacity) (w : World σ) :
    Gathered f (requested ++ [key]) (p.perform f (.get key) w).1.store
        (made ++ p.calls f (.get key) w) ∧
      ∃ l, p.answer? f (.get key) w = some (key, l) ∧
        ∃ c ∈ made ++ p.calls f (.get key) w, c.key = key ∧ c.linkage? = some l := by
  obtain ⟨s', hlookup, hstate⟩ := lookup_derivation f key hp.ownedBy w
  obtain ⟨l, hl⟩ := hlookup.ok_of_reliable hL
  rw [hl] at hlookup
  have hlatest := hlookup.ok_latest (h.fresh key)
  have hnone : (p.scene w).store.pinned? key = none := by
    show p.store.pinned? key = none
    simp [LinkageStore.pinned?, h.pins_eq]
  rw [hnone, Option.none_or] at hlatest
  rw [perform, hstate, calls_eq hp.ownedBy]
  refine ⟨hlookup.gathered hp.tidy h hroom, l, ?_, exists_call_of_latestBuilt? hlatest⟩
  rw [answer?, hl]
  rfl

theorem gathered_play (hp : Reachable f p) (hL : p.linker.Reliable)
    (h : Gathered f requested p.store made) {keys : List LinkageKey}
    (hroom : (needed f (requested ++ keys)).card ≤ p.store.config.capacity) (w : World σ) :
    let calls := made ++ p.runCalls f (keys.map .get) w
    let answers := p.answers f (keys.map .get) w
    Gathered f (requested ++ keys) (p.play f (keys.map .get) w).1.store calls ∧
      answers.map Prod.fst = keys ∧
      ∀ answer ∈ answers, ∃ c ∈ calls, c.key = answer.1 ∧ c.linkage? = some answer.2 := by
  induction keys generalizing p requested made w with
  | nil => exact ⟨by simpa [play, runCalls] using h, rfl, nofun⟩
  | cons key keys ih =>
      rw [← List.singleton_append, ← List.append_assoc] at hroom
      have hsub := Finset.card_le_card (needed_subset_append f (requested ++ [key]) keys)
      obtain ⟨hnow, l, hanswer, hcall⟩ := gathered_get hp hL h (hsub.trans hroom) w
      have hroom' : (needed f (requested ++ [key] ++ keys)).card ≤
          (p.perform f (.get key) w).1.store.config.capacity := by
        rw [config_perform hp]
        exact hroom
      have hL' : (p.perform f (.get key) w).1.linker.Reliable := (linker_perform f _ p w).symm ▸ hL
      obtain ⟨hlater, hkeys, hanswers⟩ :=
        ih (hp.perform (.get key) w) hL' hnow hroom' (p.perform f (.get key) w).2
      rw [List.append_assoc, List.append_assoc] at hlater
      rw [List.append_assoc] at hanswers
      refine ⟨hlater, ?_, fun answer hmem => ?_⟩
      · rw [List.map_cons, answers, hanswer]
        exact congrArg (key :: ·) hkeys
      · rw [List.map_cons, answers, hanswer] at hmem
        rcases List.mem_cons.mp hmem with rfl | hmem
        · obtain ⟨c, hc, hfor⟩ := hcall
          refine ⟨c, ?_, hfor⟩
          rw [List.map_cons, runCalls, ← List.append_assoc]
          exact List.mem_append_left _ hc
        · exact hanswers answer hmem

end PointSet

/-! ### What it comes to -/

/-- The statistics after so many requests that need these keys, if they all have room. -/
def CacheStats.gathered (f : Forest) (requests : Nat) (keys : Finset LinkageKey) : CacheStats where
  lookups := requests + (keys.filter fun k => (k.base? f).isSome).card
  pinnedHits := 0
  builds := keys.card
  evictions := 0
  pinnedEntries := 0
  boundedEntries := keys.card

namespace Gathered

variable {f : Forest} {requested : List LinkageKey} {s : LinkageStore} {made : List LinkCall}

theorem toFinset_keys (h : Gathered f requested s made) :
    s.bounded.keys.toFinset = needed f requested := by
  ext k
  rw [List.mem_toFinset, h.mem_keys_iff]

theorem stats_eq (h : Gathered f requested s made) (hs : s.Tidy) :
    s.stats = .gathered f requested.length (needed f requested) := by
  have hcard : s.bounded.size = (needed f requested).card := by
    rw [← h.toFinset_keys, List.toFinset_card_of_nodup hs.nodup, Recency.size_eq_length_keys]
  have hbases : s.bounded.keys.countP (fun k => (k.base? f).isSome) =
      ((needed f requested).filter fun k => (k.base? f).isSome).card := by
    rw [← h.toFinset_keys, ← List.toFinset_filter, List.countP_eq_length_filter]
    exact (List.toFinset_card_of_nodup (hs.nodup.filter _)).symm
  simp only [LinkageStore.stats, CacheStats.gathered, h.lookups_eq, h.pinnedHits_eq, h.builds_eq,
    h.evictions_eq, h.pins_eq, hcard, hbases, List.length_nil]

theorem nodup_made (h : Gathered f requested s made) (hs : s.Tidy) :
    (made.map LinkCall.key).Nodup :=
  h.made_perm.nodup_iff.mpr hs.nodup

/-- Each key that is needed was asked for once, and no other key. -/
theorem count_made (h : Gathered f requested s made) (hs : s.Tidy) (k : LinkageKey) :
    (made.map LinkCall.key).count k = if k ∈ needed f requested then 1 else 0 := by
  rw [(h.nodup_made hs).count]
  simp only [h.made_perm.mem_iff, h.mem_keys_iff]

end Gathered

/-- **Every key is built once, whatever the order.** Let the linker give a linkage of the right point set
whenever it is asked, and let a new point set be asked for any keys in any order, with repetitions, where
the requested keys and all their base keys have room. Then over the whole run

* the linker is called once for each of these keys and for no other key;
* every request is answered, with what that one call for its key gave, so that all requests for a key get
  the same linkage;
* the bounded tier holds these keys at the end, each once, nothing was evicted, there was a build for each
  of them and a lookup for each request and for each of them that has a base;
* the same requests in another order, in whatever world, end with the same keys and the same statistics. -/
theorem requests_build_once_in_any_order {σ ρ : Type} [PointAccess ρ] (f : Forest) (id : PointSetId)
    (source : ρ) (linker : Linker σ) (hlinker : linker.Reliable) (config : CacheConfig)
    (keys : List LinkageKey) (hroom : (needed f keys).card ≤ config.capacity) (w : World σ) :
    let p := PointSet.new id source linker config
    let q := (p.play f (keys.map .get) w).1
    let calls := p.runCalls f (keys.map .get) w
    let answers := p.answers f (keys.map .get) w
    (∀ k, (calls.map LinkCall.key).count k = if k ∈ needed f keys then 1 else 0) ∧
      answers.map Prod.fst = keys ∧
      (∀ answer ∈ answers, ∃ c ∈ calls, c.key = answer.1 ∧ c.linkage? = some answer.2) ∧
      (∀ answer ∈ answers, ∀ other ∈ answers, answer.1 = other.1 → answer.2 = other.2) ∧
      q.store.bounded.keys.Nodup ∧ q.store.bounded.keys.toFinset = needed f keys ∧
      q.cacheStats = .gathered f keys.length (needed f keys) ∧
      ∀ reordered : List LinkageKey, reordered.Perm keys → ∀ w',
        let q' := (p.play f (reordered.map .get) w').1
        q'.store.bounded.keys.toFinset = q.store.bounded.keys.toFinset ∧
          q'.cacheStats = q.cacheStats := by
  intro p q calls answers
  have hp : Reachable f p := .new id source linker config
  have hq : Reachable f q := hp.play _ w
  have hplay := fun (requested : List LinkageKey)
      (hfits : (needed f ([] ++ requested)).card ≤ config.capacity) =>
    PointSet.gathered_play hp hlinker (.nil f config) hfits
  obtain ⟨hgathered, hkeys, hanswers⟩ := hplay keys hroom w
  have hstats : q.cacheStats = .gathered f keys.length (needed f keys) :=
    hgathered.stats_eq hq.tidy
  refine ⟨hgathered.count_made hq.tidy, hkeys, hanswers, ?_, hq.tidy.nodup, hgathered.toFinset_keys,
    hstats, ?_⟩
  · intro answer hanswer other hother hsame
    obtain ⟨c, hc, hckey, hl⟩ := hanswers answer hanswer
    obtain ⟨d, hd, hdkey, hm⟩ := hanswers other hother
    -- Both answers come from calls for one key, and there was one such call.
    have hcd : c = d := List.inj_on_of_nodup_map (hgathered.nodup_made hq.tidy) hc hd
      (hckey.trans (hsame.trans hdkey.symm))
    exact Option.some.inj (hl.symm.trans ((congrArg LinkCall.linkage? hcd).trans hm))
  · intro reordered hperm w' q'
    have hq' : Reachable f q' := hp.play _ w'
    have hneeded : needed f reordered = needed f keys := needed_perm hperm
    obtain ⟨hgathered', -, -⟩ := hplay reordered (hneeded ▸ hroom) w'
    constructor
    · exact hgathered'.toFinset_keys.trans (hneeded.trans hgathered.toFinset_keys.symm)
    · rw [hstats, ← hneeded, ← hperm.length_eq]
      exact hgathered'.stats_eq hq'.tidy

/-- The city with two ways down from it, six requests and room for the four keys that they need. The bus
lane first builds the city and the tram on its way; the other way round the tram is built by its own
request. The tier ends in different orders with the same keys. -/
theorem requests_build_once_bus_lane_first :
    let f := Forest.ofList [("city", none), ("tram", some 0), ("bus lane", some 1), ("suburb", some 0)]
    let p := PointSet.new 7 (PointSource.freeForm []) (Linker.keyed fun _ => .own) { capacity := 4 }
    let keys : List LinkageKey :=
      [⟨2, .walk⟩, ⟨0, .walk⟩, ⟨3, .walk⟩, ⟨1, .walk⟩, ⟨3, .walk⟩, ⟨0, .walk⟩]
    let w : World Nat := { memory := 0 }
    let q := (p.play f (keys.map .get) w).1
    let q' := (p.play f (keys.reverse.map .get) w).1
    (needed f keys).card ≤ 4 ∧
      (p.answers f (keys.map .get) w).map (fun answer => answer.2.id) = [2, 0, 3, 1, 3, 0] ∧
      q.store.bounded.keys = [⟨0, .walk⟩, ⟨3, .walk⟩, ⟨1, .walk⟩, ⟨2, .walk⟩] ∧
      q'.store.bounded.keys = [⟨2, .walk⟩, ⟨1, .walk⟩, ⟨0, .walk⟩, ⟨3, .walk⟩] ∧
      q.cacheStats = ⟨9, 0, 4, 0, 0, 4⟩ ∧ q'.cacheStats = ⟨9, 0, 4, 0, 0, 4⟩ := by
  intro f p keys w q q'
  have hroom : (needed f keys).card ≤ 4 := by decide
  have hstats : q.cacheStats = ⟨9, 0, 4, 0, 0, 4⟩ := by decide
  obtain ⟨-, -, -, -, -, -, -, hany⟩ := requests_build_once_in_any_order f 7 (PointSource.freeForm [])
    (Linker.keyed fun _ => .own) Linker.reliable_keyed { capacity := 4 } keys hroom w
  obtain ⟨-, hsame⟩ := hany keys.reverse (List.reverse_perm keys) w
  refine ⟨hroom, by decide, by decide, by decide, hstats, ?_⟩
  rw [← hstats]
  exact hsame

end StreetLinkage
