import StreetLinkage.Proofs.Accounting

/-!
# More room costs no builds

Two point sets that differ in capacity only do the same: they look up networks without a base, with and
without building, and their linker succeeds, fails or gives a foreign linkage by the key alone
(`Linker.DecidedBy`). Then the smaller bounded tier lies inside the larger one at every moment, and the
larger one never builds what the smaller one has.

`Recency.Inside` is the relation of the two tiers. The order alone is not enough for it: a foreign linkage
displaces the last entry of a full tier and then goes itself, so it must not happen that the larger tier
is full and the smaller one is not. `Recency.Inside.room_le` says that it does not.
-/

namespace StreetLinkage

/-! ### Recency lists of different bounds -/

namespace Recency

variable {κ ν : Type} {r t r' t' : Recency κ ν} {bound roomy n : Nat} {key k : κ}

theorem keys_eq_nil_of_size_le (h : r.size ≤ 0) : r.keys = [] := by
  rw [size_eq_length_keys] at h
  exact List.eq_nil_of_length_eq_zero (Nat.le_zero.mp h)

/-- A list held to the bound `bound` lies inside one that is held to `roomy`: it has the same keys in the
same order, or fewer, and not more room left. -/
structure Inside (bound roomy : Nat) (r t : Recency κ ν) : Prop where
  keys : r.keys.Sublist t.keys
  room_le : bound - r.size ≤ roomy - t.size

/-- Nothing at all lies inside everything, if there is no room for more. -/
theorem Inside.of_nil (h : r.keys = []) : Inside 0 roomy r t where
  keys := h ▸ List.nil_sublist _
  room_le := by
    rw [Nat.zero_sub]
    exact Nat.zero_le _

/-- Both lists make room for one more: the larger one gives up an entry only if the smaller one does. -/
theorem Inside.take_sublist (h : Inside (bound + 1) (roomy + 1) r t) (hr : r.size ≤ bound + 1)
    (ht : t.size ≤ roomy + 1) : (r.keys.take bound).Sublist (t.keys.take roomy) := by
  have hroom := h.room_le
  rw [size_eq_length_keys] at hr ht
  rw [size_eq_length_keys, size_eq_length_keys] at hroom
  rcases Nat.lt_or_ge t.keys.length (roomy + 1) with hspare | hfull
  · rw [List.take_of_length_le (Nat.le_of_lt_succ hspare)]
    exact (List.take_sublist _ _).trans h.keys
  · -- Then both are full, and both give up their last entry.
    have hbound : bound = r.keys.length - 1 := by omega
    have hroomy : roomy = t.keys.length - 1 := by omega
    rw [hbound, hroomy, ← List.dropLast_eq_take, ← List.dropLast_eq_take, ← List.reverse_sublist,
      ← List.tail_reverse, ← List.tail_reverse]
    exact h.keys.reverse.tail

section Operations

variable [DecidableEq κ]

theorem mem_keys_touch : k ∈ (r.touch key).keys ↔ k ∈ r.keys := by
  rw [← contains_iff_mem_keys, ← contains_iff_mem_keys, contains, contains, find?_touch]

theorem mem_keys_insert {value : ν} (h : k ∈ (r.insert bound key value).keys) :
    k ∈ r.keys ∨ k = key := by
  obtain ⟨entry, hentry, rfl⟩ := List.mem_map.mp h
  rcases mem_insert hentry with rfl | hentry
  · exact Or.inr rfl
  · exact Or.inl (List.mem_map_of_mem hentry)

/-- A new key goes in front, and the last one goes if there is no room. -/
theorem keys_insert_succ (h : key ∉ r.keys) (value : ν) :
    (r.insert (n + 1) key value).keys = key :: r.keys.take n := by
  rw [keys_insert, if_neg (Nat.succ_ne_zero n), filter_keys_of_not_mem h, List.take_succ_cons]

theorem size_insert_succ (h : key ∉ r.keys) (value : ν) :
    (r.insert (n + 1) key value).size = min n r.size + 1 := by
  rw [size_eq_length_keys, size_eq_length_keys, keys_insert_succ h, List.length_cons,
    List.length_take]

/-- Even if the new key goes again, what it displaced is gone. -/
theorem keys_erase_insert_succ (h : key ∉ r.keys) (value : ν) :
    ((r.insert (n + 1) key value).erase key).keys = r.keys.take n := by
  rw [keys_erase, keys_insert_succ h, List.filter_cons_of_neg (by simp)]
  exact List.filter_eq_self.mpr fun k hk =>
    by simpa using fun heq : k = key => h (heq ▸ List.mem_of_mem_take hk)

theorem size_erase_insert_succ (h : key ∉ r.keys) (value : ν) :
    ((r.insert (n + 1) key value).erase key).size = min n r.size := by
  rw [size_eq_length_keys, size_eq_length_keys, keys_erase_insert_succ h, List.length_take]

/-- What is left of a tier after the build of a key that it lacks. -/
inductive Settles (bound : Nat) (key : κ) (r : Recency κ ν) : Turn → Recency κ ν → Prop
  /-- The new value stays. -/
  | own (value : ν) : Settles bound key r .own (r.insert bound key value)
  /-- The new value goes again, but not without displacing another one first. -/
  | foreign (value : ν) : Settles bound key r .foreign ((r.insert bound key value).erase key)
  /-- There is no new value. -/
  | fail : Settles bound key r .fail r

/-- A build brings in no key but its own, and that one only if it is owned. -/
theorem Settles.of_mem_keys {turn : Turn} (h : Settles bound key r turn r') (hk : k ∈ r'.keys) :
    k ∈ r.keys ∨ k = key ∧ turn = .own := by
  cases h with
  | own value => exact (mem_keys_insert hk).imp_right fun heq => ⟨heq, rfl⟩
  | foreign value =>
      rw [keys_erase, List.mem_filter] at hk
      obtain ⟨hk, hne⟩ := hk
      exact Or.inl ((mem_keys_insert hk).resolve_right (of_decide_eq_true hne))
  | fail => exact Or.inl hk

/-- A tier without room stays empty. -/
theorem Settles.keys_eq_nil {turn : Turn} (h : Settles 0 key r turn r') (hr : r.keys = []) :
    r'.keys = [] := by
  cases h with
  | own value => exact hr
  | foreign value =>
      rw [keys_erase, show (r.insert 0 key value).keys = [] from hr]
      rfl
  | fail => exact hr

namespace Inside

/-- A use of any key in both lists, whichever of them hold it. -/
theorem touch (h : Inside bound roomy r t) (ht : t.keys.Nodup) (key : κ) :
    Inside bound roomy (r.touch key) (t.touch key) where
  keys := by
    rw [keys_touch, keys_touch]
    by_cases hr : key ∈ r.keys
    · rw [if_pos hr, if_pos (h.keys.subset hr)]
      exact (h.keys.filter _).cons_cons key
    · rw [if_neg hr]
      split
      · rw [← filter_keys_of_not_mem hr]
        exact (h.keys.filter _).cons key
      · exact h.keys
  room_le := by
    rw [size_touch (h.keys.nodup ht), size_touch ht]
    exact h.room_le

/-- Both lists lack the key, and it is built for both. -/
theorem settle {turn : Turn} (h : Inside bound roomy r t) (hr : r.size ≤ bound) (ht : t.size ≤ roomy)
    (hkr : key ∉ r.keys) (hkt : key ∉ t.keys) (hr' : Settles bound key r turn r')
    (ht' : Settles roomy key t turn t') : Inside bound roomy r' t' := by
  have hroom := h.room_le
  have hlength := h.keys.length_le
  rw [← size_eq_length_keys, ← size_eq_length_keys] at hlength
  cases bound with
  | zero => exact of_nil (hr'.keys_eq_nil (keys_eq_nil_of_size_le hr))
  | succ bound =>
      -- Of the smaller tier's room, used or not, the larger one has at least as much.
      obtain ⟨roomy, rfl⟩ := Nat.exists_eq_succ_of_ne_zero (show roomy ≠ 0 by omega)
      have htake := h.take_sublist hr ht
      cases hr' with
      | own value =>
          obtain ⟨other⟩ := ht'
          constructor
          · rw [keys_insert_succ hkr, keys_insert_succ hkt]
            exact htake.cons_cons key
          · rw [size_insert_succ hkr, size_insert_succ hkt]
            omega
      | foreign value =>
          obtain - | ⟨other⟩ := ht'
          constructor
          · rw [keys_erase_insert_succ hkr, keys_erase_insert_succ hkt]
            exact htake
          · rw [size_erase_insert_succ hkr, size_erase_insert_succ hkt]
            omega
      | fail =>
          cases ht' with
          | fail => exact h

/-- Only the larger list holds the key, so it is built for the smaller one alone. -/
theorem settle_touch (h : Inside bound roomy r t) (hr : r.size ≤ bound) (ht : t.keys.Nodup)
    (hkr : key ∉ r.keys) (hkt : key ∈ t.keys) (hr' : Settles bound key r .own r') :
    Inside bound roomy r' (t.touch key) := by
  have hroom := h.room_le
  cases bound with
  | zero => exact of_nil (hr'.keys_eq_nil (keys_eq_nil_of_size_le hr))
  | succ bound =>
      obtain ⟨value⟩ := hr'
      constructor
      · rw [keys_insert_succ hkr, keys_touch, if_pos hkt, ← filter_keys_of_not_mem hkr]
        exact ((List.take_sublist _ _).trans (h.keys.filter _)).cons_cons key
      · rw [size_touch ht, size_insert_succ hkr]
        omega

end Inside

end Operations

end Recency

/-! ### Linkers that go by the key -/

/-- What a linker did, for a request of this owner. -/
def Turn.of (owner : PointSetId) : Except BuildError Linkage → Turn
  | .error _ => .fail
  | .ok l => if l.belongsTo owner then .own else .foreign

/-- Whether the linker succeeds, fails or gives a foreign linkage depends on the key alone. -/
def Linker.DecidedBy {σ : Type} (turn : LinkageKey → Turn) (L : Linker σ) : Prop :=
  ∀ request memory, Turn.of request.owner (L.link request memory).1 = turn request.key

/-- The linker that numbers its linkages and takes its turn from the key. -/
def Linker.keyed (turn : LinkageKey → Turn) : Linker Nat where
  link request memory :=
    let made := Linker.scripted.link request (memory, [turn request.key])
    (made.1, made.2.1)
  egressCosts _ _ memory := (.ok {}, memory)

theorem Linker.decidedBy_keyed (turn : LinkageKey → Turn) : (Linker.keyed turn).DecidedBy turn := by
  intro request memory
  unfold keyed scripted
  cases hturn : turn request.key <;> simp [hturn, Turn.of, Linkage.belongsTo, Linkage.owner]

/-! ### Lookups of networks without a base -/

/-- The operation looks up, with or without building, a network that has no base. -/
def Operation.LooksUpRoots (f : Forest) : Operation → Prop
  | .get key => key.base? f = none
  | .peek key => key.base? f = none
  | .pin _ => False
  | .index => True
  | .query _ _ => True

instance (f : Forest) : DecidablePred (Operation.LooksUpRoots f)
  | .get key => inferInstanceAs (Decidable (key.base? f = none))
  | .peek key => inferInstanceAs (Decidable (key.base? f = none))
  | .pin _ => inferInstanceAs (Decidable False)
  | .index => inferInstanceAs (Decidable True)
  | .query _ _ => inferInstanceAs (Decidable True)

section Operations

open Scene

variable {σ : Type} {f : Forest} {L : Linker σ} {owner : PointSetId} {key : LinkageKey}
  {base : Option Linkage} {s s' : Scene σ} {acts : List Act} {turn : LinkageKey → Turn}

/-- A build changes the bounded tier as the turn of its key says. -/
theorem Made.settles {r : Except LinkageError Linkage} (hL : L.DecidedBy turn)
    (h : Made L owner key base s acts r s') :
    Recency.Settles s.store.config.capacity key s.store.bounded (turn key) s'.store.bounded ∧
      s'.store.builds = s.store.builds := by
  have hturn : Turn.of owner (L.link (s.request owner key base) s.world.memory).1 = turn key :=
    hL _ _
  cases h with
  | failed hlink =>
      rw [hlink, Turn.of] at hturn
      exact ⟨hturn ▸ .fail, rfl⟩
  | @stored l memory hlink hown =>
      rw [hlink, Turn.of, if_pos hown] at hturn
      exact ⟨hturn ▸ .own l, rfl⟩
  | @foreign l memory hlink hown =>
      rw [hlink, Turn.of, if_neg (ne_true_of_eq_false hown)] at hturn
      exact ⟨hturn ▸ .foreign l, rfl⟩

/-- Where nothing is pinned, the lookup of a network without a base is answered by the bounded tier, or it
is one build. -/
theorem Lookup.root_cases {r : Except LinkageError Linkage} (hL : L.DecidedBy turn)
    (h : Lookup f L owner key s acts r s') (hpins : s.store.pins = []) (hbase : key.base? f = none) :
    (key ∈ s.store.bounded.keys ∧ s'.store.bounded = s.store.bounded.touch key ∧
        s'.store.builds = s.store.builds) ∨
      (key ∉ s.store.bounded.keys ∧
        Recency.Settles s.store.config.capacity key s.store.bounded (turn key) s'.store.bounded ∧
        s'.store.builds = s.store.builds + 1) := by
  cases h with
  | pinned hp => rw [LinkageStore.pinned?, hpins] at hp; cases hp
  | bounded hp hb => exact Or.inl ⟨Recency.mem_keys_of_find? hb, rfl, rfl⟩
  | root hheld _ hmade =>
      have hnone := (LinkageStore.held?_eq_none_iff.mp hheld).2
      exact Or.inr ⟨Recency.find?_eq_none_iff.mp hnone, hmade.settles hL⟩
  | baseFailed _ hsome => rw [hbase] at hsome; cases hsome
  | derived _ hsome => rw [hbase] at hsome; cases hsome

end Operations

/-! ### Two stores side by side -/

/-- A store that did the same as another one with at least as much room: its bounded tier lies inside the
other one, and it built as often or more often. -/
structure LinkageStore.Within (turn : LinkageKey → Turn) (s t : LinkageStore) : Prop where
  pins_left : s.pins = []
  pins_right : t.pins = []
  inside : Recency.Inside s.config.capacity t.config.capacity s.bounded t.bounded
  /-- What is in the larger tier is built with success wherever it is missing. -/
  own : ∀ key ∈ t.bounded.keys, turn key = .own
  builds_le : t.builds ≤ s.builds

namespace LinkageStore.Within

open Scene

variable {σ : Type} {f : Forest} {L L' : Linker σ} {owner owner' : PointSetId} {key : LinkageKey}
  {turn : LinkageKey → Turn}

theorem touch {s t : LinkageStore} (h : Within turn s t) (ht : t.Tidy) (key : LinkageKey) :
    Within turn (s.touch key) (t.touch key) where
  pins_left := h.pins_left
  pins_right := h.pins_right
  inside := h.inside.touch ht.nodup key
  own k hk := h.own k (Recency.mem_keys_touch.mp hk)
  builds_le := h.builds_le

/-- **A lookup on both sides.** If it is a build for the larger store, it is one for the smaller store
too, and it ends in the same way. -/
theorem lookup {s t s' t' : Scene σ} {acts acts' : List Act} {r r' : Except LinkageError Linkage}
    (h : Within turn s.store t.store) (hs : s.store.Tidy) (ht : t.store.Tidy)
    (hbase : key.base? f = none) (hL : L.DecidedBy turn) (hL' : L'.DecidedBy turn)
    (hlookup : Lookup f L owner key s acts r s') (hlookup' : Lookup f L' owner' key t acts' r' t') :
    Within turn s'.store t'.store := by
  obtain ⟨hpins, hconfig⟩ := hlookup.frame
  obtain ⟨hpins', hconfig'⟩ := hlookup'.frame
  have hbuilds := h.builds_le
  have hcases := hlookup.root_cases hL h.pins_left hbase
  have hcases' := hlookup'.root_cases hL' h.pins_right hbase
  suffices hnew :
      Recency.Inside s.store.config.capacity t.store.config.capacity s'.store.bounded
          t'.store.bounded ∧
        (∀ k ∈ t'.store.bounded.keys, turn k = .own) ∧ t'.store.builds ≤ s'.store.builds by
    obtain ⟨hinside, hown, hle⟩ := hnew
    exact ⟨hpins.trans h.pins_left, hpins'.trans h.pins_right, hconfig ▸ hconfig' ▸ hinside, hown, hle⟩
  -- Each side answers or builds. That only the larger one builds is the case that cannot be.
  rcases hcases with ⟨hmem, htouch, hsame⟩ | ⟨hmem, hsettles, hcount⟩ <;>
    rcases hcases' with ⟨hmem', htouch', hsame'⟩ | ⟨hmem', hsettles', hcount'⟩
  · rw [htouch, htouch']
    refine ⟨h.inside.touch ht.nodup key, fun k hk => ?_, by omega⟩
    exact h.own k (Recency.mem_keys_touch.mp hk)
  · exact absurd (h.inside.keys.subset hmem) hmem'
  · -- The larger tier still has what the smaller one gave up.
    have hown := h.own key hmem'
    rw [htouch']
    refine ⟨?_, fun k hk => h.own k (Recency.mem_keys_touch.mp hk), by omega⟩
    exact h.inside.settle_touch hs.size_le ht.nodup hmem hmem' (hown ▸ hsettles)
  · refine ⟨h.inside.settle hs.size_le ht.size_le hmem hmem' hsettles hsettles', ?_, by omega⟩
    intro k hk
    rcases hsettles'.of_mem_keys hk with hk | ⟨rfl, hown⟩
    · exact h.own k hk
    · exact hown

end LinkageStore.Within

/-! ### Two runs side by side -/

namespace PointSet

variable {σ ρ : Type} [PointAccess ρ] {f : Forest} {p q : PointSet σ ρ} {turn : LinkageKey → Turn}

/-- Looking the key up starts a build. -/
def StartsBuild (f : Forest) (key : LinkageKey) (p : PointSet σ ρ) (w : World σ) : Prop :=
  p.cacheStats.builds < (p.getLinkage f key w).2.1.cacheStats.builds

instance (f : Forest) (key : LinkageKey) (p : PointSet σ ρ) (w : World σ) :
    Decidable (p.StartsBuild f key w) :=
  inferInstanceAs (Decidable (_ < _))

theorem startsBuild_iff (hp : Reachable f p) (hpL : p.linker.DecidedBy turn) (hpins : p.store.pins = [])
    {key : LinkageKey} (hbase : key.base? f = none) (w : World σ) :
    p.StartsBuild f key w ↔ key ∉ p.store.bounded.keys := by
  obtain ⟨s', hlookup, hstate⟩ := lookup_derivation f key hp.ownedBy w
  have hafter : (p.getLinkage f key w).2.1.store = s'.store :=
    congrArg (fun state => state.1.store) hstate
  show p.store.builds < (p.getLinkage f key w).2.1.store.builds ↔ _
  rw [hafter, show p.store = (p.scene w).store from rfl]
  rcases hlookup.root_cases hpL hpins hbase with ⟨hmem, -, hsame⟩ | ⟨hmem, -, hcount⟩
  · exact iff_of_false (by omega) (fun h => h hmem)
  · exact iff_of_true (by omega) hmem

theorem within_perform (hp : Reachable f p) (hq : Reachable f q) (hpL : p.linker.DecidedBy turn)
    (hqL : q.linker.DecidedBy turn) (h : LinkageStore.Within turn p.store q.store) {op : Operation}
    (hop : op.LooksUpRoots f) (w w' : World σ) :
    LinkageStore.Within turn (p.perform f op w).1.store (q.perform f op w').1.store := by
  cases op with
  | get key =>
      obtain ⟨s', hlookup, hstate⟩ := lookup_derivation f key hp.ownedBy w
      obtain ⟨t', hlookup', hstate'⟩ := lookup_derivation f key hq.ownedBy w'
      rw [perform, perform, hstate, hstate']
      exact h.lookup (s := p.scene w) (t := q.scene w') hp.tidy hq.tidy hop hpL hqL hlookup hlookup'
  | pin key => exact hop.elim
  | peek key =>
      have hread : ∀ {s : LinkageStore}, s.pins = [] → (s.get key).2 = s.touch key := by
        intro s hpins
        simp [LinkageStore.get, LinkageStore.pinned?, hpins]
      show LinkageStore.Within turn (p.store.get key).2 (q.store.get key).2
      rw [hread h.pins_left, hread h.pins_right]
      exact h.touch hq.tidy key
  | index =>
      rw [store_perform_index, store_perform_index]
      exact h
  | query a b =>
      rw [store_perform_query, store_perform_query]
      exact h

theorem within_play (hp : Reachable f p) (hq : Reachable f q) (hpL : p.linker.DecidedBy turn)
    (hqL : q.linker.DecidedBy turn) (h : LinkageStore.Within turn p.store q.store)
    {ops : List Operation} (hops : ∀ op ∈ ops, op.LooksUpRoots f) (w w' : World σ) :
    LinkageStore.Within turn (p.play f ops w).1.store (q.play f ops w').1.store := by
  induction ops generalizing p q w w' with
  | nil => exact h
  | cons op ops ih =>
      rw [List.forall_mem_cons] at hops
      refine ih (hp.perform op w) (hq.perform op w') ?_ ?_ ?_ hops.2 _ _
      · rwa [linker_perform]
      · rwa [linker_perform]
      · exact within_perform hp hq hpL hqL h hops.1 w w'

end PointSet

/-- **More room costs no builds.** Let two point sets differ in the capacity of their bounded tiers only,
with a linker whose success, failure or foreign linkage depends on the key alone, and let both start empty
and do the same, which is to look up networks without a base, with and without building. Then after every
operation the keys of the smaller tier are among those of the larger one, in the same order of use; what
is then a build for the larger tier is one for the smaller tier; and the larger one has built at most as
often. The two may live in worlds of their own, so the linkages themselves may differ. -/
theorem builds_le_of_capacity_le {σ ρ : Type} [PointAccess ρ] (f : Forest) (id : PointSetId) (source : ρ)
    (linker : Linker σ) (config : CacheConfig) (turn : LinkageKey → Turn)
    (hlinker : linker.DecidedBy turn) {c c' : Nat} (hc : c ≤ c') (ops : List Operation)
    (hops : ∀ op ∈ ops, op.LooksUpRoots f) (w w' : World σ) :
    let smaller := ((PointSet.new id source linker (config.withCapacity c)).play f ops w).1
    let larger := ((PointSet.new id source linker (config.withCapacity c')).play f ops w').1
    smaller.store.bounded.keys.Sublist larger.store.bounded.keys ∧
      (∀ key, key.base? f = none → ∀ v v', larger.StartsBuild f key v' →
        smaller.StartsBuild f key v) ∧
      larger.cacheStats.builds ≤ smaller.cacheStats.builds := by
  intro smaller larger
  have hsmall : Reachable f (PointSet.new id source linker (config.withCapacity c)) := .new ..
  have hlarge : Reachable f (PointSet.new id source linker (config.withCapacity c')) := .new ..
  have hempty : LinkageStore.Within turn
      (PointSet.new id source linker (config.withCapacity c)).store
      (PointSet.new id source linker (config.withCapacity c')).store :=
    ⟨rfl, rfl, ⟨List.Sublist.refl [], hc⟩, nofun, Nat.le_refl 0⟩
  have hrun := PointSet.within_play hsmall hlarge hlinker hlinker hempty hops w w'
  have hsmallL : smaller.linker.DecidedBy turn := by
    rw [show smaller.linker = linker from PointSet.linker_play f ops _ w]
    exact hlinker
  have hlargeL : larger.linker.DecidedBy turn := by
    rw [show larger.linker = linker from PointSet.linker_play f ops _ w']
    exact hlinker
  refine ⟨hrun.inside.keys, fun key hbase v v' hbuild => ?_, hrun.builds_le⟩
  rw [PointSet.startsBuild_iff (hlarge.play ops w') hlargeL hrun.pins_right hbase] at hbuild
  rw [PointSet.startsBuild_iff (hsmall.play ops w) hsmallL hrun.pins_left hbase]
  exact fun hmem => hbuild (hrun.inside.keys.subset hmem)

/-- Room for one and room for two. A look finds the city in the larger tier only, and the foreign linkage of
the airport then displaces the suburb from both: the smaller tier is left empty, the larger one with the
city. -/
theorem builds_le_of_capacity_le_past_foreign :
    let f := Forest.ofList [("city", none), ("suburb", none), ("airport", none)]
    let turn : LinkageKey → Turn := fun key => if key.network = 2 then .foreign else .own
    let p := PointSet.new 7 (PointSource.freeForm []) (Linker.keyed turn)
    let ops := [.get ⟨0, .walk⟩, .get ⟨1, .walk⟩, .peek ⟨0, .walk⟩, .get ⟨2, .walk⟩]
    let smaller := ((p { capacity := 1 }).play f ops { memory := 0 }).1
    let larger := ((p { capacity := 2 }).play f ops { memory := 0 }).1
    smaller.store.bounded.keys = [] ∧ larger.store.bounded.keys = [⟨0, .walk⟩] ∧
      smaller.StartsBuild f ⟨0, .walk⟩ { memory := 3 } ∧ ¬larger.StartsBuild f ⟨0, .walk⟩ { memory := 3 } ∧
      smaller.StartsBuild f ⟨1, .walk⟩ { memory := 3 } ∧
      larger.cacheStats.builds ≤ smaller.cacheStats.builds := by
  intro f turn p ops smaller larger
  obtain ⟨-, hstarts, hbuilds⟩ :=
    builds_le_of_capacity_le f 7 (PointSource.freeForm []) (Linker.keyed turn) {} turn
      (Linker.decidedBy_keyed turn) (show 1 ≤ 2 by decide) ops (by decide) { memory := 0 } { memory := 0 }
  refine ⟨by decide, by decide, by decide, by decide, ?_, hbuilds⟩
  exact hstarts ⟨1, .walk⟩ (by decide) _ { memory := 3 } (by decide)

-- With a base network it is otherwise. Only the larger tier still has the plan at its second lookup, so
-- only the smaller one needs the city again, and afterwards it is the one that has it.
example :
    let f := Forest.ofList [("city", none), ("plan", some 0), ("suburb", none), ("airport", none)]
    let p := PointSet.new 7 (PointSource.freeForm []) (Linker.keyed fun _ => .own)
    let ops := [.get ⟨1, .walk⟩, .get ⟨2, .walk⟩, .get ⟨3, .walk⟩, .get ⟨1, .walk⟩]
    let smaller := ((p { capacity := 2 }).play f ops { memory := 0 }).1
    let larger := ((p { capacity := 3 }).play f ops { memory := 0 }).1
    ¬smaller.StartsBuild f ⟨0, .walk⟩ { memory := 6 } ∧ larger.StartsBuild f ⟨0, .walk⟩ { memory := 5 } := by
  decide

end StreetLinkage
