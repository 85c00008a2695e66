import StreetLinkage.Proofs.Accounting

/-!
# Lookups in closed form

A lookup that succeeds uses one entry at most, and then builds and takes in one level after the other,
where each may displace what stands last. `getLinkage_closed_form` gives the outcome without the steps:
the bounded tier is one list cut once to the capacity, and every counter grows by a number that is read
off the lineage as it was before.

* `LinkageStore.nearestKey?` is the level that answers, and `LinkageStore.afterAnswer` are the entries once
  it has; `madeBy` are the entries that the calls of the linker add in front of them.
* `Climbed` relates the stores before and after. One level adds one entry in front of the list that is
  yet to be cut (`Made.climbed`), since to cut a list, to put an entry in front and to cut it again is
  to put the entry in front and to cut once (`Recency.entries_insert_of_cut`); and a lookup is a chain of
  such levels (`Lookup.climbed`).
-/

namespace StreetLinkage

/-! ### Lists that are cut -/

/-- How many entries go when a list is cut to the bound. With no room at all nothing was ever taken in,
so nothing goes. -/
def cutOff {α : Type} (bound : Nat) (whole : List α) : Nat :=
  if bound = 0 then 0 else (whole.drop bound).length

theorem cutOff_of_length_le {α : Type} {bound : Nat} {whole : List α} (h : whole.length ≤ bound) :
    cutOff bound whole = 0 := by
  simp [cutOff, h]

namespace Recency

variable {κ ν : Type} [DecidableEq κ] {r : Recency κ ν} {bound : Nat} {key : κ}
  {whole : List (κ × ν)}

/-- The entries with that of the key moved to the front, if there is one. -/
def broughtForward (r : Recency κ ν) (key : κ) : List (κ × ν) :=
  r.entries.filter (·.1 = key) ++ r.entries.filter (·.1 ≠ key)

theorem filter_key_eq {entries : List (κ × ν)} (h : (entries.map Prod.fst).Nodup) (key : κ) :
    entries.filter (·.1 = key) = ((entries.lookup key).map (key, ·)).toList := by
  induction entries with
  | nil => rfl
  | cons entry rest ih =>
      obtain ⟨k, value⟩ := entry
      rw [List.map_cons, List.nodup_cons] at h
      by_cases hk : k = key
      · subst hk
        have hnone : rest.lookup k = none := find?_eq_none_iff (r := ⟨rest⟩).mpr h.1
        rw [List.filter_cons_of_pos (by simp), ih h.2, hnone, List.lookup_cons_self]
        rfl
      · rw [List.filter_cons_of_neg (by simpa using hk), ih h.2, List.lookup_cons,
          beq_eq_false_iff_ne.mpr (Ne.symm hk)]

/-- A use brings the entry of the key to the front. -/
theorem entries_touch (h : r.keys.Nodup) (key : κ) :
    (r.touch key).entries = r.broughtForward key := by
  have hfront : r.entries.filter (·.1 = key) = ((r.find? key).map (key, ·)).toList :=
    filter_key_eq h key
  unfold touch broughtForward
  rw [hfront]
  cases hfind : r.find? key with
  | some value => rfl
  | none => exact (entries_erase_of_not_mem (find?_eq_none_iff.mp hfind)).symm

/-- To take an entry into a list that was cut is to put it in front before the cut. -/
theorem entries_insert_of_cut (hcut : r.entries = whole.take bound) (hkey : key ∉ r.keys)
    (value : ν) : (r.insert bound key value).entries = ((key, value) :: whole).take bound := by
  cases bound with
  | zero => exact hcut
  | succ n =>
      rw [insert, if_neg (Nat.succ_ne_zero n), push, entries_erase_of_not_mem hkey, hcut]
      simp [List.take_take]

/-- What is dropped for the entry is what the cut of the longer list takes off beyond the shorter one. -/
theorem cutOff_add_length_dropped (hcut : r.entries = whole.take bound) (hkey : key ∉ r.keys)
    (value : ν) :
    cutOff bound whole + (r.dropped bound key value).length =
      cutOff bound ((key, value) :: whole) := by
  unfold cutOff dropped
  split
  · rfl
  · rw [push, entries_erase_of_not_mem hkey, hcut]
    simp only [List.length_reverse, List.length_map, List.length_drop, List.length_cons,
      List.length_take]
    omega

end Recency

/-! ### What a lookup starts from and what it adds -/

namespace LinkageStore

/-- The first key that a tier holds. -/
def nearestKey? (s : LinkageStore) (keys : List LinkageKey) : Option LinkageKey :=
  keys.find? s.contains

/-- The bounded tier once the given key has answered: its entry has moved to the front, unless it is the
pinned tier that answers. -/
def afterAnswer (s : LinkageStore) (answering : Option LinkageKey) : List (LinkageKey × Linkage) :=
  match answering with
  | none => s.bounded.entries
  | some key =>
      if (s.pinned? key).isSome then s.bounded.entries else s.bounded.broughtForward key

theorem nearestKey?_cons_of_held {s : LinkageStore} {key : LinkageKey} {keys : List LinkageKey}
    {l : Linkage} (h : s.held? key = some l) : s.nearestKey? (key :: keys) = some key := by
  simp [nearestKey?, contains_eq_isSome_held?, h]

theorem nearestKey?_cons_of_not_held {s : LinkageStore} {key : LinkageKey} {keys : List LinkageKey}
    (h : s.held? key = none) : s.nearestKey? (key :: keys) = s.nearestKey? keys := by
  simp [nearestKey?, contains_eq_isSome_held?, h]

end LinkageStore

/-- Whichever tier answers, the bounded one has the same entries afterwards. -/
theorem LinkageStore.afterAnswer_perm (s : LinkageStore) (answering : Option LinkageKey) :
    (s.afterAnswer answering).Perm s.bounded.entries := by
  unfold afterAnswer
  split
  · exact .refl _
  · next key =>
    split
    · exact .refl _
    · have hsplit := List.filter_append_perm (fun entry => decide (entry.1 = key)) s.bounded.entries
      simpa [Recency.broughtForward] using hsplit

/-- The entries that some calls of the linker give, the latest first. -/
def madeBy (calls : List LinkCall) : List (LinkageKey × Linkage) :=
  calls.reverse.filterMap fun c => c.linkage?.map (c.key, ·)

theorem madeBy_concat {c : LinkCall} {l : Linkage} (h : c.outcome = .ok l) (calls : List LinkCall) :
    madeBy (calls ++ [c]) = (c.key, l) :: madeBy calls := by
  simp [madeBy, LinkCall.linkage?, h, Except.toOption]

/-! ### One list, cut once -/

/-- The store `t` after a lookup along `keys` that started in `s` and succeeded with these calls. -/
structure Climbed (s t : LinkageStore) (keys : List LinkageKey) (calls : List LinkCall) : Prop where
  made_eq : (madeBy calls).map Prod.fst = s.missing keys
  entries_eq : t.bounded.entries =
    (madeBy calls ++ s.afterAnswer (s.nearestKey? keys)).take s.config.capacity
  config_eq : t.config = s.config
  lookups_eq : t.lookups =
    s.lookups + (s.missing keys).length + if (s.nearestKey? keys).isSome then 1 else 0
  pinnedHits_eq : t.pinnedHits =
    s.pinnedHits + if ((s.nearestKey? keys).bind s.pinned?).isSome then 1 else 0
  builds_eq : t.builds = s.builds + (s.missing keys).length
  evictions_eq : t.evictions = s.evictions +
    cutOff s.config.capacity (madeBy calls ++ s.afterAnswer (s.nearestKey? keys))

section Lookups

variable {σ : Type} {f : Forest} {L : Linker σ} {owner : PointSetId} {key : LinkageKey}
  {base : Option Linkage} {s s₁ s' : Scene σ} {acts : List Act} {keys : List LinkageKey}
  {calls : List LinkCall} {l : Linkage}

/-- Before its first level a lookup has done nothing. -/
theorem Climbed.nil {s : LinkageStore} (hs : s.Tidy) : Climbed s s [] [] where
  made_eq := rfl
  entries_eq := (List.take_of_length_le hs.size_le).symm
  config_eq := rfl
  lookups_eq := rfl
  pinnedHits_eq := rfl
  builds_eq := rfl
  evictions_eq := by
    have hnone : cutOff s.config.capacity s.bounded.entries = 0 := cutOff_of_length_le hs.size_le
    exact (congrArg (s.evictions + ·) hnone).symm

/-- A tier answers for the first level: the bounded tier is as the answer leaves it, nothing is built
and nothing has to go. -/
theorem Climbed.answered {s : LinkageStore} {bounded : Recency LinkageKey Linkage}
    (hheld : s.held? key = some l) (hentries : bounded.entries = s.afterAnswer (some key))
    (hsize : bounded.size ≤ s.config.capacity) (rest : List LinkageKey) :
    Climbed s { s with
      bounded := bounded
      lookups := s.lookups + 1
      pinnedHits := s.pinnedHits + if (s.pinned? key).isSome then 1 else 0 } (key :: rest) [] := by
  have hnear : s.nearestKey? (key :: rest) = some key :=
    LinkageStore.nearestKey?_cons_of_held hheld
  have hmissing : s.missing (key :: rest) = [] := LinkageStore.missing_cons_of_held hheld
  have hroom : (s.afterAnswer (some key)).length ≤ s.config.capacity := hentries ▸ hsize
  constructor
  case entries_eq => rw [hnear]; exact hentries.trans (List.take_of_length_le hroom).symm
  case evictions_eq =>
    rw [hnear]
    exact (congrArg (s.evictions + ·) (cutOff_of_length_le hroom)).symm
  all_goals simp [hnear, hmissing, madeBy]

/-- A level that no tier holds is built when the levels below are done, and its entry comes in front. -/
theorem Made.climbed (h : Made L owner key base s₁ acts (.ok l) s')
    (hheld : s.store.held? key = none) (hbelow : Climbed (s.miss key).store s₁.store keys calls)
    (hnew : s₁.store.held? key = none) :
    Climbed s.store s'.store (key :: keys) (calls ++ callsOf acts) := by
  have hnear : s.store.nearestKey? (key :: keys) = s.store.nearestKey? keys :=
    LinkageStore.nearestKey?_cons_of_not_held hheld
  have hmissing : s.store.missing (key :: keys) = key :: s.store.missing keys :=
    LinkageStore.missing_cons_of_not_held hheld
  have hkey : key ∉ s₁.store.bounded.keys :=
    Recency.find?_eq_none_iff.mp (LinkageStore.held?_eq_none_iff.mp hnew).2
  cases h with
  | @stored l memory hlink hl =>
      have hmade : madeBy (calls ++ callsOf [.asked ⟨s₁.request owner key base, .ok l⟩, .stored key l]) =
          (key, l) :: madeBy calls :=
        madeBy_concat rfl calls
      -- The level was counted before those below, which start from its tiers.
      have hconfig : s₁.store.config = s.store.config := hbelow.config_eq
      have hcut : s₁.store.bounded.entries =
          (madeBy calls ++ s.store.afterAnswer (s.store.nearestKey? keys)).take
            s₁.store.config.capacity :=
        hconfig ▸ hbelow.entries_eq
      have hlookups : s₁.store.lookups = s.store.lookups + 1 + (s.store.missing keys).length +
          if (s.store.nearestKey? keys).isSome then 1 else 0 := hbelow.lookups_eq
      have hbuilds : s₁.store.builds = s.store.builds + 1 + (s.store.missing keys).length :=
        hbelow.builds_eq
      have hevictions : s₁.store.evictions = s.store.evictions + cutOff s₁.store.config.capacity
          (madeBy calls ++ s.store.afterAnswer (s.store.nearestKey? keys)) :=
        hconfig ▸ hbelow.evictions_eq
      constructor
      case made_eq =>
        rw [hmade, hmissing, List.map_cons]
        exact congrArg (key :: ·) hbelow.made_eq
      case entries_eq =>
        rw [hmade, hnear, ← hconfig]
        exact Recency.entries_insert_of_cut hcut hkey l
      case config_eq => exact hconfig
      case lookups_eq =>
        rw [hnear, hmissing, List.length_cons]
        exact hlookups.trans (by omega)
      case pinnedHits_eq =>
        rw [hnear]
        exact hbelow.pinnedHits_eq
      case builds_eq =>
        rw [hmissing, List.length_cons]
        exact hbuilds.trans (by omega)
      case evictions_eq =>
        have hdropped := Recency.cutOff_add_length_dropped hcut hkey l
        rw [hmade, hnear, ← hconfig, List.cons_append, ← hdropped, ← Nat.add_assoc, ← hevictions]
        rfl

/-- **A lookup that succeeds is one cut of one list**, for a lineage of any length. -/
theorem Lookup.climbed (h : Lookup f L owner key s acts (.ok l) s') (hs : s.store.Tidy) :
    Climbed s.store s'.store (key.lineage f) (callsOf acts) := by
  generalize hr : Except.ok l = r at h
  induction h generalizing l with
  | @pinned key s m hp =>
      obtain ⟨rest, hrest⟩ := key.lineage_eq_cons f
      have hentries : s.store.bounded.entries = s.store.afterAnswer (some key) := by
        simp [LinkageStore.afterAnswer, hp]
      have hanswered := Climbed.answered (LinkageStore.held?_of_pinned hp) hentries hs.size_le rest
      rw [hp] at hanswered
      rw [hrest]
      exact hanswered
  | @bounded key s m hp hb =>
      obtain ⟨rest, hrest⟩ := key.lineage_eq_cons f
      have hentries : (s.store.bounded.touch key).entries = s.store.afterAnswer (some key) := by
        simp [LinkageStore.afterAnswer, hp, Recency.entries_touch hs.nodup]
      have hsize : (s.store.bounded.touch key).size ≤ s.store.config.capacity :=
        Recency.size_touch hs.nodup key ▸ hs.size_le
      have hanswered := Climbed.answered (LinkageStore.held?_of_bounded hp hb) hentries hsize rest
      rw [hp] at hanswered
      rw [hrest]
      exact hanswered
  | @root key s acts r s' hheld hbase hmade =>
      subst hr
      rw [LinkageKey.lineage_of_root hbase]
      exact hmade.climbed hheld (.nil ⟨hs.nodup, hs.size_le⟩) hheld
  | baseFailed hheld hbase hlookup ih => cases hr
  | derived hheld hbase hlookup hmade ih =>
      subst hr
      rw [LinkageKey.lineage_of_base hbase, callsOf_append]
      have habsent := hlookup.held?_eq_none (LinkageKey.not_mem_lineage_base hbase) hheld
      exact hmade.climbed hheld (ih ⟨hs.nodup, hs.size_le⟩ rfl) habsent

end Lookups

/-- **The closed form of a lookup.** In every reachable state, for any capacity and whatever the linker
does, a lookup that succeeds along a lineage of any length climbs the levels `missing` up to the level
`nearest` that answers, if one does. Afterwards

* the bounded tier is the missing levels, the key itself first, in front of what was there before, with
  `nearest` moved to the front if it is not pinned, all of it cut once to the capacity;
* the pinned tier is what it was;
* there was a build for each missing level and a lookup for each missing level and for `nearest`, the
  pinned tier answered if `nearest` is pinned, and an eviction is counted for each entry that the cut
  takes off, also for levels that came in during this very lookup.

The second equation gives the linkages with the keys: each level holds what the linker made for it. -/
theorem getLinkage_closed_form {σ ρ : Type} [PointAccess ρ] {p : PointSet σ ρ} (f : Forest)
    (hp : Reachable f p) (key : LinkageKey) (w : World σ) {l : Linkage}
    (hok : (p.getLinkage f key w).1 = .ok l) :
    let q := (p.getLinkage f key w).2.1
    let capacity := p.store.config.capacity
    let missing := p.store.missing (key.lineage f)
    let nearest := p.store.nearestKey? (key.lineage f)
    let made := madeBy (p.calls f (.get key) w)
    let rest := p.store.afterAnswer nearest
    made.map Prod.fst = missing ∧
      q.store.bounded.entries = (made ++ rest).take capacity ∧
      q.store.bounded.keys = (missing ++ rest.map Prod.fst).take capacity ∧
      q.store.pins = p.store.pins ∧
      q.cacheStats.builds = p.cacheStats.builds + missing.length ∧
      q.cacheStats.lookups =
        p.cacheStats.lookups + missing.length + (if nearest.isSome then 1 else 0) ∧
      q.cacheStats.pinnedHits =
        p.cacheStats.pinnedHits + (if (nearest.bind p.store.pinned?).isSome then 1 else 0) ∧
      q.cacheStats.evictions = p.cacheStats.evictions +
        (if capacity = 0 then 0 else ((made ++ rest).drop capacity).length) := by
  intro q capacity missing nearest made rest
  obtain ⟨s', hlookup, hstate⟩ := PointSet.lookup_derivation f key hp.ownedBy w
  have hq : q.store = s'.store := congrArg (fun state => state.1.store) hstate
  rw [hok] at hlookup
  have hclimbed : Climbed p.store s'.store (key.lineage f) (p.calls f (.get key) w) := by
    rw [PointSet.calls_eq hp.ownedBy f (.get key) w]
    exact hlookup.climbed hp.tidy
  have hkeys : q.store.bounded.keys = (missing ++ rest.map Prod.fst).take capacity := by
    rw [hq, Recency.keys, hclimbed.entries_eq, List.map_take, List.map_append, hclimbed.made_eq]
  simp only [PointSet.cacheStats, LinkageStore.stats, hq]
  exact ⟨hclimbed.made_eq, hclimbed.entries_eq, hq ▸ hkeys, hlookup.frame.1, hclimbed.builds_eq,
    hclimbed.lookups_eq, hclimbed.pinnedHits_eq, hclimbed.evictions_eq⟩

/-- With room for two: the city is pinned and has an older copy in the bounded tier. The lane needs the
city, the tram and the bus below it; three levels come in, the tram goes again within the same lookup, and
the copy of the city keeps its place until it is displaced. -/
theorem getLinkage_closed_form_beyond_capacity :
    let f := Forest.ofList [("city", none), ("tram", some 0), ("bus", some 1), ("lane", some 2)]
    let p := ((PointSet.new 7 (PointSource.freeForm []) Linker.scripted { capacity := 2 }).play f
      [.get ⟨0, .walk⟩, .pin ⟨0, .walk⟩, .get ⟨0, .car⟩] (.withTurns [])).1
    let lane : LinkageKey := ⟨3, .walk⟩
    let w := World.withTurns []
    let q := (p.getLinkage f lane w).2.1
    (∃ l, (p.getLinkage f lane w).1 = .ok l) ∧
      p.store.missing (lane.lineage f) = [lane, ⟨2, .walk⟩, ⟨1, .walk⟩] ∧
      p.store.nearestKey? (lane.lineage f) = some ⟨0, .walk⟩ ∧
      p.store.bounded.keys = [⟨0, .car⟩, ⟨0, .walk⟩] ∧
      q.store.bounded.keys = [lane, ⟨2, .walk⟩, ⟨1, .walk⟩, ⟨0, .car⟩, ⟨0, .walk⟩].take 2 ∧
      p.cacheStats = ⟨2, 0, 2, 0, 1, 2⟩ ∧ q.cacheStats = ⟨6, 1, 5, 3, 1, 2⟩ := by
  intro f p lane w q
  have hp : Reachable f p := (Reachable.new 7 _ Linker.scripted _).play _ _
  have hok : (p.getLinkage f lane w).1.toBool = true := by decide
  have hmissing : p.store.missing (lane.lineage f) = [lane, ⟨2, .walk⟩, ⟨1, .walk⟩] := by decide
  have hnearest : p.store.nearestKey? (lane.lineage f) = some ⟨0, .walk⟩ := by decide
  have hrest : (p.store.afterAnswer (some ⟨0, .walk⟩)).map Prod.fst = [⟨0, .car⟩, ⟨0, .walk⟩] := by
    decide
  have hcapacity : p.store.config.capacity = 2 := by decide
  cases hresult : (p.getLinkage f lane w).1 with
  | error e => rw [hresult] at hok; cases hok
  | ok l =>
      obtain ⟨-, -, hkeys, -⟩ := getLinkage_closed_form f hp lane w hresult
      rw [hmissing, hnearest, hrest, hcapacity] at hkeys
      refine ⟨⟨l, rfl⟩, hmissing, hnearest, by decide, ?_, by decide, by decide⟩
      rw [hkeys]
      rfl

end StreetLinkage
