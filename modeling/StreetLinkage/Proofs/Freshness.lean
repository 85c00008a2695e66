import StreetLinkage.Proofs.Durability

/-!
# The latest linkage answers

Linkages of one key are replaced in several ways: a pin overwrites a pin, a build follows an eviction, a
pin leaves an older linkage behind in the bounded tier. Whatever the order, a point set answers for a key
with the linkage of its latest pin, or without one with what the latest build of it gave (`lastStored?`).

The pinned tier is the list of pins read from its end (`PointSet.pinned?_play`). For the bounded tier the
invariant is `LinkageStore.Fresh`, one key at a time: what the tier has under the key is what the latest
of the given builds of it gave. A key that no tier holds is fresh for no builds at all, so the invariant
may be started anew whenever a linkage is gone; from there on nothing older than that comes back
(`PointSet.answersLatest_play`).
-/

namespace StreetLinkage

/-! ### The latest call for a key -/

/-- What the latest of the calls for a key gave. -/
def latestBuilt? (calls : List LinkCall) (key : LinkageKey) : Option Linkage :=
  (calls.filter (·.key = key)).getLast?.bind LinkCall.linkage?

section Calls

variable {calls more : List LinkCall} {key : LinkageKey} {c : LinkCall}

theorem latestBuilt?_append_of_ne (calls : List LinkCall) (h : ∀ c ∈ more, c.key ≠ key) :
    latestBuilt? (calls ++ more) key = latestBuilt? calls key := by
  have hnone : more.filter (·.key = key) = [] :=
    List.filter_eq_nil_iff.mpr fun c hc => by simpa using h c hc
  rw [latestBuilt?, List.filter_append, hnone, List.append_nil]
  rfl

theorem latestBuilt?_snoc (calls : List LinkCall) (h : c.key = key) :
    latestBuilt? (calls ++ [c]) key = c.linkage? := by
  have hone : [c].filter (·.key = key) = [c] := by simp [h]
  rw [latestBuilt?, List.filter_append, hone, List.getLast?_concat]
  rfl

/-- What the latest call gave came from a call for that key. -/
theorem exists_call_of_latestBuilt? {l : Linkage} (h : latestBuilt? calls key = some l) :
    ∃ c ∈ calls, c.key = key ∧ c.linkage? = some l := by
  obtain ⟨c, hlast, hl⟩ := Option.bind_eq_some_iff.mp h
  obtain ⟨hmem, hkey⟩ := List.mem_filter.mp (List.mem_of_getLast? hlast)
  exact ⟨c, hmem, by simpa using hkey, hl⟩

end Calls

/-- The linkage of the latest pin of a key, or else what the latest build of it gave. -/
def lastStored? (pinnings : List (LinkageKey × Linkage)) (builds : List LinkCall)
    (key : LinkageKey) : Option Linkage :=
  (latest? pinnings key).or (latestBuilt? builds key)

/-! ### The bounded tier is fresh -/

/-- What the bounded tier has under the key is what the latest of these builds of it gave. -/
def LinkageStore.Fresh (s : LinkageStore) (key : LinkageKey) (builds : List LinkCall) : Prop :=
  ∀ l, s.bounded.find? key = some l → latestBuilt? builds key = some l

section Operations

open Scene

variable {σ : Type} {f : Forest} {L : Linker σ} {owner : PointSetId} {key k : LinkageKey}
  {base : Option Linkage} {s s' : Scene σ} {acts : List Act} {builds : List LinkCall}

/-- What an insertion leaves under a key is the new value, or it was there before. -/
theorem Recency.find?_of_find?_insert {r : Recency LinkageKey Linkage} {bound : Nat} {l m : Linkage}
    (h : (r.insert bound key l).find? k = some m) :
    k = key ∧ m = l ∨ r.find? k = some m := by
  by_cases hb : bound = 0
  · rw [insert, if_pos hb] at h
    exact Or.inr h
  · rw [find?_insert_of_mem hb (mem_keys_of_find? h), find?_push] at h
    split at h
    · next hkey => exact Or.inl ⟨hkey, (Option.some.inj h).symm⟩
    · exact Or.inr h

/-- A level leaves nothing new under another key. -/
theorem Made.find?_of_ne {r : Except LinkageError Linkage} (h : Made L owner key base s acts r s')
    (hk : k ≠ key) {l : Linkage} (hl : s'.store.bounded.find? k = some l) :
    s.store.bounded.find? k = some l := by
  cases h with
  | failed hlink => exact hl
  | stored hlink hown => exact (Recency.find?_of_find?_insert hl).resolve_left fun h => hk h.1
  | foreign hlink hown =>
      have herase := (Recency.find?_erase _ key k).symm.trans hl
      rw [if_neg hk] at herase
      exact (Recency.find?_of_find?_insert herase).resolve_left fun h => hk h.1

theorem Made.fresh {r : Except LinkageError Linkage} (h : Made L owner key base s acts r s')
    (hheld : s.store.held? key = none) (hs : s.store.Fresh k builds) :
    s'.store.Fresh k (builds ++ callsOf acts) := by
  intro l hl
  by_cases hk : k = key
  · subst hk
    have hnone := (LinkageStore.held?_eq_none_iff.mp hheld).2
    cases h with
    | failed hlink =>
        have hl' : s.store.bounded.find? k = some l := hl
        rw [hnone] at hl'
        cases hl'
    | stored hlink hown =>
        rcases Recency.find?_of_find?_insert hl with ⟨-, rfl⟩ | hl'
        · exact latestBuilt?_snoc builds rfl
        · exact absurd (hnone.symm.trans hl') nofun
    | foreign hlink hown =>
        have herase := (Recency.find?_erase _ k k).symm.trans hl
        rw [if_pos rfl] at herase
        cases herase
  · obtain ⟨c, hcalls, hkey, -⟩ := h.exists_call_for
    rw [hcalls, latestBuilt?_append_of_ne builds]
    · exact hs l (h.find?_of_ne hk hl)
    · intro d hd
      rw [List.mem_singleton.mp hd, hkey]
      exact Ne.symm hk

/-- **A lookup keeps the bounded tier fresh**, with its own builds counted in. -/
theorem Lookup.fresh {r : Except LinkageError Linkage} (h : Lookup f L owner key s acts r s')
    (hs : s.store.Fresh k builds) : s'.store.Fresh k (builds ++ callsOf acts) := by
  induction h with
  | pinned hp =>
      rw [callsOf_answeredPinned, List.append_nil]
      exact hs
  | bounded hp hb =>
      rw [callsOf_answered, List.append_nil]
      exact fun l hl => hs l ((Recency.find?_touch ..).symm.trans hl)
  | root hheld hbase hmade => exact hmade.fresh hheld hs
  | baseFailed hheld hbase hlookup ih =>
      rw [callsOf_append_failed]
      exact ih hs
  | derived hheld hbase hlookup hmade ih =>
      have habsent := hlookup.held?_eq_none (LinkageKey.not_mem_lineage_base hbase) hheld
      rw [callsOf_append, ← List.append_assoc]
      exact hmade.fresh habsent (ih hs)

/-- What a level makes is the latest build of its key. -/
theorem Made.latestBuilt?_eq {l : Linkage} (h : Made L owner key base s acts (.ok l) s')
    (builds : List LinkCall) : latestBuilt? (builds ++ callsOf acts) key = some l := by
  cases h with
  | stored hlink hown => exact latestBuilt?_snoc builds rfl

/-- The answer of a lookup is what is pinned, or else what the latest build of the key gave. -/
theorem Lookup.ok_latest {l : Linkage} (h : Lookup f L owner key s acts (.ok l) s')
    (hs : s.store.Fresh key builds) :
    (s.store.pinned? key).or (latestBuilt? (builds ++ callsOf acts) key) = some l := by
  cases h with
  | pinned hp => rw [hp]; rfl
  | bounded hp hb =>
      rw [hp, Option.none_or, callsOf_answered, List.append_nil]
      exact hs l hb
  | root hheld hbase hmade =>
      rw [(LinkageStore.held?_eq_none_iff.mp hheld).1, Option.none_or]
      exact hmade.latestBuilt?_eq builds
  | derived hheld hbase hlookup hmade =>
      rw [(LinkageStore.held?_eq_none_iff.mp hheld).1, Option.none_or, callsOf_append,
        ← List.append_assoc]
      exact hmade.latestBuilt?_eq _

/-- **So is every answer further down**: the linkage that a call starts from is what is pinned under the
base key, or else what the latest build of that gave, the calls before this one counted in. -/
theorem Lookup.bases_latest {r : Except LinkageError Linkage} (h : Lookup f L owner key s acts r s')
    (hs : s.store.Fresh k builds) {before : List LinkCall} {c : LinkCall}
    (hc : before ++ [c] <+: callsOf acts) (hk : c.key.base? f = some k) {m : Linkage}
    (hm : c.base? = some m) :
    (s.store.pinned? k).or (latestBuilt? (builds ++ before) k) = some m := by
  induction h with
  | pinned hp => exact absurd (List.prefix_nil.mp hc) (by simp)
  | bounded hp hb => exact absurd (List.prefix_nil.mp hc) (by simp)
  | root hheld hbase hmade =>
      obtain ⟨d, hcalls, hkey, -⟩ := hmade.exists_call_for
      have hmem : c ∈ [d] := hcalls ▸ hc.subset (List.mem_append_right _ (List.mem_singleton_self c))
      rw [List.mem_singleton.mp hmem, hkey, hbase] at hk
      cases hk
  | baseFailed hheld hbase hlookup ih =>
      rw [callsOf_append_failed] at hc
      exact ih hs hc
  | derived hheld hbase hlookup hmade ih =>
      obtain ⟨d, hcalls, hkey, hfrom⟩ := hmade.exists_call_for
      rw [callsOf_append, hcalls] at hc
      rcases List.prefix_concat_iff.mp hc with hlast | hbelow
      · -- The last call starts from what the lookup of the base gave.
        obtain ⟨rfl, hcd⟩ := List.append_inj' hlast rfl
        obtain rfl : c = d := List.head_eq_of_cons_eq hcd
        rw [hkey, hbase] at hk
        cases hk
        rw [hfrom] at hm
        cases hm
        exact hlookup.ok_latest hs
      · exact ih hs hbelow

/-- A lookup of a key that a tier holds changes no entry. -/
theorem Lookup.find?_of_held {r : Except LinkageError Linkage} (h : Lookup f L owner key s acts r s')
    (hheld : s.store.held? key ≠ none) (k : LinkageKey) :
    s'.store.bounded.find? k = s.store.bounded.find? k := by
  cases h with
  | pinned hp => rfl
  | bounded hp hb => exact Recency.find?_touch ..
  | root hnone => exact absurd hnone hheld
  | baseFailed hnone => exact absurd hnone hheld
  | derived hnone => exact absurd hnone hheld

end Operations

/-! ### Along a run -/

namespace PointSet

variable {σ ρ : Type} [PointAccess ρ] {f : Forest} {p : PointSet σ ρ} {key : LinkageKey}
  {made : List LinkCall}

/-- The calls of an operation if it is a lookup: its builds. What a pin makes is no build. -/
def buildsOf (f : Forest) (op : Operation) (p : PointSet σ ρ) (w : World σ) : List LinkCall :=
  match op with
  | .get key => p.calls f (.get key) w
  | _ => []

/-- The builds of a run, the oldest first. -/
def builds (f : Forest) : List Operation → PointSet σ ρ → World σ → List LinkCall
  | [], _, _ => []
  | op :: ops, p, w =>
      p.buildsOf f op w ++ builds f ops (p.perform f op w).1 (p.perform f op w).2

theorem fresh_perform (hp : p.store.OwnedBy p.id) (h : p.store.Fresh key made) (op : Operation)
    (w : World σ) : (p.perform f op w).1.store.Fresh key (made ++ p.buildsOf f op w) := by
  cases op with
  | get k =>
      obtain ⟨s', hlookup, hstate⟩ := lookup_derivation f k hp w
      rw [perform, hstate, buildsOf, calls_eq hp]
      exact hlookup.fresh h
  | pin k =>
      rw [show p.buildsOf f (.pin k) w = [] from rfl, List.append_nil, LinkageStore.Fresh,
        bounded_perform_pin f k p w]
      exact h
  | peek k =>
      rw [show p.buildsOf f (.peek k) w = [] from rfl, List.append_nil]
      rcases store_perform_peek f k p w with hsame | htouch
      · exact hsame ▸ h
      · exact htouch ▸ fun l hl => h l ((Recency.find?_touch ..).symm.trans hl)
  | index =>
      rw [show p.buildsOf f .index w = [] from rfl, List.append_nil, store_perform_index]
      exact h
  | query a b =>
      rw [show p.buildsOf f (.query a b) w = [] from rfl, List.append_nil, store_perform_query]
      exact h

theorem fresh_play (hp : Reachable f p) (h : p.store.Fresh key made) (ops : List Operation)
    (w : World σ) : (p.play f ops w).1.store.Fresh key (made ++ p.builds f ops w) := by
  induction ops generalizing p w made with
  | nil =>
      rw [builds, List.append_nil]
      exact h
  | cons op ops ih =>
      rw [play, builds, ← List.append_assoc]
      exact ih (hp.perform op w) (fresh_perform hp.ownedBy h op w) _

/-- What the point set answers for a key is the latest of these pins and builds of it. -/
structure AnswersLatest (f : Forest) (p : PointSet σ ρ) (key : LinkageKey)
    (pinnings : List (LinkageKey × Linkage)) (made : List LinkCall) : Prop where
  /-- A look without a build finds nothing else, ... -/
  linkageIfPresent : ∀ l, (p.linkageIfPresent key).1 = some l →
    lastStored? pinnings made key = some l
  /-- ... a lookup gives nothing else, its own builds counted in, ... -/
  getLinkage : ∀ w l, (p.getLinkage f key w).1 = .ok l →
    lastStored? pinnings (made ++ p.calls f (.get key) w) key = some l
  /-- ... and neither does the lookup of the key as the base of another one. -/
  nested : ∀ other w before c, before ++ [c] <+: p.calls f (.get other) w →
    c.key.base? f = some key → ∀ l, c.base? = some l →
      lastStored? pinnings (made ++ before) key = some l

theorem answersLatest {pinnings : List (LinkageKey × Linkage)} (hp : Reachable f p)
    (hpins : p.store.pinned? key = latest? pinnings key) (h : p.store.Fresh key made) :
    p.AnswersLatest f key pinnings made where
  linkageIfPresent := by
    intro l hl
    have hread : (p.linkageIfPresent key).1 = p.store.held? key := LinkageStore.get_fst p.store key
    rw [hread] at hl
    rw [lastStored?, ← hpins]
    rcases Option.or_eq_some_iff.mp hl with hpinned | ⟨hnone, hbounded⟩
    · rw [hpinned]
      rfl
    · rw [hnone, Option.none_or]
      exact h l hbounded
  getLinkage := by
    intro w l hl
    obtain ⟨s', hlookup, -⟩ := lookup_derivation f key hp.ownedBy w
    rw [hl] at hlookup
    rw [lastStored?, ← hpins, calls_eq hp.ownedBy]
    exact hlookup.ok_latest h
  nested := by
    intro other w before c hc hbase l hl
    obtain ⟨s', hlookup, -⟩ := lookup_derivation f other hp.ownedBy w
    rw [calls_eq hp.ownedBy] at hc
    rw [lastStored?, ← hpins]
    exact hlookup.bases_latest h hc hbase hl

/-- **From a moment on at which no tier holds a key**, it is answered with what is pinned or built since,
and with nothing older. -/
theorem answersLatest_play (hp : Reachable f p) (habsent : p.store.contains key = false)
    (ops : List Operation) (w : World σ) :
    (p.play f ops w).1.AnswersLatest f key (p.pinnings f ops w) (p.builds f ops w) := by
  obtain ⟨hpinned, hbounded⟩ :=
    LinkageStore.held?_eq_none_iff.mp (LinkageStore.contains_eq_false_iff.mp habsent)
  have hnone : p.store.Fresh key [] := fun l hl => by rw [hbounded] at hl; cases hl
  refine answersLatest (hp.play ops w) ?_ (fresh_play hp hnone ops w)
  rw [pinned?_play hp, hpinned, Option.or_none]

end PointSet

/-- **The latest linkage answers.** After any run of a new point set, whatever the linker does, a look
without a build, a lookup, and the lookup of a base on the way to another key give for a key the linkage
of its latest pin that succeeded; if there is none, they give what the latest build of the key gave.

Where neither tier holds a key, be it that its linkage was evicted or dropped, the same is true of the
pins and builds after that moment alone, so that no linkage made before it is given out again. And where a
tier holds the key, a lookup gives the linkage that is held, the pinned one first; it calls no linker and
changes the entries of neither tier. -/
theorem answers_latest_stored {σ ρ : Type} [PointAccess ρ] (f : Forest) (id : PointSetId) (source : ρ)
    (linker : Linker σ) (config : CacheConfig) (ops : List Operation) (w : World σ) :
    let p := PointSet.new id source linker config
    let q := (p.play f ops w).1
    (∀ key, q.AnswersLatest f key (p.pinnings f ops w) (p.builds f ops w)) ∧
      (∀ key, q.store.contains key = false → ∀ more w',
        (q.play f more w').1.AnswersLatest f key (q.pinnings f more w') (q.builds f more w')) ∧
      ∀ key l, (q.store.pinned? key).or (q.store.bounded.find? key) = some l → ∀ w',
        let after := (q.getLinkage f key w').2.1.store
        (q.getLinkage f key w').1 = .ok l ∧ q.calls f (.get key) w' = [] ∧
          after.pins = q.store.pins ∧
          ∀ k, after.bounded.find? k = q.store.bounded.find? k := by
  intro p q
  have hnew : Reachable f p := .new id source linker config
  have hq : Reachable f q := hnew.play ops w
  refine ⟨fun key => PointSet.answersLatest_play hnew rfl ops w, ?_, ?_⟩
  · intro key habsent more w'
    exact PointSet.answersLatest_play hq habsent more w'
  · intro key l hheld w' after
    obtain ⟨s', hlookup, hstate⟩ := PointSet.lookup_derivation f key hq.ownedBy w'
    have hafter : after = s'.store := congrArg (fun state => state.1.store) hstate
    obtain ⟨hresult, hcalls⟩ := hlookup.of_held hheld
    refine ⟨hresult, (PointSet.calls_eq hq.ownedBy f (.get key) w').trans hcalls, ?_, ?_⟩
    · rw [hafter]
      exact hlookup.frame.1
    · rw [hafter]
      exact hlookup.find?_of_held (Option.ne_none_iff_exists'.mpr ⟨l, hheld⟩)

/-- The city is pinned over its first linkage, which stays in the bounded tier behind the pin. The linkage
of the suburb is evicted, so that it has to be made again. -/
theorem answers_latest_stored_over_stale_copy :
    let f := Forest.ofList [("city", none), ("suburb", none), ("airport", none)]
    let p := PointSet.new 7 (PointSource.freeForm []) Linker.scripted { capacity := 2 }
    let ops := [.get ⟨1, .walk⟩, .get ⟨2, .walk⟩, .get ⟨0, .walk⟩, .pin ⟨0, .walk⟩]
    let w := World.withTurns []
    let q := (p.play f ops w).1
    let city := Linkage.fresh ⟨3, 7, ⟨0, .walk⟩, 0⟩
    q.store.bounded.find? ⟨0, .walk⟩ = some (.fresh ⟨2, 7, ⟨0, .walk⟩, 0⟩) ∧
      (q.store.pinned? ⟨0, .walk⟩).or (q.store.bounded.find? ⟨0, .walk⟩) = some city ∧
      (q.getLinkage f ⟨0, .walk⟩ w).1 = .ok city ∧
      q.store.contains ⟨1, .walk⟩ = false ∧
      ∀ more w', (q.play f more w').1.AnswersLatest f ⟨1, .walk⟩ (q.pinnings f more w')
        (q.builds f more w') := by
  intro f p ops w q city
  obtain ⟨-, hanew, hheld⟩ :=
    answers_latest_stored f 7 (PointSource.freeForm []) Linker.scripted { capacity := 2 } ops w
  refine ⟨by decide, by decide, ?_, by decide, ?_⟩
  · exact (hheld ⟨0, .walk⟩ city (by decide) w).1
  · exact hanew ⟨1, .walk⟩ (by decide)

end StreetLinkage
