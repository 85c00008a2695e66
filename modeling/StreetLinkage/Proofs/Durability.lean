import Mathlib.Data.List.Dedup
import StreetLinkage.Proofs.History
import StreetLinkage.Proofs.Invariant

/-!
# Pins last

The pinned tier is a map that only pins change, and a pin changes it only if it succeeds.
`PointSet.pinnings` lists the pins of a run that succeed, each with the linkage that the linker gave for
it; `PointSet.pinned?_play` says that the tier is this list read from its end, whatever lookups, evictions
and failed pins stand in between.

`pins_eq_latest` draws the consequences for what a point set answers, for what it saves and for its
counters. That the egress costs of a pinned linkage are known is an invariant of the store and the world
together (`PointSet.Costed`): a table is computed before its linkage is pinned, and none is ever lost.
-/

namespace StreetLinkage

/-! ### Lists of keys and values, read from the end -/

section Lists

variable {κ ν : Type} [DecidableEq κ]

/-- The value that stands last under a key. -/
def latest? (entries : List (κ × ν)) (key : κ) : Option ν := entries.reverse.lookup key

theorem latest?_append (entries more : List (κ × ν)) (key : κ) :
    latest? (entries ++ more) key = (latest? more key).or (latest? entries key) := by
  rw [latest?, List.reverse_append, List.lookup_append]
  rfl

theorem isSome_lookup_iff {entries : List (κ × ν)} {key : κ} :
    (entries.lookup key).isSome = true ↔ key ∈ entries.map Prod.fst :=
  Recency.contains_iff_mem_keys (r := ⟨entries⟩)

theorem isSome_latest?_iff {entries : List (κ × ν)} {key : κ} :
    (latest? entries key).isSome = true ↔ key ∈ entries.map Prod.fst := by
  rw [latest?, isSome_lookup_iff, List.map_reverse, List.mem_reverse]

/-- If each key stands once, the values are what the keys give. -/
theorem map_some_eq_map_lookup {entries : List (κ × ν)} (h : (entries.map Prod.fst).Nodup) :
    (entries.map Prod.snd).map some = (entries.map Prod.fst).map fun key => entries.lookup key := by
  induction entries with
  | nil => rfl
  | cons entry rest ih =>
      obtain ⟨hnot, hrest⟩ := List.nodup_cons.mp h
      have hothers : (rest.map Prod.fst).map (fun key => (entry :: rest).lookup key) =
          (rest.map Prod.fst).map fun key => rest.lookup key := by
        refine List.map_congr_left fun key hkey => ?_
        have hne : key ≠ entry.1 := fun heq => hnot (heq ▸ hkey)
        rw [List.lookup_cons, beq_eq_false_iff_ne.mpr hne]
      rw [List.map_cons, List.map_cons, List.map_cons, List.map_cons, hothers, ← ih hrest,
        List.lookup_cons_self]

end Lists

/-! ### What an operation pins -/

/-- The linkage of a pin with this result and these calls of the linker, if it succeeded. -/
def pinOutcome? (result : Except LinkageError Unit) (calls : List LinkCall) : Option Linkage :=
  match result with
  | .ok () => calls.getLast?.bind LinkCall.linkage?
  | .error _ => none

namespace PointSet

variable {σ ρ : Type} [PointAccess ρ]

/-- What an operation pins: the key and the linkage of a pin that succeeds. -/
def pinning? (f : Forest) (op : Operation) (p : PointSet σ ρ) (w : World σ) :
    Option (LinkageKey × Linkage) :=
  match op with
  | .pin key => (pinOutcome? (p.pinLinkage key w).1 (p.calls f (.pin key) w)).map (key, ·)
  | _ => none

/-- The pins of a run that succeed, the oldest first. -/
def pinnings (f : Forest) : List Operation → PointSet σ ρ → World σ → List (LinkageKey × Linkage)
  | [], _, _ => []
  | op :: ops, p, w =>
      (p.pinning? f op w).toList ++ pinnings f ops (p.perform f op w).1 (p.perform f op w).2

end PointSet

section Operations

open Scene

variable {σ : Type} {f : Forest} {L : Linker σ} {owner : PointSetId} {key k : LinkageKey}
  {base : Option Linkage} {s s' : Scene σ} {acts : List Act} {l : Linkage}

/-- A pin that succeeds pins what the linker gave; one that fails leaves the store alone. -/
theorem Pin.store_eq {r : Except LinkageError Unit} (h : Pin L owner key s acts r s') :
    s'.store = (pinOutcome? r (callsOf acts)).elim s.store (s.store.pin key) := by
  cases h <;> rfl

/-- A pin gives a linkage to pin if and only if it succeeds. -/
theorem Pin.isSome_pinOutcome?_iff {r : Except LinkageError Unit} (h : Pin L owner key s acts r s') :
    (pinOutcome? r (callsOf acts)).isSome = true ↔ r = .ok () := by
  cases h with
  | refused hrefuse => exact iff_of_false Bool.false_ne_true nofun
  | failed hrefuse hlink => exact iff_of_false Bool.false_ne_true nofun
  | foreign hrefuse hlink hl => exact iff_of_false Bool.false_ne_true nofun
  | costsFailed hrefuse hlink hl hcosts => exact iff_of_false Bool.false_ne_true nofun
  | pinned hrefuse hlink hl hcosts => exact iff_of_true rfl rfl

/-- A level asks once, for its key and from the linkage of its base. -/
theorem Made.exists_call_for {r : Except LinkageError Linkage} (h : Made L owner key base s acts r s') :
    ∃ c, callsOf acts = [c] ∧ c.key = key ∧ c.base? = base := by
  obtain ⟨c, hcalls, hrequest, -⟩ := h.exists_call
  exact ⟨c, hcalls, congrArg LinkRequest.key hrequest, congrArg LinkRequest.base hrequest⟩

/-- **A pin is what lookups start from.** As long as a key is pinned no lookup asks the linker for it, and
a lookup that asks for a copy of its network starts from the pinned linkage. -/
theorem Lookup.calls_of_pinned {r : Except LinkageError Linkage}
    (h : Lookup f L owner key s acts r s') (hl : s.store.pinned? k = some l) :
    ∀ c ∈ callsOf acts, c.key ≠ k ∧ (c.key.base? f = some k → c.base? = some l) := by
  -- A key that no tier holds is not the pinned one.
  have hother : ∀ {key : LinkageKey} {s : Scene σ}, s.store.held? key = none →
      s.store.pinned? k = some l → key ≠ k := by
    rintro key s hheld hl rfl
    rw [LinkageStore.held?_of_pinned hl] at hheld
    cases hheld
  induction h with
  | pinned hp => simp
  | bounded hp hb => simp
  | root hheld hbase hmade =>
      obtain ⟨c, hcalls, hkey, -⟩ := hmade.exists_call_for
      intro d hd
      rw [hcalls, List.mem_singleton] at hd
      rw [hd, hkey, hbase]
      exact ⟨hother hheld hl, fun hk => by cases hk⟩
  | baseFailed hheld hbase hlookup ih =>
      rw [callsOf_append_failed]
      exact ih hl
  | derived hheld hbase hlookup hmade ih =>
      obtain ⟨c, hcalls, hkey, hfrom⟩ := hmade.exists_call_for
      intro d hd
      rw [callsOf_append, hcalls] at hd
      rcases List.mem_append.mp hd with hd | hd
      · exact ih hl d hd
      · rw [List.mem_singleton] at hd
        rw [hd, hkey, hfrom, hbase]
        refine ⟨hother hheld hl, fun hk => ?_⟩
        cases hk
        obtain ⟨hresult, -⟩ := hlookup.of_held (LinkageStore.held?_of_pinned hl)
        exact congrArg some (Except.ok.inj hresult)

end Operations

/-! ### The pinned tier along a run -/

namespace PointSet

variable {σ ρ : Type} [PointAccess ρ] {f : Forest} {p : PointSet σ ρ}

/-- An operation pins something if and only if it is a pin that succeeds. -/
theorem isSome_pinning?_iff (hp : Reachable f p) {op : Operation} {w : World σ} :
    (p.pinning? f op w).isSome = true ↔ ∃ key, op = .pin key ∧ (p.pinLinkage key w).1 = .ok () := by
  cases op with
  | pin key =>
      obtain ⟨s', hpin, -⟩ := pin_derivation f key p w
      rw [pinning?, calls_eq hp.ownedBy, Option.isSome_map, hpin.isSome_pinOutcome?_iff]
      exact ⟨fun hok => ⟨key, rfl, hok⟩, fun ⟨_, hkey, hok⟩ => by cases hkey; exact hok⟩
  | get key => exact iff_of_false Bool.false_ne_true nofun
  | peek key => exact iff_of_false Bool.false_ne_true nofun
  | index => exact iff_of_false Bool.false_ne_true nofun
  | query a b => exact iff_of_false Bool.false_ne_true nofun

/-- Only what an operation pins changes the pinned tier. -/
theorem pins_perform (hp : Reachable f p) (op : Operation) (w : World σ) :
    (p.perform f op w).1.store.pins =
      ((p.pinning? f op w).elim p.store fun pinned => p.store.pin pinned.1 pinned.2).pins := by
  cases op with
  | get key =>
      obtain ⟨s', hlookup, hstate⟩ := lookup_derivation f key hp.ownedBy w
      rw [perform, hstate]
      exact hlookup.frame.1
  | pin key =>
      obtain ⟨s', hpin, hstate⟩ := pin_derivation f key p w
      rw [perform, hstate, pinning?, calls_eq hp.ownedBy]
      show s'.store.pins = _
      rw [hpin.store_eq]
      cases pinOutcome? (p.pinLinkage key w).1 (callsOf (p.acts f (.pin key) w)) <;> rfl
  | peek key =>
      rcases store_perform_peek f key p w with hsame | htouch
      · rw [hsame]
        rfl
      · rw [htouch]
        rfl
  | index => exact congrArg LinkageStore.pins (store_perform_index f p w)
  | query a b => exact congrArg LinkageStore.pins (store_perform_query f a b p w)

theorem pinned?_perform (hp : Reachable f p) (op : Operation) (w : World σ) (key : LinkageKey) :
    (p.perform f op w).1.store.pinned? key =
      (latest? (p.pinning? f op w).toList key).or (p.store.pinned? key) := by
  rw [LinkageStore.pinned?, pins_perform hp]
  cases p.pinning? f op w with
  | none => rfl
  | some pinned =>
      obtain ⟨k, l⟩ := pinned
      refine (LinkageStore.pinned?_pin p.store k key l).trans ?_
      by_cases hkey : key = k
      · simp [latest?, hkey]
      · simp [latest?, List.lookup_cons, beq_eq_false_iff_ne.mpr hkey, hkey]

/-- **The pinned tier is the list of pins, read from its end.** -/
theorem pinned?_play (hp : Reachable f p) (ops : List Operation) (w : World σ) (key : LinkageKey) :
    (p.play f ops w).1.store.pinned? key =
      (latest? (p.pinnings f ops w) key).or (p.store.pinned? key) := by
  induction ops generalizing p w with
  | nil => rfl
  | cons op ops ih =>
      rw [play, ih (hp.perform op w), pinned?_perform hp, pinnings, latest?_append, Option.or_assoc]

/-- A pinned key stays pinned. -/
theorem isSome_pinned?_play (hp : Reachable f p) (ops : List Operation) (w : World σ)
    {key : LinkageKey} (h : (p.store.pinned? key).isSome = true) :
    ((p.play f ops w).1.store.pinned? key).isSome = true := by
  rw [pinned?_play hp, Option.isSome_or, h, Bool.or_true]

end PointSet

theorem LinkageStore.invariant_pins :
    LinkageStore.Invariant fun s => (s.pins.map Prod.fst).Nodup where
  congr hs _ hp _ := hp ▸ hs
  touch _ hs := hs
  insert _ _ hs := hs
  invalidate _ hs := hs
  pin l _ hs := Recency.nodup_keys_push (r := ⟨_⟩) hs _ l

theorem Reachable.nodup_pins {σ ρ : Type} [PointAccess ρ] {f : Forest} {p : PointSet σ ρ}
    (hp : Reachable f p) : (p.store.pins.map Prod.fst).Nodup :=
  hp.holds LinkageStore.invariant_pins fun _ => List.nodup_nil

/-! ### Egress costs of what is pinned -/

/-- Computing a table loses no table, and if it succeeds the table is kept. -/
theorem World.costed_egressTable {σ : Type} {L : Linker σ} {l : Linkage} {w w' : World σ}
    {outcome : Except BuildError EgressTable} (h : w.egressTable L l = (outcome, w')) :
    (∀ m, (w.tables.get? m).isSome = true → (w'.tables.get? m).isSome = true) ∧
      ∀ table, outcome = .ok table → w'.tables.get? l = some table := by
  unfold World.egressTable at h
  cases hkept : w.tables.get? l with
  | some table =>
      rw [hkept] at h
      cases h
      exact ⟨fun m hm => hm, fun table htable => Except.ok.inj htable ▸ hkept⟩
  | none =>
      rw [hkept] at h
      rcases hcosts : L.egressCosts l (l.base?.bind w.tables.get?) w.memory with ⟨e | table, memory⟩
      · simp only [hcosts] at h
        cases h
        exact ⟨fun m hm => hm, fun table htable => by cases htable⟩
      · simp only [hcosts] at h
        cases h
        refine ⟨fun m hm => ?_, fun t ht => ?_⟩
        · rw [EgressLedger.get?_record]
          split
          · rfl
          · exact hm
        · rw [EgressLedger.get?_record, if_pos rfl]
          exact congrArg some (Except.ok.inj ht)

section Costs

open Scene

variable {σ : Type} {f : Forest} {L : Linker σ} {owner : PointSetId} {key : LinkageKey}
  {base : Option Linkage} {s s' : Scene σ} {acts : List Act}

theorem Made.tables_eq {r : Except LinkageError Linkage} (h : Made L owner key base s acts r s') :
    s'.world.tables = s.world.tables := by
  cases h <;> rfl

/-- A lookup leaves the tables alone. -/
theorem Lookup.tables_eq {r : Except LinkageError Linkage} (h : Lookup f L owner key s acts r s') :
    s'.world.tables = s.world.tables := by
  induction h with
  | pinned hp => rfl
  | bounded hp hb => rfl
  | root hheld hbase hmade => exact hmade.tables_eq
  | baseFailed hheld hbase hlookup ih => exact ih
  | derived hheld hbase hlookup hmade ih => exact hmade.tables_eq.trans ih

/-- A pin loses no table, and if it succeeds the table of its linkage is kept. -/
theorem Pin.costed {r : Except LinkageError Unit} (h : Pin L owner key s acts r s') :
    (∀ m, (s.world.tables.get? m).isSome = true → (s'.world.tables.get? m).isSome = true) ∧
      ∀ l, pinOutcome? r (callsOf acts) = some l → (s'.world.tables.get? l).isSome = true := by
  cases h with
  | refused hrefuse => exact ⟨fun m hm => hm, fun l hl => by cases hl⟩
  | failed hrefuse hlink => exact ⟨fun m hm => hm, fun l hl => by cases hl⟩
  | foreign hrefuse hlink hl => exact ⟨fun m hm => hm, fun l hl => by cases hl⟩
  | costsFailed hrefuse hlink hl hcosts =>
      exact ⟨(World.costed_egressTable hcosts).1, fun l hl => by cases hl⟩
  | @pinned l memory table world hrefuse hlink hl hcosts =>
      obtain ⟨hkeep, htable⟩ := World.costed_egressTable hcosts
      refine ⟨hkeep, fun m hm => ?_⟩
      obtain rfl : l = m := Option.some.inj hm
      show (world.tables.get? l).isSome = true
      rw [htable table rfl]
      rfl

end Costs

namespace PointSet

variable {σ ρ : Type} [PointAccess ρ] {f : Forest} {p : PointSet σ ρ} {w : World σ}

/-- The world knows the egress costs of each pinned linkage. -/
def Costed (p : PointSet σ ρ) (w : World σ) : Prop :=
  ∀ entry ∈ p.store.pins, (w.tables.get? entry.2).isSome = true

theorem tables_spatialIndex (p : PointSet σ ρ) (w : World σ) :
    (p.spatialIndex w).2.2.tables = w.tables := by
  unfold spatialIndex
  split
  · rfl
  · split <;> rfl

/-- An operation loses no table, and it pins no linkage whose table is not kept. -/
theorem tables_perform (hp : Reachable f p) (op : Operation) (w : World σ) :
    (∀ m, (w.tables.get? m).isSome = true → ((p.perform f op w).2.tables.get? m).isSome = true) ∧
      ∀ pinned, p.pinning? f op w = some pinned →
        ((p.perform f op w).2.tables.get? pinned.2).isSome = true := by
  cases op with
  | get key =>
      obtain ⟨s', hlookup, hstate⟩ := lookup_derivation f key hp.ownedBy w
      rw [perform, hstate]
      exact ⟨fun m hm => hlookup.tables_eq ▸ hm, fun _ hpinned => by cases hpinned⟩
  | pin key =>
      obtain ⟨s', hpin, hstate⟩ := pin_derivation f key p w
      rw [perform, hstate, pinning?, calls_eq hp.ownedBy]
      refine ⟨hpin.costed.1, fun pinned hpinned => ?_⟩
      obtain ⟨l, hl, rfl⟩ := Option.map_eq_some_iff.mp hpinned
      exact hpin.costed.2 l hl
  | peek key => exact ⟨fun m hm => hm, fun _ hpinned => by cases hpinned⟩
  | index => exact ⟨fun m hm => (p.tables_spatialIndex w).symm ▸ hm, fun _ hpinned => by cases hpinned⟩
  | query a b =>
      rw [show p.perform f (.query a b) w = p.perform f .index w from pointsInEnvelope_snd a b p w]
      exact ⟨fun m hm => (p.tables_spatialIndex w).symm ▸ hm, fun _ hpinned => by cases hpinned⟩

theorem costed_perform (hp : Reachable f p) (h : p.Costed w) (op : Operation) :
    (p.perform f op w).1.Costed (p.perform f op w).2 := by
  obtain ⟨hkeep, hpinned⟩ := tables_perform hp op w
  intro entry hentry
  rw [pins_perform hp] at hentry
  cases hpin : p.pinning? f op w with
  | none =>
      rw [hpin] at hentry
      exact hkeep entry.2 (h entry hentry)
  | some pinned =>
      rw [hpin] at hentry
      rcases List.mem_cons.mp hentry with rfl | hentry
      · exact hpinned pinned hpin
      · exact hkeep entry.2 (h entry (List.mem_filter.mp hentry).1)

theorem costed_play (hp : Reachable f p) (h : p.Costed w) (ops : List Operation) :
    (p.play f ops w).1.Costed (p.play f ops w).2 := by
  induction ops generalizing p w with
  | nil => exact h
  | cons op ops ih => exact ih (hp.perform op w) (costed_perform hp h op)

end PointSet

/-- What a point set answers for a key as long as it is pinned. -/
structure PointSet.AnswersPinned {σ ρ : Type} [PointAccess ρ] (f : Forest) (p : PointSet σ ρ)
    (key : LinkageKey) (l : Linkage) (w : World σ) : Prop where
  /-- A lookup answers with the pinned linkage, ... -/
  getLinkage : (p.getLinkage f key w).1 = .ok l
  /-- ... asks the linker for nothing ... -/
  calls : p.calls f (.get key) w = []
  /-- ... and leaves the bounded tier as it is, with its order. -/
  bounded_get : (p.perform f (.get key) w).1.store.bounded = p.store.bounded
  /-- So does a look without a build. -/
  linkageIfPresent : (p.linkageIfPresent key).1 = some l
  bounded_peek : (p.perform f (.peek key) w).1.store.bounded = p.store.bounded
  /-- Lookups of other keys ask for nothing under this one and start from the pinned linkage. -/
  nested : ∀ other, ∀ c ∈ p.calls f (.get other) w,
    c.key ≠ key ∧ (c.key.base? f = some key → c.base? = some l)

theorem PointSet.answersPinned {σ ρ : Type} [PointAccess ρ] {f : Forest} {p : PointSet σ ρ}
    (hp : Reachable f p) {key : LinkageKey} {l : Linkage} (hl : p.store.pinned? key = some l) (w : World σ) :
    p.AnswersPinned f key l w := by
  have hown := hp.ownedBy
  have hheld := LinkageStore.held?_of_pinned hl
  obtain ⟨s', hlookup, -⟩ := lookup_derivation f key hown w
  obtain ⟨hresult, hcalls⟩ := hlookup.of_held hheld
  obtain ⟨hget, hpeek⟩ := bounded_perform_of_pinned (f := f) hown hl w
  refine ⟨hresult, (calls_eq hown f (.get key) w).trans hcalls, hget, ?_, hpeek, ?_⟩
  · exact (LinkageStore.get_fst p.store key).trans hheld
  · intro other c hc
    obtain ⟨t, hother, -⟩ := lookup_derivation f other hown w
    rw [calls_eq hown] at hc
    exact hother.calls_of_pinned hl c hc

/-- The pinned keys of a reachable state are those that the run pinned, each once. -/
theorem PointSet.pins_keys_perm {σ ρ : Type} [PointAccess ρ] {f : Forest} {p : PointSet σ ρ}
    (hp : Reachable f p) (hempty : p.store.pins = []) (ops : List Operation) (w : World σ) :
    ((p.play f ops w).1.store.pins.map Prod.fst).Perm ((p.pinnings f ops w).map Prod.fst).dedup := by
  refine (List.perm_ext_iff_of_nodup (hp.play ops w).nodup_pins (List.nodup_dedup _)).mpr fun key => ?_
  have hpinned := pinned?_play hp ops w key
  rw [LinkageStore.pinned?, LinkageStore.pinned?, hempty, List.lookup_nil, Option.or_none] at hpinned
  rw [List.mem_dedup, ← isSome_lookup_iff, ← isSome_latest?_iff, hpinned]

/-- **Pins last.** After any run of a new point set, whatever the linker does, the pinned tier gives for
each key the linkage of its latest pin that succeeded, and nothing for a key without one.

As long as that is so the point set answers for the key with that linkage (`PointSet.AnswersPinned`). What
is saved are these linkages, one for each key that was pinned with success; the counter of pinned entries
is their number and never shrinks later; and the egress costs of each of them are known. -/
theorem pins_eq_latest {σ ρ : Type} [PointAccess ρ] (f : Forest) (id : PointSetId) (source : ρ)
    (linker : Linker σ) (config : CacheConfig) (ops : List Operation) (w : World σ) :
    let p := PointSet.new id source linker config
    let q := (p.play f ops w).1
    let pinnings := p.pinnings f ops w
    let keys := (pinnings.map Prod.fst).dedup
    (∀ key, q.store.pinned? key = latest? pinnings key) ∧
      (∀ key l, latest? pinnings key = some l → ∀ w', q.AnswersPinned f key l w') ∧
      (q.persistedLinkages.map some).Perm (keys.map (latest? pinnings)) ∧
      q.cacheStats.pinnedEntries = keys.length ∧
      (∀ more w', q.cacheStats.pinnedEntries ≤ (q.play f more w').1.cacheStats.pinnedEntries) ∧
      ∀ l ∈ q.persistedLinkages, ((p.play f ops w).2.tables.get? l).isSome = true := by
  intro p q pinnings keys
  have hnew : Reachable f p := .new id source linker config
  have hq : Reachable f q := hnew.play ops w
  have hmap : ∀ key, q.store.pinned? key = latest? pinnings key := fun key =>
    (PointSet.pinned?_play hnew ops w key).trans (Option.or_none ..)
  have hkeys : (q.store.pins.map Prod.fst).Perm keys := PointSet.pins_keys_perm hnew rfl ops w
  refine ⟨hmap, ?_, ?_, ?_, ?_, ?_⟩
  · intro key l hl w'
    exact PointSet.answersPinned hq ((hmap key).trans hl) w'
  · have hsaved : q.persistedLinkages.map some =
        (q.store.pins.map Prod.fst).map fun key => q.store.pinned? key :=
      map_some_eq_map_lookup hq.nodup_pins
    rw [hsaved, funext hmap]
    exact hkeys.map _
  · have hlength := hkeys.length_eq
    rw [List.length_map] at hlength
    exact hlength
  · intro more w'
    have hsub : q.store.pins.map Prod.fst ⊆ (q.play f more w').1.store.pins.map Prod.fst := by
      intro key hkey
      rw [← isSome_lookup_iff] at hkey ⊢
      exact PointSet.isSome_pinned?_play hq more w' hkey
    have hle := (hq.nodup_pins.subperm hsub).length_le
    rw [List.length_map, List.length_map] at hle
    exact hle
  · intro l hl
    obtain ⟨entry, hentry, rfl⟩ := List.mem_map.mp hl
    have hnone : p.Costed w := by simp [PointSet.Costed, p, PointSet.new]
    exact PointSet.costed_play hnew hnone ops entry hentry

/-- The city was linked before it is pinned; two more pins of it fail, and the lookup of the tram displaces
the first linkage. The pin that succeeded stays in force. -/
theorem pins_eq_latest_after_failures :
    let f := Forest.ofList [("city", none), ("tram", some 0)]
    let p := PointSet.new 7 (PointSource.freeForm []) Linker.scripted { capacity := 1 }
    let ops := [.get ⟨0, .walk⟩, .pin ⟨0, .walk⟩, .pin ⟨0, .walk⟩, .pin ⟨0, .walk⟩, .get ⟨1, .walk⟩]
    let w := World.withTurns [.own, .own, .fail, .foreign, .own]
    let q := (p.play f ops w).1
    let city := Linkage.fresh ⟨1, 7, ⟨0, .walk⟩, 0⟩
    latest? (p.pinnings f ops w) ⟨0, .walk⟩ = some city ∧ q.store.bounded.keys = [⟨1, .walk⟩] ∧
      q.AnswersPinned f ⟨0, .walk⟩ city (.withTurns [.fail]) := by
  intro f p ops w q city
  have hlatest : latest? (p.pinnings f ops w) ⟨0, .walk⟩ = some city := by decide
  have hpins := pins_eq_latest f 7 (PointSource.freeForm []) Linker.scripted { capacity := 1 } ops w
  exact ⟨hlatest, by decide, hpins.2.1 _ _ hlatest _⟩

end StreetLinkage
