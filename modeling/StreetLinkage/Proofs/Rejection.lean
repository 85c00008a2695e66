import StreetLinkage.Proofs.Durability

/-!
# Refusing double builds

With the policy to refuse them, a pin fails if its key is in a tier and asks the linker for nothing. This
keeps the tiers apart: a pin meets a key that no tier holds, and so does a lookup that takes a linkage in,
since the lookup of its base cannot bring the key itself in. So a key is pinned once, and what it gives
does not change any more.

Under the other policy the tiers do not stay apart: a pin may leave an older linkage of its key in the
bounded tier.
-/

namespace StreetLinkage

namespace LinkageStore

/-- No key is in both tiers. -/
def Apart (s : LinkageStore) : Prop :=
  ∀ key, s.pinned? key = none ∨ s.bounded.find? key = none

variable {s : LinkageStore} {key : LinkageKey}

theorem Apart.insert (h : s.Apart) (hheld : s.held? key = none) (l : Linkage) :
    (s.insert key l).Apart := by
  intro other
  by_cases hkey : other = key
  · exact Or.inl (hkey ▸ (held?_eq_none_iff.mp hheld).1)
  · exact (h other).imp_right fun hnone => Recency.find?_insert_eq_none hkey hnone

/-- The policy lets pass what no tier holds. -/
theorem refuses_eq_false_iff (hpolicy : s.config.doubleBuild = .reject) :
    s.refuses key = false ↔ s.held? key = none := by
  rw [← contains_eq_false_iff]
  simp [refuses, hpolicy]

/-- What the policy lets through is in no tier, so it cannot get into the second one. -/
theorem Apart.pin (h : s.Apart) (hpolicy : s.config.doubleBuild = .reject)
    (hrefuse : s.refuses key = false) (l : Linkage) : (s.pin key l).Apart := by
  have hheld := (refuses_eq_false_iff hpolicy).mp hrefuse
  intro other
  by_cases hkey : other = key
  · exact Or.inr (hkey ▸ (held?_eq_none_iff.mp hheld).2)
  · refine (h other).imp_left fun hnone => ?_
    rw [pinned?_pin, if_neg hkey, hnone]

theorem invariant_apart :
    LinkageStore.Invariant fun s => s.config.doubleBuild = .reject → s.Apart where
  congr hs hc hp hb hpolicy key := by
    rw [pinned?, hp, hb]
    exact hs (hc ▸ hpolicy) key
  touch key hs hpolicy other :=
    (hs hpolicy other).imp_right fun hnone => (Recency.find?_touch ..).trans hnone
  insert l hheld hs hpolicy := (hs hpolicy).insert hheld l
  invalidate key hs hpolicy other := by
    refine (hs hpolicy other).imp_right fun hnone => (Recency.find?_erase ..).trans ?_
    rw [hnone, ite_self]
  pin l hrefuse hs hpolicy := (hs hpolicy).pin hpolicy hrefuse l

end LinkageStore

theorem Reachable.apart {σ ρ : Type} [PointAccess ρ] {f : Forest} {p : PointSet σ ρ} (hp : Reachable f p)
    (hpolicy : p.store.config.doubleBuild = .reject) : p.store.Apart :=
  hp.holds LinkageStore.invariant_apart (fun _ _ _ => Or.inl rfl) hpolicy

/-! ### Pins that are refused -/

section Pins

variable {σ : Type} {L : Linker σ} {owner : PointSetId} {key : LinkageKey} {s s' : Scene σ}
  {acts : List Act} {r : Except LinkageError Unit}

theorem Pin.of_refused (h : Pin L owner key s acts r s') (hrefuse : s.store.refuses key = true) :
    r = .error (.doubleBuild key) := by
  cases h with
  | refused hrefuse => rfl
  | failed hnot hlink => rw [hrefuse] at hnot; cases hnot
  | foreign hnot hlink hl => rw [hrefuse] at hnot; cases hnot
  | costsFailed hnot hlink hl hcosts => rw [hrefuse] at hnot; cases hnot
  | pinned hnot hlink hl hcosts => rw [hrefuse] at hnot; cases hnot

/-- A double build is found before anything is done. -/
theorem Pin.of_doubleBuild {k : LinkageKey} (h : Pin L owner key s acts r s')
    (hr : r = .error (.doubleBuild k)) : s.store.refuses key = true ∧ k = key ∧ acts = [] := by
  cases h <;> cases hr
  exact ⟨‹_›, rfl, rfl⟩

/-- A pin that succeeds was not refused. -/
theorem Pin.not_refused (h : Pin L owner key s acts (.ok ()) s') : s.store.refuses key = false := by
  cases h
  assumption

end Pins

/-! ### Along a run -/

namespace PointSet

variable {σ ρ : Type} {f : Forest} {p : PointSet σ ρ}

/-- A pin fails as a double build if and only if its key is in a tier. -/
theorem doubleBuild_iff (hpolicy : p.store.config.doubleBuild = .reject) (key : LinkageKey)
    (w : World σ) :
    (∃ k, (p.pinLinkage key w).1 = .error (.doubleBuild k)) ↔
      p.store.pinned? key ≠ none ∨ p.store.bounded.find? key ≠ none := by
  have hpin : Pin p.linker p.id key (p.scene w) _ (p.pinLinkage key w).1 _ := pin_pinLinkage ..
  rw [← not_and_or, ← LinkageStore.held?_eq_none_iff, ← LinkageStore.refuses_eq_false_iff hpolicy,
    Bool.not_eq_false]
  constructor
  · rintro ⟨k, hk⟩
    exact (hpin.of_doubleBuild hk).1
  · intro hrefuse
    exact ⟨key, hpin.of_refused hrefuse⟩

variable [PointAccess ρ]

/-- The error names the key, and the linker was not asked. -/
theorem of_doubleBuild (hp : Reachable f p) {key k : LinkageKey} {w : World σ}
    (h : (p.pinLinkage key w).1 = .error (.doubleBuild k)) :
    k = key ∧ p.calls f (.pin key) w = [] := by
  obtain ⟨s', hpin, -⟩ := pin_derivation f key p w
  obtain ⟨-, hkey, hacts⟩ := hpin.of_doubleBuild h
  rw [calls_eq hp.ownedBy, hacts]
  exact ⟨hkey, rfl⟩

/-- What an operation pins was not pinned before. -/
theorem pinned?_eq_none_of_pinning? (hp : Reachable f p)
    (hpolicy : p.store.config.doubleBuild = .reject) {op : Operation} {w : World σ}
    {pinned : LinkageKey × Linkage} (h : p.pinning? f op w = some pinned) :
    p.store.pinned? pinned.1 = none := by
  obtain ⟨key, rfl, hok⟩ := (isSome_pinning?_iff hp).mp (Option.isSome_of_eq_some h)
  obtain ⟨l, -, rfl⟩ := Option.map_eq_some_iff.mp h
  obtain ⟨s', hpin, -⟩ := pin_derivation f key p w
  rw [hok] at hpin
  have hheld := (LinkageStore.refuses_eq_false_iff hpolicy).mp hpin.not_refused
  exact (LinkageStore.held?_eq_none_iff.mp hheld).1

/-- What a run pins was not pinned when it began. -/
theorem pinned?_eq_none_of_mem_pinnings (hp : Reachable f p)
    (hpolicy : p.store.config.doubleBuild = .reject) {ops : List Operation} {w : World σ} :
    ∀ pinned ∈ p.pinnings f ops w, p.store.pinned? pinned.1 = none := by
  induction ops generalizing p w with
  | nil => exact nofun
  | cons op ops ih =>
      intro pinned hpinned
      rcases List.mem_append.mp hpinned with hnow | hlater
      · exact pinned?_eq_none_of_pinning? hp hpolicy (Option.mem_toList.mp hnow)
      · have hnext := ih (hp.perform op w) (config_perform hp op w ▸ hpolicy) pinned hlater
        rw [pinned?_perform hp] at hnext
        exact (Option.or_eq_none_iff.mp hnext).2

/-- **A run pins each key once.** -/
theorem nodup_pinnings (hp : Reachable f p) (hpolicy : p.store.config.doubleBuild = .reject)
    (ops : List Operation) (w : World σ) : ((p.pinnings f ops w).map Prod.fst).Nodup := by
  induction ops generalizing p w with
  | nil => exact List.nodup_nil
  | cons op ops ih =>
      have hnext : (p.perform f op w).1.store.config.doubleBuild = .reject :=
        config_perform hp op w ▸ hpolicy
      have hrest := ih (hp.perform op w) hnext (p.perform f op w).2
      cases hnow : p.pinning? f op w with
      | none =>
          rw [pinnings, hnow]
          exact hrest
      | some pinned =>
          rw [pinnings, hnow]
          refine List.nodup_cons.mpr ⟨fun hmem => ?_, hrest⟩
          -- The rest of the run starts with the key pinned, so it does not pin it.
          obtain ⟨again, hagain, hkey⟩ := List.mem_map.mp hmem
          have hnone := pinned?_eq_none_of_mem_pinnings (hp.perform op w) hnext again hagain
          rw [pinned?_perform hp, hnow, hkey] at hnone
          simp [latest?] at hnone

/-- A pinned key keeps its linkage. -/
theorem pinned?_play_of_reject (hp : Reachable f p)
    (hpolicy : p.store.config.doubleBuild = .reject) {key : LinkageKey} {l : Linkage}
    (hl : p.store.pinned? key = some l) (ops : List Operation) (w : World σ) :
    (p.play f ops w).1.store.pinned? key = some l := by
  have hnever : latest? (p.pinnings f ops w) key = none := by
    rw [← Option.not_isSome_iff_eq_none, isSome_latest?_iff]
    intro hmem
    obtain ⟨again, hagain, rfl⟩ := List.mem_map.mp hmem
    rw [pinned?_eq_none_of_mem_pinnings hp hpolicy again hagain] at hl
    cases hl
  rw [pinned?_play hp, hnever, hl]
  rfl

end PointSet

/-- **Refusing double builds keeps the tiers apart.** After any run of a new point set with the policy to
refuse, whatever the linker does: no key is in both tiers; a pin fails as a double build if and only if
its key is in one of the tiers at that time, with an error of that key and without asking the linker; and
the run pinned each key once at most, so that a key once pinned answers with the same linkage ever
after. -/
theorem tiers_disjoint_of_reject {σ ρ : Type} [PointAccess ρ] (f : Forest) (id : PointSetId) (source : ρ)
    (linker : Linker σ) (config : CacheConfig) (hpolicy : config.doubleBuild = .reject)
    (ops : List Operation) (w : World σ) :
    let p := PointSet.new id source linker config
    let q := (p.play f ops w).1
    (∀ key, q.store.pinned? key = none ∨ q.store.bounded.find? key = none) ∧
      (∀ key w', (∃ k, (q.pinLinkage key w').1 = .error (.doubleBuild k)) ↔
        q.store.pinned? key ≠ none ∨ q.store.bounded.find? key ≠ none) ∧
      (∀ key w' k, (q.pinLinkage key w').1 = .error (.doubleBuild k) →
        k = key ∧ q.calls f (.pin key) w' = []) ∧
      ((p.pinnings f ops w).map Prod.fst).Nodup ∧
      ∀ key l, q.store.pinned? key = some l → ∀ more w' w'',
        (q.play f more w').1.AnswersPinned f key l w'' := by
  intro p q
  have hnew : Reachable f p := .new id source linker config
  have hq : Reachable f q := hnew.play ops w
  have hconfig : q.store.config.doubleBuild = .reject := PointSet.config_play hnew ops w ▸ hpolicy
  refine ⟨hq.apart hconfig, PointSet.doubleBuild_iff hconfig, ?_, ?_, ?_⟩
  · intro key w' k hk
    exact PointSet.of_doubleBuild hq hk
  · exact PointSet.nodup_pinnings hnew hpolicy ops w
  · intro key l hl more w' w''
    have hstays := PointSet.pinned?_play_of_reject hq hconfig hl more w'
    exact PointSet.answersPinned (hq.play more w') hstays w''

/-- The city is linked, so it cannot be pinned until the tram displaces it; then it can, and not again. -/
theorem tiers_disjoint_of_reject_after_displacement :
    let f := Forest.ofList [("city", none), ("tram", some 0)]
    let p := PointSet.new 7 (PointSource.freeForm []) Linker.scripted
      { capacity := 1, doubleBuild := .reject }
    let ops := [.get ⟨1, .walk⟩, .pin ⟨1, .walk⟩, .pin ⟨0, .walk⟩, .pin ⟨0, .walk⟩]
    let w := World.withTurns []
    let q := (p.play f ops w).1
    let city := Linkage.fresh ⟨2, 7, ⟨0, .walk⟩, 0⟩
    p.pinnings f ops w = [(⟨0, .walk⟩, city)] ∧ q.store.bounded.keys = [⟨1, .walk⟩] ∧
      (∃ k, (q.pinLinkage ⟨1, .walk⟩ (.withTurns [])).1 = .error (.doubleBuild k)) ∧
      ∀ more w' w'', (q.play f more w').1.AnswersPinned f ⟨0, .walk⟩ city w'' := by
  intro f p ops w q city
  obtain ⟨-, hrefused, -, -, hstays⟩ :=
    tiers_disjoint_of_reject f 7 (PointSource.freeForm []) Linker.scripted
      { capacity := 1, doubleBuild := .reject } rfl ops w
  exact ⟨by decide, by decide, (hrefused _ _).mpr (by decide), hstays _ _ (by decide)⟩

end StreetLinkage
