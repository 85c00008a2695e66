import StreetLinkage.Proofs.Freshness

/-!
# Linkages mirror the networks

A linkage remembers the linkage that it was derived from, and that one its own base in turn. If the linker
does as it is asked (`Linker.Faithful`), these memories follow the networks: the base of a linkage is one
of the base network, up to a network without a base, or to a pinned linkage, which is made from nothing.

`Mirrors` says this of one linkage, with one rule for each way in which a linkage is made. It holds of
each entry of both tiers, and it is about the linkage alone: a linkage is a value, so what becomes of the
levels below it later, be it eviction, a new build or a new pin, is nothing to it. `Mirrors.retraces`
reads it along the whole walk.
-/

namespace StreetLinkage

/-- The linker makes each linkage for the key and from the base that it is asked for. -/
def Linker.Faithful {σ : Type} (L : Linker σ) : Prop :=
  ∀ request memory l, (L.link request memory).1 = .ok l →
    l.key = request.key ∧ l.base? = request.base

theorem Linker.faithful_scripted : Linker.scripted.Faithful := by
  intro request memory l hl
  unfold Linker.scripted at hl
  dsimp only at hl
  split at hl <;> cases hl <;> exact ⟨congrArg LinkageInfo.key (Linkage.info_make ..), by simp⟩

/-- The linkage belongs to the point set and is for the key, and the linkages that it comes from are for
the base keys, down to a key without one or to one of the given pins. -/
inductive Mirrors (f : Forest) (owner : PointSetId) (pinnings : List (LinkageKey × Linkage)) :
    LinkageKey → Linkage → Prop
  /-- The key has no base, and neither has the linkage. -/
  | root {key l} : l.key = key → l.belongsTo owner = true → l.base? = none → key.base? f = none →
      Mirrors f owner pinnings key l
  /-- The linkage was pinned, so it was made from nothing. -/
  | pinned {key l} : l.key = key → l.belongsTo owner = true → l.base? = none →
      (key, l) ∈ pinnings → Mirrors f owner pinnings key l
  /-- The linkage was made from one for the base key. -/
  | derived {key b l m} : l.key = key → l.belongsTo owner = true → l.base? = some m →
      key.base? f = some b → Mirrors f owner pinnings b m → Mirrors f owner pinnings key l

/-- Walking from the linkage to its base, to the base of that and so on meets one linkage after the other
for the lineage of the key, and ends at a network without a base or at one of the given pins. -/
structure Retraces (f : Forest) (owner : PointSetId) (pinnings : List (LinkageKey × Linkage))
    (key : LinkageKey) (l : Linkage) : Prop where
  keys_prefix : l.lineage.map Linkage.key <+: key.lineage f
  mode_eq : ∀ m ∈ l.lineage, m.key.mode = key.mode
  belongsTo : ∀ m ∈ l.lineage, m.belongsTo owner = true
  ends : ∃ last, l.lineage.getLast? = some last ∧
    (last.key.base? f = none ∨ (last.key, last) ∈ pinnings)

theorem LinkageKey.mode_of_base {f : Forest} {key b : LinkageKey} (h : key.base? f = some b) :
    b.mode = key.mode := by
  obtain ⟨n, -, rfl⟩ := Option.map_eq_some_iff.mp h
  rfl

namespace Mirrors

variable {f : Forest} {owner : PointSetId} {pinnings more : List (LinkageKey × Linkage)}
  {key : LinkageKey} {l : Linkage}

theorem append (h : Mirrors f owner pinnings key l) (more : List (LinkageKey × Linkage)) :
    Mirrors f owner (pinnings ++ more) key l := by
  induction h with
  | root hkey hown hfrom hbase => exact .root hkey hown hfrom hbase
  | pinned hkey hown hfrom hpin => exact .pinned hkey hown hfrom (List.mem_append_left _ hpin)
  | derived hkey hown hfrom hbase hbelow ih => exact .derived hkey hown hfrom hbase ih

/-- A linkage made from nothing is a walk of its own. -/
theorem retraces_of_fresh (hkey : l.key = key) (hown : l.belongsTo owner = true)
    (hfrom : l.base? = none) (hends : key.base? f = none ∨ (key, l) ∈ pinnings) :
    Retraces f owner pinnings key l := by
  obtain ⟨rest, hrest⟩ := key.lineage_eq_cons f
  constructor <;> rw [Linkage.lineage_of_fresh hfrom]
  · rw [List.map_singleton, hkey, hrest]
    exact ⟨rest, rfl⟩
  · exact fun m hm => by rw [List.mem_singleton.mp hm, hkey]
  · exact fun m hm => by rwa [List.mem_singleton.mp hm]
  · exact ⟨l, rfl, by rwa [hkey]⟩

/-- **The walk down a linkage** follows the lineage of its key. -/
theorem retraces (h : Mirrors f owner pinnings key l) : Retraces f owner pinnings key l := by
  induction h with
  | root hkey hown hfrom hbase => exact retraces_of_fresh hkey hown hfrom (Or.inl hbase)
  | pinned hkey hown hfrom hpin => exact retraces_of_fresh hkey hown hfrom (Or.inr hpin)
  | derived hkey hown hfrom hbase hbelow ih =>
      constructor <;> rw [Linkage.lineage_of_derived hfrom]
      · rw [List.map_cons, hkey, LinkageKey.lineage_of_base hbase]
        exact (List.prefix_cons_inj _).mpr ih.keys_prefix
      · intro m hm
        rcases List.mem_cons.mp hm with rfl | hm
        · rw [hkey]
        · exact (ih.mode_eq m hm).trans (LinkageKey.mode_of_base hbase)
      · intro m hm
        rcases List.mem_cons.mp hm with rfl | hm
        · exact hown
        · exact ih.belongsTo m hm
      · obtain ⟨last, hlast, hends⟩ := ih.ends
        refine ⟨last, ?_, hends⟩
        rw [List.getLast?_cons, hlast]
        rfl

end Mirrors

/-! ### Along one operation -/

section Operations

open Scene

variable {σ : Type} {f : Forest} {L : Linker σ} {owner : PointSetId} {key : LinkageKey}
  {base : Option Linkage} {s s' : Scene σ} {acts : List Act}
  {pinnings : List (LinkageKey × Linkage)}

/-- What a level makes is for its key and from its base. -/
theorem Made.each {P : LinkageKey → Linkage → Prop} {r : Except LinkageError Linkage}
    (hL : L.Faithful) (h : Made L owner key base s acts r s')
    (hmake : ∀ l, l.key = key → l.belongsTo owner = true → l.base? = base → P key l)
    (hs : s.store.Each P) : s'.store.Each P ∧ ∀ l, r = .ok l → P key l := by
  cases h with
  | failed hlink => exact ⟨hs, nofun⟩
  | stored hlink hown =>
      obtain ⟨hkey, hfrom⟩ := hL _ _ _ (congrArg Prod.fst hlink)
      have hnew := hmake _ hkey hown hfrom
      exact ⟨hs.insert hnew, fun m hm => Except.ok.inj hm ▸ hnew⟩
  | foreign hlink hown => exact ⟨hs.insert_invalidate key _, nofun⟩

/-- **A lookup keeps the tiers mirrors of the networks** and gives such a mirror itself. -/
theorem Lookup.mirrors {r : Except LinkageError Linkage} (hL : L.Faithful)
    (h : Lookup f L owner key s acts r s') (hs : s.store.Each (Mirrors f owner pinnings)) :
    s'.store.Each (Mirrors f owner pinnings) ∧
      ∀ l, r = .ok l → Mirrors f owner pinnings key l := by
  induction h with
  | pinned hp => exact ⟨hs.congr rfl rfl, fun m hm => Except.ok.inj hm ▸ hs.of_pinned? hp⟩
  | bounded hp hb =>
      exact ⟨(hs.touch _).congr rfl rfl, fun m hm => Except.ok.inj hm ▸ hs.of_find? hb⟩
  | root hheld hbase hmade =>
      refine hmade.each hL (fun l hkey hown hfrom => ?_) (hs.congr rfl rfl)
      exact .root hkey hown hfrom hbase
  | baseFailed hheld hbase hlookup ih => exact ⟨(ih (hs.congr rfl rfl)).1, nofun⟩
  | derived hheld hbase hlookup hmade ih =>
      obtain ⟨hbelow, hresult⟩ := ih (hs.congr rfl rfl)
      refine hmade.each hL (fun l hkey hown hfrom => ?_) hbelow
      exact .derived hkey hown hfrom hbase (hresult _ rfl)

/-- What a lookup hands on to the linker is a mirror of the base network. -/
theorem Lookup.bases_mirror {r : Except LinkageError Linkage} (hL : L.Faithful)
    (h : Lookup f L owner key s acts r s') (hs : s.store.Each (Mirrors f owner pinnings)) :
    ∀ c ∈ callsOf acts, ∀ l, c.base? = some l →
      ∃ b, c.key.base? f = some b ∧ Mirrors f owner pinnings b l := by
  induction h with
  | pinned hp => simp
  | bounded hp hb => simp
  | root hheld hbase hmade =>
      obtain ⟨d, hcalls, -, hfrom⟩ := hmade.exists_call_for
      intro c hc l hl
      rw [hcalls, List.mem_singleton] at hc
      rw [hc, hfrom] at hl
      cases hl
  | baseFailed hheld hbase hlookup ih =>
      rw [callsOf_append_failed]
      exact ih (hs.congr rfl rfl)
  | @derived key b s acts m s₁ more r s' hheld hbase hlookup hmade ih =>
      obtain ⟨d, hcalls, hkey, hfrom⟩ := hmade.exists_call_for
      intro c hc l hl
      rw [callsOf_append, hcalls] at hc
      rcases List.mem_append.mp hc with hc | hc
      · exact ih (hs.congr rfl rfl) c hc l hl
      · obtain rfl := List.mem_singleton.mp hc
        obtain rfl : m = l := Option.some.inj (hfrom.symm.trans hl)
        have hbelow := (hlookup.mirrors hL (hs.congr rfl rfl)).2 m rfl
        exact ⟨b, by rw [hkey, hbase], hbelow⟩

/-- What a pin pins was made for its key, from nothing. -/
theorem Pin.fresh_of_pinned {r : Except LinkageError Unit} (hL : L.Faithful)
    (h : Pin L owner key s acts r s') {l : Linkage} (hl : pinOutcome? r (callsOf acts) = some l) :
    l.key = key ∧ l.belongsTo owner = true ∧ l.base? = none := by
  cases h with
  | refused hrefuse => cases hl
  | failed hrefuse hlink => cases hl
  | foreign hrefuse hlink hown => cases hl
  | costsFailed hrefuse hlink hown hcosts => cases hl
  | pinned hrefuse hlink hown hcosts =>
      cases hl
      obtain ⟨hkey, hfrom⟩ := hL _ _ _ (congrArg Prod.fst hlink)
      exact ⟨hkey, hown, hfrom⟩

end Operations

/-! ### Along a run -/

namespace PointSet

variable {σ ρ : Type} [PointAccess ρ] {f : Forest} {p : PointSet σ ρ}
  {pinnings : List (LinkageKey × Linkage)}

/-- What a lookup gives, with the key that was looked up. -/
def answer? (f : Forest) (op : Operation) (p : PointSet σ ρ) (w : World σ) :
    Option (LinkageKey × Linkage) :=
  match op with
  | .get key => (p.getLinkage f key w).1.toOption.map (key, ·)
  | _ => none

/-- What the lookups of a run give, the oldest first. -/
def answers (f : Forest) : List Operation → PointSet σ ρ → World σ → List (LinkageKey × Linkage)
  | [], _, _ => []
  | op :: ops, p, w =>
      (p.answer? f op w).toList ++ answers f ops (p.perform f op w).1 (p.perform f op w).2

/-- An operation gives and hands on mirrors of the networks. -/
theorem mirrors_answer (hp : Reachable f p) (hL : p.linker.Faithful)
    (hs : p.store.Each (Mirrors f p.id pinnings)) (op : Operation) (w : World σ) :
    (∀ answer, p.answer? f op w = some answer → Mirrors f p.id pinnings answer.1 answer.2) ∧
      ∀ c ∈ p.buildsOf f op w, ∀ l, c.base? = some l →
        ∃ b, c.key.base? f = some b ∧ Mirrors f p.id pinnings b l := by
  cases op with
  | get key =>
      obtain ⟨s', hlookup, -⟩ := lookup_derivation f key hp.ownedBy w
      refine ⟨fun answer hanswer => ?_, ?_⟩
      · obtain ⟨l, hl, rfl⟩ := Option.map_eq_some_iff.mp hanswer
        refine (hlookup.mirrors hL hs).2 l ?_
        cases hr : (p.getLinkage f key w).1 with
        | error e => rw [hr] at hl; cases hl
        | ok m => rw [hr] at hl; cases hl; rfl
      · rw [buildsOf, calls_eq hp.ownedBy]
        exact hlookup.bases_mirror hL hs
  | pin key => exact ⟨fun _ h => (by cases h), fun _ h => absurd h List.not_mem_nil⟩
  | peek key => exact ⟨fun _ h => (by cases h), fun _ h => absurd h List.not_mem_nil⟩
  | index => exact ⟨fun _ h => (by cases h), fun _ h => absurd h List.not_mem_nil⟩
  | query a b => exact ⟨fun _ h => (by cases h), fun _ h => absurd h List.not_mem_nil⟩

/-- What an operation pins was made for its key, from nothing. -/
theorem fresh_of_pinning? (hp : Reachable f p) (hL : p.linker.Faithful) {op : Operation}
    {w : World σ} {pinned : LinkageKey × Linkage} (h : p.pinning? f op w = some pinned) :
    pinned.2.key = pinned.1 ∧ pinned.2.belongsTo p.id = true ∧ pinned.2.base? = none := by
  obtain ⟨key, rfl, -⟩ := (isSome_pinning?_iff hp).mp (Option.isSome_of_eq_some h)
  obtain ⟨s', hpin, -⟩ := pin_derivation f key p w
  rw [pinning?, calls_eq hp.ownedBy] at h
  obtain ⟨l, hl, rfl⟩ := Option.map_eq_some_iff.mp h
  exact hpin.fresh_of_pinned hL hl

/-- An operation keeps the tiers mirrors of the networks, with what it pins counted in. -/
theorem mirrors_perform (hp : Reachable f p) (hL : p.linker.Faithful)
    (hs : p.store.Each (Mirrors f p.id pinnings)) (op : Operation) (w : World σ) :
    (p.perform f op w).1.store.Each
      (Mirrors f p.id (pinnings ++ (p.pinning? f op w).toList)) := by
  have hs' := hs.imp fun _ _ h => h.append (p.pinning? f op w).toList
  cases op with
  | get key =>
      obtain ⟨s', hlookup, hstate⟩ := lookup_derivation f key hp.ownedBy w
      rw [perform, hstate]
      exact (hlookup.mirrors hL hs').1
  | pin key =>
      refine ⟨fun entry hentry => ?_, ?_⟩
      · rw [pins_perform hp] at hentry
        cases hpin : p.pinning? f (.pin key) w with
        | none =>
            rw [hpin] at hentry hs'
            exact hs'.pins entry hentry
        | some pinned =>
            obtain ⟨hkey, hown, hfrom⟩ := fresh_of_pinning? hp hL hpin
            have hlast : (pinned.1, pinned.2) ∈ pinnings ++ [pinned] :=
              List.mem_append_right _ (List.mem_singleton_self _)
            rw [hpin] at hentry hs'
            exact (hs'.pin (.pinned hkey hown hfrom hlast)).pins entry hentry
      · rw [bounded_perform_pin]
        exact hs'.bounded
  | peek key =>
      rcases store_perform_peek f key p w with hsame | htouch
      · exact hsame ▸ hs'
      · exact htouch ▸ hs'.touch key
  | index => exact store_perform_index f p w ▸ hs'
  | query a b => exact store_perform_query f a b p w ▸ hs'

/-- A run gives, hands on and pins mirrors of the networks. -/
theorem mirrors_play (hp : Reachable f p) (hL : p.linker.Faithful)
    (hs : p.store.Each (Mirrors f p.id pinnings)) (ops : List Operation) (w : World σ) :
    (∀ answer ∈ p.answers f ops w,
      Mirrors f p.id (pinnings ++ p.pinnings f ops w) answer.1 answer.2) ∧
      (∀ c ∈ p.builds f ops w, ∀ l, c.base? = some l →
        ∃ b, c.key.base? f = some b ∧ Mirrors f p.id (pinnings ++ p.pinnings f ops w) b l) ∧
      ∀ pinned ∈ p.pinnings f ops w, pinned.2.base? = none := by
  induction ops generalizing p w pinnings with
  | nil => exact ⟨nofun, nofun, nofun⟩
  | cons op ops ih =>
      obtain ⟨hanswer, hbases⟩ := mirrors_answer hp hL hs op w
      have hnext := mirrors_perform hp hL hs op w
      rw [← id_perform f op p w] at hnext
      obtain ⟨hanswers, hbuilds, hpins⟩ :=
        ih (hp.perform op w) ((linker_perform f op p w).symm ▸ hL) hnext (p.perform f op w).2
      rw [id_perform, List.append_assoc] at hanswers hbuilds
      refine ⟨fun answer hmem => ?_, fun c hmem l hl => ?_, fun pinned hmem => ?_⟩
      · rcases List.mem_append.mp hmem with hnow | hlater
        · exact (hanswer answer (Option.mem_toList.mp hnow)).append _
        · exact hanswers answer hlater
      · rcases List.mem_append.mp hmem with hnow | hlater
        · obtain ⟨b, hb, hmirrors⟩ := hbases c hnow l hl
          exact ⟨b, hb, hmirrors.append _⟩
        · exact hbuilds c hlater l hl
      · rcases List.mem_append.mp hmem with hnow | hlater
        · exact (fresh_of_pinning? hp hL (Option.mem_toList.mp hnow)).2.2
        · exact hpins pinned hlater

end PointSet

/-- **Linkages mirror the networks.** Let the linker make each linkage for the key and from the base that
it is asked for; it may fail, and it may make linkages of other point sets. Then in any run of a new point
set, walking down from a linkage that a lookup gave for a key, at whatever time in the run, meets one
linkage for the key, one for its base key, one for the base of that and so on, all of the same mode and of
this point set, and ends at a network without a base or at a linkage that a pin of the run made. The same
is true of a linkage that the lookup of a base gave on the way to another key. What is pinned was made
from nothing. -/
theorem answers_retrace_lineage {σ ρ : Type} [PointAccess ρ] (f : Forest) (id : PointSetId) (source : ρ)
    (linker : Linker σ) (hlinker : linker.Faithful) (config : CacheConfig) (ops : List Operation)
    (w : World σ) :
    let p := PointSet.new id source linker config
    let pinnings := p.pinnings f ops w
    (∀ answer ∈ p.answers f ops w, Retraces f id pinnings answer.1 answer.2) ∧
      (∀ c ∈ p.builds f ops w, ∀ l, c.base? = some l →
        ∃ b, c.key.base? f = some b ∧ Retraces f id pinnings b l) ∧
      ∀ pinned ∈ pinnings, pinned.2.base? = none := by
  intro p pinnings
  have hnew : Reachable f p := .new id source linker config
  have hempty : p.store.Each (Mirrors f id []) := ⟨nofun, nofun⟩
  obtain ⟨hanswers, hbuilds, hpins⟩ := PointSet.mirrors_play hnew hlinker hempty ops w
  refine ⟨fun answer hmem => (hanswers answer hmem).retraces, fun c hc l hl => ?_, hpins⟩
  obtain ⟨b, hb, hmirrors⟩ := hbuilds c hc l hl
  exact ⟨b, hb, hmirrors.retraces⟩

/-- The city is pinned when the first bus lane is linked, with room for one linkage more; then the tram is
pinned in its place. The two linkages of the bus lane lead to different pins. -/
theorem answers_retrace_lineage_to_pins :
    let f := Forest.ofList [("city", none), ("tram", some 0), ("tram and bus lane", some 1)]
    let p := PointSet.new 7 (PointSource.freeForm []) Linker.scripted { capacity := 1 }
    let ops := [.pin ⟨0, .walk⟩, .get ⟨2, .walk⟩, .pin ⟨1, .walk⟩, .get ⟨1, .car⟩, .get ⟨2, .walk⟩]
    let w := World.withTurns []
    (p.answers f ops w).map (fun answer => answer.2.lineage.map Linkage.id) =
        [[2, 1, 0], [5, 4], [6, 3]] ∧
      ∀ answer ∈ p.answers f ops w, Retraces f 7 (p.pinnings f ops w) answer.1 answer.2 :=
  ⟨by decide, (answers_retrace_lineage _ 7 _ _ Linker.faithful_scripted _ _ _).1⟩

end StreetLinkage
