import StreetLinkage.Proofs.Durability

/-!
# A pin takes effect as a whole or not at all

A pin can fail at four places: where the policy refuses it, where the linker fails, where the linkage turns
out foreign, and where its egress costs cannot be computed. More and more work has been done by then, and
none of it may show. `pinLinkage_atomic` says that a pin that fails leaves the point set the same value as
before, and that one that succeeds changes what the pinned tier gives for its key and nothing else.

The store is `Pin.store_eq`: what a pin pins, or what was there. What the linker is asked is
`Pin.call_cases`: once and from no base, unless the pin is refused.
-/

namespace StreetLinkage

section Pins

variable {σ : Type} {L : Linker σ} {owner : PointSetId} {key : LinkageKey} {s s' : Scene σ}
  {acts : List Act} {r : Except LinkageError Unit}

/-- An error of a pin names its key. -/
theorem Pin.key_of_error {e : LinkageError} (h : Pin L owner key s acts (.error e) s') :
    e.key = key := by
  cases h <;> rfl

/-- A pin is refused and asks for nothing, or it asks once, from no base, and is not refused. -/
theorem Pin.call_cases (h : Pin L owner key s acts r s') :
    (r = .error (.doubleBuild key) ∧ callsOf acts = []) ∨
      ((∀ k, r ≠ .error (.doubleBuild k)) ∧
        ∃ c, callsOf acts = [c] ∧ c.request = s.request owner key none) := by
  cases h with
  | refused hrefuse => exact Or.inl ⟨rfl, rfl⟩
  | failed hrefuse hlink => exact Or.inr ⟨nofun, _, rfl, rfl⟩
  | foreign hrefuse hlink hl => exact Or.inr ⟨nofun, _, rfl, rfl⟩
  | costsFailed hrefuse hlink hl hcosts => exact Or.inr ⟨nofun, _, rfl, rfl⟩
  | pinned hrefuse hlink hl hcosts => exact Or.inr ⟨nofun, _, rfl, rfl⟩

/-- A pin that succeeds pins the linkage of its one call, which belongs to the point set. -/
theorem Pin.of_ok (h : Pin L owner key s acts (.ok ()) s') :
    ∃ c l, callsOf acts = [c] ∧ c.outcome = .ok l ∧ l.belongsTo owner = true ∧
      s'.store = s.store.pin key l := by
  cases h with
  | pinned hrefuse hlink hl hcosts => exact ⟨_, _, rfl, rfl, hl, rfl⟩

end Pins

variable {σ ρ : Type} [PointAccess ρ] {p : PointSet σ ρ}

/-- **A pin takes effect as a whole or not at all.** In every reachable state and whatever the linker does:

* if the pin of a key fails, with whichever of the errors, then the point set is what it was, with both
  tiers, the order of the bounded one and all counters; the error names the key;
* if it succeeds, then the pinned tier gives for the key the linkage that the linker made, for all other
  keys what it gave before, and nothing else of the point set has changed;
* the linker is asked once, for the key and from no base even where its network has one, unless the pin
  is refused as a double build, when it is not asked. -/
theorem pinLinkage_atomic (f : Forest) (hp : Reachable f p) (key : LinkageKey) (w : World σ) :
    let result := (p.pinLinkage key w).1
    let q := (p.pinLinkage key w).2.1
    let calls := p.calls f (.pin key) w
    (∀ e, result = .error e → q = p ∧ e.key = key) ∧
      (result = .ok () → ∃ c l, calls = [c] ∧ c.outcome = .ok l ∧ l.belongsTo p.id = true ∧
        (∀ k, q.store.pinned? k = if k = key then some l else p.store.pinned? k) ∧
        q = { p with store := { p.store with pins := q.store.pins } }) ∧
      ((result = .error (.doubleBuild key) ∧ calls = []) ∨
        ((∀ k, result ≠ .error (.doubleBuild k)) ∧ ∃ c, calls = [c] ∧ c.request.owner = p.id ∧
          c.key = key ∧ c.base? = none)) := by
  intro result q calls
  obtain ⟨s', hpin, hstate⟩ := PointSet.pin_derivation f key p w
  have hq : q = { p with store := s'.store } := congrArg Prod.fst hstate
  have hcalls : calls = callsOf (p.acts f (.pin key) w) := PointSet.calls_eq hp.ownedBy f (.pin key) w
  refine ⟨fun e he => ?_, fun hok => ?_, ?_⟩
  · rw [show (p.pinLinkage key w).1 = .error e from he] at hpin
    have hstore : s'.store = p.store := hpin.store_eq
    exact ⟨by rw [hq, hstore], hpin.key_of_error⟩
  · rw [show (p.pinLinkage key w).1 = .ok () from hok] at hpin
    obtain ⟨c, l, hcall, hlink, hl, hstore⟩ := hpin.of_ok
    have hstore' : s'.store = p.store.pin key l := hstore
    rw [hq, hstore']
    exact ⟨c, l, hcalls.trans hcall, hlink, hl, fun k => LinkageStore.pinned?_pin p.store key k l, rfl⟩
  · rw [hcalls]
    refine hpin.call_cases.imp_right fun ⟨hnot, c, hcall, hrequest⟩ => ⟨hnot, c, hcall, ?_⟩
    exact ⟨congrArg LinkRequest.owner hrequest, congrArg LinkRequest.key hrequest,
      congrArg LinkRequest.base hrequest⟩

/-- The tram is in both tiers when it is pinned again, and its egress costs cannot be computed as long as
the linker has turns left: the second pin fails at the last place and leaves the first one in force, with
the older linkage behind it. -/
theorem pinLinkage_atomic_at_costs :
    let f := Forest.ofList [("city", none), ("tram", some 0)]
    let linker : Linker (Nat × List Turn) := { Linker.scripted with
      egressCosts := fun _ _ memory =>
        if memory.2.isEmpty then (.ok {}, memory) else (.error ⟨"no timetable", []⟩, memory) }
    let p := ((PointSet.new 7 (PointSource.freeForm []) linker { capacity := 1 }).play f
      [.get ⟨1, .walk⟩, .pin ⟨1, .walk⟩] (.withTurns [])).1
    let w := World.withTurns [.own, .own]
    p.store.bounded.keys = [⟨1, .walk⟩] ∧
      (p.store.pinned? ⟨1, .walk⟩).map Linkage.id = some 2 ∧
      (p.pinLinkage ⟨1, .walk⟩ w).1 = .error (.egressCosts ⟨1, .walk⟩ ⟨"no timetable", []⟩) ∧
      (p.pinLinkage ⟨1, .walk⟩ w).2.1 = p ∧
      (p.calls f (.pin ⟨1, .walk⟩) w).map LinkCall.base? = [none] := by
  intro f linker p w
  have hp : Reachable f p := (Reachable.new 7 _ linker _).play _ _
  have hfail : (p.pinLinkage ⟨1, .walk⟩ w).1 =
      .error (.egressCosts ⟨1, .walk⟩ ⟨"no timetable", []⟩) := by
    decide
  obtain ⟨hsame, -, hasked⟩ := pinLinkage_atomic f hp ⟨1, .walk⟩ w
  refine ⟨by decide, by decide, hfail, (hsame _ hfail).1, ?_⟩
  rcases hasked with ⟨hdouble, -⟩ | ⟨-, c, hcall, -, -, hbase⟩
  · rw [hfail] at hdouble
    cases hdouble
  · rw [hcall, List.map_singleton, hbase]

end StreetLinkage
