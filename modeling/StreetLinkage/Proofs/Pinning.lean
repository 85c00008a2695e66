import StreetLinkage.Proofs.Lookup

/-!
# Pins as derivations

`Scene.pinLinkage` can end in five ways, four of them errors found after more and more work was done.
`Pin` has a rule for each; `Pin.eval` and `exists_pin` tie the rules to the function. Unlike a lookup a
pin reads no linkage from a tier, so nothing is assumed of the store.
-/

namespace StreetLinkage

variable {σ : Type}

/-- The key is cached, and the policy is to refuse such pins. -/
def LinkageStore.refuses (s : LinkageStore) (key : LinkageKey) : Bool :=
  s.contains key && s.config.doubleBuild = .reject

namespace Scene

/-- The scene in which a pin asks the linker. -/
def startPin (s : Scene σ) (key : LinkageKey) : Scene σ :=
  s.emitAll (if s.store.contains key then [.doubleBuild key, .pinning key] else [.pinning key])

/-- The acts of `pinLinkage`. -/
def pinActs (L : Linker σ) (owner : PointSetId) (key : LinkageKey) (s : Scene σ) : List Act :=
  if s.store.refuses key then []
  else
    let outcome := (L.link (s.request owner key none) s.world.memory).1
    .asked ⟨s.request owner key none, outcome⟩ ::
      match (pinLinkage L owner key s).1, outcome with
      | .ok _, .ok l => [.pinned key l]
      | _, _ => []

end Scene

open Scene

/-- A pin of a key in a scene: its acts, its result, and the scene that it leaves. -/
inductive Pin (L : Linker σ) (owner : PointSetId) (key : LinkageKey) (s : Scene σ) :
    List Act → Except LinkageError Unit → Scene σ → Prop
  | refused : s.store.refuses key = true →
      Pin L owner key s [] (.error (.doubleBuild key)) (s.emit (.doubleBuild key))
  | failed {e memory} : s.store.refuses key = false →
      L.link (s.request owner key none) s.world.memory = (.error e, memory) →
      Pin L owner key s [.asked ⟨s.request owner key none, .error e⟩]
        (.error (.build key e)) ((s.startPin key).remember memory)
  | foreign {l memory} : s.store.refuses key = false →
      L.link (s.request owner key none) s.world.memory = (.ok l, memory) →
      l.belongsTo owner = false →
      Pin L owner key s [.asked ⟨s.request owner key none, .ok l⟩]
        (.error (.invariantViolation key))
        (((s.startPin key).remember memory).emit (.foreignBuilt key))
  | costsFailed {l memory e world} : s.store.refuses key = false →
      L.link (s.request owner key none) s.world.memory = (.ok l, memory) →
      l.belongsTo owner = true →
      ((s.startPin key).remember memory).world.egressTable L l = (.error e, world) →
      Pin L owner key s [.asked ⟨s.request owner key none, .ok l⟩]
        (.error (.egressCosts key e)) ⟨s.store, world⟩
  | pinned {l memory table world} : s.store.refuses key = false →
      L.link (s.request owner key none) s.world.memory = (.ok l, memory) →
      l.belongsTo owner = true →
      ((s.startPin key).remember memory).world.egressTable L l = (.ok table, world) →
      Pin L owner key s [.asked ⟨s.request owner key none, .ok l⟩, .pinned key l] (.ok ())
        (((⟨s.store, world⟩ : Scene σ).emit
          (.pinned key table.originCount table.entryCount)).pin key l)

variable {L : Linker σ} {owner : PointSetId} {key : LinkageKey} {s s' : Scene σ} {acts : List Act}
  {r : Except LinkageError Unit}

theorem Pin.ownedBy (h : Pin L owner key s acts r s') (hs : s.store.OwnedBy owner) :
    s'.store.OwnedBy owner := by
  cases h with
  | refused hrefuse => exact hs
  | failed hrefuse hlink => exact hs
  | foreign hrefuse hlink hl => exact hs
  | costsFailed hrefuse hlink hl hcosts => exact hs
  | pinned hrefuse hlink hl hcosts => exact hs.pin key hl

/-- A pin changes the pinned tier and nothing else of the store. -/
theorem Pin.frame (h : Pin L owner key s acts r s') :
    ∃ pins, s'.store = { s.store with pins := pins } := by
  cases h <;> exact ⟨_, rfl⟩

/-- A pin starts from no base. -/
theorem Pin.call_fresh (h : Pin L owner key s acts r s') :
    ∀ c ∈ callsOf acts, c.request = s.request owner key none := by
  cases h <;> simp [callsOf, Act.call?]

theorem Scene.pinLinkage_of_refused (h : s.store.refuses key = true) :
    pinLinkage L owner key s = (.error (.doubleBuild key), s.emit (.doubleBuild key)) := by
  obtain ⟨hcached, hpolicy⟩ := Bool.and_eq_true_iff.mp h
  unfold pinLinkage
  simp only [hcached, if_true, store_emit, hpolicy, Bool.and_self]

theorem Scene.pinLinkage_of_not_refused (h : s.store.refuses key = false) :
    pinLinkage L owner key s =
      match link L owner key none (s.startPin key) with
      | (.error e, s) => (.error e, s)
      | (.ok l, s) =>
          if l.belongsTo owner then
            match s.world.egressTable L l with
            | (.error e, world) => (.error (.egressCosts key e), { s with world })
            | (.ok table, world) =>
                (.ok (), (({ s with world } : Scene σ).emit
                  (.pinned key table.originCount table.entryCount)).pin key l)
          else (.error (.invariantViolation key), s.emit (.foreignBuilt key)) := by
  unfold LinkageStore.refuses at h
  -- The two reports of a pin that overwrites are the two events of `startPin`.
  have hstart : (if s.store.contains key then s.emit (.doubleBuild key) else s).emit (.pinning key) =
      s.startPin key := by
    unfold startPin
    cases s.store.contains key <;> simp [emit, emitAll, World.emit]
  have hconfig : (if s.store.contains key then s.emit (.doubleBuild key) else s).store = s.store := by
    split <;> rfl
  unfold pinLinkage
  dsimp only
  rw [hconfig, hstart]
  exact if_neg (Bool.eq_false_iff.mp h)

theorem Pin.eval (h : Pin L owner key s acts r s') :
    pinLinkage L owner key s = (r, s') ∧ pinActs L owner key s = acts := by
  suffices hpin : pinLinkage L owner key s = (r, s') by
    refine ⟨hpin, ?_⟩
    cases h <;> simp_all [pinActs]
  cases h with
  | refused hrefuse => exact pinLinkage_of_refused hrefuse
  | failed hrefuse hlink =>
      rw [pinLinkage_of_not_refused hrefuse]
      unfold request at hlink
      simp [link, startPin, emitAll, hlink, remember]
  | foreign hrefuse hlink hl =>
      rw [pinLinkage_of_not_refused hrefuse]
      unfold request at hlink
      simp [link, startPin, emitAll, hlink, hl, remember]
  | costsFailed hrefuse hlink hl hcosts =>
      rw [pinLinkage_of_not_refused hrefuse]
      unfold request at hlink
      unfold remember startPin emitAll at hcosts
      simp [link, startPin, emitAll, hlink, hl, hcosts]
  | pinned hrefuse hlink hl hcosts =>
      rw [pinLinkage_of_not_refused hrefuse]
      unfold request at hlink
      unfold remember startPin emitAll at hcosts
      simp [link, startPin, emitAll, hlink, hl, hcosts]

theorem exists_pin (L : Linker σ) (owner : PointSetId) (key : LinkageKey) (s : Scene σ) :
    ∃ acts r s', Pin L owner key s acts r s' := by
  cases hrefuse : s.store.refuses key with
  | true => exact ⟨_, _, _, .refused hrefuse⟩
  | false =>
      rcases hlink : L.link (s.request owner key none) s.world.memory with ⟨e | l, memory⟩
      · exact ⟨_, _, _, .failed hrefuse hlink⟩
      · cases hl : l.belongsTo owner with
        | false => exact ⟨_, _, _, .foreign hrefuse hlink hl⟩
        | true =>
            rcases hcosts : ((s.startPin key).remember memory).world.egressTable L l with
              ⟨e | table, world⟩
            · exact ⟨_, _, _, .costsFailed hrefuse hlink hl hcosts⟩
            · exact ⟨_, _, _, .pinned hrefuse hlink hl hcosts⟩

theorem pin_pinLinkage (L : Linker σ) (owner : PointSetId) (key : LinkageKey) (s : Scene σ) :
    Pin L owner key s (pinActs L owner key s) (pinLinkage L owner key s).1
      (pinLinkage L owner key s).2 := by
  obtain ⟨acts, r, s', h⟩ := exists_pin L owner key s
  obtain ⟨hpin, hacts⟩ := h.eval
  rwa [hpin, hacts]

end StreetLinkage
