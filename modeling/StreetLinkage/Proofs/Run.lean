import StreetLinkage.PointSet
import StreetLinkage.Proofs.Recording

/-!
# Runs of a point set

A run is a list of operations, each done in the state that the one before left (`PointSet.play`). A state
is `Reachable` if some run of a new point set leads to it, whatever happened to the rest of the world in
between: other point sets may have used the same linker, and tables may have been computed.

Two views of a run are used in statements.

* `PointSet.calls` is what the linker is asked: it is read off the notebook of the recording linker after
  the operation was done with it. `calls_eq` computes it from the acts.
* `PointSet.history` lists the acts of a run.

The one invariant that everything else needs is here too: a reachable point set owns whatever its two
tiers hold (`Reachable.ownedBy`).
-/

namespace StreetLinkage

variable {σ ρ : Type}

/-- What can be done with a point set that may change it. -/
inductive Operation where
  | get (key : LinkageKey)
  | pin (key : LinkageKey)
  | peek (key : LinkageKey)
  | index
  | query (a b : FixedCoord)

/-- The acts of looking a key up without building: one tier answers, or none. -/
def LinkageStore.readActs (s : LinkageStore) (key : LinkageKey) : List Act :=
  match s.pinned? key, s.bounded.find? key with
  | some l, _ => [.answeredPinned key l]
  | none, some l => [.answered key l]
  | none, none => []

@[simp] theorem LinkageStore.callsOf_readActs (s : LinkageStore) (key : LinkageKey) :
    callsOf (s.readActs key) = [] := by
  unfold readActs
  split <;> rfl

namespace PointSet

/-- The acts of an operation. -/
def acts (f : Forest) (op : Operation) (p : PointSet σ ρ) (w : World σ) : List Act :=
  match op with
  | .get key => Scene.lookupActs f p.linker p.id key ⟨p.store, w⟩
  | .pin key => Scene.pinActs p.linker p.id key ⟨p.store, w⟩
  | .peek key => p.store.readActs key
  | .index => []
  | .query _ _ => []

/-- The point set with the recording linker. -/
def recorded (p : PointSet σ ρ) : PointSet (σ × List LinkCall) ρ :=
  ⟨p.id, p.source, p.linker.recorded, p.store, p.index⟩

variable [PointAccess ρ]

/-- The point set and the world after an operation. -/
def perform (f : Forest) : Operation → PointSet σ ρ → World σ → PointSet σ ρ × World σ
  | .get key, p, w => (p.getLinkage f key w).2
  | .pin key, p, w => (p.pinLinkage key w).2
  | .peek key, p, w => ((p.linkageIfPresent key).2, w)
  | .index, p, w => (p.spatialIndex w).2
  | .query a b, p, w => (p.pointsInEnvelope a b w).2

/-- The point set and the world after a run. -/
def play (f : Forest) : List Operation → PointSet σ ρ → World σ → PointSet σ ρ × World σ
  | [], p, w => (p, w)
  | op :: ops, p, w => play f ops (p.perform f op w).1 (p.perform f op w).2

/-- The acts of a run, the oldest first. -/
def history (f : Forest) : List Operation → PointSet σ ρ → World σ → List Act
  | [], _, _ => []
  | op :: ops, p, w =>
      p.acts f op w ++ history f ops (p.perform f op w).1 (p.perform f op w).2

/-- The calls of the linker during an operation, in order. -/
def calls (f : Forest) (op : Operation) (p : PointSet σ ρ) (w : World σ) : List LinkCall :=
  (p.recorded.perform f op (w.recorded [])).2.memory.2

/-- The calls of the linker during a run, in order. -/
def runCalls (f : Forest) : List Operation → PointSet σ ρ → World σ → List LinkCall
  | [], _, _ => []
  | op :: ops, p, w =>
      p.calls f op w ++ runCalls f ops (p.perform f op w).1 (p.perform f op w).2

end PointSet

/-- The states to which operations lead from a new point set. Each operation may meet any world. -/
inductive Reachable [PointAccess ρ] (f : Forest) : PointSet σ ρ → Prop
  | new (id : PointSetId) (source : ρ) (linker : Linker σ) (config : CacheConfig) :
      Reachable f (.new id source linker config)
  | perform {p : PointSet σ ρ} (op : Operation) (w : World σ) :
      Reachable f p → Reachable f (p.perform f op w).1

/-! ### One operation -/

namespace PointSet

/-- The store of the point set at work in a world. -/
def scene (p : PointSet σ ρ) (w : World σ) : Scene σ := ⟨p.store, w⟩

variable {f : Forest} {p : PointSet σ ρ} {w : World σ}

/-- A lookup of a point set that owns its linkages has a derivation. -/
theorem lookup_derivation (f : Forest) (key : LinkageKey) (hp : p.store.OwnedBy p.id) (w : World σ) :
    ∃ s', Lookup f p.linker p.id key (p.scene w) (p.acts f (.get key) w) (p.getLinkage f key w).1 s' ∧
      (p.getLinkage f key w).2 = ({ p with store := s'.store }, s'.world) :=
  ⟨_, lookup_getLinkage f p.linker key (s := p.scene w) hp, rfl⟩

/-- Every pin has a derivation. -/
theorem pin_derivation (f : Forest) (key : LinkageKey) (p : PointSet σ ρ) (w : World σ) :
    ∃ s', Pin p.linker p.id key (p.scene w) (p.acts f (.pin key) w) (p.pinLinkage key w).1 s' ∧
      (p.pinLinkage key w).2 = ({ p with store := s'.store }, s'.world) :=
  ⟨_, pin_pinLinkage p.linker p.id key (p.scene w), rfl⟩

variable [PointAccess ρ]

/-- The index is built beside the store. -/
theorem spatialIndex_frame (p : PointSet σ ρ) (w : World σ) :
    ∃ index, (p.spatialIndex w).2.1 = { p with index } := by
  unfold spatialIndex
  split
  · exact ⟨p.index, rfl⟩
  · split <;> exact ⟨_, rfl⟩

theorem pointsInEnvelope_snd (a b : FixedCoord) (p : PointSet σ ρ) (w : World σ) :
    (p.pointsInEnvelope a b w).2 = (p.spatialIndex w).2 := by
  unfold pointsInEnvelope
  rcases p.spatialIndex w with ⟨_ | index, p', w'⟩ <;> rfl

/-- An operation changes the store and the index and nothing else. -/
theorem perform_frame (f : Forest) (op : Operation) (p : PointSet σ ρ) (w : World σ) :
    ∃ store index, (p.perform f op w).1 = { p with store, index } := by
  cases op with
  | get key => exact ⟨_, p.index, rfl⟩
  | pin key => exact ⟨_, p.index, rfl⟩
  | peek key => exact ⟨_, p.index, rfl⟩
  | index =>
      obtain ⟨index, hindex⟩ := p.spatialIndex_frame w
      exact ⟨p.store, index, hindex⟩
  | query a b =>
      obtain ⟨index, hindex⟩ := p.spatialIndex_frame w
      exact ⟨p.store, index, by rw [perform, pointsInEnvelope_snd, hindex]⟩

@[simp] theorem id_perform (f : Forest) (op : Operation) (p : PointSet σ ρ) (w : World σ) :
    (p.perform f op w).1.id = p.id := by
  obtain ⟨store, index, h⟩ := perform_frame f op p w
  rw [h]

@[simp] theorem linker_perform (f : Forest) (op : Operation) (p : PointSet σ ρ) (w : World σ) :
    (p.perform f op w).1.linker = p.linker := by
  obtain ⟨store, index, h⟩ := perform_frame f op p w
  rw [h]

@[simp] theorem source_perform (f : Forest) (op : Operation) (p : PointSet σ ρ) (w : World σ) :
    (p.perform f op w).1.source = p.source := by
  obtain ⟨store, index, h⟩ := perform_frame f op p w
  rw [h]

/-- So does a whole run. -/
theorem play_frame (f : Forest) (ops : List Operation) (p : PointSet σ ρ) (w : World σ) :
    ∃ store index, (p.play f ops w).1 = { p with store, index } := by
  induction ops generalizing p w with
  | nil => exact ⟨p.store, p.index, rfl⟩
  | cons op ops ih =>
      obtain ⟨store, index, hplay⟩ := ih (p.perform f op w).1 (p.perform f op w).2
      refine ⟨store, index, ?_⟩
      rw [play, hplay, id_perform, source_perform, linker_perform]

@[simp] theorem linker_play (f : Forest) (ops : List Operation) (p : PointSet σ ρ) (w : World σ) :
    (p.play f ops w).1.linker = p.linker := by
  obtain ⟨store, index, h⟩ := play_frame f ops p w
  rw [h]

@[simp] theorem source_play (f : Forest) (ops : List Operation) (p : PointSet σ ρ) (w : World σ) :
    (p.play f ops w).1.source = p.source := by
  obtain ⟨store, index, h⟩ := play_frame f ops p w
  rw [h]

theorem store_perform_peek (f : Forest) (key : LinkageKey) (p : PointSet σ ρ) (w : World σ) :
    (p.perform f (.peek key) w).1.store = p.store ∨
      (p.perform f (.peek key) w).1.store = p.store.touch key :=
  p.store.get_snd_cases key

theorem store_perform_index (f : Forest) (p : PointSet σ ρ) (w : World σ) :
    (p.perform f .index w).1.store = p.store := by
  obtain ⟨index, h⟩ := p.spatialIndex_frame w
  rw [perform, h]

theorem store_perform_query (f : Forest) (a b : FixedCoord) (p : PointSet σ ρ) (w : World σ) :
    (p.perform f (.query a b) w).1.store = p.store := by
  rw [perform, pointsInEnvelope_snd]
  exact store_perform_index f p w

theorem ownedBy_perform (hp : p.store.OwnedBy p.id) (f : Forest) (op : Operation) (w : World σ) :
    (p.perform f op w).1.store.OwnedBy p.id := by
  cases op with
  | get key =>
      obtain ⟨s', hlookup, hstate⟩ := lookup_derivation f key hp w
      rw [perform, hstate]
      exact hlookup.ownedBy hp
  | pin key =>
      obtain ⟨s', hpin, hstate⟩ := pin_derivation f key p w
      rw [perform, hstate]
      exact hpin.ownedBy hp
  | peek key =>
      rcases store_perform_peek f key p w with hsame | htouch
      · exact hsame ▸ hp
      · exact htouch ▸ hp.touch key
  | index => exact store_perform_index f p w ▸ hp
  | query a b => exact store_perform_query f a b p w ▸ hp

end PointSet

/-- **Ownership is an invariant.** In every reachable state both tiers hold linkages of this very
point set only. -/
theorem Reachable.ownedBy [PointAccess ρ] {f : Forest} {p : PointSet σ ρ} (hp : Reachable f p) :
    p.store.OwnedBy p.id := by
  induction hp with
  | new id source linker config => exact ⟨by simp [PointSet.new], by simp [PointSet.new]⟩
  | perform op w hp ih =>
      rw [PointSet.id_perform]
      exact PointSet.ownedBy_perform ih f op w

theorem Reachable.play [PointAccess ρ] {f : Forest} {p : PointSet σ ρ} (hp : Reachable f p)
    (ops : List Operation) (w : World σ) : Reachable f (p.play f ops w).1 := by
  induction ops generalizing p w with
  | nil => exact hp
  | cons op ops ih => exact ih (hp.perform op w) _

/-! ### What the linker is asked -/

namespace PointSet

variable [PointAccess ρ] {f : Forest} {p : PointSet σ ρ}

theorem recorded_spatialIndex (p : PointSet σ ρ) (w : World σ) (notes : List LinkCall) :
    (p.recorded.spatialIndex (w.recorded notes)).2.2.memory.2 = notes := by
  unfold spatialIndex
  split
  · rfl
  · split <;> rfl

/-- The notebook after an operation holds the calls among its acts. -/
theorem calls_eq (hp : p.store.OwnedBy p.id) (f : Forest) (op : Operation) (w : World σ) :
    p.calls f op w = callsOf (p.acts f op w) := by
  cases op with
  | get key =>
      show (Scene.getLinkage f p.linker.recorded p.id key ((p.scene w).recorded [])).2.world.memory.2 = _
      -- The notebook starts empty and grows by the calls of this lookup.
      rw [getLinkage_recorded f p.linker key (s := p.scene w) hp []]
      rfl
  | pin key =>
      show (Scene.pinLinkage p.linker.recorded p.id key ((p.scene w).recorded [])).2.world.memory.2 = _
      rw [pinLinkage_recorded]
      rfl
  | peek key => exact (p.store.callsOf_readActs key).symm
  | index => exact p.recorded_spatialIndex w []
  | query a b =>
      unfold calls
      rw [perform, pointsInEnvelope_snd]
      exact p.recorded_spatialIndex w []

end PointSet

/-! ### A linker that follows a script

Nothing is assumed of linkers, so the smallest way to meet all their moods in examples is one whose
memory says what it does next. -/

/-- What a scripted linker does when it is asked. -/
inductive Turn where
  | own
  | foreign
  | fail

/-- The linker that numbers its linkages and takes its turns from a list; it goes on with `own`. -/
def Linker.scripted : Linker (Nat × List Turn) where
  link request memory :=
    match memory.2.headD .own with
    | .own =>
        (.ok (.make ⟨memory.1, request.owner, request.key, 0⟩ request.base),
          (memory.1 + 1, memory.2.tail))
    | .foreign =>
        (.ok (.make ⟨memory.1, request.owner + 1, request.key, 0⟩ request.base),
          (memory.1 + 1, memory.2.tail))
    | .fail => (.error ⟨"no edge nearby", []⟩, (memory.1 + 1, memory.2.tail))
  egressCosts _ _ memory := (.ok {}, memory)

/-- A world whose scripted linker has the given turns before it. -/
def World.withTurns (turns : List Turn) : World (Nat × List Turn) where
  memory := (0, turns)

end StreetLinkage
