import StreetLinkage.Proofs.Pinning

/-!
# Recording the linker

A linker is an arbitrary function, so what it was asked cannot be read off it. `Linker.recorded` is the
same linker with a notebook: it answers as before and writes every call down.

Recording changes nothing else (`getLinkage_recorded`, `pinLinkage_recorded`): a step over the recording
linker has the same result and leaves the same store, tables and events, and its notebook has grown by
exactly the calls among the acts of the step. This is what makes "the linker is asked for these keys, in
this order, with these bases" a statement about runs of the library itself.
-/

namespace StreetLinkage

variable {σ : Type}

/-- The linker with a notebook of its calls, the oldest first. -/
def Linker.recorded (L : Linker σ) : Linker (σ × List LinkCall) where
  link request memory :=
    match L.link request memory.1 with
    | (outcome, m) => (outcome, (m, memory.2 ++ [⟨request, outcome⟩]))
  egressCosts l base memory :=
    match L.egressCosts l base memory.1 with
    | (outcome, m) => (outcome, (m, memory.2))

/-- The world with a notebook that holds the given calls. -/
def World.recorded (w : World σ) (notes : List LinkCall) : World (σ × List LinkCall) where
  memory := (w.memory, notes)
  tables := w.tables
  events := w.events

/-- The scene with a notebook that holds the given calls. -/
def Scene.recorded (s : Scene σ) (notes : List LinkCall) : Scene (σ × List LinkCall) :=
  ⟨s.store, s.world.recorded notes⟩

open Scene

variable {f : Forest} {L : Linker σ} {owner : PointSetId} {key : LinkageKey} {base : Option Linkage}
  {s s' : Scene σ} {acts : List Act} {r : Except LinkageError Linkage}

theorem link_recorded {outcome : Except BuildError Linkage} {memory : σ}
    (h : L.link (s.request owner key base) s.world.memory = (outcome, memory))
    (notes : List LinkCall) :
    L.recorded.link ((s.recorded notes).request owner key base) (s.recorded notes).world.memory =
      (outcome, (memory, notes ++ [⟨s.request owner key base, outcome⟩])) := by
  have h' : L.link ((s.recorded notes).request owner key base) (s.recorded notes).world.memory.1 =
      (outcome, memory) := h
  simp only [Linker.recorded, h']
  rfl

theorem Made.recorded (h : Made L owner key base s acts r s') (notes : List LinkCall) :
    Made L.recorded owner key base (s.recorded notes) acts r
      (s'.recorded (notes ++ callsOf acts)) := by
  cases h with
  | failed hlink => exact .failed (link_recorded hlink notes)
  | stored hlink hl => exact .stored (link_recorded hlink notes) hl
  | foreign hlink hl => exact .foreign (link_recorded hlink notes) hl

theorem Lookup.recorded (h : Lookup f L owner key s acts r s') (notes : List LinkCall) :
    Lookup f L.recorded owner key (s.recorded notes) acts r
      (s'.recorded (notes ++ callsOf acts)) := by
  induction h generalizing notes with
  | pinned hp =>
      rw [callsOf_answeredPinned, List.append_nil]
      exact .pinned hp
  | bounded hp hb =>
      rw [callsOf_answered, List.append_nil]
      exact .bounded hp hb
  | root hheld hbase hmade => exact .root hheld hbase (hmade.recorded notes)
  | baseFailed hheld hbase hlookup ih =>
      rw [callsOf_append_failed]
      exact .baseFailed hheld hbase (ih notes)
  | derived hheld hbase hlookup hmade ih =>
      rw [callsOf_append, ← List.append_assoc]
      exact .derived hheld hbase (ih notes) (hmade.recorded _)

/-- **Recording a lookup** changes nothing but the notebook, which grows by the calls of the lookup. -/
theorem getLinkage_recorded (f : Forest) (L : Linker σ) (key : LinkageKey)
    (hs : s.store.OwnedBy owner) (notes : List LinkCall) :
    getLinkage f L.recorded owner key (s.recorded notes) =
      ((getLinkage f L owner key s).1,
        (getLinkage f L owner key s).2.recorded (notes ++ callsOf (lookupActs f L owner key s))) :=
  (((lookup_getLinkage f L key hs).recorded notes).eval hs).1

theorem egressTable_recorded {l : Linkage} {w w' : World σ} {outcome : Except BuildError EgressTable}
    (h : w.egressTable L l = (outcome, w')) (notes : List LinkCall) :
    (w.recorded notes).egressTable L.recorded l = (outcome, w'.recorded notes) := by
  unfold World.egressTable at h ⊢
  -- A table that is kept is found in both worlds; only for a new one is the linker asked.
  rw [show (w.recorded notes).tables = w.tables from rfl]
  cases htable : w.tables.get? l with
  | some table =>
      rw [htable] at h
      cases h
      rfl
  | none =>
      rw [htable] at h
      rcases hcosts : L.egressCosts l (l.base?.bind w.tables.get?) w.memory with ⟨e | table, memory⟩ <;>
        simp only [hcosts, Prod.mk.injEq] at h <;>
        obtain ⟨rfl, rfl⟩ := h <;>
        simp [Linker.recorded, World.recorded, hcosts]

theorem Pin.recorded {r : Except LinkageError Unit} (h : Pin L owner key s acts r s')
    (notes : List LinkCall) :
    Pin L.recorded owner key (s.recorded notes) acts r (s'.recorded (notes ++ callsOf acts)) := by
  cases h with
  | refused hrefuse =>
      rw [callsOf_nil, List.append_nil]
      exact .refused hrefuse
  | failed hrefuse hlink => exact .failed hrefuse (link_recorded hlink notes)
  | foreign hrefuse hlink hl => exact .foreign hrefuse (link_recorded hlink notes) hl
  | @costsFailed l memory e world hrefuse hlink hl hcosts =>
      have hcosts' := egressTable_recorded hcosts (notes ++ [⟨s.request owner key none, .ok l⟩])
      exact .costsFailed hrefuse (link_recorded hlink notes) hl hcosts'
  | @pinned l memory table world hrefuse hlink hl hcosts =>
      have hcosts' := egressTable_recorded hcosts (notes ++ [⟨s.request owner key none, .ok l⟩])
      have hpin := Pin.pinned (s := s.recorded notes) hrefuse (link_recorded hlink notes) hl hcosts'
      exact hpin

/-- **Recording a pin** changes nothing but the notebook, which grows by the calls of the pin. -/
theorem pinLinkage_recorded (L : Linker σ) (owner : PointSetId) (key : LinkageKey) (s : Scene σ)
    (notes : List LinkCall) :
    pinLinkage L.recorded owner key (s.recorded notes) =
      ((pinLinkage L owner key s).1,
        (pinLinkage L owner key s).2.recorded (notes ++ callsOf (pinActs L owner key s))) :=
  ((pin_pinLinkage L owner key s).recorded notes).eval.1

end StreetLinkage
