import StreetLinkage.Egress
import StreetLinkage.Event
import StreetLinkage.Linkage.Error
import StreetLinkage.Store.Basic

/-!
# Linkers

Linking itself is done by a `Linker`, of which nothing is known: it has a memory of any type, sees the
store of the point set as it is when asked, may fail at any time, and may return a linkage that was made
for another point set. What the library adds is when the linker is asked and with what, and that its
egress cost tables are kept.

The table of a linkage is computed on first request and then kept for ever (`World.egressTable`). If the
table of its base is kept at that moment, the linker is given it to start from; the tables of other
linkages are neither computed nor changed.
-/

namespace StreetLinkage

/-- What a linker is asked for. -/
structure LinkRequest where
  /-- The point set to link. -/
  owner : PointSetId
  /-- The store of the point set at this moment. -/
  store : LinkageStore
  /-- The network and the mode to link it to. -/
  key : LinkageKey
  /-- The linkage of the base network to start from, if any. -/
  base : Option Linkage

/-- The maker of linkages and of their egress cost tables, with a memory of type `σ`. -/
structure Linker (σ : Type) where
  /-- Makes a linkage. -/
  link : LinkRequest → σ → Except BuildError Linkage × σ
  /-- Computes the egress costs of a linkage, starting from the table of its base, if any. -/
  egressCosts : Linkage → Option EgressTable → σ → Except BuildError EgressTable × σ

/-- The egress cost tables computed so far. -/
structure EgressLedger where
  tables : List (Linkage × EgressTable) := []
  deriving DecidableEq, Repr

namespace EgressLedger

/-- The table of a linkage, if it has been computed. -/
def get? (ledger : EgressLedger) (l : Linkage) : Option EgressTable :=
  ledger.tables.lookup l

/-- The ledger with the table of a linkage that had none. -/
def record (ledger : EgressLedger) (l : Linkage) (table : EgressTable) : EgressLedger where
  tables := (l, table) :: ledger.tables

theorem get?_record (ledger : EgressLedger) (l m : Linkage) (table : EgressTable) :
    (ledger.record l table).get? m = if m = l then some table else ledger.get? m := by
  unfold get? record
  rw [List.lookup_cons]
  by_cases h : m = l
  · simp [h]
  · rw [if_neg h, beq_eq_false_iff_ne.mpr h]

end EgressLedger

/-- What all point sets share: the memory of the linker, the tables, and the events so far. -/
structure World (σ : Type) where
  memory : σ
  tables : EgressLedger := {}
  events : List Event := []

namespace World

variable {σ : Type}

/-- Reports an event. -/
def emit (w : World σ) (e : Event) : World σ :=
  { w with events := w.events ++ [e] }

/-- The egress cost table of a linkage, computed if there is none yet. -/
def egressTable (L : Linker σ) (l : Linkage) (w : World σ) :
    Except BuildError EgressTable × World σ :=
  match w.tables.get? l with
  | some table => (.ok table, w)
  | none =>
      match L.egressCosts l (l.base?.bind w.tables.get?) w.memory with
      | (.error e, memory) => (.error e, { w with memory })
      | (.ok table, memory) => (.ok table, { w with memory, tables := w.tables.record l table })

end World

end StreetLinkage
