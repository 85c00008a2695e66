/-!
# Networks and linkage keys

Street networks form a forest: a scenario copy is derived from one base network, which was there
before it. A network is known by its number; labels only appear in texts, so two networks of one label
are still two networks.

* `Forest.ancestors` lists the base network of a network, the base of that and so on, nearest first
  (`Forest.ancestors_eq`);
* a `LinkageKey` names what is linked: a network and a travel mode.
-/

namespace StreetLinkage

/-- How people travel. -/
inductive TravelMode where
  | walk
  | bicycle
  | car
  deriving DecidableEq, Repr, Hashable

namespace TravelMode

/-- All modes. -/
def all : List TravelMode := [walk, bicycle, car]

/-- The name of a mode in texts and files. -/
def name : TravelMode → String
  | walk => "walk"
  | bicycle => "bicycle"
  | car => "car"

/-- The mode of a name. -/
def ofName? (text : String) : Option TravelMode :=
  all.find? fun mode => mode.name == text

end TravelMode

/-- The networks in use, by their numbers: their labels, and which network each is derived from. -/
structure Forest where
  label : Nat → String
  base : Nat → Option Nat
  /-- A base network is older than what is derived from it. -/
  base_lt : ∀ {n b : Nat}, base n = some b → b < n

namespace Forest

/-- The forest of a list of labels, each with the earlier entry it is derived from. -/
def ofList (networks : List (String × Option Nat)) : Forest where
  label n := (networks[n]?.map Prod.fst).getD ""
  base n := (networks[n]?.bind Prod.snd).filter (· < n)
  base_lt h := by simpa using (Option.filter_eq_some_iff.mp h).2

/-- The chain of base networks above `n`, cut after the given number of steps. -/
def climb (f : Forest) : Nat → Nat → List Nat
  | 0, _ => []
  | steps + 1, n =>
      match f.base n with
      | none => []
      | some b => b :: f.climb steps b

/-- The base of `n`, the base of that and so on. -/
def ancestors (f : Forest) (n : Nat) : List Nat :=
  f.climb n n

/-- The network itself and its ancestors. -/
def lineage (f : Forest) (n : Nat) : List Nat :=
  n :: f.ancestors n

/-- Is the network derived from another one? -/
def isScenarioCopy (f : Forest) (n : Nat) : Bool :=
  (f.base n).isSome

/-- Bases grow smaller, so as many steps as the number of the network reach the end of its chain. -/
theorem climb_congr (f : Forest) {n s t : Nat} (hs : n ≤ s) (ht : n ≤ t) :
    f.climb s n = f.climb t n := by
  induction s generalizing n t with
  | zero =>
      obtain rfl := Nat.le_zero.mp hs
      cases t with
      | zero => rfl
      | succ t =>
          cases hb : f.base 0 with
          | none => simp [climb, hb]
          | some b => exact absurd (f.base_lt hb) (Nat.not_lt_zero b)
  | succ s ih =>
      cases hb : f.base n with
      | none => cases t <;> simp [climb, hb]
      | some b =>
          have hlt := f.base_lt hb
          cases t with
          | zero => exact absurd hlt (by omega)
          | succ t =>
              simp only [climb, hb]
              rw [ih (show b ≤ s by omega) (show b ≤ t by omega)]

/-- The chain above a network is its base followed by the chain above that. -/
theorem ancestors_eq (f : Forest) (n : Nat) :
    f.ancestors n =
      match f.base n with
      | none => []
      | some b => b :: f.ancestors b := by
  unfold ancestors
  cases n with
  | zero =>
      cases hb : f.base 0 with
      | none => rfl
      | some b => exact absurd (f.base_lt hb) (Nat.not_lt_zero b)
  | succ n =>
      cases hb : f.base (n + 1) with
      | none => simp [climb, hb]
      | some b =>
          have hlt := f.base_lt hb
          simp only [climb, hb]
          rw [climb_congr f (show b ≤ n by omega) (Nat.le_refl b)]

end Forest

/-- What a linkage connects a point set to. -/
structure LinkageKey where
  network : Nat
  mode : TravelMode
  deriving DecidableEq, Repr, Hashable

namespace LinkageKey

/-- The key of the base network for the same mode. -/
def base? (f : Forest) (key : LinkageKey) : Option LinkageKey :=
  (f.base key.network).map (⟨·, key.mode⟩)

/-- The key in texts. -/
def display (f : Forest) (key : LinkageKey) : String :=
  let label := f.label key.network
  let mode := key.mode.name
  s!"({label}, {mode})"

end LinkageKey

end StreetLinkage
