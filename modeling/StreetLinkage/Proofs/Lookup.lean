import StreetLinkage.Store.Lookup
import StreetLinkage.Proofs.Tiers

/-!
# Lookups as derivations

`Scene.getLinkage` climbs a chain of base networks, builds on the way back and may fail at every level.
This module says once what that recursion can do.

* `Act` is one thing that a lookup does to a key, and `Scene.lookupActs` lists the acts of a lookup in
  the order in which they happen. It follows the recursion of `getLinkage` and changes nothing.
* `Made` has one rule for each outcome of asking the linker: it fails, its linkage is stored, or its
  linkage is foreign and goes again after it was stored.
* `Lookup` has one rule for each way in which a lookup ends, with the lookup of the base key as its
  premise. It does not mention the check of the owner on answers from a tier: in a store of one owner
  that check never fails.

`Lookup.eval` and `lookup_getLinkage` tie the rules to the functions in both directions, for every scene
whose store has one owner. Later proofs go by induction on `Lookup` and never unfold the functions.
-/

namespace StreetLinkage

/-! ### Calls and acts -/

/-- One call of the linker: what it was asked and what it answered. -/
structure LinkCall where
  request : LinkRequest
  outcome : Except BuildError Linkage

namespace LinkCall

/-- The key that is to be linked. -/
def key (c : LinkCall) : LinkageKey := c.request.key

/-- The linkage that the linker was given to start from. -/
def base? (c : LinkCall) : Option Linkage := c.request.base

/-- The linkage that came out. -/
def linkage? (c : LinkCall) : Option Linkage := c.outcome.toOption

/-- The call gave a linkage, and that of the right point set. -/
def SucceedsFor (c : LinkCall) (owner : PointSetId) : Prop :=
  ∃ l, c.outcome = .ok l ∧ l.belongsTo owner = true

/-- The call gave a linkage of another point set. -/
def ForeignTo (c : LinkCall) (owner : PointSetId) : Prop :=
  ∃ l, c.outcome = .ok l ∧ l.belongsTo owner = false

instance (c : LinkCall) (P : Linkage → Prop) [DecidablePred P] :
    Decidable (∃ l, c.outcome = .ok l ∧ P l) :=
  match h : c.outcome with
  | .error _ => isFalse fun ⟨_, hl, _⟩ => by cases hl
  | .ok l => decidable_of_iff (P l) ⟨fun hl => ⟨l, rfl, hl⟩, fun ⟨_, hm, hl⟩ => Except.ok.inj hm ▸ hl⟩

instance (c : LinkCall) (owner : PointSetId) : Decidable (c.SucceedsFor owner) :=
  inferInstanceAs (Decidable (∃ l, c.outcome = .ok l ∧ l.belongsTo owner = true))

instance (c : LinkCall) (owner : PointSetId) : Decidable (c.ForeignTo owner) :=
  inferInstanceAs (Decidable (∃ l, c.outcome = .ok l ∧ l.belongsTo owner = false))

/-- What the lookup that made the call gets out of it. -/
def result (c : LinkCall) : Except LinkageError Linkage :=
  match c.outcome with
  | .error e => .error (.build c.key e)
  | .ok l => if l.belongsTo c.request.owner then .ok l else .error (.invariantViolation c.key)

end LinkCall

/-- One thing that an operation does to a key. -/
inductive Act where
  /-- The pinned tier answered. -/
  | answeredPinned (key : LinkageKey) (l : Linkage)
  /-- The bounded tier answered. -/
  | answered (key : LinkageKey) (l : Linkage)
  /-- The linker was called. -/
  | asked (call : LinkCall)
  /-- A build for the bounded tier ended without a linkage, its own or already that of its base. -/
  | failed (key : LinkageKey)
  /-- A build for the bounded tier ended, and its linkage was taken in. -/
  | stored (key : LinkageKey) (l : Linkage)
  /-- What was just stored belongs to another point set and went again. -/
  | dropped (key : LinkageKey)
  /-- A linkage was pinned. -/
  | pinned (key : LinkageKey) (l : Linkage)

/-- The call of the linker among the acts. -/
def Act.call? : Act → Option LinkCall
  | asked call => some call
  | _ => none

/-- The calls of the linker among some acts, in order. -/
def callsOf (acts : List Act) : List LinkCall := acts.filterMap Act.call?

@[simp] theorem callsOf_nil : callsOf [] = [] := rfl

@[simp] theorem callsOf_append (acts more : List Act) :
    callsOf (acts ++ more) = callsOf acts ++ callsOf more :=
  List.filterMap_append

@[simp] theorem callsOf_answeredPinned (key : LinkageKey) (l : Linkage) :
    callsOf [.answeredPinned key l] = [] := rfl

@[simp] theorem callsOf_answered (key : LinkageKey) (l : Linkage) :
    callsOf [.answered key l] = [] := rfl

@[simp] theorem callsOf_failed (key : LinkageKey) : callsOf [.failed key] = [] := rfl

theorem callsOf_append_failed (acts : List Act) (key : LinkageKey) :
    callsOf (acts ++ [.failed key]) = callsOf acts := by
  simp

namespace Scene

variable {σ : Type}

/-! ### The scenes a lookup passes through -/

/-- The linker has another memory. -/
def remember (s : Scene σ) (memory : σ) : Scene σ :=
  { s with world := { s.world with memory } }

/-- A lookup that the pinned tier answers. -/
def answerPinned (s : Scene σ) (key : LinkageKey) : Scene σ :=
  ((s.emit (.seeking key)).countLookup.countPinnedHit).emit (.foundPinned key)

/-- A lookup that the bounded tier answers. -/
def answer (s : Scene σ) (key : LinkageKey) : Scene σ :=
  ((s.emit (.seeking key)).countLookup).touch key

/-- A lookup that has to build. -/
def miss (s : Scene σ) (key : LinkageKey) : Scene σ :=
  ((s.emit (.seeking key)).countLookup.countBuild).emit (.building key)

/-- A lookup that has to build on the linkage of a base key. -/
def missOver (s : Scene σ) (key base : LinkageKey) : Scene σ :=
  (s.miss key).emit (.basing key base)

/-- A foreign linkage is taken in, reported and dropped. -/
def reject (s : Scene σ) (key : LinkageKey) (l : Linkage) : Scene σ :=
  ((s.insert key l).emit (.foreignFound key)).invalidate key

section Views

variable (s : Scene σ) (key base : LinkageKey) (l : Linkage) (memory : σ)

@[simp] theorem store_remember : (s.remember memory).store = s.store := rfl

@[simp] theorem store_answerPinned : (s.answerPinned key).store =
    { s.store with lookups := s.store.lookups + 1, pinnedHits := s.store.pinnedHits + 1 } := rfl

@[simp] theorem store_answer : (s.answer key).store =
    { s.store.touch key with lookups := s.store.lookups + 1 } := rfl

@[simp] theorem store_miss : (s.miss key).store =
    { s.store with lookups := s.store.lookups + 1, builds := s.store.builds + 1 } := rfl

@[simp] theorem store_missOver : (s.missOver key base).store = (s.miss key).store := rfl

@[simp] theorem store_insert : (s.insert key l).store = s.store.insert key l := rfl

@[simp] theorem store_reject : (s.reject key l).store = (s.store.insert key l).invalidate key := rfl

@[simp] theorem events_remember : (s.remember memory).world.events = s.world.events := rfl

@[simp] theorem events_answerPinned : (s.answerPinned key).world.events =
    s.world.events ++ [.seeking key, .foundPinned key] :=
  List.append_assoc ..

@[simp] theorem events_answer : (s.answer key).world.events = s.world.events ++ [.seeking key] := rfl

@[simp] theorem events_miss : (s.miss key).world.events =
    s.world.events ++ [.seeking key, .building key] :=
  List.append_assoc ..

@[simp] theorem events_missOver : (s.missOver key base).world.events =
    (s.miss key).world.events ++ [.basing key base] := rfl

@[simp] theorem events_insert : (s.insert key l).world.events =
    s.world.events ++ (s.store.bounded.dropped s.store.config.capacity key l).map .evicted := rfl

@[simp] theorem events_reject : (s.reject key l).world.events =
    (s.insert key l).world.events ++ [.foreignFound key] := rfl

end Views

/-- What a lookup does with the outcome of its build. -/
def settle (owner : PointSetId) (key : LinkageKey) :
    Except LinkageError Linkage × Scene σ → Except LinkageError Linkage × Scene σ
  | (.error e, s) => (.error e, s)
  | (.ok l, s) =>
      if l.belongsTo owner then (.ok l, s.insert key l)
      else (.error (.invariantViolation key), s.reject key l)

/-! ### What a lookup does, in order -/

/-- The request that asks for a linkage in a scene. -/
def request (s : Scene σ) (owner : PointSetId) (key : LinkageKey) (base : Option Linkage) :
    LinkRequest :=
  ⟨owner, s.store, key, base⟩

/-- The acts of asking the linker for a linkage and of settling its answer. -/
def makeActs (L : Linker σ) (owner : PointSetId) (key : LinkageKey) (base : Option Linkage)
    (s : Scene σ) : List Act :=
  let request := s.request owner key base
  match (L.link request s.world.memory).1 with
  | .error e => [.asked ⟨request, .error e⟩, .failed key]
  | .ok l =>
      .asked ⟨request, .ok l⟩ :: .stored key l ::
        if l.belongsTo owner then [] else [.dropped key]

/-- The acts of `resolve`, given those of looking up the base key. -/
def resolveActs (L : Linker σ) (owner : PointSetId) (key : LinkageKey)
    (base : Option (LinkageKey × Step σ Linkage × (Scene σ → List Act))) (s : Scene σ) : List Act :=
  match s.store.pinned? key, s.store.bounded.find? key with
  | some l, _ => [.answeredPinned key l]
  | none, some l => [.answered key l]
  | none, none =>
      match base with
      | none => makeActs L owner key none (s.miss key)
      | some (baseKey, getBase, baseActs) =>
          baseActs (s.missOver key baseKey) ++
            match getBase (s.missOver key baseKey) with
            | (.error _, _) => [.failed key]
            | (.ok l, s) => makeActs L owner key (some l) s

/-- The acts of `resolveChain`. -/
def chainActs (L : Linker σ) (owner : PointSetId) (mode : TravelMode) :
    Nat → List Nat → Scene σ → List Act
  | n, [] => resolveActs L owner ⟨n, mode⟩ none
  | n, b :: rest =>
      resolveActs L owner ⟨n, mode⟩
        (some (⟨b, mode⟩, resolveChain L owner mode b rest, chainActs L owner mode b rest))

/-- The acts of `getLinkage`. -/
def lookupActs (f : Forest) (L : Linker σ) (owner : PointSetId) (key : LinkageKey) :
    Scene σ → List Act :=
  chainActs L owner key.mode key.network (f.ancestors key.network)

theorem lookupActs_eq (f : Forest) (L : Linker σ) (owner : PointSetId) (key : LinkageKey) :
    lookupActs f L owner key =
      resolveActs L owner key
        ((key.base? f).map fun b => (b, getLinkage f L owner b, lookupActs f L owner b)) := by
  unfold lookupActs getLinkage LinkageKey.base?
  rw [f.ancestors_eq]
  cases f.base key.network <;> rfl

end Scene

/-! ### The rules -/

section Rules

variable {σ : Type}

open Scene

/-- The linker is asked for a linkage in scene `s`, and its answer is settled. -/
inductive Made (L : Linker σ) (owner : PointSetId) (key : LinkageKey) (base : Option Linkage)
    (s : Scene σ) : List Act → Except LinkageError Linkage → Scene σ → Prop
  /-- The linker fails. -/
  | failed {e memory} :
      L.link (s.request owner key base) s.world.memory = (.error e, memory) →
      Made L owner key base s [.asked ⟨s.request owner key base, .error e⟩, .failed key]
        (.error (.build key e)) (s.remember memory)
  /-- The linkage belongs to the point set and is taken in. -/
  | stored {l memory} :
      L.link (s.request owner key base) s.world.memory = (.ok l, memory) →
      l.belongsTo owner = true →
      Made L owner key base s [.asked ⟨s.request owner key base, .ok l⟩, .stored key l]
        (.ok l) ((s.remember memory).insert key l)
  /-- The linkage belongs to another point set. -/
  | foreign {l memory} :
      L.link (s.request owner key base) s.world.memory = (.ok l, memory) →
      l.belongsTo owner = false →
      Made L owner key base s
        [.asked ⟨s.request owner key base, .ok l⟩, .stored key l, .dropped key]
        (.error (.invariantViolation key)) ((s.remember memory).reject key l)

/-- A lookup of a key in a scene: its acts, its result, and the scene that it leaves. -/
inductive Lookup (f : Forest) (L : Linker σ) (owner : PointSetId) :
    LinkageKey → Scene σ → List Act → Except LinkageError Linkage → Scene σ → Prop
  /-- The pinned tier answers. -/
  | pinned {key s l} : s.store.pinned? key = some l →
      Lookup f L owner key s [.answeredPinned key l] (.ok l) (s.answerPinned key)
  /-- The bounded tier answers. -/
  | bounded {key s l} : s.store.pinned? key = none → s.store.bounded.find? key = some l →
      Lookup f L owner key s [.answered key l] (.ok l) (s.answer key)
  /-- No tier answers, and the key has no base. -/
  | root {key s acts r s'} : s.store.held? key = none → key.base? f = none →
      Made L owner key none (s.miss key) acts r s' →
      Lookup f L owner key s acts r s'
  /-- No tier answers, and the base cannot be had. -/
  | baseFailed {key b s acts e s'} : s.store.held? key = none → key.base? f = some b →
      Lookup f L owner b (s.missOver key b) acts (.error e) s' →
      Lookup f L owner key s (acts ++ [.failed key]) (.error e) s'
  /-- No tier answers, and the linkage is made from that of the base. -/
  | derived {key b s acts l s₁ more r s'} : s.store.held? key = none → key.base? f = some b →
      Lookup f L owner b (s.missOver key b) acts (.ok l) s₁ →
      Made L owner key (some l) s₁ more r s' →
      Lookup f L owner key s (acts ++ more) r s'

/-! ### Ownership along a derivation -/

variable {f : Forest} {L : Linker σ} {owner : PointSetId} {key : LinkageKey} {base : Option Linkage}
  {s s' : Scene σ} {acts : List Act} {r : Except LinkageError Linkage}

theorem Made.ownedBy (h : Made L owner key base s acts r s') (hs : s.store.OwnedBy owner) :
    s'.store.OwnedBy owner := by
  cases h with
  | failed hlink => exact hs
  | stored hlink hl => exact hs.insert key hl
  | foreign hlink hl => exact hs.insert_invalidate key _

/-- **The invariant is restored on every exit**: a foreign linkage that was taken in is gone when its
level ends, whether or not the levels above it go on. -/
theorem Lookup.ownedBy (h : Lookup f L owner key s acts r s') (hs : s.store.OwnedBy owner) :
    s'.store.OwnedBy owner := by
  induction h with
  | pinned hp => exact hs.congr rfl rfl
  | bounded hp hb => exact (hs.touch _).congr rfl rfl
  | root hheld hbase hmade => exact hmade.ownedBy (hs.congr rfl rfl)
  | baseFailed hheld hbase hlookup ih => exact ih (hs.congr rfl rfl)
  | derived hheld hbase hlookup hmade ih => exact hmade.ownedBy (ih (hs.congr rfl rfl))

theorem Made.result_belongsTo {l : Linkage} (h : Made L owner key base s acts (.ok l) s') :
    l.belongsTo owner = true := by
  cases h with
  | stored hlink hl => exact hl

/-- What a lookup hands out belongs to the owner. -/
theorem Lookup.result_belongsTo {l : Linkage} (h : Lookup f L owner key s acts (.ok l) s')
    (hs : s.store.OwnedBy owner) : l.belongsTo owner = true := by
  cases h with
  | pinned hp => exact hs.of_pinned? hp
  | bounded hp hb => exact hs.of_find? hb
  | root hheld hbase hmade => exact hmade.result_belongsTo
  | derived hheld hbase hlookup hmade => exact hmade.result_belongsTo

/-! ### The calls of a derivation -/

/-- A level asks the linker once, and its result is read off the call. -/
theorem Made.exists_call (h : Made L owner key base s acts r s') :
    ∃ c : LinkCall, callsOf acts = [c] ∧ c.request = s.request owner key base ∧ c.result = r := by
  cases h with
  | failed hlink => exact ⟨_, rfl, rfl, rfl⟩
  | stored hlink hl => exact ⟨_, rfl, rfl, if_pos hl⟩
  | foreign hlink hl => exact ⟨_, rfl, rfl, if_neg (ne_true_of_eq_false hl)⟩

/-- Every call is made for the owner, and from a linkage of the owner if from any. -/
theorem Lookup.call_owned (h : Lookup f L owner key s acts r s') (hs : s.store.OwnedBy owner) :
    ∀ c ∈ callsOf acts,
      c.request.owner = owner ∧ ∀ l, c.base? = some l → l.belongsTo owner = true := by
  induction h with
  | pinned hp => simp
  | bounded hp hb => simp
  | root hheld hbase hmade =>
      obtain ⟨c, hcalls, hrequest, -⟩ := hmade.exists_call
      intro d hd
      rw [hcalls, List.mem_singleton] at hd
      subst hd
      exact ⟨congrArg LinkRequest.owner hrequest,
        fun l hl => by simp [LinkCall.base?, hrequest, request] at hl⟩
  | baseFailed hheld hbase hlookup ih =>
      intro d hd
      rw [callsOf_append] at hd
      rcases List.mem_append.mp hd with hd | hd
      · exact ih (hs.congr rfl rfl) d hd
      · simp at hd
  | derived hheld hbase hlookup hmade ih =>
      obtain ⟨c, hcalls, hrequest, -⟩ := hmade.exists_call
      intro d hd
      rw [callsOf_append, hcalls] at hd
      rcases List.mem_append.mp hd with hd | hd
      · exact ih (hs.congr rfl rfl) d hd
      · rw [List.mem_singleton] at hd
        subst hd
        refine ⟨congrArg LinkRequest.owner hrequest, fun m hm => ?_⟩
        simp only [LinkCall.base?, hrequest, request, Option.some.injEq] at hm
        exact hm ▸ hlookup.result_belongsTo (hs.congr rfl rfl)

/-! ### From the rules to the functions -/

/-- What no tier holds is built, and the outcome of the build is settled. -/
theorem Scene.resolve_of_not_held (base : Option (LinkageKey × Step σ Linkage))
    (h : s.store.held? key = none) :
    resolve L owner key base s =
      settle owner key
        (build L owner key base ((s.emit (.seeking key)).countLookup.countBuild)) := by
  obtain ⟨hp, hb⟩ := LinkageStore.held?_eq_none_iff.mp h
  have hp' : (s.emit (.seeking key)).countLookup.store.pinned? key = none := hp
  have hb' : (s.emit (.seeking key)).countLookup.store.bounded.find? key = none := hb
  unfold resolve getOrTryBuild
  simp only [hp', hb']
  rcases build L owner key base ((s.emit (.seeking key)).countLookup.countBuild) with ⟨_ | l, s₁⟩ <;>
    rfl

theorem Scene.resolve_of_pinned (base : Option (LinkageKey × Step σ Linkage)) {l : Linkage}
    (h : s.store.pinned? key = some l) (hl : l.belongsTo owner = true) :
    resolve L owner key base s = (.ok l, s.answerPinned key) := by
  have h' : (s.emit (.seeking key)).countLookup.store.pinned? key = some l := h
  unfold resolve getOrTryBuild
  simp only [h', hl, if_true]
  rfl

theorem Scene.resolve_of_bounded (base : Option (LinkageKey × Step σ Linkage)) {l : Linkage}
    (hp : s.store.pinned? key = none) (hb : s.store.bounded.find? key = some l)
    (hl : l.belongsTo owner = true) :
    resolve L owner key base s = (.ok l, s.answer key) := by
  have hp' : (s.emit (.seeking key)).countLookup.store.pinned? key = none := hp
  have hb' : (s.emit (.seeking key)).countLookup.store.bounded.find? key = some l := hb
  unfold resolve getOrTryBuild
  simp only [hp', hb', hl, if_true]
  rfl

theorem Made.eval (h : Made L owner key base s acts r s') :
    settle owner key (link L owner key base s) = (r, s') ∧ makeActs L owner key base s = acts := by
  cases h with
  | failed hlink =>
      unfold request at hlink
      simp [link, makeActs, request, settle, hlink, remember]
  | stored hlink hl =>
      unfold request at hlink
      simp [link, makeActs, request, settle, hlink, hl, remember]
  | foreign hlink hl =>
      unfold request at hlink
      simp [link, makeActs, request, settle, hlink, hl, remember]

/-- **The functions follow the rules.** In a store of one owner, a derivation determines what
`getLinkage` returns, the scene that it leaves and its acts. -/
theorem Lookup.eval (h : Lookup f L owner key s acts r s') (hs : s.store.OwnedBy owner) :
    getLinkage f L owner key s = (r, s') ∧ lookupActs f L owner key s = acts := by
  induction h with
  | pinned hp =>
      rw [getLinkage_eq, lookupActs_eq, resolve_of_pinned _ hp (hs.of_pinned? hp)]
      simp [resolveActs, hp]
  | bounded hp hb =>
      rw [getLinkage_eq, lookupActs_eq, resolve_of_bounded _ hp hb (hs.of_find? hb)]
      simp [resolveActs, hp, hb]
  | root hheld hbase hmade =>
      obtain ⟨hp, hb⟩ := LinkageStore.held?_eq_none_iff.mp hheld
      rw [getLinkage_eq, lookupActs_eq, hbase, Option.map_none, Option.map_none,
        resolve_of_not_held none hheld]
      refine ⟨hmade.eval.1, ?_⟩
      simp only [resolveActs, hp, hb]
      exact hmade.eval.2
  | baseFailed hheld hbase hlookup ih =>
      -- Up to the lookup of the base only counters and events have changed, so the tiers are owned.
      obtain ⟨hget, hacts⟩ := ih (hs.congr rfl rfl)
      obtain ⟨hp, hb⟩ := LinkageStore.held?_eq_none_iff.mp hheld
      rw [getLinkage_eq, lookupActs_eq, hbase, Option.map_some, Option.map_some,
        resolve_of_not_held _ hheld]
      unfold missOver miss at hget hacts
      simp [build, resolveActs, settle, hp, hb, missOver, miss, hget, hacts]
  | derived hheld hbase hlookup hmade ih =>
      obtain ⟨hget, hacts⟩ := ih (hs.congr rfl rfl)
      obtain ⟨hp, hb⟩ := LinkageStore.held?_eq_none_iff.mp hheld
      rw [getLinkage_eq, lookupActs_eq, hbase, Option.map_some, Option.map_some,
        resolve_of_not_held _ hheld]
      unfold missOver miss at hget hacts
      simp [build, resolveActs, hp, hb, missOver, miss, hget, hacts, hmade.eval.1, hmade.eval.2]

/-! ### From the functions to the rules -/

theorem exists_made (L : Linker σ) (owner : PointSetId) (key : LinkageKey) (base : Option Linkage)
    (s : Scene σ) : ∃ acts r s', Made L owner key base s acts r s' := by
  rcases hlink : L.link (s.request owner key base) s.world.memory with ⟨e | l, memory⟩
  · exact ⟨_, _, _, .failed hlink⟩
  · cases hl : l.belongsTo owner with
    | true => exact ⟨_, _, _, .stored hlink hl⟩
    | false => exact ⟨_, _, _, .foreign hlink hl⟩

/-- Every lookup has a derivation: a base network is older than its copies, so the climb ends. -/
theorem exists_lookup (f : Forest) (L : Linker σ) (owner : PointSetId) (key : LinkageKey)
    (s : Scene σ) : ∃ acts r s', Lookup f L owner key s acts r s' := by
  obtain ⟨n, mode⟩ := key
  -- On the number of the network, for every scene: the base is looked up in a later one.
  induction n using Nat.strongRecOn generalizing s with
  | ind n ih =>
      cases hp : s.store.pinned? ⟨n, mode⟩ with
      | some l => exact ⟨_, _, _, .pinned hp⟩
      | none =>
          cases hb : s.store.bounded.find? ⟨n, mode⟩ with
          | some l => exact ⟨_, _, _, .bounded hp hb⟩
          | none =>
              have hheld := LinkageStore.held?_eq_none_iff.mpr ⟨hp, hb⟩
              cases hbase : f.base n with
              | none =>
                  obtain ⟨acts, r, s', hmade⟩ := exists_made L owner ⟨n, mode⟩ none (s.miss ⟨n, mode⟩)
                  exact ⟨_, _, _, .root hheld (by simp [LinkageKey.base?, hbase]) hmade⟩
              | some b =>
                  have hkey : LinkageKey.base? f ⟨n, mode⟩ = some ⟨b, mode⟩ := by
                    simp [LinkageKey.base?, hbase]
                  obtain ⟨acts, r, s₁, hlookup⟩ :=
                    ih b (f.base_lt hbase) (s.missOver ⟨n, mode⟩ ⟨b, mode⟩)
                  cases r with
                  | error e => exact ⟨_, _, _, .baseFailed hheld hkey hlookup⟩
                  | ok l =>
                      obtain ⟨more, r, s', hmade⟩ := exists_made L owner ⟨n, mode⟩ (some l) s₁
                      exact ⟨_, _, _, .derived hheld hkey hlookup hmade⟩

/-- **The rules cover the functions.** In a store of one owner, `getLinkage` and its acts have a
derivation. -/
theorem lookup_getLinkage (f : Forest) (L : Linker σ) (key : LinkageKey)
    (hs : s.store.OwnedBy owner) :
    Lookup f L owner key s (lookupActs f L owner key s) (getLinkage f L owner key s).1
      (getLinkage f L owner key s).2 := by
  obtain ⟨acts, r, s', h⟩ := exists_lookup f L owner key s
  obtain ⟨hget, hacts⟩ := h.eval hs
  rwa [hget, hacts]

end Rules

end StreetLinkage
