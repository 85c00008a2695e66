import StreetLinkage.Proofs.LastUse
import StreetLinkage.Proofs.Run

/-!
# The bounded tier as a view of its history

A key is used when its linkage is taken into the bounded tier and when the bounded tier answers for it,
be it for a lookup, for the base of another key or for a look without a build. An answer of the pinned
tier is no use, and neither is anything that a pin does.

`Follows` is the invariant of a run in which no linkage is foreign: the keys of the bounded tier are the
order of last use, cut at the capacity. `mem_keys_iff_usedSince` states it without any order.
-/

namespace StreetLinkage

/-- The key that an act uses, if any. -/
def Act.use? : Act → Option LinkageKey
  | answered key _ => some key
  | stored key _ => some key
  | _ => none

/-- The keys used by some acts, in order. -/
def usesOf (acts : List Act) : List LinkageKey := acts.filterMap Act.use?

@[simp] theorem usesOf_nil : usesOf [] = [] := rfl

@[simp] theorem usesOf_append (acts more : List Act) :
    usesOf (acts ++ more) = usesOf acts ++ usesOf more :=
  List.filterMap_append

theorem mem_usesOf_of_stored {history : List Act} {key : LinkageKey} {l : Linkage}
    (h : .stored key l ∈ history) : key ∈ usesOf history :=
  List.mem_filterMap.mpr ⟨.stored key l, h, rfl⟩

/-- The bounded tier of the store is what a history of acts leaves of it. -/
structure Follows (capacity : Nat) (s : LinkageStore) (history : List Act) : Prop where
  capacity_eq : s.config.capacity = capacity
  keys_eq : s.bounded.keys = (byLastUse (usesOf history)).take capacity
  exists_stored : ∀ key ∈ usesOf history, ∃ l, .stored key l ∈ history

namespace Follows

variable {capacity : Nat} {s t : LinkageStore} {history : List Act} {key : LinkageKey} {l : Linkage}

theorem congr (h : Follows capacity s history) (hb : t.bounded = s.bounded)
    (hc : t.config = s.config) : Follows capacity t history :=
  ⟨hc ▸ h.capacity_eq, hb ▸ h.keys_eq, h.exists_stored⟩

/-- Acts that only use keys that are stored by then keep it so. -/
theorem exists_stored_append (h : Follows capacity s history) {acts : List Act}
    (hacts : ∀ key ∈ usesOf acts, ∃ l, .stored key l ∈ history ++ acts) :
    ∀ key ∈ usesOf (history ++ acts), ∃ l, .stored key l ∈ history ++ acts := by
  intro key hkey
  rw [usesOf_append] at hkey
  rcases List.mem_append.mp hkey with hkey | hkey
  · obtain ⟨l, hl⟩ := h.exists_stored key hkey
    exact ⟨l, List.mem_append_left _ hl⟩
  · exact hacts key hkey

theorem idle (h : Follows capacity s history) {acts : List Act} (hacts : usesOf acts = []) :
    Follows capacity s (history ++ acts) where
  capacity_eq := h.capacity_eq
  keys_eq := by rw [usesOf_append, hacts, List.append_nil, h.keys_eq]
  exists_stored := h.exists_stored_append (by simp [hacts])

/-- The order after a use of a key, cut at the capacity, from the order before. -/
theorem keys_snoc (h : Follows capacity s history) (key : LinkageKey) :
    (byLastUse (usesOf history ++ [key])).take capacity =
      (key :: s.bounded.keys.filter (· ≠ key)).take capacity := by
  rw [byLastUse_snoc, h.keys_eq, take_push (nodup_byLastUse _)]

theorem answered (h : Follows capacity s history) (hl : s.bounded.find? key = some l) :
    Follows capacity (s.touch key) (history ++ [.answered key l]) where
  capacity_eq := h.capacity_eq
  keys_eq := by
    have hmem := Recency.mem_keys_of_find? hl
    have hlen : s.bounded.keys.length ≤ capacity := by
      rw [h.keys_eq]
      exact List.length_take_le _ _
    have hkeys : (s.touch key).bounded.keys = key :: s.bounded.keys.filter (· ≠ key) :=
      (Recency.keys_touch s.bounded key).trans (if_pos hmem)
    rw [hkeys, push_eq_take hlen hmem, usesOf_append]
    exact (h.keys_snoc key).symm
  exists_stored := by
    refine h.exists_stored_append fun k hk => ?_
    obtain rfl := List.mem_singleton.mp hk
    -- What the tier answers is in the order of last use, so it was stored before.
    have hmem := Recency.mem_keys_of_find? hl
    rw [h.keys_eq] at hmem
    obtain ⟨m, hm⟩ := h.exists_stored k (mem_byLastUse.mp (List.mem_of_mem_take hmem))
    exact ⟨m, List.mem_append_left _ hm⟩

theorem stored (h : Follows capacity s history) (key : LinkageKey) (l : Linkage) :
    Follows capacity (s.insert key l) (history ++ [.stored key l]) where
  capacity_eq := h.capacity_eq
  keys_eq := by
    have hkeys : (s.insert key l).bounded.keys =
        (key :: s.bounded.keys.filter (· ≠ key)).take capacity := by
      have hinsert : (s.insert key l).bounded.keys = _ :=
        Recency.keys_insert s.bounded s.config.capacity key l
      rw [hinsert, h.capacity_eq]
      split
      · -- A tier without room holds nothing to begin with.
        next hcap => rw [h.keys_eq, hcap]; rfl
      · rfl
    rw [hkeys, usesOf_append]
    exact (h.keys_snoc key).symm
  exists_stored := by
    refine h.exists_stored_append fun k hk => ?_
    obtain rfl := List.mem_singleton.mp hk
    exact ⟨l, List.mem_append_right _ (List.mem_singleton_self _)⟩

end Follows

/-! ### Along one operation -/

section Operations

open Scene

variable {σ : Type} {f : Forest} {L : Linker σ} {owner : PointSetId} {key : LinkageKey}
  {base : Option Linkage} {s s' : Scene σ} {acts history : List Act} {capacity : Nat}

theorem Made.follows {r : Except LinkageError Linkage} (h : Made L owner key base s acts r s')
    (hcalls : ∀ c ∈ callsOf acts, ¬c.ForeignTo owner) (hs : Follows capacity s.store history) :
    Follows capacity s'.store (history ++ acts) := by
  cases h with
  | failed hlink => exact (hs.idle rfl).congr rfl rfl
  | @stored l memory hlink hl =>
      have hasked := (hs.congr (t := (s.remember memory).store) rfl rfl).idle
        (show usesOf [.asked ⟨s.request owner key base, .ok l⟩] = [] from rfl)
      have hstored := hasked.stored key l
      rwa [List.append_assoc] at hstored
  | foreign hlink hl => exact absurd ⟨_, rfl, hl⟩ (hcalls _ (List.mem_cons_self ..))

theorem Lookup.follows {r : Except LinkageError Linkage} (h : Lookup f L owner key s acts r s')
    (hcalls : ∀ c ∈ callsOf acts, ¬c.ForeignTo owner) (hs : Follows capacity s.store history) :
    Follows capacity s'.store (history ++ acts) := by
  induction h with
  | pinned hp => exact (hs.idle rfl).congr rfl rfl
  | bounded hp hb => exact (hs.answered hb).congr rfl rfl
  | root hheld hbase hmade => exact hmade.follows hcalls (hs.congr rfl rfl)
  | baseFailed hheld hbase hlookup ih =>
      rw [callsOf_append] at hcalls
      have hbelow := ih (fun c hc => hcalls c (List.mem_append_left _ hc)) (hs.congr rfl rfl)
      rw [← List.append_assoc]
      exact hbelow.idle rfl
  | derived hheld hbase hlookup hmade ih =>
      rw [callsOf_append] at hcalls
      have hbelow := ih (fun c hc => hcalls c (List.mem_append_left _ hc)) (hs.congr rfl rfl)
      rw [← List.append_assoc]
      exact hmade.follows (fun c hc => hcalls c (List.mem_append_right _ hc)) hbelow

/-- A lookup that the pinned tier answers is no use. -/
theorem Lookup.bounded_eq_of_pinned {r : Except LinkageError Linkage} {l : Linkage}
    (h : Lookup f L owner key s acts r s') (hl : s.store.pinned? key = some l) :
    s'.store.bounded = s.store.bounded := by
  have hheld := LinkageStore.held?_of_pinned hl
  cases h with
  | pinned hp => rfl
  | bounded hp hb => rw [hp] at hl; cases hl
  | root hnot hbase hmade => rw [hnot] at hheld; cases hheld
  | baseFailed hnot hbase hlookup => rw [hnot] at hheld; cases hheld
  | derived hnot hbase hlookup hmade => rw [hnot] at hheld; cases hheld

/-- A pin asks for the key and may pin it; to the bounded tier it is nothing. -/
theorem Pin.bounded_eq {r : Except LinkageError Unit} (h : Pin L owner key s acts r s') :
    s'.store.bounded = s.store.bounded := by
  cases h <;> rfl

theorem Pin.follows {r : Except LinkageError Unit} (h : Pin L owner key s acts r s')
    (hs : Follows capacity s.store history) : Follows capacity s'.store (history ++ acts) := by
  cases h <;> exact (hs.idle rfl).congr rfl rfl

theorem Follows.get {s : LinkageStore} (hs : Follows capacity s history) (key : LinkageKey) :
    Follows capacity (s.get key).2 (history ++ s.readActs key) := by
  unfold LinkageStore.get LinkageStore.readActs
  cases hp : s.pinned? key with
  | some l => exact (hs.idle rfl).congr rfl rfl
  | none =>
      cases hb : s.bounded.find? key with
      | some l => exact hs.answered hb
      | none =>
          have hsame : (s.touch key).bounded = s.bounded := by
            simp [LinkageStore.touch, Recency.touch, hb]
          exact (hs.idle rfl).congr hsame rfl

end Operations

/-! ### Along a run -/

namespace PointSet

variable {σ ρ : Type} [PointAccess ρ] {f : Forest} {history : List Act} {capacity : Nat}

theorem follows_perform {p : PointSet σ ρ} (hp : p.store.OwnedBy p.id) (op : Operation) (w : World σ)
    (hcalls : ∀ c ∈ p.calls f op w, ¬c.ForeignTo p.id) (hs : Follows capacity p.store history) :
    Follows capacity (p.perform f op w).1.store (history ++ p.acts f op w) := by
  rw [calls_eq hp] at hcalls
  cases op with
  | get key =>
      obtain ⟨s', hlookup, hstate⟩ := lookup_derivation f key hp w
      rw [perform, hstate]
      exact hlookup.follows hcalls hs
  | pin key =>
      obtain ⟨s', hpin, hstate⟩ := pin_derivation f key p w
      rw [perform, hstate]
      exact hpin.follows hs
  | peek key => exact hs.get key
  | index =>
      rw [store_perform_index]
      exact (hs.idle rfl).congr rfl rfl
  | query a b =>
      rw [store_perform_query]
      exact (hs.idle rfl).congr rfl rfl

theorem follows_play (ops : List Operation) {p : PointSet σ ρ} (hp : p.store.OwnedBy p.id)
    (w : World σ) (hcalls : ∀ c ∈ p.runCalls f ops w, ¬c.ForeignTo p.id)
    (hs : Follows capacity p.store history) :
    Follows capacity (p.play f ops w).1.store (history ++ p.history f ops w) := by
  induction ops generalizing p w history with
  | nil =>
      rw [PointSet.history, List.append_nil]
      exact hs
  | cons op ops ih =>
      rw [runCalls] at hcalls
      have hstep := follows_perform hp op w (fun c hc => hcalls c (List.mem_append_left _ hc)) hs
      have hown := ownedBy_perform hp f op w
      rw [play, PointSet.history, ← List.append_assoc]
      refine ih ?_ _ ?_ hstep
      · rw [id_perform]
        exact hown
      · intro c hc
        rw [id_perform]
        exact hcalls c (List.mem_append_right _ hc)

end PointSet

theorem PointSet.bounded_perform_of_pinned {σ ρ : Type} [PointAccess ρ] {f : Forest} {p : PointSet σ ρ}
    (hp : p.store.OwnedBy p.id) {key : LinkageKey} {l : Linkage} (hl : p.store.pinned? key = some l)
    (w : World σ) :
    (p.perform f (.get key) w).1.store.bounded = p.store.bounded ∧
      (p.perform f (.peek key) w).1.store.bounded = p.store.bounded := by
  constructor
  · obtain ⟨s', hlookup, hstate⟩ := lookup_derivation f key hp w
    rw [perform, hstate]
    exact hlookup.bounded_eq_of_pinned hl
  · show (p.store.get key).2.bounded = p.store.bounded
    simp [LinkageStore.get, hl]

theorem PointSet.bounded_perform_pin {σ ρ : Type} [PointAccess ρ] (f : Forest) (key : LinkageKey)
    (p : PointSet σ ρ) (w : World σ) :
    (p.perform f (.pin key) w).1.store.bounded = p.store.bounded := by
  obtain ⟨s', hpin, hstate⟩ := pin_derivation f key p w
  rw [perform, hstate]
  exact hpin.bounded_eq

/-- **The bounded tier is a function of its history.** After any run of a new point set in which no
linkage that the linker makes is foreign, a key is in the bounded tier if and only if it was stored there
at some time and fewer distinct other keys than the capacity were used since it was used last.

From there on, a lookup of a pinned key with or without a build, and any pin, leave the bounded tier as it
is, its order included: they are no uses. -/
theorem mem_keys_iff_usedSince {σ ρ : Type} [PointAccess ρ] (f : Forest) (id : PointSetId) (source : ρ)
    (linker : Linker σ) (config : CacheConfig) (ops : List Operation) (w : World σ)
    (hcalls : ∀ c ∈ (PointSet.new id source linker config).runCalls f ops w, ¬c.ForeignTo id)
    (key : LinkageKey) :
    let p := PointSet.new id source linker config
    let q := (p.play f ops w).1
    (key ∈ q.store.bounded.keys ↔
      (∃ l, .stored key l ∈ p.history f ops w) ∧
        (usedSince key (usesOf (p.history f ops w))).card < config.capacity) ∧
      (∀ l w', q.store.pinned? key = some l →
        (q.perform f (.get key) w').1.store.bounded = q.store.bounded ∧
          (q.perform f (.peek key) w').1.store.bounded = q.store.bounded) ∧
      ∀ w', (q.perform f (.pin key) w').1.store.bounded = q.store.bounded := by
  intro p q
  have hnew : Reachable f p := .new id source linker config
  have hempty : Follows config.capacity p.store [] :=
    ⟨rfl, by simp [p, PointSet.new, Recency.keys], by simp⟩
  have hrun := PointSet.follows_play ops hnew.ownedBy w hcalls hempty
  rw [List.nil_append] at hrun
  refine ⟨?_, ?_, PointSet.bounded_perform_pin f key q⟩
  · rw [hrun.keys_eq, mem_take_byLastUse]
    constructor
    · rintro ⟨hused, hcard⟩
      exact ⟨hrun.exists_stored key hused, hcard⟩
    · rintro ⟨⟨l, hl⟩, hcard⟩
      exact ⟨mem_usesOf_of_stored hl, hcard⟩
  · intro l w' hl
    exact PointSet.bounded_perform_of_pinned (hnew.play ops w).ownedBy hl w'

/-- Two of three networks fit. A look at the first one before the third is linked keeps the first and
gives up the second. -/
theorem mem_keys_iff_usedSince_after_look :
    let f := Forest.ofList [("city", none), ("suburb", none), ("airport", none)]
    let p := PointSet.new 7 (PointSource.freeForm []) Linker.scripted { capacity := 2 }
    let ops := [.get ⟨0, .walk⟩, .get ⟨1, .walk⟩, .peek ⟨0, .walk⟩, .get ⟨2, .walk⟩]
    let w := World.withTurns []
    (∀ c ∈ p.runCalls f ops w, ¬c.ForeignTo 7) ∧
      ⟨0, .walk⟩ ∈ (p.play f ops w).1.store.bounded.keys ∧
      ⟨1, .walk⟩ ∉ (p.play f ops w).1.store.bounded.keys := by
  intro f p ops w
  have hcalls : ∀ c ∈ p.runCalls f ops w, ¬c.ForeignTo 7 := by decide
  have hiff := fun key => (mem_keys_iff_usedSince f 7 _ _ _ ops w hcalls key).1
  refine ⟨hcalls, (hiff _).mpr ⟨⟨_, .tail _ (.head _)⟩, by decide⟩, fun hmem => ?_⟩
  exact absurd ((hiff _).mp hmem).2 (by decide)

end StreetLinkage
