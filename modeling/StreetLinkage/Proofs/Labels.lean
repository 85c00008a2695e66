import StreetLinkage.Proofs.Freshness
import StreetLinkage.Proofs.Capacity

/-!
# Labels never decide

Networks have labels, and several networks may have the same one. Labels are for texts: what a point set
does depends on which network is derived from which, and never on how they are called.

The theorem is about two runs, over two forests with the same bases. Everything that a point set reads of
a forest is a chain of bases (`Forest.ancestors_of_base_eq`), so each operation does the same in both
(`PointSet.perform_of_base_eq`), and so does a whole run (`PointSet.trace_of_base_eq`).

Within one run, networks of one label are kept apart because a key is a number and a mode. What the tiers
hold under a key was made for that very key (`PointSet.each_play`), and an operation on a key leaves alone
what answers for keys outside its lineage (`PointSet.held?_of_perform`), such as that of another network
with the same label and the same base.
-/

namespace StreetLinkage

/-! ### Two forests with the same bases -/

/-- The same networks under other labels. -/
def Forest.relabel (f : Forest) (label : Nat → String) : Forest :=
  { f with label }

/-- The linker that is set up for a forest does not depend on the labels in it. -/
def ReadsNoLabels {σ : Type} (builder : Forest → Linker σ) : Prop :=
  ∀ f g : Forest, f.base = g.base → builder f = builder g

/-- What an operation answers. -/
inductive Reply where
  | linkage (result : Except LinkageError Linkage)
  | pinned (result : Except LinkageError Unit)
  | present (found : Option Linkage)
  | index (result : Except Fault SpatialIndex)
  | points (result : Except Fault (List Nat))

namespace PointSet

variable {σ ρ : Type} [PointAccess ρ]

/-- The answer of an operation. -/
def reply (f : Forest) (op : Operation) (p : PointSet σ ρ) (w : World σ) : Reply :=
  match op with
  | .get key => .linkage (p.getLinkage f key w).1
  | .pin key => .pinned (p.pinLinkage key w).1
  | .peek key => .present (p.linkageIfPresent key).1
  | .index => .index (p.spatialIndex w).1
  | .query a b => .points (p.pointsInEnvelope a b w).1

/-- The answer of each operation of a run, with the point set and the world after it. -/
def trace (f : Forest) : List Operation → PointSet σ ρ → World σ → List (Reply × PointSet σ ρ × World σ)
  | [], _, _ => []
  | op :: ops, p, w =>
      (p.reply f op w, p.perform f op w) ::
        trace f ops (p.perform f op w).1 (p.perform f op w).2

end PointSet

section Congruence

variable {σ ρ : Type} [PointAccess ρ] {f g : Forest}

theorem Forest.climb_of_base_eq (h : f.base = g.base) (steps n : Nat) :
    f.climb steps n = g.climb steps n := by
  induction steps generalizing n with
  | zero => rfl
  | succ steps ih =>
      rw [climb, climb, h]
      cases g.base n with
      | none => rfl
      | some b => exact congrArg (b :: ·) (ih b)

/-- The chain above a network is made of bases. -/
theorem Forest.ancestors_of_base_eq (h : f.base = g.base) (n : Nat) :
    f.ancestors n = g.ancestors n :=
  climb_of_base_eq h n n

theorem Scene.getLinkage_of_base_eq (h : f.base = g.base) (L : Linker σ) (owner : PointSetId)
    (key : LinkageKey) : getLinkage f L owner key = getLinkage g L owner key := by
  rw [getLinkage, getLinkage, Forest.ancestors_of_base_eq h]

namespace PointSet

omit [PointAccess ρ] in
theorem getLinkage_of_base_eq (h : f.base = g.base) (key : LinkageKey) (p : PointSet σ ρ)
    (w : World σ) : p.getLinkage f key w = p.getLinkage g key w := by
  rw [getLinkage, getLinkage, Scene.getLinkage_of_base_eq h]

/-- An operation leaves the same behind and gives the same answer. -/
theorem perform_of_base_eq (h : f.base = g.base) (op : Operation) (p : PointSet σ ρ) (w : World σ) :
    p.perform f op w = p.perform g op w ∧ p.reply f op w = p.reply g op w := by
  cases op with
  | get key =>
      rw [perform, perform, reply, reply, getLinkage_of_base_eq h]
      exact ⟨rfl, rfl⟩
  | pin key => exact ⟨rfl, rfl⟩
  | peek key => exact ⟨rfl, rfl⟩
  | index => exact ⟨rfl, rfl⟩
  | query a b => exact ⟨rfl, rfl⟩

theorem calls_of_base_eq (h : f.base = g.base) (op : Operation) (p : PointSet σ ρ) (w : World σ) :
    p.calls f op w = p.calls g op w := by
  rw [calls, calls, (perform_of_base_eq h op p.recorded _).1]

/-- A run meets the same states and gives the same answers, and asks the linker for the same. -/
theorem trace_of_base_eq (h : f.base = g.base) (ops : List Operation) (p : PointSet σ ρ)
    (w : World σ) :
    p.trace f ops w = p.trace g ops w ∧ p.play f ops w = p.play g ops w ∧
      p.runCalls f ops w = p.runCalls g ops w := by
  induction ops generalizing p w with
  | nil => exact ⟨rfl, rfl, rfl⟩
  | cons op ops ih =>
      obtain ⟨hstate, hreply⟩ := perform_of_base_eq h op p w
      obtain ⟨htrace, hplay, hcalls⟩ := ih (p.perform g op w).1 (p.perform g op w).2
      refine ⟨?_, ?_, ?_⟩
      · rw [trace, trace, hstate, hreply, htrace]
      · rw [play, play, hstate, hplay]
      · rw [runCalls, runCalls, hstate, calls_of_base_eq h, hcalls]

end PointSet

end Congruence

/-! ### Linkages stay with their keys -/

section Operations

variable {σ : Type} {f : Forest} {L : Linker σ} {owner : PointSetId} {key k : LinkageKey}
  {base : Option Linkage} {s s' : Scene σ} {acts : List Act} {P : LinkageKey → Linkage → Prop}

theorem Made.each_of_calls {r : Except LinkageError Linkage} (h : Made L owner key base s acts r s')
    (hs : s.store.Each P) (hmake : ∀ c ∈ callsOf acts, ∀ l, c.linkage? = some l → P c.key l) :
    s'.store.Each P := by
  cases h with
  | failed hlink => exact hs
  | stored hlink hl => exact hs.insert (hmake _ (List.mem_singleton_self _) _ rfl)
  | foreign hlink hl => exact hs.insert_invalidate key _

/-- What holds of all linkages that a lookup makes, and of all entries before it, holds of all entries
after it. -/
theorem Lookup.each_of_calls {r : Except LinkageError Linkage} (h : Lookup f L owner key s acts r s')
    (hs : s.store.Each P) (hmake : ∀ c ∈ callsOf acts, ∀ l, c.linkage? = some l → P c.key l) :
    s'.store.Each P := by
  induction h with
  | pinned hp => exact hs.congr rfl rfl
  | bounded hp hb => exact (hs.touch _).congr rfl rfl
  | root hheld hbase hmade => exact hmade.each_of_calls (hs.congr rfl rfl) hmake
  | baseFailed hheld hbase hlookup ih =>
      rw [callsOf_append_failed] at hmake
      exact ih (hs.congr rfl rfl) hmake
  | derived hheld hbase hlookup hmade ih =>
      rw [callsOf_append] at hmake
      refine hmade.each_of_calls ?_ fun c hc => hmake c (List.mem_append_right _ hc)
      exact ih (hs.congr rfl rfl) fun c hc => hmake c (List.mem_append_left _ hc)

theorem Pin.each_of_calls {r : Except LinkageError Unit} (h : Pin L owner key s acts r s')
    (hs : s.store.Each P) (hmake : ∀ c ∈ callsOf acts, ∀ l, c.linkage? = some l → P c.key l) :
    s'.store.Each P := by
  cases h with
  | refused hrefuse => exact hs
  | failed hrefuse hlink => exact hs
  | foreign hrefuse hlink hl => exact hs
  | costsFailed hrefuse hlink hl hcosts => exact hs
  | pinned hrefuse hlink hl hcosts => exact hs.pin (hmake _ (List.mem_singleton_self _) _ rfl)

/-- If the pinned tier gives the same for a key, and the bounded tier nothing new, so does the store. -/
theorem LinkageStore.held?_of_tiers {s t : LinkageStore} (hp : t.pinned? k = s.pinned? k)
    (hb : ∀ l, t.bounded.find? k = some l → s.bounded.find? k = some l) {l : Linkage}
    (hl : t.held? k = some l) : s.held? k = some l := by
  rcases Option.or_eq_some_iff.mp hl with hpinned | ⟨hnone, hbounded⟩
  · exact held?_of_pinned (hp.symm.trans hpinned)
  · exact held?_of_bounded (hp.symm.trans hnone) (hb l hbounded)

/-- A lookup brings nothing new into the bounded tier for keys outside the lineage. -/
theorem Lookup.find?_of_not_mem {r : Except LinkageError Linkage}
    (h : Lookup f L owner key s acts r s') (hk : k ∉ key.lineage f) {l : Linkage}
    (hl : s'.store.bounded.find? k = some l) : s.store.bounded.find? k = some l := by
  induction h with
  | pinned hp => exact hl
  | bounded hp hb => exact (Recency.find?_touch ..).symm.trans hl
  | root hheld hbase hmade =>
      rw [LinkageKey.lineage_of_root hbase, List.mem_singleton] at hk
      exact hmade.find?_of_ne hk hl
  | baseFailed hheld hbase hlookup ih =>
      rw [LinkageKey.lineage_of_base hbase, List.mem_cons, not_or] at hk
      exact ih hk.2 hl
  | derived hheld hbase hlookup hmade ih =>
      rw [LinkageKey.lineage_of_base hbase, List.mem_cons, not_or] at hk
      exact ih hk.2 (hmade.find?_of_ne hk.1 hl)

end Operations

/-- A pin changes nothing for other keys. -/
theorem Pin.held?_of_ne {r : Except LinkageError Unit} (h : Pin L owner key s acts r s')
    (hk : k ≠ key) {l : Linkage} (hl : s'.store.held? k = some l) : s.store.held? k = some l := by
  cases h with
  | refused hrefuse => exact hl
  | failed hrefuse hlink => exact hl
  | foreign hrefuse hlink hown => exact hl
  | costsFailed hrefuse hlink hown hcosts => exact hl
  | @pinned m memory table world hrefuse hlink hown hcosts =>
      have hother : (s.store.pin key m).pinned? k = s.store.pinned? k :=
        (s.store.pinned?_pin key k m).trans (if_neg hk)
      exact LinkageStore.held?_of_tiers hother (fun _ hm => hm) hl

/-- The key that an operation is about. -/
def Operation.key? : Operation → Option LinkageKey
  | get key => some key
  | pin key => some key
  | peek key => some key
  | index => none
  | query _ _ => none

namespace PointSet

variable {σ ρ : Type} [PointAccess ρ] {f : Forest} {p : PointSet σ ρ} {P : LinkageKey → Linkage → Prop}

theorem each_perform (hp : p.store.OwnedBy p.id) (hs : p.store.Each P) (op : Operation) (w : World σ)
    (hmake : ∀ c ∈ p.calls f op w, ∀ l, c.linkage? = some l → P c.key l) :
    (p.perform f op w).1.store.Each P := by
  rw [calls_eq hp] at hmake
  cases op with
  | get key =>
      obtain ⟨s', hlookup, hstate⟩ := lookup_derivation f key hp w
      rw [perform, hstate]
      exact hlookup.each_of_calls hs hmake
  | pin key =>
      obtain ⟨s', hpin, hstate⟩ := pin_derivation f key p w
      rw [perform, hstate]
      exact hpin.each_of_calls hs hmake
  | peek key =>
      rcases store_perform_peek f key p w with hsame | htouch
      · exact hsame ▸ hs
      · exact htouch ▸ hs.touch key
  | index => exact store_perform_index f p w ▸ hs
  | query a b => exact store_perform_query f a b p w ▸ hs

/-- What holds of all linkages that are made in a run holds of all entries after it. -/
theorem each_play (hp : Reachable f p) (hs : p.store.Each P) (ops : List Operation) (w : World σ)
    (hmake : ∀ c ∈ p.runCalls f ops w, ∀ l, c.linkage? = some l → P c.key l) :
    (p.play f ops w).1.store.Each P := by
  induction ops generalizing p w with
  | nil => exact hs
  | cons op ops ih =>
      refine ih (hp.perform op w) ?_ _ fun c hc => hmake c (List.mem_append_right _ hc)
      exact each_perform hp.ownedBy hs op w fun c hc => hmake c (List.mem_append_left _ hc)

/-- What answers for a key after an operation on another one answered for it before, unless the key is in
the lineage of the other. -/
theorem held?_of_perform (hp : Reachable f p) {op : Operation} {key k : LinkageKey}
    (hop : op.key? = some key) (hk : k ∉ key.lineage f) (w : World σ) {l : Linkage}
    (hl : (p.perform f op w).1.store.held? k = some l) : p.store.held? k = some l := by
  cases op with
  | get m =>
      obtain rfl := Option.some.inj hop
      obtain ⟨s', hlookup, hstate⟩ := lookup_derivation f m hp.ownedBy w
      rw [perform, hstate] at hl
      exact LinkageStore.held?_of_tiers (hlookup.pinned?_eq k)
        (fun _ hm => hlookup.find?_of_not_mem hk hm) hl
  | pin m =>
      obtain rfl := Option.some.inj hop
      obtain ⟨s', hpin, hstate⟩ := pin_derivation f m p w
      rw [perform, hstate] at hl
      have hne : k ≠ m := fun heq => hk (heq ▸ List.mem_cons_self)
      exact hpin.held?_of_ne hne hl
  | peek m =>
      rcases store_perform_peek f m p w with hsame | htouch
      · rwa [hsame] at hl
      · rw [htouch] at hl
        have hsame : ∀ l, (p.store.touch m).bounded.find? k = some l →
            p.store.bounded.find? k = some l := fun _ hm => (Recency.find?_touch ..).symm.trans hm
        exact LinkageStore.held?_of_tiers (s := p.store) (t := p.store.touch m) rfl hsame hl
  | index => cases hop
  | query a b => cases hop

end PointSet

/-! ### Texts -/

theorem LinkageKey.display_eq (f : Forest) (key : LinkageKey) :
    key.display f = "(" ++ f.label key.network ++ ", " ++ key.mode.name ++ ")" :=
  rfl

/-- The text of an error has its key in one place. -/
theorem LinkageError.exists_message_eq_display (e : LinkageError) :
    ∃ before after : String, ∀ f : Forest, e.message f = before ++ e.key.display f ++ after := by
  cases e with
  | build key cause =>
      refine ⟨"Failed to link point set to ", ": " ++ cause.message, fun f => ?_⟩
      rw [← String.append_assoc]
      rfl
  | invariantViolation key => exact ⟨"Linkage for ", " belongs to a different point set", fun _ => rfl⟩
  | doubleBuild key =>
      exact ⟨"Unevictable linkage for ", " is being built more than once", fun _ => rfl⟩
  | egressCosts key cause =>
      refine ⟨"Failed to compute egress costs for ", ": " ++ cause.message, fun f => ?_⟩
      rw [← String.append_assoc]
      rfl

/-- It has the label of the network in one place and nothing else of the forest. -/
theorem LinkageError.exists_message_eq_label (e : LinkageError) :
    ∃ before after : String, ∀ f : Forest,
      e.message f = before ++ f.label e.key.network ++ after := by
  obtain ⟨before, after, hmessage⟩ := e.exists_message_eq_display
  refine ⟨before ++ "(", ", " ++ e.key.mode.name ++ ")" ++ after, fun f => ?_⟩
  rw [hmessage, LinkageKey.display_eq]
  simp only [String.append_assoc]

/-- What a field shows that holds a text or a key. -/
def Event.fieldText (f : Forest) : String ⊕ LinkageKey → String
  | .inl text => text
  | .inr key => key.display f

/-- The fields of an event have fixed names, and fixed texts or keys in them. -/
theorem Event.exists_fields_eq (e : Event) :
    ∃ parts : List (String × (String ⊕ LinkageKey)), ∀ f : Forest,
      e.fields f = parts.map fun part => (part.1, Event.fieldText f part.2) := by
  cases e with
  | basing key base => exact ⟨[("key", .inr key), ("base", .inr base)], fun _ => rfl⟩
  | evicted key => exact ⟨[("key", .inr key), ("cause", .inl "Size")], fun _ => rfl⟩
  | pinned key origins entries =>
      exact ⟨[("key", .inr key), ("origins", .inl (toString origins)),
        ("entries", .inl (toString entries))], fun _ => rfl⟩
  | indexBuilt points => exact ⟨[("points", .inl (toString points))], fun _ => rfl⟩
  | seeking key => exact ⟨[("key", .inr key)], fun _ => rfl⟩
  | foundPinned key => exact ⟨[("key", .inr key)], fun _ => rfl⟩
  | building key => exact ⟨[("key", .inr key)], fun _ => rfl⟩
  | foreignFound key => exact ⟨[("key", .inr key)], fun _ => rfl⟩
  | doubleBuild key => exact ⟨[("key", .inr key)], fun _ => rfl⟩
  | pinning key => exact ⟨[("key", .inr key)], fun _ => rfl⟩
  | foreignBuilt key => exact ⟨[("key", .inr key)], fun _ => rfl⟩

/-! ### Networks that cannot be told apart by label and base -/

theorem LinkageKey.eq_iff {a b : LinkageKey} : a = b ↔ a.network = b.network ∧ a.mode = b.mode := by
  obtain ⟨n, mode⟩ := a
  obtain ⟨m, mode'⟩ := b
  exact Iff.of_eq (LinkageKey.mk.injEq ..)

/-- A key with the same base is not in the lineage. -/
theorem LinkageKey.not_mem_lineage_of_same_base {f : Forest} {key k : LinkageKey} (hne : k ≠ key)
    (hbase : k.base? f = key.base? f) : k ∉ key.lineage f := by
  cases hkey : key.base? f with
  | none =>
      rw [lineage_of_root hkey, List.mem_singleton]
      exact hne
  | some b =>
      rw [lineage_of_base hkey, List.mem_cons, not_or]
      exact ⟨hne, not_mem_lineage_base (hbase.trans hkey)⟩

/-- **Labels never decide.** Let the linker that is set up for a forest not depend on the labels in it,
let the networks get any other labels, be it all the same one, and let two new point sets go through one
run, one under the old and one under the new labels. Then

* every operation gives the same answer in both, with the same linkages and their bases, or the same error
  for the same key; it leaves the same point set, with both tiers, the order of the bounded one and the
  counters, and the same world, with the same events; and the linker is asked for the same;
* in texts a label stands in the place of the network's name: an error reads the same around the label of
  its network, and an event has the same fields with the same texts or keys;
* keys are equal, and have equal hashes, by network and mode alone, and each entry of both tiers was made
  for the very key that it stands under. Of two networks with one label and one base, which no text tells
  apart, an operation on one never changes what answers for the other, except that it may evict it. -/
theorem labels_never_decide {σ ρ : Type} [PointAccess ρ] (f : Forest) (label : Nat → String)
    (builder : Forest → Linker σ) (hbuilder : ReadsNoLabels builder) (id : PointSetId)
    (source : ρ) (config : CacheConfig) (ops : List Operation) (w : World σ) :
    let g := f.relabel label
    let p := PointSet.new id source (builder f) config
    let q := PointSet.new id source (builder g) config
    let last := (q.play g ops w).1
    (p.trace f ops w = q.trace g ops w ∧ p.play f ops w = q.play g ops w ∧
        p.runCalls f ops w = q.runCalls g ops w) ∧
      (∀ e : LinkageError, ∃ before after : String, ∀ h : Forest,
        e.message h = before ++ h.label e.key.network ++ after) ∧
      (∀ e : Event, ∃ parts : List (String × (String ⊕ LinkageKey)), ∀ h : Forest,
        e.fields h = parts.map fun part => (part.1, Event.fieldText h part.2)) ∧
      (∀ a b : LinkageKey, (a = b ↔ a.network = b.network ∧ a.mode = b.mode) ∧
        (a.network = b.network → a.mode = b.mode → hash a = hash b)) ∧
      (∀ entry ∈ last.store.pins ++ last.store.bounded.entries,
        ∃ c ∈ q.runCalls g ops w, c.key = entry.1 ∧ c.linkage? = some entry.2) ∧
      ∀ n m mode, n ≠ m → g.label n = g.label m → g.base n = g.base m →
        LinkageKey.display g ⟨n, mode⟩ = LinkageKey.display g ⟨m, mode⟩ ∧
          ∀ op w', op.key? = some ⟨n, mode⟩ → ∀ l,
            (last.perform g op w').1.store.held? ⟨m, mode⟩ = some l →
              last.store.held? ⟨m, mode⟩ = some l := by
  intro g p q last
  have hbase : f.base = g.base := rfl
  have hpq : p = q := congrArg (PointSet.new id source · config) (hbuilder f g hbase)
  have hq : Reachable g q := .new id source (builder g) config
  refine ⟨?_, LinkageError.exists_message_eq_label, Event.exists_fields_eq, fun a b => ?_, ?_, ?_⟩
  · rw [hpq]
    exact PointSet.trace_of_base_eq hbase ops q w
  · exact ⟨LinkageKey.eq_iff, fun hn hmode => congrArg hash (LinkageKey.eq_iff.mpr ⟨hn, hmode⟩)⟩
  · have hmade : last.store.Each fun key l =>
        ∃ c ∈ q.runCalls g ops w, c.key = key ∧ c.linkage? = some l :=
      PointSet.each_play hq ⟨nofun, nofun⟩ ops w fun c hc l hl => ⟨c, hc, rfl, hl⟩
    intro entry hentry
    rcases List.mem_append.mp hentry with hpin | hbounded
    · exact hmade.pins entry hpin
    · exact hmade.bounded entry hbounded
  · intro n m mode hne hlabel hsame
    constructor
    · rw [LinkageKey.display_eq, LinkageKey.display_eq, hlabel]
    · intro op w' hop l hl
      have hkey : (⟨m, mode⟩ : LinkageKey) ≠ ⟨n, mode⟩ := fun heq =>
        hne (congrArg LinkageKey.network heq).symm
      have hbases : LinkageKey.base? g ⟨m, mode⟩ = LinkageKey.base? g ⟨n, mode⟩ := by
        simp [LinkageKey.base?, hsame]
      exact PointSet.held?_of_perform (hq.play ops w) hop
        (LinkageKey.not_mem_lineage_of_same_base hkey hbases) w' hl

/-- A linker that fails by car wherever there is a base network, and three networks that get one label. The
tram and the bus lane then read the same and still have an entry each; the error of the tram differs in its
text and in nothing else. -/
theorem labels_never_decide_under_one_label :
    let f := Forest.ofList [("city", none), ("tram", some 0), ("bus lane", some 0)]
    let builder := fun h : Forest => Linker.keyed fun key =>
      if h.isScenarioCopy key.network && key.mode = .car then .fail else .own
    let g := f.relabel fun _ => "network"
    let p := PointSet.new 7 (PointSource.freeForm []) (builder f) {}
    let q := PointSet.new 7 (PointSource.freeForm []) (builder g) {}
    let ops := [.get ⟨1, .walk⟩, .get ⟨2, .walk⟩, .pin ⟨2, .walk⟩]
    let w : World Nat := { memory := 0 }
    let last := (q.play g ops w).1
    let e := LinkageError.build ⟨1, .car⟩ ⟨"no edge nearby", []⟩
    p.trace f ops w = q.trace g ops w ∧
      last.store.bounded.keys = [⟨2, .walk⟩, ⟨0, .walk⟩, ⟨1, .walk⟩] ∧
      last.store.pins.map Prod.fst = [⟨2, .walk⟩] ∧
      LinkageKey.display g ⟨1, .walk⟩ = LinkageKey.display g ⟨2, .walk⟩ ∧
      (last.getLinkage g ⟨1, .car⟩ w).1 = .error e ∧
      e.message f = "Failed to link point set to (tram, car): no edge nearby" ∧
      e.message g = "Failed to link point set to (network, car): no edge nearby" := by
  intro f builder g p q ops w last e
  have hbuilder : ReadsNoLabels builder := by
    rintro ⟨label, base, hlt⟩ ⟨label', base', hlt'⟩ hbase
    cases hbase
    rfl
  obtain ⟨⟨htrace, -, -⟩, -, -, -, -, hapart⟩ :=
    labels_never_decide f (fun _ => "network") builder hbuilder 7 (PointSource.freeForm []) {} ops w
  obtain ⟨hdisplay, -⟩ := hapart 1 2 .walk (by decide) rfl rfl
  exact ⟨htrace, by decide, by decide, hdisplay, by decide, rfl, rfl⟩

end StreetLinkage
