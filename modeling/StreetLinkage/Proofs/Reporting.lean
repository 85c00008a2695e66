import StreetLinkage.Proofs.Invariant

/-!
# What is reported

Events and counters come from different places: a lookup reports that it starts, that it builds and on
what; a tier reports an answer or an eviction; and the store counts in between. `Reported` says that over
a stretch of work the two agree, the events being told by their severity and their wording.

Two reports are about mistakes. `Lookup.reported` finds one report of a foreign linkage for each call of
the linker that gave one, and none from the levels above that pass the failure on. `Pin.reported` finds
the report of a double build exactly where the key is cached.
-/

namespace StreetLinkage

/-- Is the event of the given severity and wording? -/
def Event.isReport (severity : Severity) (summary : String) (e : Event) : Bool :=
  e.severity = severity ∧ e.summary = summary

/-- The events of the given severity and wording. -/
def reportsOf (severity : Severity) (summary : String) (log : List Event) : List Event :=
  log.filter (·.isReport severity summary)

@[simp] theorem reportsOf_nil (severity : Severity) (summary : String) :
    reportsOf severity summary [] = [] := rfl

@[simp] theorem reportsOf_append (severity : Severity) (summary : String) (log more : List Event) :
    reportsOf severity summary (log ++ more) =
      reportsOf severity summary log ++ reportsOf severity summary more :=
  List.filter_append ..

@[simp] theorem reportsOf_cons (severity : Severity) (summary : String) (e : Event)
    (log : List Event) :
    reportsOf severity summary (e :: log) =
      if e.isReport severity summary then e :: reportsOf severity summary log
      else reportsOf severity summary log :=
  List.filter_cons

/-- The report of a lookup that was given the linkage of another point set. -/
def foreignText : String :=
  "A point set should only hold linkages for itself, not for other point sets"

/-- The report of a pin whose key is cached. -/
def doubleBuildText : String := "Unevictable linkage is being built more than once"

/-- Evictions are told from all other reports by their severity. -/
theorem reportsOf_map_evicted (severity : Severity) (summary : String) (keys : List LinkageKey) :
    reportsOf severity summary (keys.map .evicted) =
      if severity = .warn ∧ summary = "Linkage cache eviction" then keys.map .evicted else [] := by
  induction keys with
  | nil => simp
  | cons key keys ih =>
      rw [List.map_cons, reportsOf_cons, ih]
      by_cases h : severity = .warn ∧ summary = "Linkage cache eviction"
      · obtain ⟨rfl, rfl⟩ := h
        simp [Event.isReport, Event.severity, Event.summary]
      · rw [if_neg h, if_neg h, if_neg]
        intro hreport
        have hboth := of_decide_eq_true hreport
        exact h ⟨hboth.1.symm, hboth.2.symm⟩

/-- The report that goes with a build on the linkage of a base key. -/
def Event.basing? (f : Forest) : Event → Option Event
  | building key => (key.base? f).map (basing key)
  | _ => none

/-- Between two scenes the events of the log were reported, and the counters grew accordingly. -/
structure Reported {σ : Type} (f : Forest) (s t : Scene σ) (log : List Event) : Prop where
  events_eq : t.world.events = s.world.events ++ log
  lookups_eq : t.store.lookups =
    s.store.lookups + (reportsOf .debug "Seeking linkage in cache" log).length
  pinnedHits_eq : t.store.pinnedHits =
    s.store.pinnedHits + (reportsOf .debug "Linkage found in unevictable tier" log).length
  builds_eq : t.store.builds = s.store.builds +
    (reportsOf .info "Building linkage because it was not found in cache" log).length
  evictions_eq : t.store.evictions =
    s.store.evictions + (reportsOf .warn "Linkage cache eviction" log).length
  basings_eq : reportsOf .info "Basing linkage on the base network's linkage" log =
    (reportsOf .info "Building linkage because it was not found in cache" log).filterMap
      (Event.basing? f)

section Stretches

variable {σ : Type} {f : Forest} {s t u : Scene σ} {log log' : List Event}

theorem Reported.refl (f : Forest) (s : Scene σ) : Reported f s s [] := by
  constructor <;> simp

theorem Reported.trans (h : Reported f s t log) (h' : Reported f t u log') :
    Reported f s u (log ++ log') := by
  constructor
  · rw [h'.events_eq, h.events_eq, List.append_assoc]
  · rw [h'.lookups_eq, h.lookups_eq, reportsOf_append, List.length_append, Nat.add_assoc]
  · rw [h'.pinnedHits_eq, h.pinnedHits_eq, reportsOf_append, List.length_append, Nat.add_assoc]
  · rw [h'.builds_eq, h.builds_eq, reportsOf_append, List.length_append, Nat.add_assoc]
  · rw [h'.evictions_eq, h.evictions_eq, reportsOf_append, List.length_append, Nat.add_assoc]
  · rw [reportsOf_append, reportsOf_append, List.filterMap_append, h.basings_eq, h'.basings_eq]

end Stretches

/-! ### Along a lookup -/

namespace LinkCall

variable {c : LinkCall}

theorem foreignTo_iff (owner : PointSetId) {l : Linkage} (h : c.outcome = .ok l) :
    c.ForeignTo owner ↔ l.belongsTo owner = false := by
  constructor
  · rintro ⟨m, hm, hforeign⟩
    rw [h] at hm
    exact Except.ok.inj hm ▸ hforeign
  · exact fun hl => ⟨l, h, hl⟩

theorem not_foreignTo_of_error (owner : PointSetId) {e : BuildError} (h : c.outcome = .error e) :
    ¬c.ForeignTo owner := by
  rintro ⟨m, hm, -⟩
  rw [h] at hm
  cases hm

end LinkCall

/-- What a lookup or a part of one reports: besides what everything reports, each foreign linkage that
the linker gave, once. -/
structure LookupReported {σ : Type} (f : Forest) (owner : PointSetId) (s t : Scene σ)
    (acts : List Act) (log : List Event) : Prop extends Reported f s t log where
  foreign_eq : reportsOf .error foreignText log =
    ((callsOf acts).filter (·.ForeignTo owner)).map fun c => .foreignFound c.key
  doubleBuild_eq : reportsOf .error doubleBuildText log = []

section Lookups

open Scene

variable {σ : Type} {f : Forest} {L : Linker σ} {owner : PointSetId} {key b : LinkageKey}
  {base : Option Linkage} {s s' t u : Scene σ} {acts more : List Act} {log log' : List Event}

theorem LookupReported.trans (h : LookupReported f owner s t acts log)
    (h' : LookupReported f owner t u more log') :
    LookupReported f owner s u (acts ++ more) (log ++ log') where
  toReported := h.toReported.trans h'.toReported
  foreign_eq := by
    rw [reportsOf_append, h.foreign_eq, h'.foreign_eq, callsOf_append, List.filter_append,
      List.map_append]
  doubleBuild_eq := by rw [reportsOf_append, h.doubleBuild_eq, h'.doubleBuild_eq, List.append_nil]

theorem reported_answerPinned (f : Forest) (owner : PointSetId) (s : Scene σ) (key : LinkageKey)
    (l : Linkage) :
    LookupReported f owner s (s.answerPinned key) [.answeredPinned key l]
      [.seeking key, .foundPinned key] := by
  refine ⟨?_, ?_, ?_⟩
  constructor
  all_goals simp [Event.isReport, Event.severity, Event.summary, callsOf, Act.call?]

theorem reported_answer (f : Forest) (owner : PointSetId) (s : Scene σ) (key : LinkageKey)
    (l : Linkage) :
    LookupReported f owner s (s.answer key) [.answered key l] [.seeking key] := by
  refine ⟨?_, ?_, ?_⟩
  constructor
  all_goals simp [LinkageStore.touch, Event.isReport, Event.severity, Event.summary, callsOf, Act.call?]

theorem reported_miss (owner : PointSetId) (s : Scene σ) (h : key.base? f = none) :
    LookupReported f owner s (s.miss key) [] [.seeking key, .building key] := by
  refine ⟨?_, ?_, ?_⟩
  constructor
  all_goals simp [Event.isReport, Event.severity, Event.summary, Event.basing?, h]

theorem reported_missOver (owner : PointSetId) (s : Scene σ) (h : key.base? f = some b) :
    LookupReported f owner s (s.missOver key b) []
      [.seeking key, .building key, .basing key b] := by
  refine ⟨?_, ?_, ?_⟩
  constructor
  all_goals simp [Event.isReport, Event.severity, Event.summary, Event.basing?, h]

theorem reported_failed (f : Forest) (owner : PointSetId) (s : Scene σ) (key : LinkageKey) :
    LookupReported f owner s s [.failed key] [] :=
  ⟨.refl f s, rfl, rfl⟩

/-- A level reports what its linkage displaced, and then the linkage itself if that is foreign. -/
theorem Made.reported {r : Except LinkageError Linkage} (h : Made L owner key base s acts r s') :
    ∃ log, LookupReported f owner s s' acts log := by
  cases h with
  | @failed e memory hlink =>
      have hown : ¬LinkCall.ForeignTo ⟨s.request owner key base, .error e⟩ owner :=
        LinkCall.not_foreignTo_of_error owner rfl
      refine ⟨[], ?_, ?_, ?_⟩
      constructor
      all_goals simp [callsOf, Act.call?, hown]
  | @stored l memory hlink hl =>
      have hown : ¬LinkCall.ForeignTo ⟨s.request owner key base, .ok l⟩ owner := by
        rw [LinkCall.foreignTo_iff owner rfl, hl]
        exact Bool.noConfusion
      refine ⟨(s.store.bounded.dropped s.store.config.capacity key l).map .evicted, ?_, ?_, ?_⟩
      constructor
      all_goals simp [LinkageStore.insert, reportsOf_map_evicted, callsOf, Act.call?, hown]
  | @foreign l memory hlink hl =>
      have hforeign : LinkCall.ForeignTo ⟨s.request owner key base, .ok l⟩ owner :=
        (LinkCall.foreignTo_iff owner rfl).mpr hl
      have hkey : LinkCall.key ⟨s.request owner key base, .ok l⟩ = key := rfl
      refine ⟨(s.store.bounded.dropped s.store.config.capacity key l).map .evicted ++
        [.foreignFound key], ?_, ?_, ?_⟩
      constructor
      all_goals simp [LinkageStore.insert, LinkageStore.invalidate, Event.isReport, Event.severity,
        Event.summary, foreignText, doubleBuildText, reportsOf_map_evicted, callsOf, Act.call?,
        hforeign, hkey]

/-- **A lookup reports what it does**: the counters follow its events, and each foreign linkage has one
report, made by the level that asked for it. -/
theorem Lookup.reported {r : Except LinkageError Linkage} (h : Lookup f L owner key s acts r s') :
    ∃ log, LookupReported f owner s s' acts log := by
  induction h with
  | pinned hp => exact ⟨_, reported_answerPinned f owner _ _ _⟩
  | bounded hp hb => exact ⟨_, reported_answer f owner _ _ _⟩
  | root hheld hbase hmade =>
      obtain ⟨log, hlog⟩ := hmade.reported
      exact ⟨_, (reported_miss owner _ hbase).trans hlog⟩
  | @baseFailed key b s acts e s' hheld hbase hlookup ih =>
      obtain ⟨log, hlog⟩ := ih
      have hbelow := (reported_missOver owner s hbase).trans hlog
      exact ⟨_, hbelow.trans (reported_failed f owner s' key)⟩
  | derived hheld hbase hlookup hmade ih =>
      obtain ⟨log, hlog⟩ := ih
      obtain ⟨log', hlog'⟩ := hmade.reported
      have hbelow := (reported_missOver owner _ hbase).trans hlog
      exact ⟨_, hbelow.trans hlog'⟩

end Lookups

/-! ### Along the other operations -/

/-- A fact that no counter goes with, and that is not the report of a mistake of a lookup or of a double
build. -/
def Event.isQuiet : Event → Bool
  | pinning _ => true
  | foreignBuilt _ => true
  | pinned _ _ _ => true
  | indexBuilt _ => true
  | _ => false

/-- Quiet events are told from all others by their wording. -/
theorem reportsOf_of_quiet {log : List Event} (hlog : ∀ e ∈ log, e.isQuiet = true)
    (severity : Severity) {summary : String}
    (hsummary : summary ∉ ["Building unevictable linkage",
      "Builder returned a linkage for a different point set", "Unevictable linkage built",
      "Built point set spatial index"]) :
    reportsOf severity summary log = [] := by
  refine List.filter_eq_nil_iff.mpr fun e he hreport => ?_
  obtain ⟨-, rfl⟩ := of_decide_eq_true hreport
  have hquiet := hlog e he
  cases e <;> first | exact Bool.noConfusion hquiet | simp [Event.summary] at hsummary

theorem Reported.of_quiet {σ : Type} {s t : Scene σ} {log : List Event} (f : Forest)
    (hstore : ∃ pins, t.store = { s.store with pins })
    (hevents : t.world.events = s.world.events ++ log) (hlog : ∀ e ∈ log, e.isQuiet = true) :
    Reported f s t log := by
  obtain ⟨pins, hstore⟩ := hstore
  have hnone : ∀ severity summary, summary ∉ ["Building unevictable linkage",
      "Builder returned a linkage for a different point set", "Unevictable linkage built",
      "Built point set spatial index"] → reportsOf severity summary log = [] :=
    fun severity _ hsummary => reportsOf_of_quiet hlog severity hsummary
  refine ⟨hevents, ?_, ?_, ?_, ?_, ?_⟩
  all_goals simp [hnone, hstore]

section Pins

open Scene

variable {σ : Type} {L : Linker σ} {owner : PointSetId} {key : LinkageKey} {s s' : Scene σ}
  {acts : List Act} {r : Except LinkageError Unit}

/-- Computing a table is not reported. -/
theorem World.events_egressTable {l : Linkage} {w w' : World σ}
    {outcome : Except BuildError EgressTable} (h : w.egressTable L l = (outcome, w')) :
    w'.events = w.events := by
  unfold World.egressTable at h
  split at h
  · cases h
    rfl
  · split at h <;> cases h <;> rfl

/-- A pin reports a double build if there is one, and then only quiet facts. -/
theorem Pin.events_eq (h : Pin L owner key s acts r s') :
    ∃ log, s'.world.events =
        (s.emitAll (if s.store.contains key then [.doubleBuild key] else [])).world.events ++ log ∧
      ∀ e ∈ log, e.isQuiet = true := by
  have hstart : (s.startPin key).world.events =
      (s.emitAll (if s.store.contains key then [.doubleBuild key] else [])).world.events ++
        [.pinning key] := by
    unfold startPin
    split <;> simp [emitAll]
  cases h with
  | refused hrefuse =>
      have hcached := (Bool.and_eq_true_iff.mp hrefuse).1
      exact ⟨[], by simp [hcached, emitAll, Scene.emit, World.emit], by simp⟩
  | failed hrefuse hlink => exact ⟨[.pinning key], hstart, by simp [Event.isQuiet]⟩
  | foreign hrefuse hlink hl =>
      refine ⟨[.pinning key, .foreignBuilt key], ?_, by simp [Event.isQuiet]⟩
      show (s.startPin key).world.events ++ [.foreignBuilt key] = _
      rw [hstart, List.append_assoc]
      rfl
  | costsFailed hrefuse hlink hl hcosts =>
      refine ⟨[.pinning key], ?_, by simp [Event.isQuiet]⟩
      exact (World.events_egressTable hcosts).trans hstart
  | @pinned l memory table world hrefuse hlink hl hcosts =>
      refine ⟨[.pinning key, .pinned key table.originCount table.entryCount], ?_,
        by simp [Event.isQuiet]⟩
      show world.events ++ [.pinned key _ _] = _
      rw [World.events_egressTable hcosts]
      show (s.startPin key).world.events ++ [.pinned key _ _] = _
      rw [hstart, List.append_assoc]
      rfl

theorem reported_doubleBuild (f : Forest) (s : Scene σ) (key : LinkageKey) :
    Reported f s (s.emitAll (if s.store.contains key then [.doubleBuild key] else []))
      (if s.store.contains key then [.doubleBuild key] else []) := by
  cases s.store.contains key <;> constructor <;>
    simp [emitAll, Event.isReport, Event.severity, Event.summary]

/-- **A pin reports a double build** exactly if its key is cached, and no foreign linkage of a lookup. -/
theorem Pin.reported (f : Forest) (h : Pin L owner key s acts r s') :
    ∃ log, Reported f s s' log ∧
      reportsOf .error foreignText log = [] ∧
      reportsOf .error doubleBuildText log =
        if s.store.contains key then [.doubleBuild key] else [] := by
  obtain ⟨log, hevents, hquiet⟩ := h.events_eq
  refine ⟨_, (reported_doubleBuild f s key).trans (.of_quiet f h.frame hevents hquiet), ?_, ?_⟩
  · rw [reportsOf_append, reportsOf_of_quiet hquiet _ (by decide), List.append_nil]
    split <;> simp [Event.isReport, Event.severity, Event.summary, foreignText]
  · rw [reportsOf_append, reportsOf_of_quiet hquiet _ (by decide), List.append_nil]
    split <;> simp [Event.isReport, Event.severity, Event.summary, doubleBuildText]

end Pins

/-! ### Along a run -/

namespace PointSet

variable {σ ρ : Type} [PointAccess ρ] {f : Forest} {p : PointSet σ ρ}

/-- The first use of the index is reported, nothing else of it. -/
theorem spatialIndex_events (p : PointSet σ ρ) (w : World σ) :
    ∃ log, (p.spatialIndex w).2.2.events = w.events ++ log ∧ ∀ e ∈ log, e.isQuiet = true := by
  unfold spatialIndex
  split
  · exact ⟨[], by simp⟩
  · split
    · exact ⟨[], by simp⟩
    · exact ⟨_, rfl, by simp [Event.isQuiet]⟩

/-- What an operation owes in reports of foreign linkages: one for each that a lookup was given. -/
def foreignReports (f : Forest) (op : Operation) (p : PointSet σ ρ) (w : World σ) : List Event :=
  match op with
  | .get key =>
      ((p.calls f (.get key) w).filter (·.ForeignTo p.id)).map fun c => .foreignFound c.key
  | _ => []

/-- What an operation owes in reports of double builds: one for a pin whose key is cached. -/
def doubleBuildReports (op : Operation) (p : PointSet σ ρ) : List Event :=
  match op with
  | .pin key => if p.store.contains key then [.doubleBuild key] else []
  | _ => []

theorem reported_index (p : PointSet σ ρ) (w : World σ) :
    ∃ log, Reported f (p.scene w) ((p.perform f .index w).1.scene (p.perform f .index w).2) log ∧
      reportsOf .error foreignText log = [] ∧ reportsOf .error doubleBuildText log = [] := by
  obtain ⟨log, hevents, hquiet⟩ := p.spatialIndex_events w
  refine ⟨log, .of_quiet f ⟨p.store.pins, store_perform_index f p w⟩ hevents hquiet, ?_, ?_⟩
  · exact reportsOf_of_quiet hquiet _ (by decide)
  · exact reportsOf_of_quiet hquiet _ (by decide)

/-- An operation reports what it does. -/
theorem reported_perform (hp : Reachable f p) (op : Operation) (w : World σ) :
    ∃ log, Reported f (p.scene w) ((p.perform f op w).1.scene (p.perform f op w).2) log ∧
      reportsOf .error foreignText log = p.foreignReports f op w ∧
      reportsOf .error doubleBuildText log = p.doubleBuildReports op := by
  have hown := hp.ownedBy
  cases op with
  | get key =>
      obtain ⟨s', hlookup, hstate⟩ := lookup_derivation f key hown w
      obtain ⟨log, hlog⟩ := hlookup.reported
      rw [perform, hstate]
      refine ⟨log, hlog.toReported, ?_, hlog.doubleBuild_eq⟩
      rw [foreignReports, calls_eq hown]
      exact hlog.foreign_eq
  | pin key =>
      obtain ⟨s', hpin, hstate⟩ := pin_derivation f key p w
      rw [perform, hstate]
      exact hpin.reported f
  | peek key =>
      refine ⟨[], ?_, rfl, rfl⟩
      unfold scene
      rcases store_perform_peek f key p w with hsame | htouch
      · rw [hsame]
        exact .refl f _
      · rw [htouch]
        constructor <;> simp [perform, LinkageStore.touch]
  | index => exact p.reported_index w
  | query a b =>
      rw [show p.perform f (.query a b) w = p.perform f .index w from pointsInEnvelope_snd a b p w]
      exact p.reported_index w

theorem reported_play (hp : Reachable f p) (ops : List Operation) (w : World σ) :
    ∃ log, Reported f (p.scene w) ((p.play f ops w).1.scene (p.play f ops w).2) log := by
  induction ops generalizing p w with
  | nil => exact ⟨[], .refl f _⟩
  | cons op ops ih =>
      obtain ⟨log, hlog, -⟩ := reported_perform hp op w
      obtain ⟨more, hmore⟩ := ih (hp.perform op w) (p.perform f op w).2
      exact ⟨log ++ more, hlog.trans hmore⟩

end PointSet

/-- **The log and the counters agree.** After any run of a new point set, whatever the linker does, the
events of the run number as many as the counters say: for lookups, answers of the pinned tier, builds and
evictions; and of the builds exactly those of a key with a base report what they are based on, in order.

In the next operation, each foreign linkage that the linker gives to a lookup has one report that names
its key, however many levels the failure passes; and a double build is reported by a pin, if its key is in
a tier when it begins, and by nothing else. -/
theorem log_agrees {σ ρ : Type} [PointAccess ρ] (f : Forest) (id : PointSetId) (source : ρ)
    (linker : Linker σ) (config : CacheConfig) (ops : List Operation) (w : World σ) :
    let p := PointSet.new id source linker config
    let q := (p.play f ops w).1
    (∃ log, (p.play f ops w).2.events = w.events ++ log ∧
      (reportsOf .debug "Seeking linkage in cache" log).length = q.cacheStats.lookups ∧
      (reportsOf .debug "Linkage found in unevictable tier" log).length = q.cacheStats.pinnedHits ∧
      (reportsOf .info "Building linkage because it was not found in cache" log).length =
        q.cacheStats.builds ∧
      (reportsOf .warn "Linkage cache eviction" log).length = q.cacheStats.evictions ∧
      reportsOf .info "Basing linkage on the base network's linkage" log =
        (reportsOf .info "Building linkage because it was not found in cache" log).filterMap
          (Event.basing? f)) ∧
    ∀ op w', ∃ log, (q.perform f op w').2.events = w'.events ++ log ∧
      reportsOf .error
        "A point set should only hold linkages for itself, not for other point sets" log =
          q.foreignReports f op w' ∧
      reportsOf .error "Unevictable linkage is being built more than once" log =
        q.doubleBuildReports op := by
  intro p q
  have hnew : Reachable f p := .new id source linker config
  constructor
  · obtain ⟨log, hlog⟩ := PointSet.reported_play hnew ops w
    refine ⟨log, hlog.events_eq, ?_, ?_, ?_, ?_, hlog.basings_eq⟩
    · exact (hlog.lookups_eq.trans (Nat.zero_add _)).symm
    · exact (hlog.pinnedHits_eq.trans (Nat.zero_add _)).symm
    · exact (hlog.builds_eq.trans (Nat.zero_add _)).symm
    · exact (hlog.evictions_eq.trans (Nat.zero_add _)).symm
  · intro op w'
    obtain ⟨log, hlog, hforeign, hdouble⟩ := PointSet.reported_perform (hnew.play ops w) op w'
    exact ⟨log, hlog.events_eq, hforeign, hdouble⟩

end StreetLinkage
