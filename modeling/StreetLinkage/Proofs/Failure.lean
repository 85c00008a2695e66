import StreetLinkage.Proofs.Chain
import StreetLinkage.Proofs.Run

/-!
# How a lookup fails

A lookup that fails does so at one level of the lineage, and every build that is under way above that
level passes the error on and stores nothing.

`FailsAt` is what such a lookup looks like from outside, by the stores before and after and by the calls.
`Lookup.failsAt` finds it in every derivation that ends with an error: the level that failed stands in the
innermost `Made`, and each `baseFailed` around it adds a level above. `getLinkage_failure` reads it for a
point set and adds what a second attempt finds.
-/

namespace StreetLinkage

/-- Why the call gave nothing to the lookup that made it. -/
theorem LinkCall.of_result_eq_error {c : LinkCall} {e : LinkageError} (h : c.result = .error e) :
    (∃ cause, e = .build c.key cause ∧ c.outcome = .error cause) ∨
      (e = .invariantViolation c.key ∧ c.ForeignTo c.request.owner) := by
  unfold LinkCall.result at h
  cases houtcome : c.outcome with
  | error cause =>
      rw [houtcome] at h
      exact Or.inl ⟨cause, (Except.error.inj h).symm, rfl⟩
  | ok l =>
      simp only [houtcome] at h
      split at h
      · cases h
      · next hl =>
        exact Or.inr ⟨(Except.error.inj h).symm, l, houtcome, Bool.eq_false_iff.mpr hl⟩

/-- A lookup of a lineage `above ++ level :: below` failed with `e` at `level`; it found store `s`, left
store `t` and made these calls. -/
structure FailsAt (owner : PointSetId) (s t : LinkageStore) (above : List LinkageKey)
    (level : LinkageKey) (below : List LinkageKey) (calls : List LinkCall) (e : LinkageError) :
    Prop where
  absent : ∀ k ∈ above ++ [level], s.held? k = none ∧ t.held? k = none
  calls_eq : ∃ built last, calls = built ++ [last] ∧
    BuildChain owner (s.nearest? below) (s.missing below).reverse built last.base? ∧
    last.key = level ∧ last.request.owner = owner ∧ last.result = .error e
  base_stays : ∀ cause, e = .build level cause → s.config.capacity ≠ 0 →
    ∀ b ∈ below.head?, t.contains b = true

namespace FailsAt

variable {owner : PointSetId} {s t : LinkageStore} {above below : List LinkageKey}
  {level : LinkageKey} {calls : List LinkCall} {e : LinkageError}

/-- The failure is passed on by the level above, which had only been counted and reported. -/
theorem above_cons {σ : Type} {s : Scene σ} {key b : LinkageKey}
    (h : FailsAt owner (s.missOver key b).store t above level below calls e)
    (hs : s.store.held? key = none) (ht : t.held? key = none) :
    FailsAt owner s.store t (key :: above) level below calls e := by
  refine ⟨fun k hk => ?_, h.calls_eq, h.base_stays⟩
  rcases List.mem_cons.mp hk with rfl | hk
  · exact ⟨hs, ht⟩
  · exact h.absent k hk

/-- What is missing of the lineage: all levels down to the one that failed, and some below it. -/
theorem missing_eq (h : FailsAt owner s t above level below calls e) :
    s.missing (above ++ level :: below) = above ++ level :: s.missing below := by
  have habsent := LinkageStore.missing_append (fun k hk => (h.absent k hk).1) below
  rwa [List.append_assoc, List.append_assoc] at habsent

/-- The first call is for the level that is missing furthest below. -/
theorem head?_calls (h : FailsAt owner s t above level below calls e) :
    (calls.map LinkCall.key).head? = (s.missing (above ++ level :: below)).getLast? := by
  obtain ⟨built, last, rfl, hchain, hlast, -⟩ := h.calls_eq
  rw [h.missing_eq, ← List.head?_reverse, List.map_append, hchain.keys_eq, List.map_singleton, hlast,
    List.reverse_append, List.reverse_cons]
  cases (s.missing below).reverse <;> rfl

/-- Every call is for a level that is missing. -/
theorem key_mem_missing (h : FailsAt owner s t above level below calls e) :
    ∀ c ∈ calls, c.key ∈ s.missing (above ++ level :: below) := by
  obtain ⟨built, last, rfl, hchain, hlast, -⟩ := h.calls_eq
  intro c hc
  rw [h.missing_eq]
  rcases List.mem_append.mp hc with hc | hc
  · have hkey : c.key ∈ built.map LinkCall.key := List.mem_map_of_mem hc
    rw [hchain.keys_eq, List.mem_reverse] at hkey
    exact List.mem_append_right _ (List.mem_cons_of_mem _ hkey)
  · obtain rfl := List.mem_singleton.mp hc
    rw [hlast]
    exact List.mem_append_right _ (List.mem_cons_self ..)

/-- After a report of the linker, and with room for the base, only the level that failed and those above
it are missing. -/
theorem missing_after (h : FailsAt owner s t above level below calls e) {cause : BuildError}
    (he : e = .build level cause) (hcap : s.config.capacity ≠ 0) :
    t.missing (above ++ level :: below) = above ++ [level] := by
  have habsent := LinkageStore.missing_append (fun k hk => (h.absent k hk).2) below
  have hbelow := LinkageStore.missing_eq_nil (h.base_stays cause he hcap)
  rwa [hbelow, List.append_nil, List.append_assoc] at habsent

end FailsAt

section Lookups

open Scene

variable {σ : Type} {f : Forest} {L : Linker σ} {owner : PointSetId} {key : LinkageKey}
  {base : Option Linkage} {s s' : Scene σ} {acts : List Act} {r : Except LinkageError Linkage}

/-- A level that fails leaves nothing under its key. -/
theorem Made.absent_of_error {e : LinkageError} (h : Made L owner key base s acts (.error e) s')
    (hheld : s.store.held? key = none) : s'.store.held? key = none := by
  cases h with
  | failed hlink => exact hheld
  | foreign hlink hl =>
      have hp := (LinkageStore.held?_eq_none_iff.mp hheld).1
      exact LinkageStore.held?_eq_none_iff.mpr
        ⟨hp, (Recency.find?_erase _ key key).trans (if_pos rfl)⟩

/-- After a lookup that succeeded the key is held, unless the bounded tier has no room at all. -/
theorem Lookup.contains {l : Linkage} (h : Lookup f L owner key s acts (.ok l) s')
    (hcap : s.store.config.capacity ≠ 0) : s'.store.contains key = true := by
  rw [LinkageStore.contains_eq_isSome_held?]
  rcases h.pinned_or_front with hp | ⟨hp, hfront⟩
  · rw [LinkageStore.held?_of_pinned hp]
    rfl
  · rw [← h.frame.2] at hcap
    rw [LinkageStore.held?_of_bounded hp (Recency.find?_of_head? (hfront hcap))]
    rfl

/-- The level at which no linkage could be made is the only one that failed. -/
theorem Made.failsAt {e : LinkageError} {t : LinkageStore} {below : List LinkageKey}
    {calls : List LinkCall} (h : Made L owner key base s acts (.error e) s')
    (hchain : BuildChain owner (t.nearest? below) (t.missing below).reverse calls base)
    (ht : t.held? key = none) (hs : s.store.held? key = none)
    (hbelow : t.config.capacity ≠ 0 → ∀ b ∈ below.head?, s.store.contains b = true) :
    FailsAt owner t s'.store [] key below (calls ++ callsOf acts) e := by
  obtain ⟨c, hcalls, hrequest, hresult⟩ := h.exists_call
  have hbase : c.base? = base := congrArg LinkRequest.base hrequest
  refine ⟨fun k hk => ?_, ⟨calls, c, by rw [hcalls], hbase ▸ hchain, ?_, ?_, hresult⟩, ?_⟩
  · obtain rfl := List.mem_singleton.mp hk
    exact ⟨ht, h.absent_of_error hs⟩
  · exact congrArg LinkRequest.key hrequest
  · exact congrArg LinkRequest.owner hrequest
  · -- A foreign linkage may have displaced the base before it went, a report of the linker has not.
    intro cause hcause hcap b hb
    cases h with
    | failed hlink => exact hbelow hcap b hb
    | foreign hlink hl => cases hcause

/-- **Every failure has its level.** -/
theorem Lookup.failsAt {e : LinkageError} (h : Lookup f L owner key s acts (.error e) s') :
    ∃ above level below, key.lineage f = above ++ level :: below ∧
      FailsAt owner s.store s'.store above level below (callsOf acts) e := by
  generalize hr : Except.error e = r at h
  induction h with
  | pinned hp => cases hr
  | bounded hp hb => cases hr
  | @root key s acts r s' hheld hbase hmade =>
      subst hr
      refine ⟨[], key, [], LinkageKey.lineage_of_root hbase, ?_⟩
      have hnil : BuildChain owner (s.store.nearest? []) (s.store.missing []).reverse [] none :=
        .nil owner none
      exact hmade.failsAt hnil hheld hheld (by simp)
  | @baseFailed key b s acts e' s' hheld hbase hlookup ih =>
      obtain ⟨above, level, below, hlineage, hfails⟩ := ih hr
      refine ⟨key :: above, level, below, ?_, ?_⟩
      · rw [LinkageKey.lineage_of_base hbase, hlineage, List.cons_append]
      · -- The lookup of the base cannot have brought the key in: it is younger than that lineage.
        have habsent := hlookup.held?_eq_none (LinkageKey.not_mem_lineage_base hbase) hheld
        rw [callsOf_append_failed]
        exact hfails.above_cons hheld habsent
  | @derived key b s acts l s₁ more r s' hheld hbase hlookup hmade ih =>
      subst hr
      refine ⟨[], key, b.lineage f, LinkageKey.lineage_of_base hbase, ?_⟩
      have habsent := hlookup.held?_eq_none (LinkageKey.not_mem_lineage_base hbase) hheld
      rw [callsOf_append]
      refine hmade.failsAt hlookup.buildChain hheld habsent fun hcap k hk => ?_
      obtain ⟨rest, hrest⟩ := b.lineage_eq_cons f
      rw [hrest, List.head?_cons, Option.mem_some_iff] at hk
      exact hk ▸ hlookup.contains hcap

/-- The first call of a lookup is for the level that is missing furthest below. -/
theorem Lookup.head?_calls (h : Lookup f L owner key s acts r s') :
    ((callsOf acts).map LinkCall.key).head? = (s.store.missing (key.lineage f)).getLast? := by
  cases r with
  | ok l => rw [h.buildChain.keys_eq, List.head?_reverse]
  | error e =>
      obtain ⟨above, level, below, hlineage, hfails⟩ := h.failsAt
      rw [hlineage]
      exact hfails.head?_calls

/-- A lookup calls the linker for missing levels only. -/
theorem Lookup.key_mem_missing (h : Lookup f L owner key s acts r s') :
    ∀ c ∈ callsOf acts, c.key ∈ s.store.missing (key.lineage f) := by
  cases r with
  | ok l =>
      intro c hc
      have hkey : c.key ∈ (callsOf acts).map LinkCall.key := List.mem_map_of_mem hc
      rwa [h.buildChain.keys_eq, List.mem_reverse] at hkey
  | error e =>
      obtain ⟨above, level, below, hlineage, hfails⟩ := h.failsAt
      rw [hlineage]
      exact hfails.key_mem_missing

end Lookups

variable {σ ρ : Type} [PointAccess ρ] {p : PointSet σ ρ}

/-- **A lookup fails at one level.** If the lookup of a key gives an error, then the error is about one
level of the lineage. That level and all levels above it were in no tier before and are in none
afterwards, and the pinned tier is as it was. The linker was called for the levels below it before the
first one that a tier held, the oldest first, and these calls succeeded; the last call was for the level
itself, and the error is what this call gave: the report of the linker, or that its linkage is foreign.

If the linker reported an error and there is room for one linkage, then a second lookup right after calls
the linker for that same level first, and for nothing below it. -/
theorem getLinkage_failure (f : Forest) (hp : Reachable f p) (key : LinkageKey) (w : World σ)
    {e : LinkageError} (he : (p.getLinkage f key w).1 = .error e) :
    let calls := p.calls f (.get key) w
    let q := (p.getLinkage f key w).2.1
    ∃ above level below, key.lineage f = above ++ level :: below ∧
      (∀ k ∈ above ++ [level], p.store.contains k = false ∧ q.store.contains k = false) ∧
      q.store.pins = p.store.pins ∧
      (∃ built last, calls = built ++ [last] ∧
        built.map LinkCall.key = (p.store.missing below).reverse ∧
        (∀ c ∈ built, c.SucceedsFor p.id) ∧ last.key = level ∧
        ((∃ cause, e = .build level cause ∧ last.outcome = .error cause) ∨
          (e = .invariantViolation level ∧ last.ForeignTo p.id))) ∧
      ∀ cause, e = .build level cause → 1 ≤ p.store.config.capacity → ∀ w',
        ((q.calls f (.get key) w').map LinkCall.key).head? = some level ∧
          ∀ c ∈ q.calls f (.get key) w', c.key ∈ above ++ [level] := by
  intro calls q
  have hown := hp.ownedBy
  obtain ⟨s', hlookup, hstate⟩ := PointSet.lookup_derivation f key hown w
  have hq : q.store = s'.store := congrArg (fun state => state.1.store) hstate
  rw [he] at hlookup
  obtain ⟨above, level, below, hlineage, hfails⟩ := hlookup.failsAt
  refine ⟨above, level, below, hlineage, ?_, ?_, ?_, ?_⟩
  · intro k hk
    obtain ⟨hbefore, hafter⟩ := hfails.absent k hk
    rw [hq]
    exact ⟨LinkageStore.contains_eq_false_iff.mpr hbefore,
      LinkageStore.contains_eq_false_iff.mpr hafter⟩
  · rw [hq]
    exact hlookup.frame.1
  · obtain ⟨built, last, hcalls, hchain, hlast, howner, hresult⟩ := hfails.calls_eq
    refine ⟨built, last, (PointSet.calls_eq hown f (.get key) w).trans hcalls, hchain.keys_eq,
      hchain.succeed, hlast, ?_⟩
    rw [← hlast, ← howner]
    exact LinkCall.of_result_eq_error hresult
  · intro cause hcause hcap w'
    have hqown : q.store.OwnedBy q.id := (hp.perform (.get key) w).ownedBy
    obtain ⟨t, hagain, -⟩ := PointSet.lookup_derivation f key hqown w'
    -- Of what the second attempt lacks, the level that failed is furthest below.
    have hmissing : q.store.missing (key.lineage f) = above ++ [level] := by
      rw [hq, hlineage]
      exact hfails.missing_after hcause (Nat.ne_of_gt hcap)
    have hfirst := hagain.head?_calls
    have hall := hagain.key_mem_missing
    rw [show (q.scene w').store = q.store from rfl, hmissing] at hfirst hall
    rw [PointSet.calls_eq hqown]
    exact ⟨hfirst.trans List.getLast?_concat, hall⟩

/-- The linker fails half-way up a chain of three networks. The linkage of the city was made before and
stays, so a second attempt starts with the tram. -/
theorem getLinkage_failure_midway :
    let f := Forest.ofList [("city", none), ("tram", some 0), ("tram and bus lane", some 1)]
    let p := PointSet.new 7 (PointSource.freeForm []) Linker.scripted {}
    let w := World.withTurns [.own, .fail]
    (p.getLinkage f ⟨2, .walk⟩ w).1 = .error (.build ⟨1, .walk⟩ ⟨"no edge nearby", []⟩) ∧
      (((p.getLinkage f ⟨2, .walk⟩ w).2.1.calls f (.get ⟨2, .walk⟩) (.withTurns [])).map
        LinkCall.key).head? = some ⟨1, .walk⟩ := by
  intro f p w
  have he : (p.getLinkage f ⟨2, .walk⟩ w).1 = .error (.build ⟨1, .walk⟩ ⟨"no edge nearby", []⟩) := by
    rfl
  obtain ⟨above, level, below, -, -, -, ⟨built, last, -, -, -, -, hcause⟩, hretry⟩ :=
    getLinkage_failure f (.new 7 _ _ _) ⟨2, .walk⟩ w he
  have hlevel : level = ⟨1, .walk⟩ := by
    rcases hcause with ⟨cause, hbuild, -⟩ | ⟨hforeign, -⟩
    · exact (LinkageError.build.inj hbuild).1.symm
    · cases hforeign
  subst hlevel
  exact ⟨he, (hretry _ rfl (by decide) _).1⟩

end StreetLinkage
