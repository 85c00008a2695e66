import StreetLinkage.Linkage.Linker

/-!
# Egress cost tables are written once

The table of a linkage may be computed or only looked for (`CostQuery`), for any linkages in any
order, and every computation may fail. This module follows such a run of queries.

What is computed is read off a notebook (`Linker.audited`), as the linker is an arbitrary function;
the notebook changes nothing else (`ask_audited`). `Asked` lists what one query can do, and the rest
is read off it: a query computes at most one table, namely the one that is asked for, from the table
of the direct base as it is kept at that moment, and writes nothing else (`Asked.computation`,
`Asked.frame`).

Over a run this adds up to a law of conservation (`toList_get?_askAll`): what is kept of a linkage
in the end is what was kept of it at the start together with the tables that were computed for it.
As at most one table is kept, at most one was ever computed, and it is the table that every later
query gets. Tables are told apart by the computation that made them: a linker may well number its
tables, and what is said here holds for every linker.
-/

namespace StreetLinkage

variable {σ : Type}

/-! ## Queries and their notebook -/

/-- A query for the egress cost table of a linkage. -/
inductive CostQuery where
  /-- The table, computed if there is none yet. -/
  | table (linkage : Linkage)
  /-- The table, if there is one. -/
  | cached (linkage : Linkage)
  deriving DecidableEq, Repr

/-- The linkage that a query is about. -/
def CostQuery.linkage : CostQuery → Linkage
  | table l => l
  | cached l => l

/-- A computation of a table: for which linkage, from which table of its base, and what came of it.
-/
structure CostCall where
  linkage : Linkage
  base : Option EgressTable
  outcome : Except BuildError EgressTable

/-- The linker with a notebook of its computations of tables, the oldest first. -/
def Linker.audited (L : Linker σ) : Linker (σ × List CostCall) where
  link request memory :=
    match L.link request memory.1 with
    | (outcome, m) => (outcome, (m, memory.2))
  egressCosts l base memory :=
    match L.egressCosts l base memory.1 with
    | (outcome, m) => (outcome, (m, memory.2 ++ [⟨l, base, outcome⟩]))

namespace World

/-- The world with a notebook that holds the given computations. -/
def audited (w : World σ) (notes : List CostCall) : World (σ × List CostCall) where
  memory := (w.memory, notes)
  tables := w.tables
  events := w.events

/-- The answer to a query, with the world after it. -/
def ask (L : Linker σ) : CostQuery → World σ → Except BuildError (Option EgressTable) × World σ
  | .table l, w =>
      match w.egressTable L l with
      | (outcome, w') => (outcome.map some, w')
  | .cached l, w => (.ok (w.tables.get? l), w)

/-- The world after one query after the other. -/
def askAll (L : Linker σ) (queries : List CostQuery) (w : World σ) : World σ :=
  queries.foldl (fun w query => (w.ask L query).2) w

/-- The computations of a run of queries, as a notebook that was empty before has them. -/
def computations (L : Linker σ) (queries : List CostQuery) (w : World σ) : List CostCall :=
  ((w.audited []).askAll L.audited queries).memory.2

@[simp] theorem askAll_nil (L : Linker σ) (w : World σ) : w.askAll L [] = w := rfl

@[simp] theorem askAll_cons (L : Linker σ) (query : CostQuery) (queries : List CostQuery)
    (w : World σ) : w.askAll L (query :: queries) = (w.ask L query).2.askAll L queries := rfl

end World

/-! ## What one query does -/

/-- `Asked L w query calls answer w'`: in the world `w` the query makes these computations, is
answered this way and leaves the world `w'`. -/
inductive Asked (L : Linker σ) (w : World σ) :
    CostQuery → List CostCall → Except BuildError (Option EgressTable) → World σ → Prop where
  /-- To look for a table does nothing. -/
  | cached (l : Linkage) : Asked L w (.cached l) [] (.ok (w.tables.get? l)) w
  /-- A table that is kept is the answer, and nothing is done. -/
  | kept {l : Linkage} {table : EgressTable} (hkept : w.tables.get? l = some table) :
      Asked L w (.table l) [] (.ok (some table)) w
  /-- A computation that fails writes nothing. -/
  | failed {l : Linkage} {e : BuildError} {memory : σ} (hnone : w.tables.get? l = none)
      (hcosts : L.egressCosts l (l.base?.bind w.tables.get?) w.memory = (.error e, memory)) :
      Asked L w (.table l) [⟨l, l.base?.bind w.tables.get?, .error e⟩] (.error e) { w with memory }
  /-- The table that is computed is kept. -/
  | computed {l : Linkage} {table : EgressTable} {memory : σ} (hnone : w.tables.get? l = none)
      (hcosts : L.egressCosts l (l.base?.bind w.tables.get?) w.memory = (.ok table, memory)) :
      Asked L w (.table l) [⟨l, l.base?.bind w.tables.get?, .ok table⟩] (.ok (some table))
        { w with memory, tables := w.tables.record l table }

theorem exists_asked (L : Linker σ) (query : CostQuery) (w : World σ) :
    ∃ calls, Asked L w query calls (w.ask L query).1 (w.ask L query).2 := by
  cases query with
  | cached l => exact ⟨[], .cached l⟩
  | table l =>
      cases hkept : w.tables.get? l with
      | some table =>
          have hask : w.ask L (.table l) = (.ok (some table), w) := by
            simp [World.ask, World.egressTable, hkept, Except.map]
          rw [hask]
          exact ⟨_, .kept hkept⟩
      | none =>
          rcases hcosts : L.egressCosts l (l.base?.bind w.tables.get?) w.memory with
            ⟨e | table, memory⟩
          · have hask : w.ask L (.table l) = (.error e, { w with memory }) := by
              simp [World.ask, World.egressTable, hkept, hcosts, Except.map]
            rw [hask]
            exact ⟨_, .failed hkept hcosts⟩
          · have hask : w.ask L (.table l) =
                (.ok (some table), { w with memory, tables := w.tables.record l table }) := by
              simp [World.ask, World.egressTable, hkept, hcosts, Except.map]
            rw [hask]
            exact ⟨_, .computed hkept hcosts⟩

section Query

variable {L : Linker σ} {w w' : World σ} {query : CostQuery} {calls : List CostCall}
  {answer : Except BuildError (Option EgressTable)}

/-- The notebook grows by the computations of the query, and the query does what it does without it.
-/
theorem Asked.audit (h : Asked L w query calls answer w') (notes : List CostCall) :
    (w.audited notes).ask L.audited query = (answer, w'.audited (notes ++ calls)) := by
  cases h with
  | cached l =>
      rw [List.append_nil]
      rfl
  | kept hkept => simp [World.ask, World.egressTable, World.audited, hkept, Except.map]
  | failed hnone hcosts =>
      simp [World.ask, World.egressTable, World.audited, Linker.audited, hnone, hcosts, Except.map]
  | computed hnone hcosts =>
      simp [World.ask, World.egressTable, World.audited, Linker.audited, hnone, hcosts, Except.map]

/-- What a query computes, answers and leaves behind, without the notebook. -/
theorem asked (L : Linker σ) (query : CostQuery) (w : World σ) :
    Asked L w query (w.computations L [query]) (w.ask L query).1 (w.ask L query).2 := by
  obtain ⟨calls, h⟩ := exists_asked L query w
  have hcalls : w.computations L [query] = calls := by
    rw [World.computations, World.askAll_cons, World.askAll_nil, h.audit []]
    rfl
  rwa [hcalls]

/-- **Keeping a notebook** changes nothing but the notebook. -/
theorem ask_audited (L : Linker σ) (query : CostQuery) (w : World σ) (notes : List CostCall) :
    (w.audited notes).ask L.audited query =
      ((w.ask L query).1, (w.ask L query).2.audited (notes ++ w.computations L [query])) :=
  (asked L query w).audit notes

/-- A table that was kept stays. -/
theorem Asked.get?_of_kept (h : Asked L w query calls answer w') {m : Linkage} {table : EgressTable}
    (hm : w.tables.get? m = some table) : w'.tables.get? m = some table := by
  cases h with
  | cached l => exact hm
  | kept hkept => exact hm
  | failed hnone hcosts => exact hm
  | @computed l table memory hnone hcosts =>
      have hne : m ≠ l := by
        rintro rfl
        cases hnone.symm.trans hm
      exact (EgressLedger.get?_record _ _ _ _).trans ((if_neg hne).trans hm)

/-- Only a query for the table of a linkage changes what is kept of it. -/
theorem Asked.frame (h : Asked L w query calls answer w') {m : Linkage} (hm : query ≠ .table m) :
    w'.tables.get? m = w.tables.get? m := by
  cases h with
  | cached l => rfl
  | kept hkept => rfl
  | failed hnone hcosts => rfl
  | @computed l table memory hnone hcosts =>
      have hne : m ≠ l := fun heq => hm (heq ▸ rfl)
      exact (EgressLedger.get?_record _ _ _ _).trans (if_neg hne)

/-- A kept table is the answer to both queries, and neither does anything. -/
theorem Asked.of_kept (h : Asked L w query calls answer w') {table : EgressTable}
    (hkept : w.tables.get? query.linkage = some table) :
    calls = [] ∧ answer = .ok (some table) ∧ w' = w := by
  cases h with
  | cached l => exact ⟨rfl, congrArg Except.ok hkept, rfl⟩
  | kept hkept' =>
      cases hkept'.symm.trans hkept
      exact ⟨rfl, rfl, rfl⟩
  | failed hnone hcosts => cases hnone.symm.trans hkept
  | computed hnone hcosts => cases hnone.symm.trans hkept

/-- A table that is not kept is computed when it is asked for. -/
theorem Asked.of_none {l : Linkage} (h : Asked L w (.table l) calls answer w')
    (hnone : w.tables.get? l = none) : ∃ call, calls = [call] ∧ call.linkage = l := by
  cases h with
  | kept hkept => cases hnone.symm.trans hkept
  | failed hnone' hcosts => exact ⟨_, rfl, rfl⟩
  | computed hnone' hcosts => exact ⟨_, rfl, rfl⟩

/-- What changes is the table that was asked for: there was none, and now there is the answer. -/
theorem Asked.of_changed (h : Asked L w query calls answer w') {m : Linkage}
    (hm : w'.tables.get? m ≠ w.tables.get? m) :
    query = .table m ∧ w.tables.get? m = none ∧
      ∃ table, answer = .ok (some table) ∧ w'.tables.get? m = some table := by
  cases h with
  | cached l => exact absurd rfl hm
  | kept hkept => exact absurd rfl hm
  | failed hnone hcosts => exact absurd rfl hm
  | @computed l table memory hnone hcosts =>
      by_cases heq : m = l
      · subst heq
        exact ⟨rfl, hnone, table, rfl, (EgressLedger.get?_record _ _ _ _).trans (if_pos rfl)⟩
      · exact absurd ((EgressLedger.get?_record _ _ _ _).trans (if_neg heq)) hm

/-- A query that fails was for a table that is not kept, and leaves all tables as they are. -/
theorem Asked.of_error {e : BuildError} (h : Asked L w query calls (.error e) w') :
    ∃ m, query = .table m ∧ w.tables.get? m = none ∧ w'.tables = w.tables := by
  cases h with
  | failed hnone hcosts => exact ⟨_, rfl, hnone, rfl⟩

/-- A computation is the only one of its query, is for the table that is asked for, which is not
kept, and starts from the table of the direct base, if that is kept. -/
theorem Asked.computation (h : Asked L w query calls answer w') {call : CostCall}
    (hcall : call ∈ calls) :
    calls = [call] ∧ query = .table call.linkage ∧ w.tables.get? call.linkage = none ∧
      call.base = call.linkage.base?.bind w.tables.get? ∧ answer = call.outcome.map some := by
  cases h with
  | cached l => cases hcall
  | kept hkept => cases hcall
  | failed hnone hcosts =>
      obtain rfl := List.mem_singleton.mp hcall
      exact ⟨rfl, rfl, hnone, rfl, rfl⟩
  | computed hnone hcosts =>
      obtain rfl := List.mem_singleton.mp hcall
      exact ⟨rfl, rfl, hnone, rfl, rfl⟩

end Query

/-! ## Runs of queries -/

/-- The table that a computation made for a linkage. -/
def CostCall.made? (m : Linkage) (call : CostCall) : Option EgressTable :=
  if call.linkage = m then call.outcome.toOption else none

/-- The tables that were computed for a linkage. -/
def tablesMade (m : Linkage) (calls : List CostCall) : List EgressTable :=
  calls.filterMap (CostCall.made? m)

theorem tablesMade_append (m : Linkage) (calls calls' : List CostCall) :
    tablesMade m (calls ++ calls') = tablesMade m calls ++ tablesMade m calls' :=
  List.filterMap_append

/-- One query: the kept table is the one that was kept before or the one that was computed. -/
theorem Asked.toList_get? {L : Linker σ} {w w' : World σ} {query : CostQuery}
    {calls : List CostCall} {answer : Except BuildError (Option EgressTable)}
    (h : Asked L w query calls answer w') (m : Linkage) :
    (w.tables.get? m).toList ++ tablesMade m calls = (w'.tables.get? m).toList := by
  cases h with
  | cached l => exact List.append_nil _
  | kept hkept => exact List.append_nil _
  | @failed l e memory hnone hcosts =>
      have hmade : CostCall.made? m ⟨l, l.base?.bind w.tables.get?, .error e⟩ = none := ite_self none
      rw [tablesMade, List.filterMap_cons_none hmade]
      exact List.append_nil _
  | @computed l table memory hnone hcosts =>
      show _ = ((w.tables.record l table).get? m).toList
      rw [EgressLedger.get?_record]
      by_cases hm : m = l
      · subst hm
        rw [if_pos rfl, hnone]
        simp [tablesMade, CostCall.made?, Except.toOption]
      · simp [tablesMade, CostCall.made?, if_neg hm, Ne.symm hm]

namespace World

variable (L : Linker σ) (query : CostQuery) (queries : List CostQuery) (w : World σ)

theorem exists_askAll_audited :
    ∃ calls, ∀ notes, (w.audited notes).askAll L.audited queries =
      (w.askAll L queries).audited (notes ++ calls) := by
  induction queries generalizing w with
  | nil => exact ⟨[], fun notes => by rw [List.append_nil]; rfl⟩
  | cons query queries ih =>
      obtain ⟨calls, hcalls⟩ := ih (w.ask L query).2
      refine ⟨w.computations L [query] ++ calls, fun notes => ?_⟩
      rw [askAll_cons, askAll_cons, ask_audited, hcalls, List.append_assoc]

/-- A notebook with entries grows as an empty one does. -/
theorem askAll_audited (notes : List CostCall) :
    (w.audited notes).askAll L.audited queries =
      (w.askAll L queries).audited (notes ++ w.computations L queries) := by
  obtain ⟨calls, hcalls⟩ := exists_askAll_audited L queries w
  rw [computations, hcalls, hcalls]
  rfl

theorem computations_cons :
    w.computations L (query :: queries) =
      w.computations L [query] ++ (w.ask L query).2.computations L queries := by
  show ((w.audited []).askAll L.audited (query :: queries)).memory.2 = _
  rw [askAll_cons, ask_audited, askAll_audited]
  rfl

/-- **Conservation of tables.** What was kept of a linkage, and then the tables that a run of
queries computes for it, is what is kept of it afterwards. -/
theorem toList_get?_askAll (m : Linkage) :
    (w.tables.get? m).toList ++ tablesMade m (w.computations L queries) =
      ((w.askAll L queries).tables.get? m).toList := by
  induction queries generalizing w with
  | nil => exact List.append_nil _
  | cons query queries ih =>
      have hone := (asked L query w).toList_get? m
      rw [computations_cons, tablesMade_append, ← List.append_assoc, hone, ih, askAll_cons]

variable {L w}

/-- A kept table is kept through every run. -/
theorem get?_askAll_of_kept {m : Linkage} {table : EgressTable}
    (hkept : w.tables.get? m = some table) : (w.askAll L queries).tables.get? m = some table := by
  induction queries generalizing w with
  | nil => exact hkept
  | cons query queries ih => exact ih ((asked L query w).get?_of_kept hkept)

/-- What is kept of a linkage does not change while its table is not asked for. -/
theorem get?_askAll_of_not_mem {queries : List CostQuery} {m : Linkage}
    (hm : CostQuery.table m ∉ queries) :
    (w.askAll L queries).tables.get? m = w.tables.get? m := by
  induction queries generalizing w with
  | nil => rfl
  | cons query queries ih =>
      have hquery := List.ne_of_not_mem_cons hm
      have hqueries := List.not_mem_of_not_mem_cons hm
      exact (ih hqueries).trans ((asked L query w).frame (Ne.symm hquery))

end World

/-! ## The rules of writing -/

/-- What a query may write: a table where there was none, for the linkage that was asked for. -/
def WritesOnce (L : Linker σ) (query : CostQuery) (w : World σ) : Prop :=
  ∀ m, (w.ask L query).2.tables.get? m ≠ w.tables.get? m →
    query = .table m ∧ w.tables.get? m = none ∧
      ∃ table, (w.ask L query).1 = .ok (some table) ∧
        (w.ask L query).2.tables.get? m = some table

/-- A query that fails leaves all tables as they are, and when the table is asked for the next time,
it is computed again, whatever was asked in between. -/
def RetriesAfterFailure (L : Linker σ) (query : CostQuery) (w : World σ) : Prop :=
  ∀ e, (w.ask L query).1 = .error e →
    (w.ask L query).2.tables = w.tables ∧
      ∃ m, query = .table m ∧ ∀ between, CostQuery.table m ∉ between →
        ∃ call, ((w.ask L query).2.askAll L between).computations L [.table m] = [call] ∧
          call.linkage = m

/-- A computation is made for the linkage that is asked for and for no other, is given a table
exactly if the table of the direct base is kept, and then this one, and writes nothing for another
linkage. -/
def ComputesForItself (L : Linker σ) (query : CostQuery) (w : World σ) : Prop :=
  ∀ call ∈ w.computations L [query],
    w.computations L [query] = [call] ∧ query = .table call.linkage ∧
      w.tables.get? call.linkage = none ∧
      (∀ table, call.base = some table ↔
        ∃ base, call.linkage.base? = some base ∧ w.tables.get? base = some table) ∧
      (w.ask L query).1 = call.outcome.map some ∧
      ∀ m, m ≠ call.linkage → (w.ask L query).2.tables.get? m = w.tables.get? m

/-- A kept table is the answer to every later query about its linkage, and none of these computes or
changes anything, whatever else was asked. -/
def AnswersKept (L : Linker σ) (w : World σ) : Prop :=
  ∀ m table, w.tables.get? m = some table → ∀ later query, query.linkage = m →
    (w.askAll L later).tables.get? m = some table ∧
      (w.askAll L later).ask L query = (.ok (some table), w.askAll L later) ∧
      (w.askAll L later).computations L [query] = []

variable (L : Linker σ) (query : CostQuery) (w : World σ)

theorem writesOnce : WritesOnce L query w :=
  fun _ hm => (asked L query w).of_changed hm

theorem retriesAfterFailure : RetriesAfterFailure L query w := by
  intro e herror
  have h := asked L query w
  rw [herror] at h
  obtain ⟨m, rfl, hnone, htables⟩ := h.of_error
  refine ⟨htables, m, rfl, fun between hbetween => ?_⟩
  have hnone' : ((w.ask L (.table m)).2.askAll L between).tables.get? m = none := by
    rw [World.get?_askAll_of_not_mem hbetween, htables, hnone]
  exact (asked L (.table m) _).of_none hnone'

theorem computesForItself : ComputesForItself L query w := by
  intro call hcall
  have h := asked L query w
  obtain ⟨hone, hquery, hnone, hbase, hanswer⟩ := h.computation hcall
  refine ⟨hone, hquery, hnone, fun table => ?_, hanswer, fun m hm => h.frame ?_⟩
  · rw [hbase, Option.bind_eq_some_iff]
  · rw [hquery]
    exact fun heq => hm (CostQuery.table.inj heq).symm

theorem answersKept : AnswersKept L w := by
  rintro m table hkept later query rfl
  have hlater := World.get?_askAll_of_kept (L := L) later hkept
  obtain ⟨hcalls, hanswer, hworld⟩ := (asked L query (w.askAll L later)).of_kept hlater
  exact ⟨hlater, Prod.ext hanswer hworld, hcalls⟩

/-- **Tables are written once.** After any run of queries: the tables that were computed for a
linkage are at most one, and it is what is kept; the next query writes only the table it asks for,
where there was none, and only if it succeeds; a kept table is the answer for ever after; a query
that fails changes no table and is tried again; and a computation sees the kept table of the direct
base and writes for its own linkage only. -/
theorem egress_tables_written_once (queries : List CostQuery) :
    (∀ m, (w.tables.get? m).toList ++ tablesMade m (w.computations L queries) =
        ((w.askAll L queries).tables.get? m).toList ∧
      (tablesMade m (w.computations L queries)).length ≤ 1) ∧
    WritesOnce L query (w.askAll L queries) ∧
    AnswersKept L (w.askAll L queries) ∧
    RetriesAfterFailure L query (w.askAll L queries) ∧
    ComputesForItself L query (w.askAll L queries) := by
  refine ⟨fun m => ?_, writesOnce L query _, answersKept L _, retriesAfterFailure L query _,
    computesForItself L query _⟩
  have hconserved := w.toList_get?_askAll L queries m
  refine ⟨hconserved, ?_⟩
  have hlength := congrArg List.length hconserved
  rw [List.length_append] at hlength
  have hkept : ((w.askAll L queries).tables.get? m).toList.length ≤ 1 := Option.length_toList_le
  omega

/-- The linker whose first computation of a table fails and whose tables hold the number of their
computation, so that no two of them are alike. -/
def Linker.numbering : Linker Nat where
  link _ memory := (.error ⟨"no edge nearby", []⟩, memory)
  egressCosts _ _ memory :=
    if memory = 0 then (.error ⟨"no stop nearby", []⟩, memory + 1)
    else (.ok ⟨[[⟨memory, 0⟩]]⟩, memory + 1)

/-- A tram network is asked before the city below it: its table fails, is computed without a base,
and is still the same one after the table of the city has been computed. -/
theorem egress_tables_written_once_top_down :
    let city : Linkage := .fresh ⟨0, 7, ⟨0, .walk⟩, 0⟩
    let tram : Linkage := .derived ⟨1, 7, ⟨1, .walk⟩, 0⟩ city
    let first : EgressTable := ⟨[[⟨1, 0⟩]]⟩
    let w := World.askAll .numbering [.table tram, .table tram, .table city] ⟨0, {}, []⟩
    (w.tables.get? tram = some first ∧ (w.tables.get? city).isSome = true) ∧
      ∀ later, (w.askAll .numbering later).ask .numbering (.table tram) =
        (.ok (some first), w.askAll .numbering later) := by
  intro city tram first w
  have hkept : w.tables.get? tram = some first := by decide
  have hanswers := (egress_tables_written_once .numbering (.table tram) ⟨0, {}, []⟩
    [.table tram, .table tram, .table city]).2.2.1
  exact ⟨⟨hkept, by decide⟩, fun later => (hanswers tram first hkept later (.table tram) rfl).2.1⟩

end StreetLinkage
