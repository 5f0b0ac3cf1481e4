import TaintFlow.Proofs.BreadthFirst
import TaintFlow.Proofs.Events

/-!
# What a search comes to

A search is a breadth-first sweep over path states, from one source hit after the other. Two
descriptions of what it finds, and how to prove more:

* whatever the clock says, a finding is a finding at a state that the search can reach from one of
  the source hits (`Search.reached_of_mem_findings`);
* if time never runs out, the findings are the best of all those at the states which the sweeps
  expand (`Search.run_findings`). Nothing of the bookkeeping is left in that;
* what every event of every reached state keeps, the whole search keeps (`Search.run_invariant`);
  more generally, what every event keeps of the progress and of its relation to the states that wait
  (`Search.run_keeps`).
-/

namespace TaintFlow

/-- The states that a search can reach from a source hit. -/
inductive Reached (s : Search) (seed : Seed) : PathState → Prop where
  | start : Reached s seed (.start seed)
  | move {st st' : PathState} (h : Reached s seed st) (hm : st' ∈ st.next s) : Reached s seed st'

theorem reached_start {s : Search} {seed : Seed} :
    ∀ st ∈ [PathState.start seed], Reached s seed st := by
  intro st hst
  rw [List.mem_singleton.mp hst]
  exact .start

/-- A clock on which time never runs out. -/
def Clock.Unexpired (clock : Clock) : Prop := ∀ looks, clock looks = false

/-- The source hits that a search starts from, in order. -/
def CallGraph.seeds (g : CallGraph) : List Seed := g.sourceFunctions.flatMap (·.seeds)

/-! ## 1. Source hits -/

/-- Keeps the first hit of each source. -/
def keepFirst (kept : List SourceHit) (hit : SourceHit) : List SourceHit :=
  if kept.any fun k => k.source.id == hit.source.id then kept else kept ++ [hit]

theorem FunctionFacts.seeds_eq (f : FunctionFacts) :
    f.seeds = (f.sources.toList.foldl keepFirst []).map fun hit => ⟨f, hit⟩ := rfl

theorem mem_of_mem_foldl_keepFirst {hits kept : List SourceHit} {hit : SourceHit}
    (h : hit ∈ hits.foldl keepFirst kept) : hit ∈ kept ∨ hit ∈ hits := by
  induction hits generalizing kept with
  | nil => exact Or.inl h
  | cons next hits ih =>
    rw [List.foldl_cons, keepFirst] at h
    split at h
    · exact (ih h).imp_right (List.mem_cons_of_mem _)
    · rcases ih h with hk | hh
      · rcases List.mem_append.mp hk with hk | hn
        · exact Or.inl hk
        · exact Or.inr (List.mem_singleton.mp hn ▸ List.mem_cons_self)
      · exact Or.inr (List.mem_cons_of_mem _ hh)

/-- Which hit of a source is the first does not change. -/
theorem find?_foldl_keepFirst (id : String) (hits kept : List SourceHit) :
    (hits.foldl keepFirst kept).find? (fun h => h.source.id == id) =
      (kept ++ hits).find? fun h => h.source.id == id := by
  induction hits generalizing kept with
  | nil => rw [List.append_nil]; rfl
  | cons hit hits ih =>
    rw [List.foldl_cons, ih, keepFirst]
    split
    · rename_i hany
      rw [List.find?_append, List.find?_append, List.find?_cons]
      by_cases hid : hit.source.id = id
      · -- a hit of this source was kept before
        have hkept : (kept.find? fun h => h.source.id == id).isSome = true := by
          rw [List.find?_isSome, ← hid]
          exact List.any_eq_true.mp hany
        obtain ⟨first, hfirst⟩ := Option.isSome_iff_exists.mp hkept
        rw [hfirst]
        rfl
      · rw [beq_eq_false_iff_ne.mpr hid]
    · rw [List.append_assoc]
      rfl

namespace CallGraph.WellFormed

variable {g : CallGraph} (hg : g.WellFormed)
include hg

/-- A search starts from hits of functions of the graph. -/
theorem of_mem_seeds {seed : Seed} (h : seed ∈ g.seeds) :
    g.facts? seed.function.id = some seed.function ∧ seed.hit ∈ seed.function.sources := by
  obtain ⟨f, hf, hseed⟩ := List.mem_flatMap.mp h
  rw [f.seeds_eq] at hseed
  obtain ⟨hit, hhit, rfl⟩ := List.mem_map.mp hseed
  refine ⟨(hg.mem_sourceFunctions.mp hf).1, (mem_of_mem_foldl_keepFirst hhit).resolve_left ?_⟩
  exact List.not_mem_nil

/-- A source that a function touches has a first hit, and a search starts from it. -/
theorem exists_seed {f : FunctionFacts} (hf : g.facts? f.id = some f) {id : String}
    (h : ∃ hit ∈ f.sources, hit.source.id = id) :
    ∃ first, f.sources.toList.find? (fun hit => hit.source.id == id) = some first ∧
      first.source.id = id ∧ ⟨f, first⟩ ∈ g.seeds := by
  obtain ⟨hit, hmem, hid⟩ := h
  have hsome : (f.sources.toList.find? fun hit => hit.source.id == id).isSome = true :=
    List.find?_isSome.mpr ⟨hit, hmem, beq_iff_eq.mpr hid⟩
  obtain ⟨first, hfirst⟩ := Option.isSome_iff_exists.mp hsome
  have hfid : first.source.id = id := by simpa using List.find?_some hfirst
  have hkept := find?_foldl_keepFirst id f.sources.toList []
  rw [List.nil_append, hfirst] at hkept
  have htouches : f.touchesSource = true := by
    rw [FunctionFacts.touchesSource, SortedSet.isEmpty, Bool.not_eq_true',
      List.isEmpty_eq_false_iff_exists_mem]
    exact ⟨hit, hmem⟩
  refine ⟨first, hfirst, hfid, List.mem_flatMap.mpr
    ⟨f, hg.mem_sourceFunctions.mpr ⟨hf, htouches⟩, ?_⟩⟩
  rw [f.seeds_eq]
  exact List.mem_map.mpr ⟨first, List.mem_of_find?_eq_some hkept, rfl⟩

end CallGraph.WellFormed

/-! ## 2. One step -/

namespace Exploration

variable {s : Search} {seed : Seed} {x : Exploration}

/-- Looking at the clock enters no module and finds nothing. -/
theorem look_eq (clock : Clock) (p : Progress) :
    (p.look clock).1.found = p.found ∧ (p.look clock).1.modules = p.modules ∧
      (p.look clock).2 = clock p.looks := ⟨rfl, rfl, rfl⟩

/-- **What a step does with the first state**: it gives up, skips the state or expands it. -/
theorem step_cases (seed : Seed) {st : PathState} {rest : List PathState}
    (hx : x.frontier = st :: rest) (hw : x.progress.Within s) :
    (x.step s seed).progress.Within s ∧
      ((s.clock x.progress.looks = true ∧ (x.step s seed).frontier = [] ∧
          (x.step s seed).progress.found = x.progress.found) ∨
        (st.key ∈ x.visited ∧ (x.step s seed).frontier = rest ∧
          (x.step s seed).visited = x.visited ∧
          (x.step s seed).progress.found = x.progress.found) ∨
        (st.key ∉ x.visited ∧ (x.step s seed).frontier = rest ++ st.next s ∧
          (x.step s seed).visited = st.key :: x.visited ∧
          (x.step s seed).progress.found =
            (st.sinkFindings s.graph seed).foldl keepBest x.progress.found)) := by
  obtain ⟨hfound, hmodules, hexpired⟩ := look_eq s.clock x.progress
  have hlook : (x.progress.look s.clock).1.Within s := fun m hm => hw m (hmodules ▸ hm)
  rw [step, hx]
  dsimp only
  cases hl : x.progress.look s.clock with
  | mk p expired =>
    rw [hl] at hfound hexpired hlook
    cases expired with
    | true => exact ⟨hlook, Or.inl ⟨hexpired.symm, rfl, hfound⟩⟩
    | false =>
      dsimp only
      by_cases hk : st.key ∈ x.visited
      · rw [if_pos (List.contains_iff_mem.mpr hk)]
        exact ⟨hlook, Or.inr (Or.inl ⟨hk, rfl, rfl, hfound⟩)⟩
      · rw [if_neg fun h => hk (List.contains_iff_mem.mp h)]
        obtain ⟨hnext, hsinks, hwithin⟩ := PathState.expand_adds seed st hlook
        refine ⟨hwithin, Or.inr (Or.inr ⟨hk, ?_, rfl, ?_⟩)⟩
        · rw [← hnext]
        · rw [← hfound]
          exact hsinks

theorem run_succ_nil (steps : Nat) (hx : x.frontier = []) : x.run s seed (steps + 1) = x := by
  rw [run, hx]
  rfl

theorem run_succ_cons (steps : Nat) {st : PathState} {rest : List PathState}
    (hx : x.frontier = st :: rest) :
    x.run s seed (steps + 1) = (x.step s seed).run s seed steps := by
  rw [run, hx]
  rfl

/-! ## 3. A run on any clock -/

/-- A step keeps to admitted modules and to states that can be reached. -/
theorem step_reached {st : PathState} {rest : List PathState} (hx : x.frontier = st :: rest)
    (hw : x.progress.Within s) (hr : ∀ st ∈ x.frontier, Reached s seed st) :
    (x.step s seed).progress.Within s ∧
      ∀ st' ∈ (x.step s seed).frontier, Reached s seed st' := by
  rw [hx] at hr
  have hrest : ∀ st' ∈ rest, Reached s seed st' := fun st' h => hr st' (List.mem_cons_of_mem _ h)
  obtain ⟨hw', hcases⟩ := step_cases seed hx hw
  refine ⟨hw', ?_⟩
  rcases hcases with ⟨_, hfront, _⟩ | ⟨_, hfront, _⟩ | ⟨_, hfront, _⟩
  · rw [hfront]
    exact fun _ h => absurd h List.not_mem_nil
  · rw [hfront]
    exact hrest
  · rw [hfront]
    intro st' hmem
    rcases List.mem_append.mp hmem with hmem | hmem
    · exact hrest st' hmem
    · exact .move (hr st List.mem_cons_self) hmem

/-- A run keeps to admitted modules, and whatever it finds was found before or is at a state that
can be reached. -/
theorem run_reached (steps : Nat) (x : Exploration) (hw : x.progress.Within s)
    (hr : ∀ st ∈ x.frontier, Reached s seed st) :
    (x.run s seed steps).progress.Within s ∧
      ∀ k v, (x.run s seed steps).progress.found.get? k = some v →
        x.progress.found.get? k = some v ∨
          ∃ st, Reached s seed st ∧ v ∈ st.sinkFindings s.graph seed := by
  induction steps generalizing x with
  | zero => exact ⟨hw, fun _ _ h => Or.inl h⟩
  | succ steps ih =>
    cases hx : x.frontier with
    | nil =>
      rw [run_succ_nil steps hx]
      exact ⟨hw, fun _ _ h => Or.inl h⟩
    | cons st rest =>
      rw [run_succ_cons steps hx]
      obtain ⟨hw', hr'⟩ := step_reached hx hw hr
      obtain ⟨hwithin, h⟩ := ih (x.step s seed) hw' hr'
      refine ⟨hwithin, fun k v hv => ?_⟩
      rcases h k v hv with hv | hv
      · rcases (step_cases seed hx hw).2 with ⟨_, _, hfound⟩ | ⟨_, _, _, hfound⟩ | ⟨_, _, _, hfound⟩
        · exact Or.inl (hfound ▸ hv)
        · exact Or.inl (hfound ▸ hv)
        · rw [hfound, get?_foldl_keepBest] at hv
          rcases mem_of_foldl_better hv with hv | hv
          · exact Or.inl hv
          · exact Or.inr ⟨st, hr st (hx ▸ List.mem_cons_self), (List.mem_filter.mp hv).1⟩
      · exact Or.inr hv

/-! ## 4. A run on a clock that never runs out -/

/-- The findings of a run are the best of those at the states that the sweep expands. -/
theorem run_found (hclock : s.clock.Unexpired) (steps : Nat) (x : Exploration)
    (hw : x.progress.Within s) :
    (x.run s seed steps).progress.found =
      ((sweep (PathState.next s) PathState.key steps x.frontier x.visited).flatMap
        (PathState.sinkFindings s.graph seed)).foldl keepBest x.progress.found := by
  induction steps generalizing x with
  | zero => rfl
  | succ steps ih =>
    cases hx : x.frontier with
    | nil =>
      rw [run_succ_nil steps hx]
      rfl
    | cons st rest =>
      rw [run_succ_cons steps hx, sweep]
      obtain ⟨hw', hcases⟩ := step_cases seed hx hw
      rw [ih (x.step s seed) hw']
      rcases hcases with ⟨hexpired, _⟩ | ⟨hk, hfront, hvisited, hfound⟩ |
        ⟨hk, hfront, hvisited, hfound⟩
      · rw [hclock] at hexpired
        cases hexpired
      · rw [if_pos (List.contains_iff_mem.mpr hk), hfront, hvisited, hfound]
      · rw [if_neg fun h => hk (List.contains_iff_mem.mp h), hfront, hvisited, hfound,
          List.flatMap_cons, List.foldl_append]

end Exploration

/-! ## 5. The whole search -/

namespace Search

variable {s : Search}

/-- The states that the search from a source hit expands, in order. -/
def trace (s : Search) (seed : Seed) : List PathState :=
  sweep (PathState.next s) PathState.key s.graph.searchBound [.start seed] []

/-- The findings that are met from a source hit, in order. -/
def met (s : Search) (seed : Seed) : List Finding :=
  if s.admits seed.function.id.module then
    (s.trace seed).flatMap (PathState.sinkFindings s.graph seed)
  else []

/-- The progress after one more source hit: the run from it if its module is admitted. -/
theorem trySeed_cases (seed : Seed) {p : Progress} (hw : p.Within s) :
    (trySeed s p seed).Within s ∧
      (((s.clock p.looks = true ∨ s.admits seed.function.id.module = false) ∧
          (trySeed s p seed).found = p.found) ∨
        ∃ q : Progress, s.admits seed.function.id.module = true ∧ q.Within s ∧ q.found = p.found ∧
          trySeed s p seed =
            (Exploration.run s seed s.graph.searchBound ⟨[.start seed], [], q⟩).progress) := by
  have hlook : (p.look s.clock).1.Within s := hw
  rw [trySeed]
  cases hl : p.look s.clock with
  | mk q expired =>
    have hfound : q.found = p.found := by rw [← (Prod.mk.inj hl).1]
    have hexpired : expired = s.clock p.looks := (Prod.mk.inj hl).2.symm
    rw [hl] at hlook
    cases expired with
    | true => exact ⟨hlook, Or.inl ⟨Or.inl hexpired.symm, hfound⟩⟩
    | false =>
      dsimp only
      rw [runSeed, Progress.enter_eq hlook]
      by_cases hopen : s.admits seed.function.id.module = true
      · rw [if_pos hopen]
        have hin : Progress.Within s { q with modules := q.modules.insert seed.function.id.module } := by
          have h := Progress.within_enter hlook seed.function.id.module
          rwa [Progress.enter_eq hlook, if_pos hopen] at h
        exact ⟨(Exploration.run_reached _ _ hin reached_start).1,
          Or.inr ⟨_, hopen, hin, hfound, rfl⟩⟩
      · rw [if_neg hopen]
        exact ⟨hlook, Or.inl ⟨Or.inr (Bool.not_eq_true _ ▸ hopen), hfound⟩⟩

theorem foldl_trySeed_reached (seeds : List Seed) {p : Progress} (hw : p.Within s) {k : FindingKey}
    {v : Finding} (h : (seeds.foldl (trySeed s) p).found.get? k = some v) :
    p.found.get? k = some v ∨
      ∃ seed ∈ seeds, ∃ st, Reached s seed st ∧ v ∈ st.sinkFindings s.graph seed := by
  induction seeds generalizing p with
  | nil => exact Or.inl h
  | cons seed seeds ih =>
    obtain ⟨hw', hcases⟩ := trySeed_cases seed hw
    rcases ih hw' h with hv | ⟨seed', hseed', hst⟩
    · rcases hcases with ⟨_, hfound⟩ | ⟨q, _, hq, hfound, hrun⟩
      · rw [hfound] at hv
        exact Or.inl hv
      · rw [hrun] at hv
        rcases (Exploration.run_reached _ _ hq reached_start).2 k v hv with hv | hst
        · rw [← hfound]
          exact Or.inl hv
        · exact Or.inr ⟨seed, List.mem_cons_self, hst⟩
    · exact Or.inr ⟨seed', List.mem_cons_of_mem _ hseed', hst⟩

/-- **Whatever a search finds is at a state that it can reach**, on any clock. -/
theorem reached_of_mem_findings {v : Finding} (h : v ∈ s.run.findings) :
    ∃ seed ∈ s.graph.seeds, ∃ st, Reached s seed st ∧ v ∈ st.sinkFindings s.graph seed := by
  obtain ⟨k, hk⟩ := SortedMap.mem_values_iff.mp h
  rcases foldl_trySeed_reached _ (Progress.within_empty s) hk with hv | hv
  · cases hv
  · exact hv

theorem trySeed_found (hclock : s.clock.Unexpired) (seed : Seed) {p : Progress}
    (hw : p.Within s) : (trySeed s p seed).found = (s.met seed).foldl keepBest p.found := by
  obtain ⟨_, hcases⟩ := trySeed_cases seed hw
  rw [met]
  rcases hcases with ⟨hstop, hfound⟩ | ⟨q, hopen, hq, hfound, hrun⟩
  · rcases hstop with hexpired | hopen
    · rw [hclock] at hexpired
      cases hexpired
    · rw [hopen, hfound]
      rfl
  · rw [if_pos hopen, hrun, Exploration.run_found hclock _ _ hq, ← hfound]
    rfl

theorem foldl_trySeed_found (hclock : s.clock.Unexpired) (seeds : List Seed) {p : Progress}
    (hw : p.Within s) :
    (seeds.foldl (trySeed s) p).found = (seeds.flatMap s.met).foldl keepBest p.found := by
  induction seeds generalizing p with
  | nil => rfl
  | cons seed seeds ih =>
    rw [List.foldl_cons, ih (trySeed_cases seed hw).1, trySeed_found hclock seed hw,
      List.flatMap_cons, List.foldl_append]

/-- **A search that is not cut short by time keeps the best of the findings it meets.** -/
theorem run_findings (hclock : s.clock.Unexpired) :
    s.run.findings = (keptOf (s.graph.seeds.flatMap s.met)).values := by
  have h := foldl_trySeed_found hclock s.graph.seeds (Progress.within_empty s)
  exact congrArg SortedMap.values h

end Search

/-! ## 6. What a search keeps -/

/-- What a search from a source hit keeps: a property of its progress, and a relation between the
progress and each state that waits to be expanded. -/
structure Search.Keeps (s : Search) (seed : Seed) (P : Progress → Prop)
    (K : Progress → PathState → Prop) : Prop where
  look : ∀ p, P p → P (p.look s.clock).1
  lookKnown : ∀ p st, K p st → K (p.look s.clock).1 st
  /-- If the start is entered, it is known. -/
  enter : ∀ p, P p → P (p.enter s seed.function.id.module).1 ∧
    ((p.enter s seed.function.id.module).2 = true →
      K (p.enter s seed.function.id.module).1 (.start seed))
  /-- Every event of a known state leads to known states only. -/
  event : ∀ st, ∀ ev ∈ st.events s.graph seed, ∀ acc, P acc.1 → K acc.1 st →
    P (ev.perform s acc).1 ∧
      ∀ st' ∈ (ev.perform s acc).2, st' ∈ acc.2 ∨ K (ev.perform s acc).1 st'
  eventKnown : ∀ ev acc st, P acc.1 → K acc.1 st → K (Event.perform s acc ev).1 st

section Invariant

variable {s : Search} {seed : Seed} {P : Progress → Prop} {K : Progress → PathState → Prop}

namespace Search.Keeps

variable (h : s.Keeps seed P K)
include h

theorem foldl_perform {st : PathState} {events : List Event}
    (hsub : ∀ ev ∈ events, ev ∈ st.events s.graph seed) {acc : Progress × List PathState}
    (hP : P acc.1) (hst : K acc.1 st) (hnew : ∀ st' ∈ acc.2, K acc.1 st') :
    P (events.foldl (Event.perform s) acc).1 ∧
      (∀ st', K acc.1 st' → K (events.foldl (Event.perform s) acc).1 st') ∧
      ∀ st' ∈ (events.foldl (Event.perform s) acc).2,
        K (events.foldl (Event.perform s) acc).1 st' := by
  induction events generalizing acc with
  | nil => exact ⟨hP, fun _ h => h, hnew⟩
  | cons ev events ih =>
    obtain ⟨hP', hadded⟩ := h.event st ev (hsub ev List.mem_cons_self) acc hP hst
    have hkept := fun st' => h.eventKnown ev acc st' hP
    have hnew' : ∀ st' ∈ (ev.perform s acc).2, K (ev.perform s acc).1 st' := fun st' hst' =>
      (hadded st' hst').elim (fun hold => hkept st' (hnew st' hold)) id
    obtain ⟨hend, hkept', hall⟩ :=
      ih (fun ev' hev' => hsub ev' (List.mem_cons_of_mem _ hev')) hP' (hkept st hst) hnew'
    exact ⟨hend, fun st' hst' => hkept' st' (hkept st' hst'), hall⟩

theorem step {x : Exploration} (hP : P x.progress) (hK : ∀ st ∈ x.frontier, K x.progress st) :
    P (x.step s seed).progress ∧
      ∀ st ∈ (x.step s seed).frontier, K (x.step s seed).progress st := by
  rw [Exploration.step]
  cases hx : x.frontier with
  | nil => exact ⟨hP, fun _ hst => absurd (hx ▸ hst) List.not_mem_nil⟩
  | cons st rest =>
    rw [hx] at hK
    have hp := h.look x.progress hP
    have hk : ∀ st' ∈ st :: rest, K (x.progress.look s.clock).1 st' := fun st' hst' =>
      h.lookKnown _ st' (hK st' hst')
    dsimp only
    cases hl : x.progress.look s.clock with
    | mk p expired =>
      rw [hl] at hp hk
      have hrest : ∀ st' ∈ rest, K p st' := fun st' hst' => hk st' (List.mem_cons_of_mem _ hst')
      cases expired with
      | true => exact ⟨hp, fun _ hst => absurd hst List.not_mem_nil⟩
      | false =>
        dsimp only
        split
        · exact ⟨hp, hrest⟩
        · have hexpand := h.foldl_perform (fun ev (hev : ev ∈ st.events s.graph seed) => hev)
            (show P (p, ([] : List PathState)).1 from hp) (hk st List.mem_cons_self)
            fun _ hst => absurd hst List.not_mem_nil
          rw [← PathState.expand_eq] at hexpand
          obtain ⟨hend, hkept, hnew⟩ := hexpand
          refine ⟨hend, fun st' hst' => ?_⟩
          rcases List.mem_append.mp hst' with hst' | hst'
          · exact hkept st' (hrest st' hst')
          · exact hnew st' hst'

theorem run (steps : Nat) (x : Exploration) (hP : P x.progress)
    (hK : ∀ st ∈ x.frontier, K x.progress st) : P (x.run s seed steps).progress := by
  induction steps generalizing x with
  | zero => exact hP
  | succ steps ih =>
    cases hx : x.frontier with
    | nil =>
      rw [Exploration.run_succ_nil steps hx]
      exact hP
    | cons st rest =>
      obtain ⟨hP', hK'⟩ := h.step hP hK
      rw [Exploration.run_succ_cons steps hx]
      exact ih (x.step s seed) hP' hK'

theorem trySeed {p : Progress} (hP : P p) : P (TaintFlow.trySeed s p seed) := by
  have hp := h.look p hP
  rw [TaintFlow.trySeed]
  cases hl : p.look s.clock with
  | mk q expired =>
    rw [hl] at hp
    cases expired with
    | true => exact hp
    | false =>
      have hq := h.enter q hp
      dsimp only
      rw [runSeed]
      cases he : q.enter s seed.function.id.module with
      | mk r entered =>
        rw [he] at hq
        cases entered with
        | false => exact hq.1
        | true =>
          refine h.run _ _ hq.1 fun st hst => ?_
          rw [List.mem_singleton.mp hst]
          exact hq.2 rfl

end Search.Keeps

namespace Search

/-- **What the search from every source hit keeps, the whole search keeps.** -/
theorem run_keeps (hstart : P {}) (h : ∀ seed ∈ s.graph.seeds, ∃ K, s.Keeps seed P K) :
    ∃ p : Progress, s.run = p.outcome ∧ P p := by
  have hseeds : ∀ (seeds : List Seed) (p : Progress), (∀ seed ∈ seeds, seed ∈ s.graph.seeds) →
      P p → P (seeds.foldl (trySeed s) p) := by
    intro seeds
    induction seeds with
    | nil => exact fun _ _ h => h
    | cons seed seeds ih =>
      intro p hsub hP
      obtain ⟨K, hK⟩ := h seed (hsub seed List.mem_cons_self)
      exact ih _ (fun seed' h' => hsub seed' (List.mem_cons_of_mem _ h')) (hK.trySeed hP)
  exact ⟨_, rfl, hseeds _ _ (fun _ h => h) hstart⟩

/-- **What looking at the clock, entering the modules of the source hits and every event of a reached
state keeps is kept by the whole search.** -/
theorem run_invariant (hstart : P {}) (hlook : ∀ p, P p → P (p.look s.clock).1)
    (henter : ∀ seed ∈ s.graph.seeds, ∀ p, P p → P (p.enter s seed.function.id.module).1)
    (hevent : ∀ seed ∈ s.graph.seeds, ∀ st, Reached s seed st →
      ∀ ev ∈ st.events s.graph seed, ∀ acc, P acc.1 → P (ev.perform s acc).1) :
    ∃ p : Progress, s.run = p.outcome ∧ P p := by
  -- the states that wait are reached, as long as only admitted modules were entered
  have hkeeps : ∀ seed ∈ s.graph.seeds,
      s.Keeps seed (fun p => p.Within s ∧ P p) fun _ st => Reached s seed st := by
    intro seed hseed
    refine ⟨fun p hp => ⟨hp.1, hlook p hp.2⟩, fun _ _ h => h, fun p hp => ?_, ?_, fun _ _ _ _ h => h⟩
    · exact ⟨⟨Progress.within_enter hp.1 _, henter seed hseed p hp.2⟩, fun _ => .start⟩
    · intro st ev hev acc hacc hst
      obtain ⟨hadded, _, hwithin⟩ := ev.perform_adds hacc.1
      refine ⟨⟨hwithin, hevent seed hseed st hst ev hev acc hacc.2⟩, fun st' hst' => ?_⟩
      rw [hadded, List.mem_append, List.mem_filter, Option.mem_toList] at hst'
      refine hst'.imp_right fun ⟨hmove, hallowed⟩ => .move hst (List.mem_filter.mpr ⟨?_, hallowed⟩)
      rw [← PathState.filterMap_move?_events s.graph seed st]
      exact List.mem_filterMap.mpr ⟨ev, hev, hmove⟩
  obtain ⟨p, hrun, hp⟩ := run_keeps (s := s) ⟨Progress.within_empty s, hstart⟩ fun seed hseed =>
    ⟨_, hkeeps seed hseed⟩
  exact ⟨p, hrun, hp.2⟩

end Search

end Invariant

end TaintFlow
