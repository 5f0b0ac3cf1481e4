import TaintFlow.Proofs.AdmittedModules
import TaintFlow.Proofs.SearchBound

/-!
# The search comes to its end

A call graph may have cycles, and along a cycle the sanitizers in force grow and shrink, so that a
function is met again and again in new states. Still each search empties its frontier, without help
from limits or clock. Only finitely many states can be met at all (`stateKeys`): sanitizers come from
the labels of the graph, and tainted are the source, or one call, or some parameters. A state that was
met is skipped, and one that is expanded leads on over each edge at most twice, so what is left to do
drops with every state that is taken from the frontier (`Exploration.remaining_step_lt`).

Nothing is assumed of the progress in which a search starts: what was found, entered or counted before
does not bear on its end.
-/

namespace TaintFlow

/-! ## 1. What an expansion adds, whatever came before -/

section Adds

variable {s : Search} {acc : Progress × List PathState}

theorem Event.perform_sublist (ev : Event) :
    ∃ added, added.Sublist ev.move?.toList ∧ (ev.perform s acc).2 = acc.2 ++ added := by
  cases ev with
  | explored => exact ⟨[], .slnil, (List.append_nil _).symm⟩
  | sanitized count => exact ⟨[], .slnil, (List.append_nil _).symm⟩
  | finding v => exact ⟨[], .slnil, (List.append_nil _).symm⟩
  | move st =>
    rw [perform]
    split
    · exact ⟨[], List.nil_sublist _, (List.append_nil _).symm⟩
    · split
      · exact ⟨[], List.nil_sublist _, (List.append_nil _).symm⟩
      · exact ⟨[st], List.Sublist.refl _, rfl⟩

theorem foldl_perform_sublist (events : List Event) :
    ∃ added, added.Sublist (events.filterMap Event.move?) ∧
      (events.foldl (Event.perform s) acc).2 = acc.2 ++ added := by
  induction events generalizing acc with
  | nil => exact ⟨[], .slnil, (List.append_nil _).symm⟩
  | cons ev events ih =>
    obtain ⟨first, hfirst, hperform⟩ := @Event.perform_sublist s acc ev
    obtain ⟨rest, hrest, hfold⟩ := @ih (ev.perform s acc)
    refine ⟨first ++ rest, ?_, ?_⟩
    · have happend : (ev :: events).filterMap Event.move? =
          ev.move?.toList ++ events.filterMap Event.move? := by
        rw [List.filterMap_cons]
        cases ev.move? <;> rfl
      rw [happend]
      exact hfirst.append hrest
    · rw [List.foldl_cons, hfold, hperform, List.append_assoc]

/-- An expansion goes on to some of the moves, in whatever progress. -/
theorem PathState.expand_sublist (seed : Seed) (st : PathState) (p : Progress) :
    (st.expand s seed p).2.Sublist (st.moves s.graph) := by
  obtain ⟨added, hadded, hfold⟩ := @foldl_perform_sublist s (p, []) (st.events s.graph seed)
  rw [filterMap_move?_events] at hadded
  rw [expand_eq, hfold]
  exact hadded

end Adds

/-! ## 2. The frontier -/

namespace Exploration

variable {s : Search} {seed : Seed} {x : Exploration}

/-- What a step does to the frontier: it is given up, or its first state is skipped or expanded. -/
theorem step_frontier (s : Search) (seed : Seed) {st : PathState} {rest : List PathState}
    (hx : x.frontier = st :: rest) :
    ((x.step s seed).frontier = [] ∧ (x.step s seed).visited = x.visited) ∨
      ((x.step s seed).frontier = rest ∧ (x.step s seed).visited = x.visited) ∨
      (st.key ∉ x.visited ∧ (x.step s seed).visited = st.key :: x.visited ∧
        ∃ added, added.Sublist (st.moves s.graph) ∧ (x.step s seed).frontier = rest ++ added) := by
  rw [step, hx]
  dsimp only
  cases x.progress.look s.clock with
  | mk p expired =>
    cases expired with
    | true => exact Or.inl ⟨rfl, rfl⟩
    | false =>
      by_cases hk : st.key ∈ x.visited
      · dsimp only
        rw [if_pos (List.contains_iff_mem.mpr hk)]
        exact Or.inr (Or.inl ⟨rfl, rfl⟩)
      · dsimp only
        rw [if_neg fun h => hk (List.contains_iff_mem.mp h)]
        exact Or.inr (Or.inr ⟨hk, rfl, _, st.expand_sublist seed p, rfl⟩)

/-- What is left to do: the frontier, and the moves of the states that can still be expanded. -/
def remaining (g : CallGraph) (seed : Seed) (x : Exploration) : Nat :=
  x.frontier.length + (unvisited (stateKeys g seed) x.visited).length * (2 * g.edges.length)

/-- A step keeps to states that a search can meet. -/
theorem bounded_step (hg : s.graph.WellFormed) {st : PathState} {rest : List PathState}
    (hx : x.frontier = st :: rest) (h : ∀ st ∈ x.frontier, Bounded s.graph seed st) :
    ∀ st' ∈ (x.step s seed).frontier, Bounded s.graph seed st' := by
  rw [hx] at h
  have hrest : ∀ st' ∈ rest, Bounded s.graph seed st' := fun st' hst' =>
    h st' (List.mem_cons_of_mem _ hst')
  intro st' hst'
  rcases step_frontier s seed hx with ⟨hf, _⟩ | ⟨hf, _⟩ | ⟨_, _, added, hadded, hf⟩
  · rw [hf] at hst'
    exact absurd hst' List.not_mem_nil
  · exact hrest st' (hf ▸ hst')
  · rw [hf] at hst'
    rcases List.mem_append.mp hst' with hst' | hst'
    · exact hrest st' hst'
    · exact (h st List.mem_cons_self).move hg (hadded.subset hst')

/-- **Every step leaves less to do.** -/
theorem remaining_step_lt {st : PathState} {rest : List PathState} (hx : x.frontier = st :: rest)
    (h : Bounded s.graph seed st) :
    (x.step s seed).remaining s.graph seed < x.remaining s.graph seed := by
  rw [remaining, remaining, hx, List.length_cons]
  rcases step_frontier s seed hx with ⟨hf, hv⟩ | ⟨hf, hv⟩ | ⟨hk, hv, added, hadded, hf⟩
  · rw [hf, hv, List.length_nil]
    omega
  · rw [hf, hv]
    omega
  · -- the key of an expanded state pays for all moves from it
    have hlt := length_unvisited_cons h.mem_stateKeys hk
    have hpaid := Nat.mul_le_mul_right (2 * s.graph.edges.length) hlt
    rw [Nat.succ_mul] at hpaid
    have hlen := Nat.le_trans hadded.length_le (st.length_moves_le s.graph)
    rw [hf, hv, List.length_append]
    omega

/-- **The search from a source hit comes to its end**, whatever limits, clock and progress. -/
theorem drains_run (hg : s.graph.WellFormed)
    (hseed : s.graph.facts? seed.function.id = some seed.function) (p : Progress) :
    ∃ n ≤ s.graph.searchBound, Drains (step s seed) frontier n ⟨[.start seed], [], p⟩
      (run s seed s.graph.searchBound ⟨[.start seed], [], p⟩) := by
  have hstep : ∀ x : Exploration, (∀ st ∈ x.frontier, Bounded s.graph seed st) →
      x.frontier ≠ [] → (∀ st ∈ (x.step s seed).frontier, Bounded s.graph seed st) ∧
        (x.step s seed).remaining s.graph seed < x.remaining s.graph seed := by
    intro x hx hne
    obtain ⟨st, rest, hfront⟩ := List.exists_cons_of_ne_nil hne
    exact ⟨bounded_step hg hfront hx, remaining_step_lt hfront (hx st (hfront ▸ List.mem_cons_self))⟩
  have hstart : ∀ st ∈ [PathState.start seed], Bounded s.graph seed st := by
    intro st hst
    rw [List.mem_singleton.mp hst]
    exact Bounded.start hseed
  obtain ⟨n, hn, last, hlast⟩ := exists_drains hstep (x := ⟨[.start seed], [], p⟩) hstart
  have hbound : n ≤ s.graph.searchBound :=
    Nat.le_trans hn (unvisited_nil_le_searchBound s.graph seed)
  rw [hlast.run_eq (run s seed) (fun _ => rfl) (fun _ _ => rfl) hbound]
  exact ⟨n, hbound, hlast⟩

end Exploration

/-! ## 3. Both loops -/

/-- **The analysis of a project terminates.** On the graph of any project and under any limits and
clock, the search from each source hit empties its frontier after finitely many steps, in whatever
progress it starts, and so does the pass that admits modules, under any cap. The bounds on the steps are
never what ends them. -/
theorem loops_empty_their_queues {modules : ModuleGraph} {facts : List FunctionFacts}
    {registry : Registry} {g : CallGraph} (h : CallGraph.build modules facts registry = .ok g)
    (limits : Limits) (clock : Clock) :
    (∀ seed ∈ g.seeds, ∀ p : Progress, ∃ pops ≤ g.searchBound,
      Drains (Exploration.step (.ofLimits g limits clock) seed) Exploration.frontier pops
        ⟨[.start seed], [], p⟩
        (Exploration.run (.ofLimits g limits clock) seed g.searchBound ⟨[.start seed], [], p⟩)) ∧
    ∀ cap, ∃ pops ≤ Admission.stepBound g,
      Drains (Admission.step g cap) Admission.queue pops { queue := g.sourceFunctions }
        (Admission.run g cap (Admission.stepBound g) { queue := g.sourceFunctions }) := by
  have hg := CallGraph.build_wellFormed h
  refine ⟨fun seed hseed p => ?_, Admission.drains_run g⟩
  obtain ⟨hfacts, _⟩ := hg.of_mem_seeds hseed
  exact Exploration.drains_run (s := .ofLimits g limits clock) hg hfacts p

/-! ### A method that calls itself

`spin` hands on what it reads, what it was handed and what came back, escaped, to itself, and returns
it unescaped. So calls and returns both go round, and the sanitizers in force come and go. -/

namespace SelfCall

def hit : SourceHit := ⟨SmallProject.line 3, .input⟩

def handed : Label where
  origins := .ofList [.param 1, .source Source.input.id, .call 0]
  sanitizers := .singleton "html.escape"

def spin : FunctionFacts where
  id := ⟨"app", "Loop.spin"⟩
  owner := some "Loop"
  line := 2
  params := ["self", "text"]
  positionalParams := 2
  sources := .singleton hit
  calls :=
    [{ callee := "self.spin", location := SmallProject.line 4, args := [⟨.positional 0, handed⟩]
       dynamic := false, role := none, result := .call 0 }]
  returns := { handed with sanitizers := ∅ }

def spinCall : CallEdge where
  caller := spin.id
  callee := spin.id
  location := SmallProject.line 4
  site := 0
  bindings := [⟨1, handed⟩]
  unbound := []
  dynamic := false

def graph : CallGraph where
  registry := {}
  nodes := [{ id := spin.id, kind := .function, facts := some spin, inCallCycle := true }]
  edges := [spinCall]

theorem summarized_eq :
    (Functions.ofFacts [spin]).summarized (callTargets ⟨∅⟩ (.ofFacts [spin])) {} =
      .ofFacts [spin] := by decide +kernel

theorem build_eq : CallGraph.build ⟨∅⟩ [spin] {} = .ok graph := by
  rw [CallGraph.build, summarized_eq]
  rfl

def seed : Seed := ⟨spin, hit⟩

theorem seed_mem : seed ∈ graph.seeds :=
  List.mem_flatMap.mpr
    ⟨spin, (CallGraph.build_wellFormed build_eq).mem_sourceFunctions.mpr ⟨rfl, rfl⟩,
      List.mem_singleton.mpr rfl⟩

/-- No cap and a clock that never runs out. -/
def search : Search := .ofLimits graph ⟨.enterprise, none, none, .ofSeconds 1⟩ fun _ => false

end SelfCall

open SelfCall in
theorem self_call_ends :
    CallGraph.build ⟨∅⟩ [spin] {} = .ok graph ∧ spinCall ∈ graph.edges ∧
      spinCall.caller = spinCall.callee ∧ seed ∈ graph.seeds ∧
      (∃ pops ≤ graph.searchBound, Drains (Exploration.step search seed) Exploration.frontier pops
        ⟨[.start seed], [], {}⟩
        (Exploration.run search seed graph.searchBound ⟨[.start seed], [], {}⟩)) ∧
      ∃ pops ≤ Admission.stepBound graph,
        Drains (Admission.step graph 1) Admission.queue pops { queue := graph.sourceFunctions }
          (Admission.run graph 1 (Admission.stepBound graph) { queue := graph.sourceFunctions }) := by
  have hends := loops_empty_their_queues build_eq ⟨.enterprise, none, none, .ofSeconds 1⟩
    fun _ => false
  exact ⟨build_eq, List.mem_singleton.mpr rfl, rfl, seed_mem, hends.1 seed seed_mem {}, hends.2 1⟩

end TaintFlow
