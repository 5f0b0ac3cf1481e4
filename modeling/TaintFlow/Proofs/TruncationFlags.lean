import TaintFlow.Proofs.AdmittedModules
import TaintFlow.Proofs.Soundness

/-!
# What the flags of a search say

A search that was cut short says by which limits. Both directions matter to whoever reads the flags.

* A flag is raised for a reason only: some state that taint leads to was too deep, some module was
  not admitted, or time ran out (`Search.run_truncation_le`).
* Nothing is cut off silently: if a flag stays down, its limit may be lifted and the search takes the
  very same steps (`Search.run_eq_of_laxer`). So an outcome without flags is the outcome without
  limits (`unflagged_outcome_complete`).

The second is a simulation. Flags are never taken down again, so if one is down at the end it was
down after every step before, and there the two searches did the same (`Follows`).
-/

namespace TaintFlow

/-! ## 1. Flags are raised for a reason -/

/-- Every flag of the first is one of the second. -/
structure Truncation.Le (a b : Truncation) : Prop where
  depth : a.depth = true → b.depth = true
  modules : a.modules = true → b.modules = true
  timeout : a.timeout = true → b.timeout = true

instance : LE Truncation := ⟨Truncation.Le⟩

theorem Truncation.le_refl (t : Truncation) : t ≤ t := ⟨id, id, id⟩

theorem Truncation.le_trans {a b c : Truncation} (h : a ≤ b) (h' : b ≤ c) : a ≤ c :=
  ⟨fun ha => h'.depth (h.depth ha), fun ha => h'.modules (h.modules ha),
    fun ha => h'.timeout (h.timeout ha)⟩

theorem Truncation.eq_empty_of_le {t : Truncation} (h : t ≤ {}) : t = {} := by
  obtain ⟨depth, modules, timeout⟩ := t
  have hdepth : depth = false := Bool.eq_false_iff.mpr fun e => Bool.false_ne_true (h.depth e)
  have hmodules : modules = false := Bool.eq_false_iff.mpr fun e => Bool.false_ne_true (h.modules e)
  have htimeout : timeout = false := Bool.eq_false_iff.mpr fun e => Bool.false_ne_true (h.timeout e)
  rw [hdepth, hmodules, htimeout]

section Reason

variable {s : Search} {t : Truncation}

namespace Progress

theorem enter_truncation_le {p : Progress} {module : String} (h : p.truncation ≤ t)
    (hmodules : t.modules = false → s.admits module = true) :
    (p.enter s module).1.truncation ≤ t := by
  rcases enter_cases s p module with ⟨hrefused, he⟩ | ⟨_, he⟩
  · rw [he]
    refine ⟨h.depth, fun _ => ?_, h.timeout⟩
    cases ht : t.modules with
    | true => rfl
    | false =>
      rw [hmodules ht] at hrefused
      cases hrefused
  · rw [he]
    exact h

theorem look_truncation_le {p : Progress} (h : p.truncation ≤ t)
    (hclock : t.timeout = false → s.clock.Unexpired) : (p.look s.clock).1.truncation ≤ t := by
  refine ⟨h.depth, h.modules, fun hflag => ?_⟩
  have hflag : (p.truncation.timeout || s.clock p.looks) = true := hflag
  cases ht : t.timeout with
  | true => rfl
  | false =>
    rw [hclock ht p.looks, Bool.or_false] at hflag
    rw [← ht]
    exact h.timeout hflag

end Progress

theorem Event.perform_truncation_le (ev : Event) {acc : Progress × List PathState}
    (h : acc.1.truncation ≤ t)
    (hdepth : t.depth = false → ∀ st, ev = .move st → s.tooDeep st.trail.length = false)
    (hmodules : t.modules = false → ∀ st, ev = .move st → s.admits st.function.id.module = true) :
    (ev.perform s acc).1.truncation ≤ t := by
  cases ev with
  | explored => exact h
  | sanitized count => exact h
  | finding v =>
    show (acc.1.addFinding v).truncation ≤ t
    rw [Progress.addFinding_eq]
    exact h
  | move st =>
    rw [perform]
    split
    · rename_i hdeep
      refine ⟨fun _ => ?_, h.modules, h.timeout⟩
      cases ht : t.depth with
      | true => rfl
      | false =>
        rw [hdepth ht st rfl] at hdeep
        cases hdeep
    · have henter := Progress.enter_truncation_le (s := s) h fun ht => hmodules ht st rfl
      cases he : acc.1.enter s st.function.id.module with
      | mk p entered =>
        rw [he] at henter
        cases entered <;> exact henter

/-- **A flag is raised for a reason only.** A flag stays down if its limit forbids nothing that the
search comes to. -/
theorem Search.run_truncation_le
    (hdepth : t.depth = false → ∀ seed ∈ s.graph.seeds, ∀ st, Reached s seed st →
      ∀ st' ∈ st.moves s.graph, s.tooDeep st'.trail.length = false)
    (hseeds : t.modules = false → ∀ seed ∈ s.graph.seeds,
      s.admits seed.function.id.module = true)
    (hmodules : t.modules = false → ∀ seed ∈ s.graph.seeds, ∀ st, Reached s seed st →
      ∀ st' ∈ st.moves s.graph, s.admits st'.function.id.module = true)
    (hclock : t.timeout = false → s.clock.Unexpired) : s.run.truncation ≤ t := by
  have hempty : ({} : Truncation) ≤ t := ⟨nofun, nofun, nofun⟩
  obtain ⟨p, hrun, hp⟩ := Search.run_invariant (s := s) (P := fun p => p.truncation ≤ t) hempty
    (fun p h => Progress.look_truncation_le h hclock)
    (fun seed hseed p h => Progress.enter_truncation_le h fun ht => hseeds ht seed hseed)
    (fun seed hseed st hst ev hev acc h => ev.perform_truncation_le h
      (fun ht st' he => hdepth ht seed hseed st hst st'
        (PathState.mem_moves_of_mem_events (he ▸ hev)))
      (fun ht st' he => hmodules ht seed hseed st hst st'
        (PathState.mem_moves_of_mem_events (he ▸ hev))))
  rw [hrun]
  exact hp

end Reason

/-! ## 2. Following a search -/

/-- Something with flags. -/
class Flagged (α : Type) where
  flags : α → Truncation

export Flagged (flags)

instance : Flagged Progress := ⟨Progress.truncation⟩

instance {α β : Type} [Flagged α] : Flagged (α × β) := ⟨fun a => flags a.1⟩

instance : Flagged Exploration := ⟨fun x => x.progress.truncation⟩

section Follows

variable {α β γ ι : Type} [Flagged α] [Flagged β] [Flagged γ] {t : Truncation}

/-- The first function takes no flag down, and where it raises none beyond some given ones the second
does the same. -/
def Follows (t : Truncation) (f f' : α → β) : Prop :=
  ∀ a, flags a ≤ flags (f a) ∧ (flags (f a) ≤ t → f' a = f a)

namespace Follows

theorem comp {f f' : α → β} {k k' : β → γ} (h : Follows t f f') (hk : Follows t k k') :
    Follows t (fun a => k (f a)) (fun a => k' (f' a)) := by
  intro a
  obtain ⟨hle, heq⟩ := h a
  obtain ⟨hle', heq'⟩ := hk (f a)
  refine ⟨Truncation.le_trans hle hle', fun ht => ?_⟩
  have hf : f' a = f a := heq (Truncation.le_trans hle' ht)
  show k' (f' a) = k (f a)
  rw [hf]
  exact heq' ht

theorem foldl {step step' : α → ι → α} (h : ∀ i, Follows t (step · i) (step' · i)) (l : List ι) :
    Follows t (fun a => l.foldl step a) (fun a => l.foldl step' a) := by
  induction l with
  | nil => exact fun a => ⟨Truncation.le_refl _, fun _ => rfl⟩
  | cons i l ih => exact (h i).comp ih

end Follows

end Follows

/-- The second search has the limits of the first, but for some that are laxer and whose flags are
down. -/
structure Laxer (t : Truncation) (s s' : Search) : Prop where
  graph : s'.graph = s.graph
  depth : ∀ n, s'.tooDeep n = s.tooDeep n ∨ (s.tooDeep n = true ∧ t.depth = false)
  modules : ∀ m, s'.admits m = s.admits m ∨ (s.admits m = false ∧ t.modules = false)
  clock : ∀ k, s'.clock k = s.clock k ∨ (s.clock k = true ∧ t.timeout = false)

namespace Laxer

variable {t : Truncation} {s s' : Search} (h : Laxer t s s')
include h

theorem enter (module : String) :
    Follows t (Progress.enter s module) (Progress.enter s' module) := by
  intro p
  have hle : p.truncation ≤ (p.enter s module).1.truncation := by
    rcases p.enter_cases s module with ⟨_, he⟩ | ⟨_, he⟩
    · rw [he]
      exact ⟨id, fun _ => rfl, id⟩
    · rw [he]
      exact Truncation.le_refl _
  refine ⟨hle, fun ht => ?_⟩
  rw [Progress.enter, Progress.enter, s.refused_eq, s'.refused_eq]
  rcases h.modules module with hsame | ⟨hrefused, hdown⟩
  · rw [hsame]
  · by_cases hin : p.modules.contains module = true
    · rw [if_pos hin, if_pos hin]
    · -- the module is refused, so the flag is up
      have hup : t.modules = true := by
        refine ht.modules ?_
        show (p.enter s module).1.truncation.modules = true
        rw [Progress.enter, s.refused_eq, if_neg hin, hrefused]
        rfl
      rw [hdown] at hup
      cases hup

theorem look : Follows t (Progress.look s.clock) (Progress.look s'.clock) := by
  intro p
  refine ⟨⟨id, id, fun hflag => ?_⟩, fun ht => ?_⟩
  · show (p.truncation.timeout || s.clock p.looks) = true
    rw [show p.truncation.timeout = true from hflag, Bool.true_or]
  · rcases h.clock p.looks with hsame | ⟨hexpired, hdown⟩
    · rw [Progress.look, Progress.look, hsame]
    · have hup : t.timeout = true := by
        refine ht.timeout ?_
        show (p.truncation.timeout || s.clock p.looks) = true
        rw [hexpired, Bool.or_true]
      rw [hdown] at hup
      cases hup

theorem perform (ev : Event) :
    Follows t (fun acc => ev.perform s acc) (fun acc => ev.perform s' acc) := by
  intro acc
  cases ev with
  | explored => exact ⟨Truncation.le_refl _, fun _ => rfl⟩
  | sanitized count => exact ⟨Truncation.le_refl _, fun _ => rfl⟩
  | finding v =>
    have hflags : (acc.1.addFinding v).truncation = acc.1.truncation := by
      rw [Progress.addFinding_eq]
    refine ⟨?_, fun _ => rfl⟩
    show acc.1.truncation ≤ (acc.1.addFinding v).truncation
    rw [hflags]
    exact Truncation.le_refl _
  | move st =>
    dsimp only [Event.perform]
    by_cases hdeep : s.tooDeep st.trail.length = true
    · rw [if_pos hdeep]
      refine ⟨⟨fun _ => rfl, id, id⟩, fun ht => ?_⟩
      rcases h.depth st.trail.length with hsame | ⟨_, hdown⟩
      · rw [if_pos (hsame.trans hdeep)]
      · rw [ht.depth rfl] at hdown
        cases hdown
    · have hdeep' : ¬ s'.tooDeep st.trail.length = true := by
        rcases h.depth st.trail.length with hsame | ⟨hcut, _⟩
        · rw [hsame]
          exact hdeep
        · exact absurd hcut hdeep
      rw [if_neg hdeep, if_neg hdeep']
      obtain ⟨hle, heq⟩ := h.enter st.function.id.module acc.1
      cases he : acc.1.enter s st.function.id.module with
      | mk p entered =>
        rw [he] at hle heq
        cases entered with
        | false => exact ⟨hle, fun ht => by rw [heq ht]⟩
        | true => exact ⟨hle, fun ht => by rw [heq ht]⟩

theorem expand (seed : Seed) (st : PathState) :
    Follows t (fun p => st.expand s seed p) (fun p => st.expand s' seed p) := by
  have hstart : Follows t (fun p : Progress => (p, ([] : List PathState))) (fun p => (p, [])) :=
    fun p => ⟨Truncation.le_refl _, fun _ => rfl⟩
  have hfold := hstart.comp (Follows.foldl h.perform (st.events s.graph seed))
  intro p
  dsimp only
  rw [PathState.expand_eq, PathState.expand_eq, h.graph]
  exact hfold p

theorem step (seed : Seed) :
    Follows t (fun x => x.step s seed) (fun x : Exploration => x.step s' seed) := by
  intro x
  dsimp only [Exploration.step]
  cases x.frontier with
  | nil => exact ⟨Truncation.le_refl _, fun _ => rfl⟩
  | cons st rest =>
    obtain ⟨hle, heq⟩ := h.look x.progress
    dsimp only
    cases hl : x.progress.look s.clock with
    | mk p expired =>
      rw [hl] at hle heq
      cases expired with
      | true => exact ⟨hle, fun ht => by rw [heq ht]⟩
      | false =>
        dsimp only
        by_cases hmet : x.visited.contains st.key = true
        · rw [if_pos hmet]
          exact ⟨hle, fun ht => by rw [heq ht]; dsimp only; rw [if_pos hmet]⟩
        · obtain ⟨hle', heq'⟩ := h.expand seed st p
          rw [if_neg hmet]
          refine ⟨Truncation.le_trans hle hle', fun ht => ?_⟩
          have hsame : st.expand s' seed p = st.expand s seed p := heq' ht
          rw [heq (Truncation.le_trans hle' ht)]
          dsimp only
          rw [if_neg hmet, hsame]

theorem run (seed : Seed) (steps : Nat) :
    Follows t (fun x => x.run s seed steps) (fun x : Exploration => x.run s' seed steps) := by
  induction steps with
  | zero => exact fun x => ⟨Truncation.le_refl _, fun _ => rfl⟩
  | succ steps ih =>
    intro x
    dsimp only
    cases hx : x.frontier with
    | nil =>
      rw [Exploration.run_succ_nil steps hx, Exploration.run_succ_nil steps hx]
      exact ⟨Truncation.le_refl _, fun _ => rfl⟩
    | cons st rest =>
      rw [Exploration.run_succ_cons steps hx, Exploration.run_succ_cons steps hx]
      exact (h.step seed).comp ih x

theorem trySeed (seed : Seed) :
    Follows t (fun p => TaintFlow.trySeed s p seed) (fun p => TaintFlow.trySeed s' p seed) := by
  intro p
  obtain ⟨hle, heq⟩ := h.look p
  dsimp only [TaintFlow.trySeed]
  cases hl : p.look s.clock with
  | mk q expired =>
    rw [hl] at hle heq
    cases expired with
    | true => exact ⟨hle, fun ht => by rw [heq ht]⟩
    | false =>
      obtain ⟨hle', heq'⟩ := h.enter seed.function.id.module q
      dsimp only [runSeed]
      cases he : q.enter s seed.function.id.module with
      | mk r entered =>
        rw [he] at hle' heq'
        have hboth := Truncation.le_trans hle hle'
        cases entered with
        | false =>
          refine ⟨hboth, fun ht => ?_⟩
          rw [heq (Truncation.le_trans hle' ht)]
          dsimp only
          rw [heq' ht]
        | true =>
          obtain ⟨hle'', heq''⟩ := h.run seed s.graph.searchBound ⟨[.start seed], [], r⟩
          refine ⟨Truncation.le_trans hboth hle'', fun ht => ?_⟩
          have hentered := Truncation.le_trans hle'' ht
          rw [heq (Truncation.le_trans hle' hentered)]
          dsimp only
          rw [heq' hentered, h.graph]
          exact congrArg Exploration.progress (heq'' ht)

end Laxer

/-- **Lifting a limit whose flag is down changes nothing**: not a finding, not a counter, not a
flag. -/
theorem Search.run_eq_of_laxer {s s' : Search} (h : Laxer s.run.truncation s s') :
    s'.run = s.run := by
  have hfold := (Follows.foldl h.trySeed s.graph.seeds {}).2 (Truncation.le_refl _)
  have hgraph : s'.graph.seeds = s.graph.seeds := by rw [h.graph]
  show ((s'.graph.seeds).foldl (trySeed s') {}).outcome = _
  rw [hgraph]
  exact congrArg Progress.outcome hfold

/-! ## 3. Honest flags -/

/-- **The flags are honest.** If no flag is up, neither for depth nor for modules nor for time, the
outcome is the one without limits on depth and modules: the same findings, the same counts. This
holds on the same clock and on every clock that leaves more time, so on one that never runs out
too. -/
theorem unflagged_outcome_complete {modules : ModuleGraph} {facts : List FunctionFacts}
    {registry : Registry} {g : CallGraph} (hg : CallGraph.build modules facts registry = .ok g)
    (limits : Limits) (clock : Clock) :
    ∃ outcome, propagateWith g limits clock = .ok outcome ∧
      (outcome.truncation.depth = false → outcome.truncation.modules = false →
        outcome.truncation.timeout = false →
        ∀ later : Clock, (∀ looks, later looks = true → clock looks = true) →
          propagateWith g { limits with maxDepth := none, maxModules := none } later =
            .ok outcome) := by
  have hwell := CallGraph.build_wellFormed hg
  refine ⟨_, propagateWith_eq hwell limits clock, fun hdepth hmodules htimeout later hlater => ?_⟩
  have hlaxer : Laxer (Search.ofLimits g limits clock).run.truncation (Search.ofLimits g limits clock)
      (Search.ofLimits g { limits with maxDepth := none, maxModules := none } later) := by
    refine ⟨rfl, fun n => ?_, fun m => ?_, fun k => ?_⟩
    · cases hdeep : (Search.ofLimits g limits clock).tooDeep n with
      | false => exact Or.inl rfl
      | true => exact Or.inr ⟨rfl, hdepth⟩
    · cases hopen : (Search.ofLimits g limits clock).admits m with
      | false => exact Or.inr ⟨rfl, hmodules⟩
      | true => exact Or.inl rfl
    · show later k = clock k ∨ (clock k = true ∧ _)
      cases hexpired : clock k with
      | true => exact Or.inr ⟨rfl, htimeout⟩
      | false =>
        refine Or.inl (Bool.eq_false_iff.mpr fun h => ?_)
        rw [hlater k h] at hexpired
        cases hexpired
  rw [propagateWith_eq hwell, Search.run_eq_of_laxer hlaxer]

namespace SmallProject

theorem function_cases {id : FunctionId} {f : FunctionFacts} (h : graph.facts? id = some f) :
    f = main ∨ f = reader ∨ f = runner := by
  obtain ⟨n, hn, _, _, hf⟩ := CallGraph.facts?_eq_some h
  obtain ⟨f', hf', rfl⟩ := List.mem_map.mp hn
  cases hf
  simpa using hf'

/-- In the small project data goes from `main.read` to `main` and from there to `main.run`. -/
theorem flowStep_cases {f f' : FunctionFacts} {o o' : Origin} {e : CallEdge} {dir : Direction}
    {l : Label} (hf : graph.facts? f.id = some f) (h : FlowStep graph f o e dir l f' o') :
    (f = reader ∧ f' = main) ∨ (f = main ∧ f' = runner) := by
  have hedges : ∀ e ∈ graph.edges, e = readCall ∨ e = runCall := fun e he => by simpa [graph] using he
  cases h with
  | bound he hcaller hcallee hb ho =>
    rcases hedges e he with rfl | rfl
    · exact absurd hb List.not_mem_nil
    · rw [← hcaller] at hf
      cases hf
      cases hcallee
      exact Or.inr ⟨rfl, rfl⟩
  | spread he hcaller hcallee hd hl ho hfirst hp => rcases hedges e he with rfl | rfl <;> cases hd
  | returned he hcallee hcaller ho hparam =>
    rcases hedges e he with rfl | rfl
    · rw [← hcallee] at hf
      cases hf
      cases hcaller
      exact Or.inl ⟨rfl, rfl⟩
    · rw [← hcallee] at hf
      cases hf
      exact absurd ho List.not_mem_nil

/-- How long the trail to each function of the small project is. -/
def trailLength (f : FunctionFacts) : Nat :=
  if f.id = reader.id then 0 else if f.id = main.id then 1 else 2

theorem length_move {st st' : PathState} (hst : graph.facts? st.function.id = some st.function)
    (h : st' ∈ st.moves graph) (hlen : st.trail.length = trailLength st.function) :
    st'.trail.length = trailLength st'.function := by
  have hwell := CallGraph.build_wellFormed build_eq
  obtain ⟨o, m, hm⟩ := PathState.tainted_of_move hwell h
  obtain ⟨step, htrail, _, _, _, hflow⟩ := PathState.step_of_move hwell h
  obtain ⟨o₁, l, s, hstep, _⟩ := hflow o m hm
  rw [htrail, List.length_append, List.length_singleton, hlen]
  rcases flowStep_cases hst hstep with ⟨hf, hf'⟩ | ⟨hf, hf'⟩
  · rw [hf, hf']
    decide
  · rw [hf, hf']
    decide

theorem length_reached {s : Search} (hs : s.graph = graph) {seed : Seed} (hseed : seed ∈ graph.seeds)
    {st : PathState} (h : Reached s seed st) : st.trail.length = trailLength st.function := by
  have hwell := CallGraph.build_wellFormed build_eq
  obtain ⟨hknown, hhit⟩ := hwell.of_mem_seeds hseed
  induction h with
  | start =>
    rcases function_cases hknown with hf | hf | hf
    · rw [hf] at hhit
      exact absurd hhit List.not_mem_nil
    · show 0 = trailLength seed.function
      rw [hf]
      decide
    · rw [hf] at hhit
      exact absurd hhit List.not_mem_nil
  | move h hm ih =>
    have hst := (h.walk (hs ▸ hwell) (hs ▸ hknown)).1
    exact length_move (hs ▸ hst) (hs ▸ PathState.mem_moves_of_mem_next hm) ih

end SmallProject

/-- The limits are just wide enough for the small project. -/
theorem SmallProject.unflagged :
    (Search.ofLimits graph ⟨.community, some 2, some 1, default⟩ fun _ => false).run.truncation =
      {} := by
  have hwell := CallGraph.build_wellFormed build_eq
  have hroom : graph.functionModules.size ≤ 1 := by decide
  have hshort : ∀ f, trailLength f ≤ 2 := by
    intro f
    unfold trailLength
    split
    · omega
    · split <;> omega
  refine Truncation.eq_empty_of_le (Search.run_truncation_le ?_ ?_ ?_ ?_)
  · intro _ seed hseed st hst st' hm
    have hknown := (hst.walk hwell (hwell.of_mem_seeds hseed).1).1
    have hlen := length_move hknown hm (length_reached rfl hseed hst)
    have hle := hshort st'.function
    exact decide_eq_false (by omega)
  · intro _ seed hseed
    exact Search.admits_seed_of_room hwell rfl hroom _ hseed
  · intro _ seed hseed st hst st' hm
    exact Search.admits_move_of_room hwell rfl hroom _ hseed hst hm
  · exact fun _ _ => rfl

theorem small_unflagged_outcome :
    ∃ outcome,
      propagateWith SmallProject.graph ⟨.community, some 2, some 1, default⟩ (fun _ => false) =
        .ok outcome ∧
      outcome.truncation = {} ∧ outcome.findings ≠ [] ∧
      propagateWith SmallProject.graph ⟨.community, none, none, default⟩ (fun _ => false) =
        .ok outcome := by
  have hwell := CallGraph.build_wellFormed SmallProject.build_eq
  obtain ⟨outcome, hok, hcomplete⟩ := unflagged_outcome_complete SmallProject.build_eq
    ⟨.community, some 2, some 1, default⟩ fun _ => false
  have hflags : outcome.truncation = {} := by
    rw [propagateWith_eq hwell] at hok
    cases hok
    exact SmallProject.unflagged
  have hunlimited := hcomplete (by rw [hflags]) (by rw [hflags]) (by rw [hflags]) (fun _ => false)
    fun _ h => h
  refine ⟨outcome, hok, hflags, ?_, hunlimited⟩
  rw [propagateWith_eq hwell] at hunlimited
  cases hunlimited
  obtain ⟨v, hv⟩ := SmallProject.exists_finding
  exact List.ne_nil_of_mem hv

end TaintFlow
