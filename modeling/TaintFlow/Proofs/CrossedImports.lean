import Mathlib.Data.List.Induction
import TaintFlow.Diagram
import TaintFlow.Proofs.CheckedPath
import TaintFlow.Proofs.Exposure
import TaintFlow.Proofs.ImportTargets
import TaintFlow.Proofs.PathShape

/-!
# Which imports a diagram highlights

A diagram of modules lists the modules of each path where they are first visited. It highlights the
imports whose two ends stand next to each other in such a list. So it sees the order in which modules
are entered for the first time (`Finding.EntersNext`) and not the calls that the path takes
(`Finding.Crosses`).

The two agree on straight paths, where each step stays in its module or is a call into a new one:
there the path always is in the newest of its modules (`Finding.StraightTo.newest?_eq`). On no other
path do they agree. A path begins with its returns, and the first one that leaves the module goes back
over an import of the module where the path started, which is never entered. A later call back into a
module crosses an import whose target is not new any more (`Finding.straight_of_crosses`).
-/

namespace TaintFlow

/-! ## 1. First visits -/

section FirstVisits

variable {l l' r : List String} {a b x : String}

theorem eraseDups_concat (l : List String) (x : String) :
    (l ++ [x]).eraseDups = if x ∈ l then l.eraseDups else l.eraseDups ++ [x] := by
  rw [List.eraseDups_append]
  by_cases hx : x ∈ l <;> simp [List.removeAll, hx, List.eraseDups_cons]

theorem eraseDups_concat_congr (h : l.eraseDups = l'.eraseDups) (x : String) :
    (l ++ [x]).eraseDups = (l' ++ [x]).eraseDups := by
  have hmem : x ∈ l ↔ x ∈ l' := by rw [← List.mem_eraseDups, h, List.mem_eraseDups]
  simp only [eraseDups_concat, h, hmem]

/-- What was there before adds nothing. -/
theorem eraseDups_append_of_subset (h : ∀ y ∈ r, y ∈ l) : (l ++ r).eraseDups = l.eraseDups := by
  have hnone : r.removeAll l = [] := List.filter_eq_nil_iff.mpr (by simpa using h)
  rw [List.eraseDups_append, hnone, List.eraseDups_nil, List.append_nil]

/-- What comes first after something new is not the newest any more. -/
theorem not_newest_of_new (ha : a ∈ l) (hx : x ∉ l) (r : List String) :
    (l ++ x :: r).eraseDups.getLast? ≠ some a := by
  intro hlast
  have hnew : x ∈ ((x :: r).removeAll l).eraseDups := by
    rw [List.mem_eraseDups, List.removeAll, List.mem_filter]
    simp [hx]
  rw [List.eraseDups_append, List.getLast?_append_of_ne_nil _ (List.ne_nil_of_mem hnew)] at hlast
  have hmem := List.mem_of_getLast? hlast
  rw [List.mem_eraseDups, List.removeAll, List.mem_filter] at hmem
  simp [ha] at hmem

/-- A list cut at a value, with one more value at the end. -/
theorem exists_cut_concat {p : List String → Prop} :
    (∃ before after, l ++ [x] = before ++ b :: after ∧ p before) ↔
      (∃ before after, l = before ++ b :: after ∧ p before) ∨ b = x ∧ p l := by
  constructor
  · rintro ⟨before, after, hcut, hp⟩
    rcases List.eq_nil_or_concat after with rfl | ⟨rest, y, rfl⟩
    · obtain ⟨rfl, hlast⟩ := List.append_inj' hcut rfl
      exact Or.inr ⟨(List.singleton_inj.mp hlast).symm, hp⟩
    · have hcut : l ++ [x] = (before ++ b :: rest) ++ [y] := by simpa using hcut
      exact Or.inl ⟨before, rest, (List.append_inj' hcut rfl).1, hp⟩
  · rintro (⟨before, after, rfl, hp⟩ | ⟨rfl, hp⟩)
    · exact ⟨before, after ++ [x], by simp, hp⟩
    · exact ⟨l, [], rfl, hp⟩

theorem mem_neighbours_concat :
    (a, b) ∈ Diagram.neighbours (l ++ [x]) ↔
      (a, b) ∈ Diagram.neighbours l ∨ b = x ∧ l.getLast? = some a := by
  induction l with
  | nil => simp [Diagram.neighbours]
  | cons y l ih =>
    cases l with
    | nil => simp [Diagram.neighbours, and_comm, eq_comm]
    | cons z l =>
      rw [List.getLast?_cons_cons]
      simp only [List.cons_append, Diagram.neighbours, List.mem_cons] at ih ⊢
      rw [ih, or_assoc]

/-- **Without repeats, a value stands right after another if it comes new while that one is the
newest.** -/
theorem mem_neighbours_eraseDups : (a, b) ∈ Diagram.neighbours l.eraseDups ↔
    ∃ before after, l = before ++ b :: after ∧ b ∉ before ∧
      before.eraseDups.getLast? = some a := by
  induction l using List.reverseRecOn with
  | nil => simp [Diagram.neighbours]
  | append_singleton l x ih =>
    rw [eraseDups_concat, exists_cut_concat (p := fun before => b ∉ before ∧
      before.eraseDups.getLast? = some a), ← ih]
    by_cases hx : x ∈ l
    · rw [if_pos hx, or_iff_left]
      rintro ⟨rfl, hnew, _⟩
      exact hnew hx
    · rw [if_neg hx, mem_neighbours_concat]
      refine or_congr_right (and_congr_right ?_)
      rintro rfl
      exact (and_iff_right hx).symm

end FirstVisits

/-! ## 2. The modules of a path -/

namespace Finding

variable {v : Finding} {before : List Hop} {hop : Hop} {A B : String}

theorem modulesOnPath_eq (v : Finding) :
    v.modulesOnPath = (v.hops.map (·.function.module)).eraseDups := by
  rw [modulesOnPath]
  induction v.hops using List.reverseRecOn with
  | nil => rfl
  | append_singleton hops hop ih =>
    rw [List.foldl_append, ih, List.map_append, List.map_singleton, eraseDups_concat]
    simp

/-- The function where a path is after some of its steps. -/
def functionAfter (v : Finding) (before : List Hop) : FunctionId :=
  (before.map (·.function)).getLastD v.source.function

/-- The modules where a path has been after some of its steps, in order. -/
def visited (v : Finding) (before : List Hop) : List String :=
  v.source.function.module :: before.map (·.function.module)

/-- The module that was the last to be entered for the first time. -/
def newest? (v : Finding) (before : List Hop) : Option String :=
  (v.visited before).eraseDups.getLast?

/-- Whether a path takes a step after some others. -/
def Takes (v : Finding) (before : List Hop) (hop : Hop) : Prop :=
  ∃ after, v.steps = before ++ hop :: after

/-- The caller and the callee of a step's call. A return is taken from the callee to the caller. -/
def callAt (v : Finding) (before : List Hop) (hop : Hop) : FunctionId × FunctionId :=
  if hop.kind = .ret then (hop.function, v.functionAfter before)
  else (v.functionAfter before, hop.function)

/-- Whether the call of some step has its caller in one module and its callee in another. -/
def Crosses (v : Finding) (A B : String) : Prop :=
  ∃ before hop, v.Takes before hop ∧ (v.callAt before hop).1.module = A ∧
    (v.callAt before hop).2.module = B

/-- Whether a path enters a module for the first time while another is the newest. -/
def EntersNext (v : Finding) (A B : String) : Prop :=
  ∃ before hop, v.Takes before hop ∧ hop.function.module = B ∧ B ∉ v.visited before ∧
    v.newest? before = some A

theorem visited_append (v : Finding) (before after : List Hop) :
    v.visited (before ++ after) = v.visited before ++ after.map (·.function.module) := by
  rw [visited, visited, List.map_append, List.cons_append]

theorem functionAfter_concat (v : Finding) (before : List Hop) (hop : Hop) :
    v.functionAfter (before ++ [hop]) = hop.function := by
  simp [functionAfter]

theorem functionAfter_mem_visited (v : Finding) (before : List Hop) :
    (v.functionAfter before).module ∈ v.visited before := by
  induction before using List.reverseRecOn with
  | nil => exact List.mem_cons_self
  | append_singleton before hop _ =>
    rw [functionAfter_concat, visited_append]
    exact List.mem_append_right _ List.mem_cons_self

theorem not_entersNext_self : ¬ v.EntersNext A A := by
  rintro ⟨_, _, _, _, hnew, hnewest⟩
  exact hnew (List.mem_eraseDups.mp (List.mem_of_getLast? hnewest))

/-- **Modules next to each other among the visited ones are entered next.** -/
theorem mem_neighbours_visited :
    (A, B) ∈ Diagram.neighbours (v.visited v.steps).eraseDups ↔ v.EntersNext A B := by
  rw [mem_neighbours_eraseDups]
  constructor
  · rintro ⟨before, after, hcut, hnew, hnewest⟩
    cases before with
    | nil => cases hnewest
    | cons start before =>
      obtain ⟨rfl, hmap⟩ := List.cons_eq_cons.mp hcut
      obtain ⟨pre, rest, hsteps, rfl, hrest⟩ := List.map_eq_append_iff.mp hmap
      obtain ⟨hop, post, rfl, rfl, _⟩ := List.map_eq_cons_iff.mp hrest
      exact ⟨pre, hop, ⟨post, hsteps⟩, rfl, hnew, hnewest⟩
  · rintro ⟨before, hop, ⟨after, hsteps⟩, rfl, hnew, hnewest⟩
    refine ⟨v.visited before, after.map (·.function.module), ?_, hnew, hnewest⟩
    rw [hsteps, visited_append, List.map_cons]

end Finding

/-! ## 3. What a search finds -/

/-- The modules of the hops of a trail. -/
def hopModules (inForce : Sanitizers) (trail : List Step) : List String :=
  (trail.flatMap (Step.hops inForce)).map (·.function.module)

/-- Sanitizers are noted where the step starts, so they bring no module of their own. -/
theorem hopModules_concat (inForce : Sanitizers) (trail : List Step) (step : Step) :
    ∃ noted, (∀ m ∈ noted, m = step.origin.module) ∧
      hopModules inForce (trail ++ [step]) =
        hopModules inForce trail ++ noted ++ [step.target.module] := by
  refine ⟨(step.applied.filter inForce.contains).toList.map fun _ => step.origin.module,
    fun m hm => ?_, ?_⟩
  · obtain ⟨_, _, rfl⟩ := List.mem_map.mp hm
    rfl
  · simp [hopModules, Step.hops, Function.comp_def]

/-- **The modules of a trail, at their first visits, are those that its steps enter.** The state is in
one of them. -/
theorem Reached.hopModules_eq {s : Search} {seed : Seed} {st : PathState}
    (hg : s.graph.WellFormed) (h : Reached s seed st) (inForce : Sanitizers) :
    (seed.function.id.module :: hopModules inForce st.trail).eraseDups =
        (seed.function.id.module :: st.trail.map (·.target.module)).eraseDups ∧
      st.function.id.module ∈ seed.function.id.module :: hopModules inForce st.trail := by
  induction h with
  | start => exact ⟨rfl, List.mem_cons_self⟩
  | move _ hm ih =>
    obtain ⟨step, htrail, _, horigin, htarget, _⟩ :=
      PathState.step_of_move hg (PathState.mem_moves_of_mem_next hm)
    obtain ⟨noted, hnoted, hmodules⟩ := hopModules_concat inForce _ step
    obtain ⟨hsame, hhere⟩ := ih
    rw [htrail, hmodules, hg.facts?_id htarget]
    refine ⟨?_, by simp⟩
    rw [List.map_append, List.map_singleton, ← List.cons_append, ← List.cons_append,
      ← List.cons_append]
    refine eraseDups_concat_congr ?_ _
    rw [eraseDups_append_of_subset fun m hm => ?_, hsame]
    rw [hnoted m hm, horigin]
    exact hhere

/-- **The modules on the path of a finding are those that its steps enter.** -/
theorem Reached.modulesOnPath_eq {s : Search} {seed : Seed} {st : PathState} {v : Finding}
    (hg : s.graph.WellFormed) (h : Reached s seed st) (hv : v ∈ st.sinkFindings s.graph seed) :
    v.modulesOnPath = (v.visited v.steps).eraseDups := by
  obtain ⟨_, hit, _, applied, _, _, rfl⟩ := PathState.mem_sinkFindings.mp hv
  obtain ⟨hsame, hhere⟩ := h.hopModules_eq hg applied
  have hsteps : (seed.function.id.module :: st.trail.map (·.target.module)) =
      (pathFinding s.graph seed st.trail st.function.id hit applied).visited
        (st.trail.map Step.hop) := by
    simp [Finding.visited, pathFinding, Step.hop, Function.comp_def]
  rw [steps_pathFinding, ← hsteps, ← hsame, Finding.modulesOnPath_eq]
  show ((pathHops seed st.trail st.function.id hit applied).map _).eraseDups = _
  rw [pathHops, List.append_assoc, List.map_append, List.map_cons]
  -- what follows the steps lies in the function where they end
  refine eraseDups_append_of_subset fun m hm => ?_
  have hend : m = st.function.id.module := by
    simp only [List.map_append, List.mem_append, List.map_map, List.mem_map] at hm
    rcases hm with ⟨_, _, rfl⟩ | ⟨_, hstop, rfl⟩
    · rfl
    · rw [List.mem_singleton.mp hstop]
  rw [hend]
  exact hhere

theorem eq_of_walkSteps {g : CallGraph} {start current : FunctionId} {hops : List Hop}
    (h : walkSteps g start hops = .ok current) :
    current = (hops.map (·.function)).getLastD start := by
  induction hops generalizing start with
  | nil =>
    cases h
    rfl
  | cons hop hops ih =>
    rw [List.map_cons, List.getLastD_cons]
    exact ih (walkSteps_cons_eq_ok_iff.mp h).2

/-- The call of a step is one of the graph, at the place that the step records. -/
theorem Finding.IsPath.hasCallAt {g : CallGraph} {v : Finding} {before : List Hop} {hop : Hop}
    (h : v.IsPath g) (ht : v.Takes before hop) :
    g.hasCallAt (v.callAt before hop).1 (v.callAt before hop).2 hop.location = true := by
  have hwalk := (walkSteps_eq_ok_iff fun _ => isStep_of_mem_steps).mpr h.walk
  obtain ⟨after, hsteps⟩ := ht
  rw [hsteps, walkSteps_append] at hwalk
  cases hbefore : walkSteps g v.source.function before with
  | error fault =>
    rw [hbefore] at hwalk
    cases hwalk
  | ok current =>
    rw [hbefore] at hwalk
    have hcall := (walkSteps_cons_eq_ok_iff.mp hwalk).1
    have hcurrent : current = v.functionAfter before := eq_of_walkSteps hbefore
    rw [hcurrent] at hcall
    rw [callAt]
    split at hcall
    · rename_i hret
      rw [if_pos hret]
      exact hcall
    · rename_i hret
      rw [if_neg hret]
      exact hcall

theorem Finding.IsPath.exists_edge {g : CallGraph} {v : Finding} {before : List Hop} {hop : Hop}
    (h : v.IsPath g) (ht : v.Takes before hop) :
    ∃ e ∈ g.edges, v.callAt before hop = (e.caller, e.callee) := by
  obtain ⟨e, he, hcaller, hcallee, _⟩ := CallGraph.hasCallAt_iff.mp (h.hasCallAt ht)
  exact ⟨e, he, by rw [hcaller, hcallee]⟩

/-! ## 4. Straight paths -/

namespace Finding

variable {v : Finding} {before after : List Hop} {hop : Hop} {A B : String}

/-- Whether each step so far stays in its module or is a call into one where the path has not been. -/
inductive StraightTo (v : Finding) : List Hop → Prop where
  | start : StraightTo v []
  | stay {before : List Hop} {hop : Hop} (h : StraightTo v before)
      (hsame : hop.function.module = (v.functionAfter before).module) :
      StraightTo v (before ++ [hop])
  | enter {before : List Hop} {hop : Hop} (h : StraightTo v before) (hcall : hop.kind = .call)
      (hnew : hop.function.module ∉ v.visited before) : StraightTo v (before ++ [hop])

/-- Whether the whole path is straight. -/
def Straight (v : Finding) : Prop := v.StraightTo v.steps

theorem straightTo_concat_iff : v.StraightTo (before ++ [hop]) ↔ v.StraightTo before ∧
    (hop.function.module = (v.functionAfter before).module ∨
      hop.kind = .call ∧ hop.function.module ∉ v.visited before) := by
  constructor
  · generalize hl : before ++ [hop] = l
    intro h
    cases h with
    | start => exact absurd hl (by simp)
    | stay h hsame =>
      obtain ⟨rfl, hhop⟩ := List.append_inj' hl rfl
      cases hhop
      exact ⟨h, Or.inl hsame⟩
    | enter h hcall hnew =>
      obtain ⟨rfl, hhop⟩ := List.append_inj' hl rfl
      cases hhop
      exact ⟨h, Or.inr ⟨hcall, hnew⟩⟩
  · rintro ⟨h, hsame | ⟨hcall, hnew⟩⟩
    · exact .stay h hsame
    · exact .enter h hcall hnew

/-- A path that is straight was straight before. -/
theorem StraightTo.of_append (h : v.StraightTo (before ++ after)) : v.StraightTo before := by
  induction after using List.reverseRecOn with
  | nil => rwa [List.append_nil] at h
  | append_singleton after hop ih =>
    rw [← List.append_assoc] at h
    exact ih (straightTo_concat_iff.mp h).1

/-- What is known of a step of a straight path. -/
theorem Straight.at (h : v.Straight) (ht : v.Takes before hop) : v.StraightTo before ∧
    (hop.function.module = (v.functionAfter before).module ∨
      hop.kind = .call ∧ hop.function.module ∉ v.visited before) := by
  obtain ⟨after, hsteps⟩ := ht
  rw [Straight, hsteps, List.append_cons] at h
  exact straightTo_concat_iff.mp h.of_append

/-- **A straight path is in the newest of its modules.** -/
theorem StraightTo.newest?_eq (h : v.StraightTo before) :
    v.newest? before = some (v.functionAfter before).module := by
  induction h with
  | start => rfl
  | @stay before _ _ hsame ih =>
    have hold := functionAfter_mem_visited v before
    rw [newest?, visited_append, functionAfter_concat, List.map_singleton, hsame, eraseDups_concat,
      if_pos hold]
    exact ih
  | enter _ _ hnew _ =>
    rw [newest?, visited_append, functionAfter_concat, List.map_singleton, eraseDups_concat,
      if_neg hnew, List.getLast?_concat]

/-- A straight path does not leave its module by returns. -/
theorem StraightTo.module_of_returns (h : v.StraightTo before)
    (hret : ∀ x ∈ before, x.kind = .ret) :
    (v.functionAfter before).module = v.source.function.module := by
  induction h with
  | start => rfl
  | stay _ hsame ih =>
    rw [functionAfter_concat, hsame]
    exact ih fun x hx => hret x (List.mem_append_left _ hx)
  | enter _ hcall _ _ =>
    rw [hret _ (List.mem_append_right _ List.mem_cons_self)] at hcall
    cases hcall

/-- On a straight path, between different modules, entering next and crossing is one thing. -/
theorem Straight.entersNext_iff (h : v.Straight) (hne : A ≠ B) :
    v.EntersNext A B ↔ v.Crosses A B := by
  refine exists_congr fun before => exists_congr fun hop => and_congr_right fun ht => ?_
  obtain ⟨hbefore, hstep⟩ := h.at ht
  have hhere := functionAfter_mem_visited v before
  rw [hbefore.newest?_eq, Option.some_inj, callAt]
  constructor
  · rintro ⟨rfl, hnew, rfl⟩
    rcases hstep with hsame | ⟨hcall, _⟩
    · exact absurd hsame hne.symm
    · rw [hcall]
      exact ⟨rfl, rfl⟩
  · rintro ⟨hA, hB⟩
    rcases hstep with hsame | ⟨hcall, hnew⟩
    · refine absurd ?_ hne
      rw [← hA, ← hB]
      split
      · exact hsame
      · exact hsame.symm
    · rw [hcall] at hA hB
      exact ⟨hB, hB ▸ hnew, hA⟩

/-- A module that was not new any more was entered by an earlier step. -/
theorem Takes.exists_of_visited {earlier : List Hop} {first : Hop} (ht : v.Takes before hop)
    (hfirst : v.Takes earlier first) (hnew : first.function.module ∉ v.visited earlier)
    (hold : first.function.module ∈ v.visited before) :
    ∃ between, before = earlier ++ first :: between := by
  obtain ⟨after, hsteps⟩ := ht
  obtain ⟨after', hsteps'⟩ := hfirst
  rcases List.append_eq_append_iff.mp (hsteps.symm.trans hsteps') with
    ⟨more, rfl, _⟩ | ⟨more, rfl, hmore⟩
  · rw [visited_append] at hnew
    exact absurd (List.mem_append_left _ hold) hnew
  · cases more with
    | nil =>
      rw [List.append_nil] at hold
      exact absurd hold hnew
    | cons next between =>
      cases hmore
      exact ⟨between, rfl⟩

theorem kind_of_mem_steps (h : hop ∈ v.steps) : hop.kind = .call ∨ hop.kind = .ret := by
  have hstep := isStep_of_mem_steps h
  cases hkind : hop.kind <;> simp_all [HopKind.isStep]

theorem Takes.mem_steps (ht : v.Takes before hop) : hop ∈ v.steps := by
  obtain ⟨after, hsteps⟩ := ht
  rw [hsteps]
  exact List.mem_append_right _ List.mem_cons_self

/-- Before a return there are only returns. -/
theorem Takes.returns_before (hfirst : ReturnsFirst v.steps) (ht : v.Takes before hop)
    (hret : hop.kind = .ret) : ∀ x ∈ before, x.kind = .ret := by
  obtain ⟨after, hsteps⟩ := ht
  intro x hx
  have hmem : x ∈ v.steps := by
    rw [hsteps]
    exact List.mem_append_left _ hx
  rw [hsteps] at hfirst
  have hcall := (List.pairwise_append.mp hfirst).2.2 x hx hop List.mem_cons_self
  exact (kind_of_mem_steps hmem).resolve_left fun hx => hcall hx hret

/-- After a straight beginning no return into another module is seen as entering: the path is still in
the module where it started, which is never entered. -/
theorem Takes.not_entersNext_of_ret (hfirst : ReturnsFirst v.steps) (ht : v.Takes before hop)
    (hbefore : v.StraightTo before) (hret : hop.kind = .ret) :
    ¬ v.EntersNext hop.function.module (v.functionAfter before).module := by
  rintro ⟨_, _, _, _, hnew, _⟩
  rw [hbefore.module_of_returns (ht.returns_before hfirst hret)] at hnew
  exact hnew List.mem_cons_self

/-- After a straight beginning no call back into a module is seen as entering it: when it was entered,
the module of the caller stopped being the newest. -/
theorem Takes.not_entersNext_of_visited (ht : v.Takes before hop) (hbefore : v.StraightTo before)
    (hold : hop.function.module ∈ v.visited before) :
    ¬ v.EntersNext (v.functionAfter before).module hop.function.module := by
  rintro ⟨earlier, first, hearlier, hB, hnew, hnewest⟩
  rw [← hB] at hold hnew
  have hlast := hbefore.newest?_eq
  have hmem := List.mem_eraseDups.mp (List.mem_of_getLast? hnewest)
  obtain ⟨between, rfl⟩ := ht.exists_of_visited hearlier hnew hold
  rw [newest?, visited_append, List.map_cons] at hlast
  exact not_newest_of_new hmem hnew _ hlast

/-- **If every call between two modules is seen as entering the second next, the path is
straight.** -/
theorem straight_of_crosses (hfirst : ReturnsFirst v.steps)
    (h : ∀ A B, A ≠ B → v.Crosses A B → v.EntersNext A B) : v.Straight := by
  have hall : ∀ before after, v.steps = before ++ after → v.StraightTo before := by
    intro before
    induction before using List.reverseRecOn with
    | nil => exact fun _ _ => .start
    | append_singleton before hop ih =>
      intro after hsteps
      rw [List.append_assoc, List.singleton_append] at hsteps
      have hbefore := ih _ hsteps
      have ht : v.Takes before hop := ⟨after, hsteps⟩
      by_cases hsame : hop.function.module = (v.functionAfter before).module
      · exact .stay hbefore hsame
      rcases kind_of_mem_steps ht.mem_steps with hcall | hret
      · refine .enter hbefore hcall fun hold => ht.not_entersNext_of_visited hbefore hold ?_
        refine h _ _ (Ne.symm hsame) ⟨before, hop, ht, ?_⟩
        rw [callAt, hcall]
        exact ⟨rfl, rfl⟩
      · refine absurd (h _ _ hsame ⟨before, hop, ht, ?_⟩)
          (ht.not_entersNext_of_ret hfirst hbefore hret)
        rw [callAt, hret]
        exact ⟨rfl, rfl⟩
  exact hall v.steps [] (List.append_nil _).symm

end Finding

/-! ## 5. The diagram -/

/-- What a search tells of its findings. -/
theorem Search.facts_of_mem_findings {g : CallGraph} (hg : g.WellFormed) {limits : Limits}
    {clock : Clock} {v : Finding} (hv : v ∈ (Search.ofLimits g limits clock).run.findings) :
    v.IsPath g ∧ v.modulesOnPath = (v.visited v.steps).eraseDups ∧ ReturnsFirst v.steps := by
  obtain ⟨seed, hseed, st, hst, hv⟩ := Search.reached_of_mem_findings hv
  have hcheck := hst.check_eq_ok hg (hg.of_mem_seeds hseed).1 hv
  obtain ⟨ups, downs, hsteps, hups, hdowns⟩ := hst.steps_eq hg hv
  refine ⟨Finding.validate_eq_ok_iff.mp (Finding.validate_eq_ok_of_check hcheck),
    hst.modulesOnPath_eq hg hv, ?_⟩
  rw [hsteps]
  exact returnsFirst_append hups hdowns

theorem Search.steps_ne_nil {s : Search} {v : Finding} (hv : v ∈ s.run.findings) :
    v.steps ≠ [] := by
  obtain ⟨_, _, _, _, hv⟩ := Search.reached_of_mem_findings hv
  obtain ⟨hne, _, _, _, _, _, rfl⟩ := PathState.mem_sinkFindings.mp hv
  rw [steps_pathFinding]
  exact fun hnil => hne (List.map_eq_nil_iff.mp hnil)

/-- Where only one function has sources, every finding starts in it. -/
theorem Search.source_eq {s : Search} (hg : s.graph.WellFormed) {id : FunctionId}
    (honly : ∀ n ∈ s.graph.nodes, n.facts.any (·.touchesSource) = true → n.id = id) {v : Finding}
    (hv : v ∈ s.run.findings) : v.source.function = id := by
  obtain ⟨seed, hseed, _, _, hv⟩ := Search.reached_of_mem_findings hv
  obtain ⟨_, _, _, _, _, _, rfl⟩ := PathState.mem_sinkFindings.mp hv
  obtain ⟨f, hf, hmem⟩ := List.mem_flatMap.mp hseed
  obtain ⟨hknown, htouches⟩ := hg.mem_sourceFunctions.mp hf
  rw [f.seeds_eq] at hmem
  obtain ⟨_, _, rfl⟩ := List.mem_map.mp hmem
  obtain ⟨n, hn, _, hid, hfacts⟩ := CallGraph.facts?_eq_some hknown
  exact hid.symm.trans (honly n hn (by rw [hfacts]; exact htouches))

/-- An edge is highlighted if the path of some finding goes on from its source to its target. -/
theorem Diagram.onPath_iff {modules : ModuleGraph} {findings : List Finding}
    (hfindings : ∀ v ∈ findings, v.modulesOnPath = (v.visited v.steps).eraseDups)
    {edge : DiagramEdge} (hedge : edge ∈ (ofModules modules findings).edges) :
    edge.onPath = true ↔ ∃ v ∈ findings, v.EntersNext edge.source edge.target := by
  obtain ⟨e, _, rfl⟩ := List.mem_map.mp hedge
  rw [List.contains_iff_mem, List.mem_flatMap]
  refine exists_congr fun v => and_congr_right fun hv => ?_
  rw [hfindings v hv]
  exact Finding.mem_neighbours_visited

/-- **An import is highlighted if and only if some path enters its target, for the first time, when
its source was the last module to be entered so.** This holds for any project, limits and clock. A
module is not entered next after itself, so an import of a module by itself is never highlighted.

Each step of a path is over a call of the graph at the place that it records. Between different
modules, what a path enters next is what its calls cross if and only if the path is straight. Hence
where all paths are straight, the highlighted imports of other modules are the crossed ones. -/
theorem highlighted_imports {modules : ModuleGraph} {facts : List FunctionFacts}
    {registry : Registry} {g : CallGraph} (hg : CallGraph.build modules facts registry = .ok g)
    (limits : Limits) (clock : Clock) :
    ∃ outcome, propagateWith g limits clock = .ok outcome ∧
      (∀ edge ∈ (Diagram.ofModules modules outcome.findings).edges,
        edge.onPath = true ↔ ∃ v ∈ outcome.findings, v.EntersNext edge.source edge.target) ∧
      (∀ v ∈ outcome.findings,
        (∀ before hop, v.Takes before hop → g.hasCallAt (v.callAt before hop).1
          (v.callAt before hop).2 hop.location = true) ∧
        (∀ A, ¬ v.EntersNext A A) ∧
        (v.Straight ↔ ∀ A B, A ≠ B → (v.EntersNext A B ↔ v.Crosses A B))) ∧
      ((∀ v ∈ outcome.findings, v.Straight) →
        ∀ edge ∈ (Diagram.ofModules modules outcome.findings).edges, edge.source ≠ edge.target →
          (edge.onPath = true ↔ ∃ v ∈ outcome.findings, v.Crosses edge.source edge.target)) := by
  have hwell := CallGraph.build_wellFormed hg
  refine ⟨_, propagateWith_eq hwell limits clock, ?_⟩
  have hmodules : ∀ v ∈ (Search.ofLimits g limits clock).run.findings,
      v.modulesOnPath = (v.visited v.steps).eraseDups :=
    fun v hv => (Search.facts_of_mem_findings hwell hv).2.1
  refine ⟨fun edge => Diagram.onPath_iff hmodules, fun v hv => ?_,
    fun hstraight edge hedge hne => ?_⟩
  · obtain ⟨hpath, _, hfirst⟩ := Search.facts_of_mem_findings hwell hv
    refine ⟨fun before hop ht => hpath.hasCallAt ht, fun A => Finding.not_entersNext_self, ?_⟩
    exact ⟨fun h A B hne => h.entersNext_iff hne,
      fun h => Finding.straight_of_crosses hfirst fun A B hne => (h A B hne).mpr⟩
  · rw [Diagram.onPath_iff hmodules hedge]
    exact exists_congr fun v => and_congr_right fun hv => (hstraight v hv).entersNext_iff hne

/-! ## 6. Calls and returns over an import

`main` imports `read` from `helper` and `run` from `shell`, which has a sink. -/

namespace ShellProject

def helperUnit : SourceUnit where
  module := "helper"
  file := ⟨"helper.py"⟩
  isPackage := false
  content := .ok ⟨"def read():\n    return input()\n",
    [.functionDef 0 [] "read" [] {} none [.plain]]⟩

def shellUnit : SourceUnit where
  module := "shell"
  file := ⟨"shell.py"⟩
  isPackage := false
  content := .ok ⟨"def run(text):\n    eval(text)\n", [.functionDef 0 [] "run" [] {} none [.plain]]⟩

def mainUnit : SourceUnit where
  module := "main"
  file := ⟨"main.py"⟩
  isPackage := false
  content := .ok ⟨"from helper import read\nfrom shell import run\ndef main():\n    run(read())\n",
    [.importFrom 0 (some "helper") 0 [⟨"read", none⟩],
      .importFrom 24 (some "shell") 0 [⟨"run", none⟩], .functionDef 46 [] "main" [] {} none [.plain]]⟩

def units : List SourceUnit := [helperUnit, mainUnit, shellUnit]

/-- The imports of `main`. -/
theorem import_mem {e : ImportEdge} (he : e ∈ (ModuleGraph.build units).edgesFrom
    (ModuleGraph.nodeOf units mainUnit)) : e ∈ (ModuleGraph.build units).importEdges := by
  have hget : (ModuleGraph.build units).get? "main" = some (ModuleGraph.nodeOf units mainUnit) :=
    ModuleGraph.get?_build _ _
  exact ModuleGraph.mem_importEdges.mpr ⟨_, SortedMap.mem_values_iff.mpr ⟨"main", hget⟩, he⟩

def sinkHit : SinkHit := { SmallProject.sinkHit with location := ⟨⟨"shell.py"⟩, 2, 5⟩ }

def runner : FunctionFacts where
  id := ⟨"shell", "run"⟩
  line := 1
  params := ["text"]
  positionalParams := 1
  sinkHits := [sinkHit]

/-- A call in `main`. -/
def site (callee : String) (column : Nat) (args : List Argument) : CallSite where
  callee
  location := ⟨⟨"main.py"⟩, 4, column⟩
  args
  dynamic := false
  role := none
  result := .clean

/-- The edge of a call in `main`. -/
def edge (callee : FunctionFacts) (column site : Nat) (bindings : List Binding) : CallEdge where
  caller := ⟨"main", "main"⟩
  callee := callee.id
  location := ⟨⟨"main.py"⟩, 4, column⟩
  site
  bindings
  unbound := []
  dynamic := false

/-! ### Read in `main` -/

def asked : SourceHit := ⟨⟨⟨"main.py"⟩, 4, 9⟩, .input⟩

/-- `main` when it hands to `run` what it reads itself. -/
def asker : FunctionFacts where
  id := ⟨"main", "main"⟩
  line := 3
  sources := .singleton asked
  calls := [site "run" 5 [⟨.positional 0, .source Source.input.id⟩]]

def passCall : CallEdge := edge runner 5 0 [⟨0, .source Source.input.id⟩]

def calling : CallGraph where
  registry := {}
  nodes := [asker, runner].map fun f => { id := f.id, kind := .function, facts := some f }
  edges := [passCall]

theorem build_calling : CallGraph.build (.build units) [asker, runner] {} = .ok calling := rfl

theorem wellFormed_calling : calling.WellFormed := CallGraph.build_wellFormed build_calling

/-- What `main` reads reaches the sink. -/
def passed : Exposure calling where
  seed := ⟨asker, asked⟩
  path := [⟨passCall, .down, .source Source.input.id⟩]
  function := runner
  hit := sinkHit
  mem_seeds := List.mem_flatMap.mpr
    ⟨asker, wellFormed_calling.mem_sourceFunctions.mpr ⟨rfl, rfl⟩, List.mem_singleton.mpr rfl⟩
  leaves := List.cons_ne_nil _ _
  mem_sinkHits := List.mem_cons_self
  flow := by
    have hdown : FlowStep calling asker (.source Source.input.id) passCall .down
        (.source Source.input.id) runner (.param 0) :=
      .bound List.mem_cons_self rfl rfl (b := ⟨0, .source Source.input.id⟩) List.mem_cons_self
        List.mem_cons_self
    exact ⟨.param 0, List.mem_cons_self, .step .start hdown⟩
  unsanitized _ _ := rfl

theorem starts_in_asker {v : Finding}
    (hv : v ∈ (Search.ofLimits calling default fun _ => false).run.findings) :
    v.source.function = asker.id :=
  Search.source_eq wellFormed_calling (by decide) hv

/-- A finding takes the call from `main` to `run`, and nothing more. -/
theorem straight_calling {v : Finding}
    (hv : v ∈ (Search.ofLimits calling default fun _ => false).run.findings) :
    v.Straight ∧ v.Crosses "main" "shell" := by
  obtain ⟨hpath, _, hfirst⟩ := Search.facts_of_mem_findings wellFormed_calling hv
  have hcall : ∀ {before hop}, v.Takes before hop → v.callAt before hop = (asker.id, runner.id) := by
    intro before hop ht
    obtain ⟨e, he, hcall⟩ := hpath.exists_edge ht
    rw [List.mem_singleton.mp he] at hcall
    exact hcall
  have hstart : v.functionAfter [] = asker.id := starts_in_asker hv
  obtain ⟨hop, after, hsteps⟩ := List.exists_cons_of_ne_nil (Search.steps_ne_nil hv)
  have ht : v.Takes [] hop := ⟨after, hsteps⟩
  have hdown : hop.kind = .call ∧ hop.function = runner.id := by
    have hhop := hcall ht
    rw [Finding.callAt, hstart] at hhop
    rcases Finding.kind_of_mem_steps ht.mem_steps with hkind | hkind
    · rw [if_neg (by rw [hkind]; decide)] at hhop
      exact ⟨hkind, (Prod.mk.inj hhop).2⟩
    · rw [if_pos hkind] at hhop
      exact absurd (Prod.mk.inj hhop).2 (by decide)
  have hend : after = [] := by
    cases after with
    | nil => rfl
    | cons next rest =>
      have ht' : v.Takes [hop] next := ⟨rest, hsteps⟩
      have hnext := hcall ht'
      rw [Finding.callAt, if_neg] at hnext
      · exact absurd (hdown.2.symm.trans (Prod.mk.inj hnext).1) (by decide)
      · intro hret
        rw [ht'.returns_before hfirst hret hop List.mem_cons_self] at hdown
        exact absurd hdown.1 (by decide)
  refine ⟨?_, [], hop, ht, by rw [hcall ht]; rfl, by rw [hcall ht]; rfl⟩
  rw [Finding.Straight, hsteps, hend]
  refine .enter .start hdown.1 ?_
  rw [hdown.2, Finding.visited, starts_in_asker hv]
  decide

/-- `main` imports `run` in its second line. -/
theorem shell_import :
    (⟨"main", "shell", 2, false⟩ : ImportEdge) ∈ (ModuleGraph.build units).importEdges :=
  import_mem (by decide)

end ShellProject

open ShellProject in
theorem called_import_highlighted :
    CallGraph.build (.build units) [asker, runner] {} = .ok calling ∧
      ∃ outcome, propagateWith calling default (fun _ => false) = .ok outcome ∧
        outcome.findings ≠ [] ∧ (∀ v ∈ outcome.findings, v.Straight) ∧
        ∃ edge ∈ (Diagram.ofModules (.build units) outcome.findings).edges,
          edge.source = "main" ∧ edge.target = "shell" ∧ edge.onPath = true := by
  obtain ⟨outcome, hok, _, _, hedges⟩ := highlighted_imports build_calling default fun _ => false
  refine ⟨build_calling, outcome, hok, ?_⟩
  rw [propagateWith_eq wellFormed_calling] at hok
  cases hok
  obtain ⟨v, hv, _⟩ := passed.exists_finding (s := .ofLimits calling default fun _ => false)
    ⟨rfl, rfl⟩ wellFormed_calling fun _ => rfl
  have hstraight := fun w hw => (straight_calling (v := w) hw).1
  refine ⟨List.ne_nil_of_mem hv, hstraight, _, List.mem_map.mpr ⟨_, shell_import, rfl⟩, rfl, rfl, ?_⟩
  refine (hedges hstraight _ (List.mem_map.mpr ⟨_, shell_import, rfl⟩) (by decide)).mpr ?_
  exact ⟨v, hv, (straight_calling hv).2⟩

namespace ShellProject

/-! ### Read in `helper` -/

def read : SourceHit := ⟨⟨⟨"helper.py"⟩, 2, 12⟩, .input⟩

def reader : FunctionFacts where
  id := ⟨"helper", "read"⟩
  line := 1
  sources := .singleton read
  returns := .source Source.input.id

/-- What `read` gives back. -/
def given : Label := ⟨.singleton (.call 0), ∅⟩

/-- `main` when it hands to `run` what `read` gives back. -/
def passer : FunctionFacts where
  id := ⟨"main", "main"⟩
  line := 3
  calls := [site "read" 9 [], site "run" 5 [⟨.positional 0, given⟩]]

def readCall : CallEdge := edge reader 9 0 []

def runCall : CallEdge := edge runner 5 1 [⟨0, given⟩]

def returning : CallGraph where
  registry := {}
  nodes := [reader, passer, runner].map fun f => { id := f.id, kind := .function, facts := some f }
  edges := [readCall, runCall]

theorem build_returning :
    CallGraph.build (.build units) [reader, passer, runner] {} = .ok returning := rfl

theorem wellFormed_returning : returning.WellFormed := CallGraph.build_wellFormed build_returning

/-- What `read` reads comes back to `main` and reaches the sink. -/
def returned : Exposure returning where
  seed := ⟨reader, read⟩
  path := [⟨readCall, .up, reader.returns⟩, ⟨runCall, .down, given⟩]
  function := runner
  hit := sinkHit
  mem_seeds := List.mem_flatMap.mpr
    ⟨reader, wellFormed_returning.mem_sourceFunctions.mpr ⟨rfl, rfl⟩, List.mem_singleton.mpr rfl⟩
  leaves := List.cons_ne_nil _ _
  mem_sinkHits := List.mem_cons_self
  flow := by
    have hup : FlowStep returning reader (.source Source.input.id) readCall .up reader.returns passer
        (.call 0) := .returned List.mem_cons_self rfl rfl List.mem_cons_self rfl
    have hdown : FlowStep returning passer (.call 0) runCall .down given runner (.param 0) :=
      .bound (List.mem_cons_of_mem _ List.mem_cons_self) rfl rfl (b := ⟨0, given⟩)
        List.mem_cons_self List.mem_cons_self
    exact ⟨.param 0, List.mem_cons_self, .step (.step .start hup) hdown⟩
  unsanitized _ _ := rfl

theorem starts_in_reader {v : Finding}
    (hv : v ∈ (Search.ofLimits returning default fun _ => false).run.findings) :
    v.source.function = reader.id :=
  Search.source_eq wellFormed_returning (by decide) hv

/-- A finding starts with the return from `read` to `main`, as only that call touches `read`. -/
theorem crosses_helper {v : Finding}
    (hv : v ∈ (Search.ofLimits returning default fun _ => false).run.findings) :
    v.Crosses "main" "helper" := by
  have hcallers : ∀ e ∈ returning.edges, e.caller ≠ reader.id ∧
      (e.callee = reader.id → e.caller = passer.id) := by decide
  obtain ⟨hpath, _, _⟩ := Search.facts_of_mem_findings wellFormed_returning hv
  obtain ⟨hop, after, hsteps⟩ := List.exists_cons_of_ne_nil (Search.steps_ne_nil hv)
  have ht : v.Takes [] hop := ⟨after, hsteps⟩
  obtain ⟨e, he, hcall⟩ := hpath.exists_edge ht
  have hstart : v.functionAfter [] = reader.id := starts_in_reader hv
  refine ⟨[], hop, ht, ?_⟩
  rw [hcall]
  rw [Finding.callAt, hstart] at hcall
  split at hcall
  · have hcallee := (Prod.mk.inj hcall).2
    rw [(hcallers e he).2 hcallee.symm, ← hcallee]
    exact ⟨rfl, rfl⟩
  · exact absurd (Prod.mk.inj hcall).1.symm (hcallers e he).1

/-- `main` imports `read` in its first line. -/
theorem helper_import :
    (⟨"main", "helper", 1, false⟩ : ImportEdge) ∈ (ModuleGraph.build units).importEdges :=
  import_mem (by decide)

end ShellProject

open ShellProject in
/-- **An import over which data comes back is crossed but not highlighted.** The path starts in its
target, which is never entered. -/
theorem returned_import_unhighlighted :
    CallGraph.build (.build units) [reader, passer, runner] {} = .ok returning ∧
      ∃ outcome, propagateWith returning default (fun _ => false) = .ok outcome ∧
        (∃ v ∈ outcome.findings, v.Crosses "main" "helper") ∧
        ∃ edge ∈ (Diagram.ofModules (.build units) outcome.findings).edges,
          edge.source = "main" ∧ edge.target = "helper" ∧ edge.onPath = false := by
  obtain ⟨v, hv, _⟩ := returned.exists_finding (s := .ofLimits returning default fun _ => false)
    ⟨rfl, rfl⟩ wellFormed_returning fun _ => rfl
  refine ⟨build_returning, _, propagateWith_eq wellFormed_returning default _,
    ⟨v, hv, crosses_helper hv⟩, _, List.mem_map.mpr ⟨_, helper_import, rfl⟩, rfl, rfl, ?_⟩
  refine Bool.eq_false_iff.mpr fun honPath => ?_
  obtain ⟨w, hw, before, _, _, _, hnew, _⟩ := (Diagram.onPath_iff
    (fun u hu => (Search.facts_of_mem_findings wellFormed_returning hu).2.1)
    (List.mem_map.mpr ⟨_, helper_import, rfl⟩)).mp honPath
  have hhere : w.source.function.module ∈ w.visited before := List.mem_cons_self
  rw [starts_in_reader hw] at hhere
  exact hnew hhere

end TaintFlow
