import TaintFlow.Proofs.CallResults
import TaintFlow.Proofs.SummaryRounds

/-!
# Return summaries grow to the least fixed point

Entries are brought up to date in place, one after the other, and each sees those before it. A table
that comes about in this way (`Summaries.Reached`, in whatever order the functions take their turns)
has two properties, and one update keeps both because what a function returns is monotone in the
table:

* no entry exceeds what its function returns by the table (`Summaries.Reached.growing`), so an update
  only raises an entry;
* the table is below every fixed point (`Summaries.Reached.below_of_isFixed`).

So the loop climbs, and where it stops because a round changed nothing it stands at the least fixed
point (`summaries_climb_to_least`).
-/

namespace TaintFlow

namespace Summaries.Below

variable {t t' t'' : Summaries}

theorem refl (t : Summaries) : t.Below t := fun id => le_refl (t.labelOf id)

theorem trans (h : t.Below t') (h' : t'.Below t'') : t.Below t'' :=
  fun id => le_trans (h id) (h' id)

theorem empty (t : Summaries) : Summaries.Below ∅ t := fun _ => Label.le_of_isClean rfl

end Summaries.Below

/-- Functions that stand under their own names are told apart by them. -/
theorem Functions.Keyed.eq_of_id {functions : Functions} (h : functions.Keyed) {f g : FunctionFacts}
    (hf : f ∈ functions.values) (hg : g ∈ functions.values) (hid : f.id = g.id) : f = g := by
  have hfg := h.get?_of_mem hf
  rw [hid, h.get?_of_mem hg] at hfg
  exact (Option.some.inj hfg).symm

/-! ## 1. One update -/

/-- Whether no entry exceeds what its function returns by the table. -/
def Growing (functions : Functions) (targets : Targets) (t : Summaries) : Prop :=
  ∀ f ∈ functions.values, t.labelOf f.id ≤ returnLabel functions targets t f

section Update

variable {functions : Functions} {targets : Targets} {state : Summaries × Bool} {f : FunctionFacts}

/-- An update raises the entry of its function and leaves the others. -/
theorem Growing.below_updateEntry (h : Growing functions targets state.1)
    (hf : f ∈ functions.values) : state.1.Below (updateEntry functions targets state f).1 := by
  intro id
  rw [labelOf_updateEntry]
  split
  · rename_i hid
    rw [hid]
    exact h f hf
  · exact le_refl _

theorem Growing.updateEntry (hkeyed : functions.Keyed) (h : Growing functions targets state.1)
    (hf : f ∈ functions.values) :
    Growing functions targets (updateEntry functions targets state f).1 := by
  intro g hg
  have hraised : returnLabel functions targets _ g ≤ returnLabel functions targets _ g :=
    returnLabel_mono (h.below_updateEntry hf) targets g
  rw [labelOf_updateEntry]
  split
  · rename_i hid
    rw [← hkeyed.eq_of_id hg hf hid]
    rwa [← hkeyed.eq_of_id hg hf hid] at hraised
  · exact le_trans (h g hg) hraised

/-- An update stays below a fixed point. -/
theorem below_updateEntry_of_isFixed {t : Summaries} (ht : IsFixed functions targets t)
    (h : state.1.Below t) (hf : f ∈ functions.values) :
    (updateEntry functions targets state f).1.Below t := by
  intro id
  rw [labelOf_updateEntry]
  split
  · rename_i hid
    rw [hid, ht f hf]
    exact returnLabel_mono h targets f
  · exact h id

end Update

/-! ## 2. Any number of updates -/

/-- The tables that come about by bringing entries up to date, in any order. -/
inductive Summaries.Reached (functions : Functions) (targets : Targets) : Summaries → Prop
  | start : Summaries.Reached functions targets ∅
  | update {state : Summaries × Bool} {f : FunctionFacts}
      (h : Summaries.Reached functions targets state.1) (hf : f ∈ functions.values) :
      Summaries.Reached functions targets (updateEntry functions targets state f).1

namespace Summaries.Reached

variable {functions : Functions} {targets : Targets} {t : Summaries}

theorem growing (hkeyed : functions.Keyed) (h : Summaries.Reached functions targets t) :
    Growing functions targets t := by
  induction h with
  | start => exact fun f _ => Label.le_of_isClean rfl
  | update _ hf ih => exact ih.updateEntry hkeyed hf

/-- **No table exceeds a fixed point.** -/
theorem below_of_isFixed {fixed : Summaries} (hfixed : IsFixed functions targets fixed)
    (h : Summaries.Reached functions targets t) : t.Below fixed := by
  induction h with
  | start => exact Summaries.Below.empty fixed
  | update _ hf ih => exact below_updateEntry_of_isFixed hfixed ih hf

theorem foldl_updateEntry (state : Summaries × Bool) (h : Summaries.Reached functions targets state.1)
    {l : List FunctionFacts} (hl : ∀ f ∈ l, f ∈ functions.values) :
    Summaries.Reached functions targets (l.foldl (updateEntry functions targets) state).1 := by
  induction l generalizing state with
  | nil => exact h
  | cons f l ih =>
    exact ih _ (h.update (hl f List.mem_cons_self)) fun g hg => hl g (List.mem_cons_of_mem _ hg)

theorem tableAfter (functions : Functions) (targets : Targets) (rounds : Nat) :
    Summaries.Reached functions targets (tableAfter functions targets rounds) := by
  induction rounds with
  | zero => exact start
  | succ rounds ih =>
    exact foldl_updateEntry (TaintFlow.tableAfter functions targets rounds, false) ih fun _ hf => hf

end Summaries.Reached

/-! ## 3. The loop -/

/-- The state in the middle of a round: some rounds are over, and in the one under way the entries
of the first functions are up to date. -/
def duringRound (functions : Functions) (targets : Targets) (rounds : Nat)
    (done : List FunctionFacts) : Summaries × Bool :=
  done.foldl (updateEntry functions targets) (tableAfter functions targets rounds, false)

theorem reached_duringRound {functions : Functions} (targets : Targets) (rounds : Nat)
    {done rest : List FunctionFacts} (h : functions.values = done ++ rest) :
    Summaries.Reached functions targets (duringRound functions targets rounds done).1 :=
  (Summaries.Reached.tableAfter functions targets rounds).foldl_updateEntry
    (tableAfter functions targets rounds, false) fun _ hf => h ▸ List.mem_append_left rest hf

/-- A loop that stops because a round changed nothing ends at a fixed point. -/
theorem isFixed_summaries_of_unchanged {functions : Functions} {targets : Targets} {rounds : Nat}
    (hrounds : rounds < functions.size + 2)
    (h : (summaryRound functions targets (tableAfter functions targets rounds)).2 = false) :
    IsFixed functions targets (summaries functions targets) := by
  have hfixed := isFixed_of_unchanged h
  rw [summaries_eq, tableAfter_of_isFixed (Nat.le_of_lt hrounds) hfixed]
  exact hfixed

/-- **Summaries only grow, and never beyond what is justified.** Let every function stand under its
own name. Then each update of the loop gives its function a label at least as large as before, at
every moment the table is below every fixed point, and a loop that stops because a round changed
nothing ends at the least fixed point. -/
theorem summaries_climb_to_least {functions : Functions} (hkeyed : functions.Keyed)
    (targets : Targets) :
    (∀ (rounds : Nat) (done rest : List FunctionFacts) (f : FunctionFacts),
      functions.values = done ++ f :: rest →
        (duringRound functions targets rounds done).1.labelOf f.id ≤
          (duringRound functions targets rounds (done ++ [f])).1.labelOf f.id) ∧
    (∀ (rounds : Nat) (done rest : List FunctionFacts), functions.values = done ++ rest →
      ∀ fixed, IsFixed functions targets fixed →
        (duringRound functions targets rounds done).1.Below fixed) ∧
    ((∃ rounds < functions.size + 2,
        (summaryRound functions targets (tableAfter functions targets rounds)).2 = false) →
      IsFixed functions targets (summaries functions targets) ∧
        ∀ fixed, IsFixed functions targets fixed → (summaries functions targets).Below fixed) := by
  refine ⟨fun rounds done rest f h => ?_, fun rounds done rest h fixed hfixed => ?_, ?_⟩
  · have hf : f ∈ functions.values := h ▸ List.mem_append_right done List.mem_cons_self
    have hgrowing := (reached_duringRound targets rounds h).growing hkeyed
    rw [duringRound, duringRound, List.foldl_append]
    exact hgrowing.below_updateEntry hf f.id
  · exact (reached_duringRound targets rounds h).below_of_isFixed hfixed
  · rintro ⟨rounds, hrounds, h⟩
    refine ⟨isFixed_summaries_of_unchanged hrounds h, fun fixed hfixed => ?_⟩
    rw [summaries_eq]
    exact (Summaries.Reached.tableAfter functions targets _).below_of_isFixed hfixed

/-- A function that returns its first parameter, or what it returns when it is called with its two
parameters exchanged. -/
def swap : FunctionFacts where
  id := ⟨"app", "swap"⟩
  line := 1
  params := ["a", "b"]
  positionalParams := 2
  calls :=
    [{ callee := "swap", location := ⟨⟨"app.py"⟩, 4, 12⟩
       args := [⟨.positional 0, .param 1⟩, ⟨.positional 1, .param 0⟩], dynamic := false, role := none
       result := (Label.param 1).combine (.param 0) }]
  returns := (Label.param 0).combine (.call 0)

def swapTargets : Targets := .singleton swap.id [.function swap.id 0]

/-- The second round raises the entry of this function, the third changes nothing, and there are
three: the least fixed point holds both parameters. -/
theorem swap_summaries_least :
    (duringRound (.ofFacts [swap]) swapTargets 1 []).1.labelOf swap.id ≤
        (duringRound (.ofFacts [swap]) swapTargets 1 [swap]).1.labelOf swap.id ∧
      IsFixed (.ofFacts [swap]) swapTargets (summaries (.ofFacts [swap]) swapTargets) ∧
      ∀ fixed, IsFixed (.ofFacts [swap]) swapTargets fixed →
        (summaries (.ofFacts [swap]) swapTargets).Below fixed := by
  obtain ⟨hgrows, _, hleast⟩ :=
    summaries_climb_to_least (Functions.keyed_ofFacts [swap]) swapTargets
  exact ⟨hgrows 1 [] [] swap rfl, hleast ⟨2, by decide, by decide +kernel⟩⟩

example : (duringRound (.ofFacts [swap]) swapTargets 1 []).1.labelOf swap.id = .param 0 := by decide

example : (summaries (.ofFacts [swap]) swapTargets).labelOf swap.id =
    (Label.param 0).combine (.param 1) := by decide +kernel

end TaintFlow
