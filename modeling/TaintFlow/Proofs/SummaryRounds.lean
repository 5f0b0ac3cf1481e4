import Mathlib.Logic.Relation
import TaintFlow.Proofs.MapLookup
import TaintFlow.Summary

/-!
# When return summaries settle

The summaries of a project are brought up to date in rounds, and there are two more rounds than
functions. A table is a fixed point if every function returns by it what it says of the function.

The rounds need not end at a fixed point. `tableAfter` is the table after any number of rounds;
what comes out is that after the last round allowed, whether or not it has settled (`summaries_eq`).
So it is a fixed point exactly if the rounds reach one within the number allowed
(`summaries_fixed_iff`). Without recursion the number is enough: a function is settled one round after
the functions that it calls. A function that calls itself with its parameters moved by one place takes
a round for each parameter, and with four of them it is cut off (`rotate_summaries_not_fixed`).
-/

namespace TaintFlow

/-- Whether every function returns by a table what the table says of it. -/
def IsFixed (functions : Functions) (targets : Targets) (t : Summaries) : Prop :=
  ∀ f ∈ functions.values, t.labelOf f.id = returnLabel functions targets t f

instance (functions : Functions) (targets : Targets) (t : Summaries) :
    Decidable (IsFixed functions targets t) :=
  inferInstanceAs (Decidable (∀ f ∈ functions.values, _))

section Rounds

variable {functions : Functions} {targets : Targets} {t : Summaries} {f : FunctionFacts}

/-! ## 1. One round -/

theorem labelOf_insert (t : Summaries) (id id' : FunctionId) (l : Label) :
    Summaries.labelOf (t.insert id l) id' = if id' = id then l else t.labelOf id' := by
  rw [Summaries.labelOf, SortedMap.get?_insert]
  by_cases h : id' = id
  · rw [if_pos h, h, if_pos Std.ReflOrd.compare_self]
    rfl
  · rw [if_neg h, if_neg fun e => h (Std.LawfulEqOrd.eq_of_compare e)]
    rfl

/-- Bringing an entry up to date puts in what the function returns, and changes no other entry. -/
theorem labelOf_updateEntry (functions : Functions) (targets : Targets) (state : Summaries × Bool)
    (f : FunctionFacts) (id : FunctionId) :
    (updateEntry functions targets state f).1.labelOf id =
      if id = f.id then returnLabel functions targets state.1 f else state.1.labelOf id := by
  rw [updateEntry]
  split
  · rename_i h
    by_cases hid : id = f.id
    · rw [if_pos hid, hid, h]
    · rw [if_neg hid]
  · exact labelOf_insert state.1 f.id id _

/-- Once an entry has changed, the round tells so. -/
theorem foldl_updateEntry_changed (l : List FunctionFacts) (t : Summaries) :
    (l.foldl (updateEntry functions targets) (t, true)).2 = true := by
  induction l generalizing t with
  | nil => rfl
  | cons f l ih =>
    rw [List.foldl_cons, updateEntry]
    dsimp only
    split
    · exact ih t
    · exact ih _

/-- A round leaves a fixed point as it is. -/
theorem summaryRound_of_isFixed (h : IsFixed functions targets t) :
    summaryRound functions targets t = (t, false) := by
  have hfold : ∀ l : List FunctionFacts,
      (∀ f ∈ l, t.labelOf f.id = returnLabel functions targets t f) →
        l.foldl (updateEntry functions targets) (t, false) = (t, false) := by
    intro l hl
    induction l with
    | nil => rfl
    | cons f l ih =>
      rw [List.foldl_cons, updateEntry, if_pos (hl f List.mem_cons_self)]
      exact ih fun g hg => hl g (List.mem_cons_of_mem _ hg)
  exact hfold _ h

/-- **A round that changes nothing was at a fixed point.** -/
theorem isFixed_of_unchanged (h : (summaryRound functions targets t).2 = false) :
    IsFixed functions targets t := by
  have hfold : ∀ l : List FunctionFacts,
      (l.foldl (updateEntry functions targets) (t, false)).2 = false →
        ∀ f ∈ l, t.labelOf f.id = returnLabel functions targets t f := by
    intro l
    induction l with
    | nil => exact fun _ f hf => absurd hf List.not_mem_nil
    | cons f l ih =>
      intro hl
      rw [List.foldl_cons, updateEntry] at hl
      dsimp only at hl
      split at hl
      · rename_i hf
        exact List.forall_mem_cons.mpr ⟨hf, ih hl⟩
      · rw [foldl_updateEntry_changed] at hl
        cases hl
  exact hfold _ h

/-! ## 2. Round after round -/

/-- The table after a number of rounds. -/
def tableAfter (functions : Functions) (targets : Targets) : (rounds : Nat) → Summaries
  | 0 => ∅
  | rounds + 1 => (summaryRound functions targets (tableAfter functions targets rounds)).1

/-- A fixed point stays through all later rounds. -/
theorem tableAfter_of_isFixed {k n : Nat} (hk : k ≤ n)
    (h : IsFixed functions targets (tableAfter functions targets k)) :
    tableAfter functions targets n = tableAfter functions targets k := by
  induction hk with
  | refl => rfl
  | step _ ih => rw [tableAfter, ih, summaryRound_of_isFixed h]

/-- Stopping at a round that changes nothing gives the same table as going on. -/
theorem summaryRounds_tableAfter (functions : Functions) (targets : Targets) (n k : Nat) :
    summaryRounds functions targets n (tableAfter functions targets k) =
      tableAfter functions targets (k + n) := by
  induction n generalizing k with
  | zero => rfl
  | succ n ih =>
    rw [summaryRounds]
    cases hround : summaryRound functions targets (tableAfter functions targets k) with
    | mk next changed =>
      have hnext : next = tableAfter functions targets (k + 1) := (congrArg Prod.fst hround).symm
      cases changed with
      | true =>
        show summaryRounds functions targets n next = _
        rw [hnext, ih, Nat.add_assoc, Nat.add_comm 1 n]
      | false =>
        have hfixed := isFixed_of_unchanged (congrArg Prod.snd hround)
        show next = _
        rw [hnext, tableAfter_of_isFixed (Nat.le_add_right k 1) hfixed,
          tableAfter_of_isFixed (Nat.le_add_right k (n + 1)) hfixed]

/-- **The summaries are the table after the last round allowed.** -/
theorem summaries_eq (functions : Functions) (targets : Targets) :
    summaries functions targets = tableAfter functions targets (functions.size + 2) := by
  have h := summaryRounds_tableAfter functions targets (functions.size + 2) 0
  rwa [Nat.zero_add] at h

end Rounds

/-! ## 3. Without recursion -/

/-- Whether every function stands under its own name. -/
def Functions.Keyed (functions : Functions) : Prop :=
  ∀ id f, functions.get? id = some f → f.id = id

/-- The functions of a list stand under their own names. -/
theorem Functions.get?_ofFacts {facts : List FunctionFacts} {id : FunctionId} {f : FunctionFacts}
    (h : (ofFacts facts).get? id = some f) : f.id = id ∧ f ∈ facts := by
  obtain ⟨id', hid, hmem⟩ := SortedMap.mem_of_get?_ofList h
  obtain ⟨f', hf, heq⟩ := List.mem_map.mp hmem
  cases heq
  exact ⟨(Std.LawfulEqOrd.eq_of_compare hid).symm, hf⟩

theorem Functions.keyed_ofFacts (facts : List FunctionFacts) : (ofFacts facts).Keyed :=
  fun _ _ h => (get?_ofFacts h).1

theorem Functions.Keyed.get?_of_mem {functions : Functions} (h : functions.Keyed) {f : FunctionFacts}
    (hf : f ∈ functions.values) : functions.get? f.id = some f := by
  obtain ⟨id, hid⟩ := SortedMap.mem_values_iff.mp hf
  rwa [h id f hid]

theorem Functions.get?_summarized (functions : Functions) (targets : Targets) (registry : Registry)
    (id : FunctionId) :
    (functions.summarized targets registry).get? id = (functions.get? id).map fun f =>
      f.substitute registry (callResults functions targets (summaries functions targets) f) :=
  SortedMap.get?_mapValues _ _ id

section NoRecursion

variable {functions : Functions} {targets : Targets} {t t' : Summaries} {f : FunctionFacts}

/-- Whether a function looks up the summary of another for its own. -/
def Reads (functions : Functions) (targets : Targets) (f : FunctionFacts) (id : FunctionId) : Prop :=
  functions.contains id = true ∧ ∃ offset, .function id offset ∈ targets.sitesOf f.id

/-- What a function returns depends on the summaries that it reads. -/
theorem returnLabel_congr (h : ∀ id, Reads functions targets f id → t.labelOf id = t'.labelOf id) :
    returnLabel functions targets t f = returnLabel functions targets t' f := by
  have hnext : ∀ (results : List Label) (site : CallSite),
      nextResult functions t (targets.sitesOf f.id) results site =
        nextResult functions t' (targets.sitesOf f.id) results site := by
    intro results site
    unfold nextResult
    dsimp only
    split
    · rename_i id offset hsite
      split
      · rfl
      · cases hcallee : functions.get? id with
        | none => rfl
        | some callee =>
          have hreads : Reads functions targets f id :=
            ⟨by rw [SortedMap.contains, hcallee]; rfl, offset, List.mem_of_getElem? hsite⟩
          show returnedThrough (t.labelOf id) _ _ _ _ _ = _
          rw [h id hreads]
    · rfl
  have hresults : callResults functions targets t f = callResults functions targets t' f := by
    rw [callResults, callResults]
    congr 1
    funext results site
    rw [hnext]
  rw [returnLabel, returnLabel, hresults]

/-- **What a round puts in for a function** is what it returns by a table in the middle of the
round: each entry there is that from before or that from after the round. -/
theorem labelOf_foldl_updateEntry (functions : Functions) (targets : Targets)
    {l : List FunctionFacts} (hl : (l.map (·.id)).Nodup) (state : Summaries × Bool) :
    (∀ id, id ∉ l.map (·.id) →
        (l.foldl (updateEntry functions targets) state).1.labelOf id = state.1.labelOf id) ∧
      ∀ f ∈ l, ∃ mid : Summaries,
        (l.foldl (updateEntry functions targets) state).1.labelOf f.id =
          returnLabel functions targets mid f ∧
        ∀ id, mid.labelOf id = state.1.labelOf id ∨
          mid.labelOf id = (l.foldl (updateEntry functions targets) state).1.labelOf id := by
  induction l generalizing state with
  | nil => exact ⟨fun _ _ => rfl, fun f hf => absurd hf List.not_mem_nil⟩
  | cons g l ih =>
    obtain ⟨hg, hnodup⟩ := List.nodup_cons.mp hl
    have hupdate := labelOf_updateEntry functions targets state g
    obtain ⟨hother, hentry⟩ := ih hnodup (updateEntry functions targets state g)
    rw [List.foldl_cons]
    refine ⟨fun id hid => ?_, fun f hf => ?_⟩
    · rw [List.map_cons, List.mem_cons, not_or] at hid
      rw [hother id hid.2, hupdate, if_neg hid.1]
    · rcases List.mem_cons.mp hf with rfl | hf
      · refine ⟨state.1, ?_, fun id => Or.inl rfl⟩
        rw [hother f.id hg, hupdate, if_pos rfl]
      · obtain ⟨mid, hmid, hagree⟩ := hentry f hf
        refine ⟨mid, hmid, fun id => ?_⟩
        rcases hagree id with h | h
        · by_cases hid : id = g.id
          · right
            rw [h, hid, hother g.id hg]
          · left
            rw [h, hupdate, if_neg hid]
        · exact Or.inr h

theorem Functions.Keyed.nodup_ids (h : functions.Keyed) :
    (functions.values.map (·.id)).Nodup := by
  have hascending : functions.values.Pairwise fun a b => compare a.id b.id = .lt :=
    SortedMap.values_ascending fun id f hf => h id f hf ▸ Std.ReflOrd.compare_self
  refine List.pairwise_map.mpr (hascending.imp fun {a b} hab e => ?_)
  rw [e, Std.ReflOrd.compare_self] at hab
  cases hab

/-- If a round changes nothing that a function reads, it puts in what the function returned by the
table before. -/
theorem labelOf_tableAfter_succ (hkeyed : functions.Keyed) {n : Nat} (hf : f ∈ functions.values)
    (h : ∀ id, Reads functions targets f id →
      (tableAfter functions targets (n + 1)).labelOf id =
        (tableAfter functions targets n).labelOf id) :
    (tableAfter functions targets (n + 1)).labelOf f.id =
      returnLabel functions targets (tableAfter functions targets n) f := by
  obtain ⟨_, hentry⟩ := labelOf_foldl_updateEntry functions targets hkeyed.nodup_ids
    (tableAfter functions targets n, false)
  obtain ⟨mid, hmid, hagree⟩ := hentry f hf
  refine hmid.trans (returnLabel_congr fun id hid => ?_)
  rcases hagree id with h' | h'
  · exact h'
  · exact h'.trans (h id hid)

/-- **A function settles one round after those that it reads.** -/
theorem settled (hkeyed : functions.Keyed) {rank : FunctionId → Nat}
    (hrank : ∀ f ∈ functions.values, ∀ id, Reads functions targets f id → rank id < rank f.id)
    (r : Nat) (hf : f ∈ functions.values) (hr : rank f.id = r) {n : Nat} (hn : r ≤ n) :
    (tableAfter functions targets (n + 1)).labelOf f.id =
        returnLabel functions targets (tableAfter functions targets n) f ∧
      (r < n → (tableAfter functions targets (n + 1)).labelOf f.id =
        (tableAfter functions targets n).labelOf f.id) := by
  induction r using Nat.strongRecOn generalizing f n with
  | _ r ih =>
    have hreads : ∀ m, r ≤ m → ∀ id, Reads functions targets f id →
        (tableAfter functions targets (m + 1)).labelOf id =
          (tableAfter functions targets m).labelOf id := by
      intro m hm id hid
      obtain ⟨g, hg⟩ := Option.isSome_iff_exists.mp hid.1
      have hlt := hrank f hf id hid
      rw [← hkeyed id g hg] at hlt ⊢
      exact (ih (rank g.id) (by omega) (SortedMap.mem_values_iff.mpr ⟨id, hg⟩) rfl (by omega)).2
        (by omega)
    refine ⟨labelOf_tableAfter_succ hkeyed hf (hreads n hn), fun hlt => ?_⟩
    obtain ⟨m, rfl⟩ : ∃ m, n = m + 1 := ⟨n - 1, by omega⟩
    rw [labelOf_tableAfter_succ hkeyed hf (hreads (m + 1) hn),
      labelOf_tableAfter_succ hkeyed hf (hreads m (by omega))]
    exact returnLabel_congr (hreads m (by omega))

/-- Whether the summary of a function depends on that of another, directly or through others. -/
def Depends (functions : Functions) (targets : Targets) : FunctionId → FunctionId → Prop :=
  Relation.TransGen fun a b => ∃ f ∈ functions.values, f.id = a ∧ Reads functions targets f b

open scoped Classical in
/-- The functions on whose summaries that of a function depends. -/
noncomputable def dependencies (functions : Functions) (targets : Targets) (id : FunctionId) :
    List FunctionFacts :=
  functions.values.filter fun g => Depends functions targets id g.id

/-- A function that does not depend on itself has fewer dependencies than one that reads it. -/
theorem length_dependencies_lt (hkeyed : functions.Keyed) (hf : f ∈ functions.values)
    {id : FunctionId} (hreads : Reads functions targets f id) (hself : ¬ Depends functions targets id id) :
    (dependencies functions targets id).length < (dependencies functions targets f.id).length := by
  classical
  have hstep : Depends functions targets f.id id := Relation.TransGen.single ⟨f, hf, rfl, hreads⟩
  have hsub : dependencies functions targets id =
      (dependencies functions targets f.id).filter fun g => Depends functions targets id g.id := by
    unfold dependencies
    rw [List.filter_filter]
    refine List.filter_congr fun g _ => ?_
    rw [← Bool.decide_and]
    exact decide_eq_decide.mpr ⟨fun h => ⟨h, hstep.trans h⟩, fun h => h.1⟩
  obtain ⟨g, hg⟩ := Option.isSome_iff_exists.mp hreads.1
  have hgid : g.id = id := hkeyed id g hg
  have hmem : g ∈ dependencies functions targets f.id :=
    List.mem_filter.mpr ⟨SortedMap.mem_values_iff.mpr ⟨id, hg⟩, decide_eq_true (hgid ▸ hstep)⟩
  rw [hsub]
  refine List.length_filter_lt_length_iff_exists.mpr ⟨g, hmem, fun h => hself ?_⟩
  have h := of_decide_eq_true h
  rwa [hgid] at h

/-- **Without recursion the summaries are a fixed point**: the number of its dependencies says by which
round a function has settled. -/
theorem summaries_fixed_of_no_recursion (hkeyed : functions.Keyed)
    (hnone : ∀ id, ¬ Depends functions targets id id) :
    IsFixed functions targets (summaries functions targets) := by
  have hrank : ∀ f ∈ functions.values, ∀ id, Reads functions targets f id →
      (dependencies functions targets id).length < (dependencies functions targets f.id).length :=
    fun f hf id hreads => length_dependencies_lt hkeyed hf hreads (hnone id)
  rw [summaries_eq]
  intro f hf
  have hsize : functions.values.length = functions.size := List.length_map _
  have hle : (dependencies functions targets f.id).length ≤ functions.values.length :=
    List.length_filter_le _ _
  obtain ⟨hreturn, hstays⟩ := settled (n := functions.size + 2) hkeyed hrank _ hf rfl (by omega)
  rw [← hreturn, hstays (by omega)]

end NoRecursion

/-! ## 4. When the rounds are enough -/

/-- **The summaries are a fixed point exactly if the rounds reach one in the number allowed.** They do
if no function of the project depends on itself. -/
theorem summaries_fixed_iff (functions : Functions) (targets : Targets) :
    (IsFixed functions targets (summaries functions targets) ↔
      ∃ k ≤ functions.size + 2, IsFixed functions targets (tableAfter functions targets k)) ∧
    (functions.Keyed → (∀ id, ¬ Depends functions targets id id) →
      IsFixed functions targets (summaries functions targets)) := by
  refine ⟨?_, summaries_fixed_of_no_recursion⟩
  rw [summaries_eq]
  constructor
  · exact fun h => ⟨_, Nat.le_refl _, h⟩
  · rintro ⟨k, hk, h⟩
    rw [tableAfter_of_isFixed hk h]
    exact h

namespace Relay

/-- A function that returns its parameter. -/
def inner : FunctionFacts where
  id := ⟨"app", "inner"⟩
  line := 1
  params := ["a"]
  positionalParams := 1
  returns := .param 0

/-- A function that returns what `inner` returns of its parameter. -/
def outer : FunctionFacts where
  id := ⟨"app", "outer"⟩
  line := 3
  params := ["a"]
  positionalParams := 1
  calls :=
    [{ callee := "inner", location := ⟨⟨"app.py"⟩, 4, 12⟩, args := [⟨.positional 0, .param 0⟩]
       dynamic := false, role := none, result := .param 0 }]
  returns := .call 0

def targets : Targets := .singleton outer.id [.function inner.id 0]

theorem depends {a b : FunctionId} (h : Depends (.ofFacts [inner, outer]) targets a b) :
    a = outer.id ∧ b = inner.id := by
  have hstep : ∀ {a b : FunctionId}, (∃ f ∈ (Functions.ofFacts [inner, outer]).values, f.id = a ∧
      Reads (.ofFacts [inner, outer]) targets f b) → a = outer.id ∧ b = inner.id := by
    rintro a b ⟨f, hf, rfl, _, offset, hsite⟩
    have hvalues : (Functions.ofFacts [inner, outer]).values = [inner, outer] := rfl
    rw [hvalues] at hf
    rcases List.mem_cons.mp hf with rfl | hf
    · cases hsite
    · cases List.mem_singleton.mp hf
      cases List.mem_singleton.mp hsite
      exact ⟨rfl, rfl⟩
  induction h with
  | single h => exact hstep h
  | tail _ h ih => exact ⟨ih.1, (hstep h).2⟩

end Relay

open Relay in
theorem relay_summaries_fixed :
    (Functions.ofFacts [inner, outer]).Keyed ∧
      (∀ id, ¬ Depends (.ofFacts [inner, outer]) targets id id) ∧
      IsFixed (.ofFacts [inner, outer]) targets (summaries (.ofFacts [inner, outer]) targets) := by
  have hkeyed := Functions.keyed_ofFacts [inner, outer]
  have hnone : ∀ id, ¬ Depends (.ofFacts [inner, outer]) targets id id := by
    intro id h
    obtain ⟨houter, hinner⟩ := depends h
    exact absurd (houter.symm.trans hinner) (by decide)
  exact ⟨hkeyed, hnone, (summaries_fixed_iff _ _).2 hkeyed hnone⟩

/-- A function that returns its first parameter, or what it returns when it is called with its
parameters moved by one place. -/
def rotate : FunctionFacts where
  id := ⟨"app", "rotate"⟩
  line := 1
  params := ["a", "b", "c", "d"]
  positionalParams := 4
  calls :=
    [{ callee := "rotate", location := ⟨⟨"app.py"⟩, 4, 12⟩
       args := [1, 2, 3, 0].mapIdx fun place param => ⟨.positional place, .param param⟩
       dynamic := false, role := none
       result := Label.clean.combineAll ([0, 1, 2, 3].map .param) }]
  returns := (Label.param 0).combine (.call 0)

/-- **The summaries of this function are no fixed point**: three rounds find three of its four
parameters. -/
theorem rotate_summaries_not_fixed :
    ¬ IsFixed (.ofFacts [rotate]) (.singleton rotate.id [.function rotate.id 0])
      (summaries (.ofFacts [rotate]) (.singleton rotate.id [.function rotate.id 0])) := by
  decide

end TaintFlow
