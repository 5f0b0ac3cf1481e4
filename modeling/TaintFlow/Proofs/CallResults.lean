import Mathlib.Data.List.Forall2
import Mathlib.Data.List.Induction
import TaintFlow.Proofs.LabelOrder
import TaintFlow.Summary

/-!
# What calls hand back

The result of a call of a function of the project holds the origins of the arguments that reach a
returned parameter, and the marker of the call itself if the callee returns data of its own
(`mem_origins_returnedThrough`). It grows with the callee's summary and with the arguments
(`returnedThrough_mono`), so the results of all calls of a function grow with the table of
summaries (`callResults_mono`), and with them what the function returns (`returnLabel_mono`).
-/

namespace TaintFlow

/-! ## 1. Arguments and parameters -/

/-- Whether an argument reaches a parameter: it is bound to it or, in a spread call, it is bound to
none and the parameter is not the receiver. -/
def Reaches (callee : FunctionFacts) (dynamic : Bool) (offset : Nat) (position : ArgPosition)
    (param : Nat) : Prop :=
  boundParam? callee offset position = some param ∨
    boundParam? callee offset position = none ∧ dynamic = true ∧ callee.firstOpenParam ≤ param

section OneCall

variable {callee : FunctionFacts} {args : List Argument} {dynamic : Bool} {offset index : Nat}
  {summary summary' : Label} {o : Origin}

theorem mem_boundArgs {param : Nat} {l : Label} : ⟨param, l⟩ ∈ boundArgs args callee offset ↔
    ∃ a ∈ args, boundParam? callee offset a.position = some param ∧ a.label = l := by
  simp [boundArgs, List.mem_filterMap]

theorem mem_unboundArgs {l : Label} : l ∈ unboundArgs args callee offset ↔
    ∃ a ∈ args, boundParam? callee offset a.position = none ∧ a.label = l := by
  simp only [unboundArgs, List.mem_map, List.mem_filter, Option.isNone_iff_eq_none, and_assoc]

theorem mem_reaching {param : Nat} {l : Label} :
    l ∈ reaching (boundArgs args callee offset) (unboundArgs args callee offset) dynamic
        callee.firstOpenParam param ↔
      ∃ a ∈ args, Reaches callee dynamic offset a.position param ∧ a.label = l := by
  have hbound : l ∈ ((boundArgs args callee offset).filter fun b => b.param == param).map (·.label) ↔
      ∃ a ∈ args, boundParam? callee offset a.position = some param ∧ a.label = l := by
    rw [← mem_boundArgs, List.mem_map]
    constructor
    · rintro ⟨b, hb, rfl⟩
      obtain ⟨hmem, hparam⟩ := List.mem_filter.mp hb
      exact beq_iff_eq.mp hparam ▸ hmem
    · exact fun h => ⟨_, List.mem_filter.mpr ⟨h, beq_self_eq_true param⟩, rfl⟩
  rw [reaching, List.mem_append, hbound]
  by_cases hopen : dynamic = true ∧ callee.firstOpenParam ≤ param
  · rw [if_pos (by simpa using hopen), mem_unboundArgs]
    simp only [Reaches, hopen, and_self, and_true, or_and_right, and_or_left, exists_or]
  · rw [if_neg (by simpa using hopen)]
    simp only [Reaches, hopen, and_false, or_false, List.not_mem_nil]

/-! ## 2. The result of one call -/

/-- The join of the arguments that reach a returned parameter. -/
def handedArgs (summary : Label) (callee : FunctionFacts) (args : List Argument) (dynamic : Bool)
    (offset : Nat) : Label :=
  Label.clean.combineAll (summary.params.flatMap
    (reaching (boundArgs args callee offset) (unboundArgs args callee offset) dynamic
      callee.firstOpenParam))

theorem mem_handedArgs_parts {l : Label} :
    l ∈ summary.params.flatMap (reaching (boundArgs args callee offset)
        (unboundArgs args callee offset) dynamic callee.firstOpenParam) ↔
      ∃ p, .param p ∈ summary.origins ∧
        ∃ a ∈ args, Reaches callee dynamic offset a.position p ∧ a.label = l := by
  simp only [List.mem_flatMap, Label.mem_params, mem_reaching]

/-- What a call hands back before the callee's sanitizers are noted. -/
def handedBack (summary : Label) (callee : FunctionFacts) (args : List Argument) (dynamic : Bool)
    (offset index : Nat) : Label :=
  if summary.hasForeign then (handedArgs summary callee args dynamic offset).combine (.call index)
  else handedArgs summary callee args dynamic offset

theorem returnedThrough_eq (h : summary.isClean = false) :
    returnedThrough summary callee args dynamic offset index =
      summary.sanitizers.toList.foldl Label.sanitize
        (handedBack summary callee args dynamic offset index) := by
  rw [returnedThrough, if_neg (by rw [h]; decide)]
  rfl

theorem mem_origins_handedBack :
    o ∈ (handedBack summary callee args dynamic offset index).origins ↔
      (∃ p, .param p ∈ summary.origins ∧ ∃ a ∈ args, Reaches callee dynamic offset a.position p ∧
        o ∈ a.label.origins) ∨ summary.hasForeign = true ∧ o = .call index := by
  have hargs : o ∈ (handedArgs summary callee args dynamic offset).origins ↔
      ∃ p, .param p ∈ summary.origins ∧ ∃ a ∈ args, Reaches callee dynamic offset a.position p ∧
        o ∈ a.label.origins := by
    rw [handedArgs, Label.mem_origins_combineAll, or_iff_right Label.not_mem_origins_clean]
    constructor
    · rintro ⟨l, hl, ho⟩
      obtain ⟨p, hp, a, ha, hreach, rfl⟩ := mem_handedArgs_parts.mp hl
      exact ⟨p, hp, a, ha, hreach, ho⟩
    · rintro ⟨p, hp, a, ha, hreach, ho⟩
      exact ⟨a.label, mem_handedArgs_parts.mpr ⟨p, hp, a, ha, hreach, rfl⟩, ho⟩
  rw [handedBack]
  by_cases hforeign : summary.hasForeign = true
  · rw [if_pos hforeign, Label.mem_origins_combine, hargs, Label.call, Label.mem_origins_ofOrigin,
      and_iff_right hforeign]
  · rw [if_neg hforeign, hargs, or_iff_left fun h => hforeign h.1]

/-- **The origins of a call's result**: those of the arguments that reach a returned parameter, and
the call itself if the callee returns data of its own. -/
theorem mem_origins_returnedThrough :
    o ∈ (returnedThrough summary callee args dynamic offset index).origins ↔
      (∃ p, .param p ∈ summary.origins ∧ ∃ a ∈ args, Reaches callee dynamic offset a.position p ∧
        o ∈ a.label.origins) ∨ summary.hasForeign = true ∧ o = .call index := by
  cases hclean : summary.isClean with
  | true =>
    have hnone := Label.isClean_iff.mp hclean
    rw [returnedThrough, if_pos hclean, Label.hasForeign_iff]
    simp [hnone]
  | false => rw [returnedThrough_eq hclean, Label.origins_foldl_sanitize, mem_origins_handedBack]

/-- What is handed back is the least label above the arguments that reach a returned parameter and,
if the callee returns data of its own, above the call itself. -/
theorem handedBack_le_iff {u : Label} :
    handedBack summary callee args dynamic offset index ≤ u ↔
      (∀ p, .param p ∈ summary.origins → ∀ a ∈ args, Reaches callee dynamic offset a.position p →
        a.label ≤ u) ∧ (summary.hasForeign = true → .call index ≤ u) := by
  have hargs : handedArgs summary callee args dynamic offset ≤ u ↔
      ∀ p, .param p ∈ summary.origins → ∀ a ∈ args, Reaches callee dynamic offset a.position p →
        a.label ≤ u := by
    rw [handedArgs, Label.combineAll_le_iff, and_iff_right (Label.le_of_isClean rfl)]
    constructor
    · intro h p hp a ha hreach
      exact h _ (mem_handedArgs_parts.mpr ⟨p, hp, a, ha, hreach, rfl⟩)
    · intro h l hl
      obtain ⟨p, hp, a, ha, hreach, rfl⟩ := mem_handedArgs_parts.mp hl
      exact h p hp a ha hreach
  rw [handedBack]
  by_cases hforeign : summary.hasForeign = true
  · rw [if_pos hforeign, Label.combine_le_iff, hargs, forall_prop_of_true hforeign]
  · rw [if_neg hforeign, hargs, and_iff_left fun h => absurd h hforeign]

/-- **A larger summary and larger arguments give a larger result.** -/
theorem returnedThrough_mono {rs rs' : List Label} (hsummary : summary ≤ summary')
    (hrs : List.Forall₂ (· ≤ ·) rs rs') :
    returnedThrough summary callee (args.map (·.substitute rs)) dynamic offset index ≤
      returnedThrough summary' callee (args.map (·.substitute rs')) dynamic offset index := by
  cases hclean : summary.isClean with
  | true =>
    rw [returnedThrough, if_pos hclean]
    exact Label.le_of_isClean rfl
  | false =>
    rw [returnedThrough_eq hclean, returnedThrough_eq (Label.isClean_eq_false_of_le hsummary hclean)]
    refine Label.foldl_sanitize_mono ?_ ((Label.le_iff.mp hsummary).2 hclean)
    obtain ⟨hargs, hforeign⟩ := handedBack_le_iff.mp (le_refl
      (handedBack summary' callee (args.map (·.substitute rs')) dynamic offset index))
    refine handedBack_le_iff.mpr ⟨fun p hp a ha hreach => ?_, fun h => ?_⟩
    · obtain ⟨b, hb, rfl⟩ := List.mem_map.mp ha
      exact le_trans (Label.substitute_mono (le_refl b.label) hrs)
        (hargs p (Label.origins_of_le hsummary hp) _ (List.mem_map_of_mem hb) hreach)
    · exact hforeign (Label.hasForeign_of_le hsummary h)

end OneCall

/-! ## 3. The calls of a function in turn -/

/-- The function of the project whose summary stands for the result of a call, with its name and
how many parameters the receiver takes. There is none for a constructor. -/
def summarizedCallee? (functions : Functions) (targets : List CallTarget) (index : Nat) :
    Option (FunctionId × FunctionFacts × Nat) :=
  match targets[index]? with
  | some (.function id offset) =>
    if Text.endsWith id.qualname "__init__" then none
    else (functions.get? id).map fun callee => (id, callee, offset)
  | _ => none

theorem summarizedCallee?_eq_some {functions : Functions} {targets : List CallTarget} {index : Nat}
    {id : FunctionId} {callee : FunctionFacts} {offset : Nat}
    (h : summarizedCallee? functions targets index = some (id, callee, offset)) :
    targets[index]? = some (.function id offset) ∧
      Text.endsWith id.qualname "__init__" = false ∧ functions.get? id = some callee := by
  rw [summarizedCallee?] at h
  split at h
  · rename_i id' offset' htarget
    split at h
    · cases h
    · rename_i hinit
      obtain ⟨callee', hcallee, heq⟩ := Option.map_eq_some_iff.mp h
      cases heq
      exact ⟨htarget, Bool.eq_false_iff.mpr hinit, hcallee⟩
  · cases h

theorem nextResult_eq (functions : Functions) (t : Summaries) (targets : List CallTarget)
    (results : List Label) (site : CallSite) :
    nextResult functions t targets results site =
      match summarizedCallee? functions targets results.length with
      | some (id, callee, offset) =>
        returnedThrough (t.labelOf id) callee (site.args.map (·.substitute results)) site.dynamic
          offset results.length
      | none => site.result.substitute results := by
  rw [nextResult, summarizedCallee?]
  rcases targets[results.length]? with _ | target
  · rfl
  · cases target with
    | function id offset =>
      dsimp only
      split
      · rfl
      · cases functions.get? id <;> rfl
    | leaf kind => rfl
    | dropped => rfl

/-- The results of the first calls of a function. -/
def resultsOf (functions : Functions) (t : Summaries) (targets : List CallTarget)
    (calls : List CallSite) : List Label :=
  calls.foldl (fun results site => results ++ [nextResult functions t targets results site]) []

theorem callResults_eq (functions : Functions) (targets : Targets) (t : Summaries)
    (f : FunctionFacts) :
    callResults functions targets t f = resultsOf functions t (targets.sitesOf f.id) f.calls := rfl

theorem resultsOf_concat (functions : Functions) (t : Summaries) (targets : List CallTarget)
    (calls : List CallSite) (site : CallSite) :
    resultsOf functions t targets (calls ++ [site]) = resultsOf functions t targets calls ++
      [nextResult functions t targets (resultsOf functions t targets calls) site] :=
  List.foldl_append

theorem length_resultsOf (functions : Functions) (t : Summaries) (targets : List CallTarget)
    (calls : List CallSite) : (resultsOf functions t targets calls).length = calls.length := by
  induction calls using List.reverseRecOn with
  | nil => rfl
  | append_singleton calls site ih =>
    rw [resultsOf_concat, List.length_append, List.length_append, ih]
    rfl

/-! ## 4. Larger tables -/

/-- Whether every summary of a table is at most that of another. -/
def Summaries.Below (t t' : Summaries) : Prop := ∀ id, t.labelOf id ≤ t'.labelOf id

section Mono

variable {functions : Functions} {t t' : Summaries}

theorem nextResult_mono (ht : t.Below t') {rs rs' : List Label}
    (hrs : List.Forall₂ (· ≤ ·) rs rs') (targets : List CallTarget) (site : CallSite) :
    nextResult functions t targets rs site ≤ nextResult functions t' targets rs' site := by
  rw [nextResult_eq, nextResult_eq, ← hrs.length_eq]
  split
  · rename_i id _ _ _
    exact returnedThrough_mono (ht id) hrs
  · exact Label.substitute_mono (le_refl site.result) hrs

theorem callResults_mono (ht : t.Below t') (targets : Targets) (f : FunctionFacts) :
    List.Forall₂ (· ≤ ·) (callResults functions targets t f)
      (callResults functions targets t' f) := by
  rw [callResults_eq, callResults_eq]
  induction f.calls using List.reverseRecOn with
  | nil => exact .nil
  | append_singleton calls site ih =>
    rw [resultsOf_concat, resultsOf_concat]
    exact List.rel_append ih (.cons (nextResult_mono ht ih _ site) .nil)

/-- **By a larger table a function returns more.** -/
theorem returnLabel_mono (ht : t.Below t') (targets : Targets) (f : FunctionFacts) :
    returnLabel functions targets t f ≤ returnLabel functions targets t' f :=
  Label.substitute_mono (le_refl f.returns) (callResults_mono ht targets f)

end Mono

end TaintFlow
