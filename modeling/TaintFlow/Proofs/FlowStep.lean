import TaintFlow.Proofs.MapLookup
import TaintFlow.Propagation.Evidence
import TaintFlow.Propagation.Flow

/-!
# One step of a flow

`FlowStep` says, without any set of tainted origins, how data at one origin of a function crosses an
edge of the graph: down into a parameter that an argument with this origin is bound to, down into any
parameter but the receiver of a spread call, or up to the call site of a caller.

The search carries all tainted origins of a function at once and keeps for each only the sanitizers
common to everything that meets in it. This module ties the two for one edge:

* `arriving_of_step`, `returned?_of_step`: what a flow step carries over arrives, with no sanitizers
  beyond those of the origin it left and of the label it went through;
* `step_of_arriving`, `step_of_returned?`: whatever arrives was carried over by a flow step, from an
  origin that was tainted and with at least the sanitizers that arrive.

A `Flow` is a chain of flow steps from a source. It follows one origin at a time and knows nothing of
the search; what the search reports is compared with it.
-/

namespace TaintFlow

/-! ## 1. Sets of sanitizers -/

namespace SortedSet

variable {α : Type} [Ord α]

instance : HasSubset (SortedSet α) := ⟨fun s t => ∀ a, a ∈ s → a ∈ t⟩

theorem subset_trans {s t u : SortedSet α} (h : s ⊆ t) (h' : t ⊆ u) : s ⊆ u :=
  fun a ha => h' a (h a ha)

theorem any_eq_true {s : SortedSet α} {p : α → Bool} : s.any p = true ↔ ∃ a ∈ s, p a = true :=
  List.any_eq_true

/-- A test that some member passes is passed in every larger set. -/
theorem any_mono {s t : SortedSet α} {p : α → Bool} (h : s ⊆ t) (hs : s.any p = true) :
    t.any p = true := by
  obtain ⟨a, ha, hp⟩ := any_eq_true.mp hs
  exact any_eq_true.mpr ⟨a, h a ha, hp⟩

variable [Std.LawfulEqOrd α]

theorem mem_foldl_inter {a : α} {s : SortedSet α} {l : List (SortedSet α)} :
    a ∈ l.foldl inter s ↔ a ∈ s ∧ ∀ t ∈ l, a ∈ t := by
  induction l generalizing s with
  | nil => simp
  | cons t l ih => rw [List.foldl_cons, ih, mem_inter, List.forall_mem_cons, and_assoc]

/-- What is common to all sets of a list; none if the list is empty. -/
def meet? : List (SortedSet α) → Option (SortedSet α)
  | [] => none
  | s :: l => some (l.foldl inter s)

omit [Std.LawfulEqOrd α] in
theorem meet?_eq_none_iff {l : List (SortedSet α)} : meet? l = none ↔ l = [] := by
  cases l <;> simp [meet?]

theorem mem_meet? {a : α} {m : SortedSet α} {l : List (SortedSet α)} (h : meet? l = some m) :
    a ∈ m ↔ ∀ s ∈ l, a ∈ s := by
  cases l with
  | nil => cases h
  | cons s l =>
    cases h
    rw [mem_foldl_inter, List.forall_mem_cons]

theorem meet?_of_mem {s : SortedSet α} {l : List (SortedSet α)} (hs : s ∈ l) :
    ∃ m, meet? l = some m ∧ m ⊆ s := by
  cases h : meet? l with
  | none =>
    rw [meet?_eq_none_iff.mp h] at hs
    exact absurd hs List.not_mem_nil
  | some m => exact ⟨m, rfl, fun a ha => (mem_meet? h).mp ha s hs⟩

theorem exists_of_meet? {m : SortedSet α} {l : List (SortedSet α)} (h : meet? l = some m) :
    ∃ s ∈ l, m ⊆ s := by
  cases l with
  | nil => cases h
  | cons s l =>
    exact ⟨s, List.mem_cons_self, fun a ha => (mem_meet? h).mp ha s List.mem_cons_self⟩

variable [Std.TransOrd α]

theorem union_subset {s t u : SortedSet α} (hs : s ⊆ u) (ht : t ⊆ u) : s.union t ⊆ u :=
  fun a ha => (mem_union.mp ha).elim (hs a) (ht a)

theorem subset_union_left (s t : SortedSet α) : s ⊆ s.union t := fun _ ha => mem_union.mpr (Or.inl ha)

theorem subset_union_right (s t : SortedSet α) : t ⊆ s.union t :=
  fun _ ha => mem_union.mpr (Or.inr ha)

theorem union_mono_left {s s' : SortedSet α} (t : SortedSet α) (h : s ⊆ s') :
    s.union t ⊆ s'.union t :=
  union_subset (subset_trans h (subset_union_left s' t)) (subset_union_right s' t)

end SortedSet

open SortedSet (meet? meet?_of_mem exists_of_meet? subset_trans)

/-! ## 2. What a label carries -/

namespace Tainted

variable {t : Tainted} {l : Label} {m : Sanitizers}

theorem common?_eq_meet? (t : Tainted) (origins : List Origin) :
    t.common? origins = meet? (origins.filterMap t.get?) := by
  have fold : ∀ (l : List Sanitizers) (m : Sanitizers),
      l.foldl (fun met s => some (met.elim s fun m => m.inter s)) (some m) =
        some (l.foldl SortedSet.inter m) := by
    intro l
    induction l with
    | nil => exact fun _ => rfl
    | cons s l ih => exact fun m => ih (m.inter s)
  rw [common?]
  cases origins.filterMap t.get? with
  | nil => rfl
  | cons s l => exact fold l s

/-- What is common to the tainted ones among some origins, for one of them. -/
theorem common?_of_mem {origins : List Origin} {o : Origin} {s : Sanitizers} (ho : o ∈ origins)
    (hs : t.get? o = some s) : ∃ m, t.common? origins = some m ∧ m ⊆ s := by
  rw [common?_eq_meet?]
  exact meet?_of_mem (List.mem_filterMap.mpr ⟨o, ho, hs⟩)

theorem exists_of_common? {origins : List Origin} (h : t.common? origins = some m) :
    ∃ o ∈ origins, ∃ s, t.get? o = some s ∧ m ⊆ s := by
  rw [common?_eq_meet?] at h
  obtain ⟨s, hs, hsub⟩ := exists_of_meet? h
  obtain ⟨o, ho, hs⟩ := List.mem_filterMap.mp hs
  exact ⟨o, ho, s, hs, hsub⟩

/-- A label with a tainted origin carries taint, with the sanitizers of the origin and its own at
most. -/
theorem carried?_of_mem {o : Origin} {s : Sanitizers} (ho : o ∈ l.origins)
    (hs : t.get? o = some s) : ∃ m, t.carried? l = some m ∧ m ⊆ s.union l.sanitizers := by
  obtain ⟨m, hm, hsub⟩ := common?_of_mem ho hs
  refine ⟨m.union l.sanitizers, ?_, SortedSet.union_mono_left _ hsub⟩
  rw [carried?, hm]
  rfl

/-- What a label carries comes from a tainted origin of it. -/
theorem exists_of_carried? (h : t.carried? l = some m) :
    ∃ o ∈ l.origins, ∃ s, t.get? o = some s ∧ m ⊆ s.union l.sanitizers := by
  obtain ⟨c, hc, rfl⟩ := Option.map_eq_some_iff.mp h
  obtain ⟨o, ho, s, hs, hsub⟩ := exists_of_common? hc
  exact ⟨o, ho, s, hs, SortedSet.union_mono_left _ hsub⟩

/-! ## 3. Tainting parameters one after the other -/

/-- Taints the parameters of a list in turn. -/
def taintParams (t : Tainted) (l : List (Nat × Sanitizers)) : Tainted :=
  l.foldl (fun t c => t.taintParam c.1 c.2) t

theorem get?_taintParam (t : Tainted) (p : Nat) (s : Sanitizers) (o : Origin) :
    (t.taintParam p s).get? o =
      if o = .param p then meet? ((t.get? o).toList ++ [s]) else t.get? o := by
  rw [taintParam, SortedMap.get?_alter]
  by_cases h : o = .param p
  · subst h
    rw [if_pos Std.ReflOrd.compare_self, if_pos rfl]
    cases t.get? (.param p) <;> rfl
  · rw [if_neg fun e => h (Std.LawfulEqOrd.eq_of_compare e), if_neg h]

/-- After all of them a parameter has what is common to everything that met in it. -/
theorem get?_taintParams (t : Tainted) (l : List (Nat × Sanitizers)) (p : Nat) :
    (t.taintParams l).get? (.param p) =
      meet? ((t.get? (.param p)).toList ++ (l.filter fun c => c.1 == p).map (·.2)) := by
  induction l generalizing t with
  | nil => cases h : t.get? (.param p) <;> simp [taintParams, meet?, h]
  | cons c l ih =>
    show ((t.taintParam c.1 c.2).taintParams l).get? (.param p) = _
    rw [ih, get?_taintParam]
    by_cases h : c.1 = p
    · rw [if_pos (by rw [h]), List.filter_cons_of_pos (by simpa using h)]
      cases t.get? (.param p) <;> rfl
    · rw [if_neg fun e => h (Origin.param.inj e).symm, List.filter_cons_of_neg (by simpa using h)]

/-- Nothing but parameters is tainted that way. -/
theorem get?_taintParams_of_not_param (t : Tainted) (l : List (Nat × Sanitizers)) {o : Origin}
    (ho : ∀ p, o ≠ .param p) : (t.taintParams l).get? o = t.get? o := by
  induction l generalizing t with
  | nil => rfl
  | cons c l ih =>
    show ((t.taintParam c.1 c.2).taintParams l).get? o = _
    rw [ih, get?_taintParam, if_neg (ho c.1)]

end Tainted

/-! ## 4. What arrives at a callee -/

/-- What the unbound arguments of a spread call have in common, if taint reaches any of them. -/
def spreadMeet? (e : CallEdge) (t : Tainted) : Option Sanitizers :=
  if e.dynamic then meet? (e.unbound.filterMap t.carried?) else none

/-- The parameters that an edge taints, each with the sanitizers on what reaches it, in turn. -/
def inflows (e : CallEdge) (callee : FunctionFacts) (t : Tainted) : List (Nat × Sanitizers) :=
  (e.bindings.filterMap fun b => (t.carried? b.label).map fun s => (b.param, s)) ++
    match spreadMeet? e t with
    | none => []
    | some met =>
      ((List.range callee.params.length).drop callee.firstOpenParam).map fun p => (p, met)

theorem mem_inflows {e : CallEdge} {callee : FunctionFacts} {t : Tainted} {p : Nat}
    {s : Sanitizers} :
    (p, s) ∈ inflows e callee t ↔
      (∃ b ∈ e.bindings, b.param = p ∧ t.carried? b.label = some s) ∨
        (callee.firstOpenParam ≤ p ∧ p < callee.params.length ∧ spreadMeet? e t = some s) := by
  have hdrop : p ∈ (List.range callee.params.length).drop callee.firstOpenParam ↔
      callee.firstOpenParam ≤ p ∧ p < callee.params.length := by
    rw [List.mem_drop_iff_getElem]
    constructor
    · rintro ⟨i, hi, rfl⟩
      rw [List.length_range] at hi
      rw [List.getElem_range]
      omega
    · rintro ⟨hfirst, hp⟩
      refine ⟨p - callee.firstOpenParam, ?_, ?_⟩
      · rw [List.length_range]; omega
      · rw [List.getElem_range]; omega
  have hbound : (p, s) ∈ (e.bindings.filterMap fun b =>
      (t.carried? b.label).map fun s => (b.param, s)) ↔
      ∃ b ∈ e.bindings, b.param = p ∧ t.carried? b.label = some s := by
    rw [List.mem_filterMap]
    refine exists_congr fun b => and_congr_right fun _ => ?_
    rw [Option.map_eq_some_iff]
    constructor
    · rintro ⟨s', hs, e⟩
      cases e
      exact ⟨rfl, hs⟩
    · rintro ⟨rfl, hs⟩
      exact ⟨s, hs, rfl⟩
  rw [inflows, List.mem_append, hbound]
  refine or_congr_right ?_
  cases h : spreadMeet? e t with
  | none => simp
  | some met =>
    rw [List.mem_map]
    constructor
    · rintro ⟨q, hq, e⟩
      cases e
      exact ⟨(hdrop.mp hq).1, (hdrop.mp hq).2, rfl⟩
    · rintro ⟨hfirst, hp, e⟩
      cases e
      exact ⟨p, hdrop.mpr ⟨hfirst, hp⟩, rfl⟩

/-- **What arrives at a callee is what the edge taints, in turn.** -/
theorem arriving_tainted (e : CallEdge) (callee : FunctionFacts) (t : Tainted) :
    (arriving e callee t).tainted = Tainted.taintParams ∅ (inflows e callee t) := by
  have hbound : ∀ (bs : List Binding) (f : Inflow),
      (bs.foldl (Inflow.addBinding t) f).tainted = f.tainted.taintParams
        (bs.filterMap fun b => (t.carried? b.label).map fun s => (b.param, s)) := by
    intro bs
    induction bs with
    | nil => exact fun _ => rfl
    | cons b bs ih =>
      intro f
      rw [List.foldl_cons, ih, Inflow.addBinding, List.filterMap_cons]
      cases t.carried? b.label <;> rfl
  have hlanding : (e.unbound.filter fun l => (t.carried? l).isSome).filterMap t.carried? =
      e.unbound.filterMap t.carried? := by
    rw [List.filterMap_filter]
    congr 1
    funext l
    cases t.carried? l <;> rfl
  rw [arriving, inflows, spreadMeet?]
  split
  · rename_i hd
    rw [Inflow.addSpread]
    dsimp only
    rw [hlanding]
    cases e.unbound.filterMap t.carried? with
    | nil =>
      rw [Inflow.ofBindings, hbound]
      simp [meet?, Inflow.empty]
    | cons s l =>
      dsimp only [meet?]
      rw [Inflow.ofBindings, hbound, Tainted.taintParams, Tainted.taintParams, List.foldl_append,
        List.foldl_map]
      rfl
  · rw [Inflow.ofBindings, hbound]
    simp [Inflow.empty]

/-- Whether an edge brings a label to a parameter of the callee: an argument with this label is bound
to it or, in a spread call, stays unbound, and the parameter is not the receiver. -/
def CallEdge.Brings (e : CallEdge) (callee : FunctionFacts) (l : Label) (p : Nat) : Prop :=
  ⟨p, l⟩ ∈ e.bindings ∨
    (e.dynamic = true ∧ l ∈ e.unbound ∧ callee.firstOpenParam ≤ p ∧ p < callee.params.length)

/-! ## 5. Flow steps -/

/-- How data at an origin of a function crosses an edge, down into the callee or up to the caller:
the label it goes through, the function it enters and its origin there. -/
inductive FlowStep (g : CallGraph) (f : FunctionFacts) (o : Origin) :
    CallEdge → Direction → Label → FunctionFacts → Origin → Prop where
  /-- Down, in an argument that is bound to a parameter. -/
  | bound {e : CallEdge} {callee : FunctionFacts} {b : Binding} (he : e ∈ g.edges)
      (hcaller : e.caller = f.id) (hcallee : g.facts? e.callee = some callee)
      (hb : b ∈ e.bindings) (ho : o ∈ b.label.origins) :
      FlowStep g f o e .down b.label callee (.param b.param)
  /-- Down, in an unbound argument of a spread call, into any parameter but the receiver. -/
  | spread {e : CallEdge} {callee : FunctionFacts} {l : Label} {p : Nat} (he : e ∈ g.edges)
      (hcaller : e.caller = f.id) (hcallee : g.facts? e.callee = some callee)
      (hd : e.dynamic = true) (hl : l ∈ e.unbound) (ho : o ∈ l.origins)
      (hfirst : callee.firstOpenParam ≤ p) (hp : p < callee.params.length) :
      FlowStep g f o e .down l callee (.param p)
  /-- Up, in what the function returns, unless it came from one of its own parameters. -/
  | returned {e : CallEdge} {caller : FunctionFacts} (he : e ∈ g.edges)
      (hcallee : e.callee = f.id) (hcaller : g.facts? e.caller = some caller)
      (ho : o ∈ f.returns.origins) (hparam : o.isParam = false) :
      FlowStep g f o e .up f.returns caller (.call e.site)

section Step

variable {g : CallGraph} {f callee : FunctionFacts} {e : CallEdge} {l : Label} {t : Tainted}
  {o o' : Origin} {s m : Sanitizers}

/-- Data that crossed an edge stands at no source. -/
theorem FlowStep.ne_source {dir : Direction} {f' : FunctionFacts}
    (h : FlowStep g f o e dir l f' o') (id : String) : o' ≠ .source id := by
  cases h <;> nofun

/-- What is common to everything that the edge brings to a parameter. -/
theorem arriving_get?_param (e : CallEdge) (callee : FunctionFacts) (t : Tainted) (p : Nat) :
    (arriving e callee t).tainted.get? (.param p) =
      meet? (((inflows e callee t).filter fun c => c.1 == p).map (·.2)) := by
  rw [arriving_tainted, Tainted.get?_taintParams]
  rfl

/-- An inflow arrives. -/
theorem arriving_of_mem_inflows {p : Nat} (h : (p, s) ∈ inflows e callee t) :
    ∃ m, (arriving e callee t).tainted.get? (.param p) = some m ∧ m ⊆ s := by
  rw [arriving_get?_param]
  refine meet?_of_mem (List.mem_map.mpr ⟨(p, s), List.mem_filter.mpr ⟨h, ?_⟩, rfl⟩)
  exact beq_self_eq_true p

/-- Whatever arrives is a parameter with an inflow. -/
theorem mem_inflows_of_arriving (h : (arriving e callee t).tainted.get? o' = some m) :
    ∃ p s, o' = .param p ∧ (p, s) ∈ inflows e callee t ∧ m ⊆ s := by
  have hparam : ∃ p, o' = .param p := by
    cases o' with
    | param p => exact ⟨p, rfl⟩
    | source id =>
      rw [arriving_tainted, Tainted.get?_taintParams_of_not_param _ _ (by simp)] at h
      cases h
    | call site =>
      rw [arriving_tainted, Tainted.get?_taintParams_of_not_param _ _ (by simp)] at h
      cases h
  obtain ⟨p, rfl⟩ := hparam
  rw [arriving_get?_param] at h
  obtain ⟨s, hs, hsub⟩ := exists_of_meet? h
  obtain ⟨⟨q, s⟩, hq, rfl⟩ := List.mem_map.mp hs
  obtain ⟨hin, hqp⟩ := List.mem_filter.mp hq
  have hqp : q = p := by simpa using hqp
  subst hqp
  exact ⟨q, s, rfl, hin, hsub⟩

/-- **What an edge brings to a parameter arrives there**, with no sanitizers beyond those of the
tainted origin and of the label. -/
theorem arriving_of_brings {p : Nat} (h : e.Brings callee l p) (ho : o ∈ l.origins)
    (hs : t.get? o = some s) :
    ∃ m, (arriving e callee t).tainted.get? (.param p) = some m ∧ m ⊆ s.union l.sanitizers := by
  obtain ⟨c, hc, hsub⟩ := Tainted.carried?_of_mem ho hs
  rcases h with hb | ⟨hd, hl, hfirst, hp⟩
  · have hin : (p, c) ∈ inflows e callee t := mem_inflows.mpr (Or.inl ⟨⟨p, l⟩, hb, rfl, hc⟩)
    obtain ⟨m, hm, hmc⟩ := arriving_of_mem_inflows hin
    exact ⟨m, hm, subset_trans hmc hsub⟩
  · obtain ⟨met, hmet, hmetc⟩ := meet?_of_mem (List.mem_filterMap.mpr ⟨l, hl, hc⟩)
    have hspread : spreadMeet? e t = some met := by
      rw [spreadMeet?, if_pos hd]
      exact hmet
    obtain ⟨m, hm, hmm⟩ := arriving_of_mem_inflows
      (mem_inflows.mpr (Or.inr ⟨hfirst, hp, hspread⟩))
    exact ⟨m, hm, subset_trans (subset_trans hmm hmetc) hsub⟩

/-- **Whatever arrives at a callee the edge brought to a parameter**, in a label with a tainted
origin. -/
theorem brings_of_arriving (h : (arriving e callee t).tainted.get? o' = some m) :
    ∃ p l, o' = .param p ∧ e.Brings callee l p ∧ ∃ o ∈ l.origins, ∃ s, t.get? o = some s ∧
      m ⊆ s.union l.sanitizers := by
  obtain ⟨p, c, rfl, hin, hmc⟩ := mem_inflows_of_arriving h
  rcases mem_inflows.mp hin with ⟨b, hb, rfl, hc⟩ | ⟨hfirst, hp, hspread⟩
  · obtain ⟨o, ho, s, hs, hsub⟩ := Tainted.exists_of_carried? hc
    exact ⟨b.param, b.label, rfl, Or.inl hb, o, ho, s, hs, subset_trans hmc hsub⟩
  · rw [spreadMeet?] at hspread
    split at hspread
    · rename_i hd
      obtain ⟨c', hc', hcc⟩ := exists_of_meet? hspread
      obtain ⟨l, hl, hcl⟩ := List.mem_filterMap.mp hc'
      obtain ⟨o, ho, s, hs, hsub⟩ := Tainted.exists_of_carried? hcl
      exact ⟨p, l, rfl, Or.inr ⟨hd, hl, hfirst, hp⟩, o, ho, s, hs,
        subset_trans (subset_trans hmc hcc) hsub⟩
    · cases hspread

/-- **What a flow step carries down arrives**, with no other sanitizers. -/
theorem arriving_of_step (h : FlowStep g f o e .down l callee o') (hs : t.get? o = some s) :
    ∃ m, (arriving e callee t).tainted.get? o' = some m ∧ m ⊆ s.union l.sanitizers := by
  cases h with
  | bound he hcaller hcallee hb ho => exact arriving_of_brings (Or.inl hb) ho hs
  | spread he hcaller hcallee hd hl ho hfirst hp =>
    exact arriving_of_brings (Or.inr ⟨hd, hl, hfirst, hp⟩) ho hs

/-- **Whatever arrives was carried down by a flow step**, through a label and from a tainted origin
that together have at least its sanitizers. -/
theorem step_of_arriving (he : e ∈ g.edges) (hcaller : e.caller = f.id)
    (hcallee : g.facts? e.callee = some callee)
    (h : (arriving e callee t).tainted.get? o' = some m) :
    ∃ o l s, FlowStep g f o e .down l callee o' ∧ t.get? o = some s ∧
      m ⊆ s.union l.sanitizers := by
  obtain ⟨p, l, rfl, hbrings, o, ho, s, hs, hsub⟩ := brings_of_arriving h
  rcases hbrings with hb | ⟨hd, hl, hfirst, hp⟩
  · exact ⟨o, l, s, .bound he hcaller hcallee hb ho, hs, hsub⟩
  · exact ⟨o, l, s, .spread he hcaller hcallee hd hl ho hfirst hp, hs, hsub⟩

/-- **What a flow step carries up is handed back**, with no other sanitizers. -/
theorem returned?_of_step {caller : FunctionFacts} (h : FlowStep g f o e .up l caller o')
    (hs : t.get? o = some s) :
    l = f.returns ∧ o' = .call e.site ∧
      ∃ m, returned? f t = some m ∧ m ⊆ s.union l.sanitizers := by
  cases h with
  | returned he hcallee hcaller ho hparam =>
    have hmem : o ∈ f.returns.origins.toList.filter fun o => !o.isParam :=
      List.mem_filter.mpr ⟨ho, by rw [hparam]; rfl⟩
    obtain ⟨c, hc, hsub⟩ := Tainted.common?_of_mem hmem hs
    refine ⟨rfl, rfl, c.union f.returns.sanitizers, ?_, SortedSet.union_mono_left _ hsub⟩
    rw [returned?, hc]
    rfl

/-- **Whatever is handed back was carried up by a flow step.** -/
theorem step_of_returned? {caller : FunctionFacts} (he : e ∈ g.edges) (hcallee : e.callee = f.id)
    (hcaller : g.facts? e.caller = some caller) (h : returned? f t = some m) :
    ∃ o s, FlowStep g f o e .up f.returns caller (.call e.site) ∧ t.get? o = some s ∧
      m ⊆ s.union f.returns.sanitizers := by
  obtain ⟨c, hc, rfl⟩ := Option.map_eq_some_iff.mp h
  obtain ⟨o, ho, s, hs, hsub⟩ := Tainted.exists_of_common? hc
  obtain ⟨ho, hparam⟩ := List.mem_filter.mp ho
  exact ⟨o, s, .returned he hcallee hcaller ho (by simpa using hparam), hs,
    SortedSet.union_mono_left _ hsub⟩

end Step

/-! ## 6. Flows -/

/-- A flow step as part of a path: the edge, the way it was taken and the label that was crossed. -/
structure Crossing where
  edge : CallEdge
  direction : Direction
  label : Label

/-- Whether a sanitizer stands on some label that was crossed. -/
def AppliedOn (path : List Crossing) (name : String) : Prop :=
  ∃ c ∈ path, name ∈ c.label.sanitizers

theorem appliedOn_concat {path : List Crossing} {c : Crossing} {name : String} :
    AppliedOn (path ++ [c]) name ↔ AppliedOn path name ∨ name ∈ c.label.sanitizers := by
  simp [AppliedOn, or_and_right, exists_or]

/-- A chain of flow steps from a source of a function, with the function and the origin to which it
leads. -/
inductive Flow (g : CallGraph) (f : FunctionFacts) (source : String) :
    List Crossing → FunctionFacts → Origin → Prop where
  | start : Flow g f source [] f (.source source)
  | step {path : List Crossing} {f₁ f₂ : FunctionFacts} {o₁ o₂ : Origin} {e : CallEdge}
      {dir : Direction} {l : Label} (h : Flow g f source path f₁ o₁)
      (hstep : FlowStep g f₁ o₁ e dir l f₂ o₂) :
      Flow g f source (path ++ [⟨e, dir, l⟩]) f₂ o₂

end TaintFlow
