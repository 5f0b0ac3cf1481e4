import Mathlib.Data.List.Forall2
import TaintFlow.Binding

/-!
# How a call divides its arguments

The parameters of a function share one row of indices: a receiver, positional parameters, a `*`
parameter, parameters by keyword alone and a `**` parameter. Each argument of a call is bound to at most
one of them, and the others stay unbound. What is said here of one argument (`BindsTo`) is that it is
bound within the row (`BindsTo.lt_params`), never to a parameter that the receiver takes
(`BindsTo.offset_le`), and not at all if it is a spread one (`BindsTo.not_spread`).

Positional arguments keep apart, unless they are collected by the `*` parameter
(`BindsTo.param_eq_iff`). The `*` parameter is looked for in the whole row and may stand at the place of
a positional one; what is bound there may then have come from two places (`rest_shares_place`).

For all arguments of a call together, the bound and the unbound ones are two parts of their list, each
in its order (`arguments_divided`).
-/

namespace TaintFlow

/-! ## 1. Two parts of a list -/

/-- Whether a list is made of two parts, each of them in its order. -/
inductive Interleaves {α : Type} : (first second whole : List α) → Prop where
  | nil : Interleaves [] [] []
  | first {a : α} {l m w : List α} (h : Interleaves l m w) : Interleaves (a :: l) m (a :: w)
  | second {a : α} {l m w : List α} (h : Interleaves l m w) : Interleaves l (a :: m) (a :: w)

theorem Interleaves.perm {α : Type} {l m w : List α} (h : Interleaves l m w) : (l ++ m).Perm w := by
  induction h with
  | nil => exact .nil
  | first _ ih => exact ih.cons _
  | second _ ih => exact List.perm_middle.trans (ih.cons _)

/-! ## 2. One argument -/

/-- Whether an argument gives a binding of a call: it is bound to this parameter with its label. -/
structure BindsTo (callee : FunctionFacts) (offset : Nat) (a : Argument) (b : Binding) : Prop where
  param : boundParam? callee offset a.position = some b.param
  label : b.label = a.label

section OneArgument

variable {callee : FunctionFacts} {offset : Nat} {a a' : Argument} {b b' : Binding}

/-- The ways to a parameter: by the place of the argument, by its name, or as what a variadic parameter
collects. -/
theorem BindsTo.ways (h : BindsTo callee offset a b) :
    (∃ i, a.position = .positional i ∧ b.param = i + offset ∧ b.param < callee.positionalParams) ∨
    (∃ i, a.position = .positional i ∧ callee.positionalParams ≤ i + offset ∧
      callee.varPositional? = some b.param) ∨
    ∃ name, a.position = .keyword name ∧ a.position.isSpread = false ∧
      (callee.paramIndex? name = some b.param ∧ offset ≤ b.param ∨
        callee.varKeyword? = some b.param) := by
  have hparam := h.param
  cases hpos : a.position with
  | positional i =>
    rw [hpos, boundParam?] at hparam
    by_cases hplace : i + offset < callee.positionalParams
    · rw [if_pos hplace] at hparam
      have hb : i + offset = b.param := Option.some.inj hparam
      exact Or.inl ⟨i, rfl, hb.symm, hb ▸ hplace⟩
    · rw [if_neg hplace] at hparam
      exact Or.inr (Or.inl ⟨i, rfl, by omega, hparam⟩)
  | keyword name =>
    rw [hpos, boundParam?] at hparam
    split at hparam
    · cases hparam
    · rename_i hspread
      refine Or.inr (Or.inr ⟨name, rfl, Bool.eq_false_iff.mpr hspread, ?_⟩)
      split at hparam
      · rename_i index hindex
        split at hparam
        · rename_i hle
          cases hparam
          exact Or.inl ⟨hindex, hle⟩
        · exact Or.inr hparam
      · exact Or.inr hparam

theorem lt_of_findIdx? {f : String → Bool} {p : Nat} (h : callee.params.findIdx? f = some p) :
    p < callee.params.length := by
  obtain ⟨hlt, _⟩ := List.findIdx?_eq_some_iff_getElem.mp h
  exact hlt

/-- A parameter that is no receiver does not stand first in a method. -/
theorem pos_of_findIdx? {f : String → Bool} (hself : f "self" = false) (hcls : f "cls" = false)
    (hreceiver : callee.hasReceiver = true) {p : Nat} (h : callee.params.findIdx? f = some p) :
    0 < p := by
  obtain ⟨hlt, hf, _⟩ := List.findIdx?_eq_some_iff_getElem.mp h
  refine Nat.pos_of_ne_zero fun hzero => ?_
  subst hzero
  have hhead : callee.params.head? = some callee.params[0] := List.head?_eq_getElem? ▸
    List.getElem?_eq_getElem hlt
  unfold FunctionFacts.hasReceiver at hreceiver
  rw [hhead] at hreceiver
  simp only [Bool.and_eq_true, Bool.or_eq_true, beq_iff_eq, Option.some.injEq] at hreceiver
  rcases hreceiver.2 with hname | hname
  · rw [hname, hself] at hf
    cases hf
  · rw [hname, hcls] at hf
    cases hf

/-- **An argument is bound to a parameter of the function.** -/
theorem BindsTo.lt_params (h : BindsTo callee offset a b)
    (hplaces : callee.positionalParams ≤ callee.params.length) : b.param < callee.params.length := by
  rcases h.ways with ⟨_, _, _, hlt⟩ | ⟨_, _, _, hrest⟩ | ⟨_, _, _, ⟨hname, _⟩ | hrest⟩
  · omega
  · exact lt_of_findIdx? hrest
  · exact lt_of_findIdx? hname
  · exact lt_of_findIdx? hrest

/-- **An argument is never bound to the receiver.** -/
theorem BindsTo.offset_le (h : BindsTo callee offset a b)
    (hoffset : offset = 0 ∨ offset = 1 ∧ callee.hasReceiver = true) : offset ≤ b.param := by
  rcases hoffset with rfl | ⟨rfl, hreceiver⟩
  · exact Nat.zero_le _
  · rcases h.ways with ⟨i, _, hplace, _⟩ | ⟨_, _, _, hrest⟩ | ⟨_, _, _, ⟨_, hle⟩ | hrest⟩
    · omega
    · exact pos_of_findIdx? (by decide +kernel) (by decide +kernel) hreceiver hrest
    · exact hle
    · exact pos_of_findIdx? (by decide +kernel) (by decide +kernel) hreceiver hrest

theorem BindsTo.not_spread (h : BindsTo callee offset a b) : a.position.isSpread = false := by
  rcases h.ways with ⟨_, hpos, _⟩ | ⟨_, hpos, _⟩ | ⟨_, _, hspread, _⟩
  · rw [hpos]
    rfl
  · rw [hpos]
    rfl
  · exact hspread

/-- A positional argument is bound at its place or collected. -/
theorem BindsTo.positional (h : BindsTo callee offset a b) {i : Nat}
    (hpos : a.position = .positional i) :
    b.param = i + offset ∧ b.param < callee.positionalParams ∨
      callee.positionalParams ≤ i + offset ∧ callee.varPositional? = some b.param := by
  rcases h.ways with ⟨j, hj, hplace, hlt⟩ | ⟨j, hj, hbeyond, hrest⟩ | ⟨_, hname, _⟩
  · cases hpos.symm.trans hj
    exact Or.inl ⟨hplace, hlt⟩
  · cases hpos.symm.trans hj
    exact Or.inr ⟨hbeyond, hrest⟩
  · cases hpos.symm.trans hname

/-- A keyword argument is bound to the parameter of its name or collected. -/
theorem BindsTo.keyword (h : BindsTo callee offset a b) {name : String}
    (hpos : a.position = .keyword name) :
    callee.params[b.param]? = some name ∨ callee.varKeyword? = some b.param := by
  rcases h.ways with ⟨_, hi, _⟩ | ⟨_, hi, _⟩ | ⟨name', hname, _, ⟨hindex, _⟩ | hrest⟩
  · cases hpos.symm.trans hi
  · cases hpos.symm.trans hi
  · cases hpos.symm.trans hname
    obtain ⟨hlt, hsame, _⟩ := List.findIdx?_eq_some_iff_getElem.mp hindex
    left
    rw [List.getElem?_eq_getElem hlt, beq_iff_eq.mp hsame]
  · exact Or.inr hrest

/-- Why an argument is not bound: it is a spread one, or it has neither a place or a parameter of its
name nor a variadic parameter that collects it. -/
def Argument.IsSpare (callee : FunctionFacts) (offset : Nat) (a : Argument) : Prop :=
  match a.position with
  | .positional i => callee.positionalParams ≤ i + offset ∧ callee.varPositional? = none
  | .keyword name => a.position.isSpread = true ∨
    (∀ p, callee.paramIndex? name = some p → p < offset) ∧ callee.varKeyword? = none

theorem isSpare_of_unbound (h : boundParam? callee offset a.position = none) :
    a.IsSpare callee offset := by
  unfold Argument.IsSpare
  cases hpos : a.position with
  | positional i =>
    rw [hpos, boundParam?] at h
    by_cases hplace : i + offset < callee.positionalParams
    · rw [if_pos hplace] at h
      cases h
    · rw [if_neg hplace] at h
      exact ⟨Nat.le_of_not_lt hplace, h⟩
  | keyword name =>
    rw [hpos, boundParam?] at h
    by_cases hspread : (name == "*" || name == "**") = true
    · exact Or.inl hspread
    · rw [if_neg hspread] at h
      right
      cases hindex : callee.paramIndex? name with
      | none =>
        rw [hindex] at h
        refine ⟨fun p hp => ?_, h⟩
        cases hp
      | some index =>
        rw [hindex] at h
        by_cases hle : offset ≤ index
        · exact absurd h (by simp [hle])
        · refine ⟨fun p hp => ?_, by simpa [hle] using h⟩
          cases hp
          omega

/-- **Positional arguments share a parameter only if they share a position or are collected.** -/
theorem BindsTo.param_eq_iff (h : BindsTo callee offset a b) (h' : BindsTo callee offset a' b')
    {i j : Nat} (hi : a.position = .positional i) (hj : a'.position = .positional j) :
    b.param = b'.param ↔ i = j ∨
      callee.varPositional? = some b.param ∧ callee.varPositional? = some b'.param := by
  constructor
  · intro hsame
    rcases h.positional hi with ⟨hplace, _⟩ | ⟨_, hrest⟩
    · rcases h'.positional hj with ⟨hplace', _⟩ | ⟨_, hrest'⟩
      · left
        omega
      · exact Or.inr ⟨hsame ▸ hrest', hrest'⟩
    · exact Or.inr ⟨hrest, hsame ▸ hrest⟩
  · rintro (rfl | ⟨hrest, hrest'⟩)
    · have hparams : some b.param = some b'.param := by
        rw [← h.param, ← h'.param, hi, hj]
      exact Option.some.inj hparams
    · exact Option.some.inj (hrest.symm.trans hrest')

end OneArgument

/-! ## 3. All arguments -/

/-- How the arguments of a call are divided into those that are bound and those that are spare. -/
structure Division (args : List Argument) (callee : FunctionFacts) (offset : Nat)
    (bound spare : List Argument) : Prop where
  /-- Each argument is in one of the two parts, and each part is in the order of the call. -/
  parts : Interleaves bound spare args
  /-- The bindings carry the labels of the bound arguments, one by one. -/
  boundLabels : (boundArgs args callee offset).map (·.label) = bound.map (·.label)
  /-- The unbound labels are those of the spare arguments, one by one. -/
  unboundLabels : unboundArgs args callee offset = spare.map (·.label)
  /-- A binding is to a parameter of the function that the receiver does not take. -/
  params : ∀ b ∈ boundArgs args callee offset, offset ≤ b.param ∧ b.param < callee.params.length
  /-- A spread argument is spare. -/
  spread : ∀ a ∈ bound, a.position.isSpread = false
  /-- A positional argument with a place among the positional parameters is bound there. -/
  places : ∀ x ∈ bound.zip (boundArgs args callee offset), ∀ i, x.1.position = .positional i →
    i + offset < callee.positionalParams → x.2.param = i + offset
  /-- A keyword argument is bound to the parameter of its name or to the `**` parameter. -/
  names : ∀ x ∈ bound.zip (boundArgs args callee offset), ∀ name, x.1.position = .keyword name →
    callee.params[x.2.param]? = some name ∨ callee.varKeyword? = some x.2.param
  /-- No argument is spare that could be bound. -/
  unbindable : ∀ a ∈ spare, a.IsSpare callee offset
  /-- Two positional arguments are bound to one parameter if they have one position, or if both are
  collected by the `*` parameter. -/
  apart : ∀ x ∈ bound.zip (boundArgs args callee offset),
    ∀ y ∈ bound.zip (boundArgs args callee offset),
    ∀ i j, x.1.position = .positional i → y.1.position = .positional j →
      (x.2.param = y.2.param ↔ i = j ∨
        callee.varPositional? = some x.2.param ∧ callee.varPositional? = some y.2.param)

/-- The bound arguments give the bindings, and the spare ones the unbound labels. -/
theorem exists_parts (args : List Argument) (callee : FunctionFacts) (offset : Nat) :
    ∃ bound spare, Interleaves bound spare args ∧
      List.Forall₂ (BindsTo callee offset) bound (boundArgs args callee offset) ∧
      (∀ a ∈ spare, boundParam? callee offset a.position = none) ∧
      unboundArgs args callee offset = spare.map (·.label) := by
  induction args with
  | nil => exact ⟨[], [], .nil, .nil, fun _ h => absurd h List.not_mem_nil, rfl⟩
  | cons a args ih =>
    obtain ⟨bound, spare, hparts, hbound, hspare, hlabels⟩ := ih
    rw [boundArgs, unboundArgs, List.filterMap_cons, List.filter_cons]
    cases hparam : boundParam? callee offset a.position with
    | some param =>
      exact ⟨a :: bound, spare, hparts.first, hbound.cons ⟨hparam, rfl⟩, hspare, hlabels⟩
    | none =>
      refine ⟨bound, a :: spare, hparts.second, hbound, ?_, congrArg (a.label :: ·) hlabels⟩
      intro a' ha'
      rcases List.mem_cons.mp ha' with rfl | ha'
      · exact hparam
      · exact hspare a' ha'

theorem map_label_boundArgs {callee : FunctionFacts} {offset : Nat} {bound : List Argument}
    {bindings : List Binding} (h : List.Forall₂ (BindsTo callee offset) bound bindings) :
    bindings.map (·.label) = bound.map (·.label) := by
  induction h with
  | nil => rfl
  | cons hb _ ih => rw [List.map_cons, List.map_cons, ih, hb.label]

/-- **A call divides its arguments into bound and unbound ones.** For every list of arguments and every
function whose positional parameters are among its parameters, with no parameter taken or the receiver
of a method: bound and unbound labels are the labels of the arguments, each once and in order; a binding
is to a parameter of the function behind those that are taken; spread arguments are unbound; and
positional arguments share a parameter exactly if they share a position or are both bound to the `*`
parameter. -/
theorem arguments_divided (args : List Argument) (callee : FunctionFacts) (offset : Nat)
    (hplaces : callee.positionalParams ≤ callee.params.length)
    (hoffset : offset = 0 ∨ offset = 1 ∧ callee.hasReceiver = true) :
    ∃ bound spare, Division args callee offset bound spare := by
  obtain ⟨bound, spare, hparts, hbound, hspare, hlabels⟩ := exists_parts args callee offset
  have hbinds : ∀ x ∈ bound.zip (boundArgs args callee offset), BindsTo callee offset x.1 x.2 :=
    fun x hx => (List.forall₂_iff_zip.mp hbound).2 hx
  refine ⟨bound, spare, ?_⟩
  refine
    { parts := hparts
      boundLabels := map_label_boundArgs hbound
      unboundLabels := hlabels
      params := ?_
      spread := ?_
      places := ?_
      names := fun x hx name hname => (hbinds x hx).keyword hname
      unbindable := fun a ha => isSpare_of_unbound (hspare a ha)
      apart := fun x hx y hy i j hi hj => (hbinds x hx).param_eq_iff (hbinds y hy) hi hj }
  · intro b hb
    obtain ⟨a, _, hab⟩ := List.mem_filterMap.mp hb
    obtain ⟨p, hp, rfl⟩ := Option.map_eq_some_iff.mp hab
    have hbind : BindsTo callee offset a ⟨p, a.label⟩ := ⟨hp, rfl⟩
    exact ⟨hbind.offset_le hoffset, hbind.lt_params hplaces⟩
  · have hboth := hbound.imp fun a b h => And.intro h.not_spread h
    exact ((List.forall₂_and_left _ _).mp hboth).1
  · intro x hx i hi hplace
    rcases (hbinds x hx).positional hi with ⟨hparam, _⟩ | ⟨hbeyond, _⟩
    · exact hparam
    · omega

/-! ## 4. A method with all kinds of parameters

`bag.add(a, b, c, key=d, self=e, *more)` for `def add(self, first, *rest, key, **options)`. -/

namespace AllKinds

def method : FunctionFacts where
  id := ⟨"app", "Bag.add"⟩
  owner := some "Bag"
  line := 1
  params := ["self", "first", "*rest", "key", "**options"]
  positionalParams := 2

def args : List Argument :=
  [⟨.positional 0, .param 0⟩, ⟨.positional 1, .param 1⟩, ⟨.positional 2, .param 2⟩,
    ⟨.keyword "*", .param 5⟩, ⟨.keyword "key", .param 3⟩, ⟨.keyword "self", .param 4⟩]

end AllKinds

theorem all_kinds_divided :
    AllKinds.method.positionalParams ≤ AllKinds.method.params.length ∧
      AllKinds.method.hasReceiver = true ∧
      boundArgs AllKinds.args AllKinds.method 1 =
        [⟨1, .param 0⟩, ⟨2, .param 1⟩, ⟨2, .param 2⟩, ⟨3, .param 3⟩, ⟨4, .param 4⟩] ∧
      unboundArgs AllKinds.args AllKinds.method 1 = [.param 5] ∧
      ∃ bound spare, Division AllKinds.args AllKinds.method 1 bound spare := by
  have hplaces : AllKinds.method.positionalParams ≤ AllKinds.method.params.length := by decide
  have hreceiver : AllKinds.method.hasReceiver = true := by decide +kernel
  refine ⟨hplaces, hreceiver, by decide +kernel, by decide +kernel, ?_⟩
  exact arguments_divided AllKinds.args AllKinds.method 1 hplaces (Or.inr ⟨rfl, hreceiver⟩)

/-! ## 5. A `*` parameter among the positional ones

`gather(a, b)` where the `*` parameter of `gather` counts as positional: the first argument has its
place there, and the second is collected there. -/

namespace Gathering

def callee : FunctionFacts where
  id := ⟨"app", "gather"⟩
  line := 4
  params := ["*rest"]
  positionalParams := 1

def args : List Argument := [⟨.positional 0, .param 0⟩, ⟨.positional 1, .param 1⟩]

end Gathering

/-- Two positional arguments that are bound below the number of positional parameters may share a
parameter without sharing a position. -/
theorem rest_shares_place :
    Gathering.callee.positionalParams ≤ Gathering.callee.params.length ∧
      boundArgs Gathering.args Gathering.callee 0 = [⟨0, .param 0⟩, ⟨0, .param 1⟩] ∧
      unboundArgs Gathering.args Gathering.callee 0 = [] ∧
      ¬ ∀ x ∈ Gathering.args.zip (boundArgs Gathering.args Gathering.callee 0),
        ∀ y ∈ Gathering.args.zip (boundArgs Gathering.args Gathering.callee 0),
        ∀ i j, x.1.position = .positional i → y.1.position = .positional j →
          x.2.param < Gathering.callee.positionalParams →
          y.2.param < Gathering.callee.positionalParams → (x.2.param = y.2.param ↔ i = j) := by
  have hbound : boundArgs Gathering.args Gathering.callee 0 = [⟨0, .param 0⟩, ⟨0, .param 1⟩] := by
    decide +kernel
  refine ⟨by decide, hbound, by decide +kernel, fun h => ?_⟩
  rw [hbound] at h
  have hfirst := h (⟨.positional 0, .param 0⟩, ⟨0, .param 0⟩) List.mem_cons_self
    (⟨.positional 1, .param 1⟩, ⟨0, .param 1⟩) (List.mem_cons_of_mem _ List.mem_cons_self)
    0 1 rfl rfl (by decide) (by decide)
  exact absurd (hfirst.mp rfl) (by decide)

end TaintFlow
