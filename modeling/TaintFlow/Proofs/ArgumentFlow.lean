import TaintFlow.Proofs.CallResults
import TaintFlow.Proofs.Moves

/-!
# Arguments and parameters, forwards and backwards

Which argument of a call reaches which parameter of the callee is asked in two places. The search
asks forwards: from tainted arguments, over the edge of the call, into parameters (`flowInto`). A
summary asks backwards: from a returned parameter to the arguments that come out of the call again
(`returnedThrough`). Receivers, variadic parameters, keywords and spread arguments matter to both, and
a call on which they differ would lose flows through wrappers only.

Both are tied to the same relation `Reaches` between the places of arguments and parameters: the edge
of a call brings to a parameter the labels of the arguments that reach it (`brings_bindCall_iff`). So
an origin comes out of a call exactly if the search, started from that origin, carries it into a
parameter that the callee returns (`handed_back_iff_carried_in`).
-/

namespace TaintFlow

section OneCall

variable {caller : FunctionId} {callee : FunctionFacts} {site : CallSite} {offset index : Nat}

/-- **The edge of a call brings to a parameter what reaches it.** -/
theorem brings_bindCall_iff {p : Nat} (hp : p < callee.params.length) {l : Label} :
    (bindCall caller index site callee offset).Brings callee l p ↔
      ∃ a ∈ site.args, Reaches callee site.dynamic offset a.position p ∧ a.label = l := by
  show ⟨p, l⟩ ∈ boundArgs site.args callee offset ∨ (site.dynamic = true ∧
    l ∈ unboundArgs site.args callee offset ∧ callee.firstOpenParam ≤ p ∧ _) ↔ _
  rw [mem_boundArgs, mem_unboundArgs]
  constructor
  · rintro (⟨a, ha, hpos, rfl⟩ | ⟨hd, ⟨a, ha, hpos, rfl⟩, hfirst, _⟩)
    · exact ⟨a, ha, Or.inl hpos, rfl⟩
    · exact ⟨a, ha, Or.inr ⟨hpos, hd, hfirst⟩, rfl⟩
  · rintro ⟨a, ha, hpos | ⟨hpos, hd, hfirst⟩, rfl⟩
    · exact Or.inl ⟨a, ha, hpos, rfl⟩
    · exact Or.inr ⟨hd, ⟨a, ha, hpos, rfl⟩, hfirst, hp⟩

/-- Where only one origin is tainted, without sanitizers, a parameter is tainted by an edge if an
argument with this origin reaches it; what covers everything stands on no argument, so none is
dropped. -/
theorem flowInto_contains_iff {registry : Registry} {p : Nat} (hp : p < callee.params.length)
    {o : Origin} (hopen : ∀ a ∈ site.args, ∀ name ∈ a.label.sanitizers,
      registry.coversAll name = false) :
    (flowInto registry (bindCall caller index site callee offset) callee
        (.singleton o ∅)).tainted.contains (.param p) = true ↔
      ∃ a ∈ site.args, Reaches callee site.dynamic offset a.position p ∧ o ∈ a.label.origins := by
  have hget : ∀ o', (SortedMap.singleton o (∅ : Sanitizers)).get? o' =
      if o' = o then some ∅ else none := by
    intro o'
    rw [SortedMap.get?_singleton]
    exact if_congr Std.LawfulEqOrd.compare_eq_iff_eq rfl rfl
  rw [SortedMap.contains, Option.isSome_iff_exists]
  simp only [PathState.flowInto_get?, Option.filter_eq_some_iff]
  constructor
  · rintro ⟨m, hm, _⟩
    obtain ⟨q, l, hq, hbrings, o', ho', s, hs, _⟩ := brings_of_arriving hm
    cases hq
    obtain ⟨a, ha, hreach, rfl⟩ := (brings_bindCall_iff hp).mp hbrings
    rw [hget] at hs
    split at hs
    · rename_i heq
      exact ⟨a, ha, hreach, heq ▸ ho'⟩
    · cases hs
  · rintro ⟨a, ha, hreach, ho⟩
    have hbrings : (bindCall caller index site callee offset).Brings callee a.label p :=
      (brings_bindCall_iff hp).mpr ⟨a, ha, hreach, rfl⟩
    obtain ⟨m, hm, hsub⟩ := arriving_of_brings (t := .singleton o ∅) hbrings ho
      (by rw [hget, if_pos rfl])
    refine ⟨m, hm, ?_⟩
    rw [Bool.not_eq_true', ← Bool.not_eq_true, Registry.neutralizes, SortedSet.any_eq_true]
    rintro ⟨name, hname, hall⟩
    rcases SortedSet.mem_union.mp (hsub name hname) with hnone | hin
    · exact absurd hnone SortedSet.not_mem_empty
    · rw [hopen a ha name hin] at hall
      cases hall

end OneCall

/-- **Summaries and the search agree on how arguments reach parameters.** For a call of a function,
with any arguments and any number of parameters taken by the receiver, and a summary that names
parameters of the function only: an origin other than the call itself is handed back by the call
exactly if the edge of the call carries it into a parameter that the summary returns, provided that no
sanitizer on the arguments covers everything. -/
theorem handed_back_iff_carried_in (registry : Registry) (caller : FunctionId) (site : CallSite)
    (callee : FunctionFacts) (offset index : Nat) (summary : Label)
    (hparams : ∀ p, .param p ∈ summary.origins → p < callee.params.length) (o : Origin)
    (ho : o ≠ .call index)
    (hopen : ∀ a ∈ site.args, ∀ name ∈ a.label.sanitizers, registry.coversAll name = false) :
    o ∈ (returnedThrough summary callee site.args site.dynamic offset index).origins ↔
      ∃ p, .param p ∈ summary.origins ∧
        (flowInto registry (bindCall caller index site callee offset) callee
          (.singleton o ∅)).tainted.contains (.param p) = true := by
  rw [mem_origins_returnedThrough, or_iff_left fun h => ho h.2]
  refine exists_congr fun p => and_congr_right fun hp => ?_
  rw [flowInto_contains_iff (hparams p hp) hopen]

/-! ## A method with a variadic parameter

`bag.add(x, *more)` for `def add(self, first, *rest)`, which returns `rest` and something of its own. -/

namespace SpreadCall

def method : FunctionFacts where
  id := ⟨"app", "Bag.add"⟩
  owner := some "Bag"
  line := 1
  params := ["self", "first", "*rest"]
  positionalParams := 2

def site : CallSite where
  callee := "self.add"
  location := ⟨⟨"app.py"⟩, 7, 4⟩
  args := [⟨.positional 0, .param 0⟩, ⟨.keyword "*", ⟨.singleton (.call 0), .singleton "html.escape"⟩⟩]
  dynamic := true
  role := none
  result := .clean

def summary : Label := (Label.param 2).combine (.source "input")

end SpreadCall

theorem spread_carried_in :
    Origin.call 0 ∈ (returnedThrough SpreadCall.summary SpreadCall.method SpreadCall.site.args true 1
        3).origins ∧
      ∃ p, .param p ∈ SpreadCall.summary.origins ∧
        (flowInto .builtin (bindCall ⟨"app", "Bag.fill"⟩ 3 SpreadCall.site SpreadCall.method 1)
          SpreadCall.method (.singleton (.call 0) ∅)).tainted.contains (.param p) = true := by
  have hparams : ∀ p, .param p ∈ SpreadCall.summary.origins → p < 3 := by
    intro p hp
    have hp : p = 2 := by simpa [SpreadCall.summary, Label.mem_origins_combine, Label.param,
      Label.source, Label.mem_origins_ofOrigin] using hp
    omega
  have hopen : ∀ a ∈ SpreadCall.site.args, ∀ name ∈ a.label.sanitizers,
      Registry.builtin.coversAll name = false := by
    decide +kernel
  have hout : Origin.call 0 ∈ (returnedThrough SpreadCall.summary SpreadCall.method
      SpreadCall.site.args true 1 3).origins := by decide
  exact ⟨hout, (handed_back_iff_carried_in .builtin _ SpreadCall.site _ 1 3 _ hparams _ (by decide)
    hopen).mp hout⟩

end TaintFlow
