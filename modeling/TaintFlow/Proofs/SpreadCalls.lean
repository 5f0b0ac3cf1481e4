import TaintFlow.Proofs.Moves

/-!
# Taint in spread calls

A spread argument fills an unknown number of parameters, so any parameter but the receiver may
get what a call with one carries. What stays unbound is indeed brought to each of them, but an
argument with a position of its own is bound to one parameter as if nothing were spread before it.

Everything that an edge brings to a parameter meets there, and of the sanitizers on it only the common
ones are left (`mem_arriving_iff`). So a parameter is tainted exactly if some taint is brought to it
and no sanitizer that covers everything is on all of it (`spread_call_taints`). For an unbound argument
this is every open parameter; a tainted argument that is bound after a star reaches no other
parameter than its own (`argument_after_star_fixed`).
-/

namespace TaintFlow

open SortedSet (meet? meet?_of_mem mem_meet?)

/-! ## 1. What meets in a parameter -/

section Meeting

variable {e : CallEdge} {callee : FunctionFacts} {t : Tainted} {p : Nat}

/-- The sets that meet in a parameter. -/
theorem mem_meeting {s : Sanitizers} :
    s ∈ ((inflows e callee t).filter fun c => c.1 == p).map (·.2) ↔
      (p, s) ∈ inflows e callee t := by
  rw [List.mem_map]
  constructor
  · rintro ⟨⟨q, s'⟩, hq, rfl⟩
    obtain ⟨hin, hqp⟩ := List.mem_filter.mp hq
    have hqp : q = p := by simpa using hqp
    exact hqp ▸ hin
  · exact fun h => ⟨(p, s), List.mem_filter.mpr ⟨h, beq_self_eq_true p⟩, rfl⟩

/-- A name is on all that flows into a parameter if it is on every label that is brought there and
carries taint. -/
theorem forall_inflows_iff {name : String} :
    (∀ s, (p, s) ∈ inflows e callee t → name ∈ s) ↔
      ∀ l, e.Brings callee l p → ∀ m, t.carried? l = some m → name ∈ m := by
  constructor
  · rintro h l (hb | ⟨hd, hl, hfirst, hp⟩) m hm
    · exact h m (mem_inflows.mpr (Or.inl ⟨⟨p, l⟩, hb, rfl, hm⟩))
    · obtain ⟨met, hmet, hsub⟩ := meet?_of_mem (List.mem_filterMap.mpr ⟨l, hl, hm⟩)
      have hspread : spreadMeet? e t = some met := by
        rw [spreadMeet?, if_pos hd]
        exact hmet
      exact hsub name (h met (mem_inflows.mpr (Or.inr ⟨hfirst, hp, hspread⟩)))
  · intro h s hs
    rcases mem_inflows.mp hs with ⟨b, hb, rfl, hc⟩ | ⟨hfirst, hp, hspread⟩
    · exact h b.label (Or.inl hb) s hc
    · rw [spreadMeet?] at hspread
      split at hspread
      · rename_i hd
        refine (mem_meet? hspread).mpr fun c hc => ?_
        obtain ⟨l, hl, hcl⟩ := List.mem_filterMap.mp hc
        exact h l (Or.inr ⟨hd, hl, hfirst, hp⟩) c hcl
      · cases hspread

/-- **What arrives at a parameter has the sanitizers that are on all taint brought there.** -/
theorem mem_arriving_iff {m : Sanitizers} {name : String}
    (h : (arriving e callee t).tainted.get? (.param p) = some m) :
    name ∈ m ↔ ∀ l, e.Brings callee l p → ∀ c, t.carried? l = some c → name ∈ c := by
  rw [arriving_get?_param] at h
  rw [mem_meet? h, ← forall_inflows_iff]
  simp only [mem_meeting]

/-- Something arrives at a parameter if some taint is brought there. -/
theorem arriving_isSome_iff :
    (∃ m, (arriving e callee t).tainted.get? (.param p) = some m) ↔
      ∃ l m, e.Brings callee l p ∧ t.carried? l = some m := by
  constructor
  · rintro ⟨m, hm⟩
    obtain ⟨q, l, hq, hbrings, o, ho, s, hs, _⟩ := brings_of_arriving hm
    cases hq
    obtain ⟨c, hc, _⟩ := Tainted.carried?_of_mem ho hs
    exact ⟨l, c, hbrings, hc⟩
  · rintro ⟨l, m, hbrings, hm⟩
    obtain ⟨o, ho, s, hs, _⟩ := Tainted.exists_of_carried? hm
    obtain ⟨m', hm', _⟩ := arriving_of_brings hbrings ho hs
    exact ⟨m', hm'⟩

end Meeting

/-! ## 2. Which parameters are tainted -/

theorem Registry.neutralizes_eq_false_iff {registry : Registry} {m : Sanitizers} :
    registry.neutralizes m = false ↔ ∀ name, registry.coversAll name = true → ¬ name ∈ m := by
  rw [← Bool.not_eq_true, neutralizes, SortedSet.any_eq_true]
  constructor
  · exact fun h name hall hname => h ⟨name, hname, hall⟩
  · rintro h ⟨name, hname, hall⟩
    exact h name hall hname

/-- Whether labels that meet in a parameter leave it tainted: some of them carries taint, and each
sanitizer that covers everything is missing on one that does. -/
structure Exposed (registry : Registry) (t : Tainted) (meeting : Label → Prop) : Prop where
  tainted : ∃ l m, meeting l ∧ t.carried? l = some m
  unprotected : ∀ name, registry.coversAll name = true →
    ∃ l m, meeting l ∧ t.carried? l = some m ∧ ¬ name ∈ m

/-- One label that is not protected leaves a parameter tainted, whatever meets it there. -/
theorem exposed_of_carried {registry : Registry} {t : Tainted} {meeting : Label → Prop} {l : Label}
    {m : Sanitizers} (hl : meeting l) (hm : t.carried? l = some m)
    (hopen : registry.neutralizes m = false) : Exposed registry t meeting :=
  ⟨⟨l, m, hl, hm⟩, fun name hall =>
    ⟨l, m, hl, hm, Registry.neutralizes_eq_false_iff.mp hopen name hall⟩⟩

/-- **An edge taints the parameters that are exposed by what it brings there.** -/
theorem flowInto_contains_iff_exposed (registry : Registry) (e : CallEdge) (callee : FunctionFacts)
    (t : Tainted) (p : Nat) :
    (flowInto registry e callee t).tainted.contains (.param p) = true ↔
      Exposed registry t fun l => e.Brings callee l p := by
  rw [SortedMap.contains, Option.isSome_iff_exists]
  simp only [PathState.flowInto_get?, Option.filter_eq_some_iff, Bool.not_eq_true',
    Registry.neutralizes_eq_false_iff]
  constructor
  · rintro ⟨m, hm, hopen⟩
    refine ⟨arriving_isSome_iff.mp ⟨m, hm⟩, fun name hall => ?_⟩
    by_contra hnone
    refine hopen name hall ((mem_arriving_iff hm).mpr fun l hl c hc => ?_)
    by_contra hname
    exact hnone ⟨l, c, hl, hc, hname⟩
  · rintro ⟨htainted, hopen⟩
    obtain ⟨m, hm⟩ := arriving_isSome_iff.mpr htainted
    refine ⟨m, hm, fun name hall hname => ?_⟩
    obtain ⟨l, c, hl, hc, hmissing⟩ := hopen name hall
    exact hmissing ((mem_arriving_iff hm).mp hname l hl c hc)

/-- **What a spread call taints**: every parameter but the receiver, if an unbound argument carries
taint that is not protected against everything. In general such a parameter is tainted if and only if
it is exposed by the unbound arguments and those that are bound to it. -/
theorem spread_call_taints (registry : Registry) (e : CallEdge) (callee : FunctionFacts)
    (t : Tainted) (hdynamic : e.dynamic = true) :
    (∀ l ∈ e.unbound, ∀ m, t.carried? l = some m → registry.neutralizes m = false →
      ∀ p, callee.firstOpenParam ≤ p → p < callee.params.length →
        (flowInto registry e callee t).tainted.contains (.param p) = true) ∧
    ∀ p, callee.firstOpenParam ≤ p → p < callee.params.length →
      ((flowInto registry e callee t).tainted.contains (.param p) = true ↔
        Exposed registry t fun l => l ∈ e.unbound ∨ ⟨p, l⟩ ∈ e.bindings) := by
  constructor
  · intro l hl m hm hopen p hfirst hp
    rw [flowInto_contains_iff_exposed]
    exact exposed_of_carried (Or.inr ⟨hdynamic, hl, hfirst, hp⟩) hm hopen
  · intro p hfirst hp
    have hmeeting : (fun l => e.Brings callee l p) =
        fun l => l ∈ e.unbound ∨ ⟨p, l⟩ ∈ e.bindings := by
      funext l
      rw [CallEdge.Brings, or_comm, and_iff_right hdynamic, and_iff_left ⟨hfirst, hp⟩]
    rw [flowInto_contains_iff_exposed, hmeeting]

namespace AfterStar

/-- `def run(host, command)` -/
def callee : FunctionFacts where
  id := ⟨"app", "run"⟩
  owner := none
  line := 4
  params := ["host", "command"]
  positionalParams := 2

/-- The edge of a call of `run` with these arguments. -/
def edge (args : List Argument) : CallEdge :=
  bindCall ⟨"app", "main"⟩ 0
    { callee := "run", location := ⟨⟨"app.py"⟩, 9, 4⟩, args, dynamic := true, role := none
      result := .clean } callee 0

/-- The command line is tainted. -/
def tainted : Tainted := .singleton (.source "sys.argv") ∅

end AfterStar

open AfterStar

/-- `run(*sys.argv)` taints both parameters. -/
theorem star_taints_both :
    (edge [⟨.keyword "*", .source "sys.argv"⟩]).dynamic = true ∧
    (flowInto .builtin (edge [⟨.keyword "*", .source "sys.argv"⟩]) callee tainted).tainted.contains
      (.param 0) = true ∧
    (flowInto .builtin (edge [⟨.keyword "*", .source "sys.argv"⟩]) callee tainted).tainted.contains
      (.param 1) = true := by
  have hopen := (spread_call_taints .builtin (edge [⟨.keyword "*", .source "sys.argv"⟩]) callee
    tainted rfl).1 (.source "sys.argv") (by decide) ∅ (by decide) (by decide)
  exact ⟨rfl, hopen 0 (by decide) (by decide), hopen 1 (by decide) (by decide)⟩

/-- **An argument after a star is taken for the first one**: in `run(*rest, sys.argv[1])` it may be
the command, but only the host is tainted. -/
theorem argument_after_star_fixed :
    (edge [⟨.keyword "*", .clean⟩, ⟨.positional 0, .source "sys.argv"⟩]).dynamic = true ∧
    (∃ b ∈ (edge [⟨.keyword "*", .clean⟩, ⟨.positional 0, .source "sys.argv"⟩]).bindings,
      tainted.carried? b.label = some ∅ ∧ Registry.builtin.neutralizes ∅ = false) ∧
    [0, 1].map (fun p => (flowInto .builtin
        (edge [⟨.keyword "*", .clean⟩, ⟨.positional 0, .source "sys.argv"⟩]) callee
        tainted).tainted.contains (.param p)) = [true, false] := by
  decide

end TaintFlow
