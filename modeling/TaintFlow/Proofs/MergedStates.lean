import TaintFlow.Proofs.CanonicalLabels
import TaintFlow.Proofs.MapLookup
import TaintFlow.TaintState

/-!
# States where branches meet

A taint state changes by assignments, by taint that is added, by sanitizers and where branches meet.
Each of these looks at entries one by one, so a property of labels that joins and sanitizers keep
(`Label.Stable`) holds of all entries of a state that was built from labels with it (`Holds.assign`,
`Holds.taintWeakly`, `Holds.sanitize`, `Holds.merge`). Being canonical and having origins is such a
property. It holds throughout every state that is formed from the empty one (`Formed.holds`), and then
a variable has no entry exactly if its label is clean: the labels of the variables say all about the
state (`ext_labelOf`).

Where branches meet, a variable has the join of its labels on them (`isLUB_labelOf_merge`). So the label
of a variable after any number of branches is the least one above its labels on all of them, however
they are grouped (`Grouping.isLUB_labelOf_merged`), and the states are the same
(`merging_ignores_order_and_grouping`).
-/

namespace TaintFlow

/-- A property of labels that joins and applied sanitizers keep. -/
structure Label.Stable (P : Label → Prop) : Prop where
  combine : ∀ {a b : Label}, P a → P b → P (a.combine b)
  sanitize : ∀ {l : Label} (name : String),
    P l → P { l with sanitizers := l.sanitizers.insert name }

namespace TaintState

variable {P : Label → Prop} {s t : TaintState} {l : Label}

/-! ## 1. Entries of a join -/

theorem get?_joinOnto (s : TaintState) (var v : String) (l : Label) :
    (s.joinOnto var l).get? v =
      if compare v var = .eq then some (((s.get? var).map (·.combine l)).getD l)
      else s.get? v := by
  rw [get?, joinOnto, SortedMap.get?_alter]
  unfold get?
  cases s.entries.get? var <;> rfl

/-- Joining ascending entries onto a state joins, at each variable, the one entry that it has. -/
theorem get?_foldl_joinOnto {l : List (String × Label)}
    (hl : l.Pairwise fun a b => compare a.1 b.1 = .lt) (s : TaintState) (v : String) :
    (l.foldl (fun s e => s.joinOnto e.1 e.2) s).get? v =
      (s.get? v).merge Label.combine ((l.find? fun e => compare v e.1 == .eq).map (·.2)) := by
  induction l generalizing s with
  | nil => cases h : s.get? v <;> simp [h]
  | cons e l ih =>
    obtain ⟨he, hl⟩ := List.pairwise_cons.mp hl
    rw [List.foldl_cons, ih hl, get?_joinOnto, SortedMap.find?_cons_entry]
    by_cases hv : compare v e.1 = .eq
    · have hv' : v = e.1 := Std.LawfulEqOrd.eq_of_compare hv
      rw [if_pos hv, if_pos hv, hv', SortedMap.find?_eq_none_of_lt he]
      cases s.get? e.1 <;> rfl
    · rw [if_neg hv, if_neg hv]

/-- **Where branches meet, a variable has the entries of both, joined.** -/
theorem get?_merge (s t : TaintState) (v : String) :
    (s.merge t).get? v = (s.get? v).merge Label.combine (t.get? v) :=
  get?_foldl_joinOnto t.entries.ascending s v

/-- Where branches meet, the label of a variable is the join of the labels on both. -/
theorem isLUB_labelOf_merge (s t : TaintState) (v : String) :
    IsLUB {s.labelOf v, t.labelOf v} ((s.merge t).labelOf v) := by
  refine isLUB_iff_le_iff.mpr fun u => ?_
  rw [upperBounds_insert, upperBounds_singleton]
  show _ ↔ s.labelOf v ≤ u ∧ t.labelOf v ≤ u
  have hclean : Label.clean ≤ u := Label.le_of_isClean rfl
  rw [labelOf, labelOf, labelOf, get?_merge]
  cases s.get? v with
  | none => cases t.get? v <;> exact (and_iff_right hclean).symm
  | some a =>
    cases t.get? v with
    | none => exact (and_iff_left hclean).symm
    | some b => exact Label.combine_le_iff

/-! ## 2. What holds of all entries -/

/-- Whether a property holds of the label of every entry. -/
def Holds (P : Label → Prop) (s : TaintState) : Prop := ∀ var l, s.get? var = some l → P l

theorem holds_empty (P : Label → Prop) : empty.Holds P := by
  intro var l h
  cases h

theorem Holds.alter (h : s.Holds P) (var : String) {f : Option Label → Label}
    (hf : P (f (s.get? var))) : Holds P ⟨s.entries.alter var f⟩ := by
  intro v l hl
  rw [get?, SortedMap.get?_alter] at hl
  split at hl
  · cases hl
    exact hf
  · exact h v l hl

/-- A clean label leaves no entry, so only a tainted one needs the property. -/
theorem Holds.assign (h : s.Holds P) (var : String) (hl : l.isClean = false → P l) :
    (s.assign var l).Holds P := by
  rw [TaintState.assign]
  split
  · intro v l' hl'
    rw [get?, SortedMap.get?_erase] at hl'
    split at hl'
    · cases hl'
    · exact h v l' hl'
  · rename_i hdirty
    exact h.alter var (hl (Bool.eq_false_iff.mpr hdirty))

theorem Holds.taintWeakly (hP : Label.Stable P) (h : s.Holds P) (var : String)
    (hl : l.isClean = false → P l) : (s.taintWeakly var l).Holds P := by
  rw [TaintState.taintWeakly]
  split
  · exact h
  · rename_i hdirty
    have hPl : P l := hl (Bool.eq_false_iff.mpr hdirty)
    refine h.alter var ?_
    cases hpresent : s.get? var with
    | none => exact hPl
    | some present => exact hP.combine (h var present hpresent) hPl

theorem Holds.sanitize (hP : Label.Stable P) (h : s.Holds P) (var name : String) :
    (s.sanitize var name).Holds P := by
  rw [TaintState.sanitize]
  split
  · rename_i present hpresent
    exact h.alter var (hP.sanitize name (h var present hpresent))
  · exact h

theorem Holds.merge (hP : Label.Stable P) (hs : s.Holds P) (ht : t.Holds P) :
    (s.merge t).Holds P := by
  intro v l hl
  rw [get?_merge] at hl
  cases hsv : s.get? v with
  | none =>
    rw [hsv, Option.merge_none_left] at hl
    exact ht v l hl
  | some a =>
    cases htv : t.get? v with
    | none =>
      rw [hsv, htv, Option.merge_none_right] at hl
      cases hl
      exact hs v _ hsv
    | some b =>
      rw [hsv, htv] at hl
      cases hl
      exact hP.combine (hs v a hsv) (ht v b htv)

end TaintState

/-! ## 3. States that are formed from the empty one -/

/-- A canonical label with origins. -/
def Label.IsTaint (l : Label) : Prop := l.Canonical ∧ l.isClean = false

theorem Label.stable_isTaint : Label.Stable Label.IsTaint where
  combine ha hb := ⟨ha.1.combine hb.1, isClean_eq_false_of_le (le_combine_left _ _) ha.2⟩
  sanitize _ hl := ⟨canonical_of_dirty hl.2, hl.2⟩

namespace TaintState

/-- The states that come from the empty one by assignments, added taint, sanitizers and merges, with
canonical labels throughout. -/
inductive Formed : TaintState → Prop where
  | empty : Formed .empty
  | assign {s : TaintState} {l : Label} (hs : Formed s) (var : String) (hl : l.Canonical) :
      Formed (s.assign var l)
  | taintWeakly {s : TaintState} {l : Label} (hs : Formed s) (var : String) (hl : l.Canonical) :
      Formed (s.taintWeakly var l)
  | sanitize {s : TaintState} (hs : Formed s) (var name : String) : Formed (s.sanitize var name)
  | merge {s t : TaintState} (hs : Formed s) (ht : Formed t) : Formed (s.merge t)

variable {s t : TaintState}

/-- **All entries of a formed state are canonical and carry taint.** -/
theorem Formed.holds (h : Formed s) : s.Holds Label.IsTaint := by
  induction h with
  | empty => exact holds_empty _
  | assign _ var hl ih => exact ih.assign var fun hdirty => ⟨hl, hdirty⟩
  | taintWeakly _ var hl ih =>
    exact ih.taintWeakly Label.stable_isTaint var fun hdirty => ⟨hl, hdirty⟩
  | sanitize _ var name ih => exact ih.sanitize Label.stable_isTaint var name
  | merge _ _ ihs iht => exact ihs.merge Label.stable_isTaint iht

theorem Holds.canonical_labelOf (h : s.Holds Label.IsTaint) (v : String) :
    (s.labelOf v).Canonical := by
  rw [labelOf]
  cases hv : s.get? v with
  | none => exact Label.canonical_clean
  | some l => exact (h v l hv).1

/-- A variable has an entry exactly if its label is not clean. -/
theorem Holds.get?_eq (h : s.Holds Label.IsTaint) (v : String) :
    s.get? v = if (s.labelOf v).isClean then none else some (s.labelOf v) := by
  rw [labelOf]
  cases hv : s.get? v with
  | none => rfl
  | some l =>
    have hdirty : ¬ l.isClean = true := by
      rw [(h v l hv).2]
      decide
    rw [Option.getD_some, if_neg hdirty]

/-- **A state whose entries carry taint is determined by the labels of the variables.** -/
theorem ext_labelOf (hs : s.Holds Label.IsTaint) (ht : t.Holds Label.IsTaint)
    (h : ∀ v, s.labelOf v = t.labelOf v) : s = t := by
  have hentries : s.entries = t.entries := by
    refine SortedMap.ext_get? fun v => ?_
    have hget : s.get? v = t.get? v := by rw [hs.get?_eq, ht.get?_eq, h]
    exact hget
  cases s
  cases t
  cases hentries
  rfl

theorem labelOf_merge (hs : s.Holds Label.IsTaint) (ht : t.Holds Label.IsTaint) (v : String) :
    (s.merge t).labelOf v = (s.labelOf v).combine (t.labelOf v) := by
  have hjoin : IsLUB {s.labelOf v, t.labelOf v} ((s.labelOf v).combine (t.labelOf v)) :=
    Label.isLUB_combine isLUB_singleton isLUB_singleton
  have hmerged := isLUB_labelOf_merge s t v
  have hcanonical := (hs.merge Label.stable_isTaint ht).canonical_labelOf v
  exact hcanonical.eq_of_le_of_le ((hs.canonical_labelOf v).combine (ht.canonical_labelOf v))
    ((isLUB_le_iff hmerged).mpr hjoin.1) ((isLUB_le_iff hjoin).mpr hmerged.1)

end TaintState

/-! ## 4. Any number of branches -/

/-- A way to merge branches, two states at a time. -/
inductive Grouping where
  | branch (s : TaintState)
  | join (first second : Grouping)

namespace Grouping

/-- The states at the ends of the branches. -/
def branches : Grouping → List TaintState
  | branch s => [s]
  | join first second => first.branches ++ second.branches

/-- The state after all merges. -/
def merged : Grouping → TaintState
  | branch s => s
  | join first second => first.merged.merge second.merged

theorem holds_merged {P : Label → Prop} (hP : Label.Stable P) {g : Grouping}
    (h : ∀ s ∈ g.branches, s.Holds P) : g.merged.Holds P := by
  induction g with
  | branch s => exact h s List.mem_cons_self
  | join first second ihfirst ihsecond =>
    have hfirst := ihfirst fun s hs => h s (List.mem_append_left _ hs)
    have hsecond := ihsecond fun s hs => h s (List.mem_append_right _ hs)
    exact hfirst.merge hP hsecond

/-- **After all merges the label of a variable is the join of its labels on the branches.** -/
theorem isLUB_labelOf_merged (g : Grouping) (v : String) :
    IsLUB {l | ∃ s ∈ g.branches, s.labelOf v = l} (g.merged.labelOf v) := by
  induction g with
  | branch s =>
    have hone : {l | ∃ s' ∈ (branch s).branches, s'.labelOf v = l} = {s.labelOf v} := by
      ext l
      simp [branches, eq_comm]
    rw [hone]
    exact isLUB_singleton
  | join first second ihfirst ihsecond =>
    have hparts : {l | ∃ s ∈ (join first second).branches, s.labelOf v = l} =
        {l | ∃ s ∈ first.branches, s.labelOf v = l} ∪
          {l | ∃ s ∈ second.branches, s.labelOf v = l} := by
      ext l
      simp [branches, or_and_right, exists_or]
    rw [hparts]
    refine isLUB_iff_le_iff.mpr fun u => ?_
    rw [upperBounds_union, merged,
      isLUB_le_iff (TaintState.isLUB_labelOf_merge first.merged second.merged v),
      upperBounds_insert, upperBounds_singleton]
    show first.merged.labelOf v ≤ u ∧ second.merged.labelOf v ≤ u ↔ _
    rw [isLUB_le_iff ihfirst, isLUB_le_iff ihsecond]
    rfl

/-- Two ways to merge the same states give the same state. -/
theorem merged_eq {g h : Grouping} (hg : ∀ s ∈ g.branches, s.Holds Label.IsTaint)
    (hsame : ∀ s, s ∈ g.branches ↔ s ∈ h.branches) : g.merged = h.merged := by
  have hh : ∀ s ∈ h.branches, s.Holds Label.IsTaint := fun s hs => hg s ((hsame s).mpr hs)
  have hg' := holds_merged Label.stable_isTaint hg
  have hh' := holds_merged Label.stable_isTaint hh
  refine TaintState.ext_labelOf hg' hh' fun v => ?_
  have hparts : {l | ∃ s ∈ g.branches, s.labelOf v = l} =
      {l | ∃ s ∈ h.branches, s.labelOf v = l} :=
    Set.ext fun l => exists_congr fun s => and_congr_left fun _ => hsame s
  have hleft := g.isLUB_labelOf_merged v
  have hright := h.isLUB_labelOf_merged v
  rw [← hparts] at hright
  exact (hg'.canonical_labelOf v).eq_of_le_of_le (hh'.canonical_labelOf v)
    ((isLUB_le_iff hleft).mpr hright.1) ((isLUB_le_iff hright).mpr hleft.1)

end Grouping

/-- **Labels are a join semilattice and states merge variable by variable.** On canonical labels joins
are associative, commutative and idempotent, with the clean label neutral. A state that is formed from
the empty one with canonical labels has entries with origins only, all of them canonical; two such
states merge to the joins of their labels, variable by variable; and the same states merge to the same
state in every order and grouping, however often each of them is met. -/
theorem merging_ignores_order_and_grouping :
    (∀ a b c : Label, a.Canonical → b.Canonical → c.Canonical →
      (a.combine b).Canonical ∧ (a.combine b).combine c = a.combine (b.combine c) ∧
        a.combine b = b.combine a ∧ a.combine a = a ∧
        Label.clean.combine a = a ∧ a.combine .clean = a) ∧
    (∀ s : TaintState, s.Formed → ∀ var l, s.get? var = some l →
      l.Canonical ∧ ∃ o, o ∈ l.origins) ∧
    (∀ s t : TaintState, s.Formed → t.Formed → ∀ var,
      (s.merge t).labelOf var = (s.labelOf var).combine (t.labelOf var)) ∧
    ∀ g h : Grouping, (∀ s ∈ g.branches, s.Formed) → (∀ s, s ∈ g.branches ↔ s ∈ h.branches) →
      g.merged = h.merged := by
  refine ⟨fun a b c ha hb hc => ?_, fun s hs var l hl => ?_, fun s t hs ht var => ?_,
    fun g h hg hsame => ?_⟩
  · exact ⟨ha.combine hb, ha.combine_assoc hb hc, ha.combine_comm hb, Label.combine_self a,
      ha.clean_combine, ha.combine_clean⟩
  · obtain ⟨hcanonical, hdirty⟩ := hs.holds var l hl
    exact ⟨hcanonical, Label.isClean_eq_false_iff.mp hdirty⟩
  · exact TaintState.labelOf_merge hs.holds ht.holds var
  · exact Grouping.merged_eq (fun s hs => (hg s hs).holds) hsame

/-! ## 5. Three branches

On the first branch `q` is a parameter that went through `int`, on the second it is the bare parameter,
and on the third it is clean and `r` is a source. -/

namespace ThreeBranches

def first : TaintState := (TaintState.empty.assign "q" (.param 0)).sanitize "q" "int"

def second : TaintState := TaintState.empty.assign "q" (.param 0)

def third : TaintState :=
  (second.assign "q" .clean).taintWeakly "r" (.source "builtins.input")

theorem formed_second : second.Formed :=
  TaintState.Formed.empty.assign "q" (Label.canonical_ofOrigin _)

theorem formed_first : first.Formed := formed_second.sanitize "q" "int"

theorem formed_third : third.Formed :=
  (formed_second.assign "q" Label.canonical_clean).taintWeakly "r" (Label.canonical_ofOrigin _)

end ThreeBranches

theorem three_branches_merged :
    (ThreeBranches.first.merge ThreeBranches.second).merge ThreeBranches.third =
        ThreeBranches.third.merge (ThreeBranches.second.merge ThreeBranches.first) ∧
      ((ThreeBranches.first.merge ThreeBranches.second).labelOf "q").sanitizers = ∅ ∧
      (ThreeBranches.first.labelOf "q").combine (ThreeBranches.second.labelOf "q") =
        (ThreeBranches.second.labelOf "q").combine (ThreeBranches.first.labelOf "q") ∧
      ∃ o, o ∈ (ThreeBranches.third.labelOf "r").origins := by
  obtain ⟨hlabels, hentries, hmerge, hgroupings⟩ := merging_ignores_order_and_grouping
  have hfirst := ThreeBranches.formed_first
  have hsecond := ThreeBranches.formed_second
  have hthird := ThreeBranches.formed_third
  refine ⟨?_, ?_, ?_, ?_⟩
  · refine hgroupings
      (.join (.join (.branch ThreeBranches.first) (.branch ThreeBranches.second))
        (.branch ThreeBranches.third))
      (.join (.branch ThreeBranches.third)
        (.join (.branch ThreeBranches.second) (.branch ThreeBranches.first))) ?_ ?_
    · intro s hs
      simp only [Grouping.branches, List.cons_append, List.nil_append, List.mem_cons,
        List.not_mem_nil, or_false] at hs
      rcases hs with rfl | rfl | rfl
      · exact hfirst
      · exact hsecond
      · exact hthird
    · intro s
      simp only [Grouping.branches, List.cons_append, List.nil_append, List.mem_cons,
        List.not_mem_nil, or_false]
      constructor
      · rintro (h | h | h) <;> simp [h]
      · rintro (h | h | h) <;> simp [h]
  · rw [hmerge _ _ hfirst hsecond "q"]
    decide +kernel
  · have hfirst' := hfirst.holds.canonical_labelOf "q"
    have hsecond' := hsecond.holds.canonical_labelOf "q"
    exact (hlabels _ _ _ hfirst' hsecond' hfirst').2.2.1
  · exact (hentries _ hthird "r" _ (by decide +kernel)).2

end TaintFlow
