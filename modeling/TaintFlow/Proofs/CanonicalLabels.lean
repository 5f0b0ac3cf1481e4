import Mathlib.Order.Lattice
import TaintFlow.Proofs.LabelOrder

/-!
# Canonical labels

A label without origins is clean, whatever sanitizers it has, and joining two clean labels gives the
first of them. With sanitizers left on clean labels a join would depend on the order of its sides.
Canonical labels have none there. On them the order is antisymmetric (`Canonical.eq_of_le_of_le`), so
they are a join semilattice with the clean label at the bottom, and the laws of joins are those of any
semilattice (`Canonical.combine_comm`, `Canonical.combine_assoc`).

Putting call results into a label stays within them (`Canonical.substitute`). What it gives is followed
exactly in both sets: the origins of the replaced calls are those of their results, and a sanitizer
stays if every tainted part has it (`mem_sanitizers_substitute`); a part is protected by what is on its
result and by what is on the label (`substitution_exact_and_monotone`).
-/

namespace TaintFlow

namespace Label

variable {a b c l r : Label} {rs : List Label}

/-! ## 1. The semilattice -/

theorem ext_sets (horigins : a.origins = b.origins) (hsanitizers : a.sanitizers = b.sanitizers) :
    a = b := by
  cases a
  cases b
  cases horigins
  cases hsanitizers
  rfl

/-- **Canonical labels that are below each other are equal.** -/
theorem Canonical.eq_of_le_of_le (ha : a.Canonical) (hb : b.Canonical) (hab : a ≤ b)
    (hba : b ≤ a) : a = b := by
  have horigins : a.origins = b.origins :=
    SortedSet.ext_iff_mem.mpr fun o => ⟨origins_of_le hab, origins_of_le hba⟩
  refine ext_sets horigins ?_
  cases hclean : a.isClean with
  | true =>
    have hclean' : b.isClean = true := by rwa [isClean, ← horigins]
    rw [ha hclean, hb hclean']
  | false =>
    have hdirty : b.isClean = false := isClean_eq_false_of_le hab hclean
    refine SortedSet.ext_iff_mem.mpr fun s => ?_
    exact ⟨(le_iff.mp hba).2 hdirty s, (le_iff.mp hab).2 hclean s⟩

end Label

/-- The labels that are canonical. -/
def CanonicalLabel : Type := {l : Label // l.Canonical}

namespace CanonicalLabel

instance : PartialOrder CanonicalLabel where
  le a b := a.1 ≤ b.1
  le_refl a := le_refl a.1
  le_trans _ _ _ hab hbc := le_trans (α := Label) hab hbc
  le_antisymm a b hab hba := Subtype.ext (a.2.eq_of_le_of_le b.2 hab hba)

instance : SemilatticeSup CanonicalLabel where
  sup a b := ⟨a.1.combine b.1, a.2.combine b.2⟩
  le_sup_left a b := Label.le_combine_left a.1 b.1
  le_sup_right a b := Label.le_combine_right a.1 b.1
  sup_le _ _ _ hac hbc := Label.combine_le_iff.mpr ⟨hac, hbc⟩

instance : OrderBot CanonicalLabel where
  bot := ⟨.clean, Label.canonical_clean⟩
  bot_le _ := Label.le_of_isClean rfl

end CanonicalLabel

namespace Label

variable {a b c l r : Label} {rs : List Label}

theorem Canonical.combine_comm (ha : a.Canonical) (hb : b.Canonical) :
    a.combine b = b.combine a :=
  congrArg Subtype.val (sup_comm (α := CanonicalLabel) ⟨a, ha⟩ ⟨b, hb⟩)

theorem Canonical.combine_assoc (ha : a.Canonical) (hb : b.Canonical) (hc : c.Canonical) :
    (a.combine b).combine c = a.combine (b.combine c) :=
  congrArg Subtype.val (sup_assoc (α := CanonicalLabel) ⟨a, ha⟩ ⟨b, hb⟩ ⟨c, hc⟩)

theorem Canonical.clean_combine (ha : a.Canonical) : clean.combine a = a :=
  congrArg Subtype.val (bot_sup_eq (α := CanonicalLabel) ⟨a, ha⟩)

theorem Canonical.combine_clean (ha : a.Canonical) : a.combine clean = a :=
  congrArg Subtype.val (sup_bot_eq (α := CanonicalLabel) ⟨a, ha⟩)

/-! ## 2. Replacing call results -/

theorem Canonical.contribution (l : Label) (hr : r.Canonical) : (l.contribution r).Canonical := by
  cases hclean : r.isClean with
  | true =>
    rw [Label.contribution, if_pos hclean]
    exact hr
  | false =>
    have hdirty : (l.contribution r).isClean = false := by
      rwa [isClean, origins_contribution]
    exact canonical_of_dirty hdirty

/-- **Replacing calls by canonical results gives a canonical label.** -/
theorem Canonical.substitute (hl : l.Canonical) (hrs : ∀ r ∈ rs, r.Canonical) :
    (l.substitute rs).Canonical := by
  rw [Label.substitute]
  split
  · exact hl
  · refine combineAll_induction Canonical.combine ?_ fun part hpart => ?_
    · -- where nothing is kept, no sanitizers are either
      split
      · exact fun _ => rfl
      · rename_i hkept
        exact canonical_of_dirty (Bool.eq_false_iff.mpr hkept)
    · obtain ⟨k, r, _, hr, rfl⟩ := mem_contributions.mp hpart
      exact Canonical.contribution l (hrs r (List.mem_of_getElem? hr))

theorem isResolved_eq_false_iff {o : Origin} :
    isResolved rs o = false ↔ ∀ k, o = .call k → rs.length ≤ k := by
  rw [← Bool.not_eq_true]
  cases o with
  | param n => simp [isResolved]
  | source s => simp [isResolved]
  | call k => simp [isResolved]

theorem isLUB_substitute (l : Label) (rs : List Label) :
    IsLUB (insert (l.kept rs) {part | part ∈ l.contributions rs}) (l.substitute rs) := by
  refine isLUB_iff_le_iff.mpr fun u => ?_
  rw [substitute_le_iff, upperBounds_insert]
  rfl

/-- **A sanitizer stays if every tainted part has it**: the label, if an origin of it is kept, and
the label or the result for each result that is put in. -/
theorem mem_sanitizers_substitute (hdirty : (l.substitute rs).isClean = false) {s : String} :
    s ∈ (l.substitute rs).sanitizers ↔
      ((∃ o ∈ l.origins, ∀ k, o = .call k → rs.length ≤ k) → s ∈ l.sanitizers) ∧
      ∀ k r, .call k ∈ l.origins → rs[k]? = some r → r.isClean = false →
        s ∈ r.sanitizers ∨ s ∈ l.sanitizers := by
  have hkept : (l.kept rs).isClean = false ↔
      ∃ o ∈ l.origins, ∀ k, o = .call k → rs.length ≤ k := by
    simp only [isClean_eq_false_iff, mem_origins_kept, isResolved_eq_false_iff]
  have hpart : ∀ {r : Label}, r.isClean = false →
      (s ∈ (l.contribution r).sanitizers ↔ s ∈ r.sanitizers ∨ s ∈ l.sanitizers) := by
    intro r hr
    rw [contribution, if_neg (by rw [hr]; decide)]
    exact SortedSet.mem_union
  rw [mem_sanitizers_of_isLUB (isLUB_substitute l rs) hdirty, Set.forall_mem_insert, hkept]
  refine and_congr Iff.rfl ⟨fun h k r hk hr hclean => ?_, fun h part hmem hclean => ?_⟩
  · have hclean' : (l.contribution r).isClean = false := by
      rwa [isClean, origins_contribution]
    exact (hpart hclean).mp (h _ (mem_contributions.mpr ⟨k, r, hk, hr, rfl⟩) hclean')
  · obtain ⟨k, r, hk, hr, rfl⟩ := mem_contributions.mp hmem
    have hclean' : r.isClean = false := by rwa [isClean, origins_contribution] at hclean
    exact (hpart hclean').mpr (h k r hk hr hclean')

end Label

/-- **Putting call results into a label is exact and monotone.** For a canonical label and canonical
results, the origins are those of the label that are no call with a result, and those of the result of
each call of the label that has one. The label is canonical again, keeps the sanitizers that all its
tainted parts have, and grows with the label and, one by one, with the results. -/
theorem substitution_exact_and_monotone (l : Label) (results : List Label) (hl : l.Canonical)
    (hresults : ∀ r ∈ results, r.Canonical) :
    (∀ o, o ∈ (l.substitute results).origins ↔
      (o ∈ l.origins ∧ ∀ k, o = .call k → results.length ≤ k) ∨
        ∃ k r, .call k ∈ l.origins ∧ results[k]? = some r ∧ o ∈ r.origins) ∧
    (l.substitute results).Canonical ∧
    ((l.substitute results).isClean = false → ∀ s, s ∈ (l.substitute results).sanitizers ↔
      ((∃ o ∈ l.origins, ∀ k, o = .call k → results.length ≤ k) → s ∈ l.sanitizers) ∧
      ∀ k r, .call k ∈ l.origins → results[k]? = some r → r.isClean = false →
        s ∈ r.sanitizers ∨ s ∈ l.sanitizers) ∧
    ∀ (l' : Label) (results' : List Label), l ≤ l' → List.Forall₂ (· ≤ ·) results results' →
      l.substitute results ≤ l'.substitute results' := by
  refine ⟨fun o => ?_, hl.substitute hresults, fun hdirty s => ?_, fun l' results' hle hle' => ?_⟩
  · rw [Label.mem_origins_substitute, Label.isResolved_eq_false_iff]
  · exact Label.mem_sanitizers_substitute hdirty
  · exact Label.substitute_mono hle hle'

/-! ## 3. A label with three calls

Of the calls 0, 1 and 2 in the label the first gives a parameter that went through `int`, the second
nothing tainted, and the third is not known yet. -/

namespace ThreeCalls

def label : Label := ⟨.ofList [.call 0, .call 1, .call 2], .singleton "html.escape"⟩

def results : List Label := [⟨.singleton (.param 0), .singleton "int"⟩, .clean]

/-- The first call gives a source too, without protection. -/
def results' : List Label := [⟨.ofList [.param 0, .source "builtins.input"], ∅⟩, .clean]

end ThreeCalls

theorem three_calls_replaced :
    ThreeCalls.label.Canonical ∧ (∀ r ∈ ThreeCalls.results, r.Canonical) ∧
      (.param 0 ∈ (ThreeCalls.label.substitute ThreeCalls.results).origins ∧
        .call 2 ∈ (ThreeCalls.label.substitute ThreeCalls.results).origins ∧
        ¬ .call 1 ∈ (ThreeCalls.label.substitute ThreeCalls.results).origins) ∧
      "html.escape" ∈ (ThreeCalls.label.substitute ThreeCalls.results).sanitizers ∧
      ThreeCalls.label.substitute ThreeCalls.results ≤
        ThreeCalls.label.substitute ThreeCalls.results' := by
  have hl : ThreeCalls.label.Canonical := Label.canonical_of_dirty (by decide)
  have hresults : ∀ r ∈ ThreeCalls.results, r.Canonical := by
    intro r hr
    rcases List.mem_cons.mp hr with rfl | hr
    · exact Label.canonical_of_dirty (by decide)
    · rw [List.mem_singleton.mp hr]
      exact Label.canonical_clean
  have hlarger : List.Forall₂ (· ≤ ·) ThreeCalls.results ThreeCalls.results' := by
    refine .cons (Or.inr ⟨?_, ?_⟩) (.cons (le_refl Label.clean) .nil)
    · show ∀ o ∈ [Origin.param 0], o ∈ [Origin.param 0, .source "builtins.input"]
      decide
    · exact fun s hs => absurd hs SortedSet.not_mem_empty
  obtain ⟨horigins, _, hsanitizers, hmono⟩ :=
    substitution_exact_and_monotone ThreeCalls.label ThreeCalls.results hl hresults
  have hkept : (ThreeCalls.label.substitute ThreeCalls.results).isClean = false := by decide
  refine ⟨hl, hresults, ⟨?_, ?_, ?_⟩, ?_, hmono _ _ (le_refl _) hlarger⟩
  · exact (horigins _).mpr (Or.inr ⟨0, _, by decide, rfl, by decide⟩)
  · exact (horigins _).mpr (Or.inl ⟨by decide, fun k hk => by cases hk; decide⟩)
  · decide
  · exact (hsanitizers hkept "html.escape").mpr
      ⟨fun _ => by decide, fun _ _ _ _ _ => Or.inr (by decide)⟩

end TaintFlow
