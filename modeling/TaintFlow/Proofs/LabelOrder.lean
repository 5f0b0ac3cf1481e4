import Mathlib.Data.List.Forall2
import Mathlib.Order.Bounds.Basic
import Mathlib.Order.Defs.PartialOrder
import TaintFlow.Label

/-!
# The order of labels

A label is at most another if it is clean, or if the other has all its origins and only sanitizers
that it has too: larger means more taint and less protection. Joining gives the least label above
both sides (`combine_le_iff`), so what is built from joins is compared part by part:

* a join of many labels is below a label exactly if each of them is (`combineAll_le_iff`);
* putting call results into a label is such a join (`substitute_le_iff`), hence monotone in the
  label and in the results (`substitute_mono`).

Origins are followed exactly (`mem_origins_combineAll`, `mem_origins_substitute`).
-/

namespace TaintFlow

namespace Label

variable {a b l u : Label} {o : Origin}

/-! ## 1. Members -/

theorem isClean_iff : l.isClean = true ↔ ∀ o, ¬ o ∈ l.origins := by
  rw [isClean, SortedSet.isEmpty, List.isEmpty_iff, List.eq_nil_iff_forall_not_mem]
  rfl

theorem isClean_eq_false_iff : l.isClean = false ↔ ∃ o, o ∈ l.origins := by
  rw [isClean, SortedSet.isEmpty, List.isEmpty_eq_false_iff_exists_mem]
  rfl

theorem mem_params {p : Nat} : p ∈ l.params ↔ .param p ∈ l.origins := by
  rw [params, List.mem_filterMap, SortedSet.mem_def]
  constructor
  · rintro ⟨o, ho, h⟩
    cases o with
    | param n => cases h; exact ho
    | source s => cases h
    | call k => cases h
  · exact fun h => ⟨_, h, rfl⟩

theorem hasForeign_iff : l.hasForeign = true ↔ ∃ o ∈ l.origins, o.isParam = false := by
  rw [hasForeign, SortedSet.any, List.any_eq_true]
  simp only [Bool.not_eq_true', SortedSet.mem_def]

@[simp] theorem mem_origins_ofOrigin {o' : Origin} : o ∈ (ofOrigin o').origins ↔ o = o' :=
  SortedSet.mem_singleton

@[simp] theorem not_mem_origins_clean : ¬ o ∈ clean.origins := SortedSet.not_mem_empty

@[simp] theorem mem_origins_combine :
    o ∈ (a.combine b).origins ↔ o ∈ a.origins ∨ o ∈ b.origins := by
  rw [combine]
  split
  · rename_i hb
    exact (or_iff_left (isClean_iff.mp hb o)).symm
  · split
    · rename_i ha
      exact (or_iff_right (isClean_iff.mp ha o)).symm
    · exact SortedSet.mem_union

theorem mem_origins_combineAll {ls : List Label} :
    o ∈ (a.combineAll ls).origins ↔ o ∈ a.origins ∨ ∃ l ∈ ls, o ∈ l.origins := by
  induction ls generalizing a with
  | nil => simp [combineAll]
  | cons l ls ih =>
    rw [combineAll, List.foldl_cons, ← combineAll, ih, mem_origins_combine, or_assoc,
      List.exists_mem_cons_iff]

/-- What joins of two keep, joins of many keep. -/
theorem combineAll_induction {P : Label → Prop} (hcombine : ∀ {a b : Label}, P a → P b → P (a.combine b))
    {ls : List Label} (ha : P a) (hls : ∀ l ∈ ls, P l) : P (a.combineAll ls) := by
  induction ls generalizing a with
  | nil => exact ha
  | cons l ls ih =>
    exact ih (hcombine ha (hls l List.mem_cons_self)) fun m hm => hls m (List.mem_cons_of_mem _ hm)

@[simp] theorem origins_sanitize (l : Label) (name : String) :
    (l.sanitize name).origins = l.origins := by
  rw [sanitize]
  split <;> rfl

@[simp] theorem origins_foldl_sanitize (l : Label) (names : List String) :
    (names.foldl sanitize l).origins = l.origins := by
  induction names generalizing l with
  | nil => rfl
  | cons n names ih => rw [List.foldl_cons, ih, origins_sanitize]

theorem mem_sanitizers_foldl_sanitize {names : List String} {s : String}
    (h : l.isClean = false) :
    s ∈ (names.foldl sanitize l).sanitizers ↔ s ∈ l.sanitizers ∨ s ∈ names := by
  induction names generalizing l with
  | nil => simp
  | cons n names ih =>
    have hn : l.sanitize n = { l with sanitizers := l.sanitizers.insert n } := by
      rw [sanitize, if_neg (by rw [h]; decide)]
    rw [List.foldl_cons, ih (by rw [isClean, origins_sanitize]; exact h), hn, List.mem_cons,
      SortedSet.mem_insert, or_assoc, or_left_comm]

/-! ## 2. Canonical labels -/

theorem canonical_ofOrigin (o : Origin) : (ofOrigin o).Canonical := fun _ => rfl

theorem canonical_clean : clean.Canonical := fun _ => rfl

theorem canonical_of_dirty (h : l.isClean = false) : l.Canonical :=
  fun hclean => by rw [h] at hclean; cases hclean

theorem Canonical.combine (ha : a.Canonical) (hb : b.Canonical) : (a.combine b).Canonical := by
  rw [Label.combine]
  split
  · exact ha
  · split
    · exact hb
    · rename_i hclean _
      obtain ⟨o, ho⟩ := isClean_eq_false_iff.mp (Bool.eq_false_iff.mpr hclean)
      exact canonical_of_dirty (isClean_eq_false_iff.mpr ⟨o, SortedSet.mem_union.mpr (Or.inr ho)⟩)

theorem Canonical.sanitize (h : l.Canonical) (name : String) : (l.sanitize name).Canonical := by
  rw [Label.sanitize]
  split
  · exact h
  · rename_i hclean
    exact canonical_of_dirty (Bool.eq_false_iff.mpr hclean)

/-! ## 3. The order -/

/-- More origins and fewer sanitizers are larger; a clean label is below all. -/
instance : LE Label where
  le a b :=
    a.isClean = true ∨ (∀ o ∈ a.origins, o ∈ b.origins) ∧ ∀ s ∈ b.sanitizers, s ∈ a.sanitizers

theorem le_def : a ≤ b ↔ a.isClean = true ∨
    (∀ o ∈ a.origins, o ∈ b.origins) ∧ ∀ s ∈ b.sanitizers, s ∈ a.sanitizers := Iff.rfl

theorem le_of_isClean (h : a.isClean = true) : a ≤ b := Or.inl h

/-- The origins grow in any case; the sanitizers matter only if there is taint. -/
theorem le_iff : a ≤ b ↔ (∀ o ∈ a.origins, o ∈ b.origins) ∧
    (a.isClean = false → ∀ s ∈ b.sanitizers, s ∈ a.sanitizers) := by
  rw [le_def]
  cases h : a.isClean with
  | true => simp [isClean_iff.mp h]
  | false => simp

theorem origins_of_le (h : a ≤ b) (ho : o ∈ a.origins) : o ∈ b.origins := (le_iff.mp h).1 o ho

theorem isClean_eq_false_of_le (h : a ≤ b) (ha : a.isClean = false) : b.isClean = false := by
  obtain ⟨o, ho⟩ := isClean_eq_false_iff.mp ha
  exact isClean_eq_false_iff.mpr ⟨o, origins_of_le h ho⟩

theorem hasForeign_of_le (h : a ≤ b) (ha : a.hasForeign = true) : b.hasForeign = true := by
  obtain ⟨o, ho, hforeign⟩ := hasForeign_iff.mp ha
  exact hasForeign_iff.mpr ⟨o, origins_of_le h ho, hforeign⟩

instance : Preorder Label where
  le_refl _ := Or.inr ⟨fun _ h => h, fun _ h => h⟩
  le_trans a b c hab hbc := le_iff.mpr
    ⟨fun _ ho => origins_of_le hbc (origins_of_le hab ho), fun ha s hs =>
      (le_iff.mp hab).2 ha s ((le_iff.mp hbc).2 (isClean_eq_false_of_le hab ha) s hs)⟩

/-! ## 4. Joins -/

/-- **A join is the least label above both sides.** -/
theorem combine_le_iff : a.combine b ≤ u ↔ a ≤ u ∧ b ≤ u := by
  rw [combine]
  split
  · rename_i hb
    exact (and_iff_left (le_of_isClean hb)).symm
  · split
    · rename_i ha
      exact (and_iff_right (le_of_isClean ha)).symm
    · rename_i hb ha
      rw [le_def, le_def (a := a), le_def (a := b), or_iff_right ha, or_iff_right hb]
      have hjoin : ¬ (⟨a.origins.union b.origins, a.sanitizers.inter b.sanitizers⟩ :
          Label).isClean = true := by
        obtain ⟨o, ho⟩ := isClean_eq_false_iff.mp (Bool.eq_false_iff.mpr ha)
        exact fun h => isClean_iff.mp h o (SortedSet.mem_union.mpr (Or.inl ho))
      rw [or_iff_right hjoin]
      simp only [SortedSet.mem_union, SortedSet.mem_inter]
      constructor
      · rintro ⟨ho, hs⟩
        exact ⟨⟨fun o h => ho o (Or.inl h), fun s h => (hs s h).1⟩,
          fun o h => ho o (Or.inr h), fun s h => (hs s h).2⟩
      · rintro ⟨⟨hoa, hsa⟩, hob, hsb⟩
        exact ⟨fun o h => h.elim (hoa o) (hob o), fun s h => ⟨hsa s h, hsb s h⟩⟩

theorem combineAll_le_iff {ls : List Label} :
    a.combineAll ls ≤ u ↔ a ≤ u ∧ ∀ l ∈ ls, l ≤ u := by
  induction ls generalizing a with
  | nil => simp [combineAll]
  | cons l ls ih =>
    rw [combineAll, List.foldl_cons, ← combineAll, ih, combine_le_iff, and_assoc,
      List.forall_mem_cons]

theorem le_combine_left (a b : Label) : a ≤ a.combine b := (combine_le_iff.mp (le_refl _)).1

theorem le_combine_right (a b : Label) : b ≤ a.combine b := (combine_le_iff.mp (le_refl _)).2

theorem combine_mono {a' b' : Label} (ha : a ≤ a') (hb : b ≤ b') : a.combine b ≤ a'.combine b' :=
  combine_le_iff.mpr ⟨le_trans ha (le_combine_left a' b'), le_trans hb (le_combine_right a' b')⟩

theorem combineAll_mono {ls ls' : List Label} (hab : a ≤ b) (h : List.Forall₂ (· ≤ ·) ls ls') :
    a.combineAll ls ≤ b.combineAll ls' := by
  induction h generalizing a b with
  | nil => exact hab
  | cons hl _ ih => exact ih (combine_mono hab hl)

theorem combine_self (a : Label) : a.combine a = a := by
  rw [combine]
  split
  · rfl
  · have horigins : a.origins.union a.origins = a.origins :=
      SortedSet.ext_iff_mem.mpr fun o => by rw [SortedSet.mem_union, or_self]
    have hsanitizers : a.sanitizers.inter a.sanitizers = a.sanitizers :=
      SortedSet.ext_iff_mem.mpr fun s => by rw [SortedSet.mem_inter, and_self]
    rw [horigins, hsanitizers]

/-- Joining what is least above two sets of labels gives what is least above both. -/
theorem isLUB_combine {S T : Set Label} (ha : IsLUB S a) (hb : IsLUB T b) :
    IsLUB (S ∪ T) (a.combine b) := by
  refine isLUB_iff_le_iff.mpr fun u => ?_
  rw [combine_le_iff, isLUB_le_iff ha, isLUB_le_iff hb, upperBounds_union]
  rfl

theorem isLUB_clean : IsLUB {l : Label | l ∈ []} clean :=
  isLUB_iff_le_iff.mpr fun _ => iff_of_true (le_of_isClean rfl) fun _ h => by cases h

/-- A join carries taint if one of its parts does. -/
theorem isClean_eq_false_of_isLUB {S : Set Label} (h : IsLUB S l) :
    l.isClean = false ↔ ∃ p ∈ S, p.isClean = false := by
  constructor
  · intro hl
    by_contra hparts
    have hle : l ≤ clean := (isLUB_le_iff h).mpr fun p hp =>
      le_of_isClean (Bool.of_not_eq_false fun hdirty => hparts ⟨p, hp, hdirty⟩)
    have hclean := isClean_eq_false_of_le hle hl
    cases hclean
  · rintro ⟨p, hp, hdirty⟩
    exact isClean_eq_false_of_le (h.1 hp) hdirty

/-- **A join keeps the sanitizers that all its tainted parts have**, and no others. -/
theorem mem_sanitizers_of_isLUB {S : Set Label} (h : IsLUB S l) (hl : l.isClean = false)
    {s : String} :
    s ∈ l.sanitizers ↔ ∀ p ∈ S, p.isClean = false → s ∈ p.sanitizers := by
  constructor
  · exact fun hs p hp hdirty => (le_iff.mp (h.1 hp)).2 hdirty s hs
  · intro hall
    -- a label with the origins of the join and this sanitizer alone is above every part
    have hle : l ≤ ⟨l.origins, .singleton s⟩ := (isLUB_le_iff h).mpr fun p hp =>
      le_iff.mpr ⟨(le_iff.mp (h.1 hp)).1, fun hdirty s' hs' =>
        SortedSet.mem_singleton.mp hs' ▸ hall p hp hdirty⟩
    exact (le_iff.mp hle).2 hl s (SortedSet.mem_singleton.mpr rfl)

/-- Less protection on more taint is larger. -/
theorem foldl_sanitize_mono {names names' : List String} (h : a ≤ b)
    (hnames : ∀ s ∈ names', s ∈ names) :
    names.foldl sanitize a ≤ names'.foldl sanitize b := by
  refine le_iff.mpr ⟨fun o ho => ?_, fun ha s hs => ?_⟩
  · rw [origins_foldl_sanitize] at ho ⊢
    exact origins_of_le h ho
  · have ha : a.isClean = false := by rwa [isClean, origins_foldl_sanitize] at ha
    rw [mem_sanitizers_foldl_sanitize (isClean_eq_false_of_le h ha)] at hs
    rw [mem_sanitizers_foldl_sanitize ha]
    exact hs.imp ((le_iff.mp h).2 ha s) (hnames s)

/-! ## 5. Replacing call results -/

section Substitute

variable {rs rs' : List Label} {r r' : Label}

theorem isResolved_call {k : Nat} : isResolved rs (.call k) = true ↔ k < rs.length :=
  decide_eq_true_iff

/-- The part of a label that no known result replaces. -/
def kept (l : Label) (rs : List Label) : Label :=
  ⟨l.origins.filter fun o => !isResolved rs o, l.sanitizers⟩

theorem mem_origins_kept : o ∈ (l.kept rs).origins ↔ o ∈ l.origins ∧ isResolved rs o = false := by
  rw [kept, SortedSet.mem_filter, Bool.not_eq_true']

theorem kept_congr (h : rs.length = rs'.length) : l.kept rs = l.kept rs' := by
  have : (isResolved rs) = isResolved rs' := by
    funext o
    cases o <;> simp [isResolved, h]
  rw [kept, kept, this]

/-- The labels that known results are replaced by. -/
def contributions (l : Label) (rs : List Label) : List Label :=
  l.origins.toList.filterMap fun
    | .call k => rs[k]?.map l.contribution
    | _ => none

theorem mem_contributions {c : Label} :
    c ∈ l.contributions rs ↔ ∃ k r, .call k ∈ l.origins ∧ rs[k]? = some r ∧ l.contribution r = c := by
  rw [contributions, List.mem_filterMap]
  constructor
  · rintro ⟨o, ho, h⟩
    cases o with
    | param n => cases h
    | source s => cases h
    | call k =>
      obtain ⟨r, hr, hc⟩ := Option.map_eq_some_iff.mp h
      exact ⟨k, r, ho, hr, hc⟩
  · rintro ⟨k, r, hk, hr, hc⟩
    exact ⟨.call k, hk, Option.map_eq_some_iff.mpr ⟨r, hr, hc⟩⟩

/-- What is put into a label is a join of what is kept and of what the results contribute; without
a known result the label stays. -/
theorem substitute_cases (l : Label) (rs : List Label) :
    (l.substitute rs = l ∧ ∀ o ∈ l.origins, isResolved rs o = false) ∨
      ∃ start : Label, l.substitute rs = start.combineAll (l.contributions rs) ∧
        start.origins = (l.kept rs).origins ∧
        (start.isClean = false → start.sanitizers = l.sanitizers) := by
  rw [substitute]
  split
  · rename_i h
    refine Or.inl ⟨rfl, fun o ho => ?_⟩
    rw [SortedSet.any, Bool.not_eq_true', List.any_eq_false] at h
    exact Bool.eq_false_iff.mpr (h o ho)
  · refine Or.inr ⟨_, rfl, ?_, ?_⟩
    · split <;> rfl
    · split
      · rename_i h
        intro hdirty
        rw [isClean, h] at hdirty
        cases hdirty
      · exact fun _ => rfl

theorem origins_contribution (l r : Label) : (l.contribution r).origins = r.origins := by
  rw [contribution]
  split <;> rfl

/-- **The origins after a replacement**: those that are no known result, and those of the results. -/
theorem mem_origins_substitute :
    o ∈ (l.substitute rs).origins ↔ (o ∈ l.origins ∧ isResolved rs o = false) ∨
      ∃ k r, .call k ∈ l.origins ∧ rs[k]? = some r ∧ o ∈ r.origins := by
  rcases substitute_cases l rs with ⟨h, hnone⟩ | ⟨start, h, horigins, _⟩
  · rw [h]
    refine ⟨fun ho => Or.inl ⟨ho, hnone o ho⟩, ?_⟩
    rintro (ho | ⟨k, r, hk, hr, _⟩)
    · exact ho.1
    · have hlt := isResolved_call.mpr (List.getElem?_eq_some_iff.mp hr).1
      rw [hnone _ hk] at hlt
      cases hlt
  · rw [h, mem_origins_combineAll, horigins, mem_origins_kept]
    refine or_congr_right ⟨?_, ?_⟩
    · rintro ⟨c, hc, ho⟩
      obtain ⟨k, r, hk, hr, rfl⟩ := mem_contributions.mp hc
      exact ⟨k, r, hk, hr, origins_contribution l r ▸ ho⟩
    · rintro ⟨k, r, hk, hr, ho⟩
      exact ⟨_, mem_contributions.mpr ⟨k, r, hk, hr, rfl⟩, (origins_contribution l r).symm ▸ ho⟩

/-- A replacement is the least label above what is kept and what the results contribute. -/
theorem substitute_le_iff :
    l.substitute rs ≤ u ↔ l.kept rs ≤ u ∧ ∀ c ∈ l.contributions rs, c ≤ u := by
  rcases substitute_cases l rs with ⟨h, hnone⟩ | ⟨start, h, horigins, hsanitizers⟩
  · have hkept : l.kept rs = l := by
      have : l.origins.filter (fun o => !isResolved rs o) = l.origins := by
        refine SortedSet.ext_iff_mem.mpr fun o => ?_
        rw [SortedSet.mem_filter, Bool.not_eq_true']
        exact and_iff_left_of_imp (hnone o)
      rw [kept, this]
    rw [h, hkept, and_iff_left fun c hc => ?_]
    obtain ⟨k, r, hk, hr, _⟩ := mem_contributions.mp hc
    have hlt := isResolved_call.mpr (List.getElem?_eq_some_iff.mp hr).1
    rw [hnone _ hk] at hlt
    cases hlt
  · have hclean : (l.kept rs).isClean = start.isClean := by rw [isClean, isClean, horigins]
    rw [h, combineAll_le_iff]
    refine and_congr_left' ?_
    rw [le_iff, le_iff, horigins, hclean]
    refine and_congr_right' (forall_congr' fun hdirty => ?_)
    rw [hsanitizers hdirty]
    rfl

theorem contribution_mono {l' : Label} (hl : ∀ s ∈ l'.sanitizers, s ∈ l.sanitizers) (h : r ≤ r') :
    l.contribution r ≤ l'.contribution r' := by
  refine le_iff.mpr ⟨fun o ho => ?_, fun hdirty s hs => ?_⟩
  · rw [origins_contribution] at ho ⊢
    exact origins_of_le h ho
  · have hr : r.isClean = false := by rwa [isClean, origins_contribution] at hdirty
    rw [contribution, if_neg (by rw [isClean_eq_false_of_le h hr]; decide), SortedSet.mem_union] at hs
    rw [contribution, if_neg (by rw [hr]; decide), SortedSet.mem_union]
    exact hs.imp ((le_iff.mp h).2 hr s) (hl s)

theorem kept_mono {l' : Label} (hl : l ≤ l') : l.kept rs ≤ l'.kept rs := by
  refine le_iff.mpr ⟨fun o ho => ?_, fun hdirty => ?_⟩
  · rw [mem_origins_kept] at ho ⊢
    exact ⟨origins_of_le hl ho.1, ho.2⟩
  · obtain ⟨o, ho⟩ := isClean_eq_false_iff.mp hdirty
    exact (le_iff.mp hl).2 (isClean_eq_false_iff.mpr ⟨o, (mem_origins_kept.mp ho).1⟩)

/-- **A larger label and larger results give a larger label.** -/
theorem substitute_mono {l' : Label} (hl : l ≤ l') (h : List.Forall₂ (· ≤ ·) rs rs') :
    l.substitute rs ≤ l'.substitute rs' := by
  obtain ⟨hkept, hparts⟩ := substitute_le_iff.mp (le_refl (l'.substitute rs'))
  rw [← kept_congr h.length_eq] at hkept
  refine substitute_le_iff.mpr ⟨le_trans (kept_mono hl) hkept, fun c hc => ?_⟩
  obtain ⟨k, r, hk, hr, rfl⟩ := mem_contributions.mp hc
  obtain ⟨hlt, rfl⟩ := List.getElem?_eq_some_iff.mp hr
  have hlt' : k < rs'.length := h.length_eq ▸ hlt
  have hle : rs[k] ≤ rs'[k] := h.get hlt hlt'
  have hdirty : l.isClean = false := isClean_eq_false_iff.mpr ⟨_, hk⟩
  exact le_trans (contribution_mono ((le_iff.mp hl).2 hdirty) hle)
    (hparts _ (mem_contributions.mpr
      ⟨k, _, origins_of_le hl hk, List.getElem?_eq_getElem hlt', rfl⟩))

end Substitute

end Label

end TaintFlow
