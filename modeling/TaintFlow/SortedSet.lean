/-!
# Finite sets kept in ascending order

A label is two finite sets, and every place that lists such a set lists it in ascending order
without repeats. `SortedSet` keeps that order in the type: a value is a list together with the
proof that the list ascends strictly. Two sets with the same members are therefore equal
(`SortedSet.ext_iff_mem`), so set laws can be read off membership alone.

Of two elements that compare equal the one that came first stays, so a set of elements with a
coarse order keeps the first spelling of each.
-/

namespace TaintFlow

/-- Every element stands strictly before all that follow it. -/
def Ascending {α : Type} [Ord α] (l : List α) : Prop :=
  l.Pairwise fun a b => compare a b = .lt

/-- A finite set, written as its strictly ascending list of elements. -/
structure SortedSet (α : Type) [Ord α] where
  /-- The elements in ascending order. -/
  toList : List α
  /-- The list ascends strictly, so it repeats nothing. -/
  ascending : Ascending toList

namespace SortedSet

variable {α : Type} [Ord α]

/-! ## 1. Insertion into an ascending list -/

/-- Puts an element at its place; an equal element already there stays. -/
def place (x : α) : List α → List α
  | [] => [x]
  | y :: ys =>
    match compare x y with
    | .lt => x :: y :: ys
    | .eq => y :: ys
    | .gt => y :: place x ys

/-- Placing adds nothing but the element. -/
theorem mem_of_mem_place {a x : α} {l : List α} (h : a ∈ place x l) : a = x ∨ a ∈ l := by
  induction l with
  | nil => simpa [place] using h
  | cons y ys ih =>
    rw [place] at h
    split at h
    · simpa using h
    · exact Or.inr h
    · rcases List.mem_cons.mp h with rfl | h
      · simp
      · rcases ih h with rfl | h
        · simp
        · simp [h]

/-- Placing keeps what was there. -/
theorem mem_place_of_mem {a x : α} {l : List α} (h : a ∈ l) : a ∈ place x l := by
  induction l with
  | nil => simp at h
  | cons y ys ih =>
    rw [place]
    split
    · exact List.mem_cons_of_mem _ h
    · exact h
    · rcases List.mem_cons.mp h with rfl | h
      · simp
      · exact List.mem_cons_of_mem _ (ih h)

/-- Placing keeps the list ascending. -/
theorem ascending_place [Std.TransOrd α] (x : α) {l : List α} (h : Ascending l) :
    Ascending (place x l) := by
  induction l with
  | nil => simp [place, Ascending]
  | cons y ys ih =>
    obtain ⟨hy, hys⟩ := List.pairwise_cons.mp h
    rw [place]
    split
    · rename_i hxy
      refine List.pairwise_cons.mpr ⟨fun b hb => ?_, h⟩
      rcases List.mem_cons.mp hb with rfl | hb
      · exact hxy
      · exact Std.TransCmp.lt_trans hxy (hy b hb)
    · exact h
    · rename_i hxy
      refine List.pairwise_cons.mpr ⟨fun b hb => ?_, ih hys⟩
      rcases mem_of_mem_place hb with rfl | hb
      · exact Std.OrientedCmp.gt_iff_lt.mp hxy
      · exact hy b hb

/-! ## 2. Sets -/

/-- The set without elements. -/
def empty : SortedSet α := ⟨[], List.Pairwise.nil⟩

instance : EmptyCollection (SortedSet α) := ⟨empty⟩

instance : Inhabited (SortedSet α) := ⟨empty⟩

/-- The set of one element. -/
def singleton (a : α) : SortedSet α := ⟨[a], List.pairwise_singleton _ a⟩

instance : Membership α (SortedSet α) := ⟨fun s a => a ∈ s.toList⟩

instance [DecidableEq α] (a : α) (s : SortedSet α) : Decidable (a ∈ s) :=
  inferInstanceAs (Decidable (a ∈ s.toList))

instance [DecidableEq α] : DecidableEq (SortedSet α) := fun s t =>
  match decEq s.toList t.toList with
  | isTrue h => isTrue (by cases s; cases t; cases h; rfl)
  | isFalse h => isFalse fun e => h (congrArg toList e)

instance [Repr α] : Repr (SortedSet α) := ⟨fun s n => reprPrec s.toList n⟩

/-- Adds an element; one that compares equal and is already there stays. -/
def insert [Std.TransOrd α] (s : SortedSet α) (a : α) : SortedSet α :=
  ⟨place a s.toList, ascending_place a s.ascending⟩

/-- The set of the elements of a list, in whatever order and however often they stand in it. -/
def ofList [Std.TransOrd α] (l : List α) : SortedSet α := l.foldl insert empty

/-- Everything in either set. -/
def union [Std.TransOrd α] (s t : SortedSet α) : SortedSet α := t.toList.foldl insert s

/-- The elements that pass a test. -/
def filter (p : α → Bool) (s : SortedSet α) : SortedSet α :=
  ⟨s.toList.filter p, s.ascending.filter p⟩

/-- Whether some element compares equal to `a`. -/
def contains (s : SortedSet α) (a : α) : Bool := s.toList.any fun b => compare a b == .eq

/-- Everything in both sets. -/
def inter (s t : SortedSet α) : SortedSet α := s.filter t.contains

/-- Whether the set has no elements. -/
def isEmpty (s : SortedSet α) : Bool := s.toList.isEmpty

/-- The number of elements. -/
def size (s : SortedSet α) : Nat := s.toList.length

/-- Whether some element passes a test. -/
def any (s : SortedSet α) (p : α → Bool) : Bool := s.toList.any p

/-! ## 3. Membership -/

theorem mem_def {a : α} {s : SortedSet α} : a ∈ s ↔ a ∈ s.toList := Iff.rfl

@[simp] theorem not_mem_empty {a : α} : ¬ a ∈ (empty : SortedSet α) := List.not_mem_nil

@[simp] theorem mem_singleton {a b : α} : a ∈ singleton b ↔ a = b := List.mem_singleton

@[simp] theorem mem_filter {a : α} {p : α → Bool} {s : SortedSet α} :
    a ∈ s.filter p ↔ a ∈ s ∧ p a = true := List.mem_filter

variable [Std.LawfulEqOrd α]

/-- An element that was placed is in the list. -/
theorem self_mem_place (x : α) (l : List α) : x ∈ place x l := by
  induction l with
  | nil => simp [place]
  | cons y ys ih =>
    rw [place]
    split
    · simp
    · rename_i h
      simp [Std.LawfulEqOrd.eq_of_compare h]
    · simp [ih]

/-- The Boolean test agrees with membership. -/
theorem contains_iff {a : α} {s : SortedSet α} : s.contains a = true ↔ a ∈ s := by
  simp only [contains, List.any_eq_true, beq_iff_eq, mem_def]
  exact ⟨fun ⟨b, hb, e⟩ => Std.LawfulEqOrd.eq_of_compare e ▸ hb,
    fun h => ⟨a, h, Std.ReflOrd.compare_self⟩⟩

@[simp] theorem mem_inter {a : α} {s t : SortedSet α} : a ∈ s.inter t ↔ a ∈ s ∧ a ∈ t := by
  rw [inter, mem_filter, contains_iff]

variable [Std.TransOrd α]

@[simp] theorem mem_insert {a x : α} {s : SortedSet α} : a ∈ s.insert x ↔ a = x ∨ a ∈ s :=
  ⟨mem_of_mem_place, fun h => h.elim (fun e => e ▸ self_mem_place x s.toList) mem_place_of_mem⟩

theorem mem_foldl_insert {a : α} {l : List α} {s : SortedSet α} :
    a ∈ l.foldl insert s ↔ a ∈ s ∨ a ∈ l := by
  induction l generalizing s with
  | nil => simp
  | cons x xs ih => rw [List.foldl_cons, ih, mem_insert, List.mem_cons, or_assoc, or_left_comm]

@[simp] theorem mem_ofList {a : α} {l : List α} : a ∈ ofList l ↔ a ∈ l := by
  rw [ofList, mem_foldl_insert]; simp

@[simp] theorem mem_union {a : α} {s t : SortedSet α} : a ∈ s.union t ↔ a ∈ s ∨ a ∈ t :=
  mem_foldl_insert

end SortedSet

/-! ## 4. Sets with the same members are equal -/

/-- Strictly ascending lists with the same elements are equal. -/
theorem Ascending.eq_of_mem_iff {α : Type} [Ord α] [Std.TransOrd α] :
    ∀ {l m : List α}, Ascending l → Ascending m → (∀ a, a ∈ l ↔ a ∈ m) → l = m
  | [], [], _, _, _ => rfl
  | [], b :: _, _, _, h => absurd ((h b).mpr List.mem_cons_self) List.not_mem_nil
  | a :: _, [], _, _, h => absurd ((h a).mp List.mem_cons_self) List.not_mem_nil
  | a :: l, b :: m, hl, hm, h => by
    obtain ⟨ha, hl'⟩ := List.pairwise_cons.mp hl
    obtain ⟨hb, hm'⟩ := List.pairwise_cons.mp hm
    have irrefl : ∀ c : α, compare c c ≠ .lt := fun c => by
      rw [Std.ReflOrd.compare_self]; simp
    have hab : a = b := by
      rcases List.mem_cons.mp ((h a).mp List.mem_cons_self) with e | hab
      · exact e
      · rcases List.mem_cons.mp ((h b).mpr List.mem_cons_self) with e | hba
        · exact e.symm
        · exact absurd (Std.TransCmp.lt_trans (ha b hba) (hb a hab)) (irrefl a)
    subst hab
    have rest : ∀ c, c ∈ l ↔ c ∈ m := fun c =>
      ⟨fun hc => (List.mem_cons.mp ((h c).mp (List.mem_cons_of_mem _ hc))).elim
          (fun e => absurd (ha c hc) (e ▸ irrefl c)) id,
        fun hc => (List.mem_cons.mp ((h c).mpr (List.mem_cons_of_mem _ hc))).elim
          (fun e => absurd (hb c hc) (e ▸ irrefl c)) id⟩
    rw [Ascending.eq_of_mem_iff hl' hm' rest]

/-- A set is determined by its members. -/
theorem SortedSet.ext_iff_mem {α : Type} [Ord α] [Std.TransOrd α] {s t : SortedSet α} :
    s = t ↔ ∀ a, a ∈ s ↔ a ∈ t := by
  refine ⟨fun e _ => e ▸ Iff.rfl, fun h => ?_⟩
  have e : s.toList = t.toList := Ascending.eq_of_mem_iff s.ascending t.ascending h
  cases s; cases t; cases e; rfl

/-- Adding what is there already changes nothing. -/
theorem SortedSet.insert_of_mem {α : Type} [Ord α] [Std.TransOrd α] [Std.LawfulEqOrd α]
    {s : SortedSet α} {a : α} (h : a ∈ s) : s.insert a = s := by
  refine ext_iff_mem.mpr fun b => ?_
  rw [mem_insert]
  exact or_iff_right_of_imp fun e => e ▸ h

end TaintFlow
