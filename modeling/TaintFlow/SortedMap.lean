import TaintFlow.SortedSet

/-!
# Finite maps kept in ascending key order

The project, its graphs and its reports list keyed things in key order. `SortedMap` is the list
of entries together with the proof that the keys ascend strictly, so a key occurs once and two
maps with the same entries are equal. Replacing the value of a key keeps the key that is there:
with a coarse key order the first spelling of a key stays.
-/

namespace TaintFlow

/-- A finite map, written as its entries in strictly ascending key order. -/
structure SortedMap (κ ν : Type) [Ord κ] where
  /-- The entries in key order. -/
  toList : List (κ × ν)
  /-- Keys ascend strictly. -/
  ascending : toList.Pairwise fun a b => compare a.1 b.1 = .lt

namespace SortedMap

variable {κ ν : Type} [Ord κ]

/-! ## 1. Entries of an ascending list -/

/-- Changes the value at a key: `f` sees the present value and gives the new one. -/
def placeEntry (k : κ) (f : Option ν → ν) : List (κ × ν) → List (κ × ν)
  | [] => [(k, f none)]
  | (k', v) :: rest =>
    match compare k k' with
    | .lt => (k, f none) :: (k', v) :: rest
    | .eq => (k', f (some v)) :: rest
    | .gt => (k', v) :: placeEntry k f rest

/-- Every key after a change is the changed key or was there before. -/
theorem key_of_mem_placeEntry {k : κ} {f : Option ν → ν} {e : κ × ν} {l : List (κ × ν)}
    (h : e ∈ placeEntry k f l) : e.1 = k ∨ ∃ e' ∈ l, e'.1 = e.1 := by
  induction l with
  | nil => simp only [placeEntry, List.mem_singleton] at h; exact Or.inl (h ▸ rfl)
  | cons y ys ih =>
    rw [placeEntry] at h
    split at h
    · rcases List.mem_cons.mp h with rfl | h
      · exact Or.inl rfl
      · exact Or.inr ⟨e, h, rfl⟩
    · rcases List.mem_cons.mp h with rfl | h
      · exact Or.inr ⟨y, List.mem_cons_self, rfl⟩
      · exact Or.inr ⟨e, List.mem_cons_of_mem _ h, rfl⟩
    · rcases List.mem_cons.mp h with rfl | h
      · exact Or.inr ⟨y, List.mem_cons_self, rfl⟩
      · rcases ih h with hk | ⟨e', he', hk⟩
        · exact Or.inl hk
        · exact Or.inr ⟨e', List.mem_cons_of_mem _ he', hk⟩

/-- A change keeps the keys ascending. -/
theorem ascending_placeEntry [Std.TransOrd κ] (k : κ) (f : Option ν → ν) {l : List (κ × ν)}
    (h : l.Pairwise fun a b => compare a.1 b.1 = .lt) :
    (placeEntry k f l).Pairwise fun a b => compare a.1 b.1 = .lt := by
  induction l with
  | nil => simp [placeEntry]
  | cons y ys ih =>
    obtain ⟨hy, hys⟩ := List.pairwise_cons.mp h
    rw [placeEntry]
    split
    · rename_i hk
      refine List.pairwise_cons.mpr ⟨fun b hb => ?_, h⟩
      rcases List.mem_cons.mp hb with rfl | hb
      · exact hk
      · exact Std.TransCmp.lt_trans hk (hy b hb)
    · exact List.pairwise_cons.mpr ⟨hy, hys⟩
    · rename_i hk
      refine List.pairwise_cons.mpr ⟨fun b hb => ?_, ih hys⟩
      rcases key_of_mem_placeEntry hb with e | ⟨b', hb', e⟩
      · rw [e]; exact Std.OrientedCmp.gt_iff_lt.mp hk
      · rw [← e]; exact hy b' hb'

/-! ## 2. Maps -/

/-- The map without entries. -/
def empty : SortedMap κ ν := ⟨[], List.Pairwise.nil⟩

instance : EmptyCollection (SortedMap κ ν) := ⟨empty⟩

instance : Inhabited (SortedMap κ ν) := ⟨empty⟩

instance [DecidableEq κ] [DecidableEq ν] : DecidableEq (SortedMap κ ν) := fun s t =>
  match decEq s.toList t.toList with
  | isTrue h => isTrue (by cases s; cases t; cases h; rfl)
  | isFalse h => isFalse fun e => h (congrArg toList e)

instance [Repr κ] [Repr ν] : Repr (SortedMap κ ν) := ⟨fun s n => reprPrec s.toList n⟩

/-- The map of one entry. -/
def singleton (k : κ) (v : ν) : SortedMap κ ν := ⟨[(k, v)], List.pairwise_singleton _ _⟩

/-- The value at a key. -/
def get? (m : SortedMap κ ν) (k : κ) : Option ν :=
  (m.toList.find? fun e => compare k e.1 == .eq).map (·.2)

/-- Whether a key has a value. -/
def contains (m : SortedMap κ ν) (k : κ) : Bool := (m.get? k).isSome

/-- Changes the value at a key, given the present one if there is one. -/
def alter [Std.TransOrd κ] (m : SortedMap κ ν) (k : κ) (f : Option ν → ν) : SortedMap κ ν :=
  ⟨placeEntry k f m.toList, ascending_placeEntry k f m.ascending⟩

/-- Sets the value at a key. -/
def insert [Std.TransOrd κ] (m : SortedMap κ ν) (k : κ) (v : ν) : SortedMap κ ν :=
  m.alter k fun _ => v

/-- The map of a list of entries; of several values for a key the last stays. -/
def ofList [Std.TransOrd κ] (l : List (κ × ν)) : SortedMap κ ν :=
  l.foldl (fun m e => m.insert e.1 e.2) empty

/-- The entries that pass a test. -/
def filter (p : κ → ν → Bool) (m : SortedMap κ ν) : SortedMap κ ν :=
  ⟨m.toList.filter fun e => p e.1 e.2, m.ascending.filter _⟩

/-- Drops a key. -/
def erase (m : SortedMap κ ν) (k : κ) : SortedMap κ ν :=
  m.filter fun k' _ => compare k k' != .eq

/-- Changes every value. -/
def mapValues {μ : Type} (f : κ → ν → μ) (m : SortedMap κ ν) : SortedMap κ μ :=
  ⟨m.toList.map fun e => (e.1, f e.1 e.2),
    List.pairwise_map.mpr (m.ascending.imp fun h => h)⟩

/-- The keys in order. -/
def keys (m : SortedMap κ ν) : List κ := m.toList.map (·.1)

/-- The values in key order. -/
def values (m : SortedMap κ ν) : List ν := m.toList.map (·.2)

/-- The number of entries. -/
def size (m : SortedMap κ ν) : Nat := m.toList.length

/-- Whether there is no entry. -/
def isEmpty (m : SortedMap κ ν) : Bool := m.toList.isEmpty

end SortedMap

end TaintFlow
