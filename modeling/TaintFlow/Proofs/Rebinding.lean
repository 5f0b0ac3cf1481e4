import TaintFlow.Proofs.JoinedArms
import TaintFlow.Proofs.WalkInduction

/-!
# Variables that a walk rebinds

A property of the entry of a variable that passes from both sides of a join to the join is kept by a
walk, as long as every binding of the variable on the way keeps it (`keeps_rules`).

Two such properties are of use. To have a fixed entry is kept if the variable is not bound
(`get?_walkBlock_of_not_bound`); to have at least a given label is kept also if the variable is only
added to (`labelOf_le_walkBlock`).
-/

namespace TaintFlow

/-! ## 1. Entries -/

namespace TaintState

variable {var v : String}

theorem get?_assign_of_ne (s : TaintState) (l : Label) (h : var ≠ v) :
    (s.assign var l).get? v = s.get? v := by
  rw [assign]
  split
  · rw [get?, SortedMap.get?_erase, if_neg fun e => h (Std.LawfulEqOrd.eq_of_compare e), get?]
  · rw [get?, SortedMap.get?_insert, if_neg fun e => h (Std.LawfulEqOrd.eq_of_compare e).symm, get?]

theorem get?_sanitize_of_ne (s : TaintState) (name : String) (h : var ≠ v) :
    (s.sanitize var name).get? v = s.get? v := by
  rw [sanitize]
  split
  · rw [get?, SortedMap.get?_insert, if_neg fun e => h (Std.LawfulEqOrd.eq_of_compare e).symm, get?]
  · rfl

/-- Adding taint leaves other entries, and joins a label onto that of the variable. -/
theorem get?_taintWeakly (s : TaintState) (var v : String) (l : Label) :
    (s.taintWeakly var l).get? v = s.get? v ∨
      var = v ∧ (s.taintWeakly var l).get? v = (s.get? v).merge Label.combine (some l) := by
  rw [taintWeakly]
  split
  · exact Or.inl rfl
  · rw [get?_joinOnto]
    split
    · rename_i hcompare
      have hv : v = var := Std.LawfulEqOrd.eq_of_compare hcompare
      subst hv
      refine Or.inr ⟨rfl, ?_⟩
      cases s.get? v <;> rfl
    · exact Or.inl rfl

end TaintState

namespace Python

/-! ## 2. Keeping a property of an entry -/

/-- Whether a property of entries passes from both sides of a join to the join. -/
def JoinClosed (I : Option Label → Prop) : Prop := ∀ x y, I x → I y → I (x.merge Label.combine y)

/-- Whether a binding leaves alone a property of the entry of a variable: it does not overwrite the
variable, and if it adds to it then the property is kept by adding. -/
def Rebound.Spares (I : Option Label → Prop) (v : String) (b : Rebound) : Prop :=
  b.var = v → b.weak = true ∧ ∀ x l, I x → I (x.merge Label.combine (some l))

/-- A variable that is overwritten is another one. -/
theorem Rebound.Spares.ne {I : Option Label → Prop} {v var : String}
    (h : Rebound.Spares I v ⟨var, false⟩) : var ≠ v := by
  intro heq
  have hweak := (h heq).1
  cases hweak

/-- Whether a computation keeps a property of the entry of a variable. -/
def Keeps (I : Option Label → Prop) (v : String) {α : Type} (m : Walking α) : Prop :=
  ∀ w : Walk, I (w.state.get? v) → I ((m.run w).2.state.get? v)

section Keeps

variable {I : Option Label → Prop} {v : String} {cx : FactContext}

/-- A computation that leaves the variables alone keeps everything. -/
theorem keeps_of_same {α : Type} {m : Walking α} (h : ∀ w : Walk, (m.run w).2.state = w.state) :
    Keeps I v m := by
  intro w hw
  rw [h w]
  exact hw

theorem keeps_readSource? (path : String) (access : Source.Access) (offset : Nat) :
    Keeps I v (readSource? cx path access offset) := by
  refine keeps_of_same fun w => ?_
  rw [readSource?]
  cases cx.registry.source? path access <;> rfl

theorem keeps_noteSink (c : LabelledCall) : Keeps I v (c.noteSink cx) := by
  refine keeps_of_same fun w => ?_
  rw [LabelledCall.noteSink]
  cases cx.registry.sink? c.shape <;> rfl

theorem keeps_noteCall (c : LabelledCall) (role : Option CallRole) (receiver : Label) :
    Keeps I v (c.noteCall cx role receiver) := by
  refine keeps_of_same fun w => ?_
  rw [LabelledCall.noteCall]
  cases cx.registry.isSanitizer c.name <;> rfl

theorem Keeps.bind {α β : Type} {m : Walking α} {k : α → Walking β} (hm : Keeps I v m)
    (hk : ∀ a, Keeps I v (k a)) : Keeps I v (m >>= k) :=
  fun w hw => hk (m.run w).1 (m.run w).2 (hm w hw)

/-- Noting a call does to the variables what its receiver does. -/
theorem keeps_note (c : LabelledCall) {receiver : Walking Label} (h : Keeps I v receiver) :
    Keeps I v (c.note cx receiver) := by
  rw [LabelledCall.note]
  refine (keeps_noteSink c).bind fun role => ?_
  split
  · exact keeps_of_same fun _ => rfl
  · exact h.bind fun label => keeps_noteCall c role label

theorem spares_taintWeakly {s : TaintState} {var : String} (label : Label)
    (h : Rebound.Spares I v ⟨var, true⟩) (hs : I (s.get? v)) :
    I ((s.taintWeakly var label).get? v) := by
  rcases TaintState.get?_taintWeakly s var v label with hget | ⟨hvar, hget⟩
  · rw [hget]
    exact hs
  · rw [hget]
    exact (h hvar).2 _ _ hs

/-- **A walk keeps what its bindings spare and its joins keep.** -/
theorem keeps_rules (cx : FactContext) (v : String) (hjoin : JoinClosed I) :
    WalkRules cx (Rebound.Spares I v) (fun s => I (s.get? v)) fun _ m => Keeps I v m where
  give _ := keeps_of_same fun _ => rfl
  seq := Keeps.bind
  forget hm := hm
  look hk w hw := hk w.state hw w hw
  reset hs _ _ := hs
  change hf w hw := hf w.state hw
  addReturn _ := keeps_of_same fun _ => rfl
  readSource := keeps_readSource?
  note := keeps_note
  merge {s t} hs ht := by
    rw [TaintState.get?_merge]
    exact hjoin _ _ hs ht
  assign {s _} label hvar hs := by
    rw [TaintState.get?_assign_of_ne s label hvar.ne]
    exact hs
  taintWeakly := spares_taintWeakly
  sanitize {s _} name hvar hs := by
    rw [TaintState.get?_sanitize_of_ne s name hvar.ne]
    exact hs

end Keeps

/-! ## 3. Variables that are not overwritten -/

/-- The taint of the variables after a block. -/
def stateAfter (cx : FactContext) (w : Walk) (block : List Stmt) : TaintState :=
  ((walkBlock cx block).run w).2.state

/-- **A variable that a block does not bind keeps its entry.** -/
theorem get?_walkBlock_of_not_bound (cx : FactContext) (w : Walk) {block : List Stmt} {v : String}
    (h : ∀ b ∈ reboundIn block, b.var ≠ v) : (stateAfter cx w block).get? v = w.state.get? v := by
  have hjoin : JoinClosed (· = w.state.get? v) := by
    rintro x y rfl rfl
    cases w.state.get? v with
    | none => rfl
    | some l => exact congrArg some l.combine_self
  exact holds_walkBlock (keeps_rules cx v hjoin) block (fun b hb hvar => absurd hvar (h b hb)) w rfl

/-- **A variable that a block at most adds to has at least its label after it.** -/
theorem labelOf_le_walkBlock (cx : FactContext) (w : Walk) {block : List Stmt} {v : String}
    (h : ∀ b ∈ reboundIn block, b.var = v → b.weak = true) :
    w.state.labelOf v ≤ (stateAfter cx w block).labelOf v := by
  have hjoin : JoinClosed fun x => w.state.labelOf v ≤ x.getD .clean := by
    intro x y hx hy
    cases x with
    | none => cases y <;> exact hy
    | some a =>
      cases y with
      | none => exact hx
      | some b => exact le_trans hx (Label.le_combine_left a b)
  have hadd : ∀ (x : Option Label) (l : Label), w.state.labelOf v ≤ x.getD .clean →
      w.state.labelOf v ≤ (x.merge Label.combine (some l)).getD .clean := by
    intro x l hx
    cases x with
    | none => exact le_trans hx (Label.le_of_isClean rfl)
    | some a => exact le_trans hx (Label.le_combine_left a l)
  exact holds_walkBlock (keeps_rules cx v hjoin) block (fun b hb hvar => ⟨h b hb hvar, hadd⟩) w
    (le_refl _)

end Python

end TaintFlow
