import TaintFlow.Proofs.Rebinding

/-!
# Where an exception handler starts

An exception may leave the body of a `try` after any of its statements, so a handler should start
from at least the taint that is there after each of them. It starts from the join of the taint
before the body and the taint after all of it, and of what is in between only that is seen which is
still there at one of the two ends.

A variable that is not bound up to a statement has its first label there, and a variable that is
not overwritten from there on keeps its label up to the end; in both cases the handler has at least
that label (`handler_entry_joins_ends`). A variable that is tainted and cleared again within the
body is neither, and a handler takes it for clean (`cleared_taint_unseen`).
-/

namespace TaintFlow

namespace Python

/-! ## 1. Entering a handler -/

/-- Whether a computation with a handler in it enters the handler in a walk: what comes next is
the exception type and the body of the handler, whatever they are, and what follows does not
depend on them. -/
def Enters (cx : FactContext) (m : Option Expr → List Stmt → Walking Unit) (w entered : Walk) :
    Prop :=
  ∃ rest : Walking Unit, ∀ type body, (m type body).run w =
    (do evalOption cx type; walkBlock cx body; rest : Walking Unit).run entered

section Enters

variable {cx : FactContext} {m : Option Expr → List Stmt → Walking Unit} {w entered : Walk}

theorem Enters.before {k : Walking Unit} (h : Enters cx m w entered) :
    Enters cx (fun type body => do m type body; k) w entered := by
  obtain ⟨rest, hrest⟩ := h
  refine ⟨do rest; k, fun type body => ?_⟩
  rw [StateT.run_bind, hrest]
  rfl

/-- **Each handler is entered in the entry state**, however many come before it. -/
theorem enters_walkHandlers (cx : FactContext) (entry merged : TaintState)
    (earlier later : List Handler) (w : Walk) :
    ∃ entered : Walk, entered.state = entry ∧
      Enters cx (fun type body =>
        walkHandlers cx entry merged (earlier ++ .mk type body :: later)) w entered := by
  induction earlier generalizing merged w with
  | nil =>
    refine ⟨w.withState entry, rfl, do
      walkHandlers cx entry (merged.merge (← currentState)) later, fun type body => ?_⟩
    show (walkHandlers cx entry merged (.mk type body :: later)).run w = _
    rw [walkHandlers]
    rfl
  | cons handler earlier ih =>
    obtain ⟨type', body'⟩ := handler
    let after := (do setState entry; evalOption cx type'; walkBlock cx body' : Walking Unit).run w
    obtain ⟨entered, hstate, rest, hrest⟩ := ih (merged.merge after.2.state) after.2
    refine ⟨entered, hstate, rest, fun type body => ?_⟩
    rw [← hrest]
    show (walkHandlers cx entry merged (.mk type' body' :: (earlier ++ .mk type body :: later))).run
      w = _
    rw [walkHandlers]
    rfl

/-- **A handler of a `try` is entered in the join of the states at both ends of the body.** -/
theorem enters_tryExcept (cx : FactContext) (w : Walk) (body orelse final : List Stmt)
    (earlier later : List Handler) :
    ∃ entered : Walk, entered.state = w.state.merge (stateAfter cx w body) ∧
      Enters cx (fun type handling =>
        walkStmt cx (.tryExcept body (earlier ++ .mk type handling :: later) orelse final))
        w entered := by
  let ended := ((walkBlock cx body).run w).2
  let after := ((walkBlock cx orelse).run ended).2
  obtain ⟨entered, hstate, henters⟩ :=
    enters_walkHandlers cx (w.state.merge ended.state) after.state earlier later after
  obtain ⟨rest, hrest⟩ := henters.before (k := walkBlock cx final)
  refine ⟨entered, hstate, rest, fun type handling => ?_⟩
  rw [← hrest]
  show (walkStmt cx (.tryExcept body (earlier ++ .mk type handling :: later) orelse final)).run w =
    _
  rw [walkStmt]
  rfl

end Enters

/-! ## 2. Parts of the body -/

/-- A block is walked part by part. -/
theorem stateAfter_append (cx : FactContext) (w : Walk) (first rest : List Stmt) :
    stateAfter cx w (first ++ rest) =
      stateAfter cx ((walkBlock cx first).run w).2 rest := by
  induction first generalizing w with
  | nil => rfl
  | cons s first ih =>
    rw [List.cons_append, stateAfter, walkBlock, walkBlock]
    exact ih ((walkStmt cx s).run w).2

/-- **A handler sees both ends of the body**: its label of a variable is the join of those before
and after the body. So it has at least the label after a part of the body if the variable is not
bound in that part, or at most added to in the rest. -/
theorem handler_entry_joins_ends (cx : FactContext) (w : Walk) (body orelse final : List Stmt)
    (earlier later : List Handler) :
    ∃ entered : Walk,
      Enters cx (fun type handling =>
        walkStmt cx (.tryExcept body (earlier ++ .mk type handling :: later) orelse final))
        w entered ∧
      ∀ v : String,
        IsLUB {w.state.labelOf v, (stateAfter cx w body).labelOf v} (entered.state.labelOf v) ∧
        ∀ k : Nat, ((∀ b ∈ reboundIn (body.take k), b.var ≠ v) ∨
            ∀ b ∈ reboundIn (body.drop k), b.var = v → b.weak = true) →
          (stateAfter cx w (body.take k)).labelOf v ≤ entered.state.labelOf v := by
  obtain ⟨entered, hstate, henters⟩ := enters_tryExcept cx w body orelse final earlier later
  refine ⟨entered, henters, fun v => ?_⟩
  have hlub : IsLUB {w.state.labelOf v, (stateAfter cx w body).labelOf v}
      (entered.state.labelOf v) := by
    rw [hstate]
    exact TaintState.isLUB_labelOf_merge _ _ v
  refine ⟨hlub, fun k hk => ?_⟩
  rcases hk with hunbound | hkept
  · have hsame : (stateAfter cx w (body.take k)).labelOf v = w.state.labelOf v :=
      congrArg (·.getD .clean) (get?_walkBlock_of_not_bound cx w hunbound)
    rw [hsame]
    exact hlub.1 (Set.mem_insert _ _)
  · have hle := labelOf_le_walkBlock cx ((walkBlock cx (body.take k)).run w).2 hkept
    rw [← stateAfter_append, List.take_append_drop] at hle
    exact le_trans hle (hlub.1 (Set.mem_insert_of_mem _ rfl))

namespace Cleared

/-- `x = p` and then `var = ''` -/
def body (var : String) : List Stmt :=
  [.assign 0 [.name "x"] (.name "p"), .assign 0 [.name var] (.string "")]

/-- `os.system(x)` -/
def handling : List Stmt :=
  [.expr (.call 0 0 (.attr 0 (.name "os") "system") [.name "x"] [])]

/-- The start of `def run(p)`. -/
def start : Walk where
  facts := default
  state := ⟨.ofList [("p", .param 0)]⟩

def context : FactContext where
  registry := .builtin
  file := ⟨"app.py"⟩
  lines := .ofText ""

end Cleared

open Cleared

/-- Where another variable is cleared, the handler sees the taint. -/
theorem kept_taint_seen :
    ∃ entered : Walk,
      Enters context (fun type handling =>
        walkStmt context (.tryExcept (body "y") [.mk type handling] [] [])) start entered ∧
      Label.param 0 ≤ entered.state.labelOf "x" := by
  obtain ⟨entered, henters, hlabels⟩ :=
    handler_entry_joins_ends context start (body "y") [] [] [] []
  have hafter : (stateAfter context start ((body "y").take 1)).labelOf "x" = .param 0 := by decide
  refine ⟨entered, henters, ?_⟩
  rw [← hafter]
  exact (hlabels "x").2 1 (Or.inr (by decide))

/-- **Taint that the body clears again is not seen**: after the first statement `x` is tainted, the
handler is entered with a clean `x`, and its `os.system(x)` is no hit. -/
theorem cleared_taint_unseen :
    (stateAfter context start ((body "x").take 1)).labelOf "x" = .param 0 ∧
    (∃ entered : Walk,
      Enters context (fun type handling =>
        walkStmt context (.tryExcept (body "x") [.mk type handling] [] [])) start entered ∧
      entered.state.labelOf "x" = .clean) ∧
    ((walkStmt context (.tryExcept (body "x") [.mk none handling] [] [])).run
      start).2.facts.sinkHits.map (·.label) = [] ∧
    ((walkStmt context (.tryExcept (body "y") [.mk none handling] [] [])).run
      start).2.facts.sinkHits.map (·.label) = [.param 0] := by
  obtain ⟨entered, hstate, henters⟩ := enters_tryExcept context start (body "x") [] [] [] []
  refine ⟨by decide, ⟨entered, henters, ?_⟩, by decide, by decide⟩
  rw [hstate]
  decide

end Python

end TaintFlow
