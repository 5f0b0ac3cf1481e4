import TaintFlow.Proofs.Scopes
import TaintFlow.Python.Facts

/-!
# The facts of a module are in scope

Every label that a walk writes down is in scope when it is written, and a walk only adds to what
exists. So at the end every label of the facts is in scope, and those at a call site speak of earlier
calls only (`facts_scoped`).

The invariant is carried through a body by `Stays`: from a walk in scope, a computation leads to a walk
in scope in which all that existed still exists, and its result is as described. Each operation on
walks, then each form of expression and statement, is shown to stay in scope.
-/

namespace TaintFlow.Python

/-! ## 1. Walks -/

/-- What the labels of a walk may speak of. -/
def Walk.scope (w : Walk) : LabelScope := w.facts.scope

/-- A walk whose facts and variables are in scope. -/
structure Walk.Scoped (w : Walk) : Prop where
  facts : w.facts.Scoped
  state : w.state.Scoped w.scope

namespace Walk.Scoped

variable {w : Walk} {l : Label}

theorem withState (h : w.Scoped) {t : TaintState} (ht : t.Scoped w.scope) : (w.withState t).Scoped :=
  ⟨h.facts, ht⟩

theorem addReturn (h : w.Scoped) (hl : l.Scoped w.scope) : (w.addReturn l).Scoped where
  facts := ⟨h.facts.calls, h.facts.returns.combine hl, h.facts.sinkHits⟩
  state := h.state

theorem addSinkHits (h : w.Scoped) {hits : List SinkHit}
    (hhits : ∀ hit ∈ hits, hit.label.Scoped w.scope) : (w.addSinkHits hits).Scoped where
  facts := ⟨h.facts.calls, h.facts.returns, fun hit hhit =>
    (List.mem_append.mp hhit).elim (h.facts.sinkHits hit) (hhits hit)⟩
  state := h.state

theorem addSanitizer (h : w.Scoped) (name : String) : (w.addSanitizer name).Scoped :=
  ⟨⟨h.facts.calls, h.facts.returns, h.facts.sinkHits⟩, h.state⟩

theorem within_addSource (w : Walk) (hit : SourceHit) : w.scope.Within (w.addSource hit).scope :=
  ⟨Nat.le_refl _, fun _ h => SortedSet.mem_place_of_mem h, Nat.le_refl _⟩

theorem addSource (h : w.Scoped) (hit : SourceHit) : (w.addSource hit).Scoped := by
  have hwithin : ∀ index, (w.facts.scopeAt index).Within ((w.addSource hit).facts.scopeAt index) :=
    fun index => ⟨Nat.le_refl _, fun _ h => SortedSet.mem_place_of_mem h, Nat.le_refl _⟩
  refine ⟨⟨fun index c hc => ?_, ?_, fun h' hh' => ?_⟩, h.state.mono (within_addSource w hit)⟩
  · obtain ⟨hargs, hresult⟩ := h.facts.calls index c hc
    exact ⟨fun a ha => (hargs a ha).mono (hwithin index), hresult.mono (hwithin index)⟩
  · exact h.facts.returns.mono (hwithin _)
  · exact (h.facts.sinkHits h' hh').mono (hwithin _)

/-- A hit may be there already under another spelling of its place, but its source is there. -/
theorem source_addSource (w : Walk) (hit : SourceHit) :
    (Label.source hit.source.id).Scoped (w.addSource hit).scope := by
  have hplace : ∀ l : List SourceHit, ∃ h ∈ SortedSet.place hit l, h.source = hit.source := by
    intro l
    induction l with
    | nil => exact ⟨hit, List.mem_singleton.mpr rfl, rfl⟩
    | cons y ys ih =>
      rw [SortedSet.place]
      split
      · exact ⟨hit, List.mem_cons_self, rfl⟩
      · rename_i heq
        obtain ⟨_, hsource⟩ := compareLex_eq_eq.mp heq
        exact ⟨y, List.mem_cons_self, (Std.LawfulEqOrd.eq_of_compare hsource).symm⟩
      · obtain ⟨h, hmem, hsource⟩ := ih
        exact ⟨h, List.mem_cons_of_mem _ hmem, hsource⟩
  obtain ⟨h, hmem, hsource⟩ := hplace w.facts.sources.toList
  exact Label.Scoped.ofOrigin ⟨h, hmem, congrArg Source.id hsource⟩

theorem within_addCall (w : Walk) (c : CallSite) : w.scope.Within (w.addCall c).scope := by
  refine LabelScope.within_of_calls_le ?_
  show w.facts.calls.length ≤ (w.facts.calls ++ [c]).length
  rw [List.length_append]
  exact Nat.le_add_right _ _

theorem addCall (h : w.Scoped) {c : CallSite} (hc : c.Scoped w.scope) : (w.addCall c).Scoped := by
  refine ⟨⟨fun index c' hc' => ?_, ?_, fun hit hhit => ?_⟩, h.state.mono (within_addCall w c)⟩
  · have hc' : (w.facts.calls ++ [c])[index]? = some c' := hc'
    rcases Nat.lt_trichotomy index w.facts.calls.length with hlt | rfl | hgt
    · rw [List.getElem?_append_left hlt] at hc'
      exact h.facts.calls index c' hc'
    · rw [List.getElem?_concat_length] at hc'
      cases hc'
      exact hc
    · rw [List.getElem?_eq_none (by rw [List.length_append]; exact hgt)] at hc'
      cases hc'
  · exact h.facts.returns.mono (within_addCall w c)
  · exact (h.facts.sinkHits hit hhit).mono (within_addCall w c)

/-- A call that was noted may be spoken of. -/
theorem call_addCall (w : Walk) (c : CallSite) :
    (Label.call w.facts.calls.length).Scoped (w.addCall c).scope := by
  refine Label.Scoped.ofOrigin ?_
  show w.facts.calls.length < (w.facts.calls ++ [c]).length
  rw [List.length_append]
  exact Nat.lt_succ_self _

end Walk.Scoped

/-! ## 2. Computations that stay in scope -/

/-- From a walk, a computation leads to a walk in scope in which all that existed still exists, and
to a result as described. -/
structure Stays {α : Type} (w : Walk) (m : Walking α) (post : LabelScope → α → Prop) : Prop where
  walk : (m.run w).2.Scoped
  within : w.scope.Within (m.run w).2.scope
  result : post (m.run w).2.scope (m.run w).1

section Stays

variable {α β : Type} {w : Walk} {m : Walking α} {k : α → Walking β} {post : LabelScope → α → Prop}
  {post' : LabelScope → β → Prop}

theorem stays_pure (hw : w.Scoped) {a : α} (ha : post w.scope a) : Stays w (pure a) post :=
  ⟨hw, .refl _, ha⟩

theorem Stays.bind (hm : Stays w m post)
    (hk : ∀ w' a, w'.Scoped → w.scope.Within w'.scope → post w'.scope a → Stays w' (k a) post') :
    Stays w (m >>= k) post' := by
  have h := hk (m.run w).2 (m.run w).1 hm.walk hm.within hm.result
  exact ⟨h.walk, hm.within.trans h.within, h.result⟩

/-- A result that nobody uses may be forgotten. -/
theorem Stays.forget (hm : Stays w m post) : Stays w (discard m) fun _ _ => True :=
  ⟨hm.walk, hm.within, trivial⟩

theorem stays_modifyState (hw : w.Scoped) {f : TaintState → TaintState}
    (hf : (f w.state).Scoped w.scope) : Stays w (modifyState f) fun _ _ => True :=
  ⟨hw.withState hf, .refl _, trivial⟩

theorem stays_setState (hw : w.Scoped) {t : TaintState} (ht : t.Scoped w.scope) :
    Stays w (setState t) fun _ _ => True :=
  ⟨hw.withState ht, .refl _, trivial⟩

theorem stays_currentState (hw : w.Scoped) : Stays w currentState fun s t => t.Scoped s :=
  ⟨hw, .refl _, hw.state⟩

theorem stays_addReturn (hw : w.Scoped) {l : Label} (hl : l.Scoped w.scope) :
    Stays w (modify (·.addReturn l)) fun _ _ => True :=
  ⟨hw.addReturn hl, .refl _, trivial⟩

end Stays

/-! ## 3. Bindings -/

mutual

theorem scoped_bindTarget {s : LabelScope} {l : Label} (hl : l.Scoped s) :
    (e : Expr) → {t : TaintState} → t.Scoped s → (bindTarget l e t).Scoped s
  | .name id, t, ht => by
    rw [bindTarget]
    exact ht.assign id hl
  | .tuple elements, t, ht => by
    rw [bindTarget]
    exact scoped_bindTargets hl elements ht
  | .list elements, t, ht => by
    rw [bindTarget]
    exact scoped_bindTargets hl elements ht
  | .starred value, t, ht => by
    rw [bindTarget]
    exact scoped_bindTarget hl value ht
  | .attr start value field, t, ht => by
    rw [bindTarget]
    split
    · exact ht.assign _ hl
    · exact ht
  | .subscript start value index, t, ht => by
    rw [bindTarget]
    split
    · exact ht.taintWeakly _ hl
    · exact ht
  | .string _, _, ht | .bool _, _, ht | .constant, _, ht | .call .., _, ht | .lambda .., _, ht
  | .yield _, _, ht | .yieldFrom _, _, ht | .named .., _, ht | .compound .., _, ht => by
    rw [bindTarget]
    · exact ht
    all_goals exact nofun

theorem scoped_bindTargets {s : LabelScope} {l : Label} (hl : l.Scoped s) :
    (es : List Expr) → {t : TaintState} → t.Scoped s → (bindTargets l es t).Scoped s
  | [], t, ht => by
    rw [bindTargets]
    exact ht
  | e :: es, t, ht => by
    rw [bindTargets]
    exact scoped_bindTargets hl es (scoped_bindTarget hl e ht)

end

theorem scoped_deleteTargets {s : LabelScope} (targets : List Expr) {t : TaintState}
    (ht : t.Scoped s) : (deleteTargets targets t).Scoped s := by
  rw [deleteTargets]
  induction targets.filterMap Expr.dottedName? generalizing t with
  | nil => exact ht
  | cons name names ih => exact ih (ht.assign name (.clean s))

/-! ## 4. Calls and sources -/

/-- Arguments whose labels are in scope. -/
def ArgsScoped (s : LabelScope) (args : List Argument) : Prop := ∀ a ∈ args, a.label.Scoped s

theorem ArgsScoped.mono {s s' : LabelScope} {args : List Argument} (h : ArgsScoped s args)
    (hs : s.Within s') : ArgsScoped s' args := fun a ha => (h a ha).mono hs

theorem ArgsScoped.combineAll {s : LabelScope} {args : List Argument} (h : ArgsScoped s args)
    {l : Label} (hl : l.Scoped s) : (l.combineAll (args.map (·.label))).Scoped s := by
  refine hl.combineAll fun l' hl' => ?_
  obtain ⟨a, ha, rfl⟩ := List.mem_map.mp hl'
  exact h a ha

section Calls

variable (cx : FactContext) {w : Walk} {c : LabelledCall}

theorem stays_readSource? (hw : w.Scoped) (path : String) (access : Source.Access) (offset : Nat) :
    Stays w (readSource? cx path access offset) fun s read => ∀ l, read = some l → l.Scoped s := by
  rw [readSource?]
  cases cx.registry.source? path access with
  | none => exact stays_pure hw fun l hl => by cases hl
  | some source =>
    refine ⟨hw.addSource _, Walk.Scoped.within_addSource w _, fun l hl => ?_⟩
    cases hl
    exact Walk.Scoped.source_addSource w ⟨cx.locate offset, source⟩

theorem stays_noteSink (hw : w.Scoped) (hargs : ArgsScoped w.scope c.args) :
    Stays w (c.noteSink cx) fun _ _ => True := by
  rw [LabelledCall.noteSink]
  cases cx.registry.sink? c.shape with
  | none => exact stays_pure hw trivial
  | some sink =>
    refine ⟨hw.addSinkHits fun hit hhit => ?_, .refl _, trivial⟩
    obtain ⟨a, ha, rfl⟩ := List.mem_map.mp hhit
    exact hargs a (List.mem_filter.mp ha).1

theorem stays_noteSource (hw : w.Scoped) (hargs : ArgsScoped w.scope c.args)
    (role : Option CallRole) (source : Source) :
    Stays w (c.noteSource role source) fun s l => l.Scoped s := by
  have hsource := Walk.Scoped.source_addSource w ⟨c.location, source⟩
  have hwithin := Walk.Scoped.within_addSource w ⟨c.location, source⟩
  exact ⟨(hw.addSource _).addCall ⟨hargs.mono hwithin, hsource⟩,
    hwithin.trans (Walk.Scoped.within_addCall _ _), hsource.mono (Walk.Scoped.within_addCall _ _)⟩

theorem stays_noteCall (hw : w.Scoped) (hargs : ArgsScoped w.scope c.args) (role : Option CallRole)
    {receiver : Label} (hreceiver : receiver.Scoped w.scope) :
    Stays w (c.noteCall cx role receiver) fun s l => l.Scoped s := by
  have hjoined := hargs.combineAll hreceiver
  rw [LabelledCall.noteCall]
  cases cx.registry.isSanitizer c.name with
  | true =>
    have hresult := hjoined.sanitize c.name
    exact ⟨(hw.addSanitizer c.name).addCall ⟨hargs, hresult⟩, Walk.Scoped.within_addCall _ _,
      hresult.mono (Walk.Scoped.within_addCall _ _)⟩
  | false =>
    -- the result of a sink is that of its arguments, any other call stands for itself
    have hlabel : ∀ site, Label.Scoped (w.addCall site).scope
        (if (false || role == some .sink) = true then receiver.combineAll (c.args.map (·.label))
          else .call w.facts.calls.length) := by
      intro site
      split
      · exact hjoined.mono (Walk.Scoped.within_addCall w site)
      · exact Walk.Scoped.call_addCall w site
    exact ⟨hw.addCall ⟨hargs, hjoined⟩, Walk.Scoped.within_addCall _ _, hlabel _⟩

end Calls

/-! ## 5. Expressions -/

mutual

/-- **The label of an expression is in scope.** -/
theorem stays_eval (cx : FactContext) :
    (e : Expr) → {w : Walk} → w.Scoped → Stays w (eval cx e) fun s l => l.Scoped s
  | .name id, w, hw => by
    rw [eval]
    exact ⟨hw, .refl _, hw.state.labelOf id⟩
  | .string value, w, hw => by
    rw [eval]
    exact stays_pure hw (.clean _)
  | .bool value, w, hw => by
    rw [eval]
    exact stays_pure hw (.clean _)
  | .constant, w, hw => by
    rw [eval]
    exact stays_pure hw (.clean _)
  | .attr start value field, w, hw => by
    have hvalue := fun w => stays_eval cx value (w := w)
    rw [eval]
    cases (Expr.attr start value field).dottedName? with
    | none => exact hvalue w hw
    | some path =>
      refine (stays_currentState hw).bind fun w₁ t hw₁ _ ht => ?_
      split
      · rename_i label hlabel
        exact stays_pure hw₁ (ht path label hlabel).1
      · refine (stays_readSource? cx hw₁ path .read start).bind fun w₂ read hw₂ _ hread => ?_
        split
        · exact stays_pure hw₂ (hread _ rfl)
        · exact hvalue w₂ hw₂
  | .subscript start value index, w, hw => by
    have hparts : ∀ w₁ : Walk, w₁.Scoped → Stays w₁ (do
        let container ← eval cx value
        let key ← eval cx index
        pure (container.combine key)) fun s l => l.Scoped s := by
      intro w₁ hw₁
      refine (stays_eval cx value hw₁).bind fun w₂ container hw₂ _ hcontainer => ?_
      refine (stays_eval cx index hw₂).bind fun w₃ key hw₃ hin hkey => ?_
      exact stays_pure hw₃ ((hcontainer.mono hin).combine hkey)
    rw [eval]
    cases value.dottedName? with
    | none => exact hparts w hw
    | some path =>
      refine (stays_readSource? cx hw path .subscript start).bind fun w₁ read hw₁ _ hread => ?_
      dsimp only
      split
      · exact stays_pure hw₁ (hread _ rfl)
      · exact hparts w₁ hw₁
  | .call start stop callee args keywords, w, hw => by
    have hcallee := fun w => stays_eval cx callee (w := w)
    have hreceiver := fun w => stays_evalReceiver cx callee (w := w)
    rw [eval]
    refine (stays_evalArgs cx 0 args hw).bind fun w₁ positional hw₁ _ hpositional => ?_
    refine (stays_evalKeywords cx keywords hw₁).bind fun w₂ named hw₂ hin₂ hnamed => ?_
    have hargs : ArgsScoped w₂.scope (positional ++ named) := fun a ha =>
      (List.mem_append.mp ha).elim ((hpositional.mono hin₂) a) (hnamed a)
    cases callee.callName? with
    | none =>
      refine (hcallee w₂ hw₂).bind fun w₃ value hw₃ hin₃ hvalue => ?_
      exact stays_pure hw₃ ((hargs.mono hin₃).combineAll hvalue)
    | some name =>
      refine (stays_noteSink cx hw₂ hargs).bind fun w₃ role hw₃ hin₃ _ => ?_
      cases cx.registry.source? name .call with
      | some source => exact stays_noteSource hw₃ (hargs.mono hin₃) role source
      | none =>
        refine (hreceiver w₃ hw₃).bind fun w₄ receiver hw₄ hin₄ hlabel => ?_
        exact stays_noteCall cx hw₄ ((hargs.mono hin₃).mono hin₄) role hlabel
  | .lambda defaults body, w, hw => by
    rw [eval]
    exact stays_pure hw (.clean _)
  | .yield none, w, hw => by
    rw [eval]
    exact stays_pure hw (.clean _)
  | .yield (some value), w, hw => by
    rw [eval]
    refine (stays_eval cx value hw).bind fun w₁ label hw₁ _ hlabel => ?_
    exact (stays_addReturn hw₁ hlabel).bind fun w₂ _ hw₂ _ _ => stays_pure hw₂ (.clean _)
  | .yieldFrom value, w, hw => by
    rw [eval]
    refine (stays_eval cx value hw).bind fun w₁ label hw₁ _ hlabel => ?_
    exact (stays_addReturn hw₁ hlabel).bind fun w₂ _ hw₂ _ _ => stays_pure hw₂ (.clean _)
  | .named target value, w, hw => by
    rw [eval]
    refine (stays_eval cx value hw).bind fun w₁ label hw₁ _ hlabel => ?_
    refine (stays_modifyState hw₁ (scoped_bindTarget hlabel target hw₁.state)).bind
      fun w₂ _ hw₂ hin _ => ?_
    exact stays_pure hw₂ (hlabel.mono hin)
  | .starred value, w, hw => by
    rw [eval]
    exact stays_eval cx value hw
  | .tuple elements, w, hw => by
    rw [eval]
    exact stays_evalAll cx elements hw (.clean _)
  | .list elements, w, hw => by
    rw [eval]
    exact stays_evalAll cx elements hw (.clean _)
  | .compound kind parts, w, hw => by
    rw [eval]
    exact stays_evalAll cx parts hw (.clean _)

theorem stays_evalAll (cx : FactContext) :
    (es : List Expr) → {w : Walk} → w.Scoped → {label : Label} → label.Scoped w.scope →
      Stays w (evalAll cx label es) fun s l => l.Scoped s
  | [], w, hw, label, hlabel => by
    rw [evalAll]
    exact stays_pure hw hlabel
  | e :: es, w, hw, label, hlabel => by
    rw [evalAll]
    refine (stays_eval cx e hw).bind fun w₁ part hw₁ hin hpart => ?_
    exact stays_evalAll cx es hw₁ ((hlabel.mono hin).combine hpart)

theorem stays_evalArgs (cx : FactContext) (index : Nat) :
    (args : List Expr) → {w : Walk} → w.Scoped → Stays w (evalArgs cx index args) ArgsScoped
  | [], w, hw => by
    rw [evalArgs]
    exact stays_pure hw nofun
  | e :: rest, w, hw => by
    have he := stays_eval cx e hw
    have hrest := fun index w => stays_evalArgs cx index rest (w := w)
    rw [evalArgs.eq_def]
    split
    · exact absurd ‹_› (List.cons_ne_nil _ _)
    · rename_i heq
      cases heq
      rw [eval] at he
      refine he.bind fun w₁ label hw₁ _ hlabel => ?_
      refine (hrest _ w₁ hw₁).bind fun w₂ args hw₂ hin hargs => ?_
      exact stays_pure hw₂ (List.forall_mem_cons.mpr ⟨hlabel.mono hin, hargs⟩)
    · rename_i heq
      cases heq
      refine he.bind fun w₁ label hw₁ _ hlabel => ?_
      refine (hrest _ w₁ hw₁).bind fun w₂ args hw₂ hin hargs => ?_
      exact stays_pure hw₂ (List.forall_mem_cons.mpr ⟨hlabel.mono hin, hargs⟩)

theorem stays_evalKeywords (cx : FactContext) :
    (keywords : List Keyword) → {w : Walk} → w.Scoped →
      Stays w (evalKeywords cx keywords) ArgsScoped
  | [], w, hw => by
    rw [evalKeywords]
    exact stays_pure hw nofun
  | .mk name value :: rest, w, hw => by
    rw [evalKeywords]
    refine (stays_eval cx value hw).bind fun w₁ label hw₁ _ hlabel => ?_
    refine (stays_evalKeywords cx rest hw₁).bind fun w₂ args hw₂ hin hargs => ?_
    exact stays_pure hw₂ (List.forall_mem_cons.mpr ⟨hlabel.mono hin, hargs⟩)

theorem stays_evalReceiver (cx : FactContext) :
    (callee : Expr) → {w : Walk} → w.Scoped →
      Stays w (evalReceiver cx callee) fun s l => l.Scoped s
  | .attr start value field, w, hw => by
    rw [evalReceiver]
    exact stays_eval cx value hw
  | .name _, w, hw | .string _, w, hw | .bool _, w, hw | .constant, w, hw | .subscript .., w, hw
  | .call .., w, hw | .lambda .., w, hw | .yield _, w, hw | .yieldFrom _, w, hw | .named .., w, hw
  | .starred _, w, hw | .tuple _, w, hw | .list _, w, hw | .compound .., w, hw => by
    rw [evalReceiver]
    · exact stays_pure hw (.clean _)
    · exact nofun

end

theorem stays_evalOption (cx : FactContext) (e : Option Expr) {w : Walk} (hw : w.Scoped) :
    Stays w (evalOption cx e) fun _ _ => True := by
  cases e with
  | none => exact stays_pure hw trivial
  | some e => exact (stays_eval cx e hw).forget

/-! ## 6. Statements -/

theorem stays_sanitizeInPlace (cx : FactContext) (e : Expr) {w : Walk} (hw : w.Scoped) :
    Stays w (sanitizeInPlace cx e) fun _ _ => True := by
  rw [sanitizeInPlace.eq_def]
  split
  · split
    · split
      · exact stays_modifyState hw (hw.state.sanitize _ _)
      · exact stays_pure hw trivial
    · exact stays_pure hw trivial
  · exact stays_pure hw trivial

theorem stays_walkItems (cx : FactContext) (items : List WithItem) {w : Walk} (hw : w.Scoped) :
    Stays w (walkItems cx items) fun _ _ => True := by
  induction items generalizing w with
  | nil => exact stays_pure hw trivial
  | cons item rest ih =>
    rw [walkItems]
    refine (stays_eval cx item.context hw).bind fun w₁ label hw₁ _ hlabel => ?_
    cases item.target with
    | none => exact ih hw₁
    | some target =>
      exact (stays_modifyState hw₁ (scoped_bindTarget hlabel target hw₁.state)).bind
        fun w₂ _ hw₂ _ _ => ih hw₂

/-- A branch starts from a given state and hands on the state at its end. -/
theorem stays_branch (cx : FactContext) (test : Option Expr) {w : Walk} (hw : w.Scoped)
    {start : TaintState} (hstart : start.Scoped w.scope) {body : Walking Unit}
    (hbody : ∀ {w : Walk}, w.Scoped → Stays w body fun _ _ => True) {k : TaintState → Walking Unit}
    (hk : ∀ (w' : Walk) (after : TaintState), w'.Scoped → w.scope.Within w'.scope →
      after.Scoped w'.scope → Stays w' (k after) fun _ _ => True) :
    Stays w (do setState start; evalOption cx test; body; k (← currentState)) fun _ _ => True := by
  refine (stays_setState hw hstart).bind fun w₁ _ hw₁ hin₁ _ => ?_
  refine (stays_evalOption cx test hw₁).bind fun w₂ _ hw₂ hin₂ _ => ?_
  refine (hbody hw₂).bind fun w₃ _ hw₃ hin₃ _ => ?_
  refine (stays_currentState hw₃).bind fun w₄ after hw₄ hin₄ hafter => ?_
  exact hk w₄ after hw₄ (((hin₁.trans hin₂).trans hin₃).trans hin₄) hafter

mutual

theorem stays_walkBlock (cx : FactContext) :
    (block : List Stmt) → {w : Walk} → w.Scoped → Stays w (walkBlock cx block) fun _ _ => True
  | [], w, hw => by
    rw [walkBlock]
    exact stays_pure hw trivial
  | s :: ss, w, hw => by
    rw [walkBlock]
    exact (stays_walkStmt cx s hw).bind fun w₁ _ hw₁ _ _ => stays_walkBlock cx ss hw₁

/-- **A statement stays in scope.** -/
theorem stays_walkStmt (cx : FactContext) :
    (s : Stmt) → {w : Walk} → w.Scoped → Stays w (walkStmt cx s) fun _ _ => True
  | .assign start targets value, w, hw => by
    rw [walkStmt]
    exact (stays_eval cx value hw).bind fun w₁ label hw₁ _ hlabel =>
      stays_modifyState hw₁ (scoped_bindTargets hlabel targets hw₁.state)
  | .annAssign target hint none, w, hw => by
    rw [walkStmt]
    · exact stays_pure hw trivial
    all_goals exact nofun
  | .annAssign target hint (some value), w, hw => by
    rw [walkStmt]
    exact (stays_eval cx value hw).bind fun w₁ label hw₁ _ hlabel =>
      stays_modifyState hw₁ (scoped_bindTarget hlabel target hw₁.state)
  | .augAssign target value, w, hw => by
    rw [walkStmt]
    refine (stays_eval cx value hw).bind fun w₁ added hw₁ _ hadded => ?_
    refine (stays_eval cx target hw₁).bind fun w₂ held hw₂ hin hheld => ?_
    exact stays_modifyState hw₂
      (scoped_bindTarget ((hadded.mono hin).combine hheld) target hw₂.state)
  | .expr value, w, hw => by
    rw [walkStmt]
    exact (stays_eval cx value hw).forget.bind fun w₁ _ hw₁ _ _ => stays_sanitizeInPlace cx value hw₁
  | .ret none, w, hw => by
    rw [walkStmt]
    · exact stays_pure hw trivial
    all_goals exact nofun
  | .ret (some value), w, hw => by
    rw [walkStmt]
    exact (stays_eval cx value hw).bind fun w₁ label hw₁ _ hlabel => stays_addReturn hw₁ hlabel
  | .raise exception cause, w, hw => by
    rw [walkStmt]
    exact (stays_evalOption cx exception hw).bind fun w₁ _ hw₁ _ _ => stays_evalOption cx cause hw₁
  | .assert test message, w, hw => by
    rw [walkStmt]
    exact (stays_eval cx test hw).forget.bind fun w₁ _ hw₁ _ _ => stays_evalOption cx message hw₁
  | .ifElse test body clauses, w, hw => by
    rw [walkStmt]
    refine (stays_eval cx test hw).forget.bind fun w₁ _ hw₁ _ _ => ?_
    refine (stays_currentState hw₁).bind fun w₂ before hw₂ _ hbefore => ?_
    refine (stays_walkBlock cx body hw₂).bind fun w₃ _ hw₃ hin₃ _ => ?_
    refine (stays_currentState hw₃).bind fun w₄ after hw₄ hin₄ hafter => ?_
    exact stays_walkClauses cx false clauses hw₄ ((hbefore.mono hin₃).mono hin₄) hafter
  | .forLoop target iter body orelse, w, hw => by
    rw [walkStmt]
    refine (stays_eval cx iter hw).bind fun w₁ label hw₁ _ hlabel => ?_
    refine (stays_currentState hw₁).bind fun w₂ before hw₂ hin₂ hbefore => ?_
    refine (stays_modifyState hw₂ (scoped_bindTarget (hlabel.mono hin₂) target hw₂.state)).bind
      fun w₃ _ hw₃ hin₃ _ => ?_
    refine (stays_walkBlock cx body hw₃).bind fun w₄ _ hw₄ hin₄ _ => ?_
    have hmerged := hw₄.state.merge ((hbefore.mono hin₃).mono hin₄)
    refine (stays_modifyState (f := (·.merge before)) hw₄ hmerged).bind fun w₅ _ hw₅ _ _ => ?_
    exact stays_walkBlock cx orelse hw₅
  | .whileLoop test body orelse, w, hw => by
    rw [walkStmt]
    refine (stays_eval cx test hw).forget.bind fun w₁ _ hw₁ _ _ => ?_
    refine (stays_currentState hw₁).bind fun w₂ before hw₂ _ hbefore => ?_
    refine (stays_walkBlock cx body hw₂).bind fun w₃ _ hw₃ hin₃ _ => ?_
    have hmerged := hw₃.state.merge (hbefore.mono hin₃)
    refine (stays_modifyState (f := (·.merge before)) hw₃ hmerged).bind fun w₄ _ hw₄ _ _ => ?_
    exact stays_walkBlock cx orelse hw₄
  | .withItems items body, w, hw => by
    rw [walkStmt]
    exact (stays_walkItems cx items hw).bind fun w₁ _ hw₁ _ _ => stays_walkBlock cx body hw₁
  | .tryExcept body handlers orelse final, w, hw => by
    rw [walkStmt]
    refine (stays_currentState hw).bind fun w₁ before hw₁ _ hbefore => ?_
    refine (stays_walkBlock cx body hw₁).bind fun w₂ _ hw₂ hin₂ _ => ?_
    refine (stays_currentState hw₂).bind fun w₃ reached hw₃ hin₃ hreached => ?_
    have hentry := ((hbefore.mono hin₂).mono hin₃).merge hreached
    refine (stays_walkBlock cx orelse hw₃).bind fun w₄ _ hw₄ hin₄ _ => ?_
    refine (stays_currentState hw₄).bind fun w₅ after hw₅ hin₅ hafter => ?_
    refine (stays_walkHandlers cx handlers hw₅ ((hentry.mono hin₄).mono hin₅) hafter).bind
      fun w₆ _ hw₆ _ _ => ?_
    exact stays_walkBlock cx final hw₆
  | .matchOn subject cases, w, hw => by
    rw [walkStmt]
    refine (stays_eval cx subject hw).forget.bind fun w₁ _ hw₁ _ _ => ?_
    refine (stays_currentState hw₁).bind fun w₂ before hw₂ _ hbefore => ?_
    exact stays_walkCases cx cases hw₂ hbefore hbefore
  | .delete targets, w, hw => by
    rw [walkStmt]
    exact stays_modifyState hw (scoped_deleteTargets targets hw.state)
  | .functionDef .., w, hw | .classDef .., w, hw | .typeAlias .., w, hw | .importModules .., w, hw
  | .importFrom .., w, hw | .plain, w, hw => by
    rw [walkStmt]
    · exact stays_pure hw trivial
    all_goals exact nofun

theorem stays_walkClauses (cx : FactContext) (hasElse : Bool) :
    (clauses : List Clause) → {w : Walk} → w.Scoped → {before merged : TaintState} →
      before.Scoped w.scope → merged.Scoped w.scope →
        Stays w (walkClauses cx before merged hasElse clauses) fun _ _ => True
  | [], w, hw, before, merged, hbefore, hmerged => by
    rw [walkClauses]
    refine stays_setState hw ?_
    split
    · exact hmerged
    · exact hmerged.merge hbefore
  | .mk test body :: rest, w, hw, before, merged, hbefore, hmerged => by
    rw [walkClauses]
    refine stays_branch cx test hw hbefore (fun hw => stays_walkBlock cx body hw) ?_
    intro w₁ after hw₁ hin hafter
    exact stays_walkClauses cx _ rest hw₁ (hbefore.mono hin) ((hmerged.mono hin).merge hafter)

theorem stays_walkHandlers (cx : FactContext) :
    (handlers : List Handler) → {w : Walk} → w.Scoped → {entry merged : TaintState} →
      entry.Scoped w.scope → merged.Scoped w.scope →
        Stays w (walkHandlers cx entry merged handlers) fun _ _ => True
  | [], w, hw, entry, merged, _, hmerged => by
    rw [walkHandlers]
    exact stays_setState hw hmerged
  | .mk type body :: rest, w, hw, entry, merged, hentry, hmerged => by
    rw [walkHandlers]
    refine stays_branch cx type hw hentry (fun hw => stays_walkBlock cx body hw) ?_
    intro w₁ after hw₁ hin hafter
    exact stays_walkHandlers cx rest hw₁ (hentry.mono hin) ((hmerged.mono hin).merge hafter)

theorem stays_walkCases (cx : FactContext) :
    (cases : List Case) → {w : Walk} → w.Scoped → {before merged : TaintState} →
      before.Scoped w.scope → merged.Scoped w.scope →
        Stays w (walkCases cx before merged cases) fun _ _ => True
  | [], w, hw, before, merged, _, hmerged => by
    rw [walkCases]
    exact stays_setState hw hmerged
  | .mk pattern guard body :: rest, w, hw, before, merged, hbefore, hmerged => by
    rw [walkCases]
    refine stays_branch cx guard hw hbefore (fun hw => stays_walkBlock cx body hw) ?_
    intro w₁ after hw₁ hin hafter
    exact stays_walkCases cx rest hw₁ (hbefore.mono hin) ((hmerged.mono hin).merge hafter)

end

/-! ## 7. Functions -/

/-- A function without labels is in scope. -/
theorem scoped_start {f : FunctionFacts} (hcalls : f.calls = []) (hreturns : f.returns = .clean)
    (hhits : f.sinkHits = []) : Walk.Scoped ⟨f, .empty⟩ := by
  refine ⟨⟨fun index c hc => ?_, ?_, fun h hh => ?_⟩, .empty _⟩
  · rw [hcalls] at hc
    cases hc
  · rw [hreturns]
    exact .clean _
  · rw [hhits] at hh
    cases hh

theorem scoped_declareParam (at_ : Location) {w : Walk} (hw : w.Scoped) {index : Nat}
    (hindex : index < w.facts.params.length) (p : DeclaredParam) :
    (declareParam at_ w index p).Scoped ∧
      (declareParam at_ w index p).facts.params = w.facts.params := by
  rw [declareParam]
  have hparam : (Label.param index).Scoped w.scope := Label.Scoped.ofOrigin hindex
  split
  · exact ⟨hw.withState (hw.state.assign _ hparam), rfl⟩
  · rename_i source _
    have hin := Walk.Scoped.within_addSource w ⟨at_, source⟩
    have hlabel := (hparam.mono hin).combine (Walk.Scoped.source_addSource w ⟨at_, source⟩)
    exact ⟨(hw.addSource ⟨at_, source⟩).withState ((hw.state.mono hin).assign _ hlabel), rfl⟩

theorem scoped_declareParams (at_ : Location) (ps : List DeclaredParam) {w : Walk} (hw : w.Scoped)
    {index : Nat} (hindex : index + ps.length ≤ w.facts.params.length) :
    (declareParams at_ w index ps).Scoped := by
  induction ps generalizing w index with
  | nil => exact hw
  | cons p ps ih =>
    rw [List.length_cons] at hindex
    obtain ⟨hscoped, hparams⟩ := scoped_declareParam at_ hw (by omega : index < _) p
    exact ih hscoped (by rw [hparams]; omega)

theorem scoped_entry (cx : FactContext) (module : String) (d : FunctionDef) :
    (d.entry cx module).Scoped := by
  refine scoped_declareParams _ _ (scoped_start rfl rfl rfl) ?_
  exact Nat.le_of_eq (by rw [Nat.zero_add, List.length_map])

theorem scoped_bodyFacts (cx : FactContext) (module : String) (m : Module) :
    (m.bodyFacts cx module).Scoped :=
  (stays_walkBlock cx m.body (scoped_start rfl rfl rfl)).walk.facts

theorem scoped_functionFacts (cx : FactContext) (module : String) (d : FunctionDef) :
    (d.facts cx module).Scoped :=
  (stays_walkBlock cx d.body (scoped_entry cx module d)).walk.facts

/-- **The facts of a module are in scope**: in every label each parameter, source and call exists, at
a call site only earlier calls are named, and a label without origins has no sanitizers. -/
theorem facts_scoped (m : Module) (module : String) (file : Path) (registry : Registry) :
    ∀ f ∈ m.facts module file registry, f.Scoped :=
  List.forall_mem_cons.mpr ⟨scoped_bodyFacts _ module m,
    List.forall_mem_map.mpr fun d _ => scoped_functionFacts _ module d⟩

/-- `def ask(p): x = input(); return wrap(int(x), p)` -/
def ask : Module where
  source := ""
  body :=
    [.functionDef 0 [] "ask" [] { positional := [{ name := "p" }] } none
      [.assign 0 [.name "x"] (.call 0 0 (.name "input") [] []),
        .ret (some (.call 0 0 (.name "wrap")
          [.call 0 0 (.name "int") [.name "x"] [], .name "p"] []))]]

/-- Of three calls the last one's arguments are a sanitized source and a parameter, and its result is
returned. -/
theorem ask_facts_scoped :
    ∃ f ∈ ask.facts "app" ⟨"app.py"⟩ .builtin, f.Scoped ∧ f.returns = .call 2 ∧
      f.calls.map (fun c => c.args.map (·.label)) =
        [[], [.ofOrigin (.source "builtins.input")],
          [(Label.ofOrigin (.source "builtins.input")).sanitize "int", .param 0]] := by
  have hmem : (ask.facts "app" ⟨"app.py"⟩ .builtin)[1] ∈ ask.facts "app" ⟨"app.py"⟩ .builtin :=
    List.getElem_mem (by decide)
  exact ⟨_, hmem, facts_scoped ask "app" ⟨"app.py"⟩ .builtin _ hmem, by decide, by decide⟩

end TaintFlow.Python
