import TaintFlow.Proofs.WalkInduction

/-!
# What a walk notes

A walk only adds to the facts of a function. `Notes` says all that it can add, with one constructor for
each kind of entry: sources, sanitizers and returned labels come alone, a call comes with the hits of
the sink that it may be. The hits are noted before the receiver of the call is looked at and the call
site after it, so whatever the receiver notes stands between the two.

Every expression and every statement notes in this way and in no other (`noting_rules`), so what is
said of all noted facts is shown by induction on `Notes` and needs no second look at the syntax.
-/

namespace TaintFlow.Python

/-! ## 1. Noting -/

/-- The hits of a call, if it is one of a sink. -/
def LabelledCall.sinkHits (cx : FactContext) (c : LabelledCall) : List SinkHit :=
  match cx.registry.sink? c.shape with
  | none => []
  | some sink => sinkHitsOf cx.registry sink c.location c.args

/-- A call site that was written down for a call; the role of a sink goes before any other. -/
structure LabelledCall.WrittenAs (cx : FactContext) (c : LabelledCall) (site : CallSite) : Prop where
  location : site.location = c.location
  args : site.args = c.args
  role : ∀ sink, cx.registry.sink? c.shape = some sink → site.role = some .sink

/-- What a walk can do to the facts of a function. -/
inductive Notes (cx : FactContext) : FunctionFacts → FunctionFacts → Prop where
  | refl (f : FunctionFacts) : Notes cx f f
  | trans {f g h : FunctionFacts} (hfg : Notes cx f g) (hgh : Notes cx g h) : Notes cx f h
  | source (f : FunctionFacts) (hit : SourceHit) :
      Notes cx f { f with sources := f.sources.insert hit }
  | sanitizer (f : FunctionFacts) (name : String) :
      Notes cx f { f with sanitizers := f.sanitizers.insert name }
  | returned (f : FunctionFacts) (label : Label) :
      Notes cx f { f with returns := f.returns.combine label }
  /-- First the hits of a call, then what its receiver notes, then the call site. -/
  | call {f g : FunctionFacts} (c : LabelledCall) (site : CallSite) (hsite : c.WrittenAs cx site)
      (hreceiver : Notes cx { f with sinkHits := f.sinkHits ++ c.sinkHits cx } g) :
      Notes cx f { g with calls := g.calls ++ [site] }

/-- Hits are only added, after those that were there. -/
theorem Notes.sinkHits_extended {cx : FactContext} {f g : FunctionFacts} (h : Notes cx f g) :
    f.sinkHits <+: g.sinkHits := by
  induction h with
  | refl | source | sanitizer | returned => exact List.prefix_rfl
  | trans _ _ ihfg ihgh => exact ihfg.trans ihgh
  | call c site _ _ ih => exact (List.prefix_append _ _).trans ih

section Noting

variable {cx : FactContext} {α β : Type} {m : Walking α} {k : α → Walking β}

/-- Whether a computation changes the facts by noting only. -/
def Noting (cx : FactContext) (m : Walking α) : Prop :=
  ∀ w : Walk, Notes cx w.facts (m.run w).2.facts

/-- A computation that leaves the facts alone notes nothing. -/
theorem noting_of_same (h : ∀ w : Walk, (m.run w).2.facts = w.facts) : Noting cx m := by
  intro w
  rw [h w]
  exact .refl _

theorem noting_pure (a : α) : Noting cx (pure a) := noting_of_same fun _ => rfl

theorem noting_currentState : Noting cx currentState := noting_of_same fun _ => rfl

theorem Noting.bind (hm : Noting cx m) (hk : ∀ a, Noting cx (k a)) : Noting cx (m >>= k) :=
  fun w => (hm w).trans (hk (m.run w).1 (m.run w).2)

end Noting

/-! ## 2. Calls and sources -/

section Calls

variable {cx : FactContext}

theorem noting_readSource? (path : String) (access : Source.Access) (offset : Nat) :
    Noting cx (readSource? cx path access offset) := by
  intro w
  rw [readSource?]
  split
  · exact .refl _
  · exact .source w.facts _

/-- The hits of a call are noted first, and its role is that of a sink if it is one. -/
theorem LabelledCall.run_noteSink (cx : FactContext) (c : LabelledCall) (w : Walk) :
    ((c.noteSink cx).run w).2.facts =
        { w.facts with sinkHits := w.facts.sinkHits ++ c.sinkHits cx } ∧
      ∀ sink, cx.registry.sink? c.shape = some sink → ((c.noteSink cx).run w).1 = some .sink := by
  rw [noteSink, sinkHits]
  cases cx.registry.sink? c.shape with
  | none =>
    refine ⟨?_, nofun⟩
    rw [List.append_nil]
    rfl
  | some sink => exact ⟨rfl, fun _ _ => rfl⟩

theorem LabelledCall.run_noteSource (c : LabelledCall) (role : Option CallRole) (source : Source)
    (w : Walk) :
    ∃ site : CallSite, site.location = c.location ∧ site.args = c.args ∧
      (role = some .sink → site.role = some .sink) ∧
      ((c.noteSource role source).run w).2.facts =
        { w.facts with
          sources := w.facts.sources.insert ⟨c.location, source⟩
          calls := w.facts.calls ++ [site] } := by
  refine ⟨_, rfl, rfl, ?_, rfl⟩
  rintro rfl
  rfl

theorem LabelledCall.run_noteCall (cx : FactContext) (c : LabelledCall) (role : Option CallRole)
    (receiver : Label) (w : Walk) :
    ∃ site : CallSite, site.location = c.location ∧ site.args = c.args ∧
      (role = some .sink → site.role = some .sink) ∧
      ∃ g, Notes cx w.facts g ∧ ((c.noteCall cx role receiver).run w).2.facts =
        { g with calls := g.calls ++ [site] } := by
  rw [noteCall]
  cases cx.registry.isSanitizer c.name with
  | true =>
    refine ⟨_, rfl, rfl, ?_, _, .sanitizer w.facts c.name, rfl⟩
    rintro rfl
    rfl
  | false => exact ⟨_, rfl, rfl, fun h => h, _, .refl w.facts, rfl⟩

/-- The hits of a call are noted, then what its receiver notes, then the call site. -/
theorem LabelledCall.run_note (c : LabelledCall) {receiver : Walking Label}
    (h : Noting cx receiver) (w : Walk) :
    ∃ site g, c.WrittenAs cx site ∧
      Notes cx { w.facts with sinkHits := w.facts.sinkHits ++ c.sinkHits cx } g ∧
      ((c.note cx receiver).run w).2.facts = { g with calls := g.calls ++ [site] } := by
  obtain ⟨hhits, hsink⟩ := c.run_noteSink cx w
  rw [note]
  cases cx.registry.source? c.name .call with
  | some source =>
    obtain ⟨site, hlocation, hargs, hrole, hfacts⟩ :=
      c.run_noteSource ((c.noteSink cx).run w).1 source ((c.noteSink cx).run w).2
    rw [hhits] at hfacts
    exact ⟨site, _, ⟨hlocation, hargs, fun sink hs => hrole (hsink sink hs)⟩, .source _ _, hfacts⟩
  | none =>
    have hreceiver := h ((c.noteSink cx).run w).2
    obtain ⟨site, hlocation, hargs, hrole, g, hnotes, hfacts⟩ :=
      c.run_noteCall cx ((c.noteSink cx).run w).1 (receiver.run ((c.noteSink cx).run w).2).1
        (receiver.run ((c.noteSink cx).run w).2).2
    rw [hhits] at hreceiver
    exact ⟨site, g, ⟨hlocation, hargs, fun sink hs => hrole (hsink sink hs)⟩,
      hreceiver.trans hnotes, hfacts⟩

/-- **A call notes its hits and then its site**, with whatever its receiver notes in between. -/
theorem notes_call (c : LabelledCall) {receiver : Walking Label} (h : Noting cx receiver) :
    Noting cx (c.note cx receiver) := by
  intro w
  obtain ⟨site, g, hsite, hnotes, hfacts⟩ := c.run_note h w
  rw [hfacts]
  exact .call c site hsite hnotes

/-- **A walk notes only**, whatever it binds. -/
theorem noting_rules (cx : FactContext) :
    WalkRules cx (fun _ => True) (fun _ => True) fun _ m => Noting cx m where
  give := noting_pure
  seq := Noting.bind
  forget hm := hm
  look hk := noting_currentState.bind fun s => hk s trivial
  reset _ := noting_of_same fun _ => rfl
  change _ := noting_of_same fun _ => rfl
  addReturn label w := .returned w.facts label
  readSource := noting_readSource?
  note := notes_call
  merge _ _ := trivial
  assign _ _ _ := trivial
  taintWeakly _ _ _ := trivial
  sanitize _ _ _ := trivial

theorem notes_evalReceiver (cx : FactContext) (callee : Expr) :
    Noting cx (evalReceiver cx callee) :=
  holds_evalReceiver (noting_rules cx) callee fun _ _ => trivial

theorem notes_walkBlock (cx : FactContext) (block : List Stmt) : Noting cx (walkBlock cx block) :=
  holds_walkBlock (noting_rules cx) block fun _ _ => trivial

end Calls

/-! ## 3. Functions -/

theorem notes_declareParams (cx : FactContext) (at_ : Location) (ps : List DeclaredParam) (w : Walk)
    (index : Nat) : Notes cx w.facts (declareParams at_ w index ps).facts := by
  induction ps generalizing w index with
  | nil => exact .refl _
  | cons p ps ih =>
    refine Notes.trans ?_ (ih (declareParam at_ w index p) (index + 1))
    rw [declareParam]
    split
    · exact .refl _
    · exact .source w.facts _

/-- The facts of a function are noted from facts without hits. -/
theorem notes_functionFacts (cx : FactContext) (module : String) (d : FunctionDef) :
    ∃ f : FunctionFacts, f.sinkHits = [] ∧ Notes cx f (d.facts cx module) :=
  ⟨_, rfl, (notes_declareParams cx _ _ _ 0).trans (notes_walkBlock cx d.body _)⟩

theorem notes_bodyFacts (cx : FactContext) (module : String) (m : Module) :
    ∃ f : FunctionFacts, f.sinkHits = [] ∧ Notes cx f (m.bodyFacts cx module) :=
  ⟨_, rfl, notes_walkBlock cx m.body _⟩

end TaintFlow.Python
