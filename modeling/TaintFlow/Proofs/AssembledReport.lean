import TaintFlow.Proofs.InsertionOrder
import TaintFlow.Report.Assemble

/-!
# What a report is made of

Findings are merged through a map from identities, and the merged ones are ranked. What stands in a
report can be said without the map: for each identity the findings that have it, in their order, are
merged into the first of them (`mem_values_mergedFindings`). Merging keeps the first and joins onto it
what each later one adds (`Consolidates.merge`), so a whole group is consolidated by induction.

Ranking does not tell all findings apart: two that differ in their sinks only may tie. They stay in
the order of the map then, which is that of the identities, so a report depends on the list only
through the findings of each identity (`assemble_eq_of_mem_iff`). Assembling a report again therefore
changes nothing, nor does permuting a list without duplicates (`assembly_deduplicates_and_ranks`).
-/

namespace TaintFlow

namespace Finding

variable {u v w : Finding}

/-! ## 1. Findings with one identity -/

/-- Whether two findings are the same: they are between the same places and on the same path. -/
def sameAs (v w : Finding) : Bool :=
  v.source.location.same w.source.location && v.sink.location.same w.sink.location &&
    v.signature == w.signature

theorem compare_identity_eq_iff : compare v.identity w.identity = .eq ↔ v.sameAs w = true := by
  have hcompare : compare v.identity w.identity = .eq ↔
      compare v.source.location w.source.location = .eq ∧
        compare v.sink.location w.sink.location = .eq ∧ compare v.signature w.signature = .eq :=
    compareLex_eq_eq.trans (and_congr_right fun _ => compareLex_eq_eq)
  have hsignature : compare v.signature w.signature = .eq ↔ v.signature = w.signature :=
    Std.LawfulEqCmp.compare_eq_iff_eq
  rw [hcompare, hsignature, sameAs, Bool.and_eq_true, Bool.and_eq_true, beq_iff_eq, Location.same,
    Location.same, beq_iff_eq, beq_iff_eq, and_assoc]

theorem sameAs_self (v : Finding) : v.sameAs v = true :=
  compare_identity_eq_iff.mp Std.ReflOrd.compare_self

theorem sameAs_symm (h : v.sameAs w = true) : w.sameAs v = true :=
  compare_identity_eq_iff.mp (Std.OrientedCmp.eq_symm (compare_identity_eq_iff.mpr h))

theorem sameAs_trans (h : u.sameAs v = true) (h' : v.sameAs w = true) : u.sameAs w = true :=
  compare_identity_eq_iff.mp
    (Std.TransCmp.eq_trans (compare_identity_eq_iff.mpr h) (compare_identity_eq_iff.mpr h'))

/-- No two findings of a list are the same. -/
def Distinct (vs : List Finding) : Prop := vs.Pairwise fun v w => v.sameAs w = false

theorem Distinct.perm {vs ws : List Finding} (h : Distinct vs) (hperm : vs.Perm ws) :
    Distinct ws := by
  refine (hperm.pairwise_iff fun {v w} hvw => ?_).mp h
  exact Bool.eq_false_iff.mpr fun hwv => Bool.eq_false_iff.mp hvw (sameAs_symm hwv)

/-! ## 2. Consolidating a group -/

/-- A finding that stands for a group: the surest confidence and the sanitizers of all of them, and
all else but the score from the first. -/
structure Consolidates (group : List Finding) (w : Finding) : Prop where
  /-- One of the group is as sure. -/
  confidence : ∃ v ∈ group, v.confidence = w.confidence
  /-- None of the group is surer. -/
  surest : ∀ v ∈ group, v.confidence.rank ≤ w.confidence.rank
  sanitizers : ∀ name, name ∈ w.sanitizers ↔ ∃ v ∈ group, name ∈ v.sanitizers
  others : ∃ first, group.head? = some first ∧
    w = { first with confidence := w.confidence, score := w.score, sanitizers := w.sanitizers }

theorem consolidates_singleton (v : Finding) : Consolidates [v] v where
  confidence := ⟨v, List.mem_cons_self, rfl⟩
  surest u hu := Nat.le_of_eq (congrArg (·.confidence.rank) (List.mem_singleton.mp hu))
  sanitizers name := by simp
  others := ⟨v, rfl, rfl⟩

/-- The surer of two confidences. -/
theorem rank_confidence_merge (w v : Finding) :
    (w.merge v).confidence.rank = max w.confidence.rank v.confidence.rank := by
  unfold merge
  dsimp only
  split <;> omega

theorem confidence_merge (w v : Finding) :
    (w.merge v).confidence = w.confidence ∨ (w.merge v).confidence = v.confidence := by
  unfold merge
  dsimp only
  split
  · exact Or.inr rfl
  · exact Or.inl rfl

theorem mem_sanitizers_merge {name : String} :
    name ∈ (w.merge v).sanitizers ↔ name ∈ w.sanitizers ∨ name ∈ v.sanitizers :=
  SortedSet.mem_ofList.trans List.mem_append

/-- **One more finding in the group is merged into what stands for it.** -/
theorem Consolidates.merge {group : List Finding} (h : Consolidates group w) (v : Finding) :
    Consolidates (group ++ [v]) (w.merge v) where
  confidence := by
    rcases confidence_merge w v with hw | hv
    · obtain ⟨u, hu, hconfidence⟩ := h.confidence
      exact ⟨u, List.mem_append_left _ hu, hconfidence.trans hw.symm⟩
    · exact ⟨v, List.mem_append_right _ List.mem_cons_self, hv.symm⟩
  surest := by
    intro u hu
    rw [rank_confidence_merge]
    rcases List.mem_append.mp hu with hu | hu
    · have := h.surest u hu
      omega
    · rw [List.mem_singleton.mp hu]
      omega
  sanitizers := by
    intro name
    rw [mem_sanitizers_merge, h.sanitizers]
    simp only [List.mem_append, List.mem_singleton, or_and_right, exists_or, exists_eq_left]
  others := by
    obtain ⟨first, hfirst, hw⟩ := h.others
    refine ⟨first, by rw [List.head?_append, hfirst]; rfl, ?_⟩
    rw [hw]
    rfl

theorem Consolidates.foldl_merge {group : List Finding} (h : Consolidates group w)
    (vs : List Finding) : Consolidates (group ++ vs) (vs.foldl Finding.merge w) := by
  induction vs generalizing group w with
  | nil => rwa [List.append_nil]
  | cons v vs ih =>
    rw [List.append_cons]
    exact ih (h.merge v)

/-- What stands for a group has the identity of the first. -/
theorem identity_foldl_merge (v : Finding) (vs : List Finding) :
    (vs.foldl merge v).identity = v.identity := by
  induction vs generalizing v with
  | nil => rfl
  | cons u vs ih => exact ih (v.merge u)

end Finding

open Finding

/-! ## 3. The map of identities -/

/-- Joins a finding onto what there is for its identity. -/
def mergeOnto (present : Option Finding) (v : Finding) : Option Finding :=
  match present with
  | some p => some (p.merge v)
  | none => some v

theorem foldl_mergeOnto (v : Finding) (vs : List Finding) :
    vs.foldl mergeOnto (some v) = some (vs.foldl Finding.merge v) := by
  induction vs generalizing v with
  | nil => rfl
  | cons u vs ih => exact ih (v.merge u)

section Merged

variable {vs : List Finding} {k : FindingIdentity} {v w : Finding}

/-- **Under an identity stand the findings that have it, merged in their order.** -/
theorem get?_mergedFindings (vs : List Finding) (k : FindingIdentity) :
    (mergedFindings vs).get? k =
      (vs.filter fun v => compare k v.identity == .eq).foldl mergeOnto none := by
  have hfold : ∀ m : SortedMap FindingIdentity Finding,
      (vs.foldl (fun merged v => merged.alter v.identity fun
        | some present => present.merge v
        | none => v) m).get? k =
      (vs.filter fun v => compare k v.identity == .eq).foldl mergeOnto (m.get? k) := by
    induction vs with
    | nil => exact fun _ => rfl
    | cons v vs ih =>
      intro m
      rw [List.foldl_cons, ih, SortedMap.get?_alter, List.filter_cons]
      by_cases hk : compare k v.identity = .eq
      · rw [if_pos hk, if_pos (beq_iff_eq.mpr hk), List.foldl_cons, SortedMap.get?_congr (m := m) hk]
        cases m.get? v.identity <;> rfl
      · rw [if_neg hk, if_neg fun h => hk (beq_iff_eq.mp h)]
  exact hfold ∅

/-- What is found under an identity is a merged group and has the identity itself. -/
theorem exists_group_of_get? (h : (mergedFindings vs).get? k = some w) :
    compare k w.identity = .eq ∧ ∃ first rest,
      (vs.filter fun v => compare k v.identity == .eq) = first :: rest ∧
        w = rest.foldl Finding.merge first := by
  rw [get?_mergedFindings] at h
  cases hgroup : vs.filter fun v => compare k v.identity == .eq with
  | nil =>
    rw [hgroup] at h
    cases h
  | cons first rest =>
    rw [hgroup, List.foldl_cons] at h
    have hw : rest.foldl Finding.merge first = w := by
      have := (foldl_mergeOnto first rest).symm.trans h
      exact Option.some.inj this
    have hfirst : first ∈ vs.filter fun v => compare k v.identity == .eq :=
      hgroup ▸ List.mem_cons_self
    refine ⟨?_, first, rest, rfl, hw.symm⟩
    rw [← hw, identity_foldl_merge]
    exact beq_iff_eq.mp (List.mem_filter.mp hfirst).2

theorem filter_identity (w : Finding) (vs : List Finding) :
    (vs.filter fun v => compare w.identity v.identity == .eq) = vs.filter w.sameAs := by
  refine List.filter_congr fun v _ => ?_
  rw [Bool.eq_iff_iff, beq_iff_eq, compare_identity_eq_iff]

/-- **The merged findings are the merged groups of one identity.** -/
theorem mem_values_mergedFindings : w ∈ (mergedFindings vs).values ↔
    ∃ first rest, vs.filter w.sameAs = first :: rest ∧ w = rest.foldl Finding.merge first := by
  rw [SortedMap.mem_values_iff]
  constructor
  · rintro ⟨k, hk⟩
    have hown : (mergedFindings vs).get? w.identity = some w := by
      rw [← SortedMap.get?_congr (exists_group_of_get? hk).1, hk]
    rw [← filter_identity]
    exact (exists_group_of_get? hown).2
  · rintro ⟨first, rest, hgroup, hw⟩
    refine ⟨w.identity, ?_⟩
    rw [get?_mergedFindings, filter_identity, hgroup, List.foldl_cons]
    exact (foldl_mergeOnto first rest).trans (congrArg some hw.symm)

theorem exists_merged (h : v ∈ vs) : ∃ w ∈ (mergedFindings vs).values, w.sameAs v = true := by
  have hmem : v ∈ vs.filter v.sameAs := List.mem_filter.mpr ⟨h, v.sameAs_self⟩
  cases hgroup : vs.filter v.sameAs with
  | nil =>
    rw [hgroup] at hmem
    cases hmem
  | cons first rest =>
    have hget : (mergedFindings vs).get? v.identity = some (rest.foldl Finding.merge first) := by
      rw [get?_mergedFindings, filter_identity, hgroup, List.foldl_cons]
      exact foldl_mergeOnto first rest
    refine ⟨_, SortedMap.mem_values_iff.mpr ⟨_, hget⟩, sameAs_symm ?_⟩
    exact compare_identity_eq_iff.mp (exists_group_of_get? hget).1

theorem values_mergedFindings_ascending (vs : List Finding) :
    (mergedFindings vs).values.Pairwise fun a b => compare a.identity b.identity = .lt :=
  SortedMap.values_ascending fun _ _ h => (exists_group_of_get? h).1

theorem distinct_mergedFindings (vs : List Finding) : Distinct (mergedFindings vs).values := by
  refine (values_mergedFindings_ascending vs).imp fun {a b} hlt =>
    Bool.eq_false_iff.mpr fun hsame => ?_
  rw [compare_identity_eq_iff.mpr hsame] at hlt
  cases hlt

/-- Where no two findings are the same, a group has one member. -/
theorem Finding.Distinct.group_eq (h : Distinct vs) {first : Finding} {rest : List Finding}
    (hgroup : vs.filter w.sameAs = first :: rest) : rest = [] := by
  have hdistinct : (first :: rest).Pairwise fun a b => a.sameAs b = false := hgroup ▸ h.filter _
  have hsame : ∀ u ∈ first :: rest, w.sameAs u = true :=
    fun u hu => (List.mem_filter.mp (hgroup ▸ hu)).2
  refine List.eq_nil_iff_forall_not_mem.mpr fun u hu => ?_
  have hfirst : first.sameAs w = true := sameAs_symm (hsame first List.mem_cons_self)
  have hother := (List.pairwise_cons.mp hdistinct).1 u hu
  rw [sameAs_trans hfirst (hsame u (List.mem_cons_of_mem _ hu))] at hother
  cases hother

theorem mem_values_mergedFindings_of_distinct (h : Distinct vs) :
    w ∈ (mergedFindings vs).values ↔ w ∈ vs := by
  rw [mem_values_mergedFindings]
  constructor
  · rintro ⟨first, rest, hgroup, hw⟩
    have hfirst : first ∈ vs.filter w.sameAs := hgroup ▸ List.mem_cons_self
    rw [h.group_eq hgroup] at hw
    exact hw ▸ (List.mem_filter.mp hfirst).1
  · intro hw
    have hmem : w ∈ vs.filter w.sameAs := List.mem_filter.mpr ⟨hw, w.sameAs_self⟩
    obtain ⟨first, rest, hgroup⟩ := List.exists_cons_of_ne_nil (List.ne_nil_of_mem hmem)
    obtain rfl := h.group_eq hgroup
    rw [hgroup] at hmem
    exact ⟨first, [], hgroup, List.mem_singleton.mp hmem⟩

end Merged

/-! ## 4. Ranks -/

namespace Finding

/-- Whether a finding stands before another in a report, or ties with it: the worse severity counts
first, then the surer confidence, then fewer hops, then the place of the source and then the path. -/
def RanksBefore (a b : Finding) : Prop :=
  b.severity.rank < a.severity.rank ∨ a.severity.rank = b.severity.rank ∧
    (b.confidence.rank < a.confidence.rank ∨ a.confidence.rank = b.confidence.rank ∧
      (a.hopCount < b.hopCount ∨ a.hopCount = b.hopCount ∧
        (compare a.source.location b.source.location = .lt ∨
          a.source.location.same b.source.location = true ∧ a.signature ≤ b.signature)))

instance : Std.TransCmp rankOrder :=
  inferInstanceAs (Std.TransCmp
    (compareLex (fun a b => compareOn (fun v : Finding => v.severity.rank) b a)
      (compareLex (fun a b => compareOn (fun v : Finding => v.confidence.rank) b a)
        (compareLex (compareOn hopCount)
          (compareLex (compareOn (·.source.location)) (compareOn signature))))))

theorem isLE_rankOrder_iff {a b : Finding} : (a.rankOrder b).isLE = true ↔ a.RanksBefore b := by
  have hsignature : (compare a.signature b.signature).isLE = true ↔ a.signature ≤ b.signature := by
    have hgt : compare a.signature b.signature = .gt ↔ b.signature < a.signature :=
      Std.OrientedCmp.gt_iff_lt.trans compareOfLessAndEq_eq_lt
    rw [Ordering.isLE_iff_ne_gt, hgt, String.not_lt]
  simp only [rankOrder, RanksBefore, Ordering.isLE_then_iff_or, Nat.compare_eq_lt, Nat.compare_eq_eq,
    hsignature, Location.same, beq_iff_eq, eq_comm (a := b.severity.rank),
    eq_comm (a := b.confidence.rank)]

end Finding

/-! ## 5. Reports -/

theorem mem_findings_assemble {vs : List Finding} {w : Finding} :
    w ∈ (assemble vs).findings ↔ w ∈ (mergedFindings vs).values := List.mem_mergeSort

theorem distinct_findings_assemble (vs : List Finding) : Distinct (assemble vs).findings :=
  (distinct_mergedFindings vs).perm (List.mergeSort_perm _ _).symm

/-- **A report depends on the merged findings only.** -/
theorem assemble_eq_of_mem_iff {vs ws : List Finding}
    (h : ∀ w, w ∈ (mergedFindings vs).values ↔ w ∈ (mergedFindings ws).values) :
    assemble vs = assemble ws := by
  have hvalues : (mergedFindings vs).values = (mergedFindings ws).values :=
    SortedMap.eq_of_ascending_keys (values_mergedFindings_ascending vs)
      (values_mergedFindings_ascending ws) h
  unfold assemble
  rw [hvalues]

/-- **A report has one finding for each identity, in the order of rank.** Each finding of the list has
exactly one in the report with its identity, which stands for all of the list that have it: it is the
first of them, with the surest confidence and the sanitizers of all. Assembling the findings of a
report gives the same report, and so does a list without duplicates in any order. -/
theorem assembly_deduplicates_and_ranks (vs : List Finding) :
    (Distinct (assemble vs).findings ∧
      (∀ v ∈ vs, ∃ w ∈ (assemble vs).findings, w.sameAs v = true) ∧
      ∀ w ∈ (assemble vs).findings, Consolidates (vs.filter w.sameAs) w) ∧
    (assemble vs).findings.Pairwise RanksBefore ∧
    assemble (assemble vs).findings = assemble vs ∧
    ∀ ws, vs.Perm ws → Distinct vs → assemble ws = assemble vs := by
  refine ⟨⟨distinct_findings_assemble vs, fun v hv => ?_, fun w hw => ?_⟩, ?_, ?_, ?_⟩
  · obtain ⟨w, hw, hsame⟩ := exists_merged hv
    exact ⟨w, mem_findings_assemble.mpr hw, hsame⟩
  · obtain ⟨first, rest, hgroup, hw⟩ :=
      mem_values_mergedFindings.mp (mem_findings_assemble.mp hw)
    have hconsolidated := (consolidates_singleton first).foldl_merge rest
    rw [← hw, List.singleton_append, ← hgroup] at hconsolidated
    exact hconsolidated
  · exact (mergeSort_ordered rankOrder _).imp isLE_rankOrder_iff.mp
  · refine assemble_eq_of_mem_iff fun w => ?_
    rw [mem_values_mergedFindings_of_distinct (distinct_findings_assemble vs), mem_findings_assemble]
  · intro ws hperm hdistinct
    refine assemble_eq_of_mem_iff fun w => ?_
    rw [mem_values_mergedFindings_of_distinct (hdistinct.perm hperm),
      mem_values_mergedFindings_of_distinct hdistinct, hperm.mem_iff]

namespace SmallReport

/-- A command injection from a line of a file straight into `os.system`. -/
def injection (file : String) (line : Nat) (confidence : Confidence) (sanitizers : List String) :
    Finding where
  weakness := .commandInjection
  severity := .high
  confidence
  score := confidence.score
  source := ⟨"sys.argv", "sys.argv", ⟨"routes", "view"⟩, ⟨⟨file⟩, line, 5⟩⟩
  sink := ⟨"command.exec", "os.system", ⟨"sink", "run"⟩, ⟨⟨"sink.py"⟩, 9, 5⟩⟩
  hops := [⟨⟨"routes", "view"⟩, ⟨⟨file⟩, line, 5⟩, .source, none⟩,
    ⟨⟨"sink", "run"⟩, ⟨⟨file⟩, line, 5⟩, .call, none⟩,
    ⟨⟨"sink", "run"⟩, ⟨⟨"sink.py"⟩, 9, 5⟩, .sink, none⟩]
  sanitizers
  summary := ""
  remediation := ""

def escaped : Finding := injection "app/routes.py" 3 .medium ["html.escape"]

/-- The same finding, with its file spelled in another way. -/
def cleaned : Finding := injection "app/./routes.py" 3 .high ["custom.clean"]

def other : Finding := injection "app/routes.py" 7 .high []

end SmallReport

open SmallReport in
/-- Two findings that differ in the spelling of a file are one in the report. -/
theorem spellings_consolidated :
    escaped.sameAs cleaned = true ∧
      (∃ w ∈ (assemble [escaped, other, cleaned]).findings, w.sameAs escaped = true ∧
        Consolidates ([escaped, other, cleaned].filter w.sameAs) w) ∧
      Distinct [other, cleaned] ∧ assemble [cleaned, other] = assemble [other, cleaned] := by
  have hdistinct : Distinct [other, cleaned] := by
    unfold Distinct
    decide
  obtain ⟨⟨_, hcovered, hmade⟩, _⟩ := assembly_deduplicates_and_ranks [escaped, other, cleaned]
  obtain ⟨_, _, _, hperm⟩ := assembly_deduplicates_and_ranks [other, cleaned]
  obtain ⟨w, hw, hsame⟩ := hcovered escaped List.mem_cons_self
  exact ⟨by decide, ⟨w, hw, hsame, hmade w hw⟩, hdistinct, hperm _ (.swap _ _ _) hdistinct⟩

end TaintFlow
