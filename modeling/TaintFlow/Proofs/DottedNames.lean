import TaintFlow.Resolver

/-!
# Dotted names

A module is named by its place: `a.b.c` lies inside `a.b` and inside `a`. The prefixes that are tried
for a name are the name itself and all that it lies inside, the longest first (`mem_dottedPrefixes`,
`dottedPrefixes_descending`), so the longest known prefix is what its name says
(`longestPrefix?_eq_some_iff`).

A name without a dot is a single piece. Where the first piece of a dotted name is known to be one, the
cuts at its first dot and at all its dots can be read off (`splitFirst?_dotted`, `split_dotted`).
-/

namespace TaintFlow

/-- Whether a dotted name lies inside another: `a.b.c` inside `a.b` and inside `a`. -/
def Inside (name outer : String) : Prop := ∃ rest, name = outer ++ "." ++ rest

/-- Whether a name is a single piece, without dots. -/
def SinglePiece (name : String) : Prop := '.' ∉ name.toList

instance (name : String) : Decidable (SinglePiece name) :=
  inferInstanceAs (Decidable ('.' ∉ name.toList))

namespace Text

variable {a b s : String}

/-! ## 1. Pieces -/

theorem splitChars_eq_splitOn (sep : Char) (cs : List Char) : splitChars sep cs = cs.splitOn sep := by
  induction cs with
  | nil => rfl
  | cons c cs ih =>
    have hne := List.splitOn_ne_nil sep cs
    rw [splitChars, ih, List.splitOn_cons_eq_if_modifyHead]
    by_cases h : c = sep
    · simp [h]
    · cases hpieces : cs.splitOn sep with
      | nil => exact absurd hpieces hne
      | cons p ps => simp [h]

theorem split_ne_nil (s : String) : split '.' s ≠ [] := by
  unfold split
  rw [splitChars_eq_splitOn]
  simp

theorem toList_dotted (a b : String) : (a ++ "." ++ b).toList = a.toList ++ '.' :: b.toList := by
  rw [String.toList_append, String.toList_append, List.append_assoc]
  rfl

/-- The pieces of two names with a dot between them are those of the one and those of the other. -/
theorem split_append (a b : String) : split '.' (a ++ "." ++ b) = split '.' a ++ split '.' b := by
  unfold split
  rw [toList_dotted, splitChars_eq_splitOn, splitChars_eq_splitOn, splitChars_eq_splitOn,
    List.splitOn_append_cons_self, List.map_append]

/-- A name is its pieces with dots between them. -/
theorem join_split (s : String) : join "." (split '.' s) = s := by
  apply String.toList_injective
  have hpieces : (split '.' s).map String.toList = s.toList.splitOn '.' := by
    unfold split
    rw [splitChars_eq_splitOn, List.map_map]
    simp [Function.comp_def]
  rw [join, String.toList_intercalate, hpieces]
  exact List.intercalate_splitOn '.'

/-- Between the first pieces of a name and its other pieces there is a dot. -/
theorem join_take_drop (pieces : List String) {k : Nat} (hpos : 0 < k) (hk : k < pieces.length) :
    join "." pieces = join "." (pieces.take k) ++ "." ++ join "." (pieces.drop k) := by
  have htake : pieces.take k ≠ [] := by
    rw [Ne, List.take_eq_nil_iff, ← List.length_eq_zero_iff]
    omega
  have hdrop : pieces.drop k ≠ [] := by
    rw [Ne, List.drop_eq_nil_iff]
    omega
  unfold join
  rw [← String.intercalate_append_of_ne_nil htake hdrop, List.take_append_drop]

theorem split_singlePiece (h : SinglePiece s) : split '.' s = [s] := by
  unfold split
  rw [splitChars_eq_splitOn, List.splitOn_eq_singleton h]
  simp

theorem split_dotted (h : SinglePiece a) (b : String) :
    split '.' (a ++ "." ++ b) = a :: split '.' b := by
  rw [split_append, split_singlePiece h, List.singleton_append]

/-! ## 2. The first dot -/

theorem splitFirst?_dotted (h : SinglePiece a) (b : String) :
    splitFirst? '.' (a ++ "." ++ b) = some (a, b) := by
  have hplain : ∀ c ∈ a.toList, decide (c ≠ '.') = true := by
    intro c hc
    exact decide_eq_true fun e => h (e ▸ hc)
  have hbefore : (a.toList ++ '.' :: b.toList).takeWhile (· ≠ '.') = a.toList := by
    rw [List.takeWhile_append_of_pos hplain]
    simp
  have hafter : (a.toList ++ '.' :: b.toList).dropWhile (· ≠ '.') = '.' :: b.toList := by
    rw [List.dropWhile_append_of_pos hplain]
    simp
  unfold splitFirst?
  rw [toList_dotted]
  dsimp only
  rw [hafter, hbefore, String.ofList_toList]
  exact congrArg (fun rest => some (a, rest)) String.ofList_toList

theorem splitFirst?_singlePiece (h : SinglePiece s) : splitFirst? '.' s = none := by
  have hplain : ∀ c ∈ s.toList, decide (c ≠ '.') = true := by
    intro c hc
    exact decide_eq_true fun e => h (e ▸ hc)
  have hafter : s.toList.dropWhile (· ≠ '.') = [] := by
    rw [← List.append_nil s.toList, List.dropWhile_append_of_pos hplain]
    rfl
  unfold splitFirst?
  dsimp only
  rw [hafter]

/-- Names whose first pieces are `a` and `b` are equal only if these are. -/
theorem dotted_inj (ha : SinglePiece a) (hb : SinglePiece b) {x y : String} :
    a ++ "." ++ x = b ++ "." ++ y ↔ a = b ∧ x = y := by
  constructor
  · intro h
    have hcuts := congrArg (splitFirst? '.') h
    rw [splitFirst?_dotted ha, splitFirst?_dotted hb] at hcuts
    injection hcuts with hcuts
    injection hcuts with hab hxy
    exact ⟨hab, hxy⟩
  · rintro ⟨rfl, rfl⟩
    rfl

/-- A start with a dot at its end is stripped from the names inside it only. -/
theorem stripStart?_dotted (ha : SinglePiece a) (hb : SinglePiece b) (x : String) :
    stripStart? (a ++ "." ++ x) (b ++ ".") = if a = b then some x else none := by
  have hend : (b ++ ".").toList = b.toList ++ ['.'] := String.toList_append
  have hstarts : startsWith (a ++ "." ++ x) (b ++ ".") = true ↔ a = b := by
    unfold startsWith
    rw [List.isPrefixOf_iff_prefix, hend]
    constructor
    · rintro ⟨rest, hrest⟩
      have hsame : a ++ "." ++ x = b ++ "." ++ String.ofList rest := by
        apply String.toList_injective
        rw [toList_dotted b, String.toList_ofList, ← hrest]
        simp
      exact ((dotted_inj ha hb).mp hsame).1
    · rintro rfl
      exact ⟨x.toList, by rw [toList_dotted]; simp⟩
  unfold stripStart?
  by_cases hab : a = b
  · subst hab
    have hlength : (a ++ ".").length = (a.toList ++ ['.']).length := by rw [← hend, String.length_toList]
    have hlist : (a ++ "." ++ x).toList = (a.toList ++ ['.']) ++ x.toList := by
      rw [toList_dotted, List.append_assoc]
      rfl
    rw [if_pos (hstarts.mpr rfl), if_pos rfl, hlist, hlength, List.drop_left, String.ofList_toList]
  · rw [if_neg fun h => hab (hstarts.mp h), if_neg hab]

/-- What is left of `a.b` after `a`, without its dot, where `b` does not start with another dot. -/
theorem trimStart_drop_dotted (hb : b.toList.head? ≠ some '.') (a : String) :
    trimStart '.' (String.ofList ((a ++ "." ++ b).toList.drop a.length)) = b := by
  have hnone : b.toList.dropWhile (· = '.') = b.toList := by
    cases hlist : b.toList with
    | nil => rfl
    | cons c cs =>
      have hc : c ≠ '.' := fun e => hb (by rw [hlist, e]; rfl)
      rw [List.dropWhile_cons_of_neg (by simpa using hc)]
  unfold trimStart
  rw [toList_dotted, ← String.length_toList, List.drop_left, String.toList_ofList,
    List.dropWhile_cons_of_pos rfl, hnone, String.ofList_toList]

theorem head?_ne_of_singlePiece (h : SinglePiece s) : s.toList.head? ≠ some '.' :=
  fun hdot => h (List.mem_of_mem_head? hdot)

end Text

/-! ## 3. Prefixes -/

/-- **The prefixes of a name are the name and all that it lies inside.** -/
theorem mem_dottedPrefixes {name p : String} :
    p ∈ dottedPrefixes name ↔ p = name ∨ Inside name p := by
  have hpos : 0 < (Text.split '.' name).length := List.length_pos_iff.mpr (Text.split_ne_nil name)
  have hmem : p ∈ dottedPrefixes name ↔ ∃ k < (Text.split '.' name).length,
      Text.join "." ((Text.split '.' name).take (k + 1)) = p := by
    simp [dottedPrefixes]
  rw [hmem]
  constructor
  · rintro ⟨k, hk, rfl⟩
    by_cases hlast : k + 1 = (Text.split '.' name).length
    · left
      rw [hlast, List.take_length, Text.join_split]
    · right
      have hcut := Text.join_take_drop (Text.split '.' name) (Nat.succ_pos k) (by omega)
      rw [Text.join_split] at hcut
      exact ⟨_, hcut⟩
  · rintro (rfl | ⟨rest, rfl⟩)
    · refine ⟨(Text.split '.' p).length - 1, by omega, ?_⟩
      rw [Nat.sub_add_cancel hpos, List.take_length, Text.join_split]
    · have hp : 0 < (Text.split '.' p).length := List.length_pos_iff.mpr (Text.split_ne_nil p)
      refine ⟨(Text.split '.' p).length - 1, ?_, ?_⟩
      · rw [Text.split_append, List.length_append]
        omega
      · rw [Text.split_append, Nat.sub_add_cancel hp, List.take_left, Text.join_split]

/-- The prefixes of a name get shorter. -/
theorem dottedPrefixes_descending (name : String) :
    (dottedPrefixes name).Pairwise fun a b => b.length < a.length := by
  unfold dottedPrefixes
  rw [List.pairwise_map, List.pairwise_reverse]
  refine List.pairwise_lt_range.imp_of_mem fun {i j} _ hj hij => ?_
  rw [List.mem_range] at hj
  generalize Text.split '.' name = pieces at hj
  have hlonger := Text.join_take_drop (pieces.take (j + 1)) (Nat.succ_pos i)
    (by rw [List.length_take]; omega)
  have htake : (pieces.take (j + 1)).take (i + 1) = pieces.take (i + 1) := by
    rw [List.take_take, Nat.min_eq_left (by omega)]
  rw [htake] at hlonger
  rw [hlonger, String.length_append, String.length_append]
  have hdot : (".".length : Nat) = 1 := rfl
  omega

theorem prefix_of_inside {name p : String} (h : p = name ∨ Inside name p) :
    p.toList <+: name.toList := by
  rcases h with rfl | ⟨rest, rfl⟩
  · exact List.prefix_rfl
  · exact ⟨'.' :: rest.toList, (Text.toList_dotted p rest).symm⟩

/-- **The longest known prefix** is known, is the name or what it lies inside, and no other such is
longer. -/
theorem longestPrefix?_eq_some_iff {known : String → Bool} {name p : String} :
    longestPrefix? known name = some p ↔
      known p = true ∧ (p = name ∨ Inside name p) ∧
        ∀ q, q = name ∨ Inside name q → known q = true → q.length ≤ p.length := by
  have longest : ∀ {p}, longestPrefix? known name = some p →
      known p = true ∧ (p = name ∨ Inside name p) ∧
        ∀ q, q = name ∨ Inside name q → known q = true → q.length ≤ p.length := by
    intro p h
    obtain ⟨hknown, before, after, hlist, hbefore⟩ := List.find?_eq_some_iff_append.mp h
    have hdescending := dottedPrefixes_descending name
    rw [hlist, List.pairwise_append, List.pairwise_cons] at hdescending
    refine ⟨hknown, mem_dottedPrefixes.mp (by rw [hlist]; simp), fun q hq hknownq => ?_⟩
    have hmem := mem_dottedPrefixes.mpr hq
    rw [hlist, List.mem_append, List.mem_cons] at hmem
    rcases hmem with hmem | rfl | hmem
    · have hunknown := hbefore q hmem
      rw [hknownq] at hunknown
      cases hunknown
    · omega
    · exact Nat.le_of_lt (hdescending.2.1.1 q hmem)
  refine ⟨longest, fun ⟨hknown, hinside, hlongest⟩ => ?_⟩
  have hsome : (longestPrefix? known name).isSome = true := by
    unfold longestPrefix?
    rw [List.find?_isSome]
    exact ⟨p, mem_dottedPrefixes.mpr hinside, hknown⟩
  obtain ⟨found, hfound⟩ := Option.isSome_iff_exists.mp hsome
  obtain ⟨hknown', hinside', hlongest'⟩ := longest hfound
  -- two prefixes of one length are equal
  have hle : p.length ≤ found.length := hlongest' p hinside hknown
  have hge : found.length ≤ p.length := hlongest found hinside' hknown'
  have hprefix : p.toList <+: found.toList :=
    List.prefix_of_prefix_length_le (prefix_of_inside hinside) (prefix_of_inside hinside')
      (by rw [String.length_toList, String.length_toList]; exact hle)
  have hsame : p.toList = found.toList :=
    hprefix.eq_of_length (by rw [String.length_toList, String.length_toList]; omega)
  rw [hfound, String.toList_injective hsame]

theorem longestPrefix?_eq_none_iff {known : String → Bool} {name : String} :
    longestPrefix? known name = none ↔ ∀ p, p = name ∨ Inside name p → known p = false := by
  unfold longestPrefix?
  rw [List.find?_eq_none]
  simp only [mem_dottedPrefixes, Bool.not_eq_true]

/-- A known name is its own longest prefix. -/
theorem longestPrefix?_of_known {known : String → Bool} {name : String} (h : known name = true) :
    longestPrefix? known name = some name := by
  refine longestPrefix?_eq_some_iff.mpr ⟨h, Or.inl rfl, fun q hq _ => ?_⟩
  have hle := (prefix_of_inside hq).length_le
  rwa [String.length_toList, String.length_toList] at hle

/-- A name of two pieces lies inside the first alone. -/
theorem inside_dotted_iff {p f q : String} (hp : SinglePiece p) (hf : SinglePiece f) :
    Inside (p ++ "." ++ f) q ↔ q = p := by
  constructor
  · rintro ⟨rest, hrest⟩
    have hpieces := congrArg (Text.split '.') hrest
    rw [Text.split_dotted hp, Text.split_singlePiece hf, Text.split_append] at hpieces
    -- neither part of the two pieces is empty, so each is one piece
    have hq := Text.split_ne_nil q
    have hr := Text.split_ne_nil rest
    have hone : Text.split '.' q = [p] := by
      rcases hsplit : Text.split '.' q with _ | ⟨first, _ | ⟨second, others⟩⟩
      · exact absurd hsplit hq
      · rw [hsplit] at hpieces
        injection hpieces with hfirst
        rw [hfirst]
      · rw [hsplit] at hpieces
        have hlength := congrArg List.length hpieces
        have hpos := List.length_pos_iff.mpr hr
        rw [List.length_append] at hlength
        simp only [List.length_cons, List.length_nil] at hlength
        omega
    rw [← Text.join_split q, hone]
    exact String.intercalate_singleton
  · rintro rfl
    exact ⟨f, rfl⟩

end TaintFlow
