import Flowgraph.Activity.Classification
import Mathlib.Data.List.Sort

/-!
# Labels found in the input

Without a model the label is looked for in the input itself.  The labels are put in order by their
scores and, where these are the same, by the order of texts, and the one in front is taken.  So it is
the first one in the order of texts among the labels that occur, or of all where none occurs, and it
does not matter in which order the labels are listed, nor whether one of them is listed twice.

Texts are ordered by the codes of their letters.  A label is given by its letters here, since it is
rows of letters that the order tells apart: the characters that hold them are not compared.

## Main definitions

* `Classification.Scored.Precedes` — the order of scored labels.
* `Classification.Occurs` — a label occurs in a source, case ignored.
* `Classification.Chosen` — the label that the keywords choose, and the confidence in it.

## Main results

* `Text.occursIn_iff` — a text occurs in another exactly if it is a part of it.
* `Text.eq_of_not_isBefore` — two rows of letters neither of which comes before the other are one.
* `Classification.ranking_eq_insertionSort` — a ranking is sorted by the scores and then by the
  order of texts.
* `Classification.front_of_ranking` — **the label in front of a ranking is the least of all.**
* `Classification.Chosen.unique` — there is one choice only.
* `Classification.keyword_eq_iff_chosen` — **the keywords choose the least label that occurs, in
  whatever order the labels are listed.**
-/

namespace Flowgraph

/-! ### The order of texts -/

namespace Text

/-- No character has the code of a half. -/
theorem not_isHalf_toNat (c : Char) : isHalf c.toNat = false := by
  have hvalid : c.toNat < 0xD800 ∨ 0xDFFF < c.toNat ∧ c.toNat < 0x110000 := c.valid
  refine Bool.eq_false_iff.mpr fun hhalf => ?_
  simp only [isHalf, Bool.and_eq_true, decide_eq_true_eq] at hhalf
  omega

/-- Letters are told apart by their codes. -/
theorem Letter.eq_of_code {l l' : Letter} (h : l.code = l'.code) : l = l' := by
  cases l with
  | char c =>
    cases l' with
    | char c' => exact congrArg Letter.char (Char.toNat_inj.mp h)
    | half half' =>
      have hhalf : isHalf c.toNat = true := (congrArg isHalf h).trans half'.property
      exact absurd hhalf (Bool.eq_false_iff.mp (not_isHalf_toNat c))
  | half half =>
    cases l' with
    | char c' =>
      have hhalf : isHalf c'.toNat = true := (congrArg isHalf h.symm).trans half.property
      exact absurd hhalf (Bool.eq_false_iff.mp (not_isHalf_toNat c'))
    | half half' => exact congrArg Letter.half (Subtype.ext h)

theorem codes_ofLetters (ls : List Letter) : codes (ofLetters ls) = ls.map Letter.code := by
  rw [codes, ofLetters, String.toList_ofList, letters_written]

variable {a b c : String}

theorem isBefore_eq_false : isBefore a b = false ↔ ¬ codes a < codes b :=
  decide_eq_false_iff_not

theorem not_isBefore_of_isBefore (h : isBefore a b = true) : isBefore b a = false :=
  isBefore_eq_false.mpr (List.lt_asymm (of_decide_eq_true h))

theorem not_isBefore_trans (hba : isBefore b a = false) (hcb : isBefore c b = false) :
    isBefore c a = false := by
  have hab := List.not_lt.mp (isBefore_eq_false.mp hba)
  have hbc := List.not_lt.mp (isBefore_eq_false.mp hcb)
  exact isBefore_eq_false.mpr (List.not_lt.mpr (List.le_trans hab hbc))

/-- Two rows of letters neither of which comes before the other are one. -/
theorem eq_of_not_isBefore {ls ls' : List Letter}
    (h : isBefore (ofLetters ls) (ofLetters ls') = false)
    (h' : isBefore (ofLetters ls') (ofLetters ls) = false) : ls = ls' := by
  have hcodes : codes (ofLetters ls) = codes (ofLetters ls') :=
    List.le_antisymm (List.not_lt.mp (isBefore_eq_false.mp h'))
      (List.not_lt.mp (isBefore_eq_false.mp h))
  rw [codes_ofLetters, codes_ofLetters] at hcodes
  exact List.map_inj_right (fun _ _ => Letter.eq_of_code) |>.mp hcodes

/-- A text occurs in another exactly if it is a part of it. -/
theorem occursIn_iff {α : Type} [BEq α] [LawfulBEq α] {part : List α} :
    ∀ {l : List α}, occursIn part l = true ↔ part <:+: l := by
  intro l
  induction l with
  | nil => rw [occursIn, List.isEmpty_iff, List.infix_nil]
  | cons a l ih =>
    rw [occursIn, Bool.or_eq_true, List.isPrefixOf_iff_prefix, ih, List.infix_cons_iff]

end Text

namespace Activity.Classification

/-! ### The label in front -/

namespace Scored

variable {a b c : Scored}

theorem isBefore_eq_false : a.isBefore b = false ↔
    a.score ≤ b.score ∧ (a.score = b.score → Text.isBefore a.label b.label = false) := by
  simp only [isBefore, Bool.or_eq_false_iff, decide_eq_false_iff_not, Nat.not_lt,
    Bool.and_eq_false_imp, beq_iff_eq]

/-- A scored label stands in front of another: the other one does not come before it. -/
def Precedes (a b : Scored) : Prop :=
  b.isBefore a = false

instance : DecidableRel Precedes :=
  fun a b => inferInstanceAs (Decidable (b.isBefore a = false))

/-- Of two scored labels one stands in front of the other. -/
instance : Std.Total Precedes where
  total a b := by
    rw [Precedes, Precedes, isBefore_eq_false, isBefore_eq_false]
    rcases Nat.lt_trichotomy a.score b.score with hlt | heq | hgt
    · exact .inr ⟨hlt.le, fun h => absurd h hlt.ne⟩
    · by_cases hbefore : Text.isBefore a.label b.label = true
      · exact .inl ⟨heq.ge, fun _ => Text.not_isBefore_of_isBefore hbefore⟩
      · exact .inr ⟨heq.le, fun _ => Bool.eq_false_iff.mpr hbefore⟩
    · exact .inl ⟨hgt.le, fun h => absurd h hgt.ne⟩

instance : IsTrans Scored Precedes where
  trans a b c hab hbc := by
    obtain ⟨hscore, hlabel⟩ := isBefore_eq_false.mp hab
    obtain ⟨hscore', hlabel'⟩ := isBefore_eq_false.mp hbc
    refine isBefore_eq_false.mpr ⟨hscore'.trans hscore, fun heq => ?_⟩
    -- the score in between is the same, so that it is the labels that count all through
    exact Text.not_isBefore_trans (hlabel (by omega)) (hlabel' (by omega))

end Scored

theorem place_eq_orderedInsert (a : Scored) : ∀ rest : List Scored,
    place a rest = rest.orderedInsert Scored.Precedes a := by
  intro rest
  induction rest with
  | nil => rfl
  | cons b rest ih =>
    rw [place, List.orderedInsert_cons, ih]
    by_cases hbefore : b.isBefore a = true
    · have hbehind : ¬ a.Precedes b := fun h => Bool.eq_false_iff.mp h hbefore
      rw [if_pos hbefore, if_neg hbehind]
    · have hfront : a.Precedes b := Bool.eq_false_iff.mpr hbefore
      rw [if_neg hbefore, if_pos hfront]

/-- A ranking is the list of the scored labels, sorted. -/
theorem ranking_eq_insertionSort (text : List Char) (labels : List String) :
    ranking text labels = (labels.map (score text)).insertionSort Scored.Precedes := by
  have hplace : place = List.orderedInsert Scored.Precedes :=
    funext fun a => funext (place_eq_orderedInsert a)
  rw [ranking, hplace, List.insertionSort]

/-- **The label in front of a ranking is the least of all**: it is one of the labels, and none comes
before it, by its score and then by its letters. -/
theorem front_of_ranking {text : List Char} {labels : List String} {front : Scored}
    {others : List Scored} (h : ranking text labels = front :: others) :
    front ∈ labels.map (score text) ∧
      ∀ label ∈ labels, (score text label).isBefore front = false := by
  have hsorted := List.pairwise_insertionSort Scored.Precedes (labels.map (score text))
  have hmem : ∀ a, a ∈ front :: others ↔ a ∈ labels.map (score text) := by
    intro a
    rw [← h, ranking_eq_insertionSort, List.mem_insertionSort]
  rw [← ranking_eq_insertionSort, h] at hsorted
  refine ⟨(hmem front).mp List.mem_cons_self, fun label hlabel => ?_⟩
  rcases List.mem_cons.mp ((hmem _).mpr (List.mem_map_of_mem hlabel)) with hfront | hothers
  · rw [hfront]
    exact (total_of Scored.Precedes front front).elim id id
  · exact (List.pairwise_cons.mp hsorted).1 _ hothers

/-- The keywords give the label in front, where there are labels. -/
theorem exists_front (source : Json) {labels : List String} (hlabels : labels ≠ []) :
    ∃ front others, ranking (Text.lower source.sourceText.toList) labels = front :: others ∧
      keyword source labels =
        ⟨front.label, if front.score = 2 then hitConfidence else missConfidence⟩ := by
  cases hranking : ranking (Text.lower source.sourceText.toList) labels with
  | nil =>
    have hlength := congrArg List.length hranking
    rw [ranking_eq_insertionSort, List.length_insertionSort, List.length_map] at hlength
    exact absurd (List.length_eq_zero_iff.mp hlength) hlabels
  | cons front others => exact ⟨front, others, rfl, by rw [keyword, hranking]⟩

/-! ### The label that is chosen -/

variable {source : Json} {labels : List (List Text.Letter)} {v v' : Verdict}

/-- A label occurs in a source: in lower case, its letters stand side by side in the text of the
source. -/
def Occurs (source : Json) (label : List Text.Letter) : Prop :=
  Text.letters (Text.lower (Text.ofLetters label).toList) <:+:
    Text.letters (Text.lower source.sourceText.toList)

theorem occurs_iff {label : List Text.Letter} :
    occurs (Text.lower source.sourceText.toList) (Text.ofLetters label) = true ↔
      Occurs source label :=
  Text.occursIn_iff

/-- What the keywords choose for a source among labels: the least label that occurs, or the least
one of all where none occurs, with a confidence that tells the two apart. -/
inductive Chosen (source : Json) (labels : List (List Text.Letter)) : Verdict → Prop where
  /-- The least label that occurs, with 0.92. -/
  | hit (label : List Text.Letter) (hmem : label ∈ labels) (hoccurs : Occurs source label)
      (hleast : ∀ other ∈ labels, Occurs source other →
        Text.isBefore (Text.ofLetters other) (Text.ofLetters label) = false) :
      Chosen source labels ⟨Text.ofLetters label, .ofDecimal false 92 (-2)⟩
  /-- The least label of all, with 0.67. -/
  | miss (label : List Text.Letter) (hmem : label ∈ labels)
      (hnone : ∀ other ∈ labels, ¬ Occurs source other)
      (hleast : ∀ other ∈ labels,
        Text.isBefore (Text.ofLetters other) (Text.ofLetters label) = false) :
      Chosen source labels ⟨Text.ofLetters label, .ofDecimal false 67 (-2)⟩

/-- There is one choice only. -/
theorem Chosen.unique (h : Chosen source labels v) (h' : Chosen source labels v') : v = v' := by
  cases h with
  | hit label hmem hoccurs hleast =>
    cases h' with
    | hit label' hmem' hoccurs' hleast' =>
      rw [Text.eq_of_not_isBefore (hleast' label hmem hoccurs) (hleast label' hmem' hoccurs')]
    | miss label' hmem' hnone' hleast' => exact absurd hoccurs (hnone' label hmem)
  | miss label hmem hnone hleast =>
    cases h' with
    | hit label' hmem' hoccurs' hleast' => exact absurd hoccurs' (hnone label' hmem')
    | miss label' hmem' hnone' hleast' =>
      rw [Text.eq_of_not_isBefore (hleast' label hmem) (hleast label' hmem')]

/-- It matters only which labels there are. -/
theorem Chosen.congr {others : List (List Text.Letter)} (h : Chosen source labels v)
    (hothers : ∀ label, label ∈ others ↔ label ∈ labels) : Chosen source others v := by
  cases h with
  | hit label hmem hoccurs hleast =>
    exact .hit label ((hothers label).mpr hmem) hoccurs
      fun other hother => hleast other ((hothers other).mp hother)
  | miss label hmem hnone hleast =>
    exact .miss label ((hothers label).mpr hmem)
      (fun other hother => hnone other ((hothers other).mp hother))
      fun other hother => hleast other ((hothers other).mp hother)

/-- What the keywords give is a choice. -/
theorem chosen_keyword (source : Json) (hlabels : labels ≠ []) :
    Chosen source labels (keyword source (labels.map Text.ofLetters)) := by
  have htexts : labels.map Text.ofLetters ≠ [] := fun h => hlabels (List.map_eq_nil_iff.mp h)
  obtain ⟨front, others, hranking, hkeyword⟩ := exists_front source htexts
  obtain ⟨hmem, hfirst⟩ := front_of_ranking hranking
  obtain ⟨_, htext, rfl⟩ := List.mem_map.mp hmem
  obtain ⟨label, hlabel, rfl⟩ := List.mem_map.mp htext
  have hfirst' : ∀ other ∈ labels, _ := fun other hother =>
    Scored.isBefore_eq_false.mp (hfirst _ (List.mem_map_of_mem hother))
  rw [hkeyword]
  by_cases hoccurs : Occurs source label
  · have hscore : (score (Text.lower source.sourceText.toList) (Text.ofLetters label)).score = 2 :=
      if_pos (occurs_iff.mpr hoccurs)
    rw [hscore, if_pos rfl]
    refine .hit label hlabel hoccurs fun other hother hoccurs' => (hfirst' other hother).2 ?_
    rw [hscore]
    exact if_pos (occurs_iff.mpr hoccurs')
  · -- the label in front has one point only, so that no label has two
    have hscore : (score (Text.lower source.sourceText.toList) (Text.ofLetters label)).score = 1 :=
      if_neg (mt occurs_iff.mp hoccurs)
    have hnone : ∀ other ∈ labels, ¬ Occurs source other := by
      intro other hother hoccurs'
      have hle := (hfirst' other hother).1
      have htwo : (score (Text.lower source.sourceText.toList) (Text.ofLetters other)).score = 2 :=
        if_pos (occurs_iff.mpr hoccurs')
      omega
    rw [hscore, if_neg (by decide)]
    refine .miss label hlabel hnone fun other hother => (hfirst' other hother).2 ?_
    rw [hscore]
    exact if_neg (mt occurs_iff.mp (hnone other hother))

end Activity.Classification
end Flowgraph
