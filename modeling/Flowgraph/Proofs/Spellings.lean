import Flowgraph.Proofs.Blanks
import Flowgraph.Text.Lower
import Mathlib.Data.List.Forall2

/-!
# Words spelled in texts

A word is found in a text in letters of any case, and a few characters beside the capitals stand for
a letter.  No character stands for two of them, so that a piece of text spells one word at most.

Where a word is spelled between two spaces, another one can be spelled there only in three ways: on
one side of it, inside it, or across one of the spaces.  In the last case the other word has a space
too, and one of its parts before and behind this space begins or ends the first word, or is longer
than it.

## Main definitions

* `Text.Spells` — a piece of text is a word, its case ignored.
* `Text.seams` — the parts of a word before and behind its spaces.
* `Text.Meets` — a word may be spelled where another one is, because the two have letters in common.

## Main results

* `Text.Spells.unique` — a piece of text spells one word.
* `Text.isSome_dropWord?_iff` — a word is found at the beginning of a text if it is spelled there.
* `Text.meets_of_spells` — **what is spelled around a word is spelled on one side, or meets it.**
-/

namespace Flowgraph.Text

/-- A piece of text is a word, its case ignored. -/
def Spells (word piece : List Char) : Prop :=
  List.Forall₂ (fun letter c => matchesLetter letter c = true) word piece

instance (word piece : List Char) : Decidable (Spells word piece) :=
  inferInstanceAs (Decidable (List.Forall₂ _ word piece))

variable {word other piece cs before after : List Char} {l m c : Char}

/-! ### Letters -/

/-- Only the capitals of ASCII have another small letter. -/
theorem toLower_eq_self (h : c.toNat < 0x41 ∨ 0x5A < c.toNat) : c.toLower = c := by
  refine dif_neg ?_
  rintro ⟨hfirst, hlast⟩
  have hA : 0x41 ≤ c.toNat := UInt32.le_iff_toNat_le.mp hfirst
  have hZ : c.toNat ≤ 0x5A := UInt32.le_iff_toNat_le.mp hlast
  omega

theorem toLower_eq_self_of_isBlank (h : isBlank c = true) : c.toLower = c := by
  refine toLower_eq_self ?_
  simp only [isBlank, isWhiteSpace, inRanges, codeInRanges, whiteSpaceRanges, List.any_cons,
    List.any_nil, Bool.or_false, Bool.or_eq_true, Bool.and_eq_true, decide_eq_true_eq] at h
  omega

/-- A character in ASCII stands for its small letter only. -/
theorem toLower_of_matchesLetter (h : matchesLetter l c = true) (hc : c.toNat < 0x80) :
    c.toLower = l := by
  simp only [matchesLetter, Bool.or_eq_true, Bool.and_eq_true, beq_iff_eq] at h
  rcases h with ((hlower | ⟨-, rfl⟩) | ⟨-, rfl⟩) | ⟨-, rfl | rfl⟩
  · exact hlower
  all_goals exact absurd hc (by decide)

/-- A blank stands for itself only. -/
theorem eq_of_matchesLetter_of_isBlank (h : matchesLetter l c = true) (hc : isBlank c = true) :
    l = c := by
  simp only [matchesLetter, Bool.or_eq_true, Bool.and_eq_true, beq_iff_eq] at h
  rcases h with ((hlower | ⟨-, rfl⟩) | ⟨-, rfl⟩) | ⟨-, rfl | rfl⟩
  · rw [← hlower, toLower_eq_self_of_isBlank hc]
  all_goals exact absurd hc (by decide)

theorem not_isBlank_of_matchesLetter (h : matchesLetter l c = true) (hl : isBlank l = false) :
    isBlank c = false := by
  by_contra hc
  rw [Bool.not_eq_false] at hc
  rw [eq_of_matchesLetter_of_isBlank h hc, hc] at hl
  cases hl

/-- The letters outside of ASCII that stand for a letter of ASCII. -/
theorem mem_of_matchesLetter (hl : l.toNat < 0x80) (h : matchesLetter l c = true)
    (hc : ¬ c.toNat < 0x80) :
    (l, c) ∈ [('s', 'ſ'), ('k', Char.ofNat 0x212A), ('i', 'ı'), ('i', 'İ')] := by
  have hself : c.toLower = c := toLower_eq_self (by omega)
  have hne : c ≠ l := by
    rintro rfl
    exact hc hl
  simpa [matchesLetter, hself, hne, and_or_left, or_assoc] using h

/-- No character stands for two letters of ASCII. -/
theorem eq_of_matchesLetter (hl : l.toNat < 0x80) (hm : m.toNat < 0x80)
    (h : matchesLetter l c = true) (h' : matchesLetter m c = true) : l = m := by
  by_cases hc : c.toNat < 0x80
  · rw [← toLower_of_matchesLetter h hc, toLower_of_matchesLetter h' hc]
  · have hpairs : ∀ p ∈ [('s', 'ſ'), ('k', Char.ofNat 0x212A), ('i', 'ı'), ('i', 'İ')],
        ∀ q ∈ [('s', 'ſ'), ('k', Char.ofNat 0x212A), ('i', 'ı'), ('i', 'İ')],
        p.2 = q.2 → p.1 = q.1 := by
      decide
    exact hpairs _ (mem_of_matchesLetter hl h hc) _ (mem_of_matchesLetter hm h' hc) rfl

/-- The small letter of a character in ASCII stands at the head of its text in small letters. -/
theorem lower_cons (h : c.toNat < 0x80) : ∃ rest, lower (c :: cs) = c.toLower :: rest := by
  have hsigma : c ≠ 'Σ' := by
    rintro rfl
    exact absurd h (by decide)
  rw [lower, lowerAfter, if_neg fun hfinal => hsigma hfinal.1, lowerChar, if_pos h]
  exact ⟨_, rfl⟩

/-! ### Spellings -/

namespace Spells

theorem append_iff {part : List Char} : Spells word (piece ++ part) ↔
    ∃ p q, word = p ++ q ∧ Spells p piece ∧ Spells q part := by
  constructor
  · intro h
    exact ⟨_, _, (List.take_append_drop piece.length word).symm, List.forall₂_take_append _ _ _ h,
      List.forall₂_drop_append _ _ _ h⟩
  · rintro ⟨p, q, rfl, hp, hq⟩
    exact List.rel_append hp hq

/-- Only a space spells a space. -/
theorem exists_of_space (h : Spells word (' ' :: piece)) :
    ∃ q, word = ' ' :: q ∧ Spells q piece := by
  cases h with
  | cons hletter hrest =>
    obtain rfl := eq_of_matchesLetter_of_isBlank hletter isBlank_space
    exact ⟨_, rfl, hrest⟩

/-- A piece of text spells one word in ASCII. -/
theorem unique (hword : ∀ l ∈ word, l.toNat < 0x80) (hother : ∀ l ∈ other, l.toNat < 0x80)
    (h : Spells word piece) (h' : Spells other piece) : word = other := by
  induction h generalizing other with
  | nil =>
    cases h'
    rfl
  | cons hletter _ ih =>
    cases h' with
    | cons hletter' hrest' =>
      rw [List.forall_mem_cons] at hword hother
      rw [eq_of_matchesLetter hword.1 hother.1 hletter hletter', ih hword.2 hother.2 hrest']

/-! What stands in the spelling of a word spells a part of the word, and the other way round. -/

theorem of_prefix (h : Spells word cs) (hpiece : piece <+: cs) :
    ∃ part, part <+: word ∧ Spells part piece := by
  obtain ⟨rest, rfl⟩ := hpiece
  obtain ⟨p, q, rfl, hp, -⟩ := append_iff.mp h
  exact ⟨p, List.prefix_append p q, hp⟩

theorem of_suffix (h : Spells word cs) (hpiece : piece <:+ cs) :
    ∃ part, part <:+ word ∧ Spells part piece := by
  obtain ⟨rest, rfl⟩ := hpiece
  obtain ⟨p, q, rfl, -, hq⟩ := append_iff.mp h
  exact ⟨q, List.suffix_append p q, hq⟩

theorem of_infix (h : Spells word cs) (hpiece : piece <:+: cs) :
    ∃ part, part <:+: word ∧ Spells part piece := by
  obtain ⟨rest, hprefix, hsuffix⟩ := List.infix_iff_prefix_suffix.mp hpiece
  obtain ⟨long, hlong, hspells⟩ := h.of_suffix hsuffix
  obtain ⟨part, hpart, hspells⟩ := hspells.of_prefix hprefix
  exact ⟨part, hpart.isInfix.trans hlong.isInfix, hspells⟩

theorem exists_of_infix (h : Spells word cs) (hother : other <:+: word) :
    ∃ piece, piece <:+: cs ∧ Spells other piece := by
  obtain ⟨x, y, rfl⟩ := hother
  have hparts : List.Forall₂ (fun c letter => matchesLetter letter c = true) cs (x ++ other ++ y) :=
    List.Forall₂.flip h
  have hfront := List.forall₂_take_append _ _ _ hparts
  exact ⟨_, (List.drop_suffix _ _).isInfix.trans (List.take_prefix _ _).isInfix,
    (List.forall₂_drop_append _ _ _ hfront).flip⟩

/-! Where a word has no blanks at its ends, a spelling of it has none. -/

theorem ne_nil (h : Spells word piece) (hword : word ≠ []) : piece ≠ [] := by
  rintro rfl
  cases h
  exact hword rfl

theorem not_isBlank_head (h : Spells word piece) (hword : ∀ l ∈ word.head?, isBlank l = false) :
    ∀ c ∈ piece.head?, isBlank c = false := by
  cases h with
  | nil => simp
  | cons hletter hrest =>
    intro c hc
    obtain rfl := Option.some.inj hc
    exact not_isBlank_of_matchesLetter hletter (hword _ rfl)

theorem strip_eq (h : Spells word piece) (hfirst : ∀ l ∈ word.head?, isBlank l = false)
    (hlast : ∀ l ∈ word.reverse.head?, isBlank l = false) : strip piece = piece := by
  refine strip_eq_self (h.not_isBlank_head hfirst) ?_
  rw [← List.head?_reverse]
  exact not_isBlank_head (List.rel_reverse h) hlast

end Spells

/-- A word is found at the beginning of a text if it is spelled there. -/
theorem isSome_dropWord?_iff :
    (dropWord? word cs).isSome = true ↔ ∃ piece, piece <+: cs ∧ Spells word piece := by
  induction word generalizing cs with
  | nil => cases cs <;> exact iff_of_true rfl ⟨[], List.nil_prefix, .nil⟩
  | cons letter word ih =>
    cases cs with
    | nil =>
      refine iff_of_false (by simp [dropWord?]) ?_
      rintro ⟨piece, hpiece, hspells⟩
      rw [List.prefix_nil.mp hpiece] at hspells
      cases hspells
    | cons c cs =>
      rw [dropWord?]
      split_ifs with hletter
      · rw [ih]
        constructor
        · rintro ⟨piece, hpiece, hspells⟩
          exact ⟨c :: piece, List.cons_prefix_cons.mpr ⟨rfl, hpiece⟩, .cons hletter hspells⟩
        · rintro ⟨piece, hpiece, hspells⟩
          cases hspells with
          | cons hfirst hrest =>
            obtain ⟨rfl, hrests⟩ := List.cons_prefix_cons.mp hpiece
            exact ⟨_, hrests, hrest⟩
      · refine iff_of_false (by simp) ?_
        rintro ⟨piece, hpiece, hspells⟩
        cases hspells with
        | cons hfirst hrest =>
          obtain ⟨rfl, -⟩ := List.cons_prefix_cons.mp hpiece
          exact hletter hfirst

/-! ### Words with spaces in them -/

/-- The two parts of a word before and behind each of its spaces. -/
def seams : List Char → List (List Char × List Char)
  | [] => []
  | c :: cs =>
    let later := (seams cs).map fun seam => (c :: seam.1, seam.2)
    if c = ' ' then ([], cs) :: later else later

theorem mem_seams {p q : List Char} : (p, q) ∈ seams (p ++ ' ' :: q) := by
  induction p with
  | nil =>
    rw [List.nil_append, seams, if_pos rfl]
    exact List.mem_cons_self
  | cons c p ih =>
    have hlater : (c :: p, q) ∈ (seams (p ++ ' ' :: q)).map fun seam => (c :: seam.1, seam.2) :=
      List.mem_map_of_mem ih
    rw [List.cons_append, seams]
    split_ifs
    · exact List.mem_cons_of_mem _ hlater
    · exact hlater

/-- A beginning of two texts joined by a space is one of the first text, or it has the space. -/
theorem prefix_append_space (h : piece <+: before ++ ' ' :: after) :
    piece <+: before ∨ ∃ rest, piece = before ++ ' ' :: rest := by
  obtain ⟨behind, hbehind⟩ := h
  rcases List.append_eq_append_iff.mp hbehind with ⟨rest, rfl, -⟩ | ⟨rest, rfl, hrest⟩
  · exact .inl (List.prefix_append piece rest)
  · rcases List.cons_eq_append_iff.mp hrest with ⟨rfl, -⟩ | ⟨rest, rfl, -⟩
    · rw [List.append_nil]
      exact .inl List.prefix_rfl
    · exact .inr ⟨rest, rfl⟩

/-- A piece of two texts joined by a space is a piece of one of them, or it has the space. -/
theorem infix_append_space (h : piece <:+: before ++ ' ' :: after) :
    piece <:+: before ∨ piece <:+: after ∨
      ∃ x y, piece = x ++ ' ' :: y ∧ x <:+ before ∧ y <+: after := by
  rcases List.infix_append_iff.mp h with h | h | ⟨x, y, rfl, hx, hy⟩
  · exact .inl h
  · rcases List.infix_cons_iff.mp h with h | h
    · rcases List.prefix_cons_iff.mp h with rfl | ⟨y, rfl, hafter⟩
      · exact .inl List.nil_infix
      · exact .inr (.inr ⟨[], y, rfl, List.nil_suffix, hafter⟩)
    · exact .inr (.inl h)
  · rcases List.prefix_cons_iff.mp hy with rfl | ⟨y, rfl, hafter⟩
    · rw [List.append_nil]
      exact .inl hx.isInfix
    · exact .inr (.inr ⟨x, y, rfl, hx, hafter⟩)

/-- A word may be spelled where another one is spelled between two spaces: it stands in this, or it
has a space, and its part before the space is an end of this, or its part behind the space is a
beginning of this or goes on behind this with a space. -/
def Meets (other word : List Char) : Prop :=
  other <:+: word ∨ ∃ seam ∈ seams other, seam.1 <:+ word ∨ seam.2 <+: word ∨
    ∃ inner ∈ seams seam.2, inner.1 = word

instance (other word : List Char) : Decidable (Meets other word) :=
  inferInstanceAs (Decidable (_ ∨ _))

/-- **What is spelled around a word is spelled on one side of it, or it meets the word.** -/
theorem meets_of_spells {spelling : List Char} (hword : ∀ l ∈ word, l.toNat < 0x80)
    (hother : ∀ l ∈ other, l.toNat < 0x80) (hspelling : Spells word spelling)
    (hspells : Spells other piece)
    (hpiece : piece <:+: before ++ ' ' :: (spelling ++ ' ' :: after)) :
    piece <:+: before ∨ piece <:+: after ∨ Meets other word := by
  -- parts of the two words with a common spelling are the same
  have hsame {part p cs : List Char} (hpart : part <:+: word) (hp : p <:+: other)
      (h : Spells part cs) (h' : Spells p cs) : part = p :=
    h.unique (fun l hl => hword l (hpart.subset hl)) (fun l hl => hother l (hp.subset hl)) h'
  rcases infix_append_space hpiece with h | h | ⟨x, y, rfl, -, hy⟩
  · exact .inl h
  · rcases infix_append_space h with h | h | ⟨x, y, rfl, hx, -⟩
    · obtain ⟨part, hinfix, hspelled⟩ := hspelling.of_infix h
      obtain rfl := hsame hinfix List.infix_rfl hspelled hspells
      exact .inr (.inr (.inl hinfix))
    · exact .inr (.inl h)
    · -- the piece has the space behind the word
      obtain ⟨p, behind, rfl, hp, hbehind⟩ := Spells.append_iff.mp hspells
      obtain ⟨q, rfl, -⟩ := hbehind.exists_of_space
      obtain ⟨part, hsuffix, hspelled⟩ := hspelling.of_suffix hx
      obtain rfl := hsame hsuffix.isInfix (List.prefix_append p _).isInfix hspelled hp
      exact .inr (.inr (.inr ⟨_, mem_seams, .inl hsuffix⟩))
  · -- the piece has the space before the word, and ends in the word or goes on behind it
    obtain ⟨p, behind, rfl, -, hbehind⟩ := Spells.append_iff.mp hspells
    obtain ⟨q, rfl, hq⟩ := hbehind.exists_of_space
    have hinfix : q <:+: p ++ ' ' :: q :=
      ((List.suffix_cons ' ' q).trans (List.suffix_append p _)).isInfix
    rcases prefix_append_space hy with h | ⟨rest, rfl⟩
    · obtain ⟨part, hprefix, hspelled⟩ := hspelling.of_prefix h
      obtain rfl := hsame hprefix.isInfix hinfix hspelled hq
      exact .inr (.inr (.inr ⟨_, mem_seams, .inr (.inl hprefix)⟩))
    · obtain ⟨first, last, rfl, hfirst, hlast⟩ := Spells.append_iff.mp hq
      obtain ⟨t, rfl, -⟩ := hlast.exists_of_space
      obtain rfl := hsame List.infix_rfl ((List.prefix_append first _).isInfix.trans hinfix)
        hspelling hfirst
      exact .inr (.inr (.inr ⟨_, mem_seams, .inr (.inr ⟨_, mem_seams, rfl⟩)⟩))

end Flowgraph.Text
