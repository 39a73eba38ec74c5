import Flowgraph.Text.Blank
import Mathlib.Data.List.DropRight

/-!
# Texts without the blanks around them

Taking the blanks off both ends of a text leaves its inside as it is.  What is left neither begins
nor ends with a blank, so that there is nothing more to be taken off.

## Main results

* `Text.strip_eq_nil_iff` — nothing is left of a text exactly if there are only blanks in it.
* `Text.exists_dropLeading_eq` — a text is what is left of it between two rows of blanks.
* `Text.strip_append_left`, `Text.strip_append_right` — blanks at the ends make no difference.
* `Text.strip_eq_self`, `Text.strip_eq_self_of_forall` — a text without blanks at its ends is left as
  it is.
* `Text.strip_append_append` — what stands around such a text loses its outer blanks only.
* `Text.strip_strip` — **what is left has no blanks around it.**
* `Text.strip_ne_nil_of_suffix` — a last part of it is not blank.
-/

namespace Flowgraph.Text

variable {p : Char → Bool} {cs blanks : List Char} {c : Char}

theorem isBlank_space : isBlank ' ' = true := by
  decide

theorem dropTrailing_eq_nil_iff : dropTrailing p cs = [] ↔ ∀ c ∈ cs, p c = true := by
  rw [dropTrailing, List.reverse_eq_nil_iff, List.dropWhile_eq_nil_iff]
  simp only [List.mem_reverse]

/-- Nothing is left of a text exactly if there is nothing but blanks in it. -/
theorem strip_eq_nil_iff : strip cs = [] ↔ ∀ c ∈ cs, isBlank c = true := by
  rw [strip, dropLeading, dropTrailing_eq_nil_iff, ← List.dropWhile_eq_nil_iff,
    List.dropWhile_idempotent, List.dropWhile_eq_nil_iff]

/-- Something is left of a text exactly if there is something in it that is no blank. -/
theorem strip_ne_nil_iff : strip cs ≠ [] ↔ ∃ c ∈ cs, isBlank c = false := by
  rw [ne_eq, strip_eq_nil_iff]
  simp

/-- The last character of a text without blanks around it is none. -/
theorem not_isBlank_of_getLast (h : (strip cs).getLast? = some c) : isBlank c = false := by
  rw [strip, dropTrailing, List.getLast?_reverse] at h
  obtain ⟨rest, hrest⟩ := List.head?_eq_some_iff.mp h
  have hne : (dropLeading isBlank cs).reverse.dropWhile isBlank ≠ [] := by
    rw [hrest]
    exact List.cons_ne_nil c rest
  have hhead := List.head_dropWhile_not isBlank hne
  simpa only [hrest, List.head_cons] using hhead

/-- A last part of a text without blanks around it is not blank. -/
theorem strip_ne_nil_of_suffix {part : List Char} (h : part <:+ strip cs) (hne : part ≠ []) :
    strip part ≠ [] := by
  intro hnil
  obtain ⟨before, hbefore⟩ := h
  have hlast : (strip cs).getLast? = some (part.getLast hne) := by
    rw [← hbefore, List.getLast?_append_of_ne_nil _ hne, List.getLast?_eq_some_getLast hne]
  have hblank := strip_eq_nil_iff.mp hnil _ (List.getLast_mem hne)
  rw [not_isBlank_of_getLast hlast] at hblank
  exact absurd hblank (by decide)

/-- Behind what is left of a text there is nothing but blanks. -/
theorem exists_dropLeading_eq (cs : List Char) :
    ∃ blanks, cs.dropWhile isBlank = strip cs ++ blanks ∧ ∀ c ∈ blanks, isBlank c = true :=
  ⟨(cs.dropWhile isBlank).rtakeWhile isBlank, List.rdropWhile_append_rtakeWhile.symm,
    fun _ => List.mem_rtakeWhile_imp⟩

/-- The first character of a text without blanks around it is none. -/
theorem not_isBlank_of_head (h : (strip cs).head? = some c) : isBlank c = false := by
  obtain ⟨blanks, hbody, -⟩ := exists_dropLeading_eq cs
  obtain ⟨rest, hrest⟩ := List.head?_eq_some_iff.mp h
  have hne : cs.dropWhile isBlank ≠ [] := by simp [hbody, hrest]
  have hhead := List.head_dropWhile_not isBlank hne
  simpa only [hbody, hrest, List.cons_append, List.head_cons] using hhead

theorem strip_infix (cs : List Char) : strip cs <:+: cs := by
  obtain ⟨blanks, hbody, -⟩ := exists_dropLeading_eq cs
  refine ⟨cs.takeWhile isBlank, blanks, ?_⟩
  rw [List.append_assoc, ← hbody, List.takeWhile_append_dropWhile]

theorem dropTrailing_append (h : ∀ c ∈ blanks, p c = true) :
    dropTrailing p (cs ++ blanks) = dropTrailing p cs := by
  have hall : ∀ c ∈ blanks.reverse, p c = true := fun c hc => h c (List.mem_reverse.mp hc)
  rw [dropTrailing, List.reverse_append, List.dropWhile_append_of_pos hall, dropTrailing]

/-- Blanks before a text make no difference. -/
theorem strip_append_left (h : ∀ c ∈ blanks, isBlank c = true) :
    strip (blanks ++ cs) = strip cs := by
  rw [strip, dropLeading, List.dropWhile_append_of_pos h, strip, dropLeading]

theorem strip_dropWhile (cs : List Char) : strip (cs.dropWhile isBlank) = strip cs := by
  have hblanks : ∀ c ∈ cs.takeWhile isBlank, isBlank c = true := fun _ => List.mem_takeWhile_imp
  rw [← strip_append_left hblanks, List.takeWhile_append_dropWhile]

/-- Neither do blanks behind it. -/
theorem strip_append_right (h : ∀ c ∈ blanks, isBlank c = true) :
    strip (cs ++ blanks) = strip cs := by
  by_cases hcs : ∀ c ∈ cs, isBlank c = true
  · have hall : ∀ c ∈ cs ++ blanks, isBlank c = true := fun c hc =>
      (List.mem_append.mp hc).elim (hcs c) (h c)
    rw [strip_eq_nil_iff.mpr hcs, strip_eq_nil_iff.mpr hall]
  · have hne : (cs.dropWhile isBlank).isEmpty = false := by
      rw [List.isEmpty_eq_false_iff, ne_eq, List.dropWhile_eq_nil_iff]
      exact hcs
    rw [strip, dropLeading, List.dropWhile_append, hne]
    exact dropTrailing_append h

/-- Characters of a class are dropped up to a text that begins with none. -/
theorem dropWhile_append_of_head (h : ∀ c ∈ cs.head?, p c = false) (before : List Char) :
    (before ++ cs).dropWhile p = before.dropWhile p ++ cs := by
  have hkept : cs.dropWhile p = cs := by
    cases cs with
    | nil => rfl
    | cons c cs => rw [List.dropWhile_cons, if_neg (by simp [h c rfl])]
  rw [List.dropWhile_append, hkept]
  split_ifs with hempty
  · rw [List.isEmpty_iff.mp hempty, List.nil_append]
  · rfl

/-- A text without blanks at its ends is left as it is. -/
theorem strip_eq_self (hfirst : ∀ c ∈ cs.head?, isBlank c = false)
    (hlast : ∀ c ∈ cs.getLast?, isBlank c = false) : strip cs = cs := by
  have hfront : cs.dropWhile isBlank = cs := dropWhile_append_of_head hfirst []
  rw [← List.head?_reverse] at hlast
  have hback : cs.reverse.dropWhile isBlank = cs.reverse := dropWhile_append_of_head hlast []
  rw [strip, dropLeading, hfront, dropTrailing, hback, List.reverse_reverse]

/-- A text without any blanks is left as it is. -/
theorem strip_eq_self_of_forall (h : ∀ c ∈ cs, isBlank c = false) : strip cs = cs :=
  strip_eq_self (fun c hc => h c (List.mem_of_mem_head? hc))
    fun c hc => h c (List.mem_of_getLast? hc)

/-- What stands around a text without blanks at its ends loses its outer blanks only. -/
theorem strip_append_append (h : strip cs = cs) (hne : cs ≠ []) (before after : List Char) :
    strip (before ++ cs ++ after) =
      before.dropWhile isBlank ++ cs ++ dropTrailing isBlank after := by
  have hfirst : ∀ c ∈ (cs ++ after).head?, isBlank c = false := by
    intro c hc
    rw [List.head?_append_of_ne_nil _ hne] at hc
    exact not_isBlank_of_head (by rwa [h])
  have hlast : ∀ c ∈ (before.dropWhile isBlank ++ cs).reverse.head?, isBlank c = false := by
    intro c hc
    rw [List.head?_reverse, List.getLast?_append_of_ne_nil _ hne] at hc
    exact not_isBlank_of_getLast (by rwa [h])
  rw [strip, dropLeading, List.append_assoc before, dropWhile_append_of_head hfirst,
    ← List.append_assoc, dropTrailing, List.reverse_append, dropWhile_append_of_head hlast,
    List.reverse_append, List.reverse_reverse, dropTrailing]

/-- **What is left of a text has no blanks around it.** -/
theorem strip_strip (cs : List Char) : strip (strip cs) = strip cs := by
  -- the end of what is left is free of blanks, so only its beginning is to be looked at
  have hhead : (strip cs).dropWhile isBlank = strip cs := by
    cases hstrip : strip cs with
    | nil => rfl
    | cons c rest =>
      have hc : isBlank c = false := not_isBlank_of_head (by rw [hstrip, List.head?_cons])
      rw [List.dropWhile_cons, if_neg (by simp [hc])]
  rw [strip, dropLeading, hhead]
  exact List.rdropWhile_idempotent _ _

end Flowgraph.Text
