import Flowgraph.Json.Embedded
import Flowgraph.Proofs.Blanks
import Mathlib.Data.List.Infix
import Mathlib.Tactic.SplitIfs

/-!
# Regions whose braces balance

A scan for braces knows nothing of the data format but quoted texts and backslashes, and yet it stops
at the end of an object: whatever the reader reads away inside the braces of an object takes the scan
back to the depth and the mode that it came with.  So an object that stands in prose is found as it
stands there, whatever follows it, as long as no brace stands before it.

## Main definitions

* `Embedded.Passes` — a scan passes over a part of a text.
* `Embedded.Skims` — a scan passes over what was read away from a text.

## Main results

* `Reader.readValue_skims` — a scan passes over every value.
* `Embedded.exists_inside_of_readAll` — an object is what a scan passes over between two braces.
* `Embedded.balanced?_append` — **the first region whose braces balance is the object.**
-/

namespace Flowgraph.Json

namespace Embedded

/-! ### Passing over a part of a text -/

/-- A scan passes over a part of a text: it comes out in the mode `after`, at the depth at which it
came in. -/
def Passes (before after : Mode) (part : List Char) : Prop :=
  ∀ depth rest, region? before (depth + 1) (part ++ rest) =
    (region? after (depth + 1) rest).map (part ++ ·)

/-- A scan that passes over what is read away. -/
def Skims (before : Mode) (cs : List Char) (after : Mode) (left : List Char) : Prop :=
  ∃ part, cs = part ++ left ∧ Passes before after part

/-- A character that means nothing to a scan outside of quoted texts. -/
def IsPlain (c : Char) : Prop :=
  c ≠ '"' ∧ c ≠ '\x7b' ∧ c ≠ '\x7d'

instance (c : Char) : Decidable (IsPlain c) :=
  inferInstanceAs (Decidable (_ ∧ _ ∧ _))

section Passes

variable {m m' m'' : Mode} {part part' : List Char} {c : Char}

theorem passes_nil (m : Mode) : Passes m m [] := by
  intro depth rest
  simp

theorem Passes.append (h : Passes m m' part) (h' : Passes m' m'' part') :
    Passes m m'' (part ++ part') := by
  intro depth rest
  rw [List.append_assoc, h, h', Option.map_map]
  refine congrArg (Option.map · _) (funext fun region => ?_)
  rw [Function.comp_apply, List.append_assoc]

theorem passes_plain (hc : IsPlain c) : Passes .plain .plain [c] := by
  obtain ⟨hquote, hopen, hclose⟩ := hc
  intro depth rest
  simp [region?, hquote, hopen, hclose]

theorem passes_plains (h : ∀ c ∈ part, IsPlain c) : Passes .plain .plain part := by
  induction part with
  | nil => exact passes_nil _
  | cons c part ih =>
    rw [List.forall_mem_cons] at h
    exact (passes_plain h.1).append (ih h.2)

theorem passes_opening : Passes .plain .quoted ['"'] := by
  intro depth rest
  simp [region?]

theorem passes_closing : Passes .quoted .plain ['"'] := by
  intro depth rest
  simp [region?]

theorem passes_inside (hquote : c ≠ '"') (hslash : c ≠ '\\') : Passes .quoted .quoted [c] := by
  intro depth rest
  simp [region?, hquote, hslash]

theorem passes_escape (c : Char) : Passes .quoted .quoted ['\\', c] := by
  intro depth rest
  simp [region?, Option.map_map, Function.comp_def]

/-- A scan passes over braces if it passes over what stands between them. -/
theorem Passes.braces (h : Passes .plain .plain part) :
    Passes .plain .plain ('\x7b' :: (part ++ ['\x7d'])) := by
  intro depth rest
  have hinside := h (depth + 1) ('\x7d' :: rest)
  simp [region?, hinside, Option.map_map, Function.comp_def]

end Passes

namespace Skims

variable {m m' m'' : Mode} {cs left left' : List Char} {c : Char}

theorem refl (m : Mode) (cs : List Char) : Skims m cs m cs :=
  ⟨[], rfl, passes_nil m⟩

theorem trans (h : Skims m cs m' left) (h' : Skims m' left m'' left') : Skims m cs m'' left' := by
  obtain ⟨part, rfl, hpart⟩ := h
  obtain ⟨part', rfl, hpart'⟩ := h'
  exact ⟨part ++ part', (List.append_assoc ..).symm, hpart.append hpart'⟩

theorem suffix (h : Skims m cs m' left) : left <:+ cs := by
  obtain ⟨part, rfl, -⟩ := h
  exact ⟨part, rfl⟩

theorem cons {part : List Char} (h : Passes m m' part) (h' : Skims m' left m'' left') :
    Skims m (part ++ left) m'' left' :=
  Skims.trans ⟨part, rfl, h⟩ h'

theorem plain (hc : IsPlain c) (cs : List Char) : Skims .plain (c :: cs) .plain cs :=
  ⟨[c], rfl, passes_plain hc⟩

theorem dropWhile {p : Char → Bool} (hp : ∀ c, p c = true → IsPlain c) (cs : List Char) :
    Skims .plain cs .plain (cs.dropWhile p) :=
  ⟨cs.takeWhile p, List.takeWhile_append_dropWhile.symm,
    passes_plains fun c hc => hp c (List.mem_takeWhile_imp hc)⟩

/-- Braces are passed over if what stands between them is. -/
theorem braces (h : Skims .plain cs .plain ('\x7d' :: left)) :
    Skims .plain ('\x7b' :: cs) .plain left := by
  obtain ⟨part, rfl, hpart⟩ := h
  exact ⟨'\x7b' :: (part ++ ['\x7d']), by simp, hpart.braces⟩

end Skims

end Embedded

/-! ### Passing over what is read -/

namespace Reader

open Embedded

variable {cs left rest : List Char}

theorem isPlain_of_isSpace {c : Char} (h : isSpace c = true) : IsPlain c := by
  refine ⟨?_, ?_, ?_⟩ <;> rintro rfl <;> exact absurd h (by decide)

theorem isPlain_of_isDigit {c : Char} (h : isDigit c = true) : IsPlain c := by
  refine ⟨?_, ?_, ?_⟩ <;> rintro rfl <;> exact absurd h (by decide)

theorem isBlank_of_isSpace {c : Char} (h : isSpace c = true) : Text.isBlank c = true := by
  have hc : c = ' ' ∨ c = '\t' ∨ c = '\n' ∨ c = '\r' := by
    simpa [isSpace, or_assoc] using h
  rcases hc with rfl | rfl | rfl | rfl <;> decide

/-- A text without blanks around it has nothing to skip. -/
theorem skip_of_strip (h : Text.strip cs = cs) : skip cs = cs := by
  cases cs with
  | nil => rfl
  | cons c cs =>
    have hblank : Text.isBlank c = false := Text.not_isBlank_of_head (by rw [h, List.head?_cons])
    have hspace : isSpace c = false := by
      by_contra hspace
      rw [isBlank_of_isSpace (by simpa using hspace)] at hblank
      exact absurd hblank (by decide)
    rw [skip, List.dropWhile_cons, if_neg (by simp [hspace])]

theorem skip_skims (cs : List Char) : Skims .plain cs .plain (skip cs) :=
  .dropWhile (fun _ => isPlain_of_isSpace) cs

/-- A scan passes over a plain character behind blanks. -/
theorem skims_of_skip {c : Char} (h : skip cs = c :: rest) (hc : IsPlain c) :
    Skims .plain cs .plain rest :=
  (h ▸ skip_skims cs).trans (.plain hc rest)

theorem hexValue?_ne {c : Char} {n : ℕ} (h : hexValue? c = some n) : c ≠ '"' ∧ c ≠ '\\' := by
  have hquote : hexValue? '"' = none := by decide
  have hslash : hexValue? '\\' = none := by decide
  constructor <;> rintro rfl <;> simp_all

/-- A scan passes over a numeric escape. -/
theorem passes_unit {a b c d : Char} {n : ℕ} (h : unit? a b c d = some n) :
    Passes .quoted .quoted ['\\', 'u', a, b, c, d] := by
  simp only [unit?, Option.bind_eq_bind, Option.bind_eq_some_iff] at h
  obtain ⟨_, ha, _, hb, _, hc, _, hd, -⟩ := h
  have hinside : ∀ {c n}, hexValue? c = some n → Passes .quoted .quoted [c] := fun h =>
    passes_inside (hexValue?_ne h).1 (hexValue?_ne h).2
  exact (passes_escape 'u').append <| (hinside ha).append <| (hinside hb).append <|
    (hinside hc).append (hinside hd)

theorem pair?_skims {high : ℕ} {l : Text.Letter} (h : pair? high cs = .ok (some (l, left))) :
    Skims .quoted cs .quoted left := by
  unfold pair? at h
  split at h
  · rename_i e a b c d next rest
    split_ifs at h with he
    · obtain ⟨rfl, -⟩ := he
      split at h
      · cases h
      · rename_i low hlow
        obtain ⟨-, rfl⟩ : _ ∧ next :: rest = left := by simpa using h
        exact ⟨['\\', 'u', a, b, c, d], rfl, passes_unit hlow⟩
    · cases h
  · cases h

/-- A scan passes over a quoted text to its closing quote. -/
theorem readText_skims {opening acc : List Char} {fuel : ℕ} {s : String}
    (h : readText opening fuel acc cs = .ok (s, left)) : Skims .quoted cs .plain left := by
  fun_induction readText opening fuel acc cs with
  | case3 fuel acc rest =>
    obtain ⟨-, rfl⟩ : _ ∧ rest = left := by simpa using h
    exact ⟨['"'], rfl, passes_closing⟩
  | case6 fuel acc a b c d next rest n hn l left' hpair ih =>
    exact .cons (passes_unit hn) ((pair?_skims hpair).trans (ih h))
  | case7 fuel acc a b c d next rest n hn hpair ih =>
    exact .cons (passes_unit hn) (ih h)
  | case9 fuel acc e rest _ _ ch hch ih => exact .cons (passes_escape e) (ih h)
  | case13 fuel acc ch rest hquote _ _ hescape hend _ ih =>
    have hslash : ch ≠ '\\' := by
      intro hch
      cases rest with
      | nil => exact hend hch rfl
      | cons e rest => exact hescape e rest hch rfl
    exact .cons (passes_inside hquote hslash) (ih h)
  | _ => cases h

theorem wholePart?_skims {digits : List Char} (h : wholePart? cs = some (digits, left)) :
    Skims .plain cs .plain left := by
  unfold wholePart? at h
  split at h
  · cases h
  · rename_i c rest
    split_ifs at h with hzero hdigit
    · obtain ⟨-, rfl⟩ : _ ∧ rest = left := by simpa using h
      exact .plain (isPlain_of_isDigit (hzero ▸ by decide)) rest
    · obtain ⟨-, rfl⟩ : _ ∧ rest.dropWhile isDigit = left := by simpa using h
      exact (Skims.plain (isPlain_of_isDigit hdigit) rest).trans
        (.dropWhile (fun _ => isPlain_of_isDigit) rest)

theorem fraction?_skims {digits : List Char} (h : fraction? cs = some (digits, left)) :
    Skims .plain cs .plain left := by
  unfold fraction? at h
  split at h
  · rename_i rest
    simp only [] at h
    split_ifs at h
    obtain ⟨-, rfl⟩ : _ ∧ rest.dropWhile isDigit = left := by simpa using h
    exact (Skims.plain (by decide) rest).trans (.dropWhile (fun _ => isPlain_of_isDigit) rest)
  · cases h

theorem exponent?_skims {power : Int} (h : exponent? cs = some (power, left)) :
    Skims .plain cs .plain left := by
  unfold exponent? at h
  split at h
  · rename_i e rest
    split_ifs at h with he
    have hmark : IsPlain e := by
      rcases he with rfl | rfl <;> decide
    split at h
    rename_i negative unsigned hsign
    have hunsigned : Skims .plain rest .plain unsigned := by
      split at hsign <;> obtain ⟨-, rfl⟩ := Prod.mk.inj hsign
      · exact .plain (by decide) _
      · exact .plain (by decide) _
      · exact .refl _ _
    simp only [] at h
    split_ifs at h <;> obtain ⟨-, rfl⟩ := Prod.mk.inj (Option.some.inj h) <;>
      exact ((Skims.plain hmark rest).trans hunsigned).trans
        (.dropWhile (fun _ => isPlain_of_isDigit) unsigned)
  · cases h

/-- A scan passes over the value that is read, if one is, and the value is no object. -/
def Skimmed (cs : List Char) (r : Except Fault (Json × List Char)) : Prop :=
  ∀ v left, r = .ok (v, left) → Skims .plain cs .plain left ∧ v.obj? = none

theorem readNumber_skimmed (start : List Char) (negative : Bool) (cs : List Char) :
    Skimmed cs (readNumber start negative cs) := by
  intro v left h
  have hfraction : ∀ cs, Skims .plain cs .plain ((fraction? cs).getD ([], cs)).2 := by
    intro cs
    cases h : fraction? cs with
    | none => exact .refl _ _
    | some part => exact fraction?_skims h
  have hexponent : ∀ cs, Skims .plain cs .plain ((exponent? cs).getD (0, cs)).2 := by
    intro cs
    cases h : exponent? cs with
    | none => exact .refl _ _
    | some part => exact exponent?_skims h
  unfold readNumber at h
  split at h
  · cases h
  · rename_i whole afterWhole hwhole
    have hleft := ((wholePart?_skims hwhole).trans (hfraction afterWhole)).trans (hexponent _)
    simp only [] at h
    split_ifs at h
    all_goals
      obtain ⟨rfl, rfl⟩ := Prod.mk.inj (Except.ok.inj h)
      exact ⟨hleft, rfl⟩

theorem dropWord?_skims {word : String} (hword : ∀ c ∈ word.toList, IsPlain c)
    (h : dropWord? word cs = some left) : Skims .plain cs .plain left := by
  unfold dropWord? at h
  split_ifs at h with hprefix
  obtain ⟨rest, rfl⟩ := List.isPrefixOf_iff_prefix.mp hprefix
  obtain rfl : rest = left := by simpa [← String.length_toList] using h
  exact ⟨word.toList, rfl, passes_plains hword⟩

/-- A word is passed over, or what is read where it does not stand. -/
theorem Skimmed.word {word : String} {v : Json} {r : Except Fault (Json × List Char)}
    (h : Skimmed cs r) (hword : ∀ c ∈ word.toList, IsPlain c) (hv : v.obj? = none) :
    Skimmed cs (match dropWord? word cs with
      | some rest => .ok (v, rest)
      | none => r) := by
  cases hdrop : dropWord? word cs with
  | none => exact h
  | some rest =>
    intro v' left hok
    obtain ⟨rfl, rfl⟩ := Prod.mk.inj (Except.ok.inj hok)
    exact ⟨dropWord?_skims hword hdrop, hv⟩

theorem readAtom_skimmed (cs : List Char) : Skimmed cs (readAtom cs) := by
  unfold readAtom
  refine .word (.word (.word (.word (.word (.word ?number ?_ rfl) ?_ rfl) ?_ rfl) ?_ rfl) ?_ rfl)
    ?_ rfl
  case number =>
    split
    · rename_i rest
      intro v left h
      obtain ⟨hrest, hv⟩ := readNumber_skimmed _ true rest v left h
      exact ⟨(Skims.plain (by decide) rest).trans hrest, hv⟩
    · exact readNumber_skimmed _ false _
  all_goals simp [IsPlain]

theorem readName_skims {fuel : ℕ} {name : String} (h : readName fuel cs = .ok (name, left)) :
    Skims .plain cs .plain left := by
  unfold readName at h
  split at h
  · rename_i rest
    obtain ⟨⟨text, afterName⟩, htext, h⟩ := Except.bind_eq_ok_iff.mp h
    have hname : Skims .plain ('"' :: rest) .plain afterName :=
      .cons passes_opening (readText_skims htext)
    simp only [] at h
    split at h
    · rename_i afterColon hskip
      obtain ⟨-, rfl⟩ := Prod.mk.inj (Except.ok.inj h)
      exact (hname.trans (skims_of_skip hskip (by decide))).trans (skip_skims afterColon)
    · cases h
  · cases h

/-- **A scan passes over every value, every row of items and every row of fields.**  A row of fields
is passed over up to the brace that closes it. -/
theorem readValue_skims (fuel : ℕ) :
    (∀ depth cs v left, readValue fuel depth cs = .ok (v, left) → Skims .plain cs .plain left) ∧
    (∀ depth cs items left, readItems fuel depth cs = .ok (items, left) →
      Skims .plain cs .plain left) ∧
    (∀ depth before cs fields left, readFields fuel depth before cs = .ok (fields, left) →
      Skims .plain cs .plain ('\x7d' :: left)) := by
  -- the three readers call each other, always with less fuel
  induction fuel with
  | zero => exact ⟨nofun, nofun, nofun⟩
  | succ fuel ih =>
    obtain ⟨hvalue, hitems, hfields⟩ := ih
    refine ⟨fun depth cs v left h => ?_, fun depth cs items left h => ?_,
      fun depth before cs fields left h => ?_⟩
    · unfold readValue at h
      split at h
      · rename_i rest
        obtain ⟨⟨text, left'⟩, htext, h⟩ := Except.bind_eq_ok_iff.mp h
        obtain ⟨-, rfl⟩ := Prod.mk.inj (Except.ok.inj h)
        exact .cons passes_opening (readText_skims htext)
      · rename_i rest
        split_ifs at h
        split at h
        · rename_i left' hskip
          obtain ⟨-, rfl⟩ := Prod.mk.inj (Except.ok.inj h)
          exact (Skims.plain (by decide) rest).trans (skims_of_skip hskip (by decide))
        · obtain ⟨⟨items, left'⟩, hread, h⟩ := Except.bind_eq_ok_iff.mp h
          obtain ⟨-, rfl⟩ := Prod.mk.inj (Except.ok.inj h)
          exact ((Skims.plain (by decide) rest).trans (skip_skims rest)).trans
            (hitems _ _ _ _ hread)
      · rename_i rest
        split_ifs at h
        split at h
        · rename_i left' hskip
          obtain ⟨-, rfl⟩ := Prod.mk.inj (Except.ok.inj h)
          exact .braces (hskip ▸ skip_skims rest)
        · obtain ⟨⟨fields, left'⟩, hread, h⟩ := Except.bind_eq_ok_iff.mp h
          obtain ⟨-, rfl⟩ := Prod.mk.inj (Except.ok.inj h)
          exact .braces ((skip_skims rest).trans (hfields _ _ _ _ _ hread))
      · exact (readAtom_skimmed cs v left h).1
    · unfold readItems at h
      obtain ⟨⟨item, afterItem⟩, hread, h⟩ := Except.bind_eq_ok_iff.mp h
      have hitem := hvalue _ _ _ _ hread
      simp only [] at h
      split at h
      · rename_i left' hskip
        obtain ⟨-, rfl⟩ := Prod.mk.inj (Except.ok.inj h)
        exact hitem.trans (skims_of_skip hskip (by decide))
      · rename_i next hskip
        obtain ⟨⟨others, left'⟩, hread', h⟩ := Except.bind_eq_ok_iff.mp h
        obtain ⟨-, rfl⟩ := Prod.mk.inj (Except.ok.inj h)
        exact ((hitem.trans (skims_of_skip hskip (by decide))).trans (skip_skims next)).trans
          (hitems _ _ _ _ hread')
      · cases h
    · unfold readFields at h
      obtain ⟨⟨name, atValue⟩, hname, h⟩ := Except.bind_eq_ok_iff.mp h
      obtain ⟨⟨value, afterValue⟩, hread, h⟩ := Except.bind_eq_ok_iff.mp h
      have hfield := (readName_skims hname).trans (hvalue _ _ _ _ hread)
      simp only [] at h
      split at h
      · rename_i left' hskip
        obtain ⟨-, rfl⟩ := Prod.mk.inj (Except.ok.inj h)
        exact hfield.trans (hskip ▸ skip_skims afterValue)
      · rename_i next hskip
        exact ((hfield.trans (skims_of_skip hskip (by decide))).trans (skip_skims next)).trans
          (hfields _ _ _ _ _ h)
      · cases h

/-- An object begins with a brace, and a scan passes over what is inside to the brace that closes
it. -/
theorem skims_of_readValue_obj {fuel depth : ℕ} {fields : Fields}
    (h : readValue fuel depth cs = .ok (.obj fields, left)) :
    ∃ rest, cs = '\x7b' :: rest ∧ Skims .plain rest .plain ('\x7d' :: left) := by
  cases fuel with
  | zero => cases h
  | succ fuel =>
    unfold readValue at h
    split at h
    · obtain ⟨⟨text, left'⟩, -, h⟩ := Except.bind_eq_ok_iff.mp h
      cases h
    · split_ifs at h
      split at h
      · cases h
      · obtain ⟨⟨items, left'⟩, -, h⟩ := Except.bind_eq_ok_iff.mp h
        cases h
    · rename_i rest
      refine ⟨rest, rfl, ?_⟩
      split_ifs at h
      split at h
      · rename_i left' hskip
        obtain ⟨-, rfl⟩ := Prod.mk.inj (Except.ok.inj h)
        exact hskip ▸ skip_skims rest
      · obtain ⟨⟨fields', left'⟩, hread, h⟩ := Except.bind_eq_ok_iff.mp h
        obtain ⟨-, rfl⟩ := Prod.mk.inj (Except.ok.inj h)
        exact (skip_skims rest).trans ((readValue_skims fuel).2.2 _ _ _ _ _ hread)
    · exact absurd (readAtom_skimmed cs _ left h).2 (by simp [obj?])

end Reader

/-! ### Regions -/

namespace Embedded

variable {before object : List Char} {fields : Fields}

/-- A text without blanks around it that is an object has nothing around its braces. -/
theorem exists_inside_of_readAll (hread : Reader.readAll object = .ok (.obj fields))
    (hstrip : Text.strip object = object) :
    ∃ inside, object = '\x7b' :: (inside ++ ['\x7d']) ∧ Passes .plain .plain inside := by
  obtain ⟨⟨v, left⟩, hvalue, hrest⟩ := Except.bind_eq_ok_iff.mp hread
  rw [Reader.skip_of_strip hstrip] at hvalue
  simp only [] at hrest
  split at hrest
  · rename_i hblank
    obtain rfl := Except.ok.inj hrest
    obtain ⟨rest, rfl, part, hpart, hpasses⟩ := Reader.skims_of_readValue_obj hvalue
    -- what is left behind the brace is blank, and the text does not end with a blank
    have hleft : left = [] := by
      by_contra hne
      have hsuffix : left <:+ Text.strip ('\x7b' :: rest) := by
        rw [hstrip, hpart]
        exact ⟨'\x7b' :: (part ++ ['\x7d']), by simp⟩
      refine Text.strip_ne_nil_of_suffix hsuffix hne (Text.strip_eq_nil_iff.mpr fun c hc => ?_)
      exact Reader.isBlank_of_isSpace (List.dropWhile_eq_nil_iff.mp hblank c hc)
    exact ⟨part, by rw [hpart, hleft], hpasses⟩
  · cases hrest

/-- **The first region whose braces balance is the object**, if no brace stands before it. -/
theorem balanced?_append (hread : Reader.readAll object = .ok (.obj fields))
    (hstrip : Text.strip object = object) (hbefore : '\x7b' ∉ before) (after : List Char) :
    balanced? (before ++ object ++ after) = some object := by
  obtain ⟨inside, rfl, hinside⟩ := exists_inside_of_readAll hread hstrip
  have hfirst : ∀ c ∈ before, (c != '\x7b') = true := by
    rintro c hc
    rw [bne_iff_ne]
    rintro rfl
    exact hbefore hc
  rw [balanced?, List.append_assoc, List.dropWhile_append_of_pos hfirst]
  simp [region?, hinside 0]

end Embedded

end Flowgraph.Json
