import Flowgraph.Proofs.Regions
import Mathlib.Data.List.Infix
import Mathlib.Tactic.SplitIfs

/-!
# Nesting in texts

A text can be too deep to be read only if many lists and objects begin in it: every level of nesting
has an opening bracket of its own, and what the reader has read it never reads again.  It is just as
plain to see where an integer is too long: its digits stand side by side in the text.

## Main definitions

* `Reader.openings` — how many lists and objects may begin in a text.
* `Reader.HasDigits` — so many digits stand side by side in a text.
* `Reader.Reads` — what is left of a text is a last part of it, and a text that is too deep has many
  openings.

## Main results

* `Reader.readValue_reads` — the values of a text.
* `Json.maxDepth_lt_of_read` — **a text that is too deep has more openings than levels are
  allowed.**
* `Json.maxDepth_lt_of_embeddedObject?` — the same of replies that may hold an object.
-/

namespace Flowgraph.Json

namespace Reader

variable {α β : Type}

/-- How many lists and objects may begin in a text. -/
def openings (cs : List Char) : Nat :=
  cs.countP fun c => c == '[' || c == '\x7b'

theorem openings_le_of_suffix {left cs : List Char} (h : left <:+ cs) :
    openings left ≤ openings cs :=
  h.sublist.countP_le

/-- So many digits stand side by side in a text. -/
def HasDigits (count : Nat) (cs : List Char) : Prop :=
  ∃ digits, digits <:+: cs ∧ digits.length = count ∧ ∀ c ∈ digits, isDigit c = true

theorem HasDigits.mono {count : Nat} {part cs : List Char} (h : HasDigits count part)
    (hpart : part <:+: cs) : HasDigits count cs := by
  obtain ⟨digits, hdigits, hlength, hall⟩ := h
  exact ⟨digits, hdigits.trans hpart, hlength, hall⟩

/-- What is wrong with the data by itself can be seen in the text.  Where it is found to be too deep
inside of `depth` lists and objects, there are openings in it for the levels that are not allowed;
where an integer is too long, there are its digits. -/
def Fault.Told (depth : Nat) (cs : List Char) : Fault → Prop
  | .at _ _ => True
  | .unfit (.textTooDeep _) => maxDepth < depth + openings cs
  | .unfit (.tooManyDigits count) => Text.maxDigits < count ∧ HasDigits count cs
  | .unfit _ => False

theorem Fault.Told.mono {fault : Fault} {depth depth' : Nat} {left cs : List Char}
    (h : fault.Told depth left) (hleft : left <:+ cs)
    (hle : depth + openings left ≤ depth' + openings cs) : fault.Told depth' cs := by
  rcases fault with ⟨problem, rest⟩ | e
  · trivial
  · cases e with
    | textTooDeep kind => exact Nat.lt_of_lt_of_le h hle
    | tooManyDigits count => exact ⟨h.1, h.2.mono hleft.isInfix⟩
    | _ => exact h

/-- Reading inside of `depth` lists and objects leaves a last part of the text, or stops with a
fault that the text accounts for. -/
def Reads (depth : Nat) (cs : List Char) (r : Except Fault (α × List Char)) : Prop :=
  match r with
  | .ok (_, left) => left <:+ cs
  | .error fault => fault.Told depth cs

namespace Reads

variable {depth : Nat} {cs left : List Char} {a : α} {r : Except Fault (α × List Char)}

theorem mono (h : Reads depth left r) (hleft : left <:+ cs) : Reads depth cs r := by
  rcases r with fault | ⟨a, rest⟩
  · exact Fault.Told.mono h hleft (Nat.add_le_add_left (openings_le_of_suffix hleft) depth)
  · exact List.IsSuffix.trans h hleft

theorem bind {f : α × List Char → Except Fault (β × List Char)} (h : Reads depth cs r)
    (hf : ∀ a left, left <:+ cs → Reads depth left (f (a, left))) : Reads depth cs (r >>= f) := by
  rcases r with fault | ⟨a, left⟩
  · exact h
  · exact (hf a left h).mono h

/-- What is read behind an opening bracket is one level further in. -/
theorem inside {c : Char} (hc : (c == '[' || c == '\x7b') = true) (h : Reads (depth + 1) left r)
    (hleft : left <:+ cs) : Reads depth (c :: cs) r := by
  have hcount : openings (c :: cs) = openings cs + 1 := List.countP_cons_of_pos hc
  rcases r with fault | ⟨a, rest⟩
  · refine Fault.Told.mono h (hleft.trans (List.suffix_cons c cs)) ?_
    have hle := openings_le_of_suffix hleft
    omega
  · exact (List.IsSuffix.trans h hleft).trans (List.suffix_cons c cs)

/-- At the deepest level there must not be another opening bracket. -/
theorem tooDeep {c : Char} {kind : String} (hc : (c == '[' || c == '\x7b') = true)
    (hdepth : depth ≥ maxDepth) :
    Reads depth (c :: cs) (.error (.unfit (.textTooDeep kind)) : Except Fault (α × List Char)) := by
  have hcount : openings (c :: cs) = openings cs + 1 := List.countP_cons_of_pos hc
  show maxDepth < depth + openings (c :: cs)
  omega

end Reads

/-! ### Parts of a text -/

theorem skip_suffix (cs : List Char) : skip cs <:+ cs :=
  List.dropWhile_suffix _

/-- What is left behind a character that blanks stand before. -/
theorem suffix_of_skip {c : Char} {cs rest left : List Char} (h : skip cs = c :: rest)
    (hleft : left <:+ rest) : left <:+ cs := by
  have hskip := skip_suffix cs
  rw [h] at hskip
  exact (hleft.trans (List.suffix_cons c rest)).trans hskip

/-- What leaves a last part of the text, or stops with a fault that can be seen there. -/
theorem Reads.of_suffix {depth : Nat} {cs : List Char} {r : Except Fault (α × List Char)}
    (hleft : ∀ a left, r = .ok (a, left) → left <:+ cs)
    (hfault : ∀ fault, r = .error fault → fault.Told depth cs) : Reads depth cs r := by
  rcases r with fault | ⟨a, left⟩
  · exact hfault fault rfl
  · exact hleft a left rfl

theorem readText_ne_unfit {opening acc cs : List Char} {fuel : Nat} {e : DataError} :
    readText opening fuel acc cs ≠ .error (.unfit e) := by
  fun_induction readText opening fuel acc cs <;> simp_all

theorem wholePart?_digits {cs digits left : List Char} (h : wholePart? cs = some (digits, left)) :
    HasDigits digits.length cs := by
  unfold wholePart? at h
  split at h
  · cases h
  · rename_i c rest
    split_ifs at h with hzero hdigit
    · obtain ⟨rfl, -⟩ := Prod.mk.inj (Option.some.inj h)
      refine ⟨[c], ⟨[], rest, rfl⟩, rfl, fun d hd => ?_⟩
      rw [List.mem_singleton.mp hd, hzero]
      decide
    · obtain ⟨rfl, -⟩ := Prod.mk.inj (Option.some.inj h)
      refine ⟨c :: rest.takeWhile isDigit, ?_, rfl, fun d hd => ?_⟩
      · exact (List.cons_prefix_cons.mpr ⟨rfl, List.takeWhile_prefix isDigit⟩).isInfix
      · rcases List.mem_cons.mp hd with rfl | hd
        · exact hdigit
        · exact List.mem_takeWhile_imp hd

/-- A number is malformed, or it is an integer that is too long. -/
theorem readNumber_eq_error {start cs : List Char} {negative : Bool} {fault : Fault}
    (h : readNumber start negative cs = .error fault) :
    (∃ problem rest, fault = .at problem rest) ∨
      ∃ count, fault = .unfit (.tooManyDigits count) ∧ Text.maxDigits < count ∧
        HasDigits count cs := by
  unfold readNumber at h
  split at h
  · exact .inl ⟨_, _, (Except.error.inj h).symm⟩
  · rename_i whole afterWhole hwhole
    simp only [] at h
    split_ifs at h with _ hlong
    exact .inr ⟨_, (Except.error.inj h).symm, hlong, wholePart?_digits hwhole⟩

/-- So it is with all values that are neither lists, nor objects, nor texts. -/
theorem readAtom_eq_error {cs : List Char} {fault : Fault} (h : readAtom cs = .error fault) :
    (∃ problem rest, fault = .at problem rest) ∨
      ∃ count, fault = .unfit (.tooManyDigits count) ∧ Text.maxDigits < count ∧
        HasDigits count cs := by
  unfold readAtom at h
  repeat' split at h
  all_goals try cases h
  -- none of the words stands here, so a number is looked for
  · refine (readNumber_eq_error h).imp_right fun ⟨count, hfault, hlong, hdigits⟩ => ?_
    exact ⟨count, hfault, hlong, hdigits.mono (List.suffix_cons '-' _).isInfix⟩
  · exact readNumber_eq_error h

theorem readAtom_ne_tooDeep {cs : List Char} {kind : String} :
    readAtom cs ≠ .error (.unfit (.textTooDeep kind)) := by
  intro h
  rcases readAtom_eq_error h with ⟨problem, rest, hfault⟩ | ⟨count, hfault, -⟩ <;> cases hfault

theorem readText_reads (opening : List Char) (depth fuel : Nat) (acc cs : List Char) :
    Reads depth cs (readText opening fuel acc cs) := by
  refine .of_suffix (fun _ _ h => (readText_skims h).suffix) fun fault h => ?_
  cases fault with
  | «at» problem rest => trivial
  | unfit e => exact absurd h readText_ne_unfit

theorem readAtom_reads (depth : Nat) (cs : List Char) : Reads depth cs (readAtom cs) := by
  refine .of_suffix (fun v left h => (readAtom_skimmed cs v left h).1.suffix) fun fault h => ?_
  rcases readAtom_eq_error h with ⟨problem, rest, rfl⟩ | ⟨count, rfl, hlong, hdigits⟩
  · trivial
  · exact ⟨hlong, hdigits⟩

theorem readName_reads (depth fuel : Nat) (cs : List Char) :
    Reads depth cs (readName fuel cs) := by
  unfold readName
  split
  · rename_i rest
    refine Reads.mono (Reads.bind (readText_reads _ depth fuel [] rest) fun name afterName _ => ?_)
      (List.suffix_cons '"' rest)
    simp only []
    split
    · rename_i afterColon hskip
      exact suffix_of_skip hskip (skip_suffix afterColon)
    · trivial
  · trivial

/-! ### Values -/

/-- The values of a text, the items of a list and the fields of an object. -/
theorem readValue_reads (fuel : Nat) :
    (∀ depth cs, Reads depth cs (readValue fuel depth cs)) ∧
      (∀ depth cs, Reads depth cs (readItems fuel depth cs)) ∧
      ∀ depth before cs, Reads depth cs (readFields fuel depth before cs) := by
  -- the three readers call each other, always with less fuel
  induction fuel with
  | zero => exact ⟨fun _ _ => trivial, fun _ _ => trivial, fun _ _ _ => trivial⟩
  | succ fuel ih =>
    obtain ⟨hvalue, hitems, hfields⟩ := ih
    refine ⟨fun depth cs => ?_, fun depth cs => ?_, fun depth before cs => ?_⟩
    · unfold readValue
      split
      · rename_i rest
        refine Reads.mono (Reads.bind (readText_reads _ depth fuel [] rest) fun text left _ => ?_)
          (List.suffix_cons _ rest)
        exact List.suffix_rfl
      · rename_i rest
        split_ifs with hdepth
        · exact Reads.tooDeep rfl hdepth
        · split
          · rename_i left hskip
            exact (suffix_of_skip hskip List.suffix_rfl).trans (List.suffix_cons _ rest)
          · refine Reads.inside rfl (Reads.bind (hitems (depth + 1) _) fun items left _ => ?_)
              (skip_suffix rest)
            exact List.suffix_rfl
      · rename_i rest
        split_ifs with hdepth
        · exact Reads.tooDeep rfl hdepth
        · split
          · rename_i left hskip
            exact (suffix_of_skip hskip List.suffix_rfl).trans (List.suffix_cons _ rest)
          · refine Reads.inside rfl (Reads.bind (hfields (depth + 1) [] _) fun fields left _ => ?_)
              (skip_suffix rest)
            exact List.suffix_rfl
      · exact readAtom_reads depth cs
    · unfold readItems
      refine Reads.bind (hvalue depth cs) fun item afterItem _ => ?_
      simp only []
      split
      · rename_i left hskip
        exact suffix_of_skip hskip List.suffix_rfl
      · rename_i next hskip
        refine Reads.mono (Reads.bind (hitems depth (skip next)) fun items left _ => ?_)
          (suffix_of_skip hskip (skip_suffix next))
        exact List.suffix_rfl
      · trivial
    · unfold readFields
      refine Reads.bind (readName_reads depth fuel cs) fun name atValue _ => ?_
      simp only []
      refine Reads.bind (hvalue depth atValue) fun value afterValue _ => ?_
      simp only []
      split
      · rename_i left hskip
        exact suffix_of_skip hskip List.suffix_rfl
      · rename_i next hskip
        exact Reads.mono (hfields depth _ (skip next)) (suffix_of_skip hskip (skip_suffix next))
      · trivial

theorem readAll_told {cs : List Char} {fault : Fault} (h : readAll cs = .error fault) :
    fault.Told 0 cs := by
  -- what stands behind the value is never too deep
  have hvalue := ((readValue_reads (2 * cs.length + 2)).1 0 (skip cs)).mono (skip_suffix cs)
  unfold readAll at h
  cases hread : readValue (2 * cs.length + 2) 0 (skip cs) with
  | error fault' =>
    rw [hread] at h hvalue
    obtain rfl : fault' = fault := by simpa [bind, Except.bind] using h
    exact hvalue
  | ok part =>
    simp only [hread, bind, Except.bind] at h
    split at h
    · cases h
    · obtain rfl := Except.error.inj h
      trivial

end Reader

/-- What is wrong with the data of a text by itself can be seen in the text. -/
theorem told_of_read {text : String} {e : DataError} (h : read text = .error (.unfit e)) :
    (Reader.Fault.unfit e).Told 0 text.toList := by
  unfold read at h
  simp only [] at h
  split_ifs at h
  · cases h
  unfold readChars at h
  cases hall : Reader.readAll text.toList with
  | ok value => simp [hall] at h
  | error fault =>
    rcases fault with ⟨problem, rest⟩ | e'
    · simp [hall] at h
    · obtain rfl : e' = e := by simpa [hall] using h
      exact Reader.readAll_told hall

/-- **A text that is too deep has more openings than levels are allowed.** -/
theorem maxDepth_lt_of_read {text kind : String}
    (h : read text = .error (.unfit (.textTooDeep kind))) :
    Reader.maxDepth < Reader.openings text.toList := by
  have htold : Reader.maxDepth < 0 + Reader.openings text.toList := told_of_read h
  rwa [Nat.zero_add] at htold

/-! ### Replies -/

namespace Embedded

theorem from?_suffix {part : List Char} : ∀ {cs left : List Char}, from? part cs = some left →
    left <:+ cs := by
  intro cs
  induction cs with
  | nil =>
    intro left h
    simp only [from?] at h
    split_ifs at h
    obtain rfl := Option.some.inj h
    exact List.suffix_rfl
  | cons c cs ih =>
    intro left h
    simp only [from?] at h
    split_ifs at h
    · obtain rfl := Option.some.inj h
      exact List.suffix_rfl
    · exact (ih h).trans (List.suffix_cons c cs)

theorem before?_isPrefix {part : List Char} : ∀ {cs front : List Char},
    before? part cs = some front → front <+: cs := by
  intro cs
  induction cs with
  | nil =>
    intro front h
    simp only [before?] at h
    split_ifs at h
    obtain rfl := Option.some.inj h
    exact List.prefix_rfl
  | cons c cs ih =>
    intro front h
    simp only [before?] at h
    split_ifs at h
    · obtain rfl := Option.some.inj h
      exact List.nil_prefix
    · obtain ⟨rest, hrest, rfl⟩ := Option.map_eq_some_iff.mp h
      exact List.cons_prefix_cons.mpr ⟨rfl, ih hrest⟩

theorem region?_isPrefix : ∀ {cs region : List Char} {mode : Mode} {depth : Nat},
    region? mode depth cs = some region → region <+: cs := by
  intro cs
  induction cs with
  | nil => intro region mode depth h; cases h
  | cons c cs ih =>
    intro region mode depth h
    have hcons : ∀ mode depth, (region? mode depth cs).map (c :: ·) = some region →
        region <+: c :: cs := by
      intro mode depth h
      obtain ⟨rest, hrest, rfl⟩ := Option.map_eq_some_iff.mp h
      exact List.cons_prefix_cons.mpr ⟨rfl, ih hrest⟩
    cases mode with
    | escaped => exact hcons _ _ h
    | quoted =>
      simp only [region?] at h
      split_ifs at h <;> exact hcons _ _ h
    | plain =>
      simp only [region?] at h
      split_ifs at h
      · exact hcons _ _ h
      · exact hcons _ _ h
      · obtain rfl := Option.some.inj h
        exact List.cons_prefix_cons.mpr ⟨rfl, List.nil_prefix⟩
      · exact hcons _ _ h
      · exact hcons _ _ h

theorem dropTrailing_sublist (p : Char → Bool) (cs : List Char) :
    (Text.dropTrailing p cs).Sublist cs := by
  have h := (List.dropWhile_sublist p (l := cs.reverse)).reverse
  rwa [List.reverse_reverse] at h

theorem fenced?_sublist {cs content : List Char} (h : fenced? cs = some content) :
    content.Sublist cs := by
  obtain ⟨opening, hopening, h⟩ := Option.bind_eq_some_iff.mp h
  obtain ⟨inside, hinside, h⟩ := Option.bind_eq_some_iff.mp h
  simp only [] at h
  split_ifs at h
  obtain rfl := Option.some.inj h
  have hword : ((Text.dropWord? "json".toList (opening.drop 3)).getD (opening.drop 3)).Sublist
      (opening.drop 3) := by
    cases hjson : Text.dropWord? "json".toList (opening.drop 3) with
    | none => exact List.Sublist.refl _
    | some left => exact (Text.dropWord?_suffix hjson).sublist
  calc (Text.strip inside).Sublist inside := (Text.strip_infix inside).sublist
    List.Sublist _ _ := (before?_isPrefix hinside).sublist
    List.Sublist _ _ := List.dropWhile_sublist _
    List.Sublist _ (opening.drop 3) := hword
    List.Sublist _ opening := List.drop_sublist 3 opening
    List.Sublist _ cs := (from?_suffix hopening).sublist

/-- Nothing is tried that does not stand in the reply. -/
theorem sublist_of_mem_candidates {cs part : List Char} (h : part ∈ candidates cs) :
    part.Sublist cs := by
  simp only [candidates, List.mem_append, List.mem_cons, List.cons_append, Option.mem_toList] at h
  rcases h with rfl | (h | h) | h
  · exact List.Sublist.refl _
  · exact fenced?_sublist h
  · exact (region?_isPrefix h).sublist.trans (List.dropWhile_sublist _)
  · unfold span? at h
    simp only [] at h
    split_ifs at h
    obtain rfl := Option.some.inj h
    exact (dropTrailing_sublist _ _).trans (List.dropWhile_sublist _)

theorem maxDepth_lt_of_object? {cs : List Char} {e : DataError} (h : object? cs = .error e) :
    Reader.maxDepth < Reader.openings cs := by
  unfold object? at h
  split at h
  · cases h
  · rename_i kind hread
    have hdeep := maxDepth_lt_of_read hread
    rwa [String.toList_ofList] at hdeep
  · cases h

theorem maxDepth_lt_of_firstObject? {e : DataError} : ∀ {parts : List (List Char)},
    firstObject? parts = .error e → ∃ cs ∈ parts, Reader.maxDepth < Reader.openings cs := by
  intro parts
  induction parts with
  | nil => intro h; cases h
  | cons cs others ih =>
    intro h
    cases hobject : object? cs with
    | error e' => exact ⟨cs, List.mem_cons_self, maxDepth_lt_of_object? hobject⟩
    | ok fields? =>
      cases fields? with
      | some fields => simp [firstObject?, hobject, bind, Except.bind] at h
      | none =>
        have hothers : firstObject? others = .error e := by
          simpa [firstObject?, hobject, bind, Except.bind] using h
        obtain ⟨other, hother, hdeep⟩ := ih hothers
        exact ⟨other, List.mem_cons_of_mem cs hother, hdeep⟩

end Embedded

/-- **A reply that is too deep to be searched for an object has more openings than levels are
allowed.** -/
theorem maxDepth_lt_of_embeddedObject? {reply : String} {e : DataError}
    (h : embeddedObject? reply = .error e) :
    Reader.maxDepth < Reader.openings reply.toList := by
  obtain ⟨part, hpart, hdeep⟩ := Embedded.maxDepth_lt_of_firstObject? h
  have hsub := (Embedded.sublist_of_mem_candidates hpart).trans (Text.strip_infix _).sublist
  exact Nat.lt_of_lt_of_le hdeep hsub.countP_le

end Flowgraph.Json
