import Flowgraph.Proofs.Nesting
import Flowgraph.Proofs.Prefixes

/-!
# Objects found in prose

An object that stands in prose without fences is found if no brace stands before it, whatever follows
it: the scan for braces stops at its end, and the whole reply, which is tried first, is no other
object.  Only one thing can come between: where the whole reply is nested too deep to be read, the
search stops with a fault.  That takes a reply that begins with a bracket.

## Main results

* `Reader.readValue_shallow` — what begins with neither a bracket nor a brace is not nested too deep.
* `Embedded.eq_of_balanced?` — a text that is an object is its own first region.
* `Json.embeddedObject?_of_balanced?` — the first region whose braces balance is found if it is an
  object and the whole is not nested too deep.
* `Json.embeddedObject?_append` — **an object in prose is found, unless the reply as a whole is
  nested too deep.**
* `Json.embeddedObject?_behind_brackets` — an object that is not found.
-/

namespace Flowgraph.Json

namespace Reader

variable {cs rest : List Char} {fields : Fields}

theorem readAll_of_read {text : String} {v : Json} (h : read text = .ok v) :
    readAll text.toList = .ok v := by
  unfold read at h
  simp only [] at h
  split_ifs at h
  unfold readChars at h
  split at h
  · obtain rfl := Except.ok.inj h
    assumption
  · cases h
  · cases h

/-- What is wrong with a whole text by itself is wrong with the value it begins with. -/
theorem read_eq_unfit_iff {e : DataError} : read (String.ofList cs) = .error (.unfit e) ↔
    cs.head? ≠ some '\uFEFF' ∧ readValue (2 * cs.length + 2) 0 (skip cs) = .error (.unfit e) := by
  have hall : readAll cs = .error (.unfit e) ↔
      readValue (2 * cs.length + 2) 0 (skip cs) = .error (.unfit e) := by
    refine Except.bind_eq_error_iff.trans ⟨fun h => ?_, .inl⟩
    rcases h with hvalue | ⟨⟨v, left⟩, -, hrest⟩
    · exact hvalue
    · simp only [] at hrest
      split at hrest <;> cases hrest
  rw [← hall, read, String.toList_ofList]
  split_ifs with hmark
  · simp [hmark]
  · unfold readChars
    split <;> simp_all

/-! ### Texts that are not nested -/

/-- **A text that begins with neither a bracket nor a brace is not nested too deep**, whatever
follows. -/
theorem readValue_shallow {c : Char} (hbracket : c ≠ '[') (hbrace : c ≠ '\x7b') {fuel depth : ℕ}
    {kind : String} :
    readValue fuel depth (c :: rest) ≠ .error (.unfit (.textTooDeep kind)) := by
  cases fuel with
  | zero => simp [readValue]
  | succ fuel =>
    unfold readValue
    split
    · intro h
      rcases Except.bind_eq_error_iff.mp h with htext | ⟨⟨text, left⟩, -, htext⟩
      · exact readText_ne_unfit htext
      · cases htext
    · rename_i heq
      exact absurd (List.cons.inj heq).1 hbracket
    · rename_i heq
      exact absurd (List.cons.inj heq).1 hbrace
    · exact readAtom_ne_tooDeep

/-! ### An object and what follows it -/

theorem exists_readValue_of_readAll (hread : readAll cs = .ok (.obj fields))
    (hstrip : Text.strip cs = cs) :
    ∃ left, readValue (2 * cs.length + 2) 0 cs = .ok (.obj fields, left) := by
  obtain ⟨⟨v, left⟩, hvalue, hrest⟩ := Except.bind_eq_ok_iff.mp hread
  rw [skip_of_strip hstrip] at hvalue
  simp only [] at hrest
  split at hrest
  · obtain rfl := Except.ok.inj hrest
    exact ⟨left, hvalue⟩
  · cases hrest

/-- Where an object can be read, the same text with more behind it is well nested up to the end of
the object. -/
theorem readValue_append_of_readAll (hread : readAll cs = .ok (.obj fields))
    (hstrip : Text.strip cs = cs) (more : List Char) :
    ∃ left, readValue (2 * (cs ++ more).length + 2) 0 (skip (cs ++ more)) =
      .ok (.obj fields, left) := by
  obtain ⟨left, hvalue⟩ := exists_readValue_of_readAll hread hstrip
  have hskip : skip cs = cs := skip_of_strip hstrip
  have hne : skip cs ≠ [] := by
    rw [hskip]
    exact ne_nil_of_readValue hvalue
  have hlonger : 2 * (cs ++ more).length + 2 ≥ 2 * cs.length + 2 := by
    rw [List.length_append]
    omega
  refine ⟨left ++ more, ?_⟩
  rw [skip_append hne, hskip]
  exact (readValue_append _).1 _ _ _ _ hvalue (.inr rfl) _ hlonger more

end Reader

namespace Embedded

variable {cs before object after : List Char} {fields : Fields}

/-! ### The first part that is an object -/

theorem object?_of_read (h : read (String.ofList cs) = .ok (.obj fields)) :
    object? cs = .ok (some fields) := by
  rw [object?, h]

theorem object?_of_tooDeep {kind : String}
    (h : read (String.ofList cs) = .error (.unfit (.textTooDeep kind))) :
    object? cs = .error (.textTooDeep kind) := by
  rw [object?, h]

/-- A text that is not too deep is an object, or nothing is found in it. -/
theorem object?_cases
    (h : ∀ kind, read (String.ofList cs) ≠ .error (.unfit (.textTooDeep kind))) :
    (∃ fields, read (String.ofList cs) = .ok (.obj fields)) ∨ object? cs = .ok none := by
  unfold object?
  split
  · rename_i fields hread
    exact .inl ⟨fields, hread⟩
  · rename_i kind hread
    exact absurd hread (h kind)
  · exact .inr rfl

theorem firstObject?_cons_of_object? {others : List (List Char)}
    (h : object? cs = .ok (some fields)) : firstObject? (cs :: others) = .ok (some fields) := by
  simp [firstObject?, h, bind, Except.bind]

theorem firstObject?_cons_of_none {others : List (List Char)} (h : object? cs = .ok none) :
    firstObject? (cs :: others) = firstObject? others := by
  simp [firstObject?, h, bind, Except.bind]

theorem firstObject?_cons_of_error {others : List (List Char)} {e : DataError}
    (h : object? cs = .error e) : firstObject? (cs :: others) = .error e := by
  simp [firstObject?, h, bind, Except.bind]

/-! ### Fences -/

theorem from?_isPrefix {part left : List Char} (h : from? part cs = some left) : part <+: left := by
  induction cs with
  | nil =>
    simp only [from?] at h
    split_ifs at h with hempty
    rw [List.isEmpty_iff.mp hempty]
    exact List.nil_prefix
  | cons c cs ih =>
    simp only [from?] at h
    split_ifs at h with hprefix
    · obtain rfl := Option.some.inj h
      exact List.isPrefixOf_iff_prefix.mp hprefix
    · exact ih h

theorem fenced?_eq_none (h : ¬ fence <:+: cs) : fenced? cs = none := by
  cases hfrom : from? fence cs with
  | none => simp [fenced?, hfrom]
  | some left =>
    exact absurd ((from?_isPrefix hfrom).isInfix.trans (from?_suffix hfrom).isInfix) h

/-! ### Prose -/

/-- Whatever object a text is as a whole, it is the first region of it whose braces balance. -/
theorem eq_of_balanced? (hread : Reader.readAll cs = .ok (.obj fields))
    (hstrip : Text.strip cs = cs) (hbalanced : balanced? cs = some object) : cs = object := by
  have hwhole : balanced? ([] ++ cs ++ []) = some cs :=
    balanced?_append hread hstrip List.not_mem_nil []
  rw [List.nil_append, List.append_nil, hbalanced] at hwhole
  exact (Option.some.inj hwhole).symm

/-- Prose that does not begin with a bracket is not nested too deep as a whole. -/
theorem not_tooDeep_of_head (hread : Reader.readAll object = .ok (.obj fields))
    (hstrip : Text.strip object = object) (hbefore : '\x7b' ∉ before)
    (hbracket : (before.dropWhile Text.isBlank).head? ≠ some '[') (after : List Char)
    (kind : String) :
    read (String.ofList (before.dropWhile Text.isBlank ++ object ++ after)) ≠
      .error (.unfit (.textTooDeep kind)) := by
  intro hdeep
  obtain ⟨-, hvalue⟩ := Reader.read_eq_unfit_iff.mp hdeep
  cases hfront : before.dropWhile Text.isBlank with
  | nil =>
    -- the reply begins with the object, which is well nested
    rw [hfront, List.nil_append] at hvalue
    obtain ⟨left, hobject⟩ := Reader.readValue_append_of_readAll hread hstrip after
    rw [hobject] at hvalue
    cases hvalue
  | cons c rest =>
    have hne : before.dropWhile Text.isBlank ≠ [] := by simp [hfront]
    have hblank : Text.isBlank c = false := by
      simpa only [hfront, List.head_cons] using List.head_dropWhile_not Text.isBlank hne
    have hspace : Reader.isSpace c = false := by
      by_contra hspace
      rw [Reader.isBlank_of_isSpace (by simpa using hspace)] at hblank
      exact absurd hblank (by decide)
    have hmem : c ∈ before :=
      (List.dropWhile_sublist _).subset (hfront ▸ List.mem_cons_self)
    have hbrace : c ≠ '\x7b' := by
      rintro rfl
      exact hbefore hmem
    have hbracket' : c ≠ '[' := by
      rintro rfl
      exact hbracket (by rw [hfront, List.head?_cons])
    rw [hfront, List.cons_append, List.cons_append, Reader.skip, List.dropWhile_cons,
      if_neg (by simp [hspace])] at hvalue
    exact Reader.readValue_shallow hbracket' hbrace hvalue

end Embedded

open Embedded in
/-- The object in a prose without fences is found, unless the whole is nested too deep. -/
theorem embeddedObject?_of_balanced? {reply object : String} {fields : Fields}
    (hread : read object = .ok (.obj fields))
    (hfence : ¬ fence <:+: Text.strip reply.toList)
    (hbalanced : balanced? (Text.strip reply.toList) = some object.toList)
    (hdepth : ∀ kind, read (String.ofList (Text.strip reply.toList)) ≠
      .error (.unfit (.textTooDeep kind))) :
    embeddedObject? reply = .ok (some fields) := by
  have hobject : object? object.toList = .ok (some fields) :=
    object?_of_read (by rwa [String.ofList_toList])
  rw [embeddedObject?, candidates, fenced?_eq_none hfence, hbalanced]
  rcases object?_cases hdepth with ⟨others, hwhole⟩ | hnone
  · -- the whole reply is an object: then it is the region itself
    have hall := Reader.readAll_of_read hwhole
    rw [String.toList_ofList] at hall
    have hsame := eq_of_balanced? hall (Text.strip_strip _) hbalanced
    rw [hsame]
    exact firstObject?_cons_of_object? hobject
  · exact (firstObject?_cons_of_none hnone).trans (firstObject?_cons_of_object? hobject)

open Embedded in
/-- **An object in prose is found, unless the reply as a whole is nested too deep**, and it is not if
the reply does not begin with a bracket.  In front of the object there may be anything but a brace,
and behind it anything at all, as long as there is no fence.  The scan for braces stops at the end of
the object in any case. -/
theorem embeddedObject?_append {before object after : String} {fields : Fields}
    (hread : read object = .ok (.obj fields))
    (hstrip : Text.strip object.toList = object.toList) (hbefore : '\x7b' ∉ before.toList)
    (hfence : ¬ fence <:+: (before ++ object ++ after).toList) :
    balanced? (before ++ object ++ after).toList = some object.toList ∧
      balanced? (Text.strip (before ++ object ++ after).toList) = some object.toList ∧
      (embeddedObject? (before ++ object ++ after) = .ok (some fields) ↔
        ∀ kind, read (String.ofList (Text.strip (before ++ object ++ after).toList)) ≠
          .error (.unfit (.textTooDeep kind))) ∧
      ((before.toList.dropWhile Text.isBlank).head? ≠ some '[' →
        embeddedObject? (before ++ object ++ after) = .ok (some fields)) := by
  have hall := Reader.readAll_of_read hread
  obtain ⟨inside, hobject, -⟩ := exists_inside_of_readAll hall hstrip
  have hwhole : Text.strip (before ++ object ++ after).toList =
      before.toList.dropWhile Text.isBlank ++ object.toList ++
        Text.dropTrailing Text.isBlank after.toList := by
    rw [String.toList_append, String.toList_append]
    exact Text.strip_append_append hstrip (by simp [hobject]) _ _
  have hfront : '\x7b' ∉ before.toList.dropWhile Text.isBlank := fun hmem =>
    hbefore ((List.dropWhile_sublist _).subset hmem)
  have hbalanced : balanced? (Text.strip (before ++ object ++ after).toList) =
      some object.toList := by
    rw [hwhole]
    exact balanced?_append hall hstrip hfront _
  have hfence' : ¬ fence <:+: Text.strip (before ++ object ++ after).toList := fun hpart =>
    hfence (List.IsInfix.trans hpart (Text.strip_infix _))
  have hfound := embeddedObject?_of_balanced? hread hfence' hbalanced
  refine ⟨?_, hbalanced, ⟨fun hok kind hdeep => ?_, hfound⟩, fun hbracket => hfound ?_⟩
  · rw [String.toList_append, String.toList_append]
    exact balanced?_append hall hstrip hbefore _
  · rw [embeddedObject?, candidates, List.cons_append, List.cons_append,
      firstObject?_cons_of_error (object?_of_tooDeep hdeep)] at hok
    cases hok
  · rw [hwhole]
    exact not_tooDeep_of_head hall hstrip hbefore hbracket _

/-! ### An object with braces in its texts -/

/-- The fields of an object that was read, if there are only texts in it.  Values have no decidable
equality, but these have. -/
def texts? : Except ReadError Json → Option (List (String × String))
  | .ok (.obj fields) => fields.mapM fun field =>
    match field with
    | (name, .str s) => some (name, s)
    | _ => none
  | _ => none

theorem eq_ok_of_texts? {r : Except ReadError Json} {texts : List (String × String)}
    (h : texts? r = some texts) :
    r = .ok (.obj (texts.map fun field => (field.1, .str field.2))) := by
  unfold texts? at h
  split at h
  · rename_i fields
    refine congrArg (fun fields => Except.ok (obj fields)) ?_
    induction fields generalizing texts with
    | nil =>
      obtain rfl : [] = texts := by simpa using h
      rfl
    | cons field fields ih =>
      simp only [List.mapM_cons, Option.bind_eq_bind, Option.pure_def,
        Option.bind_eq_some_iff] at h
      obtain ⟨text, htext, others, hothers, h⟩ := h
      obtain rfl := Option.some.inj h
      split at htext
      · obtain rfl := Option.some.inj htext
        rw [List.map_cons, ← ih hothers]
      · cases htext
  · cases h

/-- An object with braces, quotes and backslashes in its names and texts. -/
def braceObject : String :=
  "\x7b\"a\x7d\":\"\\\"\x7d\x7b\", \"\x7b\" : \"\\\\\"\x7d"

theorem read_braceObject :
    read braceObject = .ok (.obj [("a\x7d", .str "\"\x7d\x7b"), ("\x7b", .str "\\")]) :=
  eq_ok_of_texts? (by decide +kernel :
    texts? (read braceObject) = some [("a\x7d", "\"\x7d\x7b"), ("\x7b", "\\")])

/-- Quotes and brackets before the object, and braces behind it, make no difference. -/
theorem embeddedObject?_append_braceObject :
    read braceObject = .ok (.obj [("a\x7d", .str "\"\x7d\x7b"), ("\x7b", .str "\\")]) ∧
      Text.strip braceObject.toList = braceObject.toList ∧
      '\x7b' ∉ " Here \"is it\x7d [1]:\n".toList ∧
      ¬ Embedded.fence <:+:
        (" Here \"is it\x7d [1]:\n" ++ braceObject ++ "\x7d, or \x7b\"b\": [\x7b\x7d ").toList ∧
      (" Here \"is it\x7d [1]:\n".toList.dropWhile Text.isBlank).head? ≠ some '[' ∧
      embeddedObject?
        (" Here \"is it\x7d [1]:\n" ++ braceObject ++ "\x7d, or \x7b\"b\": [\x7b\x7d ") =
          .ok (some [("a\x7d", .str "\"\x7d\x7b"), ("\x7b", .str "\\")]) := by
  have hstrip : Text.strip braceObject.toList = braceObject.toList := by decide +kernel
  have hbefore : '\x7b' ∉ " Here \"is it\x7d [1]:\n".toList := by decide +kernel
  have hfence : ¬ Embedded.fence <:+:
      (" Here \"is it\x7d [1]:\n" ++ braceObject ++ "\x7d, or \x7b\"b\": [\x7b\x7d ").toList := by
    decide +kernel
  have hhead : (" Here \"is it\x7d [1]:\n".toList.dropWhile Text.isBlank).head? ≠ some '[' := by
    decide +kernel
  exact ⟨read_braceObject, hstrip, hbefore, hfence, hhead,
    (embeddedObject?_append read_braceObject hstrip hbefore hfence).2.2.2 hhead⟩

/-! ### Prose of brackets -/

/-- Where more lists begin than may be nested, reading stops. -/
theorem Reader.readValue_brackets : ∀ {n fuel depth : ℕ} (rest : List Char), depth ≤ maxDepth →
    maxDepth < depth + n → 2 * n ≤ fuel → readValue fuel depth (List.replicate n '[' ++ rest) =
      .error (.unfit (.textTooDeep "array")) := by
  intro n
  induction n with
  | zero =>
    intro fuel depth rest hle hlt _
    omega
  | succ n ih =>
    intro fuel depth rest hle hlt hfuel
    obtain ⟨fuel, rfl⟩ : ∃ k, fuel = k + 1 + 1 := ⟨fuel - 2, by omega⟩
    rw [List.replicate_succ, List.cons_append, readValue]
    split_ifs with hdepth
    · rfl
    · -- there is one more bracket, and the list that it opens is read first
      obtain ⟨m, rfl⟩ : ∃ m, n = m + 1 := ⟨n - 1, by omega⟩
      have hinner : readValue fuel (depth + 1) (List.replicate (m + 1) '[' ++ rest) =
          .error (.unfit (.textTooDeep "array")) :=
        ih rest (by omega) (by omega) (by omega)
      rw [List.replicate_succ, List.cons_append] at hinner ⊢
      have hskip : skip ('[' :: (List.replicate m '[' ++ rest)) =
          '[' :: (List.replicate m '[' ++ rest) := rfl
      simp [hskip, readItems, hinner, bind, Except.bind]

/-- Nothing is found in a reply that begins with so many brackets, whatever follows them. -/
theorem embeddedObject?_of_brackets {n : ℕ} (h : Reader.maxDepth < n) (text : String) :
    embeddedObject? (String.ofList (List.replicate n '[') ++ text) =
      .error (.textTooDeep "array") := by
  have hpos : n ≠ 0 := by omega
  have hblank : ∀ c ∈ List.replicate n '[', Text.isBlank c = false := fun c hc => by
    rw [List.eq_of_mem_replicate hc]
    decide
  have hstrip : Text.strip (List.replicate n '[') = List.replicate n '[' :=
    Text.strip_eq_self (fun c hc => hblank c (List.mem_of_mem_head? hc))
      (fun c hc => hblank c (List.mem_of_getLast? hc))
  have hwhole := Text.strip_append_append hstrip (by simp [hpos]) [] text.toList
  set left := Text.dropTrailing Text.isBlank text.toList
  rw [List.nil_append, List.dropWhile_nil, List.nil_append] at hwhole
  have hskip : Reader.skip (List.replicate n '[' ++ left) = List.replicate n '[' ++ left := by
    obtain ⟨m, rfl⟩ := Nat.exists_eq_succ_of_ne_zero hpos
    rfl
  have hread : read (String.ofList (List.replicate n '[' ++ left)) =
      .error (.unfit (.textTooDeep "array")) := by
    refine Reader.read_eq_unfit_iff.mpr ⟨by simp [List.head?_append, List.head?_replicate, hpos], ?_⟩
    rw [hskip]
    exact Reader.readValue_brackets left (Nat.zero_le _) (by omega) (by simp; omega)
  rw [embeddedObject?, Embedded.candidates, String.toList_append, String.toList_ofList, hwhole]
  exact Embedded.firstObject?_cons_of_error (Embedded.object?_of_tooDeep hread)

/-- **An object behind twenty thousand brackets is not found**, though no brace stands before it and
there is no fence. -/
theorem embeddedObject?_behind_brackets :
    read "\x7b\"a\":\"b\"\x7d" = .ok (.obj [("a", .str "b")]) ∧
      Text.strip "\x7b\"a\":\"b\"\x7d".toList = "\x7b\"a\":\"b\"\x7d".toList ∧
      '\x7b' ∉ (String.ofList (List.replicate 20000 '[')).toList ∧
      ¬ Embedded.fence <:+:
        (String.ofList (List.replicate 20000 '[') ++ "\x7b\"a\":\"b\"\x7d" ++ "").toList ∧
      embeddedObject? (String.ofList (List.replicate 20000 '[') ++ "\x7b\"a\":\"b\"\x7d" ++ "") =
        .error (.textTooDeep "array") := by
  have hread : read "\x7b\"a\":\"b\"\x7d" = .ok (.obj [("a", .str "b")]) :=
    eq_ok_of_texts? (by decide +kernel : texts? (read "\x7b\"a\":\"b\"\x7d") = some [("a", "b")])
  refine ⟨hread, by decide +kernel, ?_, fun hfence => ?_, ?_⟩
  · rw [String.toList_ofList]
    exact fun hmem => absurd (List.eq_of_mem_replicate hmem) (by decide)
  · -- a fence is made of backticks, and there is none
    have htick : '`' ∈ (String.ofList (List.replicate 20000 '[') ++ "\x7b\"a\":\"b\"\x7d" ++
        "").toList := hfence.subset (by decide)
    rw [String.toList_append, String.toList_append, String.toList_ofList, List.mem_append,
      List.mem_append] at htick
    rcases htick with (hmem | hmem) | hmem
    · exact absurd (List.eq_of_mem_replicate hmem) (by decide)
    · exact absurd hmem (by decide)
    · exact absurd hmem (by decide)
  · rw [String.append_assoc]
    exact embeddedObject?_of_brackets (by decide) _

end Flowgraph.Json
