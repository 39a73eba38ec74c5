import Flowgraph.Proofs.Paths

/-!
# Keys in brackets and quotes

A key may hold the quotes it is to stand in, or a backslash.  In a path a backslash can be put before
each of them, and then the path is cut where it should be: what stands between the quotes is one
token, to its last character.  But the backslashes stay in the token, so that the path leads to the
field whose name has them too, and the key itself is reached only if nothing in it had to be escaped.

## Main definitions

* `Path.escaped` — a key with a backslash before each quote and each backslash.
* `Path.inQuotes` — the path of an escaped key.

## Main results

* `Path.tokens_inQuotes` — the path of an escaped key is the one token that stands in it.
* `Path.escaped_eq_self_iff` — which keys are left as they are.
* `Path.resolve_inQuotes_iff` — **the path of an escaped key leads to the field of the key exactly if
  the key is left as it is.**
-/

namespace Flowgraph.Path

/-- A key with a backslash before each quote of a kind and before each backslash. -/
def escaped (mark : Char) (key : List Char) : List Char :=
  key.flatMap fun c => if c = mark ∨ c = '\\' then ['\\', c] else [c]

/-- The path of a key in brackets and quotes. -/
def inQuotes (mark : Char) (key : String) : String :=
  String.ofList ('$' :: '[' :: mark :: (escaped mark key.toList ++ [mark, ']']))

variable {mark c : Char} {key rest : List Char}

theorem escaped_cons_of_special (hc : c = mark ∨ c = '\\') :
    escaped mark (c :: key) = '\\' :: c :: escaped mark key := by
  rw [escaped, List.flatMap_cons, if_pos hc]
  rfl

theorem escaped_cons_of_plain (hc : ¬ (c = mark ∨ c = '\\')) :
    escaped mark (c :: key) = c :: escaped mark key := by
  rw [escaped, List.flatMap_cons, if_neg hc]
  rfl

theorem length_le_length_escaped (mark : Char) : ∀ key : List Char,
    key.length ≤ (escaped mark key).length := by
  intro key
  induction key with
  | nil => exact Nat.le_refl 0
  | cons c key ih =>
    by_cases hc : c = mark ∨ c = '\\'
    · rw [escaped_cons_of_special hc, List.length_cons, List.length_cons, List.length_cons]
      omega
    · rw [escaped_cons_of_plain hc, List.length_cons, List.length_cons]
      omega

/-- A key is left as it is exactly if there is no quote and no backslash in it. -/
theorem escaped_eq_self_iff : escaped mark key = key ↔ ∀ c ∈ key, c ≠ mark ∧ c ≠ '\\' := by
  induction key with
  | nil => simp [escaped]
  | cons c key ih =>
    by_cases hc : c = mark ∨ c = '\\'
    · -- what is escaped has grown
      have hgrown : escaped mark (c :: key) ≠ c :: key := by
        intro heq
        have hlength := congrArg List.length heq
        have hle := length_le_length_escaped mark key
        rw [escaped_cons_of_special hc, List.length_cons, List.length_cons, List.length_cons]
          at hlength
        omega
      have hspecial : ¬ ∀ d ∈ c :: key, d ≠ mark ∧ d ≠ '\\' := by
        intro h
        obtain ⟨hquote, hslash⟩ := h c List.mem_cons_self
        exact hc.elim hquote hslash
      exact iff_of_false hgrown hspecial
    · rw [escaped_cons_of_plain hc, List.cons.injEq, and_iff_right rfl, ih, List.forall_mem_cons,
        and_iff_right (not_or.mp hc)]

/-! ### The token of an escaped key -/

/-- What is escaped does not end a quoted token, and is kept as it is written. -/
theorem quoted?_escaped (hmark : mark = '"' ∨ mark = '\'') (key rest : List Char) :
    quoted? mark (escaped mark key ++ mark :: rest) = some (escaped mark key, rest) := by
  have hslash : mark ≠ '\\' := by
    rcases hmark with rfl | rfl <;> decide
  induction key with
  | nil =>
    show quoted? mark (mark :: rest) = some ([], rest)
    rw [quoted?_cons hslash, if_pos rfl]
  | cons c key ih =>
    by_cases hc : c = mark ∨ c = '\\'
    · have hfeed : c ≠ '\n' := by
        rcases hc with rfl | rfl
        · rcases hmark with rfl | rfl <;> decide
        · decide
      rw [escaped_cons_of_special hc, List.cons_append, List.cons_append, quoted?, if_neg hfeed, ih]
      rfl
    · obtain ⟨hquote, hback⟩ := not_or.mp hc
      rw [escaped_cons_of_plain hc, List.cons_append, quoted?_cons hback, if_neg hquote, ih]
      rfl

/-- The path of an escaped key has one token: the escaped key. -/
theorem tokens_inQuotes (hmark : mark = '"' ∨ mark = '\'') (key : String) :
    tokens (inQuotes mark key) = [String.ofList (escaped mark key.toList)] := by
  have hbracketed : bracketed? (mark :: (escaped mark key.toList ++ [mark, ']'])) =
      some (escaped mark key.toList, []) := by
    rw [bracketed?]
    simp only [if_pos hmark, quoted?_escaped hmark]
  rw [tokens, inQuotes, String.toList_ofList, tokensOf_withoutRoot, List.length_cons,
    tokensOf_bracketed hbracketed]
  rfl

/-! ### Where it leads -/

/-- The path of an escaped key leads to the field that has the escaped key for its name. -/
theorem resolve_inQuotes (hmark : mark = '"' ∨ mark = '\'') (key : String) (fields : Fields) :
    resolve (.obj fields) (inQuotes mark key) =
      .ok (fields.get? (String.ofList (escaped mark key.toList))) := by
  have hchars : (inQuotes mark key).toList =
      '$' :: '[' :: mark :: (escaped mark key.toList ++ [mark, ']']) := String.toList_ofList
  have hwhole : ¬ (inQuotes mark key = "" ∨ inQuotes mark key = "$") := by
    rintro (h | h) <;> simp [h] at hchars
  have hroot : (inQuotes mark key).toList.head? = some '$' := by
    rw [hchars, List.head?_cons]
  rw [resolve, if_neg hwhole, if_pos hroot, tokens_inQuotes hmark]
  cases hfield : fields.get? (String.ofList (escaped mark key.toList)) with
  | none => simp [walk, step, hfield, bind, Except.bind]
  | some v => simp [walk, step, hfield, bind, Except.bind]

/-- **Which keys are reached by escaping them.**  The path of an escaped key leads to the field that
has the escaped key for its name, with all its backslashes.  So it leads to the field of the key, in
every object that has one, exactly if there is no backslash in the key and no quote of the kind that
it stands in. -/
theorem resolve_inQuotes_iff (mark : Char) (hmark : mark = '"' ∨ mark = '\'') (key : String) :
    (∀ fields : Fields, resolve (.obj fields) (inQuotes mark key) =
      .ok (fields.get? (String.ofList (escaped mark key.toList)))) ∧
    ((∀ (fields : Fields) (v : Json), fields.get? key = some v →
      resolve (.obj fields) (inQuotes mark key) = .ok (some v)) ↔
        ∀ c ∈ key.toList, c ≠ mark ∧ c ≠ '\\') := by
  refine ⟨resolve_inQuotes hmark key, ?_⟩
  rw [← escaped_eq_self_iff]
  constructor
  · intro h
    -- an object with no other field tells the two names apart
    have hfound := h [(key, .null)] .null (by simp)
    rw [resolve_inQuotes hmark, Fields.get?_cons, Fields.get?_nil] at hfound
    by_cases hsame : key = String.ofList (escaped mark key.toList)
    · rw [← String.toList_ofList (l := escaped mark key.toList), ← hsame]
    · rw [if_neg hsame] at hfound
      simp at hfound
  · intro h fields v hv
    rw [resolve_inQuotes hmark, h, String.ofList_toList, hv]

/-- A key with a quote of the other kind is reached. -/
theorem resolve_inQuotes_iff_apostrophe :
    (('"' = '"' ∨ '"' = '\'') ∧ ∀ c ∈ "it's due".toList, c ≠ '"' ∧ c ≠ '\\') ∧
    resolve (.obj [("it's due", .int 7)]) "$[\"it's due\"]" = .ok (some (.int 7)) := by
  have hplain : ∀ c ∈ "it's due".toList, c ≠ '"' ∧ c ≠ '\\' := by simp
  refine ⟨⟨.inl rfl, hplain⟩, ?_⟩
  exact (resolve_inQuotes_iff '"' (.inl rfl) "it's due").2.mpr hplain _ _ rfl

/-- A key with a quote in it is there, and its escaped form leads nowhere. -/
theorem resolve_inQuotes_lost :
    Fields.get? [("q\"k", .int 7)] "q\"k" = some (.int 7) ∧
    inQuotes '"' "q\"k" = "$[\"q\\\"k\"]" ∧
    resolve (.obj [("q\"k", .int 7)]) (inQuotes '"' "q\"k") = .ok none := by
  refine ⟨rfl, by decide, ?_⟩
  rw [resolve_inQuotes (.inl rfl)]
  rfl

end Flowgraph.Path
