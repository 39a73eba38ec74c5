import Flowgraph.Edit.Command
import Flowgraph.Proofs.Blanks

/-!
# What commands say

A command is read off a text without blanks around it.  The new name of a node stands at the end of
its sentence, so that something is left of it without the blanks; and the words for kinds of nodes
speak of no triggers.

## Main definitions

* `EditCommand.Sensible` — a new name is not empty, and a new node is no trigger.

## Main results

* `EditCommand.sensible_of_read` — **every command that is read is sensible.**
-/

namespace Flowgraph

/-! ### Sentences -/

namespace EditCommand

variable {cs left : List Char}

theorem dropBlanks?_suffix (h : dropBlanks? cs = some left) : left <:+ cs := by
  unfold dropBlanks? at h
  split at h
  · cases h
  · rename_i c rest
    split at h
    · obtain rfl := Option.some.inj h
      exact (List.dropWhile_suffix _).trans (List.suffix_cons c rest)
    · cases h

theorem lastName?_eq_some {name : List Char} (h : lastName? cs = some name) :
    name = cs ∧ name ≠ [] := by
  unfold lastName? at h
  split at h
  · cases h
  · rename_i hname
    obtain rfl := Option.some.inj h
    exact ⟨rfl, fun hnil => hname (.inl (by rw [hnil]; rfl))⟩

/-- The name behind the word "to" is a last part of the text. -/
theorem toName?_eq_some {name : List Char} (h : toName? cs = some name) :
    name <:+ cs ∧ name ≠ [] := by
  obtain ⟨afterBlanks, hblanks, h⟩ := Option.bind_eq_some_iff.mp h
  obtain ⟨afterTo, hto, h⟩ := Option.bind_eq_some_iff.mp h
  obtain ⟨last, hlast, h⟩ := Option.bind_eq_some_iff.mp h
  obtain ⟨rfl, hne⟩ := lastName?_eq_some h
  exact ⟨(dropBlanks?_suffix hlast).trans ((Text.dropWord?_suffix hto).trans
    (dropBlanks?_suffix hblanks)), hne⟩

theorem namesAroundTo?_eq_some {seen first second : List Char}
    (h : namesAroundTo? seen cs = some (first, second)) : second <:+ cs ∧ second ≠ [] := by
  induction cs generalizing seen with
  | nil => cases h
  | cons c rest ih =>
    rw [namesAroundTo?] at h
    split at h
    · cases h
    · cases hto : toName? rest with
      | some name =>
        obtain ⟨-, rfl⟩ : _ ∧ name = second := by simpa [hto] using h
        obtain ⟨hsuffix, hne⟩ := toName?_eq_some hto
        exact ⟨hsuffix.trans (List.suffix_cons c rest), hne⟩
      | none =>
        obtain ⟨hsuffix, hne⟩ := ih (by simpa [hto] using h)
        exact ⟨hsuffix.trans (List.suffix_cons c rest), hne⟩

theorem exists_of_behindBlanks {α : Type} {reader : List Char → Option α} {a : α}
    (h : behindBlanks? reader cs = some a) : ∃ rest, rest <:+ cs ∧ reader rest = some a := by
  induction cs with
  | nil => cases h
  | cons c cs ih =>
    rw [behindBlanks?] at h
    split at h
    · cases hlater : behindBlanks? reader cs with
      | some b =>
        obtain ⟨rest, hrest, hread⟩ := ih (by simpa [hlater] using h)
        exact ⟨rest, hrest.trans (List.suffix_cons c cs), hread⟩
      | none => exact ⟨cs, List.suffix_cons c cs, by simpa [hlater] using h⟩
    · cases h

/-- The second name of a sentence is not empty, if there are no blanks around the sentence. -/
theorem second_ne_of_twoNames {word first second : String} {text : List Char}
    (h : twoNames? word (Text.strip text) = some (first, second)) : second.isEmpty = false := by
  obtain ⟨rest, hword, h⟩ := Option.bind_eq_some_iff.mp h
  obtain ⟨⟨one, two⟩, hnames, h⟩ := Option.bind_eq_some_iff.mp h
  obtain ⟨behind, hbehind, htwo⟩ := exists_of_behindBlanks hnames
  obtain ⟨hsuffix, hne⟩ := namesAroundTo?_eq_some htwo
  obtain ⟨-, rfl⟩ := Prod.mk.inj (Option.some.inj h)
  have hstrip := Text.strip_ne_nil_of_suffix
    (hsuffix.trans (hbehind.trans (Text.dropWord?_suffix hword))) hne
  simpa [nameOf] using hstrip

/-- The words for kinds of nodes speak of no triggers. -/
theorem not_isTrigger_of_mentioned {type : NodeType} (h : NodeType.mentioned? cs = some type) :
    type.isTrigger = false := by
  have hwords : ∀ line ∈ typeWords, line.2.isTrigger = false := by decide
  obtain ⟨line, hline, rfl⟩ := Option.map_eq_some_iff.mp h
  exact hwords line (List.mem_of_find?_eq_some hline)

/-- A new name is not empty, and a new node is no trigger. -/
def Sensible : EditCommand → Prop
  | rename _ name => name.isEmpty = false
  | add type => type.isTrigger = false
  | _ => True

/-- **Every command that is read is sensible.** -/
theorem sensible_of_read {text : String} {command : EditCommand}
    (h : read text = .ok (.ok command)) : command.Sensible := by
  unfold read at h
  simp only at h
  split at h
  · cases h
  · unfold readSentence at h
    split at h
    · rename_i hnames
      obtain rfl := Except.ok.inj (Except.ok.inj h)
      exact second_ne_of_twoNames hnames
    · obtain rfl := Except.ok.inj (Except.ok.inj h)
      trivial
    · obtain rfl := Except.ok.inj (Except.ok.inj h)
      trivial
    · rename_i digits _ _ _ _
      cases hdigits : Text.readNatural digits with
      | error e => rw [hdigits] at h; cases h
      | ok n =>
        rw [hdigits] at h
        obtain rfl := Except.ok.inj (Except.ok.inj h)
        trivial
    · split at h
      · split at h
        · rename_i type hmentioned
          obtain rfl := Except.ok.inj (Except.ok.inj h)
          exact not_isTrigger_of_mentioned hmentioned
        · cases h
      · cases h

end EditCommand
end Flowgraph
