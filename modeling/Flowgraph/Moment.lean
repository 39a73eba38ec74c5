/-!
# Moments

A moment is a point of time on the calendar, in microseconds and without a zone. It is held as a
month, counted from the beginning of the year zero, and the time that has passed since that month
began, so that months can be told apart without any arithmetic.

## Main definitions

* `Moment`: a point of time; `≤` is its order.
* `Moment.monthStart`: the beginning of its month.
* `Moment.addSecond`: one second later.
* `Moment.write`: the text of a moment, such as `2026-01-15T12:00:00`.
-/

namespace Flowgraph

/-- A point of time. -/
structure Moment where
  /-- The months from the beginning of the year zero. -/
  month : Nat
  /-- The microseconds from the beginning of the month. -/
  micros : Nat
deriving DecidableEq, Repr, Inhabited

namespace Moment

/-- Microseconds of a second. -/
def second : Nat := 1000000

/-- Microseconds of a day. -/
def day : Nat := 86400 * second

instance : LE Moment where
  le a b := a.month < b.month ∨ (a.month = b.month ∧ a.micros ≤ b.micros)

instance (a b : Moment) : Decidable (a ≤ b) :=
  inferInstanceAs (Decidable (a.month < b.month ∨ (a.month = b.month ∧ a.micros ≤ b.micros)))

theorem le_def (a b : Moment) :
    a ≤ b ↔ a.month < b.month ∨ (a.month = b.month ∧ a.micros ≤ b.micros) := Iff.rfl

protected theorem le_refl (a : Moment) : a ≤ a := Or.inr ⟨rfl, Nat.le_refl _⟩

protected theorem le_trans {a b c : Moment} (h₁ : a ≤ b) (h₂ : b ≤ c) : a ≤ c := by
  rw [le_def] at *
  omega

protected theorem le_total (a b : Moment) : a ≤ b ∨ b ≤ a := by
  rw [le_def, le_def]
  omega

/-- The beginning of the month. -/
def monthStart (m : Moment) : Moment :=
  ⟨m.month, 0⟩

theorem monthStart_le (m : Moment) : m.monthStart ≤ m := Or.inr ⟨rfl, Nat.zero_le _⟩

/-! ### The calendar -/

/-- Whether a year has a leap day. -/
def isLeap (year : Nat) : Bool :=
  year % 4 == 0 && (year % 100 != 0 || year % 400 == 0)

/-- The days of a month, counted from zero within its year. -/
def daysInMonth (year month : Nat) : Nat :=
  match month with
  | 1 => if isLeap year then 29 else 28
  | 3 => 30
  | 5 => 30
  | 8 => 30
  | 10 => 30
  | _ => 31

/-- The microseconds of the month. -/
def monthLength (m : Moment) : Nat :=
  daysInMonth (m.month / 12) (m.month % 12) * day

/-- One second later. -/
def addSecond (m : Moment) : Moment :=
  let later := m.micros + second
  if later < m.monthLength then ⟨m.month, later⟩ else ⟨m.month + 1, later - m.monthLength⟩

/-! ### Texts -/

/-- A number with zeros in front of it up to a width. -/
def padded (width n : Nat) : String :=
  let digits := toString n
  String.ofList (List.replicate (width - digits.length) '0') ++ digits

/-- The text of a moment; microseconds are written only where there are any. -/
def write (m : Moment) : String :=
  let seconds := m.micros / second
  let fraction := m.micros % second
  padded 4 (m.month / 12) ++ "-" ++ padded 2 (m.month % 12 + 1) ++ "-"
    ++ padded 2 (m.micros / day + 1) ++ "T" ++ padded 2 (seconds / 3600 % 24) ++ ":"
    ++ padded 2 (seconds / 60 % 60) ++ ":" ++ padded 2 (seconds % 60)
    ++ (if fraction = 0 then "" else "." ++ padded 6 fraction)

/-- The text of a moment in universal time. -/
def writeUniversal (m : Moment) : String :=
  m.write ++ "+00:00"

end Moment
end Flowgraph
