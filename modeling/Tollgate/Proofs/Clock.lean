import Mathlib.Data.Rat.Floor
import Tollgate.Clock
import Tollgate.Proofs.Number.Difference

namespace Tollgate

open Binary64

namespace Seconds

def seconds? : Seconds → Option ℚ
  | whole n => some n
  | binary (.finite negative mantissa exponent) => some (signed negative (mantissa * 2 ^ exponent))
  | binary _ => none

/-- The order of times: the infinite ones are its ends, and what is no number has no place. -/
inductive Precedes : Seconds → Seconds → Prop where
  | finite {now later : Seconds} {q r : ℚ} : now.seconds? = some q → later.seconds? = some r →
      q ≤ r → Precedes now later
  | earliest {later : Seconds} : later ≠ binary .nan → Precedes (binary (.infinite true)) later
  | latest {now : Seconds} : now ≠ binary .nan → Precedes now (binary (.infinite false))

instance : LE Seconds := ⟨Precedes⟩

/-- A timestamp lies no further back than the tolerance. From 64-bit seconds the bound is the
difference that is computed. -/
def Allows (now : Seconds) (tolerance timestamp : Int) : Prop :=
  match now with
  | whole n => n - tolerance ≤ timestamp
  | binary x => (x.sub (ofInt tolerance)).isAbove timestamp = false

/-- The tolerance can be taken from the clock: a 64-bit clock needs one that has a place among the
64-bit numbers. -/
def Measures (now : Seconds) (tolerance : Int) : Prop :=
  match now with
  | whole _ => True
  | binary _ => ∀ negative, ofInt tolerance ≠ .infinite negative

theorem isBefore?_eq_some_iff {now : Seconds} {tolerance timestamp : Int} {before : Bool} :
    now.isBefore? tolerance timestamp = some before ↔
      now.Measures tolerance ∧ (before = false ↔ now.Allows tolerance timestamp) := by
  cases now with
  | whole n =>
    have order : timestamp < n - tolerance ↔ ¬ n - tolerance ≤ timestamp := Int.not_le.symm
    cases before <;> simp [isBefore?, Measures, Allows, order]
  | binary x =>
    unfold isBefore? Measures Allows
    cases held : ofInt tolerance <;> cases before <;> simp

theorem signed_nonneg (m : Nat) (e : Int) : (0 : ℚ) ≤ m * 2 ^ e := by positivity

end Seconds

namespace Date

variable {date : Date} {microseconds : Int}

def seconds (date : Date) : ℚ := date.microseconds / Clock.ticks

theorem second_eq_floor (date : Date) : date.second = ⌊date.seconds⌋ := by
  unfold second seconds
  rw [Int.fdiv_eq_ediv_of_nonneg _ (Int.natCast_nonneg _)]
  exact (Rat.floor_intCast_div_natCast date.microseconds Clock.ticks).symm

theorem isDate_second (date : Date) : Clock.isDate date.second = true := date.inYears

theorem isTimestamp_of_isDate {n : Int} (date : Clock.isDate n = true) :
    Clock.isTimestamp n = true := by
  simp only [Clock.isDate, Clock.isTimestamp, Bool.and_eq_true, decide_eq_true_eq] at date ⊢
  omega

theorem ofMicroseconds_of_isDate
    (inYears : Clock.isDate (microseconds.fdiv Clock.ticks) = true) :
    ofMicroseconds microseconds = .ok ⟨microseconds, inYears⟩ := by
  simp [ofMicroseconds, isTimestamp_of_isDate inYears, inYears]

theorem second_mono {date later : Date} (less : date.microseconds ≤ later.microseconds) :
    date.second ≤ later.second := by
  unfold second
  rw [Int.fdiv_eq_ediv_of_nonneg _ (Int.natCast_nonneg _),
    Int.fdiv_eq_ediv_of_nonneg _ (Int.natCast_nonneg _)]
  exact Int.ediv_le_ediv (by decide) less

end Date

namespace Clock

/-- Both clocks show a date, and the first one's is no later. -/
def Precedes (now later : Clock) : Prop :=
  ∃ first last, now.date = .ok first ∧ later.date = .ok last ∧
    first.microseconds ≤ last.microseconds

instance : LE Clock := ⟨Precedes⟩

section

variable {now between later : Clock} {a b : Int}

theorem second_eq_ok_iff : now.second = .ok a ↔ ∃ date, now.date = .ok date ∧ date.second = a := by
  unfold second
  cases now.date with
  | error crash => simp [Except.map]
  | ok date => simp [Except.map]

theorem isDate_of_second (shown : now.second = .ok a) : isDate a = true := by
  obtain ⟨date, -, rfl⟩ := second_eq_ok_iff.mp shown
  exact date.isDate_second

theorem second_between (first : now.second = .ok a) (last : later.second = .ok b)
    (left : now ≤ between) (right : between ≤ later) :
    ∃ c, between.second = .ok c ∧ a ≤ c ∧ c ≤ b := by
  obtain ⟨start, middle, shownStart, shownMiddle, less⟩ := left
  obtain ⟨again, stop, shownAgain, shownStop, more⟩ := right
  cases shownMiddle.symm.trans shownAgain
  obtain ⟨date, shown, rfl⟩ := second_eq_ok_iff.mp first
  cases shown.symm.trans shownStart
  obtain ⟨date, shown, rfl⟩ := second_eq_ok_iff.mp last
  cases shown.symm.trans shownStop
  exact ⟨middle.second, second_eq_ok_iff.mpr ⟨middle, shownMiddle, rfl⟩, Date.second_mono less,
    Date.second_mono more⟩

theorem second_ofNanoseconds {n : Int} (counted : isTimestamp n = true) :
    (ofNanoseconds n).second = .ok (n.fdiv 1000000000) := by
  have same : (n.fdiv 1000).fdiv ticks = n.fdiv 1000000000 := by
    rw [Int.fdiv_eq_ediv_of_nonneg _ (by decide), Int.fdiv_eq_ediv_of_nonneg _ (by decide),
      Int.fdiv_eq_ediv_of_nonneg _ (by decide), Int.ediv_ediv_of_nonneg (by decide)]
    rfl
  have inYears : isDate ((n.fdiv 1000).fdiv ticks) = true := by
    rw [same, Int.fdiv_eq_ediv_of_nonneg _ (by decide)]
    simp only [isTimestamp, isDate, Bool.and_eq_true, decide_eq_true_eq] at counted ⊢
    omega
  apply second_eq_ok_iff.mpr
  exact ⟨_, Date.ofMicroseconds_of_isDate inYears, same⟩

theorem second_ofNanoseconds_eq_floor {n : Int} (counted : isTimestamp n = true) :
    (ofNanoseconds n).second = .ok ⌊(n / 10 ^ 9 : ℚ)⌋ := by
  rw [second_ofNanoseconds counted, Int.fdiv_eq_ediv_of_nonneg _ (by decide)]
  exact congrArg Except.ok (by exact_mod_cast (Rat.floor_intCast_div_natCast n (10 ^ 9)).symm)

end

end Clock

end Tollgate
