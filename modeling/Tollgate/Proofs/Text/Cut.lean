import Tollgate.Text.Basic

namespace Tollgate

variable {α : Type} [BEq α] [LawfulBEq α] {a : α} {s left right : List α}

theorem cutFirst?_append (fresh : a ∉ left) :
    cutFirst? a (left ++ a :: right) = some (left, right) := by
  induction left with
  | nil => simp [cutFirst?]
  | cons b left ih =>
    simp only [List.mem_cons, not_or] at fresh
    have other : (b == a) = false := by simpa using Ne.symm fresh.1
    simp only [List.cons_append, cutFirst?, other, Bool.false_eq_true, if_false, ih fresh.2,
      Option.map_some]

theorem cutFirst?_eq_some_iff :
    cutFirst? a s = some (left, right) ↔ s = left ++ a :: right ∧ a ∉ left := by
  constructor
  · intro cut
    induction s generalizing left with
    | nil => cases cut
    | cons b s ih =>
      simp only [cutFirst?] at cut
      split at cut
      · rename_i same
        cases cut
        simpa using same
      · rename_i other
        obtain ⟨⟨l, r⟩, rest, pair⟩ := Option.map_eq_some_iff.mp cut
        cases pair
        obtain ⟨shape, fresh⟩ := ih rest
        refine ⟨by rw [shape]; rfl, ?_⟩
        rintro (_ | ⟨_, member⟩)
        · exact other (by simp)
        · exact fresh member
  · rintro ⟨rfl, fresh⟩
    exact cutFirst?_append fresh

theorem cutLast?_eq_none_iff : cutLast? a s = none ↔ a ∉ s := by
  induction s with
  | nil => simp [cutLast?]
  | cons b s ih =>
    simp only [cutLast?, List.mem_cons, not_or]
    cases rest : cutLast? a s with
    | some cut =>
      have member : a ∈ s := by simpa [rest] using ih
      simp [member]
    | none =>
      have fresh := ih.mp rest
      by_cases same : b = a
      · simp [same]
      · simp [same, Ne.symm same, fresh]

theorem cutLast?_append (fresh : a ∉ right) :
    cutLast? a (left ++ a :: right) = some (left, right) := by
  induction left with
  | nil => simp [cutLast?, cutLast?_eq_none_iff.mpr fresh]
  | cons b left ih => simp only [List.cons_append, cutLast?, ih]

theorem cutLast?_eq_some_iff :
    cutLast? a s = some (left, right) ↔ s = left ++ a :: right ∧ a ∉ right := by
  constructor
  · intro cut
    induction s generalizing left with
    | nil => cases cut
    | cons b s ih =>
      simp only [cutLast?] at cut
      cases rest : cutLast? a s with
      | some pair =>
        simp only [rest] at cut
        cases cut
        obtain ⟨shape, fresh⟩ := ih rest
        exact ⟨by rw [shape]; rfl, fresh⟩
      | none =>
        simp only [rest] at cut
        split at cut
        · rename_i same
          cases cut
          exact ⟨by simpa using same, cutLast?_eq_none_iff.mp rest⟩
        · cases cut
  · rintro ⟨rfl, fresh⟩
    exact cutLast?_append fresh

end Tollgate
