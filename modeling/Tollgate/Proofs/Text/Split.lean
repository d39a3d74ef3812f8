import Tollgate.Text.Basic

namespace Tollgate.Text

variable {separator : CodePoint} {left right s item : Text} {items : List Text}

theorem splitOn_of_not_mem (fresh : separator ∉ left) : splitOn separator left = [left] := by
  induction left with
  | nil => rfl
  | cons c left ih =>
    simp only [List.mem_cons, not_or] at fresh
    simp only [splitOn, Ne.symm fresh.1, if_false, ih fresh.2]

theorem splitOn_append (fresh : separator ∉ left) :
    splitOn separator (left ++ separator :: right) = left :: splitOn separator right := by
  induction left with
  | nil => simp [splitOn]
  | cons c left ih =>
    simp only [List.mem_cons, not_or] at fresh
    simp only [List.cons_append, splitOn, Ne.symm fresh.1, if_false, ih fresh.2]

theorem splitOn_ne_nil (separator : CodePoint) (s : Text) : splitOn separator s ≠ [] := by
  cases s with
  | nil => exact List.cons_ne_nil _ _
  | cons c s =>
    unfold splitOn
    split
    · exact List.cons_ne_nil _ _
    · split
      · exact List.cons_ne_nil _ _
      · exact List.cons_ne_nil _ _

theorem not_mem_of_mem_splitOn (member : item ∈ splitOn separator s) : separator ∉ item := by
  induction s generalizing item with
  | nil =>
    rw [List.mem_singleton.mp member]
    exact List.not_mem_nil
  | cons c s ih =>
    unfold splitOn at member
    split at member
    · rcases List.mem_cons.mp member with rfl | member
      · exact List.not_mem_nil
      · exact ih member
    · rename_i other
      cases items : splitOn separator s with
      | nil => exact absurd items (splitOn_ne_nil separator s)
      | cons first rest =>
        rw [items] at member ih
        rcases List.mem_cons.mp member with rfl | member
        · have fresh : separator ∉ first := ih (List.mem_cons_self ..)
          simpa [Ne.symm other] using fresh
        · exact ih (List.mem_cons_of_mem _ member)

theorem join_cons (nonempty : items ≠ []) (separator item : Text) :
    join separator (item :: items) = item ++ separator ++ join separator items := by
  cases items with
  | nil => exact absurd rfl nonempty
  | cons next items => rfl

theorem splitOn_join (nonempty : items ≠ []) (fresh : ∀ item ∈ items, separator ∉ item) :
    splitOn separator (join [separator] items) = items := by
  induction items with
  | nil => exact absurd rfl nonempty
  | cons item items ih =>
    obtain ⟨first, others⟩ := List.forall_mem_cons.mp fresh
    by_cases last : items = []
    · subst last
      exact splitOn_of_not_mem first
    · rw [join_cons last, List.append_assoc]
      exact (splitOn_append first).trans (congrArg _ (ih last others))

theorem join_splitOn (separator : CodePoint) (s : Text) :
    join [separator] (splitOn separator s) = s := by
  induction s with
  | nil => rfl
  | cons c s ih =>
    unfold splitOn
    split
    · rename_i same
      rw [join_cons (splitOn_ne_nil separator s), ih, same]
      rfl
    · cases items : splitOn separator s with
      | nil => exact absurd items (splitOn_ne_nil separator s)
      | cons first rest =>
        rw [items] at ih
        rw [← ih]
        by_cases last : rest = []
        · subst last
          rfl
        · change join [separator] ((c :: first) :: rest) = c :: join [separator] (first :: rest)
          rw [join_cons last, join_cons last]
          rfl

end Tollgate.Text
