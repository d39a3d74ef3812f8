import Mathlib.Data.List.TakeWhile
import Tollgate.Text.Blank

namespace Tollgate

def Text.IsBlank (s : Text) : Prop := ∀ c ∈ s, c.isBlank = true

instance (s : Text) : Decidable s.IsBlank :=
  decidable_of_iff (s.all CodePoint.isBlank = true) List.all_eq_true

structure Text.IsTrimmed (s : Text) : Prop where
  starts : ∀ c ∈ s.head?, c.isBlank = false
  ends : ∀ c ∈ s.getLast?, c.isBlank = false

/-- What is left of a text when the white space at both ends is taken away. -/
def Text.StripsTo (s inner : Text) : Prop :=
  ∃ before after : Text, s = before ++ inner ++ after ∧ before.IsBlank ∧ after.IsBlank ∧
    inner.IsTrimmed

namespace Text

theorem trim_append_blank {before after : Text} (left : before.IsBlank) (right : after.IsBlank)
    (s : Text) : trim (before ++ s ++ after) = trim s := by
  have ends (t : Text) : trimEndBy CodePoint.isBlank (t ++ after) =
      trimEndBy CodePoint.isBlank t := by
    unfold trimEndBy
    have blank : ∀ c ∈ after.reverse, c.isBlank = true :=
      fun c member => right c (List.mem_reverse.mp member)
    rw [List.reverse_append, List.dropWhile_append_of_pos blank]
  unfold trim trimBy
  rw [List.append_assoc, List.dropWhile_append_of_pos left, List.dropWhile_append]
  split
  · rename_i none
    have all : after.dropWhile CodePoint.isBlank = [] := List.dropWhile_eq_nil_iff.mpr right
    rw [all, List.isEmpty_iff.mp none]
  · exact ends _

theorem trimBy_eq_self {drop : CodePoint → Bool} {s : Text} (solid : ∀ c ∈ s, drop c = false) :
    trimBy drop s = s := by
  have whole {t : Text} (solid : ∀ c ∈ t, drop c = false) : t.dropWhile drop = t := by
    cases t with
    | nil => rfl
    | cons c t => simp [solid c (List.mem_cons_self ..)]
  unfold trimBy trimEndBy
  rw [whole solid, whole fun c member => solid c (List.mem_reverse.mp member), List.reverse_reverse]

theorem trim_eq_self {s : Text} (solid : ∀ c ∈ s, c.isBlank = false) : trim s = s :=
  trimBy_eq_self solid

theorem exists_padding (s : Text) :
    ∃ before after : Text, s = before ++ trim s ++ after ∧ before.IsBlank ∧ after.IsBlank := by
  let rest := s.dropWhile CodePoint.isBlank
  refine ⟨s.takeWhile CodePoint.isBlank, (rest.reverse.takeWhile CodePoint.isBlank).reverse, ?_,
    fun c member => List.mem_takeWhile_imp member,
    fun c member => List.mem_takeWhile_imp (List.mem_reverse.mp member)⟩
  have split : trim s ++ (rest.reverse.takeWhile CodePoint.isBlank).reverse = rest := by
    unfold trim trimBy trimEndBy
    rw [← List.reverse_append, List.takeWhile_append_dropWhile, List.reverse_reverse]
  rw [List.append_assoc, split]
  exact List.takeWhile_append_dropWhile.symm

theorem trim_trim (s : Text) : trim (trim s) = trim s := by
  obtain ⟨before, after, shape, left, right⟩ := exists_padding s
  have same := trim_append_blank left right (trim s)
  rw [← shape] at same
  exact same.symm

theorem trim_eq_nil_iff {s : Text} : trim s = [] ↔ s.IsBlank := by
  constructor
  · intro none
    obtain ⟨before, after, shape, left, right⟩ := exists_padding s
    rw [none, List.append_nil] at shape
    subst shape
    exact fun c member => (List.mem_append.mp member).elim (left c) (right c)
  · intro blank
    unfold trim trimBy trimEndBy
    rw [List.dropWhile_eq_nil_iff.mpr blank]
    rfl

theorem isTrimmed_trim (s : Text) : (trim s).IsTrimmed := by
  let rest := s.dropWhile CodePoint.isBlank
  let back := rest.reverse.dropWhile CodePoint.isBlank
  have shape : trim s = back.reverse := rfl
  have solid (t : Text) : ∀ c ∈ (t.dropWhile CodePoint.isBlank).head?, c.isBlank = false := by
    intro c first
    have stops := List.head?_dropWhile_not CodePoint.isBlank t
    rw [Option.mem_def.mp first] at stops
    exact stops
  constructor
  · intro c first
    -- what is cut off at the end stands behind the first code point
    have start : back.reverse ++ (rest.reverse.takeWhile CodePoint.isBlank).reverse = rest := by
      rw [← List.reverse_append, List.takeWhile_append_dropWhile, List.reverse_reverse]
    apply solid s c
    show c ∈ rest.head?
    rw [shape, Option.mem_def] at first
    rw [← start, List.head?_append, first]
    exact rfl
  · intro c last
    rw [shape, List.getLast?_reverse] at last
    exact solid rest.reverse c last

theorem trim_eq_self_iff {s : Text} : trim s = s ↔ s.IsTrimmed := by
  constructor
  · intro same
    rw [← same]
    exact isTrimmed_trim s
  · intro ⟨starts, ends⟩
    have whole {t : Text} (starts : ∀ c ∈ t.head?, c.isBlank = false) :
        t.dropWhile CodePoint.isBlank = t := by
      cases t with
      | nil => rfl
      | cons c t => simp [starts c rfl]
    rw [← List.head?_reverse] at ends
    unfold trim trimBy trimEndBy
    rw [whole starts, whole ends, List.reverse_reverse]

instance (s : Text) : Decidable s.IsTrimmed := decidable_of_iff _ trim_eq_self_iff

theorem trim_eq_iff {s inner : Text} : trim s = inner ↔ s.StripsTo inner := by
  constructor
  · intro same
    subst same
    obtain ⟨before, after, shape, left, right⟩ := exists_padding s
    exact ⟨before, after, shape, left, right, isTrimmed_trim s⟩
  · intro ⟨before, after, shape, left, right, trimmed⟩
    rw [shape, trim_append_blank left right]
    exact trim_eq_self_iff.mpr trimmed

end Text

end Tollgate
