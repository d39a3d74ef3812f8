import Tollgate.Http.BodyLimit
import Tollgate.Http.Cors
import Tollgate.Proofs.Trace

namespace Tollgate

open Traced

def Request.IsPreflight (request : Request) (origin method : Text) : Prop :=
  request.method = Text.lit "OPTIONS" ∧ request.header? "origin" = some origin ∧
    request.header? "access-control-request-method" = some method

/-- The first length that is declared is a row of digits, and stands for this number. -/
def Request.Declares (request : Request) (length : Int) : Prop :=
  ∃ value, request.header? "content-length" = some value ∧ value ≠ [] ∧
    (∀ c ∈ value, BodyLimit.isDigit c) ∧ Integer.parse? value = some length

namespace Cors

theorem preflight?_eq_some_iff {request : Request} {origin method : Text} :
    preflight? request = some (origin, method) ↔ request.IsPreflight origin method := by
  unfold preflight? Request.IsPreflight
  by_cases options : request.method = Text.lit "OPTIONS"
  · simp [options, Option.bind_eq_some_iff]
  · simp [options]

theorem preflight?_eq_none {request : Request}
    (noPreflight : ∀ origin method, ¬ request.IsPreflight origin method) :
    preflight? request = none := by
  cases asked : preflight? request with
  | none => rfl
  | some pair => exact absurd (preflight?_eq_some_iff.mp asked) (noPreflight _ _)

theorem layer_of_preflight {origins : List Text} {request : Request} {origin method : Text}
    (asked : request.IsPreflight origin method) (next : Handler) :
    layer origins next request = pure (preflight origins request.headers origin method) := by
  unfold layer
  rw [preflight?_eq_some_iff.mpr asked]

theorem layer_of_other {origins : List Text} {request : Request}
    (noPreflight : ∀ origin method, ¬ request.IsPreflight origin method) (next : Handler) :
    layer origins next request =
      ⟨(next request).events,
        (next request).outcome.map (·.withHeaders (simpleHeaders origins request.headers))⟩ := by
  unfold layer
  rw [preflight?_eq_none noPreflight]
  exact bind_pure_eq (next request) _

end Cors

namespace BodyLimit

theorem declared_of_declares {request : Request} {length : Int}
    (declares : request.Declares length) : declared request.headers = .ok (some length) := by
  obtain ⟨value, here, nonempty, digits, number⟩ := declares
  have row : (!value.isEmpty && value.all isDigit) = true := by simpa [nonempty] using digits
  unfold Request.header? at here
  simp only [declared, here, row, number, if_true]

theorem declares_of_declared {request : Request} {length : Int}
    (found : declared request.headers = .ok (some length)) : request.Declares length := by
  unfold declared at found
  split at found
  · cases found
  · rename_i value here
    split at found
    · rename_i row
      split at found
      · rename_i number
        cases found
        have digits : value ≠ [] ∧ ∀ c ∈ value, isDigit c := by simpa using row
        exact ⟨value, here, digits.1, digits.2, number⟩
      · cases found
    · cases found

theorem exists_declared {request : Request}
    (readable : ∀ value, request.header? "content-length" = some value → value ≠ [] →
      (∀ c ∈ value, isDigit c) → ∃ length, Integer.parse? value = some length) :
    ∃ length, declared request.headers = .ok length := by
  unfold Request.header? at readable
  unfold declared
  split
  · exact ⟨none, rfl⟩
  · rename_i value here
    split
    · rename_i row
      have digits : value ≠ [] ∧ ∀ c ∈ value, isDigit c := by simpa using row
      obtain ⟨length, number⟩ := readable value here digits.1 digits.2
      rw [number]
      exact ⟨some length, rfl⟩
    · exact ⟨none, rfl⟩

theorem layer_of_large {maxBytes length : Int} {request : Request}
    (declares : request.Declares length) (large : maxBytes < length) (next : Handler) :
    layer maxBytes next request = pure ApiCode.payloadTooLarge.response := by
  have found := declared_of_declares declares
  unfold layer
  rw [found]
  simp only [ofCrash_eq, mapError_ok, ok_bind, gt_iff_lt, large, if_true]
  rfl

theorem layer_of_small {maxBytes : Int} {request : Request} {length : Option Int}
    (found : declared request.headers = .ok length)
    (small : ∀ length, request.Declares length → length ≤ maxBytes) (next : Handler) :
    layer maxBytes next request = next request := by
  unfold layer
  rw [found]
  cases length with
  | none => rfl
  | some length =>
    have notLarge : ¬ maxBytes < length :=
      Int.not_lt.mpr (small length (declares_of_declared found))
    simp [notLarge]

end BodyLimit

end Tollgate
