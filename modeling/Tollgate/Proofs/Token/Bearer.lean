import Tollgate.Token.Provider
import Tollgate.Http.Request
import Tollgate.Proofs.Text.Cut
import Tollgate.Proofs.Text.Trim

namespace Tollgate

/-- The first authorization header is the scheme, a space and the token. There may be white space
around the token. -/
def Request.Presents (request : Request) (token : Text) : Prop :=
  ∃ scheme before after : Text, request.header? "authorization" =
      some (scheme ++ CodePoint.ofChar ' ' :: (before ++ token ++ after)) ∧
    scheme.asciiLower = Text.lit "bearer" ∧ before.IsBlank ∧ after.IsBlank

namespace JwtProvider

theorem space_not_mem_scheme {scheme : Text} (bearer : scheme.asciiLower = Text.lit "bearer") :
    CodePoint.ofChar ' ' ∉ scheme := by
  intro member
  have lower := List.mem_map_of_mem (f := CodePoint.asciiLower) member
  change _ ∈ scheme.asciiLower at lower
  rw [bearer] at lower
  revert lower
  decide

theorem resolveToken_eq_some_iff {request : Request} {token : Text} :
    resolveToken request.headers = some token ↔
      request.Presents token ∧ token ≠ [] ∧ token.trim = token := by
  unfold resolveToken Request.Presents Request.header?
  constructor
  · intro found
    simp only [Option.bind_eq_bind, Option.bind_eq_some_iff, Prod.exists] at found
    obtain ⟨value, first, scheme, rest, cut, found⟩ := found
    split at found
    · rename_i good
      cases found
      obtain ⟨before, after, shape, left, right⟩ := Text.exists_padding rest
      refine ⟨⟨scheme, before, after, ?_, good.1, left, right⟩, good.2, Text.trim_trim rest⟩
      rw [first, ← shape, (cutFirst?_eq_some_iff.mp cut).1]
    · cases found
  · rintro ⟨⟨scheme, before, after, first, bearer, left, right⟩, nonempty, trimmed⟩
    have cut : cutFirst? (CodePoint.ofChar ' ')
        (scheme ++ CodePoint.ofChar ' ' :: (before ++ token ++ after)) =
        some (scheme, before ++ token ++ after) := cutFirst?_append (space_not_mem_scheme bearer)
    have inner : Text.trim (before ++ token ++ after) = token :=
      (Text.trim_append_blank left right token).trans trimmed
    simp only [first, cut, Option.bind_eq_bind, Option.bind_some, inner, bearer, ne_eq, nonempty,
      not_false_eq_true, and_self, if_true]

end JwtProvider

end Tollgate
