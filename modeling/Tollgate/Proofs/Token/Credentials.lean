import Tollgate.Proofs.Token.Bearer

namespace Tollgate

/-- The first header of this name has this value. -/
def Headers.First (headers : Headers) (name : String) (value : Text) : Prop :=
  ∃ earlier later : Headers, headers = earlier ++ (Text.lit name, value) :: later ∧
    ∀ header ∈ earlier, header.1 ≠ Text.lit name

/-- The first authorization header has a first space, with the scheme before it and, apart from
white space, this token behind it. -/
structure Headers.BearsToken (headers : Headers) (token : Text) : Prop where
  written : ∃ scheme rest : Text,
    headers.First "authorization" (scheme ++ CodePoint.ofChar ' ' :: rest) ∧
      CodePoint.ofChar ' ' ∉ scheme ∧ scheme.asciiLower = Text.lit "bearer" ∧ rest.StripsTo token
  nonempty : token ≠ []

/-- One change to an authorization header: to the case of its scheme, to the white space around the
token, or to the headers behind it. -/
inductive Headers.Respells : (before after : Headers) → Prop where
  | scheme (earlier later : Headers) (scheme other rest : Text)
      (whole : CodePoint.ofChar ' ' ∉ scheme) (same : scheme.asciiLower = other.asciiLower) :
      Respells
        (earlier ++ (Text.lit "authorization", scheme ++ CodePoint.ofChar ' ' :: rest) :: later)
        (earlier ++ (Text.lit "authorization", other ++ CodePoint.ofChar ' ' :: rest) :: later)
  | padding (earlier later : Headers) (scheme left rest right : Text)
      (whole : CodePoint.ofChar ' ' ∉ scheme) (blank : left.IsBlank) (alsoBlank : right.IsBlank) :
      Respells
        (earlier ++ (Text.lit "authorization", scheme ++ CodePoint.ofChar ' ' :: rest) :: later)
        (earlier ++ (Text.lit "authorization",
          scheme ++ CodePoint.ofChar ' ' :: (left ++ rest ++ right)) :: later)
  | later (earlier later others : Headers) (value : Text) :
      Respells (earlier ++ (Text.lit "authorization", value) :: later)
        (earlier ++ (Text.lit "authorization", value) :: others)

section

variable {headers other : Headers} {name : String} {value token scheme rest : Text}

theorem Headers.get?_eq_some_iff : headers.get? name = some value ↔ headers.First name value := by
  have differs (header : Text × Text) :
      (Text.lit name != header.1) = true ↔ header.1 ≠ Text.lit name := by
    rw [bne_iff_ne, ne_comm]
  unfold get? First
  simp only [List.lookup_eq_some_iff, differs]

theorem Headers.get?_append_cons (earlier later : Headers) (name : String) (value : Text) :
    get? (earlier ++ (Text.lit name, value) :: later) name =
      some ((earlier.get? name).getD value) := by
  unfold get?
  rw [List.lookup_append, List.lookup_cons_self]
  cases earlier.lookup (Text.lit name) with
  | none => rfl
  | some first => rfl

theorem CodePoint.asciiLower_eq_space_iff {c : CodePoint} : c.asciiLower = ' ' ↔ c = ' ' := by
  have space : (CodePoint.ofChar ' ').val = 0x20 := rfl
  unfold asciiLower
  split
  · simp only [Fin.ext_iff, space]
    omega
  · rfl

theorem Text.space_mem_asciiLower_iff {s : Text} :
    CodePoint.ofChar ' ' ∈ s.asciiLower ↔ CodePoint.ofChar ' ' ∈ s := by
  simp [asciiLower, CodePoint.asciiLower_eq_space_iff]

namespace JwtProvider

def tokenIn (value : Text) : Option Text := do
  let (scheme, token) ← cutFirst? (CodePoint.ofChar ' ') value
  let token := Text.trim token
  if Text.asciiLower scheme = Text.lit "bearer" ∧ token ≠ [] then some token else none

theorem resolveToken_eq (headers : Headers) :
    resolveToken headers = (headers.get? "authorization").bind tokenIn :=
  rfl

theorem tokenIn_append (whole : CodePoint.ofChar ' ' ∉ scheme) (rest : Text) :
    tokenIn (scheme ++ CodePoint.ofChar ' ' :: rest) =
      if scheme.asciiLower = Text.lit "bearer" ∧ rest.trim ≠ [] then some rest.trim else none := by
  unfold tokenIn
  rw [cutFirst?_append whole]
  rfl

theorem tokenIn_eq_some_iff : tokenIn value = some token ↔
    (∃ scheme rest : Text, value = scheme ++ CodePoint.ofChar ' ' :: rest ∧
      CodePoint.ofChar ' ' ∉ scheme ∧ scheme.asciiLower = Text.lit "bearer" ∧
      rest.StripsTo token) ∧ token ≠ [] := by
  constructor
  · intro found
    cases cut : cutFirst? (CodePoint.ofChar ' ') value with
    | none => simp [tokenIn, cut] at found
    | some parts =>
      obtain ⟨scheme, rest⟩ := parts
      obtain ⟨shape, whole⟩ := cutFirst?_eq_some_iff.mp cut
      rw [shape, tokenIn_append whole] at found
      split at found
      · rename_i good
        cases found
        exact ⟨⟨scheme, rest, shape, whole, good.1, Text.trim_eq_iff.mp rfl⟩, good.2⟩
      · cases found
  · intro ⟨⟨scheme, rest, shape, whole, bearer, strips⟩, nonempty⟩
    rw [shape, tokenIn_append whole, Text.trim_eq_iff.mpr strips]
    exact if_pos ⟨bearer, nonempty⟩

theorem resolveToken_eq_some_iff_bearsToken :
    resolveToken headers = some token ↔ headers.BearsToken token := by
  rw [resolveToken_eq, Option.bind_eq_some_iff]
  constructor
  · intro ⟨value, first, found⟩
    obtain ⟨⟨scheme, rest, shape, grammar⟩, nonempty⟩ := tokenIn_eq_some_iff.mp found
    subst shape
    exact ⟨⟨scheme, rest, Headers.get?_eq_some_iff.mp first, grammar⟩, nonempty⟩
  · intro ⟨⟨scheme, rest, first, grammar⟩, nonempty⟩
    exact ⟨_, Headers.get?_eq_some_iff.mpr first,
      tokenIn_eq_some_iff.mpr ⟨⟨scheme, rest, rfl, grammar⟩, nonempty⟩⟩

theorem resolveToken_congr {earlier later others : Headers} {value changed : Text}
    (same : tokenIn value = tokenIn changed) :
    resolveToken (earlier ++ (Text.lit "authorization", value) :: later) =
      resolveToken (earlier ++ (Text.lit "authorization", changed) :: others) := by
  rw [resolveToken_eq, resolveToken_eq, Headers.get?_append_cons, Headers.get?_append_cons]
  cases earlier.get? "authorization" with
  | none => exact same
  | some first => rfl

theorem resolveToken_of_respells (respells : headers.Respells other) :
    resolveToken headers = resolveToken other := by
  cases respells with
  | scheme earlier later scheme other rest whole same =>
    have alsoWhole : CodePoint.ofChar ' ' ∉ other := by
      rwa [← Text.space_mem_asciiLower_iff, ← same, Text.space_mem_asciiLower_iff]
    apply resolveToken_congr
    rw [tokenIn_append whole, tokenIn_append alsoWhole, same]
  | padding earlier later scheme left rest right whole blank alsoBlank =>
    apply resolveToken_congr
    rw [tokenIn_append whole, tokenIn_append whole, Text.trim_append_blank blank alsoBlank]
  | later earlier later others value => exact resolveToken_congr rfl

/-- A token is found exactly if the first authorization header bears it. It is not empty and has no
white space around it, and changes to the case of the scheme, to the white space around the token
and to later headers leave it as it is. -/
theorem bearer_grammar (headers : Headers) :
    (∀ token, resolveToken headers = some token ↔ headers.BearsToken token) ∧
      (resolveToken headers = none ↔ ∀ token, ¬ headers.BearsToken token) ∧
      (∀ token, resolveToken headers = some token → token ≠ [] ∧ token.IsTrimmed) ∧
      ∀ other, headers.Respells other → resolveToken other = resolveToken headers := by
  have grammar (token : Text) : resolveToken headers = some token ↔ headers.BearsToken token :=
    resolveToken_eq_some_iff_bearsToken
  refine ⟨grammar, ?_, ?_, ?_⟩
  · rw [Option.eq_none_iff_forall_ne_some]
    simp only [ne_eq, grammar]
  · intro token found
    obtain ⟨⟨scheme, rest, first, whole, bearer, before, after, shape, left, right, trimmed⟩,
      nonempty⟩ := (grammar token).mp found
    exact ⟨nonempty, trimmed⟩
  · intro other respells
    exact (resolveToken_of_respells respells).symm

def paddedCredentials (left right : String) : Headers :=
  [(Text.lit "accept", Text.lit "*/*"),
    (Text.lit "authorization",
      Text.lit "bEARER" ++
        CodePoint.ofChar ' ' :: (Text.lit left ++ Text.lit "abc" ++ Text.lit right)),
    (Text.lit "authorization", Text.lit "Bearer xyz")]

theorem paddedCredentials_resolved :
    (paddedCredentials "" "").BearsToken (Text.lit "abc") ∧
      (paddedCredentials "" "").Respells (paddedCredentials "\t " "\u00a0") ∧
      resolveToken (paddedCredentials "\t " "\u00a0") = some (Text.lit "abc") := by
  have whole : CodePoint.ofChar ' ' ∉ Text.lit "bEARER" := by decide
  have bears : (paddedCredentials "" "").BearsToken (Text.lit "abc") := by
    refine ⟨⟨Text.lit "bEARER", Text.lit "abc", ?_, whole, by decide, ?_⟩, by decide⟩
    · exact ⟨[(Text.lit "accept", Text.lit "*/*")], _, rfl, by decide⟩
    · exact Text.trim_eq_iff.mp (by decide +kernel)
  have respells : (paddedCredentials "" "").Respells (paddedCredentials "\t " "\u00a0") :=
    .padding [(Text.lit "accept", Text.lit "*/*")] _ _ (Text.lit "\t ") (Text.lit "abc")
      (Text.lit "\u00a0") whole (by decide) (by decide)
  obtain ⟨grammar, -, -, unchanged⟩ := bearer_grammar (paddedCredentials "" "")
  exact ⟨bears, respells, (unchanged _ respells).trans ((grammar _).mpr bears)⟩

end JwtProvider

end

end Tollgate
