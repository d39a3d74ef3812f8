import Tollgate.Proofs.Token.Validation

namespace Tollgate.JwtProvider

section

variable {provider other : JwtProvider} {now later : Clock} {token text : Text} {claims : Members}

theorem getAuthentication_none (provider : JwtProvider) (now : Clock) (token : Text) :
    provider.getAuthentication now token none =
      provider.validateToken now token >>= fun claims => principalOf (.object claims) := rfl

theorem getAuthentication_some (provider : JwtProvider) (now : Clock) (token : Text)
    (claims : Json) : provider.getAuthentication now token (some claims) = principalOf claims := rfl

theorem getAuthentication_of_valid
    (valid : (provider.validateToken now token).outcome = .ok claims) {principal : Principal}
    (named : principalOf (.object claims) = pure principal) :
    provider.getAuthentication now token none =
      ⟨(provider.validateToken now token).events, .ok principal⟩ := by
  rw [getAuthentication_none, Traced.bind_of_ok valid, named, Traced.pure_events, List.append_nil]
  rfl

theorem getAuthentication_of_refused {fault : Fault}
    (refused : (provider.validateToken now token).outcome = .error fault) :
    provider.getAuthentication now token none =
      ⟨(provider.validateToken now token).events, .error fault⟩ := by
  rw [getAuthentication_none, Traced.bind_of_error refused]

theorem exists_named_principal (valid : (provider.validateToken now token).outcome = .ok claims) :
    ∃ name names, claims.at? "sub" = some (.text name) ∧ Token.Grants claims names ∧
      principalOf (.object claims) = pure ⟨.text name, names⟩ := by
  obtain ⟨⟨subject, names⟩, found, grants, named⟩ := exists_principal valid
  obtain ⟨name, text⟩ := exists_subject valid
  cases text.symm.trans found
  exact ⟨name, names, text, grants, named⟩

end

/-- Making a principal of a token's claims, handed back after a validation, agrees with decoding the
token again. Once the validation has gone well, the principal depends on the claims alone: no other
list of revoked tokens and no later clock is asked. -/
structure ReusesClaims (provider : JwtProvider) (now : Clock) (token : Text) : Prop where
  agrees : provider.getAuthentication now token none =
    provider.validateToken now token >>= fun claims =>
      provider.getAuthentication now token (some (.object claims))
  events : (provider.getAuthentication now token none).events =
    (provider.validateToken now token).events
  refused : ∀ fault, (provider.getAuthentication now token none).outcome = .error fault ↔
    (provider.validateToken now token).outcome = .error fault
  taken : ∀ claims, (provider.validateToken now token).outcome = .ok claims →
    ∃ name names, claims.at? "sub" = some (.text name) ∧ Token.Grants claims names ∧
      (provider.getAuthentication now token none).outcome = .ok ⟨.text name, names⟩ ∧
      ∀ (other : JwtProvider) later text,
        other.getAuthentication later text (some (.object claims)) = pure ⟨.text name, names⟩

theorem reuses_claims (provider : JwtProvider) (now : Clock) (token : Text) :
    provider.ReusesClaims now token := by
  cases validated : (provider.validateToken now token).outcome with
  | error fault =>
    have refused := getAuthentication_of_refused validated
    constructor
    case agrees =>
      rw [refused, Traced.bind_of_error validated]
    case events => rw [refused]
    case refused =>
      intro other
      rw [refused, validated]
      simp
    case taken =>
      intro claims valid
      cases validated.symm.trans valid
  | ok claims =>
    obtain ⟨name, names, subject, grants, named⟩ := exists_named_principal validated
    have taken := getAuthentication_of_valid validated named
    constructor
    case agrees =>
      rw [taken, Traced.bind_of_ok validated, getAuthentication_some, named, Traced.pure_events,
        List.append_nil]
      rfl
    case events => rw [taken]
    case refused =>
      intro fault
      rw [taken, validated]
      simp
    case taken =>
      intro same valid
      cases validated.symm.trans valid
      exact ⟨name, names, subject, grants, congrArg Traced.outcome taken,
        fun other later text => named⟩

theorem tokenOfEpoch_reused :
    (plainProvider.validateToken (.whole 0) tokenOfEpoch).outcome = .ok (claimsUntil 0) ∧
      ({ plainProvider with
        revoked := some (.orListed .passing [none]) } : JwtProvider).getAuthentication (.whole 1)
        tokenOfEpoch (some (.object (claimsUntil 0))) = pure ⟨.lit "a", []⟩ := by
  obtain ⟨name, names, subject, grants, -, reused⟩ :=
    (reuses_claims plainProvider (.whole 0) tokenOfEpoch).taken _ tokenOfEpoch_valid
  cases subject
  have none : names = [] := by
    cases grants with
    | absent => rfl
    | null given | single given | list given => cases given
  subst none
  exact ⟨tokenOfEpoch_valid, reused _ _ _⟩

end Tollgate.JwtProvider
