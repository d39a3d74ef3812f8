import Tollgate.Proofs.Token.Acceptance

namespace Tollgate

open Traced

namespace JwtProvider

theorem checkClaims_of_decode {provider : JwtProvider} {now : Clock} {token : Text}
    {claims : Members} (decoded : provider.decode now token = .ok claims) :
    Token.checkClaims now claims = .ok () := by
  obtain ⟨_, _, -, -, -, -, -, checked⟩ := decode_eq_ok_iff.mp decoded
  exact checked

theorem authorities_leaves (claims : Members) : (authorities claims).Leaves Event.IsLogged := by
  unfold authorities
  split
  · exact leaves_of_nil rfl
  · exact (leaves_log _ _ _ fun _ => trivial).bind fun _ => leaves_of_nil rfl

theorem principalOf_leaves (claims : Json) : (principalOf claims).Leaves Event.IsLogged := by
  unfold principalOf
  split
  · split
    · exact (authorities_leaves _).bind fun _ => leaves_of_nil rfl
    · exact leaves_of_nil rfl
  · exact leaves_of_nil rfl

section

variable {provider : JwtProvider} {now : Clock} {token : Text} {claims : Members}

theorem checkRevocation_of_some {check : RevocationCheck}
    (given : provider.revoked = some check) (claims : Members) :
    ∃ rest : Bool → Traced Unit, (∀ a, (rest a).Leaves Event.IsLogged) ∧
      provider.checkRevocation claims = check.recorded claims >>= rest := by
  unfold checkRevocation
  rw [given]
  refine ⟨_, fun _ => ?_, rfl⟩
  split
  · exact (leaves_log _ _ _ fun _ => trivial).bind fun _ => leaves_of_nil rfl
  · exact leaves_of_nil rfl

theorem recorded_events (check : RevocationCheck) (claims : Members) :
    (check.recorded claims).events = [.revocationChecked claims] := rfl

theorem checkRevocation_leaves (provider : JwtProvider) (claims : Members) :
    (provider.checkRevocation claims).Leaves Event.IsScreened := by
  cases given : provider.revoked with
  | none =>
    unfold checkRevocation
    rw [given]
    exact leaves_of_nil rfl
  | some check =>
    obtain ⟨rest, logs, asked⟩ := checkRevocation_of_some given claims
    rw [asked]
    refine Leaves.bind (fun event member => ?_) fun a => (logs a).mono Event.IsLogged.isScreened
    rw [recorded_events] at member
    cases List.mem_singleton.mp member
    trivial

theorem validateToken_leaves (provider : JwtProvider) (now : Clock) (token : Text) :
    (provider.validateToken now token).Leaves Event.IsScreened := by
  refine (leaves_of_nil rfl).bind fun claims => ?_
  refine (checkRevocation_leaves provider claims).bind fun _ => ?_
  exact ((authorities_leaves claims).mono Event.IsLogged.isScreened).bind fun _ => leaves_of_nil rfl

theorem validateToken_calls (provider : JwtProvider) (now : Clock) (token : Text) :
    (provider.validateToken now token).calls = [] :=
  ((validateToken_leaves provider now token).mono Event.IsScreened.not_billed).filterMap_eq_nil

theorem validateToken_of_decode (decoded : provider.decode now token = .ok claims) :
    provider.validateToken now token =
      provider.checkRevocation claims >>= fun _ => authorities claims >>= fun _ => pure claims := by
  unfold validateToken
  rw [decoded]
  rfl

theorem validateToken_checks_of_decode {check : RevocationCheck}
    (given : provider.revoked = some check) (decoded : provider.decode now token = .ok claims) :
    (provider.validateToken now token).checks = [claims] := by
  have quiet ⦃event : Event⦄ (logged : event.IsLogged) : event.revocationChecked? = none :=
    logged.isRouted.not_checked
  obtain ⟨rest, logs, asked⟩ := checkRevocation_of_some given claims
  unfold checks
  rw [validateToken_of_decode decoded, filterMap_bind, asked, filterMap_bind, recorded_events]
  · rfl
  · exact fun a => (logs a).mono quiet
  · exact fun _ => ((authorities_leaves claims).mono quiet).bind fun _ => leaves_of_nil rfl

theorem validateToken_checks_of_error {failure : Token.Failure}
    (undecoded : provider.decode now token = .error failure) :
    (provider.validateToken now token).checks = [] := by
  unfold validateToken
  rw [undecoded]
  rfl

end

theorem authorities_of_grants {claims : Members} {names : List Text}
    (grants : Token.Grants claims names) : authorities claims = pure names := by
  unfold authorities
  rw [authorities?_eq_some_iff.mpr grants]

theorem exists_subject {provider : JwtProvider} {now : Clock} {token : Text} {claims : Members}
    (valid : (provider.validateToken now token).outcome = .ok claims) :
    ∃ name, claims.at? "sub" = some (.text name) := by
  obtain ⟨decoded, -, -⟩ := validateToken_ok.mp valid
  obtain ⟨second, -, inOrder⟩ := Token.checkClaims_ok_iff.mp (checkClaims_of_decode decoded)
  exact inOrder.subject

theorem exists_principal {provider : JwtProvider} {now : Clock} {token : Text} {claims : Members}
    (valid : (provider.validateToken now token).outcome = .ok claims) :
    ∃ principal : Principal, claims.at? "sub" = some principal.subject ∧
      Token.Grants claims principal.authorities ∧
      principalOf (.object claims) = pure principal := by
  obtain ⟨-, -, names, granted⟩ := validateToken_ok.mp valid
  obtain ⟨name, subject⟩ := exists_subject valid
  have grants := authorities_ok_iff.mp granted
  refine ⟨⟨.text name, names⟩, subject, grants, ?_⟩
  simp only [principalOf, subject, authorities_of_grants grants]
  rfl

theorem isTruthy_of_subject {claims : Members} {subject : Json}
    (found : claims.at? "sub" = some subject) : (Json.object claims).isTruthy = true := by
  cases claims with
  | nil => cases found
  | cons => rfl

end JwtProvider

end Tollgate
