import Tollgate.Proofs.Trace
import Tollgate.Token.Claims

namespace Tollgate.Token

/-- What claims must say to be accepted in a given second. -/
structure InOrder (second : Int) (claims : Members) : Prop where
  expires : ∃ value n, claims.at? "exp" = some value ∧ wholeNumber? value = .ok (some n) ∧
    second ≤ n
  subject : ∃ name, claims.at? "sub" = some (.text name)
  issuedAt : ∀ value, claims.at? "iat" = some value → ∃ n, wholeNumber? value = .ok (some n)
  notBefore : ∀ value, claims.at? "nbf" = some value →
    ∃ n, wholeNumber? value = .ok (some n) ∧ n ≤ second
  tokenId : ∀ value, claims.at? "jti" = some value → ∃ id, value = .text id
  audience : claims.at? "aud" = none
  accessHash : claims.at? "at_hash" = none

theorem refuseIf_ok_iff {flaw : Option TokenFlaw} : refuseIf flaw = .ok () ↔ flaw = none := by
  cases flaw <;> simp [refuseIf]

theorem missingFlaw?_eq_none_iff {claims : Members} {name : String} {flaw : TokenFlaw} :
    missingFlaw? claims name flaw = none ↔ ∃ value, claims.at? name = some value := by
  unfold missingFlaw? Members.has
  cases claims.at? name <;> simp

theorem textFlaw?_eq_none_iff {claims : Members} {name : String} {flaw : TokenFlaw} :
    textFlaw? claims name flaw = none ↔
      ∀ value, claims.at? name = some value → ∃ content, value = .text content := by
  unfold textFlaw?
  cases claims.at? name with
  | none => simp
  | some value => cases value <;> simp

theorem audienceFlaw?_eq_none_iff {claims : Members} :
    audienceFlaw? claims = none ↔ claims.at? "aud" = none := by
  simp [audienceFlaw?]

theorem accessFlaw?_eq_none_iff {claims : Members} :
    accessFlaw? claims = none ↔ claims.at? "at_hash" = none := by
  unfold accessFlaw? Members.has
  cases claims.at? "at_hash" <;> simp

theorem refuseAt_ok_iff {now : Clock} {flaw : TokenFlaw} {test : Int → Bool} :
    refuseAt now flaw test = .ok () ↔ ∃ second, now.second = .ok second ∧ test second = false := by
  simp only [refuseAt, bind_eq_ok, mapError_eq_ok]
  refine exists_congr fun second => and_congr_right fun _ => ?_
  cases test second <;> simp [throw, throwThe, MonadExceptOf.throw, pure, Except.pure]

theorem checkDate_ok_iff {claims : Members} {name : String} {notInteger : TokenFlaw}
    {check : Int → Except Failure Unit} :
    checkDate claims name notInteger check = .ok () ↔
      ∀ value, claims.at? name = some value →
        ∃ n, wholeNumber? value = .ok (some n) ∧ check n = .ok () := by
  unfold checkDate
  cases claims.at? name with
  | none => simp
  | some value =>
    simp only [Option.some.injEq, forall_eq']
    cases wholeNumber? value with
    | error crash => simp
    | ok number => cases number <;> simp

theorem checkClaims_ok_iff {now : Clock} {claims : Members} :
    checkClaims now claims = .ok () ↔
      ∃ second, now.second = .ok second ∧ InOrder second claims := by
  simp only [checkClaims, unit_bind_eq_ok, refuseIf_ok_iff, checkDate_ok_iff, refuseAt_ok_iff,
    missingFlaw?_eq_none_iff, textFlaw?_eq_none_iff, audienceFlaw?_eq_none_iff,
    accessFlaw?_eq_none_iff]
  constructor
  -- the expiry is looked at twice: whether it is there, and, later, whether it is a date ahead
  · rintro ⟨⟨expiry, given⟩, ⟨subject, named⟩, issuedAt, notBefore, expires, audience, isText,
      tokenId, accessHash⟩
    obtain ⟨n, whole, second, shown, inTime⟩ := expires expiry given
    refine ⟨second, shown, ?_⟩
    obtain ⟨name, rfl⟩ := isText subject named
    refine ⟨⟨expiry, n, given, whole, by simpa using inTime⟩, ⟨name, named⟩, ?_, ?_, tokenId,
      audience, accessHash⟩
    · intro value present
      obtain ⟨m, number, _⟩ := issuedAt value present
      exact ⟨m, number⟩
    · intro value present
      obtain ⟨m, number, other, same, started⟩ := notBefore value present
      cases shown.symm.trans same
      exact ⟨m, number, by simpa using started⟩
  · rintro ⟨second, shown, inOrder⟩
    obtain ⟨expiry, n, given, whole, inTime⟩ := inOrder.expires
    obtain ⟨name, named⟩ := inOrder.subject
    refine ⟨⟨expiry, given⟩, ⟨_, named⟩, ?_, ?_, ?_, inOrder.audience, ?_, inOrder.tokenId,
      inOrder.accessHash⟩
    · intro value present
      obtain ⟨m, number⟩ := inOrder.issuedAt value present
      exact ⟨m, number, trivial⟩
    · intro value present
      obtain ⟨m, number, started⟩ := inOrder.notBefore value present
      exact ⟨m, number, second, shown, by simpa using started⟩
    · intro value present
      cases given.symm.trans present
      exact ⟨n, whole, second, shown, by simpa using inTime⟩
    · intro value present
      cases named.symm.trans present
      exact ⟨name, rfl⟩

end Tollgate.Token
