import Tollgate.Proofs.Text.Utf8
import Tollgate.Proofs.Token.Acceptance

namespace Tollgate

open Token Traced

namespace Token

def Crashes {α : Type} (x : Except Failure α) : Prop := ∃ crash, x = .error (.crash crash)

section

variable {α β : Type}

theorem not_crashes_ok (a : α) : ¬ Crashes (.ok a : Except Failure α) := by
  rintro ⟨crash, ⟨⟩⟩

theorem not_crashes_flaw (flaw : TokenFlaw) :
    ¬ Crashes (.error (.flaw flaw) : Except Failure α) := by
  rintro ⟨crash, ⟨⟩⟩

theorem not_crashes_mapError_flaw (x : Except TokenFlaw α) : ¬ Crashes (x.mapError .flaw) := by
  cases x with
  | error flaw => exact not_crashes_flaw flaw
  | ok a => exact not_crashes_ok a

theorem crashes_mapError_iff {x : Except Crash α} :
    Crashes (x.mapError .crash) ↔ ∃ crash, x = .error crash := by
  cases x with
  | error crash => exact ⟨fun _ => ⟨crash, rfl⟩, fun _ => ⟨crash, rfl⟩⟩
  | ok a => exact ⟨fun crashed => absurd crashed (not_crashes_ok a), nofun⟩

theorem crashes_bind_iff {x : Except Failure α} {f : α → Except Failure β} :
    Crashes (x >>= f) ↔ Crashes x ∨ ∃ a, x = .ok a ∧ Crashes (f a) := by
  cases x with
  | error failure =>
    constructor
    · rintro ⟨crash, same⟩
      cases same
      exact .inl ⟨crash, rfl⟩
    · rintro (⟨crash, same⟩ | ⟨a, ⟨⟩, -⟩)
      cases same
      exact ⟨crash, rfl⟩
  | ok a => simp [not_crashes_ok, bind, Except.bind]

theorem crashes_unit_bind_iff {x : Except Failure Unit} {f : Unit → Except Failure β} :
    Crashes (x >>= f) ↔ Crashes x ∨ x = .ok () ∧ Crashes (f ()) :=
  crashes_bind_iff.trans (or_congr_right ⟨fun ⟨(), h⟩ => h, fun h => ⟨(), h⟩⟩)

theorem crashes_throw_if_iff {condition : Bool} {flaw : TokenFlaw} {f : α → Except Failure β}
    {x : Except Failure β} :
    Crashes (if condition then throw (.flaw flaw) >>= f else x) ↔
      condition = false ∧ Crashes x := by
  cases condition with
  | true => exact ⟨fun crashed => absurd crashed (not_crashes_flaw flaw), nofun⟩
  | false => simp

end

inductive HasNoNumber : Json → Prop where
  | null : HasNoNumber .null
  | list (items : List Json) : HasNoNumber (.list items)
  | object (members : Members) : HasNoNumber (.object members)
  | infinite (negative : Bool) : HasNoNumber (.number (.infinite negative))

/-- What the clock cannot be compared with: what has no number, and, while the clock shows no date,
any number. -/
inductive Incomparable (now : Clock) (value : Json) : Prop where
  | noNumber : HasNoNumber value → Incomparable now value
  | noDate {n : Int} : wholeNumber? value = .ok (some n) →
    (∀ second, now.second ≠ .ok second) → Incomparable now value

def IssuedInOrder (claims : Members) : Prop :=
  ∀ value, claims.at? "iat" = some value → ∃ n, wholeNumber? value = .ok (some n)

def HasBegun (now : Clock) (claims : Members) : Prop :=
  ∀ value, claims.at? "nbf" = some value →
    ∃ n, wholeNumber? value = .ok (some n) ∧ ∃ second, now.second = .ok second ∧ n ≤ second

/-- Of the dates in the claims, in the order in which they are checked, the first that is not in
order cannot be compared. -/
inductive Stumbles (now : Clock) (claims : Members) : Prop where
  | issuedAt {value : Json} : claims.at? "iat" = some value → HasNoNumber value →
    Stumbles now claims
  | notBefore {value : Json} : IssuedInOrder claims → claims.at? "nbf" = some value →
    Incomparable now value → Stumbles now claims
  | expires {value : Json} : IssuedInOrder claims → HasBegun now claims →
    claims.at? "exp" = some value → Incomparable now value → Stumbles now claims

/-- Claims on which the checks crash. Without an expiry or a subject they do not get that far. -/
structure IsUncheckable (now : Clock) (claims : Members) : Prop where
  expires : ∃ value, claims.at? "exp" = some value
  subject : ∃ value, claims.at? "sub" = some value
  stumbles : Stumbles now claims

theorem wholeNumber?_error_iff {value : Json} :
    (∃ crash, wholeNumber? value = .error crash) ↔ HasNoNumber value := by
  constructor
  · rintro ⟨crash, failed⟩
    cases value with
    | null => exact .null
    | list items => exact .list items
    | object members => exact .object members
    | number x =>
      cases x with
      | infinite negative => exact .infinite negative
      | finite | nan => cases failed
    | bool | integer | text => cases failed
  · rintro (_ | _ | _ | _)
    all_goals exact ⟨_, rfl⟩

theorem not_crashes_refuseIf (flaw : Option TokenFlaw) : ¬ Crashes (refuseIf flaw) := by
  cases flaw with
  | none => exact not_crashes_ok ()
  | some flaw => exact not_crashes_flaw flaw

theorem crashes_refuseAt_iff {now : Clock} {flaw : TokenFlaw} {test : Int → Bool} :
    Crashes (refuseAt now flaw test) ↔ ∀ second, now.second ≠ .ok second := by
  unfold refuseAt
  cases now.second with
  | error crash => exact ⟨fun _ => nofun, fun _ => ⟨crash, rfl⟩⟩
  | ok second =>
    have noCrash : ¬ Crashes (if test second then throw (.flaw flaw) else pure ()) := by
      split
      · exact not_crashes_flaw flaw
      · exact not_crashes_ok ()
    exact ⟨fun crashed => absurd crashed noCrash, fun noDate => absurd rfl (noDate second)⟩

theorem crashes_checkDate_iff {claims : Members} {name : String} {notInteger : TokenFlaw}
    {check : Int → Except Failure Unit} :
    Crashes (checkDate claims name notInteger check) ↔ ∃ value, claims.at? name = some value ∧
      (HasNoNumber value ∨ ∃ n, wholeNumber? value = .ok (some n) ∧ Crashes (check n)) := by
  unfold checkDate
  cases claims.at? name with
  | none => simp [not_crashes_ok]
  | some value =>
    simp only [Option.some.injEq, exists_eq_left']
    rw [← wholeNumber?_error_iff]
    cases wholeNumber? value with
    | error crash => exact ⟨fun _ => .inl ⟨crash, rfl⟩, fun _ => ⟨crash, rfl⟩⟩
    | ok number => cases number <;> simp [not_crashes_flaw]

theorem incomparable_iff {now : Clock} {value : Json} : Incomparable now value ↔
    HasNoNumber value ∨ ∃ n, wholeNumber? value = .ok (some n) ∧
      ∀ second, now.second ≠ .ok second := by
  constructor
  · rintro (noNumber | ⟨whole, noDate⟩)
    · exact .inl noNumber
    · exact .inr ⟨_, whole, noDate⟩
  · rintro (noNumber | ⟨n, whole, noDate⟩)
    · exact .noNumber noNumber
    · exact .noDate whole noDate

theorem issuedInOrder_iff {claims : Members} {notInteger : TokenFlaw} :
    checkDate claims "iat" notInteger (fun _ => .ok ()) = .ok () ↔ IssuedInOrder claims := by
  simp only [checkDate_ok_iff, and_true]
  rfl

theorem hasBegun_iff {now : Clock} {claims : Members} {notInteger flaw : TokenFlaw} :
    checkDate claims "nbf" notInteger (fun n => refuseAt now flaw (n > ·)) = .ok () ↔
      HasBegun now claims := by
  simp only [checkDate_ok_iff, refuseAt_ok_iff, decide_eq_false_iff_not, Int.not_lt]
  rfl

theorem crashes_checkClaims_iff {now : Clock} {claims : Members} :
    Crashes (checkClaims now claims) ↔ IsUncheckable now claims := by
  simp only [checkClaims, crashes_unit_bind_iff, not_crashes_refuseIf, refuseIf_ok_iff,
    missingFlaw?_eq_none_iff, issuedInOrder_iff, hasBegun_iff, crashes_checkDate_iff,
    crashes_refuseAt_iff, ← incomparable_iff, not_crashes_ok, false_or, and_false, or_false,
    exists_false]
  constructor
  · rintro ⟨expires, subject, ⟨value, given, noNumber⟩ | ⟨issued, ⟨value, given, stuck⟩ |
      ⟨begun, value, given, stuck⟩⟩⟩
    · exact ⟨expires, subject, .issuedAt given noNumber⟩
    · exact ⟨expires, subject, .notBefore issued given stuck⟩
    · exact ⟨expires, subject, .expires issued begun given stuck⟩
  · rintro ⟨expires, subject, ⟨given, noNumber⟩ | ⟨issued, given, stuck⟩ |
      ⟨issued, begun, given, stuck⟩⟩
    · exact ⟨expires, subject, .inl ⟨_, given, noNumber⟩⟩
    · exact ⟨expires, subject, .inr ⟨issued, .inl ⟨_, given, stuck⟩⟩⟩
    · exact ⟨expires, subject, .inr ⟨issued, .inr ⟨begun, _, given, stuck⟩⟩⟩

end Token

namespace JwtProvider

/-- The header of the token can be read and names the algorithm, and the other segments are in
base64. -/
def Reads (algorithm : Text) (token : Text) : Prop :=
  ∃ bytes compact, Utf8.encode token = some bytes ∧ Spells bytes compact ∧
    compact.header.at? "alg" = some (.text algorithm)

/-- Tokens on which validation crashes: any that can be read, if the secret has no encoding, and
else those that are signed with it and have a date that cannot be compared. -/
inductive CrashesOn (provider : JwtProvider) (digest : Digest) (now : Clock) (token : Text) :
    Prop where
  | secret : Utf8.encode provider.secret = none → Reads provider.algorithm token →
    CrashesOn provider digest now token
  | claims {claims : Members} : provider.IsAuthentic digest token claims →
    IsUncheckable now claims → CrashesOn provider digest now token

/-- The token can be decoded, but the revocation check fails over its claims, and not with the error
of a bad token. -/
structure Unanswered (provider : JwtProvider) (now : Clock) (token : Text) (fault : Fault) :
    Prop where
  asked : ∃ check claims, provider.revoked = some check ∧ provider.decode now token = .ok claims ∧
    check claims = .error fault
  other : ∀ cause, fault ≠ .api .invalidExpiredToken cause

/-- The revocation check, if there is one, answers for all claims; any look-up in a list does. -/
def ChecksAnswer (provider : JwtProvider) : Prop :=
  ∀ check, provider.revoked = some check → ∀ claims fault, check claims ≠ .error fault

/-- The token is accepted, or refused with the error that its bearer is told of. -/
def Settles (provider : JwtProvider) (now : Clock) (token : Text) : Prop :=
  (∃ claims, (provider.validateToken now token).outcome = .ok claims) ∨
    ∃ cause, (provider.validateToken now token).outcome = .error (.api .invalidExpiredToken cause)

section

variable {provider : JwtProvider} {digest : Digest} {now : Clock} {token : Text}

theorem isSignedBy_error_iff (algorithm : provider.algorithm = digest.algorithm)
    (plain : IsPlain provider.secret) {signed signature : Bytes} :
    (∃ crash, isSignedBy provider.secret provider.algorithm signed signature = .error crash) ↔
      Utf8.encode provider.secret = none := by
  rw [algorithm, plain.isSignedBy_eq]
  cases Utf8.encode provider.secret <;> simp

theorem crashes_decode_iff (algorithm : provider.algorithm = digest.algorithm)
    (plain : IsPlain provider.secret) :
    Crashes (provider.decode now token) ↔
      Utf8.encode token = none ∨ provider.CrashesOn digest now token := by
  have nonempty : provider.algorithm ≠ [] := algorithm ▸ algorithm_ne_nil digest
  unfold decode
  cases encoded : Utf8.encode token with
  | none => exact ⟨fun _ => .inl rfl, fun _ => ⟨_, rfl⟩⟩
  | some bytes =>
    simp only [crashes_bind_iff, crashes_throw_if_iff, not_crashes_mapError_flaw, mapError_eq_ok,
      crashes_mapError_iff, Compact.parse_ok_iff, readObject_ok_iff, crashes_checkClaims_iff,
      isSignedBy_error_iff algorithm plain, pure, Except.pure, not_crashes_ok, false_or, and_false,
      exists_false, or_false, reduceCtorEq]
    constructor
    · rintro ⟨compact, spelled, truthy, same, noKey | ⟨signed, checked, good, claims, held, stuck⟩⟩
      · exact .secret noKey ⟨bytes, compact, encoded, spelled, (named_iff.mp ⟨truthy, same⟩).1⟩
      · rw [Bool.not_eq_false'] at good
        rw [good] at checked
        obtain ⟨key, utf8, mac⟩ := (isSignedBy_true_iff algorithm plain).mp checked
        exact .claims ⟨bytes, compact, key, encoded, spelled, (named_iff.mp ⟨truthy, same⟩).1, utf8,
          mac, held⟩ stuck
    · rintro (⟨noKey, other, compact, same, spelled, named⟩ |
        ⟨⟨other, compact, key, same, spelled, named, utf8, mac, held⟩, stuck⟩)
      · cases encoded.symm.trans same
        obtain ⟨truthy, alike⟩ := named_iff.mpr ⟨named, nonempty⟩
        exact ⟨compact, spelled, truthy, alike, .inl noKey⟩
      · cases encoded.symm.trans same
        obtain ⟨truthy, alike⟩ := named_iff.mpr ⟨named, nonempty⟩
        have checked := (isSignedBy_true_iff algorithm plain).mpr ⟨key, utf8, mac⟩
        exact ⟨compact, spelled, truthy, alike, .inr ⟨true, checked, rfl, _, held, stuck⟩⟩

theorem checkRevocation_error {claims : Members} {fault : Fault}
    (failed : (provider.checkRevocation claims).outcome = .error fault) :
    fault = .api .invalidExpiredToken none ∨
      ∃ check, provider.revoked = some check ∧ check claims = .error fault := by
  unfold checkRevocation RevocationCheck.recorded at failed
  split at failed
  · cases failed
  · rename_i check given
    cases answer : check claims with
    | error other =>
      simp only [answer, emit_eq, ok_bind, ofExcept_eq, error_bind, Except.error.injEq] at failed
      exact .inr ⟨check, given, failed ▸ answer⟩
    | ok revoked => cases revoked <;> simp_all

theorem authorities_error {claims : Members} {fault : Fault}
    (failed : (authorities claims).outcome = .error fault) :
    fault = .api .invalidExpiredToken none := by
  unfold authorities at failed
  split at failed
  · cases failed
  · simpa [eq_comm] using failed

theorem validateToken_error {fault : Fault}
    (failed : (provider.validateToken now token).outcome = .error fault) :
    (∃ cause, fault = .api .invalidExpiredToken cause) ∨
      (∃ crash, fault = .crash crash ∧ provider.decode now token = .error (.crash crash)) ∨
      provider.Unanswered now token fault := by
  rcases bind_outcome_error_iff.mp failed with undecoded | ⟨claims, valid, failed⟩
  · cases decoded : provider.decode now token with
    | ok claims => simp [decoded] at undecoded
    | error failure =>
      simp only [decoded, ofExcept_eq, mapError_error, Except.error.injEq] at undecoded
      subst undecoded
      cases failure with
      | flaw flaw => exact .inl ⟨_, rfl⟩
      | crash crash => exact .inr (.inl ⟨crash, rfl, rfl⟩)
  · rcases bind_outcome_error_iff.mp failed with revoked | ⟨-, -, failed⟩
    · rcases checkRevocation_error revoked with refused | ⟨check, given, answer⟩
      · exact .inl ⟨none, refused⟩
      · by_cases refused : ∃ cause, fault = .api .invalidExpiredToken cause
        · exact .inl refused
        · exact .inr (.inr ⟨⟨check, claims, given, mapError_eq_ok.mp valid, answer⟩,
            not_exists.mp refused⟩)
    · rcases bind_outcome_error_iff.mp failed with malformed | ⟨names, -, ⟨⟩⟩
      exact .inl ⟨none, authorities_error malformed⟩

theorem Unanswered.validateToken {fault : Fault}
    (unanswered : provider.Unanswered now token fault) :
    (provider.validateToken now token).outcome = .error fault := by
  obtain ⟨check, claims, given, decoded, answer⟩ := unanswered.asked
  refine bind_outcome_error_iff.mpr (.inr ⟨claims, mapError_eq_ok.mpr decoded, ?_⟩)
  refine bind_outcome_error_iff.mpr (.inl ?_)
  unfold checkRevocation RevocationCheck.recorded
  simp [given, answer]

theorem validateToken_of_crashes (crashes : Crashes (provider.decode now token)) :
    ∃ crash, (provider.validateToken now token).outcome = .error (.crash crash) := by
  obtain ⟨crash, failed⟩ := crashes
  refine ⟨crash, bind_outcome_error_iff.mpr (.inl ?_)⟩
  rw [failed]
  rfl

theorem exists_fault_of_not_settles (unsettled : ¬ provider.Settles now token) :
    ∃ fault, (provider.validateToken now token).outcome = .error fault ∧
      ((∃ crash, fault = .crash crash) ∨ provider.Unanswered now token fault) := by
  cases ended : (provider.validateToken now token).outcome with
  | ok claims => exact absurd (.inl ⟨claims, ended⟩) unsettled
  | error fault =>
    refine ⟨fault, rfl, ?_⟩
    rcases validateToken_error ended with ⟨cause, rfl⟩ | ⟨crash, same, -⟩ | unanswered
    · exact absurd (.inr ⟨cause, ended⟩) unsettled
    · exact .inl ⟨crash, same⟩
    · exact .inr unanswered

theorem ChecksAnswer.not_unanswered (answers : provider.ChecksAnswer) {fault : Fault} :
    ¬ provider.Unanswered now token fault := by
  rintro ⟨⟨check, claims, given, -, answer⟩, -⟩
  exact answers check given claims fault answer

theorem checksAnswer_of_list {ids : List (Option Text)} (given : provider.revoked = some ids) :
    provider.ChecksAnswer := by
  intro check same claims fault
  cases given.symm.trans same
  unfold RevocationCheck.orListed RevocationCheck.passing
  split <;> nofun

theorem settles_iff : provider.Settles now token ↔
    ¬ Crashes (provider.decode now token) ∧ ∀ fault, ¬ provider.Unanswered now token fault := by
  constructor
  · intro settles
    refine ⟨fun crashes => ?_, fun fault unanswered => ?_⟩
    · obtain ⟨crash, crashed⟩ := validateToken_of_crashes crashes
      rcases settles with ⟨claims, valid⟩ | ⟨cause, refused⟩
      · cases crashed.symm.trans valid
      · cases crashed.symm.trans refused
    · rcases settles with ⟨claims, valid⟩ | ⟨cause, refused⟩
      · cases unanswered.validateToken.symm.trans valid
      · cases unanswered.validateToken.symm.trans refused
        exact unanswered.other cause rfl
  · rintro ⟨sound, answered⟩
    cases ended : (provider.validateToken now token).outcome with
    | ok claims => exact .inl ⟨claims, ended⟩
    | error fault =>
      rcases validateToken_error ended with ⟨cause, rfl⟩ | ⟨crash, -, crashed⟩ | unanswered
      · exact .inr ⟨cause, ended⟩
      · exact absurd ⟨crash, crashed⟩ sound
      · exact absurd unanswered (answered fault)

end

end JwtProvider

end Tollgate
