import Tollgate.Proofs.Json.Completeness
import Tollgate.Proofs.Webhook.LocalSender

namespace Tollgate

open Webhook

namespace Json

/-- The bytes hold a JSON document, in one of the encodings of JSON. -/
def HoldsDocument (bytes : Bytes) : Prop :=
  ∃ text, decode bytes = some text ∧ IsDocumentText text

/-- The bytes hold no text in the encoding that they appear to have, or a text that starts like
JSON, up to a number with too many digits. -/
inductive IsUncheckable (bytes : Bytes) : Prop where
  | undecodable (noText : decode bytes = none)
  | overlong (text : Text) (decoded : decode bytes = some text) (breaks : BreaksOff text)

end Json

namespace Command

open Json

/-- The command prints the header of a JSON document, or complains about anything else. -/
inductive Reports (now : Clock) (key bytes : Bytes) : Except Crash Result → Prop where
  | signed (document : HoldsDocument bytes) : Reports now key bytes
    (.ok { code := 0, out := signatureHeader key now.truncate bytes ++ Text.lit "\n" })
  | refused (noDocument : ¬ HoldsDocument bytes) : Reports now key bytes
    (.ok { code := 1, err := Text.lit "Error: payload must be valid JSON\n" })

section

variable {bytes key : Bytes} {content : Text → Except Crash Bytes} {path secret : Text}

theorem holdsJson_crashes (uncheckable : IsUncheckable bytes) :
    ∃ crash, holdsJson bytes = .error crash := by
  unfold holdsJson
  cases uncheckable with
  | undecodable noText =>
    rw [noText]
    exact ⟨_, rfl⟩
  | overlong text decoded breaks =>
    simp only [decoded, read_eq_tooManyDigits_iff.mpr breaks]
    exact ⟨_, rfl⟩

theorem holdsJson_of_checkable (checkable : ¬ IsUncheckable bytes) :
    (HoldsDocument bytes ∧ holdsJson bytes = .ok true) ∨
      (¬ HoldsDocument bytes ∧ holdsJson bytes = .ok false) := by
  unfold holdsJson
  cases decoded : decode bytes with
  | none => exact absurd (.undecodable decoded) checkable
  | some text =>
    have unbroken : ¬ BreaksOff text := fun breaks => checkable (.overlong text decoded breaks)
    have document : HoldsDocument bytes ↔ ∃ value, read text = .ok value := by
      rw [exists_read_iff unbroken, HoldsDocument, decoded]
      simp
    rw [document]
    dsimp only
    cases given : read text with
    | ok value => exact .inl ⟨⟨value, rfl⟩, rfl⟩
    | error flaw =>
      cases flaw with
      | malformed =>
        refine .inr ⟨?_, rfl⟩
        rintro ⟨value, same⟩
        cases same
      | tooManyDigits => exact absurd (read_eq_tooManyDigits_iff.mp given) unbroken

theorem makeSignature_of_no_json (source : Settings.Source) (now : Clock)
    (file : content path = .ok bytes) (other : holdsJson bytes = .ok false) :
    makeSignature content source now [path, secret] =
      .ok { code := 1, err := Text.lit "Error: payload must be valid JSON\n" } := by
  change sign content source now path (some secret) = _
  unfold sign
  simp only [file, other, bind, Except.bind]
  rfl

theorem makeSignature_of_crash {crash : Crash} (source : Settings.Source) (now : Clock)
    (file : content path = .ok bytes) (crashed : holdsJson bytes = .error crash) :
    makeSignature content source now [path, secret] = .error crash := by
  change sign content source now path (some secret) = _
  unfold sign
  simp only [file, crashed, bind, Except.bind]

end

/-- The command reports on every payload that it can check, and crashes on the others. -/
theorem payload_reported_iff (content : Text → Except Crash Bytes) (source : Settings.Source)
    (now : Clock) (path secret : Text) (bytes : Bytes) (file : content path = .ok bytes)
    (scalar : secret.hasSurrogate = false) :
    let ended := makeSignature content source now [path, secret]
    ∃ key, Utf8.encode secret = some key ∧
      (Reports now key bytes ended ↔ ¬ IsUncheckable bytes) ∧
      (IsUncheckable bytes → ∃ crash, ended = .error crash) := by
  intro ended
  obtain ⟨key, encoded⟩ := Utf8.exists_encode scalar
  have crashes (uncheckable : IsUncheckable bytes) : ∃ crash, ended = .error crash := by
    obtain ⟨crash, crashed⟩ := holdsJson_crashes uncheckable
    exact ⟨crash, makeSignature_of_crash source now file crashed⟩
  refine ⟨key, encoded, ⟨fun reports uncheckable => ?_, fun checkable => ?_⟩, crashes⟩
  · obtain ⟨crash, crashed⟩ := crashes uncheckable
    rw [crashed] at reports
    cases reports
  · rcases holdsJson_of_checkable checkable with ⟨document, holds⟩ | ⟨noDocument, other⟩
    · have printed : ended = _ := makeSignature_of_json source now file holds encoded
      rw [printed]
      exact .signed document
    · have complained : ended = _ := makeSignature_of_no_json source now file other
      rw [complained]
      exact .refused noDocument

theorem braces_reported :
    (∃ key, Utf8.encode WebhookService.plainService.secret = some key ∧
      Reports (.whole 0) key [0x7B, 0x7D] (signFor (.whole 0) [0x7B, 0x7D])) ∧
    ∃ key, Utf8.encode WebhookService.plainService.secret = some key ∧
      Reports (.whole 0) key [0x7B] (signFor (.whole 0) [0x7B]) := by
  have checkable {bytes : Bytes} {holds : Bool} (checked : holdsJson bytes = .ok holds) :
      ¬ IsUncheckable bytes := by
    intro uncheckable
    obtain ⟨crash, crashed⟩ := holdsJson_crashes uncheckable
    cases checked.symm.trans crashed
  have scalar : WebhookService.plainService.secret.hasSurrogate = false := by decide
  have object : holdsJson [0x7B, 0x7D] = .ok true := rfl
  have brace : holdsJson [0x7B] = .ok false := rfl
  constructor
  · obtain ⟨key, encoded, reports, -⟩ := payload_reported_iff (fun _ => .ok [0x7B, 0x7D]) noSource
      (.whole 0) (Text.lit "payload.json") WebhookService.plainService.secret _ rfl scalar
    exact ⟨key, encoded, reports.mpr (checkable object)⟩
  · obtain ⟨key, encoded, reports, -⟩ := payload_reported_iff (fun _ => .ok [0x7B]) noSource
      (.whole 0) (Text.lit "payload.json") WebhookService.plainService.secret _ rfl scalar
    exact ⟨key, encoded, reports.mpr (checkable brace)⟩

def nines (n : Nat) : Text := List.replicate n (CodePoint.ofChar '9')

def ninesNumeral (n : Nat) : Numeral := ⟨nines n, false, nines n, none, none⟩

theorem isSpelled_nines (n : Nat) : (ninesNumeral (n + 1)).IsSpelled := by
  refine ⟨[], [], [], .absent, ?_, .absent, .absent, by simp [ninesNumeral]⟩
  refine .row _ (nines n) (by decide) (by decide) fun d member => ?_
  rw [List.eq_of_mem_replicate member]
  decide

theorem decode_nines (n : Nat) : decode (nines (n + 2)).lowBytes = some (nines (n + 2)) := by
  have ascii : (nines (n + 2)).isAscii = true := by
    refine List.all_eq_true.mpr fun c member => ?_
    rw [List.eq_of_mem_replicate member]
    decide
  have plain : (CodePoint.ofChar '9').IsPlain := ⟨by decide, by decide⟩
  exact decode_of_plain (Utf8.decode_of_encode (Utf8.encode_lowBytes ascii)) plain plain

theorem nines_uncheckable (n : Nat) (long : Integer.digitLimit < n + 2) :
    HoldsDocument (nines (n + 2)).lowBytes ∧ IsUncheckable (nines (n + 2)).lowBytes := by
  have spelled := isSpelled_nines (n + 1)
  have all : (ninesNumeral (n + 2)).literal ++ [] = nines (n + 2) := List.append_nil _
  have padded : Padded (nines (n + 2)) (nines (n + 2)) := ⟨[], nofun, rfl⟩
  have spans : Spans .value (nines (n + 2)) [] := all ▸ .number _ [] spelled
  have overlong : (ninesNumeral (n + 2)).IsOverlong :=
    ⟨rfl, rfl, by simpa [ninesNumeral, nines] using long⟩
  have breaks : Breaks .value (nines (n + 2)) :=
    all ▸ .number _ [] spelled overlong Numeral.stops_nil
  exact ⟨⟨_, decode_nines n, _, [], padded, spans, [], nofun, rfl⟩,
    .overlong _ (decode_nines n) ⟨_, padded, breaks⟩⟩

/-- The command crashes on a byte that is no text, and on a number with one digit too many, which is
a JSON document. -/
theorem payloads_unreported :
    signFor (.whole 0) [0xFF] = .error .undecodable ∧
      HoldsDocument (nines 4301).lowBytes ∧
      ∃ crash, signFor (.whole 0) (nines 4301).lowBytes = .error crash := by
  obtain ⟨document, uncheckable⟩ := nines_uncheckable 4299 (by decide)
  obtain ⟨crash, crashed⟩ := holdsJson_crashes uncheckable
  exact ⟨rfl, document, crash, makeSignature_of_crash noSource (.whole 0) rfl crashed⟩

end Command

end Tollgate
