import Tollgate.Proofs.Http.Admission
import Tollgate.Proofs.Number.Decimal

namespace Tollgate

open Traced

def Headers.IsLatin1 (headers : Headers) : Prop :=
  ∀ header ∈ headers, ∀ c ∈ header.2, c.val < 0x100

/-- The first declared length is a row of decimal digits, of whatever length, for this number. -/
def Request.DeclaresDecimal (request : Request) (length : Nat) : Prop :=
  ∃ value, request.header? "content-length" = some value ∧ value ≠ [] ∧
    (∀ c ∈ value, c.isAsciiDigit = true) ∧
    Integer.ofDigits (value.map fun c => c.val - 0x30) = length

/-- The first declared length is a row of digits that is not read as a number. -/
def Request.DeclaresNoNumber (request : Request) : Prop :=
  ∃ value, request.header? "content-length" = some value ∧ value ≠ [] ∧
    (∀ c ∈ value, c.isAsciiDigit = true ∨ c.isSuperscript = true) ∧
    ((∃ c ∈ value, c.isSuperscript = true) ∨ Integer.digitLimit < value.length)

section

variable {request : Request} {name : String} {value : Text} {c : CodePoint} {length : Nat}

theorem Headers.isLatin1_iff {headers : Headers} :
    headers.IsLatin1 ↔ headers.all (fun header => header.2.all fun c => c.val < 0x100) = true := by
  simp only [IsLatin1, List.all_eq_true, decide_eq_true_eq]

instance (headers : Headers) : Decidable headers.IsLatin1 :=
  decidable_of_iff _ Headers.isLatin1_iff.symm

theorem Headers.IsLatin1.of_get? {headers : Headers} (latin : headers.IsLatin1)
    (here : headers.get? name = some value) : ∀ c ∈ value, c.val < 0x100 := by
  unfold Headers.get? at here
  obtain ⟨before, after, split, -⟩ := List.lookup_eq_some_iff.mp here
  apply latin (Text.lit name, value)
  simp [split]

theorem CodePoint.val_of_isSuperscript (superscript : c.isSuperscript = true) :
    c.val = 0xB2 ∨ c.val = 0xB3 ∨ c.val = 0xB9 := by
  simpa [isSuperscript, or_assoc] using superscript

namespace BodyLimit

theorem isDigit_of_row (row : c.isAsciiDigit = true ∨ c.isSuperscript = true) :
    isDigit c = true := by
  rcases row with digit | superscript
  · simp [isDigit, CodePoint.decimal?_of_isAsciiDigit digit]
  · simp [isDigit, superscript]

theorem row_of_isDigit (small : c.val < 0x100) (digit : isDigit c = true) :
    c.isAsciiDigit = true ∨ c.isSuperscript = true := by
  simp only [isDigit, Bool.or_eq_true] at digit
  refine digit.imp_left fun decimal => ?_
  have inTable : c.val < 0x660 := by omega
  simp only [CodePoint.decimal?, inTable, if_true] at decimal
  split at decimal
  · rename_i range
    exact CodePoint.isAsciiDigit_iff.mpr range
  · cases decimal

theorem parse?_of_superscript (row : ∀ c ∈ value, c.isAsciiDigit = true ∨ c.isSuperscript = true)
    (member : c ∈ value) (superscript : c.isSuperscript = true) : Integer.parse? value = none := by
  have solid (d : CodePoint) (member : d ∈ value) : d.isSpace = false ∧ d ≠ '-' ∧ d ≠ '+' := by
    have range : (0x30 ≤ d.val ∧ d.val ≤ 0x39) ∨ d.val = 0xB2 ∨ d.val = 0xB3 ∨ d.val = 0xB9 :=
      (row d member).imp CodePoint.isAsciiDigit_iff.mp CodePoint.val_of_isSuperscript
    exact Integer.solid_of_val (by omega)
  have value := CodePoint.val_of_isSuperscript superscript
  have other : c ≠ '_' := by
    intro same
    have mark : (CodePoint.ofChar '_').val = 0x5F := rfl
    rw [same] at value
    omega
  have noDigit : c.decimal? = none := by
    have inTable : c.val < 0x660 := by omega
    have outside : ¬ (0x30 ≤ c.val ∧ c.val ≤ 0x39) := by omega
    simp only [CodePoint.decimal?, inTable, outside, if_true, if_false]
  rw [Integer.parse?_of_solid solid, Integer.separated?_eq_none member other noDigit,
    Option.bind_none]

theorem parse?_of_noNumber (nonempty : value ≠ [])
    (row : ∀ c ∈ value, c.isAsciiDigit = true ∨ c.isSuperscript = true)
    (noNumber : (∃ c ∈ value, c.isSuperscript = true) ∨ Integer.digitLimit < value.length) :
    Integer.parse? value = none := by
  by_cases superscripts : ∃ c ∈ value, c.isSuperscript = true
  · obtain ⟨c, member, superscript⟩ := superscripts
    exact parse?_of_superscript row member superscript
  · have digits (c : CodePoint) (member : c ∈ value) : c.isAsciiDigit = true :=
      (row c member).resolve_right fun superscript => superscripts ⟨c, member, superscript⟩
    have long := noNumber.resolve_left superscripts
    rw [Integer.parse?_of_digits nonempty digits, if_neg (Nat.not_le.mpr long)]

theorem declared_of_noNumber (noNumber : request.DeclaresNoNumber) :
    declared request.headers = .error .wrongValue := by
  obtain ⟨value, here, nonempty, row, noNumber⟩ := noNumber
  have digits : (!value.isEmpty && value.all isDigit) = true := by
    simpa [nonempty] using fun c member => isDigit_of_row (row c member)
  unfold Request.header? at here
  simp only [declared, here, digits, if_true, parse?_of_noNumber nonempty row noNumber]

theorem declares_of_decimal (decimal : request.DeclaresDecimal length)
    (number : ¬ request.DeclaresNoNumber) : request.Declares length := by
  obtain ⟨value, here, nonempty, digits, rfl⟩ := decimal
  refine ⟨value, here, nonempty, fun c member => isDigit_of_row (.inl (digits c member)), ?_⟩
  have short : value.length ≤ Integer.digitLimit := by
    by_contra long
    exact number ⟨value, here, nonempty, fun c member => .inl (digits c member),
      .inr (Nat.not_le.mp long)⟩
  rw [Integer.parse?_of_digits nonempty digits, if_pos short]

theorem exists_decimal (latin : request.headers.IsLatin1) (number : ¬ request.DeclaresNoNumber)
    (here : request.header? "content-length" = some value) (nonempty : value ≠ [])
    (digits : ∀ c ∈ value, isDigit c = true) : ∃ length, request.DeclaresDecimal length := by
  have row (c : CodePoint) (member : c ∈ value) :
      c.isAsciiDigit = true ∨ c.isSuperscript = true :=
    row_of_isDigit (latin.of_get? here c member) (digits c member)
  refine ⟨_, value, here, nonempty, fun c member => ?_, rfl⟩
  apply (row c member).resolve_right
  intro superscript
  exact number ⟨value, here, nonempty, row, .inl ⟨c, member, superscript⟩⟩

theorem decimal_of_declares {length : Int} (latin : request.headers.IsLatin1)
    (number : ¬ request.DeclaresNoNumber) (declares : request.Declares length) :
    ∃ decimal : Nat, length = decimal ∧ request.DeclaresDecimal decimal := by
  obtain ⟨value, here, nonempty, digits, read⟩ := id declares
  obtain ⟨decimal, spelled⟩ := exists_decimal latin number here nonempty digits
  obtain ⟨_, same, -, -, also⟩ := declares_of_decimal spelled number
  cases here.symm.trans same
  exact ⟨decimal, Option.some.inj (read.symm.trans also), spelled⟩

/-- The check goes by the number that is declared, whatever stands behind it: it answers if the
number is above the limit, and otherwise passes the request on as it is. -/
structure Settles (maxBytes : Int) (request : Request) : Prop where
  tooLarge : ∀ length : Nat, request.DeclaresDecimal length → maxBytes < length →
    ∀ next, layer maxBytes next request = pure ApiCode.payloadTooLarge.response
  forwarded : (∀ length : Nat, request.DeclaresDecimal length → length ≤ maxBytes) →
    ∀ next, layer maxBytes next request = next request

theorem settles_of_number {maxBytes : Int} (latin : request.headers.IsLatin1)
    (number : ¬ request.DeclaresNoNumber) : Settles maxBytes request := by
  constructor
  case tooLarge =>
    intro length decimal large next
    exact layer_of_large (declares_of_decimal decimal number) large next
  case forwarded =>
    intro small next
    obtain ⟨length, read⟩ : ∃ length, declared request.headers = .ok length := by
      apply exists_declared
      intro value here nonempty digits
      obtain ⟨decimal, spelled⟩ := exists_decimal latin number here nonempty digits
      obtain ⟨_, same, -, -, number⟩ := declares_of_decimal spelled number
      cases here.symm.trans same
      exact ⟨decimal, number⟩
    apply layer_of_small read
    intro length declares
    obtain ⟨decimal, rfl, spelled⟩ := decimal_of_declares latin number declares
    exact small decimal spelled

theorem not_settles_of_crash {maxBytes : Int} {crash : Crash}
    (crashes : ∀ next, layer maxBytes next request = ⟨[], .error (.crash crash)⟩) :
    ¬ Settles maxBytes request := by
  intro settles
  have fails (next : Handler) (response : Response) :
      layer maxBytes next request ≠ pure response := by
    intro answered
    cases (crashes next).symm.trans answered
  let next : Handler := fun _ => pure ApiCode.payloadTooLarge.response
  by_cases large : ∃ length : Nat, request.DeclaresDecimal length ∧ maxBytes < length
  · obtain ⟨length, decimal, large⟩ := large
    exact fails next _ (settles.tooLarge length decimal large next)
  · apply fails next ApiCode.payloadTooLarge.response
    apply settles.forwarded
    intro length decimal
    exact Int.not_lt.mp fun above => large ⟨length, decimal, above⟩

/-- The check goes by the declared number exactly for the requests that do not declare a row of
digits which is no number. On those it crashes. -/
theorem length_settled_iff (maxBytes : Int) (request : Request)
    (latin : request.headers.IsLatin1) :
    (Settles maxBytes request ↔ ¬ request.DeclaresNoNumber) ∧
      (request.DeclaresNoNumber →
        ∀ next, layer maxBytes next request = ⟨[], .error (.crash .wrongValue)⟩) := by
  have crashes (noNumber : request.DeclaresNoNumber) (next : Handler) :
      layer maxBytes next request = ⟨[], .error (.crash .wrongValue)⟩ :=
    layer_of_crash (declared_of_noNumber noNumber) next
  refine ⟨⟨?_, settles_of_number latin⟩, crashes⟩
  intro settles noNumber
  exact not_settles_of_crash (crashes noNumber) settles

end BodyLimit

end

namespace BodyLimit

def paddedRequest : Request where
  number := 0
  method := Text.lit "GET"
  path := Text.lit "/health"
  query := []
  headers := [(Text.lit "content-length", Text.lit "017"),
    (Text.lit "content-length", Text.lit "\u00b2")]
  chunks := []

theorem paddedRequest_settled :
    paddedRequest.headers.IsLatin1 ∧ ¬ paddedRequest.DeclaresNoNumber ∧
      (∀ next, layer 16 next paddedRequest = pure ApiCode.payloadTooLarge.response) ∧
      ∀ next, layer 17 next paddedRequest = next paddedRequest := by
  have latin : paddedRequest.headers.IsLatin1 := by decide
  have digits : (Text.lit "017").all CodePoint.isAsciiDigit = true := by decide
  have noSuperscript : (Text.lit "017").any CodePoint.isSuperscript = false := by decide
  have number : ¬ paddedRequest.DeclaresNoNumber := by
    intro ⟨value, here, nonempty, row, noNumber⟩
    cases here
    rcases noNumber with ⟨c, member, superscript⟩ | long
    · exact List.any_eq_false.mp noSuperscript c member superscript
    · exact absurd long (by decide)
  have decimal : paddedRequest.DeclaresDecimal 17 :=
    ⟨Text.lit "017", rfl, by decide, List.all_eq_true.mp digits, by decide⟩
  have settled (maxBytes : Int) := (length_settled_iff maxBytes paddedRequest latin).1.mpr number
  refine ⟨latin, number, (settled 16).tooLarge 17 decimal (by decide), ?_⟩
  apply (settled 17).forwarded
  intro length ⟨value, here, nonempty, row, denoted⟩
  cases here
  subst denoted
  decide

def superscriptRequest : Request :=
  { paddedRequest with headers := [(Text.lit "content-length", Text.lit "\u00b2")] }

/-- A superscript counts as a digit, and is no number: the check crashes over a request that it
should pass on. -/
theorem superscript_length_unsettled :
    superscriptRequest.headers.IsLatin1 ∧ ¬ Settles 1048576 superscriptRequest ∧
      ∀ length, ¬ superscriptRequest.DeclaresDecimal length := by
  have superscript : (CodePoint.ofChar '\u00b2').isSuperscript = true := by decide
  have noNumber : superscriptRequest.DeclaresNoNumber := by
    refine ⟨[CodePoint.ofChar '\u00b2'], by decide, by decide, ?_, .inl ?_⟩
    · intro c member
      exact .inr (List.mem_singleton.mp member ▸ superscript)
    · exact ⟨_, List.mem_singleton.mpr rfl, superscript⟩
  refine ⟨by decide, ?_, ?_⟩
  · apply not_settles_of_crash
    exact layer_of_crash (declared_of_noNumber noNumber)
  · intro length ⟨value, here, nonempty, digits, denoted⟩
    cases here
    have digit := digits (CodePoint.ofChar '\u00b2') (by decide)
    exact absurd digit (by decide)

end BodyLimit

end Tollgate
