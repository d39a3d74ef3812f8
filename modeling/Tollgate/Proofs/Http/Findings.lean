import Tollgate.Proofs.Http.Serving
import Tollgate.Proofs.Json.Readable
import Tollgate.Proofs.Token.Compact

namespace Tollgate

namespace Json

section

variable {value : Json}

theorem haveDigits_iff {items : List Json} :
    Response.haveDigits items = true ↔ ∀ item ∈ items, Response.hasDigits item = true := by
  induction items with
  | nil => simp [Response.haveDigits]
  | cons item items ih => simp [Response.haveDigits, ih]

theorem membersHaveDigits_iff {members : Members} : Response.membersHaveDigits members = true ↔
    ∀ member ∈ members, Response.hasDigits member.2 = true := by
  induction members with
  | nil => simp [Response.membersHaveDigits]
  | cons member members ih => simp [Response.membersHaveDigits, ih]

theorem IsPlain.hasDigits (plain : IsPlain value) : Response.hasDigits value = true := by
  induction plain with
  | null | bool | integer | number | text => rfl
  | list items _ ih => exact haveDigits_iff.mpr ih
  | object members _ _ ih => exact membersHaveDigits_iff.mpr ih

theorem expressibleItems_eq_self {items : List Json}
    (all : ∀ item ∈ items, SubError.expressible item = item) :
    SubError.expressibleItems items = items := by
  induction items with
  | nil => rfl
  | cons item items ih =>
    rw [List.forall_mem_cons] at all
    rw [SubError.expressibleItems, all.1, ih all.2]

theorem expressibleMembers_eq_self {members : Members}
    (all : ∀ member ∈ members, SubError.expressible member.2 = member.2) :
    SubError.expressibleMembers members = members := by
  induction members with
  | nil => rfl
  | cons member members ih =>
    rw [List.forall_mem_cons] at all
    rw [SubError.expressibleMembers, all.1, ih all.2]

theorem IsPlain.expressible (plain : IsPlain value) : SubError.expressible value = value := by
  induction plain with
  | null | bool | integer | number | text => rfl
  | list items _ ih => rw [SubError.expressible, expressibleItems_eq_self ih]
  | object members _ _ ih => rw [SubError.expressible, expressibleMembers_eq_self ih]

end

end Json

theorem Response.exists_ofJson {value : Json} (plain : value.IsPlain)
    (writable : value.isWritable = true) (status : Nat) :
    ∃ response, Response.ofJson status value = .ok response ∧ response.status = status ∧
      Utf8.encode (Json.compactUnicode value) = some response.body := by
  obtain ⟨body, written⟩ := Utf8.exists_encode plain.hasSurrogate_compactUnicode
  refine ⟨Response.ofJsonBytes status body, ?_, rfl, written⟩
  rw [Response.ofJson_eq plain.hasDigits writable, written]

theorem Response.ofJson_of_unwritable {value : Json} (unwritable : value.isWritable = false)
    (status : Nat) : Response.ofJson status value = .error .wrongValue := by
  simp only [Response.ofJson, unwritable, Bool.not_false, Bool.or_true, if_true]

theorem mapM_eq_ok_of_forall₂ {ε α β γ : Type} {f : α → Except ε β} {g : γ → β} {inputs : List α}
    {values : List γ}
    (each : List.Forall₂ (fun value input => f input = .ok (g value)) values inputs) :
    inputs.mapM f = .ok (values.map g) := by
  induction each with
  | nil => rfl
  | cons first _ ih =>
    rw [List.mapM_cons, first, ih]
    rfl

theorem mapM_eq_error {ε α β : Type} {f : α → Except ε β} {e : ε} {inputs : List α}
    (only : ∀ input ∈ inputs, (∃ value, f input = .ok value) ∨ f input = .error e)
    (failed : ∃ input ∈ inputs, f input = .error e) : inputs.mapM f = .error e := by
  induction inputs with
  | nil => simp at failed
  | cons input inputs ih =>
    rw [List.forall_mem_cons] at only
    rw [List.mapM_cons]
    rcases only.1 with ⟨value, first⟩ | first
    · have later : ∃ input ∈ inputs, f input = .error e := by simpa [first] using failed
      rw [first, ih only.2 later]
      rfl
    · rw [first]
      rfl

namespace Validation

inductive IsPartText : Json → Text → Prop where
  | text (s : Text) : IsPartText (.text s) s
  | integer (n : Int) : IsPartText (.integer n) (Integer.decimal n)
  | yes : IsPartText (.bool true) (Text.lit "True")
  | no : IsPartText (.bool false) (Text.lit "False")
  | null : IsPartText .null (Text.lit "None")

theorem map_display {parts : List Json} {path : List Text}
    (texts : List.Forall₂ IsPartText parts path) : parts.map Json.display = path := by
  induction texts with
  | nil => rfl
  | cons first _ ih =>
    rw [List.map_cons, ih]
    cases first <;> rfl

/-- What was found wrong: the texts of the parts of the place, the message and what was given. -/
structure Finding where
  path : List Text
  message : Text
  input : Json

namespace Finding

/-- The members of a finding. A missing place, message or input is as good as an empty one. -/
structure IsToldBy (finding : Finding) (members : Members) : Prop where
  path : ∃ parts, (members.at? "loc").getD (.list []) = .list parts ∧
    List.Forall₂ IsPartText parts finding.path
  message : (members.at? "msg").getD (.text []) = .text finding.message
  input : (members.at? "input").getD .null = finding.input

def HasWritablePath (members : Members) : Prop :=
  ∀ parts, (members.at? "loc").getD (.list []) = .list parts →
    ∀ part ∈ parts, part.isWritable = true

/-- No integer in the place or in the input has more digits than an integer is written with, and the
input is not nested too deep. -/
structure IsWithinLimits (members : Members) : Prop where
  path : HasWritablePath members
  input : ((members.at? "input").getD .null).isWritable = true
  depth : SubError.depth ((members.at? "input").getD .null) ≤ SubError.depthLimit

def field (finding : Finding) : Text := Text.join (Text.lit ".") (finding.path.drop 1)

def entryKeys : List Text := ["object", "field", "rejectedValue", "message"].map Text.lit

/-- The entry that reports a finding: these members and no others. -/
structure IsReportedBy (finding : Finding) (entry : Members) : Prop where
  object : entry.at? "object" = some (.text (finding.path.headD (Text.lit "request")))
  field : entry.at? "field" = if finding.field = [] then none else some (.text finding.field)
  rejected : entry.at? "rejectedValue" =
    if finding.input = .null then none else some finding.input
  message : entry.at? "message" = some (.text finding.message)
  keys : (entry.map (·.1)).Sublist entryKeys

structure IsPlain (finding : Finding) : Prop where
  path : ∀ part ∈ finding.path, part.hasSurrogate = false
  message : finding.message.hasSurrogate = false
  input : finding.input.IsPlain

def subError (finding : Finding) : SubError where
  object := finding.path.headD (Text.lit "request")
  field := if finding.field.isEmpty then none else some finding.field
  rejectedValue := finding.input
  message := finding.message

def entry (finding : Finding) : Members :=
  [(Text.lit "object", .text (finding.path.headD (Text.lit "request")))] ++
    (if finding.field = [] then [] else [(Text.lit "field", .text finding.field)]) ++
    (if finding.input = .null then [] else [(Text.lit "rejectedValue", finding.input)]) ++
    [(Text.lit "message", .text finding.message)]

section

variable {finding : Finding} {members : Members}

theorem IsToldBy.subErrorOf (told : finding.IsToldBy members)
    (writable : HasWritablePath members) :
    Validation.subErrorOf members = .ok finding.subError := by
  obtain ⟨parts, place, texts⟩ := told.path
  have all : parts.all Json.isWritable = true := List.all_eq_true.mpr (writable parts place)
  unfold Validation.subErrorOf
  rw [place, told.message, told.input]
  simp only [Token.entries?, map_display texts, all]
  rfl

theorem IsToldBy.subErrorOf_of_unwritable (told : finding.IsToldBy members)
    (unwritable : ¬ HasWritablePath members) :
    Validation.subErrorOf members = .error .wrongValue := by
  obtain ⟨parts, place, -⟩ := told.path
  have some : parts.all Json.isWritable = false := by
    refine Bool.eq_false_iff.mpr fun all => unwritable fun others same => ?_
    cases place.symm.trans same
    exact List.all_eq_true.mp all
  unfold Validation.subErrorOf
  rw [place]
  simp only [Token.entries?, some]
  rfl

theorem isWritable_entry (finding : Finding) :
    Json.isWritable (.object finding.entry) = finding.input.isWritable := by
  unfold entry
  by_cases empty : finding.field = []
  all_goals by_cases null : finding.input = .null
  all_goals simp [empty, null, Json.isWritable, Json.membersAreWritable]

theorem unlessNull_of_isPlain (name : String) {value : Json} (plain : value.IsPlain) :
    SubError.unlessNull name value = if value = .null then [] else [(Text.lit name, value)] := by
  have same := plain.expressible
  cases value with
  | null => rfl
  | _ => simp [SubError.unlessNull, same]

theorem json_subError (plain : finding.input.IsPlain) :
    finding.subError.json = .object finding.entry := by
  unfold SubError.json subError entry
  dsimp only
  rw [unlessNull_of_isPlain "rejectedValue" plain]
  by_cases empty : finding.field = []
  · simp [empty, SubError.unlessNull]
  · simp [empty, SubError.unlessNull, SubError.expressible]

theorem keys_entry (finding : Finding) : (finding.entry.map (·.1)).Sublist entryKeys := by
  have optional (condition : Prop) [Decidable condition] (key : Text) (value : Json) :
      ((if condition then [] else [(key, value)] : Members).map (·.1)).Sublist [key] := by
    split
    · exact List.nil_sublist _
    · exact List.Sublist.refl _
  unfold entry
  rw [List.map_append, List.map_append, List.map_append]
  have object := List.Sublist.refl [Text.lit "object"]
  have field := optional (finding.field = []) (Text.lit "field") (.text finding.field)
  have rejected := optional (finding.input = .null) (Text.lit "rejectedValue") finding.input
  have message := List.Sublist.refl [Text.lit "message"]
  exact ((object.append field).append rejected).append message

theorem isReportedBy_entry (finding : Finding) : finding.IsReportedBy finding.entry := by
  have keys := keys_entry finding
  unfold entry at keys ⊢
  -- an entry has two, three or four members
  by_cases empty : finding.field = []
  all_goals by_cases null : finding.input = .null
  all_goals
    refine ⟨?_, ?_, ?_, ?_, keys⟩
    all_goals
      simp only [empty, null, if_true, if_false]
      rfl

theorem hasSurrogate_headD {path : List Text} (scalar : ∀ part ∈ path, part.hasSurrogate = false) :
    (path.headD (Text.lit "request")).hasSurrogate = false := by
  cases path with
  | nil => decide
  | cons first rest => exact scalar first (.head _)

theorem IsPlain.hasSurrogate_field (plain : finding.IsPlain) :
    finding.field.hasSurrogate = false := by
  have dot : (Text.lit ".").hasSurrogate = false := by decide
  unfold field
  rw [Text.hasSurrogate_join dot]
  apply List.any_eq_false.mpr
  intro part member
  rw [plain.path part (List.mem_of_mem_drop member)]
  exact Bool.false_ne_true

theorem IsPlain.of_mem_entry (plain : finding.IsPlain) {member : Text × Json}
    (within : member ∈ finding.entry) :
    (∃ s : Text, member.2 = .text s ∧ s.hasSurrogate = false) ∨ member.2 = finding.input := by
  unfold entry at within
  simp only [List.mem_append, List.mem_singleton, List.mem_ite_nil_left] at within
  rcases within with ((rfl | ⟨-, rfl⟩) | ⟨-, rfl⟩) | rfl
  · exact .inl ⟨_, rfl, hasSurrogate_headD plain.path⟩
  · exact .inl ⟨_, rfl, plain.hasSurrogate_field⟩
  · exact .inr rfl
  · exact .inl ⟨_, rfl, plain.message⟩

theorem IsPlain.isPlain_entry (plain : finding.IsPlain) : Json.IsPlain (.object finding.entry) := by
  have known : ∀ key ∈ entryKeys, key.hasSurrogate = false := by decide
  apply Json.IsPlain.object
  · intro member within
    exact known _ ((keys_entry finding).subset (List.mem_map_of_mem within))
  · intro member within
    rcases plain.of_mem_entry within with ⟨s, same, scalar⟩ | same
    · rw [same]
      exact .text s scalar
    · rw [same]
      exact plain.input

theorem IsPlain.isReadable_entry (plain : finding.IsPlain) (readable : finding.input.IsReadable) :
    Json.IsReadable (.object finding.entry) := by
  apply Json.IsReadable.object
  · exact (keys_entry finding).nodup (by decide)
  · intro member within
    rcases plain.of_mem_entry within with ⟨s, same, -⟩ | same
    · rw [same]
      exact .text s
    · rw [same]
      exact readable

end

end Finding

def report (entries : List Members) : Members :=
  [(Text.lit "status", .lit "BAD_REQUEST"), (Text.lit "message", .lit "Validation errors"),
    (Text.lit "subErrors", .list (entries.map Json.object))]

theorem isPlain_report {entries : List Members}
    (plain : ∀ entry ∈ entries, Json.IsPlain (.object entry)) :
    Json.IsPlain (.object (report entries)) := by
  apply Json.IsPlain.object
  · unfold report
    simp only [List.forall_mem_cons]
    exact ⟨by decide, by decide, by decide, nofun⟩
  · unfold report
    simp only [List.forall_mem_cons]
    exact ⟨.text _ (by decide), .text _ (by decide), .list _ (List.forall_mem_map.mpr plain), nofun⟩

theorem isReadable_report {entries : List Members}
    (readable : ∀ entry ∈ entries, Json.IsReadable (.object entry)) :
    Json.IsReadable (.object (report entries)) := by
  apply Json.IsReadable.object
  · change [Text.lit "status", Text.lit "message", Text.lit "subErrors"].Nodup
    decide
  · unfold report
    simp only [List.forall_mem_cons]
    exact ⟨.text _, .text _, .list _ (List.forall_mem_map.mpr readable), nofun⟩

theorem isWritable_report {findings : List Finding} :
    Json.isWritable (.object (report (findings.map Finding.entry))) = true ↔
      ∀ finding ∈ findings, finding.input.isWritable = true := by
  have entries : Json.areWritable ((findings.map Finding.entry).map Json.object) = true ↔
      ∀ finding ∈ findings, finding.input.isWritable = true := by
    simp only [Json.areWritable_iff, List.forall_mem_map, Finding.isWritable_entry]
  rw [← entries]
  simp [report, Json.isWritable, Json.membersAreWritable, Json.lit]

/-- Findings are answered with one entry for each of them, in their order. A client that reads the
body finds these entries, if the inputs are what JSON can be read as. -/
def ReportsAll (findings : List Finding) (told : List Members) : Prop :=
  ∃ response entries, Validation.response told = .ok response ∧ response.status = 400 ∧
    List.Forall₂ Finding.IsReportedBy findings entries ∧
    Utf8.encode (Json.compactUnicode (.object (report entries))) = some response.body ∧
    ((∀ finding ∈ findings, finding.input.IsReadable) → Token.Holds response.body (report entries))

section

variable {findings : List Finding} {told : List Members}

theorem json_errors (plain : ∀ finding ∈ findings, finding.IsPlain) :
    ApiError.json ⟨ApiCode.validationErrors, some (findings.map Finding.subError)⟩ =
      .object (report (findings.map Finding.entry)) := by
  have entries : (findings.map Finding.subError).map SubError.json =
      (findings.map Finding.entry).map Json.object := by
    rw [List.map_map, List.map_map]
    exact List.map_congr_left fun finding member =>
      Finding.json_subError (plain finding member).input
  simp only [ApiError.json, Option.map_some, Option.getD_some, entries]
  rfl

theorem input_of_told (same : List.Forall₂ Finding.IsToldBy findings told)
    (property : Json → Prop) :
    (∀ members ∈ told, property ((members.at? "input").getD .null)) ↔
      ∀ finding ∈ findings, property finding.input := by
  induction same with
  | nil => simp
  | cons first _ ih => rw [List.forall_mem_cons, List.forall_mem_cons, ih, first.input]

theorem response_of_errors (errors : told.mapM subErrorOf = .ok (findings.map Finding.subError))
    (plain : ∀ finding ∈ findings, finding.IsPlain) : Validation.response told =
      if ∀ finding ∈ findings, SubError.depth finding.input ≤ SubError.depthLimit then
        Response.ofJson 400 (.object (report (findings.map Finding.entry)))
      else .error .wrongValue := by
  have deep : ((some (findings.map Finding.subError)).getD []).any (fun sub =>
      SubError.depthLimit < SubError.depth sub.rejectedValue) = true ↔
      ¬ ∀ finding ∈ findings, SubError.depth finding.input ≤ SubError.depthLimit := by
    simp [Finding.subError]
  unfold Validation.response
  rw [errors]
  change ApiError.response _ _ = _
  unfold ApiError.response
  rw [json_errors plain]
  by_cases flat : ∀ finding ∈ findings, SubError.depth finding.input ≤ SubError.depthLimit
  · rw [if_neg fun any => deep.mp any flat, if_pos flat]
    rfl
  · rw [if_pos (deep.mpr flat), if_neg flat]

theorem mapM_subErrorOf (same : List.Forall₂ Finding.IsToldBy findings told)
    (paths : ∀ members ∈ told, Finding.HasWritablePath members) :
    told.mapM subErrorOf = .ok (findings.map Finding.subError) := by
  apply mapM_eq_ok_of_forall₂
  refine List.forall₂_iff_get.mpr ⟨same.length_eq, fun i left right => ?_⟩
  exact (same.get left right).subErrorOf (paths _ (List.get_mem told _))

theorem mapM_subErrorOf_of_unwritable (same : List.Forall₂ Finding.IsToldBy findings told)
    (unwritable : ¬ ∀ members ∈ told, Finding.HasWritablePath members) :
    told.mapM subErrorOf = .error .wrongValue := by
  have answered : ∀ members ∈ told, ∃ finding, Finding.IsToldBy finding members := by
    intro members member
    obtain ⟨i, bound, rfl⟩ := List.mem_iff_getElem.mp member
    exact ⟨_, same.get (same.length_eq ▸ bound) bound⟩
  apply mapM_eq_error
  · intro members member
    obtain ⟨finding, told⟩ := answered members member
    by_cases path : Finding.HasWritablePath members
    · exact .inl ⟨_, told.subErrorOf path⟩
    · exact .inr (told.subErrorOf_of_unwritable path)
  · obtain ⟨members, member, path⟩ : ∃ members ∈ told, ¬ Finding.HasWritablePath members := by
      simpa only [not_forall, exists_prop] using unwritable
    obtain ⟨finding, told⟩ := answered members member
    exact ⟨members, member, told.subErrorOf_of_unwritable path⟩

theorem reportsAll_of_withinLimits (same : List.Forall₂ Finding.IsToldBy findings told)
    (plain : ∀ finding ∈ findings, finding.IsPlain)
    (within : ∀ members ∈ told, Finding.IsWithinLimits members) : ReportsAll findings told := by
  have errors := mapM_subErrorOf same fun members member => (within members member).path
  have flat := (input_of_told same (SubError.depth · ≤ SubError.depthLimit)).mp
    fun members member => (within members member).depth
  have writable := (input_of_told same (Json.isWritable · = true)).mp
    fun members member => (within members member).input
  have plainEntries : ∀ entry ∈ findings.map Finding.entry, Json.IsPlain (.object entry) :=
    List.forall_mem_map.mpr fun finding member => (plain finding member).isPlain_entry
  obtain ⟨response, answered, status, written⟩ :=
    Response.exists_ofJson (isPlain_report plainEntries) (isWritable_report.mpr writable) 400
  refine ⟨response, findings.map Finding.entry, ?_, status, ?_, written, fun readable => ?_⟩
  · rw [response_of_errors errors plain, if_pos flat]
    exact answered
  · apply List.forall₂_map_right_iff.mpr
    apply List.forall₂_same.mpr
    intro finding _
    exact Finding.isReportedBy_entry finding
  · have readableEntries : ∀ entry ∈ findings.map Finding.entry,
        Json.IsReadable (.object entry) :=
      List.forall_mem_map.mpr fun finding member =>
        (plain finding member).isReadable_entry (readable finding member)
    exact ⟨_, Utf8.decode_of_encode written, (Json.readsAs_of_isPlain Json.escapeLittle_faithful
      (isPlain_report plainEntries) (isReadable_report readableEntries)).read⟩

theorem response_of_beyondLimits (same : List.Forall₂ Finding.IsToldBy findings told)
    (plain : ∀ finding ∈ findings, finding.IsPlain)
    (beyond : ¬ ∀ members ∈ told, Finding.IsWithinLimits members) :
    Validation.response told = .error .wrongValue := by
  by_cases paths : ∀ members ∈ told, Finding.HasWritablePath members
  · rw [response_of_errors (mapM_subErrorOf same paths) plain]
    split
    · rename_i flat
      apply Response.ofJson_of_unwritable
      refine Bool.eq_false_iff.mpr fun writable => beyond fun members member => ?_
      have inputs := (input_of_told same (Json.isWritable · = true)).mpr
        (isWritable_report.mp writable)
      have depths := (input_of_told same (SubError.depth · ≤ SubError.depthLimit)).mpr flat
      exact ⟨paths members member, inputs members member, depths members member⟩
    · rfl
  · unfold Validation.response
    rw [mapM_subErrorOf_of_unwritable same paths]
    rfl

end

/-- Findings are reported one for one, if all of them are within the limits of what is written. If
one is not, then none of them is reported. -/
theorem findings_reported {findings : List Finding} {told : List Members}
    (same : List.Forall₂ Finding.IsToldBy findings told)
    (plain : ∀ finding ∈ findings, finding.IsPlain) :
    ((∀ members ∈ told, Finding.IsWithinLimits members) → ReportsAll findings told) ∧
    ((¬ ∀ members ∈ told, Finding.IsWithinLimits members) →
      Validation.response told = .error .wrongValue) :=
  ⟨reportsAll_of_withinLimits same plain, response_of_beyondLimits same plain⟩

def told (parts : List Json) (message : String) (input : Json) : Members :=
  [(Text.lit "loc", .list parts), (Text.lit "msg", .lit message), (Text.lit "input", input)]

def nestedInput : Json :=
  .object [(Text.lit "id", .null), (Text.lit "", .list [.null,
    .number (.finite true 6755399441055744 (-52)), .object [(Text.lit "status", .null)]])]

def variousFindings : List Finding :=
  [⟨[Text.lit "body", Text.lit "-3", Text.lit "True", Text.lit "None", Text.lit "n\u00e4me"],
      Text.lit "Field required", nestedInput⟩,
    ⟨[], Text.lit "", .null⟩,
    ⟨[Text.lit "query"], Text.lit "no \"value\"", .bool false⟩,
    ⟨[Text.lit "header", Text.lit ""], Text.lit "blank", .text []⟩,
    ⟨[Text.lit "False", Text.lit "", Text.lit ""], Text.lit "\u20ac", .list []⟩]

def variousTold : List Members :=
  [told [.lit "body", .integer (-3), .bool true, .null, .lit "n\u00e4me"] "Field required"
      nestedInput,
    told [] "" .null, told [.lit "query"] "no \"value\"" (.bool false),
    told [.lit "header", .lit ""] "blank" (.text []),
    told [.bool false, .lit "", .lit ""] "\u20ac" (.list [])]

theorem variousFindings_reported :
    ∃ response entries, Validation.response variousTold = .ok response ∧
      response.status = 400 ∧ List.Forall₂ Finding.IsReportedBy variousFindings entries ∧
      Token.Holds response.body (report entries) := by
  have tells {parts : List Json} {path : List Text} (message : String) (input : Json)
      (texts : List.Forall₂ IsPartText parts path) :
      Finding.IsToldBy ⟨path, Text.lit message, input⟩ (told parts message input) :=
    ⟨⟨parts, rfl, texts⟩, rfl, rfl⟩
  have fraction : Binary64.IsNormal 6755399441055744 (-52) :=
    ⟨by decide, by decide, by decide, .inr (by decide)⟩
  have plainInput : nestedInput.IsPlain := by
    apply Json.IsPlain.object _ (by decide)
    simp only [List.forall_mem_cons]
    refine ⟨.null, .list _ ?_, nofun⟩
    simp only [List.forall_mem_cons]
    refine ⟨.null, .number _ _ _, .object _ (by decide) ?_, nofun⟩
    exact List.forall_mem_singleton.mpr .null
  have readableInput : nestedInput.IsReadable := by
    apply Json.IsReadable.object _ (by decide)
    simp only [List.forall_mem_cons]
    refine ⟨.null, .list _ ?_, nofun⟩
    simp only [List.forall_mem_cons]
    refine ⟨.null, .number _ fraction, .object _ (by decide) ?_, nofun⟩
    exact List.forall_mem_singleton.mpr .null
  have plain : ∀ finding ∈ variousFindings, finding.IsPlain := by
    unfold variousFindings
    simp only [List.forall_mem_cons]
    exact ⟨⟨by decide, by decide, plainInput⟩, ⟨by decide, by decide, .null⟩,
      ⟨by decide, by decide, .bool false⟩, ⟨by decide, by decide, .text [] rfl⟩,
      ⟨by decide, by decide, .list [] nofun⟩, nofun⟩
  have readable : ∀ finding ∈ variousFindings, finding.input.IsReadable := by
    unfold variousFindings
    simp only [List.forall_mem_cons]
    exact ⟨readableInput, .null, .bool false, .text [], .list [] nofun, nofun⟩
  have same : List.Forall₂ Finding.IsToldBy variousFindings variousTold :=
    .cons (tells _ _ (.cons (.text _) (.cons (.integer (-3)) (.cons .yes (.cons .null
      (.cons (.text _) .nil)))))) <|
    .cons (tells _ _ .nil) <|
    .cons (tells _ _ (.cons (.text _) .nil)) <|
    .cons (tells _ _ (.cons (.text _) (.cons (.text _) .nil))) <|
    .cons (tells _ _ (.cons .no (.cons (.text _) (.cons (.text _) .nil)))) .nil
  have limits {parts : List Json} (message : String) {input : Json}
      (path : ∀ part ∈ parts, part.isWritable = true) (writable : input.isWritable = true)
      (flat : SubError.depth input ≤ SubError.depthLimit) :
      Finding.IsWithinLimits (told parts message input) := by
    refine ⟨fun others place => ?_, writable, flat⟩
    cases place
    exact path
  have within : ∀ members ∈ variousTold, Finding.IsWithinLimits members := by
    unfold variousTold
    simp only [List.forall_mem_cons]
    exact ⟨limits _ (by decide +kernel) (by decide) (by decide +kernel),
      limits _ nofun (by decide) (by decide +kernel),
      limits _ (by decide) (by decide) (by decide +kernel),
      limits _ (by decide) (by decide) (by decide +kernel),
      limits _ (by decide) (by decide) (by decide +kernel), nofun⟩
  obtain ⟨response, entries, answered, status, reported, -, held⟩ :=
    (findings_reported same plain).1 within
  exact ⟨response, entries, answered, status, reported, held readable⟩

def nestedLists : Nat → Json
  | 0 => .list []
  | n + 1 => .list [nestedLists n]

theorem depth_nestedLists (n : Nat) : SubError.depth (nestedLists n) = n + 1 := by
  induction n with
  | zero => rfl
  | succ n ih => simp [nestedLists, SubError.depth, SubError.depthOfItems, ih]

theorem isPlain_nestedLists (n : Nat) : (nestedLists n).IsPlain := by
  induction n with
  | zero => exact .list [] nofun
  | succ n ih => exact .list [_] (List.forall_mem_singleton.mpr ih)

theorem unreported_of_beyondLimits {finding : Finding} {members : Members}
    (same : finding.IsToldBy members) (plain : finding.IsPlain)
    (beyond : ¬ Finding.IsWithinLimits members) : ¬ ReportsAll [finding] [members] := by
  have failed := response_of_beyondLimits (.cons same .nil) (List.forall_mem_singleton.mpr plain)
    fun within => beyond (within members (.head _))
  rintro ⟨response, entries, answered, -⟩
  cases failed.symm.trans answered

def longInteger : Int := 10 ^ Integer.digitLimit

theorem longInteger_unwritable : Json.isWritable (.integer longInteger) = false := by
  have size (k : Nat) : ((10 : Int) ^ k).natAbs = 10 ^ k := Int.natAbs_pow 10 k
  refine Bool.eq_false_iff.mpr fun writable => ?_
  exact (Integer.isWritable_iff.mp writable).ne (size Integer.digitLimit)

/-- No finding is reported whose place has an integer that is too long, or whose input is a list
nested too deep. -/
theorem findings_beyond_limits_unreported :
    (∃ (finding : Finding) (members : Members),
      finding = ⟨[Integer.decimal longInteger], [], .null⟩ ∧
      members = told [.integer longInteger] "" .null ∧
      finding.IsToldBy members ∧ finding.IsPlain ∧ ¬ ReportsAll [finding] [members]) ∧
    ∃ (finding : Finding) (members : Members),
      finding = ⟨[Text.lit "body"], [], nestedLists 259⟩ ∧
      members = told [.lit "body"] "" (nestedLists 259) ∧
      finding.IsToldBy members ∧ finding.IsPlain ∧ ¬ ReportsAll [finding] [members] := by
  have long : Finding.IsToldBy ⟨[Integer.decimal longInteger], [], .null⟩
      (told [.integer longInteger] "" .null) :=
    ⟨⟨[.integer longInteger], rfl, .cons (.integer _) .nil⟩, rfl, rfl⟩
  have deep : Finding.IsToldBy ⟨[Text.lit "body"], [], nestedLists 259⟩
      (told [.lit "body"] "" (nestedLists 259)) :=
    ⟨⟨[.lit "body"], rfl, .cons (.text _) .nil⟩, rfl, rfl⟩
  have plainPath : (Integer.decimal longInteger).hasSurrogate = false :=
    Text.hasSurrogate_of_isAscii (Integer.isAscii_decimal longInteger)
  have longPlain : Finding.IsPlain ⟨[Integer.decimal longInteger], [], .null⟩ :=
    ⟨List.forall_mem_singleton.mpr plainPath, rfl, .null⟩
  have deepPlain : Finding.IsPlain ⟨[Text.lit "body"], [], nestedLists 259⟩ :=
    ⟨by decide, rfl, isPlain_nestedLists 259⟩
  refine ⟨⟨_, _, rfl, rfl, long, longPlain, unreported_of_beyondLimits long longPlain ?_⟩,
    ⟨_, _, rfl, rfl, deep, deepPlain, unreported_of_beyondLimits deep deepPlain ?_⟩⟩
  · intro within
    have writable := within.path [.integer longInteger] rfl _ (.head _)
    cases longInteger_unwritable.symm.trans writable
  · intro within
    have flat : SubError.depth (nestedLists 259) ≤ 255 := within.depth
    rw [depth_nestedLists] at flat
    omega

end Validation

end Tollgate
