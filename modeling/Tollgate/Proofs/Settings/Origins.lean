import Tollgate.Proofs.Text.Split
import Tollgate.Proofs.Text.Trim
import Tollgate.Settings.Basic

namespace Tollgate

/-- What a list can hold: it is not empty and has no comma and no white space around it. -/
structure IsOrigin (origin : Text) : Prop where
  nonempty : origin ≠ []
  whole : CodePoint.ofChar ',' ∉ origin
  trimmed : origin.IsTrimmed

instance (origin : Text) : Decidable (IsOrigin origin) :=
  decidable_of_iff (origin ≠ [] ∧ CodePoint.ofChar ',' ∉ origin ∧ origin.IsTrimmed)
    ⟨fun ⟨nonempty, whole, trimmed⟩ => ⟨nonempty, whole, trimmed⟩,
      fun ⟨nonempty, whole, trimmed⟩ => ⟨nonempty, whole, trimmed⟩⟩

/-- Items and the origins among them, in their order. Every item is blank or is an origin with
white space around it or none. -/
inductive HoldOrigins : (items origins : List Text) → Prop where
  | nil : HoldOrigins [] []
  | blank {item : Text} {items origins : List Text} (nothing : item.IsBlank)
      (others : HoldOrigins items origins) : HoldOrigins (item :: items) origins
  | origin {before origin after : Text} {items origins : List Text} (left : before.IsBlank)
      (right : after.IsBlank) (isOrigin : IsOrigin origin) (others : HoldOrigins items origins) :
      HoldOrigins ((before ++ origin ++ after) :: items) (origin :: origins)

/-- The text is a row of items with commas between them that hold these origins. -/
def Text.ListsOrigins (s : Text) (origins : List Text) : Prop :=
  ∃ items, HoldOrigins items origins ∧ s = join (lit ",") items

section

variable {s item : Text} {items origins : List Text} {settings : Settings}

theorem Text.IsBlank.no_comma (blank : s.IsBlank) : CodePoint.ofChar ',' ∉ s := by
  intro member
  exact absurd (blank _ member) (by decide)

theorem HoldOrigins.no_comma (hold : HoldOrigins items origins) :
    ∀ item ∈ items, CodePoint.ofChar ',' ∉ item := by
  induction hold with
  | nil => exact fun item member => absurd member List.not_mem_nil
  | blank nothing others ih => exact List.forall_mem_cons.mpr ⟨nothing.no_comma, ih⟩
  | origin left right isOrigin others ih =>
    refine List.forall_mem_cons.mpr ⟨?_, ih⟩
    simp only [List.mem_append, not_or]
    exact ⟨⟨left.no_comma, isOrigin.whole⟩, right.no_comma⟩

theorem HoldOrigins.isOrigin (hold : HoldOrigins items origins) :
    ∀ origin ∈ origins, IsOrigin origin := by
  induction hold with
  | nil => exact fun origin member => absurd member List.not_mem_nil
  | blank nothing others ih => exact ih
  | origin left right isOrigin others ih => exact List.forall_mem_cons.mpr ⟨isOrigin, ih⟩

theorem HoldOrigins.filter_trim (hold : HoldOrigins items origins) :
    (items.map Text.trim).filter (fun origin => !origin.isEmpty) = origins := by
  induction hold with
  | nil => rfl
  | blank nothing others ih =>
    rw [List.map_cons, Text.trim_eq_nil_iff.mpr nothing]
    exact ih
  | @origin before origin after items origins left right isOrigin others ih =>
    have trimmed : Text.trim (before ++ origin ++ after) = origin :=
      (Text.trim_append_blank left right origin).trans (Text.trim_eq_self_iff.mpr isOrigin.trimmed)
    have kept : (!origin.isEmpty) = true := by simp [isOrigin.nonempty]
    rw [List.map_cons, trimmed, List.filter_cons, if_pos kept, ih]

theorem holdOrigins_filter_trim (whole : ∀ item ∈ items, CodePoint.ofChar ',' ∉ item) :
    HoldOrigins items ((items.map Text.trim).filter fun origin => !origin.isEmpty) := by
  induction items with
  | nil => exact .nil
  | cons item items ih =>
    obtain ⟨first, others⟩ := List.forall_mem_cons.mp whole
    obtain ⟨before, after, shape, left, right⟩ := Text.exists_padding item
    rw [List.map_cons]
    by_cases nothing : item.trim = []
    · rw [nothing]
      exact .blank (Text.trim_eq_nil_iff.mp nothing) (ih others)
    · have kept : (!item.trim.isEmpty) = true := by simp [nothing]
      have noComma : CodePoint.ofChar ',' ∉ item.trim := by
        rw [shape] at first
        intro member
        exact first (List.mem_append_left _ (List.mem_append_right _ member))
      have isOrigin : IsOrigin item.trim := ⟨nothing, noComma, Text.isTrimmed_trim item⟩
      have hold := HoldOrigins.origin left right isOrigin (ih others)
      rw [List.filter_cons, if_pos kept]
      rwa [← shape] at hold

theorem holdOrigins_self (all : ∀ origin ∈ origins, IsOrigin origin) :
    HoldOrigins origins origins := by
  induction origins with
  | nil => exact .nil
  | cons origin origins ih =>
    obtain ⟨first, others⟩ := List.forall_mem_cons.mp all
    have noBlank : Text.IsBlank [] := fun _ member => absurd member List.not_mem_nil
    have hold := HoldOrigins.origin noBlank noBlank first (ih others)
    rwa [List.nil_append, List.append_nil] at hold

namespace Settings

theorem listsOrigins_origins (settings : Settings) :
    settings.allowedOrigins.ListsOrigins settings.origins :=
  ⟨Text.splitOn ',' settings.allowedOrigins,
    holdOrigins_filter_trim fun _ member => Text.not_mem_of_mem_splitOn member,
    (Text.join_splitOn ',' settings.allowedOrigins).symm⟩

theorem origins_of_listsOrigins (lists : settings.allowedOrigins.ListsOrigins origins) :
    settings.origins = origins := by
  obtain ⟨items, hold, shape⟩ := lists
  unfold Settings.origins
  rw [shape]
  by_cases none : items = []
  · -- no items at all are the same text as one empty item
    subst none
    cases hold
    rfl
  · have split : Text.splitOn ',' (Text.join (Text.lit ",") items) = items :=
      Text.splitOn_join none hold.no_comma
    rw [split]
    exact hold.filter_trim

/-- The setting yields exactly the origins that it lists. Whatever its text is, these can stand in
a list, and the text that joins them by commas lists them again. -/
theorem origins_round_trip (settings : Settings) (origins : List Text) :
    (settings.origins = origins ↔ settings.allowedOrigins.ListsOrigins origins) ∧
      (∀ origin ∈ settings.origins, IsOrigin origin) ∧
      { settings with allowedOrigins := Text.join (Text.lit ",") settings.origins }.origins =
        settings.origins := by
  have lists := listsOrigins_origins settings
  have all : ∀ origin ∈ settings.origins, IsOrigin origin := by
    obtain ⟨items, hold, -⟩ := lists
    exact hold.isOrigin
  refine ⟨⟨?_, origins_of_listsOrigins⟩, all, ?_⟩
  · intro same
    rw [← same]
    exact lists
  · apply origins_of_listsOrigins
    exact ⟨settings.origins, holdOrigins_self all, rfl⟩

def untidySettings : Settings where
  jwtSecretKey := Text.lit "secret"
  jwtAlgorithm := Text.lit "HS256"
  jwtValidityMinutes := 60
  stripeWebhookSecret := Text.lit "whsec_test"
  stripeWebhookTolerance := 300
  allowedOrigins := Text.lit ",\t https://a.example ,\nhttps://b.example,,https://a.example , "
  maxBodyBytes := 1048576
  logLevel := Text.lit "INFO"

theorem untidySettings_origins :
    untidySettings.allowedOrigins.ListsOrigins
        [Text.lit "https://a.example", Text.lit "https://b.example", Text.lit "https://a.example"] ∧
      untidySettings.origins = [Text.lit "https://a.example", Text.lit "https://b.example",
        Text.lit "https://a.example"] := by
  have first : IsOrigin (Text.lit "https://a.example") := by decide +kernel
  have second : IsOrigin (Text.lit "https://b.example") := by decide +kernel
  have lists : untidySettings.allowedOrigins.ListsOrigins
      [Text.lit "https://a.example", Text.lit "https://b.example",
        Text.lit "https://a.example"] := by
    refine ⟨[Text.lit "", Text.lit "\t " ++ Text.lit "https://a.example" ++ Text.lit " ",
      Text.lit "\n" ++ Text.lit "https://b.example" ++ Text.lit "", Text.lit "",
      Text.lit "" ++ Text.lit "https://a.example" ++ Text.lit " ", Text.lit " "], ?_,
      by decide +kernel⟩
    apply HoldOrigins.blank (by decide)
    apply HoldOrigins.origin (by decide) (by decide) first
    apply HoldOrigins.origin (by decide) (by decide) second
    apply HoldOrigins.blank (by decide)
    apply HoldOrigins.origin (by decide) (by decide) first
    apply HoldOrigins.blank (by decide)
    exact .nil
  exact ⟨lists, (origins_round_trip untidySettings _).1.mpr lists⟩

end Settings

end

end Tollgate
