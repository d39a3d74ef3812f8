import Tollgate.Proofs.Clock
import Tollgate.Proofs.Trace
import Tollgate.Webhook.Signature

namespace Tollgate

namespace Webhook

def headerItems (header : Text) : List (Text × Option Text) :=
  (Text.splitOn ',' header).map itemOf

/-- The first item of this name has this value. -/
def FirstValue (items : List (Text × Option Text)) (name : String) (value : Text) : Prop :=
  ∃ before after, items = before ++ (Text.lit name, some value) :: after ∧
    ∀ item ∈ before, item.1 ≠ Text.lit name

theorem firstValue_of_valuesOf {items : List (Text × Option Text)} {name : String}
    {values : List Text} {value : Text} (found : valuesOf name items = some values)
    (first : values.head? = some value) : FirstValue items name value := by
  have same := mapM_eq_some_iff.mp found
  have head := congrArg List.head? same
  rw [List.head?_map, List.head?_map, first, List.head?_filter] at head
  obtain ⟨⟨key, held⟩, here, rfl⟩ := Option.map_eq_some_iff.mp head
  obtain ⟨named, before, after, split, others⟩ := List.find?_eq_some_iff_append.mp here
  simp only [decide_eq_true_eq] at named
  rw [named] at split
  exact ⟨before, after, split, fun item member => by simpa using others item member⟩

theorem mem_of_valuesOf {items : List (Text × Option Text)} {name : String} {values : List Text}
    {value : Text} (found : valuesOf name items = some values) (member : value ∈ values) :
    (Text.lit name, some value) ∈ items := by
  have same := mapM_eq_some_iff.mp found
  have held : some value ∈ values.map some := List.mem_map_of_mem member
  rw [← same] at held
  obtain ⟨⟨key, _⟩, kept, rfl⟩ := List.mem_map.mp held
  obtain ⟨here, named⟩ := List.mem_filter.mp kept
  simp only [decide_eq_true_eq] at named
  rwa [named] at here

theorem parse?_eq_some_iff {header : Text} {parsed : SignatureHeader} :
    SignatureHeader.parse? header = some parsed ↔ ∃ timestamps value,
      valuesOf "t" (headerItems header) = some timestamps ∧ timestamps.head? = some value ∧
        Integer.parse? value = some parsed.timestamp ∧
        valuesOf "v1" (headerItems header) = some parsed.signatures := by
  obtain ⟨timestamp, signatures⟩ := parsed
  simp only [SignatureHeader.parse?, headerItems, Option.bind_eq_bind, Option.bind_eq_some_iff,
    Option.pure_def, Option.some.injEq, SignatureHeader.mk.injEq]
  constructor
  · rintro ⟨timestamps, found, value, first, _, read, _, all, rfl, rfl⟩
    exact ⟨timestamps, value, found, first, read, all⟩
  · rintro ⟨timestamps, value, found, first, read, all⟩
    exact ⟨timestamps, found, value, first, timestamp, read, signatures, all, rfl, rfl⟩

theorem mem_of_findSignature {expected : Text} {signatures : List Text}
    (found : findSignature expected signatures = .ok true) : expected ∈ signatures := by
  induction signatures with
  | nil => cases found
  | cons signature signatures ih =>
    unfold findSignature at found
    split at found
    · cases found
    · split at found
      · rename_i same
        exact List.mem_cons.mpr (.inl same.symm)
      · exact List.mem_cons_of_mem _ (ih found)

theorem isStale_eq_false {now : Clock} {tolerance : Option Int} {timestamp seconds : Int}
    (recent : isStale now tolerance timestamp = some false) (bounded : tolerance = some seconds)
    (nonzero : seconds ≠ 0) : now.time.Allows seconds timestamp := by
  subst bounded
  have before : now.time.isBefore? seconds timestamp = some false := by
    unfold isStale at recent
    split at recent
    · contradiction
    · rename_i zero
      exact absurd (Option.some.inj zero) nonzero
    · rename_i same
      rwa [Option.some.inj same]
  exact (Seconds.isBefore?_eq_some_iff.mp before).2.mp rfl

end Webhook

end Tollgate
