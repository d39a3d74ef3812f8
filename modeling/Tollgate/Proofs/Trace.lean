import Tollgate.Trace

namespace Tollgate

theorem bind_eq_ok {ε α β : Type} {x : Except ε α} {f : α → Except ε β} {b : β} :
    x >>= f = .ok b ↔ ∃ a, x = .ok a ∧ f a = .ok b := by
  cases x with
  | error e => exact ⟨fun h => (nomatch h), fun ⟨_, h, _⟩ => (nomatch h)⟩
  | ok a => exact ⟨fun h => ⟨a, rfl, h⟩, fun ⟨_, same, h⟩ => by cases same; exact h⟩

theorem unit_bind_eq_ok {ε β : Type} {x : Except ε Unit} {f : Unit → Except ε β} {b : β} :
    x >>= f = .ok b ↔ x = .ok () ∧ f () = .ok b :=
  bind_eq_ok.trans ⟨fun ⟨(), h⟩ => h, fun h => ⟨(), h⟩⟩

theorem throw_if_eq_ok {ε α β : Type} {condition : Bool} {e : ε} {f : α → Except ε β}
    {x : Except ε β} {b : β} :
    (if condition then throw e >>= f else x) = .ok b ↔ condition = false ∧ x = .ok b := by
  cases condition with
  | true => exact ⟨fun h => (nomatch h), fun h => (nomatch h.1)⟩
  | false => simp

@[simp] theorem mapError_ok {ε δ α : Type} {f : ε → δ} {a : α} :
    (Except.ok a : Except ε α).mapError f = .ok a :=
  rfl

@[simp] theorem mapError_error {ε δ α : Type} {f : ε → δ} {e : ε} :
    (Except.error e : Except ε α).mapError f = .error (f e) :=
  rfl

theorem mapError_eq_ok {ε δ α : Type} {x : Except ε α} {f : ε → δ} {a : α} :
    x.mapError f = .ok a ↔ x = .ok a := by
  cases x <;> simp

theorem mapError_eq_error {ε δ α : Type} {x : Except ε α} {f : ε → δ} {d : δ} :
    x.mapError f = .error d ↔ ∃ e, x = .error e ∧ f e = d := by
  cases x <;> simp

theorem mapM_eq_some_iff {α β : Type} {f : α → Option β} {s : List α} {t : List β} :
    s.mapM f = some t ↔ s.map f = t.map some := by
  induction s generalizing t with
  | nil => cases t <;> simp
  | cons a s ih =>
    simp only [List.mapM_cons, Option.bind_eq_bind, Option.bind_eq_some_iff, Option.pure_def,
      Option.some.injEq]
    constructor
    · rintro ⟨b, first, t, rest, rfl⟩
      rw [List.map_cons, List.map_cons, first, ih.mp rest]
    · intro same
      cases t with
      | nil => cases same
      | cons b t =>
        obtain ⟨first, rest⟩ := List.cons.inj same
        exact ⟨b, first, t, ih.mpr rest, rfl⟩

theorem eq_ok_of_toOption {ε α : Type} {x : Except ε α} {a : α} (h : x.toOption = some a) :
    x = .ok a := by
  cases x with
  | error e => cases h
  | ok b => exact congrArg Except.ok (Option.some.inj h)

namespace Event

def IsLogged : Event → Prop
  | logged _ => True
  | _ => False

def IsRouted : Event → Prop
  | logged _ | billed _ => True
  | _ => False

def IsScreened : Event → Prop
  | logged _ | revocationChecked _ => True
  | _ => False

theorem IsLogged.isRouted ⦃event : Event⦄ (logged : event.IsLogged) : event.IsRouted := by
  cases event with
  | logged => trivial
  | _ => cases logged

theorem IsLogged.isScreened ⦃event : Event⦄ (logged : event.IsLogged) : event.IsScreened := by
  cases event with
  | logged => trivial
  | _ => cases logged

theorem IsRouted.not_checked ⦃event : Event⦄ (routed : event.IsRouted) :
    event.revocationChecked? = none := by
  cases event with
  | logged | billed => rfl
  | _ => cases routed

theorem IsScreened.not_billed ⦃event : Event⦄ (screened : event.IsScreened) :
    event.billed? = none := by
  cases event with
  | logged | revocationChecked => rfl
  | _ => cases screened

end Event

namespace Traced

variable {α β : Type}

@[simp] theorem pure_events (a : α) : (pure a : Traced α).events = [] := rfl

@[simp] theorem pure_outcome (a : α) : (pure a : Traced α).outcome = .ok a := rfl

@[simp] theorem fail_eq (fault : Fault) : (fail fault : Traced α) = ⟨[], .error fault⟩ := rfl

@[simp] theorem crash_eq (c : Crash) : (crash c : Traced α) = ⟨[], .error (.crash c)⟩ := rfl

@[simp] theorem reject_eq (code : ApiCode) :
    (reject code : Traced α) = ⟨[], .error (.api code none)⟩ := rfl

@[simp] theorem rejectFor_eq (code : ApiCode) (cause : Cause) :
    (rejectFor code cause : Traced α) = ⟨[], .error (.api code (some cause))⟩ := rfl

@[simp] theorem emit_eq (event : Event) : emit event = ⟨[event], .ok ()⟩ := rfl

@[simp] theorem log_eq (level : LogLevel) (source : LogSource) (message : Text) :
    log level source message = ⟨[.logged ⟨level, source, message⟩], .ok ()⟩ := rfl

@[simp] theorem ofExcept_eq (x : Except Fault α) : ofExcept x = ⟨[], x⟩ := rfl

@[simp] theorem ofCrash_eq (x : Except Crash α) : ofCrash x = ⟨[], x.mapError .crash⟩ := rfl

theorem bind_of_ok {x : Traced α} {a : α} (h : x.outcome = .ok a) (f : α → Traced β) :
    x >>= f = ⟨x.events ++ (f a).events, (f a).outcome⟩ := by
  change Traced.bind x f = _
  simp only [Traced.bind, h]

theorem bind_of_error {x : Traced α} {fault : Fault} (h : x.outcome = .error fault)
    (f : α → Traced β) : x >>= f = ⟨x.events, .error fault⟩ := by
  change Traced.bind x f = _
  simp only [Traced.bind, h]

@[simp] theorem ok_bind (events : List Event) (a : α) (f : α → Traced β) :
    (⟨events, .ok a⟩ : Traced α) >>= f = ⟨events ++ (f a).events, (f a).outcome⟩ := rfl

@[simp] theorem error_bind (events : List Event) (fault : Fault) (f : α → Traced β) :
    (⟨events, .error fault⟩ : Traced α) >>= f = ⟨events, .error fault⟩ := rfl

@[simp] theorem pure_bind (a : α) (f : α → Traced β) : pure a >>= f = f a := rfl

theorem bind_pure_eq (x : Traced α) (f : α → β) :
    (x >>= fun a => pure (f a)) = ⟨x.events, x.outcome.map f⟩ := by
  cases h : x.outcome with
  | error fault => rw [bind_of_error h]; rfl
  | ok a => rw [bind_of_ok h, pure_events, List.append_nil]; rfl

theorem bind_outcome_ok_iff {x : Traced α} {f : α → Traced β} {b : β} :
    (x >>= f).outcome = .ok b ↔ ∃ a, x.outcome = .ok a ∧ (f a).outcome = .ok b := by
  cases h : x.outcome with
  | error fault => simp [bind_of_error h]
  | ok a => simp [bind_of_ok h]

theorem bind_outcome_error_iff {x : Traced α} {f : α → Traced β} {fault : Fault} :
    (x >>= f).outcome = .error fault ↔
      x.outcome = .error fault ∨ ∃ a, x.outcome = .ok a ∧ (f a).outcome = .error fault := by
  cases h : x.outcome with
  | error other => simp [bind_of_error h]
  | ok a => simp [bind_of_ok h]

theorem bind_calls_of_ok {x : Traced α} {a : α} (h : x.outcome = .ok a) (f : α → Traced β) :
    (x >>= f).calls = x.calls ++ (f a).calls := by
  rw [bind_of_ok h]
  exact List.filterMap_append

theorem bind_calls_of_error {x : Traced α} {fault : Fault} (h : x.outcome = .error fault)
    (f : α → Traced β) : (x >>= f).calls = x.calls := by
  rw [bind_of_error h]
  rfl

def Leaves (x : Traced α) (property : Event → Prop) : Prop := ∀ event ∈ x.events, property event

section

variable {γ : Type} {x : Traced α} {f : α → Traced β} {onFault : Fault → Traced α}
  {property target : Event → Prop} {look : Event → Option γ}

theorem leaves_of_nil (silent : x.events = []) : x.Leaves property := by
  intro event member
  rw [silent] at member
  cases member

theorem leaves_log (level : LogLevel) (source : LogSource) (message : Text)
    (logged : ∀ record, property (.logged record)) :
    (log level source message).Leaves property := by
  intro event member
  cases List.mem_singleton.mp member
  exact logged _

theorem Leaves.mono (leaves : x.Leaves property)
    (weaker : ∀ ⦃event⦄, property event → target event) : x.Leaves target :=
  fun event member => weaker (leaves event member)

theorem exists_bind_events (x : Traced α) (rest : ∀ a, (f a).Leaves property) :
    ∃ after : List Event, (∀ event ∈ after, property event) ∧
      (x >>= f).events = x.events ++ after := by
  cases outcome : x.outcome with
  | error fault => exact ⟨[], nofun, by rw [bind_of_error outcome, List.append_nil]⟩
  | ok a => exact ⟨(f a).events, rest a, by rw [bind_of_ok outcome]⟩

theorem exists_handle_events (x : Traced α) (rest : ∀ fault, (onFault fault).Leaves property) :
    ∃ after : List Event, (∀ event ∈ after, property event) ∧
      (x.handle onFault).events = x.events ++ after := by
  unfold Traced.handle
  split
  · exact ⟨[], nofun, (List.append_nil _).symm⟩
  · rename_i fault _
    exact ⟨(onFault fault).events, rest fault, rfl⟩

theorem Leaves.bind (first : x.Leaves property) (rest : ∀ a, (f a).Leaves property) :
    (x >>= f).Leaves property := by
  obtain ⟨after, rest, events⟩ := exists_bind_events x rest
  unfold Leaves
  rw [events]
  exact List.forall_mem_append.mpr ⟨first, rest⟩

theorem Leaves.handle (first : x.Leaves property)
    (rest : ∀ fault, (onFault fault).Leaves property) : (x.handle onFault).Leaves property := by
  obtain ⟨after, rest, events⟩ := exists_handle_events x rest
  unfold Leaves
  rw [events]
  exact List.forall_mem_append.mpr ⟨first, rest⟩

theorem Leaves.filterMap_eq_nil (leaves : x.Leaves (look · = none)) :
    x.events.filterMap look = [] :=
  List.filterMap_eq_nil_iff.mpr leaves

theorem filterMap_bind (rest : ∀ a, (f a).Leaves (look · = none)) :
    (x >>= f).events.filterMap look = x.events.filterMap look := by
  obtain ⟨after, unseen, events⟩ := exists_bind_events x rest
  rw [events, List.filterMap_append, List.filterMap_eq_nil_iff.mpr unseen, List.append_nil]

theorem filterMap_handle (rest : ∀ fault, (onFault fault).Leaves (look · = none)) :
    (x.handle onFault).events.filterMap look = x.events.filterMap look := by
  obtain ⟨after, unseen, events⟩ := exists_handle_events x rest
  rw [events, List.filterMap_append, List.filterMap_eq_nil_iff.mpr unseen, List.append_nil]

end

def Returns (x : Traced α) (property : α → Prop) : Prop := ∀ a, x.outcome = .ok a → property a

section

variable {x : Traced α} {f : α → Traced β} {property : α → Prop} {target : β → Prop}

theorem Returns.bind (first : x.Returns property) (rest : ∀ a, property a → (f a).Returns target) :
    (x >>= f).Returns target := by
  intro b returned
  obtain ⟨a, before, after⟩ := bind_outcome_ok_iff.mp returned
  exact rest a (first a before) b after

theorem Returns.handle {onFault : Fault → Traced α} (first : x.Returns property)
    (rescue : ∀ fault, (onFault fault).Returns property) : (x.handle onFault).Returns property := by
  unfold Traced.handle
  split
  · exact first
  · rename_i fault _
    exact rescue fault

end

end Traced

end Tollgate
