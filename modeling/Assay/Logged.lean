import Assay.Failure

/-!
# Logged results

A computation gives a value and the log entries it has written, in order.
-/

namespace Assay

/-- How important a log entry is. -/
inductive LogLevel where
  | debug
  | info
  | warning
  | error
  deriving DecidableEq, Repr, Inhabited

namespace LogLevel

/-- The word for a level. -/
def word : LogLevel → String
  | debug => "DEBUG"
  | info => "INFO"
  | warning => "WARNING"
  | error => "ERROR"

/-- Whether a level is shown even if not everything is. -/
def isAlarming : LogLevel → Bool
  | warning | error => true
  | _ => false

end LogLevel

/-- A log entry, perhaps with a failure attached. -/
structure LogEntry where
  level : LogLevel
  text : String
  failure : Option Failure := none
  deriving DecidableEq, Repr, Inhabited

/-- A value with the log entries that were written on the way to it. -/
structure Logged (α : Type) where
  value : α
  log : List LogEntry := []

namespace Logged

variable {α β : Type}

instance : Monad Logged where
  pure a := { value := a }
  bind x f :=
    let y := f x.value
    { value := y.value, log := x.log ++ y.log }

/-- Write a log entry. -/
def note (level : LogLevel) (text : String) (failure : Option Failure := none) : Logged Unit :=
  { value := (), log := [{ level, text, failure }] }

@[simp] theorem value_pure (a : α) : (pure a : Logged α).value = a := rfl

@[simp] theorem log_pure (a : α) : (pure a : Logged α).log = [] := rfl

@[simp] theorem value_bind (x : Logged α) (f : α → Logged β) :
    (x >>= f).value = (f x.value).value := rfl

@[simp] theorem log_bind (x : Logged α) (f : α → Logged β) :
    (x >>= f).log = x.log ++ (f x.value).log := rfl

theorem lawfulMonad : LawfulMonad Logged := LawfulMonad.mk' Logged
  (fun x => by simp [Functor.map])
  (fun a f => by simp [bind, pure])
  (fun x f g => by simp [bind, List.append_assoc])

end Logged

/-- A computation that writes a log and can fail; what was logged before a failure stays. -/
abbrev Attempt := ExceptT Failure Logged

namespace Attempt

/-- Write a log entry. -/
def note (level : LogLevel) (text : String) (failure : Option Failure := none) : Attempt Unit :=
  ExceptT.lift (Logged.note level text failure)

/-- A computation that cannot fail. -/
def ofLogged {α : Type} (x : Logged α) : Attempt α := ExceptT.lift x

/-- A computation that writes no log. -/
def ofExcept {α : Type} (x : Except Failure α) : Attempt α := ExceptT.mk (pure x)

variable {α β : Type}

/-- What a computation ends with. -/
def outcome (x : Attempt α) : Except Failure α := (ExceptT.run x).value

/-- What a computation has logged. -/
def log (x : Attempt α) : List LogEntry := (ExceptT.run x).log

theorem ext {x y : Attempt α} (houtcome : outcome x = outcome y) (hlog : log x = log y) :
    x = y := by
  cases x
  cases y
  cases houtcome
  cases hlog
  rfl

@[simp] theorem outcome_pure (a : α) : outcome (pure a : Attempt α) = .ok a := rfl

@[simp] theorem log_pure (a : α) : log (pure a : Attempt α) = [] := rfl

@[simp] theorem outcome_throw (f : Failure) : outcome (throw f : Attempt α) = .error f := rfl

@[simp] theorem log_throw (f : Failure) : log (throw f : Attempt α) = [] := rfl

@[simp] theorem outcome_note (level : LogLevel) (text : String) (failure : Option Failure) :
    outcome (note level text failure) = .ok () := rfl

@[simp] theorem log_note (level : LogLevel) (text : String) (failure : Option Failure) :
    log (note level text failure) = [{ level, text, failure }] := rfl

@[simp] theorem outcome_ofLogged (x : Logged α) : outcome (ofLogged x) = .ok x.value := rfl

@[simp] theorem log_ofLogged (x : Logged α) : log (ofLogged x) = x.log := by
  simp [log, ofLogged, ExceptT.lift, ExceptT.run, ExceptT.mk, Functor.map]

@[simp] theorem outcome_ofExcept (x : Except Failure α) : outcome (ofExcept x) = x := rfl

@[simp] theorem log_ofExcept (x : Except Failure α) : log (ofExcept x) = [] := rfl

@[simp] theorem ok_bind (a : α) (f : α → Except Failure β) : (Except.ok a >>= f) = f a := rfl

@[simp] theorem error_bind (e : Failure) (f : α → Except Failure β) :
    (Except.error e >>= f) = .error e := rfl

theorem of_bind_eq_ok {ε : Type} {x : Except ε α} {f : α → Except ε β} {b : β}
    (h : (x >>= f) = .ok b) : ∃ a, x = .ok a ∧ f a = .ok b := by
  cases x with
  | error e => cases h
  | ok a => exact ⟨a, rfl, h⟩

theorem of_bind_eq_error {ε : Type} {x : Except ε α} {f : α → Except ε β} {e : ε}
    (h : (x >>= f) = .error e) : x = .error e ∨ ∃ a, x = .ok a ∧ f a = .error e := by
  cases x with
  | error other => exact .inl (congrArg _ (Except.error.inj h))
  | ok a => exact .inr ⟨a, rfl, h⟩

theorem of_map_eq_ok {x : Except Failure α} {g : α → β} {b : β} (h : x.map g = .ok b) :
    ∃ a, x = .ok a ∧ g a = b := by
  cases x with
  | error e => cases h
  | ok a => exact ⟨a, rfl, Except.ok.inj h⟩

theorem of_map_eq_error {x : Except Failure α} {g : α → β} {e : Failure}
    (h : x.map g = .error e) : x = .error e := by
  cases x with
  | error other => exact congrArg _ (Except.error.inj h)
  | ok a => cases h

theorem exists_map_eq_ok_iff {x : Except Failure α} {g : α → β} :
    (∃ b, x.map g = .ok b) ↔ ∃ a, x = .ok a := by
  constructor
  · rintro ⟨b, hb⟩
    obtain ⟨a, ha, -⟩ := of_map_eq_ok hb
    exact ⟨a, ha⟩
  · rintro ⟨a, rfl⟩
    exact ⟨g a, rfl⟩

theorem exists_bind_eq_ok_iff {x : Except Failure α} {f : α → Except Failure β} :
    (∃ b, (x >>= f) = .ok b) ↔ ∃ a, x = .ok a ∧ ∃ b, f a = .ok b := by
  constructor
  · rintro ⟨b, hb⟩
    obtain ⟨a, ha, hb⟩ := of_bind_eq_ok hb
    exact ⟨a, ha, b, hb⟩
  · rintro ⟨a, rfl, hb⟩
    exact hb

theorem exists_pure_eq_ok (a : α) : ∃ b, (pure a : Except Failure α) = .ok b := ⟨a, rfl⟩

theorem mapM_ok_iff {f : α → Except Failure β} {xs : List α} :
    (∃ ys, xs.mapM f = .ok ys) ↔ ∀ x ∈ xs, ∃ y, f x = .ok y := by
  induction xs with
  | nil => exact ⟨fun _ x hx => absurd hx List.not_mem_nil, fun _ => ⟨[], rfl⟩⟩
  | cons x xs ih =>
      rw [List.mapM_cons, List.forall_mem_cons, ← ih]
      simp only [exists_bind_eq_ok_iff, exists_pure_eq_ok, and_true, exists_and_right]

theorem mem_iff_of_mapM_eq_ok {f : α → Except Failure β} {xs : List α} {ys : List β}
    (h : xs.mapM f = .ok ys) (y : β) : y ∈ ys ↔ ∃ x ∈ xs, f x = .ok y := by
  induction xs generalizing ys with
  | nil =>
      cases h
      simp
  | cons x xs ih =>
      rw [List.mapM_cons] at h
      obtain ⟨z, hz, h⟩ := of_bind_eq_ok h
      obtain ⟨zs, hzs, h⟩ := of_bind_eq_ok h
      cases h
      have hhead : f x = .ok y ↔ y = z := by
        rw [hz, Except.ok.injEq]
        exact eq_comm
      simp only [List.mem_cons, ih hzs, exists_eq_or_imp, hhead]

/-- What a computation fails with, if it does. -/
def failure? : Except Failure α → Option Failure
  | .error f => some f
  | .ok _ => none

theorem failure?_eq_some_iff {x : Except Failure α} {f : Failure} :
    failure? x = some f ↔ x = .error f := by
  cases x <;> simp [failure?]

/-- A computation goes on only if it has not failed. -/
@[simp] theorem outcome_bind (x : Attempt α) (f : α → Attempt β) :
    outcome (x >>= f) = outcome x >>= fun a => outcome (f a) := by
  cases x with
  | mk value log => cases value <;> rfl

/-- What was logged before a failure stays, and nothing is logged behind it. -/
theorem log_bind (x : Attempt α) (f : α → Attempt β) :
    log (x >>= f) = log x ++ match outcome x with
      | .ok a => log (f a)
      | .error _ => [] := by
  cases x with
  | mk value log => cases value <;> rfl

theorem ofLogged_pure (a : α) : ofLogged (pure a) = pure a := rfl

theorem ofLogged_bind (x : Logged α) (f : α → Logged β) :
    ofLogged (x >>= f) = ofLogged x >>= fun a => ofLogged (f a) := by
  apply ext
  · simp
  · simp [log_bind]

end Attempt

end Assay
