import SqlSchema.Log.Logger

/-!
# Work that may fail and leaves a log

`Logged ε α` is the outcome of some work, a value or an error, together with what it asks to be
logged. The log is kept also when the work fails.
-/

namespace SqlSchema

open Log

/-- An outcome with the log of the work that led to it. -/
structure Logged (ε α : Type) where
  outcome : Except ε α
  log : List Entry := []

namespace Logged

variable {ε δ α β : Type}

protected def pure (a : α) : Logged ε α :=
  ⟨.ok a, []⟩

def fail (e : ε) : Logged ε α :=
  ⟨.error e, []⟩

def ofExcept (outcome : Except ε α) : Logged ε α :=
  ⟨outcome, []⟩

/-- First `x`, then what follows from its value. After a failure nothing follows. -/
protected def bind (x : Logged ε α) (f : α → Logged ε β) : Logged ε β :=
  match x.outcome with
  | .ok a => ⟨(f a).outcome, x.log ++ (f a).log⟩
  | .error e => ⟨.error e, x.log⟩

instance : Monad (Logged ε) where
  pure := Logged.pure
  bind := Logged.bind

def note (level : Level) (component : Component) (text : String) : Logged ε Unit :=
  ⟨.ok (), [.note level component text]⟩

def within (level : Level) (component : Component) (name : String) (x : Logged ε α) :
    Logged ε α :=
  ⟨x.outcome, [.scope level component name x.log]⟩

/-- Gives a failure as an error of another kind. -/
def mapError (f : ε → δ) (x : Logged ε α) : Logged δ α :=
  ⟨x.outcome.mapError f, x.log⟩

/-- Logs a text about the error if the work failed. -/
def onError (x : Logged ε α) (level : Level) (component : Component) (text : ε → String) :
    Logged ε α :=
  match x.outcome with
  | .ok _ => x
  | .error e => ⟨x.outcome, x.log ++ [.note level component (text e)]⟩

theorem bind_eq (x : Logged ε α) (f : α → Logged ε β) : x >>= f = x.bind f := rfl

theorem bind_of_ok {x : Logged ε α} {a : α} (h : x.outcome = .ok a) (f : α → Logged ε β) :
    x >>= f = ⟨(f a).outcome, x.log ++ (f a).log⟩ := by
  simp only [bind_eq, Logged.bind, h]

theorem bind_of_error {x : Logged ε α} {e : ε} (h : x.outcome = .error e) (f : α → Logged ε β) :
    x >>= f = ⟨.error e, x.log⟩ := by
  simp only [bind_eq, Logged.bind, h]

instance : LawfulMonad (Logged ε) :=
  LawfulMonad.mk' (Logged ε)
    (fun x => by
      obtain ⟨outcome, log⟩ := x
      cases outcome <;> simp [Functor.map, Logged.bind, Logged.pure])
    (fun a f => by simp [bind_eq, Logged.bind, pure, Logged.pure])
    (fun x f g => by
      obtain ⟨outcome, log⟩ := x
      cases outcome with
      | error e => rfl
      | ok a =>
        simp only [bind_eq, Logged.bind]
        cases (f a).outcome <;> simp)

/-- Work is left as it is if its value is. -/
theorem map_eq_self {f : α → α} {x : Logged ε α} (h : ∀ a, x.outcome = .ok a → f a = a) :
    f <$> x = x := by
  obtain ⟨outcome, log⟩ := x
  cases outcome with
  | error e => rfl
  | ok a =>
    rw [← bind_pure_comp, bind_of_ok rfl]
    show (⟨.ok (f a), log ++ []⟩ : Logged ε α) = _
    rw [h a rfl, List.append_nil]

theorem mapError_map (g : ε → δ) (f : α → β) (x : Logged ε α) :
    (f <$> x).mapError g = f <$> x.mapError g := by
  obtain ⟨outcome, log⟩ := x
  cases outcome <;> rfl

/-! ## The outcome alone -/

@[simp] theorem outcome_pure (a : α) : (pure a : Logged ε α).outcome = .ok a := rfl

@[simp] theorem outcome_bind (x : Logged ε α) (f : α → Logged ε β) :
    (x >>= f).outcome = x.outcome >>= fun a => (f a).outcome := by
  change (x.bind f).outcome = _
  unfold Logged.bind
  cases x.outcome <;> rfl

theorem outcome_map (f : α → β) (x : Logged ε α) : (f <$> x).outcome = x.outcome.map f := by
  rw [← bind_pure_comp, outcome_bind]
  cases x.outcome <;> rfl

@[simp] theorem outcome_fail (e : ε) : (fail e : Logged ε α).outcome = .error e := rfl

@[simp] theorem outcome_ofExcept (r : Except ε α) : (ofExcept r).outcome = r := rfl

@[simp] theorem outcome_note (l : Level) (c : Component) (s : String) :
    (note l c s : Logged ε Unit).outcome = .ok () := rfl

@[simp] theorem outcome_within (l : Level) (c : Component) (s : String) (x : Logged ε α) :
    (x.within l c s).outcome = x.outcome := rfl

@[simp] theorem outcome_mapError (f : ε → δ) (x : Logged ε α) :
    (x.mapError f).outcome = x.outcome.mapError f := rfl

@[simp] theorem outcome_onError (x : Logged ε α) (l : Level) (c : Component) (f : ε → String) :
    (x.onError l c f).outcome = x.outcome := by
  unfold onError
  cases h : x.outcome <;> simp_all

end Logged

end SqlSchema
