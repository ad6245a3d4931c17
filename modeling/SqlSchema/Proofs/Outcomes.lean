import SqlSchema.Log.Logged

/-!
# Outcomes of combined work

What it takes for combined work to succeed or to fail, with nothing about the log.
-/

namespace SqlSchema

variable {ε δ α β γ : Type}

theorem bind_eq_ok_iff {x : Except ε α} {f : α → Except ε β} {b : β} :
    x >>= f = .ok b ↔ ∃ a, x = .ok a ∧ f a = .ok b := by
  cases x with
  | error e => exact ⟨fun h => (nomatch h), fun ⟨_, h, _⟩ => (nomatch h)⟩
  | ok a => exact ⟨fun h => ⟨a, rfl, h⟩, fun ⟨_, h, hb⟩ => Except.ok.inj h ▸ hb⟩

theorem map_eq_ok_iff {x : Except ε α} {f : α → β} {b : β} :
    x.map f = .ok b ↔ ∃ a, x = .ok a ∧ f a = b := by
  cases x <;> simp [Except.map]

theorem mapError_eq_ok_iff {x : Except ε α} {f : ε → δ} {a : α} :
    x.mapError f = .ok a ↔ x = .ok a := by
  cases x with
  | error e => exact ⟨fun h => (nomatch h), fun h => (nomatch h)⟩
  | ok b =>
    constructor <;> intro h <;> rw [Except.ok.inj h]
    rfl

theorem bind_eq_error_iff {x : Except ε α} {f : α → Except ε β} {e : ε} :
    x >>= f = .error e ↔ x = .error e ∨ ∃ a, x = .ok a ∧ f a = .error e := by
  cases x with
  | error d =>
    constructor
    · intro h
      exact Or.inl (congrArg Except.error (Except.error.inj h))
    · rintro (h | ⟨a, ha, -⟩)
      · exact congrArg Except.error (Except.error.inj h)
      · cases ha
  | ok a =>
    constructor
    · intro h
      exact Or.inr ⟨a, rfl, h⟩
    · rintro (h | ⟨b, hb, he⟩)
      · cases h
      · rw [Except.ok.inj hb]
        exact he

theorem map_eq_error_iff {x : Except ε α} {f : α → β} {e : ε} :
    x.map f = .error e ↔ x = .error e := by
  cases x <;> simp [Except.map]

theorem mapError_eq_error_iff {x : Except ε α} {f : ε → δ} {d : δ} :
    x.mapError f = .error d ↔ ∃ e, x = .error e ∧ f e = d := by
  cases x with
  | error e =>
    constructor
    · intro h
      exact ⟨e, rfl, Except.error.inj h⟩
    · rintro ⟨e', he, rfl⟩
      rw [Except.error.inj he]
      rfl
  | ok a => exact ⟨fun h => (nomatch h), fun ⟨_, h, _⟩ => (nomatch h)⟩

/-- If each step goes alike in two views of the states, then so does a run over a list. -/
theorem map_foldlM {f : β → γ} {g : β → α → Logged ε β} {h : γ → α → Logged ε γ}
    (hstep : ∀ b a, f <$> g b a = h (f b) a) (l : List α) (b : β) :
    f <$> l.foldlM g b = l.foldlM h (f b) := by
  induction l generalizing b with
  | nil => rfl
  | cons a l ih =>
    rw [List.foldlM_cons, List.foldlM_cons, map_bind, ← hstep, bind_map_left]
    simp only [ih]

/-- A run over a list fails at one of its elements, after a run over all before it that succeeds. -/
theorem foldlM_eq_error_iff {f : β → α → Logged ε β} {l : List α} {b : β} {e : ε} :
    (l.foldlM f b).outcome = .error e ↔ ∃ before a after c, l = before ++ a :: after ∧
      (before.foldlM f b).outcome = .ok c ∧ (f c a).outcome = .error e := by
  induction l generalizing b with
  | nil =>
    constructor
    · intro h
      cases h
    · rintro ⟨before, a, after, c, hl, -, -⟩
      exact absurd hl.symm (List.append_ne_nil_of_right_ne_nil before (List.cons_ne_nil a after))
  | cons x l ih =>
    rw [List.foldlM_cons, Logged.outcome_bind, bind_eq_error_iff]
    constructor
    · rintro (h | ⟨c, hc, h⟩)
      · exact ⟨[], x, l, b, rfl, rfl, h⟩
      · obtain ⟨before, a, after, d, rfl, hb, ha⟩ := ih.1 h
        refine ⟨x :: before, a, after, d, rfl, ?_, ha⟩
        rw [List.foldlM_cons, Logged.outcome_bind, hc]
        exact hb
    · rintro ⟨before, a, after, d, hl, hb, ha⟩
      cases before with
      | nil =>
        obtain ⟨rfl, -⟩ := List.cons.inj hl
        rw [← Except.ok.inj hb] at ha
        exact Or.inl ha
      | cons y before =>
        obtain ⟨rfl, rfl⟩ := List.cons.inj hl
        rw [List.foldlM_cons, Logged.outcome_bind, bind_eq_ok_iff] at hb
        obtain ⟨c, hc, hb⟩ := hb
        exact Or.inr ⟨c, hc, ih.2 ⟨before, a, after, d, rfl, hb, ha⟩⟩

theorem check_bind_eq_ok_iff {x y : Logged ε Unit} :
    (x >>= fun _ => y).outcome = .ok () ↔ x.outcome = .ok () ∧ y.outcome = .ok () := by
  rw [Logged.outcome_bind, bind_eq_ok_iff]
  exact ⟨fun ⟨_, hx, hy⟩ => ⟨hx, hy⟩, fun ⟨hx, hy⟩ => ⟨(), hx, hy⟩⟩

theorem check_bind_eq_error_iff {x y : Logged ε Unit} {e : ε} :
    (x >>= fun _ => y).outcome = .error e ↔
      x.outcome = .error e ∨ x.outcome = .ok () ∧ y.outcome = .error e := by
  rw [Logged.outcome_bind, bind_eq_error_iff]
  exact or_congr_right ⟨fun ⟨_, hx, hy⟩ => ⟨hx, hy⟩, fun ⟨hx, hy⟩ => ⟨(), hx, hy⟩⟩

end SqlSchema
