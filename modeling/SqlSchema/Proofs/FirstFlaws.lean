import SqlSchema.Proofs.Faults
import SqlSchema.Proofs.FlawReading

/-!
# Failing at the first flaw

A reader that fails only with flaws fails exactly at the first one (`error_iff_of_breaksWith`). No
flaw ends before the token at which it fails, since a run that gets to the last token of a flaw
fails there (`EndsFlawed.exists_error`): whatever was read before, an identifier and an opening
bracket can only start a type, so the tokens of the flaw are read as the type or the struct that
they are.
-/

namespace SqlSchema.Syntax

open Log

/-! ## Runs -/

section

variable {σ : Type} {step : σ → Token → Nat → Logged ParseError σ}
  {run : σ → Tokens → Logged ParseError σ}

theorem Runs.outcome_append (h : Runs step run) (p : σ) (ts us : Tokens) :
    (run p (ts ++ us)).outcome = (run p ts).outcome >>= fun q => (run q us).outcome := by
  induction ts generalizing p with
  | nil =>
    rw [h.nil]
    rfl
  | cons k ts ih =>
    rw [List.cons_append, h.cons, h.cons, Logged.outcome_bind, Logged.outcome_bind, bind_assoc]
    exact bind_congr fun q => ih q

theorem Runs.outcome_concat (h : Runs step run) (p : σ) (ts : Tokens) (k : Located Token) :
    (run p (ts ++ [k])).outcome =
      (run p ts).outcome >>= fun q => (step q k.item k.offset).outcome := by
  rw [h.outcome_append]
  refine bind_congr fun q => ?_
  rw [h.cons, Logged.outcome_bind]
  refine (bind_congr fun r => ?_).trans (bind_pure _)
  rw [h.nil]
  rfl

theorem Runs.readsTo_iff (h : Runs step run) {p q : σ} {ts : Tokens} :
    ReadsTo (fun p us => (run p us).outcome) p ts q ↔ (run p ts).outcome = .ok q := by
  constructor
  · intro hread
    have hend := hread []
    simp only [List.append_nil, h.nil] at hend
    exact hend
  · intro hrun rest
    show (run p (ts ++ rest)).outcome = _
    rw [h.outcome_append, hrun]
    rfl

end

/-! ## Flaws in a run -/

/-- Where an identifier and an opening bracket are read, a type starts, and its tokens are read by a
reader of types. -/
def StartsTypes {σ : Type} (step : σ → Token → Nat → Logged ParseError σ)
    (run : σ → Tokens → Logged ParseError σ) : Prop :=
  ∀ (p p' q : σ) (w : String) (k : Token) (o o₁ : Nat), k = .lparen ∨ k = .lt →
    (step p (.ident w) o).outcome = .ok p' → (step p' k o₁).outcome = .ok q →
    ∃ (place : TypeReader → σ) (outer : List Frame), p = place (.start outer) ∧
      StepsThrough fun r ts => (run (place r) ts).outcome

/-- A flaw starts with an identifier and an opening bracket. -/
theorem IsFlaw.exists_opening {ts : Tokens} {flaw : Flaw} (h : IsFlaw ts flaw) :
    ∃ w o k o₁ us j, ts = ⟨.ident w, o⟩ :: ⟨k, o₁⟩ :: (us ++ [j]) ∧ (k = .lparen ∨ k = .lt) := by
  cases h with
  | bounds hx =>
    cases hx with
    | decimal hw => exact ⟨_, _, _, _, [_, _, _], _, rfl, Or.inl rfl⟩
  | @repeated w o o₁ o₂ us ts fs k name x hw hb hk hx hn =>
    obtain ⟨init, j, rfl⟩ := hx.exists_concat
    exact ⟨w, o, _, o₁, us ++ ⟨k, o₂⟩ :: init, j, by simp, Or.inr rfl⟩

section

variable {σ : Type} {step : σ → Token → Nat → Logged ParseError σ}
  {run : σ → Tokens → Logged ParseError σ} {start : σ}

/-- A run that gets to the last token of a flaw fails there: with what the flaw tells, or with a
fault that starts behind its start. -/
theorem EndsFlawed.exists_error (hruns : Runs step run) (hstarts : StartsTypes step run)
    {init : Tokens} {k : Located Token} {flaw : Flaw} {q : σ}
    (hf : EndsFlawed (init ++ [k]) flaw)
    (ho : (init ++ [k]).Pairwise fun j k => j.offset < k.offset)
    (hq : (run start init).outcome = .ok q) :
    ∃ e, (step q k.item k.offset).outcome = .error e ∧
      (flaw.Reports e ∨ ∀ c o, e = .invalid c o → flaw.offset < o) := by
  obtain ⟨span, ⟨before, hspan⟩, hf⟩ := hf
  obtain ⟨w, o, b, o₁, us, j, rfl, hb⟩ := hf.exists_opening
  have hsplit : before ++ ⟨.ident w, o⟩ :: ⟨b, o₁⟩ :: us ++ [j] = init ++ [k] := by
    rw [← hspan]
    simp
  obtain ⟨rfl, hj⟩ := List.append_inj' hsplit rfl
  obtain rfl := (List.cons.inj hj).1
  rw [List.append_assoc] at ho
  have hsorted := (List.pairwise_append.1 ho).2.1
  -- Whatever was read before the flaw, a type starts there.
  rw [hruns.outcome_append] at hq
  obtain ⟨p, -, hq⟩ := bind_eq_ok_iff.1 hq
  have hopens := hq
  rw [hruns.cons, Logged.outcome_bind] at hopens
  obtain ⟨p₁, hp₁, hopens⟩ := bind_eq_ok_iff.1 hopens
  rw [hruns.cons, Logged.outcome_bind] at hopens
  obtain ⟨p₂, hp₂, -⟩ := bind_eq_ok_iff.1 hopens
  obtain ⟨place, outer, rfl, hst⟩ := hstarts p p₁ p₂ w b o o₁ hb hp₁ hp₂
  obtain ⟨e, he, hflaw⟩ := IsFlaw.exists_error hst hf hsorted hq
  rw [hruns.outcome_concat, hq] at he
  exact ⟨e, he, hflaw⟩

theorem not_flawed_of_run_eq_ok (hruns : Runs step run) (hstarts : StartsTypes step run)
    {ts : Tokens} {q : σ} (ho : ts.Pairwise fun j k => j.offset < k.offset)
    (hq : (run start ts).outcome = .ok q) : ¬ Flawed ts := by
  rintro ⟨us, flaw, ⟨after, rfl⟩, hf⟩
  obtain ⟨init, k, rfl⟩ := hf.exists_concat
  rw [hruns.outcome_append, hruns.outcome_concat, bind_assoc] at hq
  obtain ⟨p, hp, hq⟩ := bind_eq_ok_iff.1 hq
  obtain ⟨r, hr, -⟩ := bind_eq_ok_iff.1 hq
  obtain ⟨e, he, -⟩ := hf.exists_error hruns hstarts (List.pairwise_append.1 ho).1 hp
  rw [hr] at he
  cases he

theorem length_lt_of_endsFlawed (hruns : Runs step run) (hstarts : StartsTypes step run)
    {init after us : Tokens} {flaw : Flaw} {q : σ}
    (ho : init.Pairwise fun j k => j.offset < k.offset) (hq : (run start init).outcome = .ok q)
    (hus : us <+: init ++ after) (hf : EndsFlawed us flaw) : init.length < us.length := by
  refine Nat.lt_of_not_le fun hle => ?_
  have hinit : us <+: init :=
    List.prefix_of_prefix_length_le hus (List.prefix_append init after) hle
  exact not_flawed_of_run_eq_ok hruns hstarts ho hq ⟨us, flaw, hinit, hf⟩

/-- If a run fails at the end of a flaw that its error tells about, then the first flaws of the
tokens are those that end there and that the error tells about. -/
theorem firstFlaw_iff_of_step (hruns : Runs step run) (hstarts : StartsTypes step run)
    {init after : Tokens} {k : Located Token} {flaw : Flaw} {q : σ} {e : ParseError}
    (ho : (init ++ k :: after).Pairwise fun j k => j.offset < k.offset)
    (hq : (run start init).outcome = .ok q) (hk : (step q k.item k.offset).outcome = .error e)
    (hf : EndsFlawed (init ++ [k]) flaw) (hr : flaw.Reports e) (other : Flaw) :
    FirstFlaw (init ++ k :: after) other ↔ EndsFlawed (init ++ [k]) other ∧ other.Reports e := by
  have hall : init ++ k :: after = init ++ [k] ++ after := by simp
  rw [hall] at ho ⊢
  have hbefore := (List.pairwise_append.1 ho).1
  have hshort : ∀ vs third, vs <+: init ++ [k] ++ after → EndsFlawed vs third →
      init.length < vs.length := by
    intro vs third hvs hthird
    rw [List.append_assoc] at hvs
    exact length_lt_of_endsFlawed hruns hstarts (List.pairwise_append.1 hbefore).1 hq hvs hthird
  -- A flaw that ends at the same token is told by the error, or it starts before `flaw`.
  have hlast : ∀ third, EndsFlawed (init ++ [k]) third →
      third.Reports e ∨ third.offset < flaw.offset := by
    intro third hthird
    obtain ⟨e', he', hthird⟩ := hthird.exists_error hruns hstarts hbefore hq
    rw [hk] at he'
    obtain rfl := Except.error.inj he'
    obtain ⟨c, hc⟩ := hr.exists_invalid
    exact hthird.imp_right fun hlt => hlt c flaw.offset hc
  constructor
  · rintro ⟨us, hus, hother, hfirst⟩
    rcases hfirst _ _ (List.prefix_append _ _) hf with hlt | ⟨rfl, hle⟩
    · have := hshort us other hus hother
      rw [List.length_append, List.length_singleton] at hlt
      omega
    · refine ⟨hother, (hlast other hother).resolve_right ?_⟩
      omega
  · rintro ⟨hother, hreports⟩
    refine ⟨init ++ [k], List.prefix_append _ _, hother, ?_⟩
    intro vs third hvs hthird
    have hlen := hshort vs third hvs hthird
    rcases Nat.lt_or_ge (init ++ [k]).length vs.length with hlt | hge
    · exact Or.inl hlt
    · have hsame : vs = init ++ [k] := by
        refine (List.prefix_of_prefix_length_le hvs (List.prefix_append _ _) hge).eq_of_length ?_
        rw [List.length_append, List.length_singleton] at hge ⊢
        omega
      subst hsame
      refine Or.inr ⟨rfl, ?_⟩
      rw [hreports.offset_eq hr]
      rcases hlast third hthird with h | h
      · exact Nat.le_of_eq (h.offset_eq hr)
      · exact Nat.le_of_lt h

/-- A reader that breaks with a flaw whenever it fails, fails exactly at the first flaw. -/
theorem error_iff_of_breaksWith (hruns : Runs step run) (hstarts : StartsTypes step run)
    {ts : Tokens} (ho : ts.Pairwise fun j k => j.offset < k.offset)
    (hbreaks : ∀ e, (run start ts).outcome = .error e →
      BreaksWith (fun p us => (run p us).outcome) [] start ts e) :
    ((∃ e, (run start ts).outcome = .error e) ↔ Flawed ts) ∧
      ∀ e, (run start ts).outcome = .error e ↔ ∃ flaw, FirstFlaw ts flaw ∧ flaw.Reports e := by
  have hfails : Flawed ts → ∃ e, (run start ts).outcome = .error e := by
    intro hflawed
    cases hrun : (run start ts).outcome with
    | ok q => exact absurd hflawed (not_flawed_of_run_eq_ok hruns hstarts ho hrun)
    | error e => exact ⟨e, rfl⟩
  have hfirst : ∀ e, (run start ts).outcome = .error e →
      (∃ flaw, FirstFlaw ts flaw ∧ flaw.Reports e) ∧
        ∀ flaw, FirstFlaw ts flaw → flaw.Reports e := by
    intro e he
    obtain ⟨init, k, after, flaw, q, rfl, hf, hr, hread⟩ := hbreaks e he
    have hq := hruns.readsTo_iff.1 hread
    have hk : (step q k.item k.offset).outcome = .error e := by
      rw [List.append_cons] at ho
      obtain ⟨e', he', -⟩ := hf.exists_error hruns hstarts (List.pairwise_append.1 ho).1 hq
      rw [hruns.error_of_step hq he' after] at he
      rw [he', Except.error.inj he]
    have hiff := firstFlaw_iff_of_step hruns hstarts ho hq hk hf hr
    exact ⟨⟨flaw, (hiff flaw).2 ⟨hf, hr⟩, hr⟩, fun other hother => ((hiff other).1 hother).2⟩
  refine ⟨⟨?_, hfails⟩, fun e => ⟨fun he => (hfirst e he).1, ?_⟩⟩
  · rintro ⟨e, he⟩
    obtain ⟨⟨flaw, hflaw, -⟩, -⟩ := hfirst e he
    exact hflaw.flawed
  · rintro ⟨flaw, hflaw, hr⟩
    obtain ⟨e', he'⟩ := hfails hflaw.flawed
    rw [he', ((hfirst e' he').2 flaw hflaw).eq hr]

end

end SqlSchema.Syntax
