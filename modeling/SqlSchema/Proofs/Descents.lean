import SqlSchema.Proofs.Acting
import SqlSchema.Proofs.Grammar
import SqlSchema.Syntax.Descent

/-!
# Descents and readings

A parser is safe if its position has stayed within the tokens and its depth within the limit, and the
depth has been raised for all calls in progress but perhaps the innermost. `Leads` says what a descent
comes to from a safe parser: an outcome and a safe parser at the same depth. `Follows` compares it with
a reading of the same tokens that goes on behind the descent, and goes through a descent step by step
(`Follows.bind`).
-/

namespace SqlSchema.Syntax

open Log

/-! ## Safe moments -/

/-- A moment at which nothing is wrong. -/
structure Moment.Safe (l : TokenList) (m : Moment) : Prop where
  pos_lt : m.pos < l.marks.length
  depth_le : m.depth ≤ nestingLimit
  /-- The depth is raised for each call in progress. Only the innermost may stand outside. -/
  calls_eq : m.calls = List.replicate m.depth .inside ∨
    m.calls = .outside :: List.replicate m.depth .inside

theorem Moment.Safe.length_calls_le {l : TokenList} {m : Moment} (h : m.Safe l) :
    m.calls.length ≤ nestingLimit + 1 := by
  have hdepth := h.depth_le
  obtain hcalls | hcalls := h.calls_eq
  · rw [hcalls, List.length_replicate]
    omega
  · rw [hcalls, List.length_cons, List.length_replicate]
    omega

def TokenList.mark (l : TokenList) : Tokens → Mark
  | [] => ⟨none, l.stop⟩
  | k :: _ => ⟨some k.item, k.offset⟩

/-- The parser stands before these tokens, inside all calls in progress, and has gone through safe
moments only. -/
structure Parser.At (l : TokenList) (ts : Tokens) (p : Parser) : Prop where
  marks_eq : p.marks = l.marks
  drop_eq : l.tokens.drop p.pos = ts
  calls_eq : p.calls = List.replicate p.depth .inside
  safe : ∀ m ∈ p.reached, m.Safe l

theorem TokenList.length_marks (l : TokenList) : l.marks.length = l.tokens.length + 1 := by
  simp [marks]

theorem TokenList.getElem?_marks (l : TokenList) {i : Nat} (h : i < l.marks.length) :
    l.marks[i]? = some (l.mark (l.tokens.drop i)) := by
  rw [length_marks] at h
  rw [marks, List.getElem?_append, List.length_map]
  split
  · next hi =>
    rw [List.getElem?_map, List.getElem?_eq_getElem hi, List.drop_eq_getElem_cons hi]
    rfl
  · next hi =>
    obtain rfl : i = l.tokens.length := by omega
    rw [Nat.sub_self, List.drop_length]
    rfl

namespace Parser

variable {l : TokenList} {ts : Tokens} {p : Parser}

namespace At

theorem safe_moment (h : p.At l ts) : p.moment.Safe l :=
  h.safe _ List.mem_cons_self

theorem marks_getElem? (h : p.At l ts) : p.marks[p.pos]? = some (l.mark ts) := by
  rw [h.marks_eq, l.getElem?_marks (i := p.pos) h.safe_moment.pos_lt, h.drop_eq]

theorem length_eq (h : p.At l ts) : p.pos + ts.length = l.tokens.length := by
  have hpos := h.safe_moment.pos_lt
  rw [l.length_marks] at hpos
  change p.pos < _ at hpos
  rw [← h.drop_eq, List.length_drop]
  omega

theorem next {k : Located Token} (h : p.At l (k :: ts)) : p.next.At l ts := by
  refine ⟨h.marks_eq, ?_, h.calls_eq,
    List.forall_mem_cons.2 ⟨⟨?_, h.safe_moment.depth_le, .inl h.calls_eq⟩, h.safe⟩⟩
  · show l.tokens.drop (p.pos + 1) = ts
    rw [← List.tail_drop, h.drop_eq, List.tail_cons]
  · have hlength := h.length_eq
    rw [List.length_cons] at hlength
    show p.pos + 1 < l.marks.length
    rw [l.length_marks]
    omega

/-- A call that begins is in progress before the depth is raised for it. -/
theorem safe_begin (h : p.At l ts) : ∀ m ∈ p.begin.reached, m.Safe l :=
  List.forall_mem_cons.2
    ⟨⟨h.safe_moment.pos_lt, h.safe_moment.depth_le, .inr (congrArg _ h.calls_eq)⟩, h.safe⟩

theorem begin_resume (h : p.At l ts) : p.begin.resume.At l ts :=
  ⟨h.marks_eq, h.drop_eq, h.calls_eq, List.forall_mem_cons.2 ⟨h.safe_moment, h.safe_begin⟩⟩

theorem begin_enter (h : p.At l ts) (hp : p.depth ≠ nestingLimit) : p.begin.enter.At l ts := by
  have hcalls : p.begin.enter.calls = List.replicate (p.depth + 1) .inside :=
    congrArg (Stage.inside :: ·) h.calls_eq
  refine ⟨h.marks_eq, h.drop_eq, hcalls,
    List.forall_mem_cons.2 ⟨⟨h.safe_moment.pos_lt, ?_, .inl hcalls⟩, h.safe_begin⟩⟩
  exact Nat.lt_of_le_of_ne h.safe_moment.depth_le hp

theorem leave_resume {d : Nat} (h : p.At l ts) (hp : p.depth = d + 1) :
    p.leave.resume.At l ts ∧ p.leave.resume.depth = d := by
  have hdepth : p.depth - 1 = d := by rw [hp, Nat.add_sub_cancel]
  have htail : p.calls.tail = List.replicate (p.depth - 1) .inside := by
    rw [h.calls_eq, List.tail_replicate]
  have hle : p.depth - 1 ≤ nestingLimit := Nat.le_trans (Nat.sub_le _ _) h.safe_moment.depth_le
  have hpos := h.safe_moment.pos_lt
  refine ⟨⟨h.marks_eq, h.drop_eq, htail, ?_⟩, hdepth⟩
  exact List.forall_mem_cons.2 ⟨⟨hpos, hle, .inl htail⟩,
    List.forall_mem_cons.2 ⟨⟨hpos, hle, .inr (congrArg _ htail)⟩, h.safe⟩⟩

theorem start (l : TokenList) (j : Journal) : (Parser.start l j).At l l.tokens where
  marks_eq := rfl
  drop_eq := rfl
  calls_eq := rfl
  safe := by
    rw [reached, show (Parser.start l j).past = [] from rfl, List.forall_mem_singleton]
    refine ⟨?_, Nat.zero_le _, .inl rfl⟩
    rw [l.length_marks]
    exact Nat.succ_pos _

end At

end Parser

/-! ## Descents and readings -/

theorem Descent.run_bind {α β : Type} (x : Descent α) (f : α → Descent β) (p : Parser) :
    (x >>= f).run.run p = x.run.run p >>= fun r => match r.1 with
      | .ok a => (f a).run.run r.2
      | .error e => some (.error e, r.2) := by
  rw [ExceptT.run_bind, StateT.run_bind]
  refine bind_congr fun r => ?_
  obtain ⟨outcome, q⟩ := r
  cases outcome <;> rfl

theorem Descent.run_call (inside : Descent DataType) (p : Parser) :
    (call inside).run.run p =
      if p.depth = nestingLimit then
        tooDeep.run.run p.begin >>= fun r => some (r.1, r.2.resume)
      else inside.run.run p.begin.enter >>= fun r => some (r.1, r.2.leave.resume) := by
  show ((if p.depth = nestingLimit then tooDeep.run else _ : Work _).run p.begin >>=
    fun r => some (r.1, r.2.resume)) = _
  split
  · rfl
  · show ((inside.run.run p.begin.enter >>= fun r => some (r.1, r.2.leave)) >>= _) = _
    rw [bind_assoc]
    rfl

/-- A descent from a parser before the tokens `ts` comes to the outcome `y`, with its log, and leaves
a parser before the tokens `us`. The depth is as before, and at least `n` tokens are consumed if
there is a result. -/
structure Leads {α : Type} (l : TokenList) (n : Nat) (x : Descent α) (p : Parser) (ts : Tokens)
    (y : Logged ParseError α) (q : Parser) (us : Tokens) : Prop where
  run_eq : x.run.run p = some (y.outcome, q)
  journal_eq : q.journal = p.journal.after y.log
  at_end : q.At l us
  depth_eq : q.depth = p.depth
  length_le : us.length ≤ ts.length
  progress : ∀ a, y.outcome = .ok a → us.length + n ≤ ts.length
  /-- Only where there is one call more than the limit is a type refused as too deep. -/
  refused : ∀ o, y.outcome = .error (.tooDeep o) →
    ∃ m ∈ q.reached, m.depth = nestingLimit ∧ m.calls.length = nestingLimit + 1

/-- A type is refused as too deep. -/
def ParseError.isTooDeep : ParseError → Bool
  | tooDeep _ => true
  | _ => false

/-- An outcome other than the refusal of a type that is too deep. -/
inductive NotTooDeep {α : Type} : Except ParseError α → Prop
  | ok (a : α) : NotTooDeep (.ok a)
  | error {e : ParseError} : e.isTooDeep = false → NotTooDeep (.error e)

theorem NotTooDeep.ne {α : Type} {outcome : Except ParseError α} (h : NotTooDeep outcome)
    (o : Nat) : outcome ≠ .error (.tooDeep o) := by
  rintro rfl
  cases h with
  | error he => cases he

theorem notTooDeep_mapError_invalid {α : Type} (x : Logged TypeError α) (offset : Nat) :
    NotTooDeep (x.mapError (.invalid · offset)).outcome := by
  rw [Logged.outcome_mapError]
  cases x.outcome with
  | ok a => exact .ok a
  | error e => exact .error rfl

namespace Leads

variable {α β : Type} {l : TokenList} {n m : Nat} {x : Descent α} {f : α → Descent β}
  {p q r : Parser} {ts us vs : Tokens} {y : Logged ParseError α} {z : Logged ParseError β}

theorem pure (h : p.At l ts) (a : α) :
    Leads l 0 (pure a : Descent α) p ts (Pure.pure a) p ts :=
  ⟨rfl, p.journal.after_nil.symm, h, rfl, Nat.le_refl _, fun _ _ => Nat.le_refl _, nofun⟩

theorem throw (h : p.At l ts) {e : ParseError} (he : e.isTooDeep = false) :
    Leads l n (throw e : Descent α) p ts (Logged.fail e) p ts :=
  ⟨rfl, p.journal.after_nil.symm, h, rfl, Nat.le_refl _, nofun,
    fun o ho => absurd ho (NotTooDeep.error he |>.ne o)⟩

theorem act (h : p.At l ts) {x : Acting ParseError α} (hx : x = y.acts)
    (hy : NotTooDeep y.outcome) :
    Leads l 0 (Descent.act x) p ts y { p with journal := p.journal.after y.log } ts := by
  refine ⟨?_, rfl, ⟨h.marks_eq, h.drop_eq, h.calls_eq, h.safe⟩, rfl, Nat.le_refl _,
    fun _ _ => Nat.le_refl _, fun o ho => absurd ho (hy.ne o)⟩
  rw [hx]
  rfl

theorem current (h : p.At l ts) : Leads l 0 Descent.current p ts (Pure.pure (l.mark ts)) p ts := by
  refine ⟨?_, p.journal.after_nil.symm, h, rfl, Nat.le_refl _, fun _ _ => Nat.le_refl _, nofun⟩
  show (liftM p.marks[p.pos]? : Descent Mark).run.run p = _
  rw [h.marks_getElem?]
  rfl

theorem bind_error {e : ParseError} (hx : Leads l n x p ts y q us) (he : y.outcome = .error e) :
    Leads l m (x >>= f) p ts ⟨.error e, y.log⟩ q us := by
  refine ⟨?_, hx.journal_eq, hx.at_end, hx.depth_eq, hx.length_le, nofun, fun o ho => ?_⟩
  · rw [Descent.run_bind, hx.run_eq, he]
    rfl
  · exact hx.refused o (he.trans (congrArg Except.error (Except.error.inj ho)))

theorem bind_ok {a : α} (hx : Leads l n x p ts y q us) (ha : y.outcome = .ok a)
    (hz : Leads l m (f a) q us z r vs) :
    Leads l (n + m) (x >>= f) p ts ⟨z.outcome, y.log ++ z.log⟩ r vs := by
  refine ⟨?_, ?_, hz.at_end, hz.depth_eq.trans hx.depth_eq,
    Nat.le_trans hz.length_le hx.length_le, fun b hb => ?_, hz.refused⟩
  · rw [Descent.run_bind, hx.run_eq, ha]
    exact hz.run_eq
  · rw [hz.journal_eq, hx.journal_eq, Journal.after_append]
  · have hfirst := hx.progress a ha
    have hsecond := hz.progress b hb
    omega

theorem advance_nil (h : p.At l []) :
    Leads l 0 Descent.advance p [] (Pure.pure ⟨none, l.stop⟩) p [] := by
  refine ⟨?_, p.journal.after_nil.symm, h, rfl, Nat.le_refl _, fun _ _ => Nat.le_refl _, nofun⟩
  rw [Descent.advance, Descent.run_bind, (current h).run_eq]
  rfl

theorem advance_cons {k : Located Token} (h : p.At l (k :: ts)) :
    Leads l 1 Descent.advance p (k :: ts) (Pure.pure ⟨some k.item, k.offset⟩) p.next ts := by
  refine ⟨?_, p.journal.after_nil.symm, h.next, rfl, Nat.le_succ _, fun _ _ => Nat.le_refl _,
    nofun⟩
  rw [Descent.advance, Descent.run_bind, (current h).run_eq]
  rfl

/-- A call at the limit of depth is refused where it begins. -/
theorem tooDeep (h : p.At l ts) (hp : p.depth = nestingLimit) (inside : Descent DataType) :
    Leads l n (Descent.call inside) p ts (Logged.fail (.tooDeep (l.mark ts).offset))
      p.begin.resume ts := by
  have hcalls : p.begin.moment.calls.length = nestingLimit + 1 := by
    show (Stage.outside :: p.calls).length = _
    rw [List.length_cons, h.calls_eq, List.length_replicate, hp]
  refine ⟨?_, p.journal.after_nil.symm, h.begin_resume, rfl, Nat.le_refl _, nofun,
    fun _ _ => ⟨p.begin.moment, List.mem_cons_of_mem _ List.mem_cons_self, hp, hcalls⟩⟩
  have hcurrent : Descent.current.run.run p.begin = some (.ok (l.mark ts), p.begin) := by
    show (liftM p.marks[p.pos]? : Descent Mark).run.run p.begin = _
    rw [h.marks_getElem?]
    rfl
  rw [Descent.run_call, if_pos hp, Descent.tooDeep, Descent.run_bind, hcurrent]
  rfl

/-- A call below the limit of depth comes to what is done inside it. -/
theorem call {x : Descent DataType} {y : Logged ParseError DataType}
    (hp : p.depth ≠ nestingLimit) (hx : Leads l n x p.begin.enter ts y q us) :
    Leads l n (Descent.call x) p ts y q.leave.resume us := by
  obtain ⟨hend, hdepth⟩ := hx.at_end.leave_resume hx.depth_eq
  refine ⟨?_, hx.journal_eq, hend, hdepth, hx.length_le, hx.progress, fun o ho => ?_⟩
  · rw [Descent.run_call, if_neg hp, hx.run_eq]
    rfl
  · obtain ⟨m, hm, hrefused⟩ := hx.refused o ho
    exact ⟨m, List.mem_cons_of_mem _ (List.mem_cons_of_mem _ hm), hrefused⟩

end Leads

/-- A descent from a parser before the tokens `ts` goes along with a reading: what the reading comes
to is what it comes to behind the descent. -/
def Follows {α β : Type} (l : TokenList) (n : Nat) (x : Descent α) (p : Parser) (ts : Tokens)
    (reading : Logged ParseError β) (behind : α → Tokens → Logged ParseError β) : Prop :=
  ∃ y q us, Leads l n x p ts y q us ∧ reading = y >>= fun a => behind a us

/-- A reading takes one token of some kind, or ends with the error that it was expected. -/
structure Accepts {α β : Type} (read : Tokens → Logged ParseError β) (expected : Expectation)
    (f : Token → Option α) (behind : Located α → Tokens → Logged ParseError β) : Prop where
  nil_eq : read [] = Logged.fail (.unexpectedEnd expected)
  none_eq : ∀ k ts, f k.item = none →
    read (k :: ts) = Logged.fail (.unexpectedToken expected k.item k.offset)
  some_eq : ∀ k ts a, f k.item = some a → read (k :: ts) = behind ⟨a, k.offset⟩ ts

/-- Reading goes on behind a turn of a loop. -/
def Turn.resumed {σ α β : Type} (read : σ → Tokens → Logged ParseError β)
    (behind : α → Tokens → Logged ParseError β) : Turn σ α → Tokens → Logged ParseError β
  | .next state, us => read state us
  | .done result, us => behind result us

namespace Follows

variable {α β γ : Type} {l : TokenList} {n m : Nat} {p : Parser} {ts : Tokens}
  {reading : Logged ParseError γ} {behind : α → Tokens → Logged ParseError γ}

/-- It need not matter whether tokens are consumed. -/
theorem zero {x : Descent α} (h : Follows l n x p ts reading behind) :
    Follows l 0 x p ts reading behind := by
  obtain ⟨y, q, us, hy, hreading⟩ := h
  exact ⟨y, q, us, { hy with progress := fun _ _ => hy.length_le }, hreading⟩

theorem pure (h : p.At l ts) (a : α) (hreading : reading = behind a ts) :
    Follows l 0 (pure a : Descent α) p ts reading behind :=
  ⟨_, _, _, .pure h a, by rw [pure_bind, hreading]⟩

theorem throw (h : p.At l ts) {e : ParseError} (he : e.isTooDeep = false) :
    Follows l n (throw e : Descent α) p ts (Logged.fail e) behind :=
  ⟨_, _, _, .throw h he, rfl⟩

section Bind

variable {x : Descent α} {f : α → Descent β} {behind : β → Tokens → Logged ParseError γ}
  {q : Parser} {us : Tokens}

/-- What follows a descent whose outcome is known starts where that one has come to. -/
theorem of_leads {y : Logged ParseError α} {g : α → Logged ParseError γ}
    (hx : Leads l n x p ts y q us)
    (hf : ∀ a, y.outcome = .ok a → Follows l m (f a) q us (g a) behind) :
    Follows l (n + m) (x >>= f) p ts (y >>= g) behind := by
  cases ho : y.outcome with
  | error e =>
    refine ⟨_, q, us, hx.bind_error ho, ?_⟩
    rw [Logged.bind_of_error ho, Logged.bind_of_error rfl]
  | ok a =>
    obtain ⟨z, r, vs, hz, hg⟩ := hf a ho
    refine ⟨_, r, vs, hx.bind_ok ho hz, ?_⟩
    rw [Logged.bind_of_ok ho, hg]
    cases hb : z.outcome with
    | error e => rw [Logged.bind_of_error hb, Logged.bind_of_error rfl]
    | ok b => rw [Logged.bind_of_ok hb, Logged.bind_of_ok rfl, List.append_assoc]

theorem after {a : α} (hx : Leads l n x p ts (Pure.pure a) q us)
    (hf : Follows l m (f a) q us reading behind) :
    Follows l (n + m) (x >>= f) p ts reading behind := by
  rw [← pure_bind a fun _ => reading]
  refine of_leads hx fun b hb => ?_
  obtain rfl : a = b := Except.ok.inj hb
  exact hf

theorem bind {between : α → Tokens → Logged ParseError γ} (hx : Follows l n x p ts reading between)
    (hf : ∀ a q us, q.At l us → q.depth = p.depth → us.length + n ≤ ts.length →
      Follows l 0 (f a) q us (between a us) behind) :
    Follows l n (x >>= f) p ts reading behind := by
  obtain ⟨y, q, us, hy, rfl⟩ := hx
  exact of_leads hy fun a ha => hf a q us hy.at_end hy.depth_eq (hy.progress a ha)

theorem bind_act {x : Acting ParseError α} {y : Logged ParseError α}
    {g : α → Logged ParseError γ} (h : p.At l ts) (hx : x = y.acts) (hy : NotTooDeep y.outcome)
    (hf : ∀ a q, q.At l ts → q.depth = p.depth → Follows l 0 (f a) q ts (g a) behind) :
    Follows l 0 (Descent.act x >>= f) p ts (y >>= g) behind :=
  of_leads (.act h hx hy) fun a _ => hf a _ (Leads.act h hx hy).at_end rfl

end Bind

/-! ## Loops -/

/-- A loop goes along with a reading if its turns do and each consumes a token. -/
theorem loop {σ : Type} {turn : σ → Descent (Turn σ α)} (read : σ → Tokens → Logged ParseError γ)
    (hturn : ∀ state q us, q.At l us → q.depth = p.depth → us.length ≤ ts.length →
      Follows l 1 (turn state) q us (read state us) (Turn.resumed read behind))
    (h : p.At l ts) (state : σ) {k : Nat} (hk : ts.length < k) :
    Follows l 1 (Descent.loop turn k state) p ts (read state ts) behind := by
  induction k generalizing p ts state with
  | zero => exact nomatch hk
  | succ k ih =>
    rw [Descent.loop]
    refine (hturn state p ts h rfl (Nat.le_refl _)).bind fun result q us h hq hus => ?_
    cases result with
    | next state' =>
      refine (ih (fun state r vs hr hd hvs => ?_) h state' (by omega)).zero
      exact hturn state r vs hr (hd.trans hq) (by omega)
    | done a => exact .pure h _ rfl

/-! ## Single tokens -/

theorem current {f : Mark → Descent α} (h : p.At l ts)
    (hf : Follows l n (f (l.mark ts)) p ts reading behind) :
    Follows l n (Descent.current >>= f) p ts reading behind := by
  rw [← Nat.zero_add n]
  exact after (.current h) hf

theorem advance_nil {f : Mark → Descent α} (h : p.At l [])
    (hf : Follows l n (f ⟨none, l.stop⟩) p [] reading behind) :
    Follows l n (Descent.advance >>= f) p [] reading behind := by
  rw [← Nat.zero_add n]
  exact after (.advance_nil h) hf

theorem advance_cons {k : Located Token} {f : Mark → Descent α} (h : p.At l (k :: ts))
    (hf : Follows l 0 (f ⟨some k.item, k.offset⟩) p.next ts reading behind) :
    Follows l 1 (Descent.advance >>= f) p (k :: ts) reading behind :=
  after (.advance_cons h) hf

theorem accept {read : Tokens → Logged ParseError γ} {e : Expectation} {f : Token → Option α}
    {behind : Located α → Tokens → Logged ParseError γ} (h : p.At l ts)
    (hr : Accepts read e f behind) :
    Follows l 1 (Descent.accept e f) p ts (read ts) behind := by
  cases ts with
  | nil =>
    rw [hr.nil_eq]
    exact advance_nil h (throw h rfl)
  | cons k ts =>
    refine advance_cons h ?_
    cases hk : f k.item with
    | none =>
      rw [hr.none_eq k ts hk]
      simp only [Option.bind_some, hk]
      exact throw h.next rfl
    | some a =>
      rw [hr.some_eq k ts a hk]
      simp only [Option.bind_some, hk]
      exact pure h.next _ rfl

end Follows

end SqlSchema.Syntax
