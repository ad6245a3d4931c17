import SqlSchema.Type.Index

/-!
# Work and what it logs

`Logged` work only says what is to be logged. `Logged.acts` is work on a logger that plays all of it at
once and then has the outcome. Work on a logger that goes step by step is compared with it: each way to
put work together is the same on both sides (`Logged.acts_bind`, `Logged.acts_within` and so on), so
work on a logger that is put together like `Logged` work plays the log of that and no more.
-/

namespace SqlSchema

open Log

namespace Log

theorem Step.runAll_append {σ : Type} (levelOf : σ → Level) (ss ts : List (Step σ)) (g : Logger) :
    Step.runAll levelOf (ss ++ ts) g =
      ((Step.runAll levelOf ts (Step.runAll levelOf ss g).1).1,
        (Step.runAll levelOf ss g).2 ++
          (Step.runAll levelOf ts (Step.runAll levelOf ss g).1).2) := by
  induction ss generalizing g with
  | nil => rfl
  | cons s ss ih => simp [Step.runAll, ih]

namespace Journal

/-- The journal after entries are played. -/
def after (j : Journal) (entries : List Entry) : Journal :=
  let played := Step.runAll Empty.elim entries j.logger
  { logger := played.1, lines := j.lines ++ played.2 }

@[simp] theorem after_nil (j : Journal) : j.after [] = j := by
  simp [after, Step.runAll]

theorem after_append (j : Journal) (entries others : List Entry) :
    j.after (entries ++ others) = (j.after entries).after others := by
  simp [after, Step.runAll_append]

theorem after_note (j : Journal) (l : Level) (c : Component) (text : String) :
    j.after [.note l c text] = { j with lines := j.lines ++ j.logger.write l c (.text text) } := by
  simp [after, Step.runAll, Step.run]

end Journal

end Log

namespace Acting

variable {ε δ α β : Type} {x : Acting ε α} {j j' : Journal}

theorem ext {y : Acting ε α} (h : ∀ j, x.run.run j = y.run.run j) : x = y :=
  funext h

theorem run_bind (x : Acting ε α) (f : α → Acting ε β) (j : Journal) :
    (x >>= f).run.run j = x.run.run j >>= fun r => match r.1 with
      | .ok a => (f a).run.run r.2
      | .error e => some (.error e, r.2) := by
  rw [ExceptT.run_bind, StateT.run_bind]
  refine bind_congr fun r => ?_
  obtain ⟨outcome, j'⟩ := r
  cases outcome <;> rfl

theorem run_bind_of_ok {a : α} (hx : x.run.run j = some (.ok a, j')) (f : α → Acting ε β) :
    (x >>= f).run.run j = (f a).run.run j' := by
  rw [run_bind, hx]
  rfl

theorem run_bind_of_error {e : ε} (hx : x.run.run j = some (.error e, j'))
    (f : α → Acting ε β) : (x >>= f).run.run j = some (.error e, j') := by
  rw [run_bind, hx]
  rfl

theorem run_bind_attempt {r : Except ε α} (hx : x.run.run j = some (r, j'))
    (f : Except ε α → Acting δ β) : (x.attempt >>= f).run.run j = (f r).run.run j' := by
  have h : (x.attempt : Acting δ _).run.run j = some (.ok r, j') := by
    show (x.run.run j >>= fun r => some (Except.ok r.1, r.2)) = _
    rw [hx]
    rfl
  exact run_bind_of_ok h f

theorem run_allows (l : Level) (j : Journal) :
    (allows l : Acting ε Bool).run.run j = some (.ok (j.logger.allows l), j) := rfl

theorem run_log (l : Level) (c : Component) (message : Message) (j : Journal) :
    (log l c message : Acting ε Unit).run.run j =
      some (.ok (), { j with lines := j.lines ++ j.logger.write l c message }) := by
  rw [log, run_bind_of_ok (run_allows l j), Logger.write]
  split
  · rfl
  · rw [List.append_nil]
    rfl

theorem run_enter (l : Level) (c : Component) (name : String) (j : Journal) :
    (enter l c name : Acting ε Bool).run.run j =
      some (.ok (j.logger.allows l), { logger := (j.logger.enter l c name).1,
                                       lines := j.lines ++ (j.logger.enter l c name).2 }) := by
  rw [enter, run_bind_of_ok (run_allows l j), Logger.enter]
  by_cases h : j.logger.allows l
  · simp only [h, if_true]
    rw [run_bind_of_ok (run_log l c _ j)]
    rfl
  · simp only [h, Bool.false_eq_true, if_false, List.append_nil]
    rfl

theorem run_leave (started : Bool) (l : Level) (c : Component) (name : String) (j : Journal) :
    (leave started l c name : Acting ε Unit).run.run j =
      some (.ok (), { logger := (j.logger.leave started l c name).1,
                      lines := j.lines ++ (j.logger.leave started l c name).2 }) := by
  cases started with
  | true => exact run_log l c _ { j with logger := j.logger.dedent }
  | false =>
    rw [Logger.leave, if_neg Bool.false_ne_true, List.append_nil]
    rfl

end Acting

namespace Logged

variable {ε δ α β : Type}

/-- Work on a logger that plays what is logged. -/
def acts (x : Logged ε α) : Acting ε α :=
  ExceptT.mk fun j => some (x.outcome, j.after x.log)

theorem run_acts (x : Logged ε α) (j : Journal) :
    x.acts.run.run j = some (x.outcome, j.after x.log) := rfl

theorem acts_ofExcept (outcome : Except ε α) :
    (ofExcept outcome).acts = Acting.ofExcept outcome :=
  Acting.ext fun j => by
    rw [run_acts, ofExcept, j.after_nil]
    cases outcome <;> rfl

theorem acts_pure (a : α) : (pure a : Logged ε α).acts = pure a :=
  acts_ofExcept (.ok a)

theorem acts_fail (e : ε) : (fail e : Logged ε α).acts = throw e :=
  acts_ofExcept (.error e)

theorem acts_bind (x : Logged ε α) (f : α → Logged ε β) :
    (x >>= f).acts = x.acts >>= fun a => (f a).acts :=
  Acting.ext fun j => by
    cases h : x.outcome with
    | ok a =>
      have hx : x.acts.run.run j = some (.ok a, j.after x.log) := by rw [run_acts, h]
      rw [Acting.run_bind_of_ok hx, run_acts, run_acts, bind_of_ok h, Journal.after_append]
    | error e =>
      have hx : x.acts.run.run j = some (.error e, j.after x.log) := by rw [run_acts, h]
      rw [Acting.run_bind_of_error hx, run_acts, bind_of_error h]

theorem acts_note (l : Level) (c : Component) (text : String) :
    (note l c text : Logged ε Unit).acts = Acting.note l c text :=
  Acting.ext fun j => by rw [run_acts, note, j.after_note, Acting.note, Acting.run_log]

theorem acts_mapError (f : ε → δ) (x : Logged ε α) :
    (x.mapError f).acts = x.acts.mapError f :=
  Acting.ext fun j => by
    rw [Acting.mapError, Acting.run_bind_attempt (run_acts x j), run_acts, mapError]
    cases x.outcome <;> rfl

theorem acts_onError (x : Logged ε α) (l : Level) (c : Component) (text : ε → String) :
    (x.onError l c text).acts = x.acts.onError l c text :=
  Acting.ext fun j => by
    rw [Acting.onError, Acting.run_bind_attempt (run_acts x j), onError]
    cases h : x.outcome with
    | ok a =>
      rw [run_acts, h]
      rfl
    | error e =>
      have hnote := Acting.run_log (ε := ε) l c (.text (text e)) (j.after x.log)
      simp only [run_acts]
      rw [Acting.note, Acting.run_bind_of_ok hnote, Journal.after_append, Journal.after_note]
      rfl

/-- The step of a scope plays what its course of steps does. -/
theorem acts_within (x : Logged ε α) (l : Level) (c : Component) (name : String) :
    (x.within l c name).acts = Acting.scope l c name x.acts :=
  Acting.ext fun j => by
    rw [Acting.scope, Acting.run_bind_of_ok (Acting.run_enter l c name j),
      Acting.run_bind_attempt (run_acts x _), Acting.run_bind_of_ok (Acting.run_leave _ l c name _),
      run_acts, within]
    cases x.outcome <;> simp [Journal.after, Step.runAll, Step.run] <;> rfl

end Logged

/-! ## Building structs -/

namespace IndexedFields

theorem acts_add (s : IndexedFields) (f : Field) : (s.add f).acts = Acting.addField s f := by
  unfold add Acting.addField
  split
  · rw [Logged.acts_bind, Logged.acts_note]
    simp only [Logged.acts_fail]
  · exact Logged.acts_pure _

theorem acts_addAll (s : IndexedFields) (fs : List Field) :
    (s.addAll fs).acts = Acting.addFields s fs := by
  unfold addAll Acting.addFields
  induction fs generalizing s with
  | nil => exact Logged.acts_pure s
  | cons f fs ih =>
    rw [List.foldlM_cons, List.foldlM_cons, Logged.acts_bind, acts_add]
    simp only [ih]

theorem acts_build {ε : Type} (s : IndexedFields) :
    (s.build : Logged ε IndexedFields).acts = Acting.buildFields s := by
  rw [build, Acting.buildFields, Logged.acts_bind, Logged.acts_note]
  simp only [Logged.acts_pure]

theorem acts_addAll_bind_build (s : IndexedFields) (fs : List Field) :
    (s.addAll fs >>= build).acts = Acting.addFields s fs >>= Acting.buildFields := by
  rw [Logged.acts_bind, acts_addAll]
  exact congrArg _ (funext acts_build)

end IndexedFields

end SqlSchema
