import SqlSchema.Proofs.Descents
import SqlSchema.Proofs.Lookups

/-!
# Recursive descent through types

Each place of a `TypeReader` takes one kind of token, and the same token is the next one for the
descent. So `type` goes along with any reading that goes token by token (`readsTypes`).
-/

namespace SqlSchema.Syntax

open Log

/-! ## Places in a type -/

namespace TypeReader

/-- At the place this is expected, and it leads to what comes next. -/
structure Takes {α : Type} (stop : Nat) (place : TypeReader) (expected : Expectation)
    (f : Token → Option α) (next : Located α → Logged ParseError TypeReader) : Prop where
  not_done : ∀ t, place ≠ .done t
  endError_eq : place.endError stop = .unexpectedEnd expected
  step_eq : ∀ k o, place.step k o = match f k with
    | some a => next ⟨a, o⟩
    | none => Logged.fail (.unexpectedToken expected k o)

section Takes

variable {stop : Nat} {outer : List Frame}

theorem takes_type (h : outer.length < nestingLimit) :
    (start outer).Takes stop .type Token.word? fun w => begin outer w.offset (.ident w.item) where
  not_done := by simp
  endError_eq := if_pos h
  step_eq k o := by
    rw [show (start outer).step k o = begin outer o k from if_pos h]
    cases k <;> rfl

theorem takes_lparen (o : Nat) : (decimal o .opening outer).Takes stop (.token .lparen)
    (Token.only? .lparen) fun _ => pure (.decimal o .precision outer) :=
  ⟨by simp, rfl, fun k _ => by cases k <;> rfl⟩

theorem takes_precision (o : Nat) : (decimal o .precision outer).Takes stop .number
    Token.number? fun n => pure (.decimal o (.comma n.item) outer) :=
  ⟨by simp, rfl, fun k _ => by cases k <;> rfl⟩

theorem takes_bounds_comma (o : Nat) (p : UInt32) : (decimal o (.comma p) outer).Takes stop
    (.token .comma) (Token.only? .comma) fun _ => pure (.decimal o (.scale p) outer) :=
  ⟨by simp, rfl, fun k _ => by cases k <;> rfl⟩

theorem takes_scale (o : Nat) (p : UInt32) : (decimal o (.scale p) outer).Takes stop .number
    Token.number? fun n => pure (.decimal o (.closing p n.item) outer) :=
  ⟨by simp, rfl, fun k _ => by cases k <;> rfl⟩

theorem takes_rparen (o : Nat) (p s : UInt32) : (decimal o (.closing p s) outer).Takes stop
    (.token .rparen) (Token.only? .rparen) fun _ =>
      (Logged.ofExcept (DecimalType.ofBounds p s)).mapError (.invalid · o) >>= fun form =>
        complete (.decimal form) outer :=
  ⟨by simp, rfl, fun k _ => by cases k <;> rfl⟩

theorem takes_lt (c : Container) : (opening c outer).Takes stop (.token .lt)
    (Token.only? .lt) fun _ => pure (enter outer c) :=
  ⟨by simp, rfl, fun k _ => by cases k <;> rfl⟩

theorem takes_item_gt (item : DataType) : (itemEnd item outer).Takes stop (.token .gt)
    (Token.only? .gt) fun _ => complete (.array item) outer :=
  ⟨by simp, rfl, fun k _ => by cases k <;> rfl⟩

theorem takes_key_comma (key : DataType) : (keyEnd key outer).Takes stop (.token .comma)
    (Token.only? .comma) fun _ => pure (.start (.mapValue key :: outer)) :=
  ⟨by simp, rfl, fun k _ => by cases k <;> rfl⟩

theorem takes_value_gt (key value : DataType) : (valueEnd key value outer).Takes stop
    (.token .gt) (Token.only? .gt) fun _ => complete (.map key value) outer :=
  ⟨by simp, rfl, fun k _ => by cases k <;> rfl⟩

theorem takes_name (fields : FieldList) : (nextField fields outer).Takes stop .name Token.name?
    fun n => pure (.start (.field fields n.item n.offset :: outer)) :=
  ⟨by simp, rfl, fun k _ => by cases k <;> rfl⟩

theorem takes_fieldEnd (fields : FieldList) : (fieldEnd fields outer).Takes stop .fieldEnd
    Token.moreFields? fun more =>
      if more.item then pure (.nextField fields outer)
      else fields.build >>= fun t => complete t outer :=
  ⟨by simp, rfl, fun k _ => by cases k <;> rfl⟩

end Takes

end TypeReader

/-- Reading goes token by token, up to the outermost type or the end of the text. -/
structure ReadsOn {β : Type} (stop : Nat) (read : TypeReader → Tokens → Logged ParseError β) :
    Prop where
  cons_eq : ∀ p k ts, (∀ t, p ≠ .done t) →
    read p (k :: ts) = p.step k.item k.offset >>= fun q => read q ts
  nil_eq : ∀ p, (∀ t, p ≠ .done t) → read p [] = Logged.fail (p.endError stop)

namespace ReadsOn

variable {α β : Type} {stop : Nat} {read : TypeReader → Tokens → Logged ParseError β}
  {place : TypeReader} {expected : Expectation} {f : Token → Option α}
  {next : Located α → Logged ParseError TypeReader}

theorem accepts (hr : ReadsOn stop read) (h : place.Takes stop expected f next) :
    Accepts (read place) expected f fun a us => next a >>= fun q => read q us where
  nil_eq := by rw [hr.nil_eq _ h.not_done, h.endError_eq]
  none_eq k ts hk := by
    rw [hr.cons_eq _ _ _ h.not_done, h.step_eq, hk]
    rfl
  some_eq k ts a hk := by rw [hr.cons_eq _ _ _ h.not_done, h.step_eq, hk]

end ReadsOn

/-! ## Types -/

section Types

variable {β : Type} {l : TokenList} {read : TypeReader → Tokens → Logged ParseError β}
  {outer : List Frame} {p : Parser} {ts : Tokens}

def resumed (read : TypeReader → Tokens → Logged ParseError β) (outer : List Frame) (t : DataType)
    (us : Tokens) : Logged ParseError β :=
  TypeReader.complete t outer >>= fun q => read q us

theorem follows_expect (hr : ReadsOn l.stop read) {place : TypeReader} {token : Token}
    {next : Logged ParseError TypeReader} (h : p.At l ts)
    (hplace : place.Takes l.stop (.token token) (Token.only? token) fun _ => next) :
    Follows l 1 (Descent.expect token) p ts (read place ts) fun _ us => next >>= fun q => read q us :=
  (Follows.accept h (hr.accepts hplace)).bind fun _ _ _ hq _ _ => .pure hq _ rfl

theorem follows_number (hr : ReadsOn l.stop read) {place : TypeReader} (h : p.At l ts)
    (next : UInt32 → Logged ParseError TypeReader)
    (hplace : place.Takes l.stop .number Token.number? fun n => next n.item) :
    Follows l 1 Descent.number p ts (read place ts) fun n us => next n >>= fun q => read q us :=
  (Follows.accept h (hr.accepts hplace)).bind fun _ _ _ hq _ _ => .pure hq _ rfl

theorem follows_decimal (hr : ReadsOn l.stop read) (h : p.At l ts) (o : Nat) :
    Follows l 1 (Descent.decimal o) p ts (read (.decimal o .opening outer) ts)
      (resumed read outer) := by
  unfold Descent.decimal
  refine (follows_expect hr h (TypeReader.takes_lparen o)).bind fun _ q us h _ _ => ?_
  rw [pure_bind]
  refine ((follows_number hr h (fun n => pure (.decimal o (.comma n) outer))
    (TypeReader.takes_precision o)).bind
    fun precision q us h _ _ => ?_).zero
  rw [pure_bind]
  refine ((follows_expect hr h (TypeReader.takes_bounds_comma o precision)).bind
    fun _ q us h _ _ => ?_).zero
  rw [pure_bind]
  refine ((follows_number hr h (fun n => pure (.decimal o (.closing precision n) outer))
    (TypeReader.takes_scale o precision)).bind
    fun scale q us h _ _ => ?_).zero
  rw [pure_bind]
  refine ((follows_expect hr h (TypeReader.takes_rparen o precision scale)).bind
    fun _ q us h _ _ => ?_).zero
  rw [bind_assoc]
  refine .bind_act h ?_ (notTooDeep_mapError_invalid _ _) fun form q h _ => .pure h _ rfl
  rw [Logged.acts_mapError, Logged.acts_ofExcept]

/-- A descent goes along with reading a type wherever fewer tokens than these are left. -/
def ReadsTypes (l : TokenList) (read : TypeReader → Tokens → Logged ParseError β)
    (type : Descent DataType) (n : Nat) : Prop :=
  ∀ p ts outer, p.At l ts → p.depth = outer.length → ts.length < n →
    Follows l 1 type p ts (read (.start outer) ts) (resumed read outer)

theorem ReadsTypes.mono {type : Descent DataType} {n m : Nat} (h : ReadsTypes l read type n)
    (hm : m ≤ n) : ReadsTypes l read type m :=
  fun p ts outer hp hd hts => h p ts outer hp hd (Nat.lt_of_lt_of_le hts hm)

section Inside

variable {type : Descent DataType}

theorem follows_array (hr : ReadsOn l.stop read) (ht : ReadsTypes l read type ts.length)
    (h : p.At l ts) (hd : p.depth = outer.length + 1) :
    Follows l 1 (Descent.array type) p ts (read (.opening .array outer) ts)
      (resumed read outer) := by
  rw [Descent.array]
  refine (follows_expect hr h (TypeReader.takes_lt .array)).bind fun _ q us h hq hus => ?_
  rw [pure_bind]
  refine ((ht q us (.item :: outer) h (hq.trans hd) hus).bind fun item q us h _ _ => ?_).zero
  rw [resumed, TypeReader.complete, pure_bind]
  refine ((follows_expect hr h (TypeReader.takes_item_gt item)).bind fun _ q us h _ _ => ?_).zero
  exact .pure h _ rfl

theorem follows_map (hr : ReadsOn l.stop read) (ht : ReadsTypes l read type ts.length)
    (h : p.At l ts) (hd : p.depth = outer.length + 1) :
    Follows l 1 (Descent.map type) p ts (read (.opening .map outer) ts) (resumed read outer) := by
  rw [Descent.map]
  refine (follows_expect hr h (TypeReader.takes_lt .map)).bind fun _ q us h hq hus => ?_
  rw [pure_bind]
  refine ((ht q us (.mapKey :: outer) h (hq.trans hd) hus).bind
    fun key q₁ us₁ h hq₁ hus₁ => ?_).zero
  rw [resumed, TypeReader.complete, pure_bind]
  refine ((follows_expect hr h (TypeReader.takes_key_comma key)).bind
    fun _ q₂ us₂ h hq₂ hus₂ => ?_).zero
  rw [pure_bind]
  refine ((ht q₂ us₂ (.mapValue key :: outer) h
    (hq₂.trans (hq₁.trans (hq.trans hd))) (by omega)).bind fun value q us h _ _ => ?_).zero
  rw [resumed, TypeReader.complete, pure_bind]
  refine ((follows_expect hr h (TypeReader.takes_value_gt key value)).bind
    fun _ q us h _ _ => ?_).zero
  exact .pure h _ rfl

/-- The reading adds the field to a list without an index, and so does the descent but for the index. -/
theorem follows_fieldTurn (hr : ReadsOn l.stop read) (ht : ReadsTypes l read type ts.length)
    (h : p.At l ts) (hd : p.depth = outer.length + 1) (earlier : IndexedFields) :
    Follows l 1 (Descent.fieldTurn type earlier) p ts (read (.nextField earlier.toFieldList outer) ts)
      (Turn.resumed (fun fields => read (.nextField fields.toFieldList outer))
        (resumed read outer)) := by
  rw [Descent.fieldTurn]
  refine (Follows.accept h (hr.accepts (TypeReader.takes_name earlier.toFieldList))).bind
    fun name q us h hq hus => ?_
  rw [pure_bind]
  refine ((ht q us (.field earlier.toFieldList name.item name.offset :: outer) h (hq.trans hd)
    hus).bind fun type q us h _ _ => ?_).zero
  rw [resumed, TypeReader.complete, bind_assoc, ← IndexedFields.toFieldList_add,
    Logged.mapError_map, bind_map_left]
  refine .bind_act h (by rw [Logged.acts_mapError, IndexedFields.acts_add])
    (notTooDeep_mapError_invalid _ _) fun fields q h _ => ?_
  rw [pure_bind]
  refine ((Follows.accept h (hr.accepts (TypeReader.takes_fieldEnd fields.toFieldList))).bind
    fun more q us h _ _ => ?_).zero
  split
  · rw [pure_bind]
    exact .pure h _ rfl
  · rw [← IndexedFields.type_build, bind_map_left, bind_assoc]
    exact .bind_act h fields.acts_build.symm (.ok _) fun built q h _ => .pure h _ rfl

/-- The place before the first field is one before a field unless the fields end there. -/
theorem ReadsOn.firstField_eq (hr : ReadsOn l.stop read) (h : (l.mark ts).item ≠ some .gt) :
    read (.firstField outer) ts = read (.nextField .empty outer) ts := by
  cases ts with
  | nil => rw [hr.nil_eq _ (by simp), hr.nil_eq _ (by simp)]; rfl
  | cons k ts =>
    rw [hr.cons_eq _ _ _ (by simp), hr.cons_eq _ _ _ (by simp)]
    obtain ⟨token, o⟩ := k
    cases token with
    | gt => exact absurd rfl h
    | _ => rfl

theorem follows_struct {n : Nat} (hr : ReadsOn l.stop read)
    (ht : ReadsTypes l read type ts.length) (hn : ts.length ≤ n) (h : p.At l ts)
    (hd : p.depth = outer.length + 1) :
    Follows l 1 (Descent.struct type n) p ts (read (.opening .struct outer) ts)
      (resumed read outer) := by
  rw [Descent.struct]
  refine (follows_expect hr h (TypeReader.takes_lt .struct)).bind fun _ q us h hq hus => ?_
  rw [pure_bind, TypeReader.enter]
  refine .current h ?_
  split
  · next hgt =>
    cases us with
    | nil => cases hgt
    | cons k us =>
      obtain ⟨token, o⟩ := k
      obtain rfl : token = .gt := Option.some.inj hgt
      refine Follows.zero (.advance_cons h ?_)
      rw [hr.cons_eq _ _ _ (by simp)]
      show Follows l 0 _ _ us ((IndexedFields.empty.toFieldList.build >>= fun t =>
        TypeReader.complete t outer) >>= fun q => read q us) _
      -- The reading builds a list of fields, the descent one with an index.
      rw [bind_assoc, ← IndexedFields.type_build, bind_map_left]
      exact .bind_act h.next IndexedFields.empty.acts_build.symm (.ok _)
        fun built q h _ => .pure h _ rfl
  · next hgt =>
    rw [hr.firstField_eq hgt]
    refine Follows.zero (.loop (fun fields => read (.nextField fields.toFieldList outer))
      (fun earlier r vs hr' hd' hvs => ?_) h IndexedFields.empty (by omega))
    exact follows_fieldTurn hr (ht.mono (by omega)) hr' (hd'.trans (hq.trans hd)) earlier

theorem follows_typeInside {n : Nat} (hr : ReadsOn l.stop read)
    (ht : ReadsTypes l read type ts.length) (hn : ts.length ≤ n) (h : p.At l ts)
    (hd : p.depth = outer.length + 1) :
    Follows l 1 (Descent.typeInside type n) p ts (read (.start outer) ts) (resumed read outer) := by
  -- The call has raised the depth for its own type already.
  have houter : outer.length < nestingLimit := by
    have hle := h.safe_moment.depth_le
    change p.depth ≤ nestingLimit at hle
    omega
  rw [Descent.typeInside]
  refine (Follows.accept h (hr.accepts (TypeReader.takes_type houter))).bind
    fun word q us h hq hus => ?_
  have ht := ht.mono (Nat.le_of_succ_le hus)
  have hd := hq.trans hd
  rw [TypeReader.begin]
  cases keyword? word.item with
  | none => exact .throw h rfl
  | some keyword =>
    cases keyword with
    | simple t => exact .pure h _ rfl
    | decimal =>
      rw [pure_bind]
      exact (follows_decimal hr h _).zero
    | container c =>
      rw [pure_bind]
      cases c with
      | array => exact (follows_array hr ht h hd).zero
      | map => exact (follows_map hr ht h hd).zero
      | struct => exact (follows_struct hr ht (by omega) h hd).zero

end Inside

theorem follows_call {n : Nat} {inside : Descent DataType} {reading : Logged ParseError β}
    {behind : DataType → Tokens → Logged ParseError β} (h : p.At l ts)
    (hdeep : p.depth = nestingLimit → reading = Logged.fail (.tooDeep (l.mark ts).offset))
    (hinside : p.depth ≠ nestingLimit → Follows l n inside p.begin.enter ts reading behind) :
    Follows l n (Descent.call inside) p ts reading behind := by
  by_cases hp : p.depth = nestingLimit
  · rw [hdeep hp]
    exact ⟨_, _, ts, .tooDeep h hp inside, rfl⟩
  · obtain ⟨y, q, us, hy, hreading⟩ := hinside hp
    exact ⟨y, _, us, .call hp hy, hreading⟩

theorem ReadsOn.start_tooDeep (hr : ReadsOn l.stop read) (h : nestingLimit ≤ outer.length) :
    read (.start outer) ts = Logged.fail (.tooDeep (l.mark ts).offset) := by
  have houter := Nat.not_lt.2 h
  cases ts with
  | nil =>
    rw [hr.nil_eq _ (by simp)]
    exact congrArg Logged.fail (if_neg houter)
  | cons k ts =>
    rw [hr.cons_eq _ _ _ (by simp),
      show (TypeReader.start outer).step k.item k.offset = Logged.fail (.tooDeep k.offset) from
        if_neg houter]
    rfl

/-- A call of `type` goes along with reading a type, by induction on the calls inside one another:
each of them starts behind a token that the one around it has consumed. -/
theorem readsTypes (hr : ReadsOn l.stop read) (n : Nat) :
    ReadsTypes l read (Descent.type n) n := by
  induction n with
  | zero => exact fun _ _ _ _ _ h => nomatch h
  | succ n ih =>
    intro p ts outer h hd hts
    have hle := Nat.le_of_lt_succ hts
    rw [Descent.type]
    refine follows_call h (fun hp => hr.start_tooDeep (by omega)) fun hp => ?_
    exact follows_typeInside hr (ih.mono hle) hle (h.begin_enter hp) (congrArg (· + 1) hd)

end Types

end SqlSchema.Syntax
