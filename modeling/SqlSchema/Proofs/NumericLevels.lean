import SqlSchema.Proofs.CommandReading
import SqlSchema.Shell.Config

/-!
# Levels written as numbers

A level may be given by its number in decimal digits, with zeros in front. Numbers from 5 on all
stand for the last level, but only as long as they fit into a byte: the digits of a larger number
name no level, and a setting with such a text is ignored (`numeric_levels`). So larger numbers up to
255 never log less, and with 256 nothing is logged at all (`level_256_ignored`).
-/

namespace SqlSchema

open Text

/-! ## Reading numerals -/

namespace Log

/-- The text writes the number in decimal digits. -/
structure Numeral (s : String) (n : Nat) : Prop where
  ne_nil : s.toList ≠ []
  isDigit : ∀ c ∈ s.toList, c.isDigit
  value : Nat.ofDigitChars 10 s.toList 0 = n

theorem uppercaseChar_of_isDigit {c : Char} (h : c.isDigit) : uppercaseChar c = [c] := by
  have hc := Syntax.toNat_of_isDigit h
  have hlower : ¬ ('a'.val ≤ c.val ∧ c.val ≤ 'z'.val) := by
    rintro ⟨ha, -⟩
    have : 97 ≤ c.toNat := UInt32.le_iff_toNat_le.1 ha
    omega
  have hupper : c.toUpper = c := dif_neg hlower
  rw [uppercaseChar_ascii (by omega), hupper]

namespace Numeral

variable {s : String} {n : Nat}

theorem trim_eq (h : Numeral s n) : trim s = s := by
  have hblank : ∀ c ∈ s.toList, isBlank c = false :=
    fun c hc => Syntax.isBlank_eq_false_of_isDigit (h.isDigit c hc)
  have htrimmed : Trimmed s.toList :=
    ⟨fun c hc => hblank c (List.mem_of_mem_head? hc),
      fun c hc => hblank c (List.mem_of_mem_getLast? hc)⟩
  rw [trim, htrimmed.trimChars_eq, String.ofList_toList]

theorem uppercase_eq (h : Numeral s n) : uppercase s = s := by
  have hchars : s.toList.flatMap uppercaseChar = s.toList.flatMap fun c => [c] :=
    List.flatMap_congr fun c hc => uppercaseChar_of_isDigit (h.isDigit c hc)
  rw [uppercase, hchars, List.flatMap_singleton', String.ofList_toList]

theorem readByte?_eq (h : Numeral s n) :
    Level.readByte? s.toList = if n ≤ 255 then some n else none := by
  have hall := List.all_eq_true.2 h.isDigit
  have hvalue := h.value
  cases hs : s.toList with
  | nil => exact absurd hs h.ne_nil
  | cons c cs =>
    have hplus : c ≠ '+' := by
      rintro rfl
      exact absurd (h.isDigit '+' (by simp [hs])) (by decide)
    rw [hs] at hall hvalue
    simp [Level.readByte?, hplus, hall, hvalue]

theorem named?_eq_none (h : Numeral s n) : Level.named? s = none := by
  have hne : ∀ name : String, name.toList.all Char.isDigit = false → s ≠ name := by
    rintro name hname rfl
    rw [List.all_eq_true.2 h.isDigit] at hname
    cases hname
  rw [Level.named?, if_neg (hne _ rfl), if_neg (hne _ rfl), if_neg (hne _ rfl),
    if_neg (hne _ rfl), if_neg (hne _ rfl), if_neg (hne _ rfl)]

/-- A numeral names the level of its number if this fits into a byte. -/
theorem parse?_eq (h : Numeral s n) :
    Level.parse? s = if n ≤ 255 then some (.ofNumber n) else none := by
  unfold Level.parse?
  rw [h.trim_eq, h.readByte?_eq, h.uppercase_eq, h.named?_eq_none]
  split_ifs <;> rfl

theorem parse?_eq_some_iff (h : Numeral s n) {l : Level} :
    Level.parse? s = some l ↔ n ≤ 255 ∧ l.number = min n 5 := by
  rw [h.parse?_eq, Option.ite_none_right_eq_some, Option.some.injEq, ← Level.number_ofNumber]
  exact and_congr_right fun _ => ⟨fun hl => hl ▸ rfl, fun hl => Level.number_injective hl.symm⟩

end Numeral

end Log

/-! ## Settings with numerals -/

namespace Shell

open Log

/-- The environment sets the level by this text. -/
inductive SetsLevel (lookup : String → Option String) (s : String) : Prop
  | own : lookup levelVariable = some s → SetsLevel lookup s
  | general : lookup levelVariable = none → lookup generalLevelVariable = some s →
      SetsLevel lookup s

theorem afterStart?_append (start text : List Char) :
    afterStart? start (start ++ text) = some text := by
  induction start with
  | nil => cases text <;> rfl
  | cons c cs ih => rw [List.cons_append, afterStart?, if_pos rfl, ih]

namespace Config

theorem level_ofEnvironment {lookup : String → Option String} {s : String}
    (h : SetsLevel lookup s) :
    (ofEnvironment lookup).level = (Level.parse? s).getD .off := by
  have hs : (lookup levelVariable).or (lookup generalLevelVariable) = some s := by
    cases h with
    | own h => rw [h, Option.some_or]
    | general hown h => rw [hown, Option.none_or, h]
  rw [ofEnvironment, hs, Option.bind_some]

theorem levelOfArgument?_append (s : String) :
    levelOfArgument? (levelOption ++ s) = Level.parse? s := by
  rw [levelOfArgument?, String.toList_append, afterStart?_append, Option.bind_some,
    String.ofList_toList]

/-- The first argument that may set the level does so, and otherwise the arguments behind it count. -/
theorem withArguments_append (config : Config) {before : List String}
    (h : ∀ a ∈ before, levelOfArgument? a = none) (s : String) (after : List String) :
    config.withArguments (before ++ (levelOption ++ s) :: after) =
      match Level.parse? s with
      | some level => { config with level }
      | none => config.withArguments after := by
  rw [withArguments, List.findSome?_append, List.findSome?_eq_none_iff.2 h, Option.none_or,
    List.findSome?_cons, levelOfArgument?_append]
  cases Level.parse? s <;> rfl

variable {s : String} {n : Nat}

theorem number_level_ofEnvironment (hs : Numeral s n) {lookup : String → Option String}
    (h : SetsLevel lookup s) :
    (ofEnvironment lookup).level.number = if n ≤ 255 then min n 5 else 0 := by
  rw [level_ofEnvironment h, hs.parse?_eq]
  split_ifs
  · exact Level.number_ofNumber n
  · rfl

theorem number_level_withArguments (hs : Numeral s n) (hn : n ≤ 255) (config : Config)
    {before : List String} (h : ∀ a ∈ before, levelOfArgument? a = none) (after : List String) :
    (config.withArguments (before ++ (levelOption ++ s) :: after)).level.number = min n 5 := by
  rw [config.withArguments_append h, hs.parse?_eq, if_pos hn]
  exact Level.number_ofNumber n

theorem withArguments_of_lt (hs : Numeral s n) (hn : 255 < n) (config : Config)
    {before : List String} (h : ∀ a ∈ before, levelOfArgument? a = none) (after : List String) :
    config.withArguments (before ++ (levelOption ++ s) :: after) =
      config.withArguments after := by
  rw [config.withArguments_append h, hs.parse?_eq, if_neg (Nat.not_le_of_lt hn)]

end Config

end Shell

open Log Shell

/-- A numeral names a level exactly if its number is at most 255, and this is the level numbered by
the smaller of the number and 5. So it is with the level of an environment, where any other numeral
switches logging off, and with that of an argument, where any other numeral does not count. Of two
numbers up to 255 the larger one never logs less. -/
theorem numeric_levels {s : String} {n : Nat} (hs : Numeral s n) :
    (∀ l, Level.parse? s = some l ↔ n ≤ 255 ∧ l.number = min n 5) ∧
    (∀ lookup, SetsLevel lookup s →
      (Config.ofEnvironment lookup).level.number = if n ≤ 255 then min n 5 else 0) ∧
    (∀ (config : Config) (before after : List String),
      (∀ a ∈ before, Config.levelOfArgument? a = none) →
      let arguments := before ++ (levelOption ++ s) :: after
      (n ≤ 255 → (config.withArguments arguments).level.number = min n 5) ∧
      (255 < n → config.withArguments arguments = config.withArguments after)) ∧
    ∀ (t : String) (m : Nat), Numeral t m → m ≤ n → n ≤ 255 →
      (∀ lookup lookup', SetsLevel lookup t → SetsLevel lookup' s →
        (Config.ofEnvironment lookup).level ≤ (Config.ofEnvironment lookup').level) ∧
      ∀ (config : Config) (before after : List String),
        (∀ a ∈ before, Config.levelOfArgument? a = none) →
        (config.withArguments (before ++ (levelOption ++ t) :: after)).level ≤
          (config.withArguments (before ++ (levelOption ++ s) :: after)).level := by
  refine ⟨fun l => hs.parse?_eq_some_iff, fun lookup h => Config.number_level_ofEnvironment hs h,
    ?_, ?_⟩
  · intro config before after h
    exact ⟨fun hn => Config.number_level_withArguments hs hn config h after,
      fun hn => Config.withArguments_of_lt hs hn config h after⟩
  · intro t m ht hmn hn
    have hm : m ≤ 255 := hmn.trans hn
    have hmin : min m 5 ≤ min n 5 := by omega
    constructor
    · intro lookup lookup' h h'
      show Level.number _ ≤ Level.number _
      rw [Config.number_level_ofEnvironment ht h, Config.number_level_ofEnvironment hs h',
        if_pos hm, if_pos hn]
      exact hmin
    · intro config before after h
      show Level.number _ ≤ Level.number _
      rw [Config.number_level_withArguments ht hm config h,
        Config.number_level_withArguments hs hn config h]
      exact hmin

/-- Zeros in front make no difference. The general variable counts if the other one is missing, and
an argument that makes no sense is passed over. -/
theorem numeric_levels_leading_zeros :
    let lookup : String → Option String := fun name =>
      if name = "RUST_LOG" then some "0042" else none
    let config : Config := { level := .warn }
    Numeral "0042" 42 ∧ Level.parse? "0042" = some .trace ∧
    (Config.ofEnvironment lookup).level.number = 5 ∧
    (config.withArguments ["--debug=loud", "--debug=0042", "--debug=1"]).level.number = 5 ∧
    (config.withArguments ["--debug=loud", "--debug=3"]).level ≤
      (config.withArguments ["--debug=loud", "--debug=0042"]).level ∧
    config.withArguments ["--debug=256", "--debug=1"] = { level := .error } := by
  intro lookup config
  have h42 : Numeral "0042" 42 := ⟨by decide, List.all_eq_true.1 (by decide), by decide⟩
  have h3 : Numeral "3" 3 := ⟨by decide, List.all_eq_true.1 (by decide), by decide⟩
  have h256 : Numeral "256" 256 := ⟨by decide, List.all_eq_true.1 (by decide), by decide⟩
  have hloud : ∀ a ∈ ["--debug=loud"], Config.levelOfArgument? a = none := by decide +kernel
  obtain ⟨hparse, henvironment, harguments, hmonotone⟩ := numeric_levels h42
  refine ⟨h42, (hparse .trace).2 ⟨by decide, rfl⟩, henvironment lookup (.general rfl rfl),
    (harguments config ["--debug=loud"] ["--debug=1"] hloud).1 (by decide),
    (hmonotone "3" 3 h3 (by decide) (by decide)).2 config ["--debug=loud"] [] hloud, ?_⟩
  rw [show ["--debug=256", "--debug=1"] = [] ++ (levelOption ++ "256") :: ["--debug=1"] from rfl,
    ((numeric_levels h256).2.2.1 config [] ["--debug=1"] (by simp)).2 (by decide)]
  decide +kernel

/-- The number 256 is no level. As the level of an environment it switches off what 5 switches on. -/
theorem level_256_ignored :
    Level.parse? "256" = none ∧
    (Config.ofEnvironment fun _ => some "256").level = .off ∧
    (Config.ofEnvironment fun _ => some "5").level = .trace := by
  decide +kernel

end SqlSchema
