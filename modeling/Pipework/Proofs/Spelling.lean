import Mathlib.Data.List.Perm.Basic
import Pipework.Options

set_option autoImplicit false

/-!
The spelling of options. An argument list is read group by group, and what comes of it is a matter of what groups there
are, not of their order (`read_groups`): an option with a value may be given once, its value is taken as it is, and the
value of a limit has to be a number. So options are read again from every list of groups that spells them, and a second
value, or a limit that is no number, is refused (`ofArguments_of_spelling`).
-/

namespace Pipework.Options

/-- The text is a number: decimal digits, with at most one plus sign before them. -/
def Denotes (text : String) (value : Nat) : Prop :=
  ∃ digits : List Char, digits ≠ [] ∧ (∀ digit ∈ digits, digit.isDigit = true) ∧
    (text.toList = digits ∨ text.toList = '+' :: digits) ∧ Nat.ofDigitChars 10 digits 0 = value

theorem denotes_repr (value : Nat) : Denotes value.repr value :=
  ⟨Nat.toDigits 10 value, Nat.toDigits_ne_nil,
    fun _ inside => Nat.isDigit_of_mem_toDigits (by decide) (by decide) inside, .inl Nat.toList_repr,
    Nat.ofDigitChars_ten_toDigits⟩

/-- Further digits never make a number smaller. -/
theorem le_ofDigitChars (digits : List Char) (value : Nat) : value ≤ Nat.ofDigitChars 10 digits value := by
  rw [Nat.ofDigitChars_eq_ofDigitChars_zero]
  have positive : 0 < 10 ^ digits.length := Nat.pow_pos (by decide)
  have more := Nat.le_mul_of_pos_left value positive
  omega

theorem numberFrom_eq_ok_iff {digits : List Char} {start value : UInt64} :
    numberFrom start digits = .ok value ↔
      (∀ digit ∈ digits, digit.isDigit = true) ∧ Nat.ofDigitChars 10 digits start.toNat = value.toNat := by
  induction digits generalizing start with
  | nil => simp [numberFrom, UInt64.toNat_inj]
  | cons digit digits ih =>
    unfold numberFrom
    rw [Nat.ofDigitChars_cons, Nat.mul_comm 10]
    by_cases isDigit : digit.isDigit = true
    · rw [if_pos isDigit]
      dsimp only
      by_cases fits : start.toNat * 10 + (digit.toNat - '0'.toNat) < UInt64.size
      · rw [if_pos fits, ih, Nat.toUInt64_eq, UInt64.toNat_ofNat_of_lt' fits]
        simp [isDigit]
      · -- what is too large already is too large with the digits behind it
        rw [if_neg fits]
        refine iff_of_false (by simp) fun ⟨_, same⟩ => ?_
        have more := le_ofDigitChars digits (start.toNat * 10 + (digit.toNat - '0'.toNat))
        have bound := value.toNat_lt_size
        omega
    · rw [if_neg isDigit]
      exact iff_of_false (by simp) fun ⟨all, _⟩ => isDigit (all digit (by simp))

/-- What is read as a number is what denotes one that fits into 64 bits. -/
theorem number_eq_ok_iff {text : String} {value : UInt64} : number text = .ok value ↔ Denotes text value.toNat := by
  unfold number Denotes
  split
  next empty =>
    refine iff_of_false (by simp) ?_
    rintro ⟨digits, some, -, same | same, -⟩ <;> simp_all
  next digit rest signed =>
    rw [numberFrom_eq_ok_iff, signed]
    constructor
    · rintro ⟨all, same⟩
      exact ⟨digit :: rest, by simp, all, .inr rfl, same⟩
    · rintro ⟨digits, -, all, rfl | same, denotes⟩
      · exact absurd (all '+' (by simp)) (by decide)
      · obtain rfl : digit :: rest = digits := by simpa using same
        exact ⟨all, denotes⟩
  next nonempty unsigned =>
    rw [numberFrom_eq_ok_iff]
    constructor
    · rintro ⟨all, same⟩
      exact ⟨text.toList, nonempty, all, .inl rfl, same⟩
    · rintro ⟨digits, some, all, rfl | same, denotes⟩
      · exact ⟨all, denotes⟩
      · -- after a plus sign there is a digit, so this was the case before
        obtain ⟨digit, rest, rfl⟩ := List.exists_cons_of_ne_nil some
        exact absurd same (unsigned digit rest)

/-- A piece of an argument list that is read at once: an option with what it takes, or a switch. -/
inductive Group where
  | prompt (value : String)
  | maxStages (value : String)
  | noHistory
  | verbose (short : Bool)
  deriving DecidableEq

namespace Group

/-- The arguments of a group. -/
def arguments : Group → List String
  | prompt value => ["--prompt", value]
  | maxStages value => ["--max-stages", value]
  | noHistory => ["--no-history"]
  | verbose short => [if short then "-v" else "--verbose"]

/-- The option of a group with a value. -/
def option? : Group → Option String
  | prompt _ => some "--prompt"
  | maxStages _ => some "--max-stages"
  | noHistory | verbose _ => none

/-- The prompt that a group gives. -/
@[simp] def prompt? : Group → Option String
  | prompt value => some value
  | maxStages _ | noHistory | verbose _ => none

/-- The limit that a group gives, as it is read. -/
@[simp] def limit? : Group → Option (Except NumberError UInt64)
  | maxStages value => some (number value)
  | prompt _ | noHistory | verbose _ => none

@[simp] def isNoHistory : Group → Bool
  | noHistory => true
  | prompt _ | maxStages _ | verbose _ => false

@[simp] def isVerbose : Group → Bool
  | verbose _ => true
  | prompt _ | maxStages _ | noHistory => false

end Group

/-- What one group does to a reading. -/
def Reading.take (reading : Reading) : Group → Except ArgumentError Reading
  | .prompt value =>
    if reading.prompt.isSome then .error (.repeated "--prompt" value) else .ok { reading with prompt := some value }
  | .maxStages value =>
    if reading.maxStages.isSome then .error (.repeated "--max-stages" value)
    else
      match number value with
      | .error reason => .error (.badValue "--max-stages" value reason)
      | .ok limit => .ok { reading with maxStages := some limit }
  | .noHistory => .ok { reading with noHistory := true }
  | .verbose _ => .ok { reading with verbose := true }

/-- The arguments of a group are read together, whatever its value looks like. -/
theorem read_group {reading : Reading} (active : reading.ended = false) (unasked : reading.help = false)
    (group : Group) (rest : List String) :
    read reading (group.arguments ++ rest) = (reading.take group).bind (read · rest) := by
  cases group with
  | prompt value =>
    rw [Group.arguments, List.cons_append, List.singleton_append, read.eq_def]
    cases given : reading.prompt <;> simp [active, unasked, Argument.ofString, Reading.take, given, Except.bind]
  | maxStages value =>
    rw [Group.arguments, List.cons_append, List.singleton_append, read.eq_def]
    cases given : reading.maxStages with
    | none =>
      cases known : number value <;>
        simp [active, unasked, Argument.ofString, Reading.take, given, known, Except.bind]
    | some first => simp [active, unasked, Argument.ofString, Reading.take, given, Except.bind]
  | noHistory =>
    rw [Group.arguments, List.singleton_append, read.eq_def]
    simp [active, unasked, Argument.ofString, Reading.take, Except.bind]
  | verbose short =>
    rw [Group.arguments, List.singleton_append, read.eq_def]
    cases short <;> simp [active, unasked, Argument.ofString, Reading.take, Except.bind]

theorem take_open {reading : Reading} {group : Group} {next : Reading} (taken : reading.take group = .ok next) :
    next.ended = reading.ended ∧ next.help = reading.help := by
  unfold Reading.take at taken
  split at taken
  · split at taken <;> cases taken
    exact ⟨rfl, rfl⟩
  · split at taken
    · cases taken
    · split at taken <;> cases taken
      exact ⟨rfl, rfl⟩
  all_goals
    cases taken
    exact ⟨rfl, rfl⟩

/-- What reading these groups adds: at most one prompt and at most one limit, which is a number, and every switch. -/
@[mk_iff]
structure Reading.Takes (reading : Reading) (groups : List Group) (after : Reading) : Prop where
  prompt : reading.prompt.toList ++ groups.filterMap Group.prompt? = after.prompt.toList
  maxStages : reading.maxStages.toList.map .ok ++ groups.filterMap Group.limit? = after.maxStages.toList.map .ok
  noHistory : after.noHistory = (reading.noHistory || groups.any Group.isNoHistory)
  verbose : after.verbose = (reading.verbose || groups.any Group.isVerbose)
  help : after.help = reading.help
  ended : after.ended = reading.ended

theorem Reading.takes_nil {reading after : Reading} : reading.Takes [] after ↔ reading = after := by
  constructor
  · rintro ⟨prompt, maxStages, noHistory, verbose, help, ended⟩
    obtain ⟨first, second, _, _, _, _⟩ := reading
    obtain ⟨first', second', _, _, _, _⟩ := after
    cases first <;> cases first' <;> cases second <;> cases second' <;> simp_all
  · rintro rfl
    constructor <;> simp

theorem Reading.takes_cons {reading : Reading} {group : Group} {groups : List Group} {after : Reading} :
    reading.Takes (group :: groups) after ↔ ∃ next, reading.take group = .ok next ∧ next.Takes groups after := by
  cases group with
  | prompt value =>
    cases given : reading.prompt with
    | none =>
      simp [takes_iff, take, given, List.filterMap_cons]
    | some first =>
      refine iff_of_false (fun takes => ?_) (by simp [take, given])
      have many := congrArg List.length takes.prompt
      have few := Option.length_toList_le (o := after.prompt)
      simp [given] at many
      omega
  | maxStages value =>
    cases given : reading.maxStages with
    | none =>
      cases read : number value with
      | error reason =>
        refine iff_of_false (fun takes => ?_) (by simp [take, given, read])
        have same := takes.maxStages
        cases limit : after.maxStages <;> simp [given, limit, read] at same
      | ok limit =>
        simp [takes_iff, take, given, read, List.filterMap_cons]
    | some first =>
      refine iff_of_false (fun takes => ?_) (by simp [take, given])
      have many := congrArg List.length takes.maxStages
      have few := Option.length_toList_le (o := after.maxStages)
      simp [given] at many
      omega
  | noHistory =>
    simp [takes_iff, take, List.filterMap_cons]
  | verbose short =>
    simp [takes_iff, take, List.filterMap_cons]

/-- What comes of groups is a matter of what groups there are. -/
theorem read_groups {reading : Reading} (active : reading.ended = false) (unasked : reading.help = false)
    (groups : List Group) (after : Reading) :
    read reading (groups.flatMap Group.arguments) = .ok after ↔ reading.Takes groups after := by
  induction groups generalizing reading with
  | nil => rw [List.flatMap_nil, read, Except.ok.injEq, Reading.takes_nil]
  | cons group groups ih =>
    rw [List.flatMap_cons, read_group active unasked, Reading.takes_cons]
    cases taken : reading.take group with
    | error reason => simp [Except.bind]
    | ok next =>
      have same := take_open taken
      simp [Except.bind, ih (same.1.trans active) (same.2.trans unasked)]

theorem ofArguments_groups {groups : List Group} {options : Options} :
    ofArguments (groups.flatMap Group.arguments) = .ok options ↔
      ∃ reading, ({} : Reading).Takes groups reading ∧ reading.options = options := by
  have taken (reading : Reading) :
      read {} (groups.flatMap Group.arguments) = .ok reading ↔ ({} : Reading).Takes groups reading :=
    read_groups rfl rfl groups reading
  simp only [← taken, ofArguments]
  cases read : Options.read {} (groups.flatMap Group.arguments) with
  | error reason => simp
  | ok reading =>
    have unasked : reading.help = false := ((taken reading).mp read).help
    simp [unasked]

/-- Groups never ask for help: where they give no options, they are refused. -/
theorem refused_of_not_takes {groups : List Group} (none : ∀ reading, ¬ ({} : Reading).Takes groups reading) :
    ∃ reason, ofArguments (groups.flatMap Group.arguments) = .error (.failure reason) := by
  unfold ofArguments
  cases read : Options.read {} (groups.flatMap Group.arguments) with
  | error reason => exact ⟨reason, rfl⟩
  | ok reading => exact absurd ((read_groups rfl rfl groups reading).mp read) (none reading)

/-- A list that holds what an optional value holds is that value's list. -/
theorem eq_toList_of_perm {α : Type} {values : List α} {value : Option α} (same : values.Perm value.toList) :
    values = value.toList := by
  cases value with
  | none => simpa using same
  | some value => simpa using same

/-- The groups that spell options, with a group for the prompt and for the limit or without. -/
def spelled (options : Options) (prompt limit short : Bool) : List Group :=
  (if prompt then [.prompt options.prompt] else []) ++
  (if limit then [.maxStages options.maxStages.toNat.repr] else []) ++
  (if options.noHistory then [.noHistory] else []) ++
  (if options.verbose then [.verbose short] else [])

/-- The groups spell the options, in whatever order. Only what is the default is left out. -/
def Spells (groups : List Group) (options : Options) : Prop :=
  ∃ prompt limit short : Bool,
    (prompt = false → options.prompt = { : Options }.prompt) ∧
    (limit = false → options.maxStages = { : Options }.maxStages) ∧
    groups.Perm (spelled options prompt limit short)

section

variable (options : Options) (prompt limit short : Bool)

theorem prompts_spelled :
    (spelled options prompt limit short).filterMap Group.prompt? =
      (if prompt then some options.prompt else none).toList := by
  obtain ⟨_, _, quiet, loud⟩ := options
  cases prompt <;> cases limit <;> cases quiet <;> cases loud <;> rfl

theorem limits_spelled :
    (spelled options prompt limit short).filterMap Group.limit? =
      (if limit then some (.ok options.maxStages) else none).toList := by
  have known : number options.maxStages.toNat.repr = .ok options.maxStages := number_eq_ok_iff.mpr (denotes_repr _)
  rw [← known]
  obtain ⟨_, _, quiet, loud⟩ := options
  cases prompt <;> cases limit <;> cases quiet <;> cases loud <;> rfl

theorem any_isNoHistory_spelled : (spelled options prompt limit short).any Group.isNoHistory = options.noHistory := by
  obtain ⟨_, _, quiet, loud⟩ := options
  cases prompt <;> cases limit <;> cases quiet <;> cases loud <;> rfl

theorem any_isVerbose_spelled : (spelled options prompt limit short).any Group.isVerbose = options.verbose := by
  obtain ⟨_, _, quiet, loud⟩ := options
  cases prompt <;> cases limit <;> cases quiet <;> cases loud <;> rfl

end

/-- What spells options is read as them, however it is ordered. -/
theorem takes_of_perm_spelled {groups : List Group} {options : Options} {prompt limit short : Bool}
    (same : groups.Perm (spelled options prompt limit short)) :
    ({} : Reading).Takes groups
      { prompt := if prompt then some options.prompt else none,
        maxStages := if limit then some options.maxStages else none,
        noHistory := options.noHistory, verbose := options.verbose } where
  prompt := eq_toList_of_perm ((same.filterMap _).trans (.of_eq (prompts_spelled ..)))
  maxStages := by
    have limits := eq_toList_of_perm ((same.filterMap _).trans (.of_eq (limits_spelled ..)))
    rw [limits]
    cases limit <;> rfl
  noHistory := by rw [same.any_eq, any_isNoHistory_spelled, Bool.false_or]
  verbose := by rw [same.any_eq, any_isVerbose_spelled, Bool.false_or]
  help := rfl
  ended := rfl

/-- What two members of a list give is at least two values. -/
theorem two_le_length_filterMap {α β : Type} {give : α → Option β} {before rest : List α} {first : α} (second : α)
    (inside : first ∈ before ++ rest) (one : (give first).isSome) (other : (give second).isSome) :
    2 ≤ ((before ++ second :: rest).filterMap give).length := by
  obtain ⟨value, given⟩ := Option.isSome_iff_exists.mp one
  obtain ⟨value', given'⟩ := Option.isSome_iff_exists.mp other
  have gives : value ∈ (before ++ rest).filterMap give := List.mem_filterMap.mpr ⟨first, inside, given⟩
  have some := List.length_pos_of_mem gives
  rw [List.filterMap_append, List.length_append] at some ⊢
  rw [List.filterMap_cons_some given', List.length_cons]
  omega

/-- A second group with a value is never taken. -/
theorem Reading.Takes.unique {reading after : Reading} {before rest : List Group} {first second : Group}
    (takes : reading.Takes (before ++ second :: rest) after) (valued : second.option?.isSome)
    (inside : first ∈ before ++ rest) : first.option? ≠ second.option? := by
  intro same
  have prompts := congrArg List.length takes.prompt
  have limits := congrArg List.length takes.maxStages
  have onePrompt := Option.length_toList_le (o := after.prompt)
  have oneLimit := Option.length_toList_le (o := after.maxStages)
  simp only [List.length_append, List.length_map] at prompts limits
  cases second with
  | prompt value =>
    have gives : first.prompt?.isSome := by cases first <;> simp_all [Group.option?]
    have two := two_le_length_filterMap (.prompt value) inside gives rfl
    omega
  | maxStages value =>
    have gives : first.limit?.isSome := by cases first <;> simp_all [Group.option?]
    have two := two_le_length_filterMap (.maxStages value) inside gives rfl
    omega
  | noHistory => simp [Group.option?] at valued
  | verbose short => simp [Group.option?] at valued

/-- Where a limit was taken, another number in its place is. -/
theorem Reading.Takes.replace {after : Reading} {before rest : List Group} {value text : String} {limit : UInt64}
    (takes : ({} : Reading).Takes (before ++ .maxStages value :: rest) after) (known : number text = .ok limit) :
    ({} : Reading).Takes (before ++ .maxStages text :: rest) { after with maxStages := some limit } where
  prompt := by simpa [List.filterMap_cons] using takes.prompt
  maxStages := by
    have one := congrArg List.length takes.maxStages
    have most := Option.length_toList_le (o := after.maxStages)
    simp only [List.filterMap_append, List.filterMap_cons, Group.limit?, List.length_append, List.length_cons,
      List.length_map] at one
    have noneBefore : before.filterMap Group.limit? = [] := List.eq_nil_of_length_eq_zero (by omega)
    have noneAfter : rest.filterMap Group.limit? = [] := List.eq_nil_of_length_eq_zero (by omega)
    simp [noneBefore, noneAfter, known]
  noHistory := by simpa using takes.noHistory
  verbose := by simpa using takes.verbose
  help := takes.help
  ended := takes.ended

/-- A limit that is no number is never taken. -/
theorem Reading.Takes.exists_number {reading after : Reading} {groups : List Group} {text : String}
    (takes : reading.Takes groups after) (inside : .maxStages text ∈ groups) : ∃ limit, number text = .ok limit := by
  have added : number text ∈ groups.filterMap Group.limit? := List.mem_filterMap.mpr ⟨_, inside, rfl⟩
  have taken : number text ∈ after.maxStages.toList.map Except.ok := takes.maxStages ▸ List.mem_append_right _ added
  obtain ⟨limit, -, same⟩ := List.mem_map.mp taken
  exact ⟨limit, same.symm⟩

theorem ofArguments_spelled {groups : List Group} {options : Options} (spells : Spells groups options) :
    ofArguments (groups.flatMap Group.arguments) = .ok options := by
  obtain ⟨prompt, limit, short, defaultPrompt, defaultLimit, same⟩ := spells
  refine ofArguments_groups.mpr ⟨_, takes_of_perm_spelled same, ?_⟩
  obtain ⟨text, most, _, _⟩ := options
  cases prompt <;> cases limit <;> simp_all [Reading.options]

/-- Options are read again from every list of groups that spells them. A second value of an option is refused, and so is
a limit that is not a number below 2⁶⁴; any other limit takes the place of the one that was given. -/
theorem ofArguments_of_spells (options : Options) (groups : List Group) (spells : Spells groups options) :
    ofArguments (groups.flatMap Group.arguments) = .ok options ∧
    (∀ before after second, before ++ after = groups → second.option?.isSome →
      (∃ first ∈ groups, first.option? = second.option?) →
      ∃ reason, ofArguments ((before ++ second :: after).flatMap Group.arguments) = .error (.failure reason)) ∧
    (∀ before value after text, before ++ .maxStages value :: after = groups →
      (∀ limit : UInt64, Denotes text limit.toNat →
        ofArguments ((before ++ .maxStages text :: after).flatMap Group.arguments) =
          .ok { options with maxStages := limit }) ∧
      ((¬ ∃ limit < UInt64.size, Denotes text limit) →
        ∃ reason, ofArguments ((before ++ .maxStages text :: after).flatMap Group.arguments) =
          .error (.failure reason))) := by
  have read := ofArguments_spelled spells
  refine ⟨read, ?_, ?_⟩
  · rintro before after second rfl valued ⟨first, inside, twice⟩
    exact refused_of_not_takes fun reading takes => takes.unique valued inside twice
  · rintro before value after text rfl
    constructor
    · intro limit denotes
      obtain ⟨reading, takes, rfl⟩ := ofArguments_groups.mp read
      exact ofArguments_groups.mpr ⟨_, takes.replace (number_eq_ok_iff.mpr denotes), rfl⟩
    · intro unknown
      refine refused_of_not_takes fun reading takes => unknown ?_
      have inside : .maxStages text ∈ before ++ .maxStages text :: after := by simp
      obtain ⟨limit, known⟩ := takes.exists_number inside
      exact ⟨limit.toNat, limit.toNat_lt, number_eq_ok_iff.mp known⟩

/-- The largest limit and a prompt that looks like an option, switches around them: read as they are, refused with a
second prompt, and refused with a limit that is larger by one. -/
theorem ofArguments_of_spells_largest :
    ofArguments ["-v", "--max-stages", "18446744073709551615", "--prompt", "--help", "--no-history"] =
      .ok { prompt := "--help", maxStages := 18446744073709551615, noHistory := true, verbose := true } ∧
    (∃ reason, ofArguments ["-v", "--prompt", "", "--max-stages", "18446744073709551615", "--prompt", "--help",
      "--no-history"] = .error (.failure reason)) ∧
    ∃ reason, ofArguments ["-v", "--max-stages", "18446744073709551616", "--prompt", "--help", "--no-history"] =
      .error (.failure reason) := by
  have spells : Spells [.verbose true, .maxStages "18446744073709551615", .prompt "--help", .noHistory]
      { prompt := "--help", maxStages := 18446744073709551615, noHistory := true, verbose := true } :=
    ⟨true, true, true, by simp, by simp, by decide +kernel⟩
  have tooLarge : ¬ ∃ limit < UInt64.size, Denotes "18446744073709551616" limit := by
    rintro ⟨limit, small, denotes⟩
    rw [← UInt64.toNat_ofNat_of_lt' small] at denotes
    have known := number_eq_ok_iff.mpr denotes
    have unknown : number "18446744073709551616" = .error .tooLarge := by decide +kernel
    simp [unknown] at known
  obtain ⟨read, refused, replaced⟩ := ofArguments_of_spells _ _ spells
  exact ⟨read, refused [.verbose true] _ (.prompt "") rfl rfl ⟨.prompt "--help", by simp, rfl⟩,
    (replaced [.verbose true] _ _ "18446744073709551616" rfl).2 tooLarge⟩

end Pipework.Options
