import Mathlib.Data.List.TakeWhile
import Pipework.Line

set_option autoImplicit false

/-!
The names of a line. `Line.words` finds exactly the maximal runs of characters that are no delimiters, in their order,
and it finds the names again in every line that is written down from names and strings of delimiters. What becomes of a
line follows from its names: `Line.stages` counts them before it looks for one with a NUL in it.

Two lines with a delimiter between them have the names of the first line and then those of the second
(`words_append_cons`). So their stages, or the reason why they have none, are known from those of the two lines
(`stages_append`), and it is of no consequence which delimiters stand between names, and how many.
-/

namespace Pipework

namespace Bytes

/-- Reading a byte array from an index on appends what is there to what has been read. -/
theorem toList_loop (bytes : ByteArray) (index : Nat) (done : List UInt8) :
    ByteArray.toList.loop bytes index done = done.reverse ++ bytes.data.toList.drop index := by
  induction index, done using ByteArray.toList.loop.induct bytes with
  | case1 index done inside ih =>
    rw [ByteArray.toList.loop.eq_def, if_pos inside, ih, List.reverse_cons, List.append_assoc, List.singleton_append]
    have bound : index < bytes.data.toList.length := inside
    rw [List.drop_eq_getElem_cons bound]
    congr 2
    rw [ByteArray.get!, Array.getElem_toList]
    exact getElem!_pos bytes.data index inside
  | case2 index done outside =>
    rw [ByteArray.toList.loop.eq_def, if_neg outside, List.drop_eq_nil_of_le (Nat.le_of_not_lt outside),
      List.append_nil]

/-- A text is encoded character by character. -/
theorem ofString_ofList (chars : List Char) :
    ofString (String.ofList chars) = chars.flatMap String.utf8EncodeChar := by
  rw [ofString, ByteArray.toList, toList_loop]
  simp [List.utf8Encode]

/-- No byte of a character's encoding is zero, but for the NUL's. -/
theorem eq_nul_of_zero_mem_utf8EncodeChar {char : Char} (zero : 0 ∈ String.utf8EncodeChar char) : char = '\x00' := by
  have byte : ∀ {value : Nat}, 0 = UInt8.ofNat value → value % 256 = 0 := by
    intro value zero
    simpa using congrArg UInt8.toNat zero.symm
  have bound : char.val.toNat < 0x110000 := by
    have valid := char.valid
    unfold UInt32.isValidChar Nat.isValidChar at valid
    omega
  unfold String.utf8EncodeChar at zero
  dsimp only at zero
  split at zero
  · have value := byte (List.mem_singleton.mp zero)
    exact Char.ext (UInt32.toNat_inj.mp (by change char.val.toNat = 0; omega))
  · -- the bytes of longer encodings are at least 128
    exfalso
    split at zero
    · simp only [List.mem_cons, List.not_mem_nil, or_false] at zero
      rcases zero with zero | zero <;> have := byte zero <;> omega
    · split at zero
      · simp only [List.mem_cons, List.not_mem_nil, or_false] at zero
        rcases zero with zero | zero | zero <;> have := byte zero <;> omega
      · simp only [List.mem_cons, List.not_mem_nil, or_false] at zero
        rcases zero with zero | zero | zero | zero <;> have := byte zero <;> omega

/-- A text without a NUL is passed on without a zero byte. -/
theorem zero_notMem_ofString {text : String} (absent : '\x00' ∉ text.toList) : 0 ∉ ofString text := by
  rw [← String.ofList_toList (s := text), ofString_ofList]
  intro zero
  obtain ⟨char, inside, zero⟩ := List.mem_flatMap.mp zero
  exact absent (eq_nul_of_zero_mem_utf8EncodeChar zero ▸ inside)

end Bytes

namespace Line

section Word

variable {word rest : List Char}

/-- A word goes up to the first delimiter. -/
theorem takeWhile_word (bare : ∀ char ∈ word, isDelimiter char = false)
    (ends : ∀ char ∈ rest.head?, isDelimiter char = true) : (word ++ rest).takeWhile (! isDelimiter ·) = word := by
  rw [List.takeWhile_append_of_pos (by simpa using bare)]
  cases rest <;> simp_all

theorem dropWhile_word (bare : ∀ char ∈ word, isDelimiter char = false)
    (ends : ∀ char ∈ rest.head?, isDelimiter char = true) : (word ++ rest).dropWhile (! isDelimiter ·) = rest := by
  rw [List.dropWhile_append_of_pos (by simpa using bare)]
  cases rest <;> simp_all

@[simp]
theorem words_nil : words [] = [] := by unfold words; rfl

theorem words_cons {delimiter : Char} {line : List Char} (delimits : isDelimiter delimiter = true) :
    words (delimiter :: line) = words line := by
  rw [words, if_pos delimits]

/-- Delimiters at the beginning of a line are of no consequence. -/
theorem words_gap_append {gap line : List Char} (delimit : ∀ char ∈ gap, isDelimiter char = true) :
    words (gap ++ line) = words line := by
  induction gap with
  | nil => rfl
  | cons char gap ih =>
    rw [List.cons_append, words_cons (delimit char (by simp)), ih fun other inside => delimit other (by simp [inside])]

theorem words_word_append (nonempty : word ≠ []) (bare : ∀ char ∈ word, isDelimiter char = false)
    (ends : ∀ char ∈ rest.head?, isDelimiter char = true) : words (word ++ rest) = word :: words rest := by
  obtain ⟨char, others, rfl⟩ := List.exists_cons_of_ne_nil nonempty
  have plain : ∀ char ∈ others, isDelimiter char = false := fun other inside => bare other (by simp [inside])
  rw [List.cons_append, words, if_neg (by simp [bare char]), takeWhile_word plain ends, dropWhile_word plain ends]

end Word

/-- A run of characters that are no delimiters, at a place in a line; it is as long as it can be. -/
structure IsRun (line : List Char) (start : Nat) (run : List Char) : Prop where
  nonempty : run ≠ []
  bare : ∀ char ∈ run, isDelimiter char = false
  placed : ∃ before after, line = before ++ (run ++ after) ∧ before.length = start ∧
    (∀ char ∈ before.getLast?, isDelimiter char = true) ∧ ∀ char ∈ after.head?, isDelimiter char = true

theorem not_isRun_nil {start : Nat} {run : List Char} : ¬ IsRun [] start run := by
  rintro ⟨nonempty, -, before, after, line, -⟩
  simp_all

/-- Runs are not changed by a delimiter before them. -/
theorem isRun_cons {delimiter : Char} {line run : List Char} {start : Nat} (delimits : isDelimiter delimiter = true) :
    IsRun (delimiter :: line) start run ↔ ∃ earlier, start = earlier + 1 ∧ IsRun line earlier run := by
  constructor
  · rintro ⟨nonempty, bare, before, after, parts, rfl, last, first⟩
    cases before with
    | nil =>
      -- a run does not begin with a delimiter
      obtain ⟨char, others, rfl⟩ := List.exists_cons_of_ne_nil nonempty
      simp only [List.nil_append, List.cons_append, List.cons.injEq] at parts
      exact absurd (bare char (by simp)) (by simp [← parts.1, delimits])
    | cons char before =>
      simp only [List.cons_append, List.cons.injEq] at parts
      refine ⟨before.length, rfl, nonempty, bare, before, after, parts.2, rfl, fun other isLast => ?_, first⟩
      exact last other (by rw [List.getLast?_cons, isLast]; rfl)
  · rintro ⟨earlier, rfl, nonempty, bare, before, after, rfl, rfl, last, first⟩
    refine ⟨nonempty, bare, delimiter :: before, after, rfl, rfl, fun other isLast => ?_, first⟩
    rw [List.getLast?_cons] at isLast
    cases inner : before.getLast? with
    | none => simp_all
    | some char => exact last other (by simp_all)

/-- A line that begins with a word, up to its end or to a delimiter, has this word as its first run, and no other run
before the word's end. -/
theorem isRun_append {word rest run : List Char} {start : Nat} (nonempty : word ≠ [])
    (bare : ∀ char ∈ word, isDelimiter char = false) (ends : ∀ char ∈ rest.head?, isDelimiter char = true) :
    IsRun (word ++ rest) start run ↔
      start = 0 ∧ run = word ∨ ∃ earlier, start = earlier + word.length ∧ IsRun rest earlier run := by
  constructor
  · rintro ⟨filled, plain, before, after, parts, rfl, last, first⟩
    by_cases leading : before = []
    · -- both the run and the word are what comes before the first delimiter
      refine .inl ⟨by rw [leading]; rfl, ?_⟩
      rw [← takeWhile_word plain first, ← takeWhile_word bare ends, parts, leading, List.nil_append]
    · rcases List.append_eq_append_iff.mp parts with ⟨between, rfl, rfl⟩ | ⟨between, rfl, -⟩
      · refine .inr ⟨between.length, by simp [Nat.add_comm], filled, plain, between, after, rfl, rfl, ?_, first⟩
        intro char isLast
        exact last char (by rw [List.getLast?_append, isLast]; rfl)
      · -- what comes before the run ends with a delimiter, and the word has none
        have delimits := last _ (List.getLast?_eq_some_getLast leading)
        simp [bare _ (List.mem_append_left _ (List.getLast_mem leading))] at delimits
  · rintro (⟨rfl, rfl⟩ | ⟨earlier, rfl, filled, plain, before, after, rfl, rfl, last, first⟩)
    · exact ⟨nonempty, bare, [], rest, rfl, rfl, by simp, ends⟩
    · refine ⟨filled, plain, word ++ before, after, by simp, by simp [Nat.add_comm], ?_, first⟩
      cases before with
      | nil =>
        -- then the rest would begin with the run, and not with a delimiter
        obtain ⟨char, others, rfl⟩ := List.exists_cons_of_ne_nil filled
        exact absurd (ends char (by simp)) (by simp [plain char])
      | cons char others =>
        intro other isLast
        rw [List.getLast?_append] at isLast
        exact last other (by simpa [List.getLast?_cons] using isLast)

/-- A line is nothing, or it begins with a delimiter, or it begins with a word that goes up to its end or to a
delimiter. -/
@[elab_as_elim]
theorem word_induction {motive : List Char → Prop} (nil : motive [])
    (delimiter : ∀ char line, isDelimiter char = true → motive line → motive (char :: line))
    (word : ∀ word rest, word ≠ [] → (∀ char ∈ word, isDelimiter char = false) →
      (∀ char ∈ rest.head?, isDelimiter char = true) → motive rest → motive (word ++ rest))
    (line : List Char) : motive line := by
  induction line using words.induct with
  | case1 => exact nil
  | case2 char line delimits ih => exact delimiter char line delimits ih
  | case3 char line plain ih =>
    have parts : char :: line =
        (char :: line.takeWhile (! isDelimiter ·)) ++ line.dropWhile (! isDelimiter ·) := by simp
    rw [parts]
    refine word _ _ (by simp) (fun other inside => ?_) (fun other first => ?_) ih
    · rcases List.mem_cons.mp inside with rfl | inside
      · simpa using plain
      · simpa using List.mem_takeWhile_imp inside
    · have nonempty : line.dropWhile (! isDelimiter ·) ≠ [] := by rintro empty; simp [empty] at first
      have stopped := List.head_dropWhile_not (! isDelimiter ·) nonempty
      rw [List.head?_eq_some_head nonempty, Option.mem_some_iff] at first
      rw [← first]
      simpa using stopped

/-- The words of a line are its runs, in the order in which they stand there. -/
theorem exists_places (line : List Char) :
    ∃ places : List (Nat × List Char), places.map Prod.snd = words line ∧ places.Pairwise (·.1 < ·.1) ∧
      ∀ start run, (start, run) ∈ places ↔ IsRun line start run := by
  induction line using word_induction with
  | nil => exact ⟨[], by simp, .nil, fun start run => by simp [not_isRun_nil]⟩
  | delimiter char line delimits ih =>
    obtain ⟨places, texts, ascending, runs⟩ := ih
    refine ⟨places.map fun place => (place.1 + 1, place.2), ?_, ?_, fun start run => ?_⟩
    · rw [words_cons delimits, ← texts, List.map_map]
      rfl
    · simpa [List.pairwise_map] using ascending
    · simp only [isRun_cons delimits, ← runs, List.mem_map, Prod.exists, Prod.mk.injEq]
      constructor
      · rintro ⟨earlier, run, inside, rfl, rfl⟩
        exact ⟨earlier, rfl, inside⟩
      · rintro ⟨earlier, rfl, inside⟩
        exact ⟨earlier, run, inside, rfl, rfl⟩
  | word word rest nonempty bare ends ih =>
    obtain ⟨places, texts, ascending, runs⟩ := ih
    refine ⟨(0, word) :: places.map fun place => (place.1 + word.length, place.2), ?_, ?_, fun start run => ?_⟩
    · rw [words_word_append nonempty bare ends, ← texts, List.map_cons, List.map_map]
      rfl
    · refine List.pairwise_cons.mpr ⟨fun place inside => ?_, by simpa [List.pairwise_map] using ascending⟩
      obtain ⟨later, -, rfl⟩ := List.mem_map.mp inside
      exact Nat.add_pos_right _ (List.length_pos_iff.mpr nonempty)
    · simp only [isRun_append nonempty bare ends, ← runs, List.mem_cons, List.mem_map, Prod.exists, Prod.mk.injEq]
      constructor
      · rintro (first | ⟨earlier, run, inside, rfl, rfl⟩)
        · exact .inl first
        · exact .inr ⟨earlier, rfl, inside⟩
      · rintro (first | ⟨earlier, rfl, inside⟩)
        · exact .inl first
        · exact .inr ⟨earlier, run, inside, rfl, rfl⟩

/-- These are the stages of these names, counted from a position on; each is passed its name as its only argument, and
nothing in it would be taken for the end of a text. -/
def Numbers (position : Nat) (names : List (List Char)) (stages : List Stage) : Prop :=
  stages.length = names.length ∧ ∀ index name, names[index]? = some name →
    ∃ stage, stages[index]? = some stage ∧ stage.position = position + index ∧ stage.program = String.ofList name ∧
      stage.arguments = [Bytes.ofString (String.ofList name)] ∧ ∀ argument ∈ stage.arguments, 0 ∉ argument

theorem Numbers.cons {position : Nat} {name : List Char} {names : List (List Char)} {stage : Stage}
    {stages : List Stage} (numbers : Numbers (position + 1) names stages) (place : stage.position = position)
    (program : stage.program = String.ofList name) : Numbers position (name :: names) (stage :: stages) := by
  obtain ⟨long, each⟩ := numbers
  refine ⟨by simp [long], fun index other found => ?_⟩
  cases index with
  | zero =>
    obtain rfl : name = other := by simpa using found
    refine ⟨stage, rfl, place, program, by rw [← program]; rfl, fun argument inside => ?_⟩
    rw [List.mem_singleton.mp inside]
    exact Bytes.zero_notMem_ofString stage.nul_not_mem
  | succ index =>
    obtain ⟨later, present, place, rest⟩ := each index other (by simpa using found)
    exact ⟨later, by simpa using present, by omega, rest⟩

/-- Names are refused at the first one with a NUL in it. -/
theorem stagesFrom_of_nul {position index : Nat} {names : List (List Char)} {name : List Char}
    (found : names[index]? = some name) (nul : '\x00' ∈ name) (first : ∀ earlier ∈ names.take index, '\x00' ∉ earlier) :
    stagesFrom position names = .error (.interiorNul (position + index)) := by
  induction names generalizing position index with
  | nil => simp at found
  | cons word later ih =>
    unfold stagesFrom
    cases index with
    | zero =>
      obtain rfl : word = name := by simpa using found
      rw [Stage.make?_eq_none_iff.mpr (by simpa using nul)]
      rfl
    | succ index =>
      have bare : '\x00' ∉ word := first word (by simp)
      have rest := @ih (position + 1) index (by simpa using found) fun earlier inside =>
        first earlier (by simp [inside])
      rw [Stage.make?, dif_pos (by simpa using bare)]
      simp only [rest, Except.map]
      congr 2
      omega

theorem stagesFrom_of_no_nul {names : List (List Char)} (bare : ∀ name ∈ names, '\x00' ∉ name) (position : Nat) :
    ∃ stages, stagesFrom position names = .ok stages ∧ Numbers position names stages := by
  induction names generalizing position with
  | nil => exact ⟨[], rfl, rfl, by simp⟩
  | cons word later ih =>
    obtain ⟨stages, parsed, numbers⟩ := ih (fun name inside => bare name (by simp [inside])) (position + 1)
    unfold stagesFrom
    rw [Stage.make?, dif_pos (by simpa using bare word (by simp))]
    simp only [parsed, Except.map]
    exact ⟨_, rfl, numbers.cons rfl rfl⟩

/-- The stages of a line are its words, in their order. -/
theorem map_program_of_stagesFrom {position : Nat} {names : List (List Char)} {stages : List Stage}
    (parsed : stagesFrom position names = .ok stages) :
    stages.map Stage.program = names.map String.ofList := by
  induction names generalizing position stages with
  | nil =>
    cases parsed
    rfl
  | cons word later ih =>
    unfold stagesFrom at parsed
    split at parsed
    · cases parsed
    · rename_i stage made
      cases rest : stagesFrom (position + 1) later with
      | error reason => simp [rest, Except.map] at parsed
      | ok others =>
        simp only [rest, Except.map, Except.ok.injEq] at parsed
        subst parsed
        simp [ih rest, (Stage.make?_eq_some_iff.mp made).2]

theorem map_program_of_stages {line : String} {limit : Nat} {stages : List Stage}
    (parsed : Line.stages line limit = .ok stages) :
    stages.map Stage.program = (words line.toList).map String.ofList := by
  unfold Line.stages at parsed
  dsimp only at parsed
  split at parsed
  · cases parsed
  · exact map_program_of_stagesFrom parsed

/-- Names with delimiters around them: some before the first name, and some after each. -/
def rendering (before : String) : List (String × String) → String
  | [] => before
  | (name, gap) :: entries => before ++ name ++ rendering gap entries

/-- What can be the name of a stage. -/
def IsName (name : String) : Prop :=
  name ≠ "" ∧ ∀ char ∈ name.toList, char ≠ '\x00' ∧ isDelimiter char = false

instance (name : String) : Decidable (IsName name) :=
  @instDecidableAnd _ _ _ (List.decidableBAll _ name.toList)

/-- Nothing but delimiters. -/
def IsGap (gap : String) : Prop :=
  ∀ char ∈ gap.toList, isDelimiter char = true

instance (gap : String) : Decidable (IsGap gap) :=
  List.decidableBAll _ gap.toList

/-- The words of a rendering are the names in it. -/
theorem words_rendering {before : String} {entries : List (String × String)} (leading : IsGap before)
    (names : ∀ entry ∈ entries, IsName entry.1) (gaps : ∀ entry ∈ entries, IsGap entry.2)
    (apart : ∀ entry ∈ entries.dropLast, entry.2 ≠ "") :
    words (rendering before entries).toList = entries.map (·.1.toList) := by
  induction entries generalizing before with
  | nil =>
    have blank : words (before.toList ++ []) = words [] := words_gap_append leading
    simpa [rendering] using blank
  | cons entry entries ih =>
    obtain ⟨name, gap⟩ := entry
    obtain ⟨nonempty, bare⟩ := names (name, gap) (by simp)
    have rest := ih (gaps (name, gap) (by simp)) (fun entry inside => names entry (by simp [inside]))
      (fun entry inside => gaps entry (by simp [inside]))
      fun entry inside => apart entry (by
        cases entries with
        | nil => simp at inside
        | cons => exact List.mem_cons_of_mem _ inside)
    have ends : ∀ char ∈ (rendering gap entries).toList.head?, isDelimiter char = true := by
      intro char first
      cases entries with
      | nil => exact gaps (name, gap) (by simp) char (List.mem_of_mem_head? first)
      | cons other entries =>
        have between : gap.toList ≠ [] := by simpa using apart (name, gap) (by simp)
        refine gaps (name, gap) (by simp) char (List.mem_of_mem_head? ?_)
        rw [rendering, String.append_assoc, String.toList_append, List.head?_append] at first
        simpa [List.head?_eq_some_head between] using first
    rw [rendering, String.append_assoc, String.toList_append, words_gap_append leading, String.toList_append,
      words_word_append (by simpa using nonempty) (fun char inside => (bare char inside).2) ends, rest]
    rfl

/-- What becomes of a line is a matter of its runs, taken from left to right: more of them than the limit are refused
whatever they hold, else the first with a NUL in it is, else each is a stage. A line that is written down from names,
with delimiters between them, has them for stages again. -/
theorem stages_eq_runs (limit : Nat) :
    (∀ line : String, ∃ places : List (Nat × List Char), places.Pairwise (·.1 < ·.1) ∧
      (∀ start run, (start, run) ∈ places ↔ IsRun line.toList start run) ∧
      (limit < places.length → Line.stages line limit = .error (.tooManyStages places.length limit)) ∧
      (places.length ≤ limit →
        (∀ index start run, places[index]? = some (start, run) → '\x00' ∈ run →
          (∀ earlier ∈ places.take index, '\x00' ∉ earlier.2) → Line.stages line limit = .error (.interiorNul index)) ∧
        ((∀ place ∈ places, '\x00' ∉ place.2) →
          ∃ found, Line.stages line limit = .ok found ∧ Numbers 0 (places.map Prod.snd) found))) ∧
    ∀ (before : String) (entries : List (String × String)), IsGap before → (∀ entry ∈ entries, IsName entry.1) →
      (∀ entry ∈ entries, IsGap entry.2) → (∀ entry ∈ entries.dropLast, entry.2 ≠ "") → entries.length ≤ limit →
      ∃ found, Line.stages (rendering before entries) limit = .ok found ∧
        Numbers 0 (entries.map (·.1.toList)) found := by
  refine ⟨fun line => ?_, fun before entries leading names gaps apart few => ?_⟩
  · obtain ⟨places, texts, ascending, runs⟩ := exists_places line.toList
    have count : (words line.toList).length = places.length := by rw [← texts, List.length_map]
    refine ⟨places, ascending, runs, fun many => ?_,
      fun few => ⟨fun index start run found nul first => ?_, fun bare => ?_⟩⟩
    · rw [Line.stages, if_pos (by rwa [count]), count]
    · rw [Line.stages, if_neg (by omega), ← texts]
      have refused := @stagesFrom_of_nul 0 index (places.map Prod.snd) run (by simp [found]) nul (by
        intro earlier inside
        rw [← List.map_take] at inside
        obtain ⟨place, early, rfl⟩ := List.mem_map.mp inside
        exact first place early)
      simpa using refused
    · rw [Line.stages, if_neg (by omega), ← texts]
      refine stagesFrom_of_no_nul (fun name inside => ?_) 0
      obtain ⟨place, present, rfl⟩ := List.mem_map.mp inside
      exact bare place present
  · have texts := words_rendering leading names gaps apart
    rw [Line.stages, texts, if_neg (by simpa using few)]
    refine stagesFrom_of_no_nul (fun name inside nul => ?_) 0
    obtain ⟨entry, present, rfl⟩ := List.mem_map.mp inside
    exact ((names entry present).2 _ nul).1 rfl

/-- No line with a name in it is short enough for the limit 0, and two names are found again under the limit 2. -/
theorem stages_eq_runs_of_two :
    (∃ count, 0 < count ∧ Line.stages "\tw\x00c" 0 = .error (.tooManyStages count 0)) ∧
      ∃ found, Line.stages " ls|\twc " 2 = .ok found ∧ Numbers 0 [['l', 's'], ['w', 'c']] found := by
  refine ⟨?_, (stages_eq_runs 2).2 " " [("ls", "|\t"), ("wc", " ")] (by decide) (by decide) (by decide) (by decide)
    (by decide)⟩
  obtain ⟨places, -, runs, many, -⟩ := (stages_eq_runs 0).1 "\tw\x00c"
  have only : IsRun ['\t', 'w', '\x00', 'c'] 1 ['w', '\x00', 'c'] :=
    ⟨by decide, by simp [isDelimiter], ['\t'], [], by decide, by decide, by simp [isDelimiter], by simp⟩
  have filled : 0 < places.length := List.length_pos_of_mem ((runs 1 _).mpr only)
  exact ⟨_, filled, many filled⟩

end Line

/-- A stage that comes so many places later. -/
def Stage.moved (places : Nat) (stage : Stage) : Stage := { stage with position := places + stage.position }

theorem Stage.make?_add (places position : Nat) (program : String) :
    make? (places + position) program = (make? position program).map (Stage.moved places) := by
  unfold make?
  split <;> rfl

namespace Line

/-- A name is refused that comes so many places later. -/
def Error.moved (places : Nat) : Error → Error
  | .tooManyStages count limit => .tooManyStages count limit
  | .interiorNul position => .interiorNul (places + position)

/-- How many names a line holds. -/
def count (line : String) : Nat := (words line.toList).length

section

variable {before after : List Char} {delimiter : Char}

/-- A delimiter parts the names before it from those behind it. -/
theorem words_append_cons (delimits : isDelimiter delimiter = true) (before after : List Char) :
    words (before ++ delimiter :: after) = words before ++ words after := by
  induction before using word_induction with
  | nil => rw [words_nil, List.nil_append, List.nil_append, words_cons delimits]
  | delimiter char line also ih => rw [List.cons_append, words_cons also, words_cons also, ih]
  | word word rest nonempty bare ends ih =>
    have further : ∀ char ∈ (rest ++ delimiter :: after).head?, isDelimiter char = true := by
      cases rest with
      | nil => simpa using delimits
      | cons char rest => simpa using ends
    rw [List.append_assoc, words_word_append nonempty bare further, words_word_append nonempty bare ends, ih,
      List.cons_append]

/-- Delimiters at the end of a line are of no consequence. -/
theorem words_append_gap {gap : List Char} (delimit : ∀ char ∈ gap, isDelimiter char = true) (line : List Char) :
    words (line ++ gap) = words line := by
  cases gap with
  | nil => rw [List.append_nil]
  | cons char gap =>
    have blank : words (gap ++ []) = words [] := words_gap_append fun other inside => delimit other (by simp [inside])
    rw [words_append_cons (delimit char (by simp)), ← List.append_nil gap, blank, words_nil, List.append_nil]

/-- A name is not empty and holds no delimiter. -/
theorem mem_words {line word : List Char} (inside : word ∈ words line) :
    word ≠ [] ∧ ∀ char ∈ word, isDelimiter char = false := by
  induction line using word_induction with
  | nil => simp at inside
  | delimiter char line delimits ih => exact ih (words_cons delimits ▸ inside)
  | word first rest nonempty bare ends ih =>
    rw [words_word_append nonempty bare ends] at inside
    rcases List.mem_cons.mp inside with rfl | inside
    · exact ⟨nonempty, bare⟩
    · exact ih inside

end

/-- Names are numbered on behind other ones, unless one of those is refused. -/
theorem stagesFrom_append (position : Nat) (names others : List (List Char)) :
    stagesFrom position (names ++ others) = do
      let found ← stagesFrom position names
      let later ← stagesFrom (position + names.length) others
      return found ++ later := by
  induction names generalizing position with
  | nil => cases rest : stagesFrom position others <;> simp [stagesFrom, rest, pure, bind, Except.pure, Except.bind]
  | cons word names ih =>
    have place : position + 1 + names.length = position + (names.length + 1) := by omega
    simp only [List.cons_append, stagesFrom, ih, place, List.length_cons]
    cases Stage.make? position (String.ofList word) with
    | none => rfl
    | some stage =>
      cases stagesFrom (position + 1) names with
      | error reason => rfl
      | ok found => cases stagesFrom (position + (names.length + 1)) others <;> rfl

/-- Names that are numbered from a later position on are the same stages, so many places later. -/
theorem stagesFrom_add (places position : Nat) (names : List (List Char)) :
    stagesFrom (places + position) names =
      ((stagesFrom position names).map (List.map (Stage.moved places))).mapError (Error.moved places) := by
  induction names generalizing position with
  | nil => rfl
  | cons word names ih =>
    have rest := ih (position + 1)
    rw [← Nat.add_assoc] at rest
    simp only [stagesFrom, Stage.make?_add, rest]
    cases Stage.make? position (String.ofList word) with
    | none => rfl
    | some stage => cases stagesFrom (position + 1) names <;> rfl

/-- The only names that are refused are those with a NUL in them. -/
theorem interiorNul_of_stagesFrom {position : Nat} {names : List (List Char)} {reason : Error}
    (refused : stagesFrom position names = .error reason) : ∃ place, reason = .interiorNul place := by
  induction names generalizing position with
  | nil => cases refused
  | cons word names ih =>
    unfold stagesFrom at refused
    split at refused
    · cases refused
      exact ⟨position, rfl⟩
    · cases rest : stagesFrom (position + 1) names with
      | error other =>
        rw [rest] at refused
        cases refused
        exact ih rest
      | ok found =>
        rw [rest] at refused
        cases refused

/-- A line that may hold as many stages as it has names is not refused for their number. -/
theorem stages_count (line : String) : stages line (count line) = stagesFrom 0 (words line.toList) :=
  if_neg (Nat.lt_irrefl _)

/-- What becomes of a line is a matter of its names. -/
theorem stages_congr {line other : String} (same : words line.toList = words other.toList) (limit : Nat) :
    stages line limit = stages other limit := by
  rw [stages, stages, same]

/-- What becomes of two lines with a delimiter between them is known from what becomes of each by itself. -/
theorem stages_append {delimiter : Char} (delimits : isDelimiter delimiter = true) (before after : String)
    (limit : Nat) :
    stages (before ++ String.singleton delimiter ++ after) limit =
      if limit < count before + count after then .error (.tooManyStages (count before + count after) limit)
      else do
        let found ← stages before (count before)
        let later ← (stages after (count after)).mapError (Error.moved (count before))
        return found ++ later.map (Stage.moved (count before)) := by
  have names : words (before ++ String.singleton delimiter ++ after).toList =
      words before.toList ++ words after.toList := by
    simp [words_append_cons delimits]
  have total : (words (before ++ String.singleton delimiter ++ after).toList).length = count before + count after := by
    rw [names, List.length_append, count, count]
  have later : stagesFrom (0 + (words before.toList).length) (words after.toList) =
      ((stagesFrom 0 (words after.toList)).map (List.map (Stage.moved (count before)))).mapError
        (Error.moved (count before)) := by
    rw [Nat.add_comm]
    exact stagesFrom_add _ _ _
  rw [stages_count, stages_count, stages, total, names, stagesFrom_append, later]
  split
  · rfl
  · cases stagesFrom 0 (words before.toList) with
    | error reason => rfl
    | ok found => cases stagesFrom 0 (words after.toList) <;> rfl

/-- A line of which all names can be passed on, written down once more with its names in their order. -/
theorem words_of_displays {line before : String} {limit : Nat} {found : List Stage} {entries : List (String × String)}
    (parsed : stages line limit = .ok found) (displays : entries.map Prod.fst = found.map Stage.display)
    (leading : IsGap before) (gaps : ∀ entry ∈ entries, IsGap entry.2)
    (apart : ∀ entry ∈ entries.dropLast, entry.2 ≠ "") :
    words (rendering before entries).toList = words line.toList := by
  have programs : entries.map Prod.fst = (words line.toList).map String.ofList :=
    displays.trans (map_program_of_stages parsed)
  have names : ∀ entry ∈ entries, IsName entry.1 := by
    intro entry inside
    have shown : entry.1 ∈ entries.map Prod.fst := List.mem_map_of_mem inside
    obtain ⟨word, isWord, same⟩ := List.mem_map.mp (programs ▸ shown)
    obtain ⟨stage, -, display⟩ := List.mem_map.mp (displays ▸ shown)
    obtain ⟨nonempty, bare⟩ := mem_words isWord
    refine ⟨by simpa [← same] using nonempty, fun char member => ⟨?_, bare char (by simpa [← same] using member)⟩⟩
    rintro rfl
    exact stage.nul_not_mem (by simpa [← display, Stage.display] using member)
  rw [words_rendering leading names gaps apart]
  have texts : (entries.map Prod.fst).map String.toList = words line.toList := by
    rw [programs, List.map_map]
    simp [Function.comp_def]
  rwa [List.map_map] at texts

/-- What becomes of two lines with a delimiter between them is a matter of what becomes of each by itself, when each may
hold as many stages as it has names: too many names in both are refused, else the first name with a NUL in it is, in the
first line or in the second, where the names of the first one are counted, too; else the stages are those of both, one
after the other. So it does not matter which delimiter stands in a place, nor whether there is one more, nor what
delimiters stand around the line; and a line that was accepted is accepted with the same stages when they are written
down again with any delimiters between them. -/
theorem stages_of_joined (limit : Nat) :
    (∀ (before after : String) (delimiter : Char), isDelimiter delimiter = true →
      let joined := stages (before ++ String.singleton delimiter ++ after) limit
      (limit < count before + count after → joined = .error (.tooManyStages (count before + count after) limit)) ∧
      (count before + count after ≤ limit →
        (∀ reason, stages before (count before) = .error reason →
          (∃ position, reason = .interiorNul position) ∧ joined = .error reason) ∧
        ∀ found, stages before (count before) = .ok found →
          (∀ reason, stages after (count after) = .error reason →
            ∃ position, reason = .interiorNul position ∧ joined = .error (.interiorNul (count before + position))) ∧
          ∀ later, stages after (count after) = .ok later →
            joined = .ok (found ++ later.map (Stage.moved (count before))))) ∧
    (∀ (before after : String) (delimiter other : Char), isDelimiter delimiter = true → isDelimiter other = true →
      stages (before ++ String.singleton delimiter ++ after) limit =
          stages (before ++ String.singleton other ++ after) limit ∧
        stages (before ++ String.singleton delimiter ++ String.singleton delimiter ++ after) limit =
          stages (before ++ String.singleton delimiter ++ after) limit) ∧
    (∀ line leading trailing : String, IsGap leading → IsGap trailing →
      stages (leading ++ line ++ trailing) limit = stages line limit) ∧
    ∀ (line before : String) (found : List Stage) (entries : List (String × String)), stages line limit = .ok found →
      entries.map Prod.fst = found.map Stage.display → IsGap before → (∀ entry ∈ entries, IsGap entry.2) →
      (∀ entry ∈ entries.dropLast, entry.2 ≠ "") → stages (rendering before entries) limit = .ok found := by
  refine ⟨fun before after delimiter delimits => ?_, fun before after delimiter other delimits also => ?_,
    fun line leading trailing first last => ?_, fun line before found entries parsed displays leading gaps apart => ?_⟩
  · intro joined
    have whole : joined = _ := stages_append delimits before after limit
    refine ⟨fun many => by rw [whole, if_pos many], fun few => ⟨fun reason refused => ?_, fun found parsed =>
      ⟨fun reason refused => ?_, fun later also => ?_⟩⟩⟩
    · rw [whole, if_neg (by omega), refused]
      exact ⟨interiorNul_of_stagesFrom (stages_count before ▸ refused), rfl⟩
    · obtain ⟨position, rfl⟩ := interiorNul_of_stagesFrom (stages_count after ▸ refused)
      rw [whole, if_neg (by omega), parsed, refused]
      exact ⟨position, rfl, rfl⟩
    · rw [whole, if_neg (by omega), parsed, also]
      rfl
  · have parted : ∀ {mark : Char}, isDelimiter mark = true → ∀ rest : List Char,
        words (before.toList ++ mark :: rest) = words before.toList ++ words rest := fun parts rest =>
      words_append_cons parts before.toList rest
    refine ⟨stages_congr ?_ limit, stages_congr ?_ limit⟩
    · simp [parted delimits, parted also]
    · simp [parted delimits, words_cons delimits]
  · refine stages_congr ?_ limit
    rw [String.toList_append, words_append_gap last, String.toList_append, words_gap_append first]
  · rw [← parsed]
    exact stages_congr (words_of_displays parsed displays leading gaps apart) limit

/-- The name with a NUL is the second one of its own line and the third one of both; two names without one are found
again with other delimiters around them. -/
theorem stages_of_joined_by_bar :
    Line.stages "ls|wc x\x00y" 3 = .error (.interiorNul 2) ∧
      ∃ found, Line.stages "ls wc" 3 = .ok found ∧ Line.stages "\tls| wc|" 3 = .ok found := by
  obtain ⟨joined, -, -, again⟩ := stages_of_joined 3
  have first : Line.stages "ls" (count "ls") = .ok [⟨0, "ls", by decide⟩] := by decide +kernel
  constructor
  · have second : Line.stages "wc x\x00y" (count "wc x\x00y") = .error (.interiorNul 1) := by decide +kernel
    have apart := (joined "ls" "wc x\x00y" '|' rfl).2 (by decide +kernel)
    obtain ⟨position, same, refused⟩ := (apart.2 _ first).1 _ second
    cases same
    have counted : count "ls" = 1 := by decide +kernel
    rwa [counted] at refused
  · have second : Line.stages "wc" (count "wc") = .ok [⟨0, "wc", by decide⟩] := by decide +kernel
    have apart := (joined "ls" "wc" ' ' rfl).2 (by decide +kernel)
    have parsed := (apart.2 _ first).2 _ second
    exact ⟨_, parsed, again "ls wc" "\t" _ [("ls", "| "), ("wc", "|")] parsed (by decide +kernel) (by decide)
      (by decide) (by decide)⟩

end Line

end Pipework
