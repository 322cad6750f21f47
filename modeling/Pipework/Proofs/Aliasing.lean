import Mathlib.Logic.Basic
import Pipework.Proofs.Rewiring

set_option autoImplicit false

/-!
Aliasing. The endpoints of a stage may be on any numbers, those of standard streams among them, and one may have been
closed behind the back of its owner. The calls of the rewiring are made one after the other, and each may take away what
a later one needs; what they come to is still what it would be if all endpoints were moved at once (`Rewired`), and they
come to it just if all of them are open.
-/

namespace Pipework

open Kernel

/-- The numbers of the endpoints that a process was given for a stage. -/
def Streams.numbers (streams : Streams) (unused : Option Nat) : List Nat :=
  unused.toList ++ streams.stdin.toList ++ streams.stdout.toList

/-- All endpoints that a process was given are open. -/
def Streams.AreOpen (streams : Streams) (unused : Option Nat) (table : DescriptorTable) : Prop :=
  ∀ number ∈ streams.numbers unused, number ∈ table

/-- Whether a number is that of a standard stream for which there is an endpoint. -/
def Streams.Replaces (streams : Streams) (number : Nat) : Prop :=
  number = 0 ∧ streams.stdin.isSome ∨ number = 1 ∧ streams.stdout.isSome

instance (streams : Streams) (unused : Option Nat) (table : DescriptorTable) :
    Decidable (streams.AreOpen unused table) :=
  inferInstanceAs (Decidable (∀ number ∈ streams.numbers unused, number ∈ table))

instance (streams : Streams) (number : Nat) : Decidable (streams.Replaces number) :=
  inferInstanceAs (Decidable (number = 0 ∧ _ ∨ number = 1 ∧ _))

/-- The second table is the first one with the endpoints of a stage in place, as if all of them had been moved at once:
the standard streams refer to what their endpoints did and survive the loading of an image, no endpoint has its old
number, and nothing else has changed. -/
structure Rewired (streams : Streams) (unused : Option Nat) (before after : DescriptorTable) : Prop where
  input : ∀ stdin, streams.stdin = some stdin →
    ∃ descriptor, before[stdin]? = some descriptor ∧ after[0]? = some ⟨descriptor.object, false⟩
  output : ∀ stdout, streams.stdout = some stdout →
    ∃ descriptor, before[stdout]? = some descriptor ∧ after[1]? = some ⟨descriptor.object, false⟩
  closed : ∀ number ∈ streams.numbers unused, ¬ streams.Replaces number → after[number]? = none
  others : ∀ number, number ∉ streams.numbers unused → ¬ streams.Replaces number → after[number]? = before[number]?

/-- An endpoint that is closed first is closed in the end. -/
theorem Rewired.of_erase {streams : Streams} {unused : Nat} {before after : DescriptorTable}
    (rewired : Rewired streams none (before.erase unused) after) (apart : unused ∉ streams.numbers none) :
    Rewired streams (some unused) before after := by
  have numbers : streams.numbers (some unused) = unused :: streams.numbers none := rfl
  have kept : ∀ number, number ≠ unused → (before.erase unused)[number]? = before[number]? := by
    intro number ne
    rw [Std.ExtTreeMap.getElem?_erase, if_neg (by simpa using ne.symm)]
  have freed : (before.erase unused)[unused]? = none := Std.ExtTreeMap.getElem?_erase_self
  refine ⟨fun stdin isStdin => ?_, fun stdout isStdout => ?_, fun number member spared => ?_,
    fun number others spared => ?_⟩
  · have ne : stdin ≠ unused := fun same => apart (by simp [Streams.numbers, isStdin, same])
    exact kept stdin ne ▸ rewired.input stdin isStdin
  · have ne : stdout ≠ unused := fun same => apart (by simp [Streams.numbers, isStdout, same])
    exact kept stdout ne ▸ rewired.output stdout isStdout
  · rcases List.mem_cons.mp (numbers ▸ member) with rfl | member
    · exact (rewired.others number apart spared).trans freed
    · exact rewired.closed number member spared
  · rw [numbers, List.mem_cons, not_or] at others
    exact (rewired.others number others.2 spared).trans (kept number others.1)

namespace Startup

variable {limit : Nat} {table between final : DescriptorTable} {streams : Streams} {unused : Option Nat}
  {endpoint target : Nat} {descriptor : Descriptor} {later : List (Nat × Nat)}

/-- An endpoint that is open comes to its target, whether it has been there before or not. -/
theorem redirected_open (isOpen : table[endpoint]? = some descriptor) (within : target < limit) :
    redirected limit ((endpoint, target) :: later) table =
      redirected limit later ((table.erase endpoint).insert target ⟨descriptor.object, false⟩) := by
  by_cases inPlace : endpoint = target
  · subst inPlace
    have same : (table.erase endpoint).insert endpoint ⟨descriptor.object, false⟩ =
        table.insert endpoint ⟨descriptor.object, false⟩ := by
      apply Std.ExtTreeMap.ext_getElem?
      intro place
      grind
    simp [redirected, DescriptorTable.keepOnExec_eq_ok isOpen, Except.bind, same]
  · have stillOpen : (table.insert target ⟨descriptor.object, false⟩)[endpoint]? = some descriptor := by
      rw [Std.ExtTreeMap.getElem?_insert, if_neg (by simpa using Ne.symm inPlace), isOpen]
    have same : (table.insert target ⟨descriptor.object, false⟩).erase endpoint =
        (table.erase endpoint).insert target ⟨descriptor.object, false⟩ := by
      apply Std.ExtTreeMap.ext_getElem?
      intro place
      grind
    simp [redirected, inPlace, DescriptorTable.duplicate_eq_ok isOpen inPlace within,
      DescriptorTable.close_eq_ok stillOpen, Except.bind, same]

/-- An endpoint that was closed behind the back of its owner comes nowhere. -/
theorem redirected_closed (closed : table[endpoint]? = none) :
    redirected limit ((endpoint, target) :: later) table = .error .badDescriptor := by
  by_cases inPlace : endpoint = target
  · subst inPlace
    simp [redirected, DescriptorTable.keepOnExec, closed, Except.bind]
  · simp [redirected, inPlace, DescriptorTable.duplicate, closed, Except.bind]

/-- A standard output on 0 is moved to a number that was free and belongs to no standard stream. -/
theorem duplicateFrom_zero (isOpen : table[0]? = some descriptor)
    (free : ∃ spare, diagnostics < spare ∧ spare < limit ∧ table[spare]? = none) :
    ∃ moved, table.duplicateFrom limit 0 (diagnostics + 1) =
      .ok (moved, table.insert moved ⟨descriptor.object, true⟩) ∧ diagnostics < moved ∧ table[moved]? = none := by
  obtain ⟨spare, above, below, spareFree⟩ := free
  have within : ¬ limit ≤ diagnostics + 1 := by omega
  cases found : table.lowestFree (diagnostics + 1) (limit - (diagnostics + 1)) with
  | none =>
    have taken := DescriptorTable.mem_of_lowestFree_eq_none found above (by omega)
    simp [Std.ExtTreeMap.mem_iff_isSome_getElem?, spareFree] at taken
  | some moved =>
    obtain ⟨above, -, movedFree, -⟩ := DescriptorTable.lowestFree_eq_some found
    exact ⟨moved, by simp [DescriptorTable.duplicateFrom, DescriptorTable.allocate, isOpen, within, found], above,
      movedFree⟩

theorem movedAndRedirected_eq {stdin moved : Nat}
    (duplicated : table.duplicateFrom limit 0 (diagnostics + 1) = .ok (moved, between)) :
    movedAndRedirected limit stdin table = redirected limit [(stdin, 0), (moved, 1)] between := by
  simp [movedAndRedirected, duplicated, Except.bind]

/-- Endpoints that are open come to their places, wherever they were. -/
theorem rewired_open (distinct : (streams.numbers none).Nodup) (areOpen : streams.AreOpen none table)
    (free : ∃ spare, diagnostics < spare ∧ spare < limit ∧ table[spare]? = none) :
    ∃ final, rewired limit streams table = .ok final ∧ Rewired streams none table final := by
  have within : 2 < limit := by
    obtain ⟨spare, above, below, -⟩ := free
    exact Nat.lt_trans above below
  obtain ⟨stdin, stdout⟩ := streams
  have entry : ∀ number ∈ Streams.numbers ⟨stdin, stdout⟩ none, ∃ descriptor, table[number]? = some descriptor := by
    intro number member
    exact Option.isSome_iff_exists.mp (Std.ExtTreeMap.mem_iff_isSome_getElem?.mp (areOpen number member))
  match stdin, stdout with
  | none, none => exact ⟨table, rfl, by constructor <;> simp [Streams.numbers]⟩
  | none, some write =>
    obtain ⟨output, isOutput⟩ := entry write (by simp [Streams.numbers])
    refine ⟨_, redirected_open isOutput (by omega), ?_⟩
    constructor <;> simp [Streams.numbers, Streams.Replaces] <;> grind
  | some read, none =>
    obtain ⟨input, isInput⟩ := entry read (by simp [Streams.numbers])
    refine ⟨_, redirected_open isInput (by omega), ?_⟩
    constructor <;> simp [Streams.numbers, Streams.Replaces] <;> grind
  | some read, some 0 =>
    obtain ⟨input, isInput⟩ := entry read (by simp [Streams.numbers])
    obtain ⟨output, isOutput⟩ := entry 0 (by simp [Streams.numbers])
    obtain ⟨moved, duplicated, above, movedFree⟩ := duplicateFrom_zero isOutput free
    have apart : read ≠ 0 := by simpa [Streams.numbers] using distinct
    have ne : moved ≠ read := by
      rintro rfl
      cases movedFree.symm.trans isInput
    have stillInput : (table.insert moved ⟨output.object, true⟩)[read]? = some input := by grind
    have isMoved : (((table.insert moved ⟨output.object, true⟩).erase read).insert 0 ⟨input.object, false⟩)[moved]? =
        some ⟨output.object, true⟩ := by
      unfold diagnostics at above
      grind
    refine ⟨_, (movedAndRedirected_eq duplicated).trans ((redirected_open stillInput (by omega)).trans
      (redirected_open isMoved (by omega))), ?_⟩
    unfold diagnostics at above
    constructor <;> simp [Streams.numbers, Streams.Replaces] <;> grind
  | some read, some (write + 1) =>
    obtain ⟨input, isInput⟩ := entry read (by simp [Streams.numbers])
    obtain ⟨output, isOutput⟩ := entry (write + 1) (by simp [Streams.numbers])
    have apart : read ≠ write + 1 := by simpa [Streams.numbers] using distinct
    have stillOutput : ((table.erase read).insert 0 ⟨input.object, false⟩)[write + 1]? = some output := by grind
    refine ⟨_, (redirected_open isInput (by omega)).trans (redirected_open stillOutput (by omega)), ?_⟩
    constructor <;> simp [Streams.numbers, Streams.Replaces] <;> grind

/-- If an endpoint is not open, the rewiring fails; a copy that has come to its number does not conceal that. -/
theorem rewired_broken (distinct : (streams.numbers none).Nodup) (broken : ¬ streams.AreOpen none table)
    (within : 1 < limit) : ∃ errno, rewired limit streams table = .error errno := by
  obtain ⟨stdin, stdout⟩ := streams
  simp only [Streams.AreOpen, not_forall] at broken
  obtain ⟨number, member, absent⟩ := broken
  have closed : table[number]? = none := Std.ExtTreeMap.getElem?_eq_none absent
  match stdin, stdout with
  | none, none => simp [Streams.numbers] at member
  | none, some write =>
    obtain rfl : number = write := by simpa [Streams.numbers] using member
    exact ⟨_, redirected_closed closed⟩
  | some read, none =>
    obtain rfl : number = read := by simpa [Streams.numbers] using member
    exact ⟨_, redirected_closed closed⟩
  | some read, some 0 =>
    have apart : read ≠ 0 := by simpa [Streams.numbers] using distinct
    cases duplicated : table.duplicateFrom limit 0 (diagnostics + 1) with
    | error errno => exact ⟨errno, by simp [rewired, movedAndRedirected, duplicated, Except.bind]⟩
    | ok given =>
      obtain ⟨moved, between⟩ := given
      obtain ⟨output, isOutput, rfl⟩ := DescriptorTable.eq_of_duplicateFrom duplicated
      have isBroken : table[read]? = none := by
        have either : number = read ∨ number = 0 := by simpa [Streams.numbers] using member
        rcases either with rfl | rfl
        · exact closed
        · cases isOutput.symm.trans closed
      refine ⟨.badDescriptor, (movedAndRedirected_eq duplicated).trans ?_⟩
      by_cases taken : moved = read
      · -- The copy has come to the number of the input; it is closed again before the output is redirected.
        subst taken
        have isCopy : (table.insert moved ⟨output.object, true⟩)[moved]? = some ⟨output.object, true⟩ := by grind
        refine (redirected_open isCopy (by omega)).trans (redirected_closed ?_)
        grind
      · exact redirected_closed (by grind)
  | some read, some (write + 1) =>
    have apart : read ≠ write + 1 := by simpa [Streams.numbers] using distinct
    cases isInput : table[read]? with
    | none => exact ⟨_, redirected_closed isInput⟩
    | some input =>
      obtain rfl : number = write + 1 := by
        have either : number = read ∨ number = write + 1 := by simpa [Streams.numbers] using member
        refine either.resolve_left fun same => ?_
        rw [same, isInput] at closed
        cases closed
      have stillClosed : ((table.erase read).insert 0 ⟨input.object, false⟩)[write + 1]? = none := by grind
      exact ⟨_, (redirected_open isInput (by omega)).trans (redirected_closed stillClosed)⟩

/-- If all endpoints are open, a process comes to the loading of its program with them in place. -/
theorem outcome_begin_of_open (stage : Stage) (distinct : (streams.numbers unused).Nodup)
    (areOpen : streams.AreOpen unused table)
    (free : ∃ spare, diagnostics < spare ∧ spare < limit ∧ table[spare]? = none) :
    ∃ final, (begin stage streams unused).control.outcome limit table = .ok final ∧
      Rewired streams unused table final := by
  cases unused with
  | none =>
    simp only [begin, Control.outcome_wire]
    exact rewired_open distinct areOpen free
  | some unused =>
    obtain ⟨apart, distinct⟩ := List.nodup_cons.mp distinct
    have isOpen := Std.ExtTreeMap.mem_iff_isSome_getElem?.mp (areOpen unused (List.mem_cons_self ..))
    obtain ⟨descriptor, isOpen⟩ := Option.isSome_iff_exists.mp isOpen
    have others : streams.AreOpen none (table.erase unused) := by
      intro number member
      have there := areOpen number (List.mem_cons_of_mem _ member)
      have ne : unused ≠ number := by
        rintro rfl
        exact apart member
      exact Std.ExtTreeMap.mem_erase.mpr ⟨by simpa using ne, there⟩
    have free : ∃ spare, diagnostics < spare ∧ spare < limit ∧ (table.erase unused)[spare]? = none := by
      obtain ⟨spare, above, below, spareFree⟩ := free
      exact ⟨spare, above, below, by rw [Std.ExtTreeMap.getElem?_erase, spareFree, ite_self]⟩
    obtain ⟨final, settled, rewired⟩ := rewired_open distinct others free
    refine ⟨final, ?_, rewired.of_erase apart⟩
    simpa [begin, Control.outcome, DescriptorTable.close_eq_ok isOpen, Except.bind] using settled

/-- If one of them is not, it does not come to that. -/
theorem outcome_begin_of_broken (stage : Stage) (distinct : (streams.numbers unused).Nodup)
    (broken : ¬ streams.AreOpen unused table) (within : 1 < limit) :
    ∃ errno, (begin stage streams unused).control.outcome limit table = .error errno := by
  cases unused with
  | none =>
    simp only [begin, Control.outcome_wire]
    exact rewired_broken distinct broken within
  | some unused =>
    obtain ⟨apart, distinct⟩ := List.nodup_cons.mp distinct
    simp only [begin, Control.outcome]
    cases closed : table.close unused with
    | error errno => exact ⟨errno, rfl⟩
    | ok between =>
      obtain rfl := DescriptorTable.eq_of_close closed
      refine rewired_broken distinct (fun others => broken fun number member => ?_) within
      rcases List.mem_cons.mp member with rfl | member
      · unfold DescriptorTable.close at closed
        split at closed
        · assumption
        · cases closed
      · exact (Std.ExtTreeMap.mem_erase.mp (others number member)).2

end Startup

end Pipework
