import Pipework.Executor.Startup
import Pipework.Kernel.System
import Pipework.Proofs.Descriptor

set_option autoImplicit false

/-!
The rewiring of a process that is to become a stage, as one function on descriptor tables.
`Startup.Control.outcome` says with which table the process will come to the loading of its program; the calls
that it makes one by one do not change that table (`perform_rewiring`), and for a process that was made with
endpoints of its own it is the table of its maker with the standard streams replaced (`outcome_begin`).
-/

namespace Pipework

open Kernel

/-- A table whose standard input and standard output are replaced where another object is given for them. -/
def Kernel.DescriptorTable.wired (base : DescriptorTable) (input output : Option Object) : DescriptorTable :=
  let table := match input with
    | some object => base.insert 0 ⟨object, false⟩
    | none => base
  match output with
  | some object => table.insert 1 ⟨object, false⟩
  | none => table

namespace Kernel.DescriptorTable

variable (base : DescriptorTable) (input output : Option Object)

theorem getElem?_wired_zero :
    (base.wired input output)[0]? = (input.map fun object => ⟨object, false⟩).or base[0]? := by
  cases input <;> cases output <;> simp only [wired] <;> grind

theorem getElem?_wired_one :
    (base.wired input output)[1]? = (output.map fun object => ⟨object, false⟩).or base[1]? := by
  cases input <;> cases output <;> simp [wired, Std.ExtTreeMap.getElem?_insert]

theorem getElem?_wired_of_lt {number : Nat} (other : 1 < number) :
    (base.wired input output)[number]? = base[number]? := by
  have notZero : 0 ≠ number := by omega
  have notOne : 1 ≠ number := by omega
  cases input <;> cases output <;> simp [wired, Std.ExtTreeMap.getElem?_insert, notZero, notOne]

end Kernel.DescriptorTable

/-- An endpoint with what it refers to, if there is one. -/
def endpoints (number : Option Nat) (object : Object) : List (Nat × Object) :=
  number.toList.map fun number => (number, object)

@[simp] theorem endpoints_none (object : Object) : endpoints none object = [] := rfl

@[simp] theorem endpoints_some (number : Nat) (object : Object) :
    endpoints (some number) object = [(number, object)] := rfl

theorem mem_endpoints {number : Option Nat} {object : Object} {entry : Nat × Object} :
    entry ∈ endpoints number object ↔ number = some entry.1 ∧ entry.2 = object := by
  obtain ⟨place, found⟩ := entry
  cases number with
  | none => simp
  | some number => simp [eq_comm]

namespace Startup

/-- Redirects endpoints one after the other. -/
def redirected (limit : Nat) : List (Nat × Nat) → DescriptorTable → Except Errno DescriptorTable
  | [], table => .ok table
  | (endpoint, target) :: later, table =>
    if endpoint = target then (table.keepOnExec endpoint).bind (redirected limit later)
    else
      (table.duplicate limit endpoint target).bind fun table =>
        (table.close endpoint).bind (redirected limit later)

/-- Moves a standard output away from 0, and redirects it and the standard input. -/
def movedAndRedirected (limit stdin : Nat) (table : DescriptorTable) : Except Errno DescriptorTable :=
  (table.duplicateFrom limit 0 (diagnostics + 1)).bind fun (moved, table) =>
    redirected limit [(stdin, 0), (moved, 1)] table

/-- Puts the endpoints of a stage in place. -/
def rewired (limit : Nat) (streams : Streams) (table : DescriptorTable) : Except Errno DescriptorTable :=
  match streams.stdin, streams.stdout with
  | some stdin, some 0 => movedAndRedirected limit stdin table
  | stdin, stdout =>
    redirected limit ((stdin.map fun endpoint => (endpoint, 0)).toList ++
      (stdout.map fun endpoint => (endpoint, 1)).toList) table

namespace Control

/-- The table with which a process comes to the loading of its program, given the table that it has. -/
def outcome (limit : Nat) : Control → DescriptorTable → Except Errno DescriptorTable
  | closingUnused unused streams, table => (table.close unused).bind (rewired limit streams)
  | movingStdout stdin, table => movedAndRedirected limit stdin table
  | redirecting endpoint target later, table => redirected limit ((endpoint, target) :: later) table
  | closingEndpoint endpoint later, table => (table.close endpoint).bind (redirected limit later)
  | loading, table | complaining _ _ _, table | exiting _, table => .ok table

/-- Whether the streams are still being set up. -/
def isRewiring : Control → Bool
  | closingUnused _ _ | movingStdout _ | redirecting _ _ _ | closingEndpoint _ _ => true
  | loading | complaining _ _ _ | exiting _ => false

/-- Whether the process will not become a stage any more. -/
def hasFailed : Control → Bool
  | complaining _ _ _ | exiting _ => true
  | closingUnused _ _ | movingStdout _ | redirecting _ _ _ | closingEndpoint _ _ | loading => false

/-- The code with which a process will exit that has failed to become a stage. -/
def code? : Control → Option Nat
  | complaining _ _ code | exiting code => some code
  | _ => none

theorem code?_of_begun {control : Control} (begun : control.hasFailed = false) : control.code? = none := by
  cases control <;> first | rfl | cases begun

theorem begun_of_rewiring {control : Control} (rewiring : control.isRewiring = true) : control.hasFailed = false := by
  cases control <;> first | rfl | cases rewiring

theorem outcome_redirect (limit : Nat) (pairs : List (Nat × Nat)) (table : DescriptorTable) :
    outcome limit (redirect pairs) table = redirected limit pairs table := by
  cases pairs with
  | nil => rfl
  | cons pair later => rfl

theorem outcome_wire (limit : Nat) (streams : Streams) (table : DescriptorTable) :
    outcome limit (wire streams) table = rewired limit streams table := by
  obtain ⟨_ | stdin, _ | _ | stdout⟩ := streams <;> rfl

/-- Once the streams are being redirected, no endpoint is closed for being unused. -/
theorem redirect_ne_closingUnused (pairs : List (Nat × Nat)) (unused : Nat) (streams : Streams) :
    redirect pairs ≠ closingUnused unused streams := by
  cases pairs <;> simp [redirect]

theorem hasFailed_redirect (pairs : List (Nat × Nat)) : (redirect pairs).hasFailed = false := by
  cases pairs <;> rfl

theorem hasFailed_wire (streams : Streams) : (wire streams).hasFailed = false := by
  obtain ⟨_ | stdin, _ | _ | stdout⟩ := streams <;> rfl

theorem wire_ne_closingUnused (given : Streams) (unused : Nat) (streams : Streams) :
    wire given ≠ closingUnused unused streams := by
  obtain ⟨_ | stdin, _ | _ | stdout⟩ := given <;> simp [wire, redirect]

end Control

open DescriptorTable (Adds)

/-- Redirecting the first endpoint that is held replaces the entry of its target, and it is not held any more. -/
theorem redirected_cons {base table : DescriptorTable} {held : List (Nat × Object)} {object : Object}
    {limit endpoint target : Nat} (adds : Adds base ((endpoint, object) :: held) table)
    (within : target < limit) (apart : ∀ entry ∈ held, entry.1 ≠ target) (later : List (Nat × Nat)) :
    ∃ after, Adds (base.insert target ⟨object, false⟩) held after ∧
      redirected limit ((endpoint, target) :: later) table = redirected limit later after := by
  have isOpen := adds.getElem?_of_mem (List.mem_cons_self)
  have baseFree := adds.fresh (endpoint, object) (List.mem_cons_self)
  have distinct := adds.distinct
  simp only [List.map_cons, List.nodup_cons, List.mem_map, Prod.exists, exists_and_right, exists_eq_right,
    not_exists] at distinct
  have others : ∀ entry ∈ held, (base.insert target ⟨object, false⟩)[entry.1]? = none := by
    intro entry member
    rw [Std.ExtTreeMap.getElem?_insert, if_neg (by simpa using (apart entry member).symm)]
    exact adds.fresh entry (List.mem_cons_of_mem _ member)
  by_cases inPlace : endpoint = target
  · subst inPlace
    refine ⟨table.insert endpoint ⟨object, false⟩, ⟨others, distinct.2, ?_⟩, ?_⟩
    · intro number descriptor
      have entry := adds.entries number descriptor
      grind
    · simp [redirected, DescriptorTable.keepOnExec_eq_ok isOpen, Except.bind]
  · refine ⟨(table.insert target ⟨object, false⟩).erase endpoint, ⟨others, distinct.2, ?_⟩, ?_⟩
    · intro number descriptor
      have entry := adds.entries number descriptor
      grind
    · have stillOpen : (table.insert target ⟨object, false⟩)[endpoint]? = some ⟨object, true⟩ := by
        rw [Std.ExtTreeMap.getElem?_insert, if_neg (by simpa using Ne.symm inPlace), isOpen]
      simp [redirected, inPlace, DescriptorTable.duplicate_eq_ok isOpen inPlace within,
        DescriptorTable.close_eq_ok stillOpen, Except.bind]

/-- A process that holds nothing but its endpoints comes out of the rewiring with the table that was there before,
in which the standard streams are replaced. -/
theorem rewired_eq_wired {base table : DescriptorTable} {limit : Nat} {streams : Streams} {input output : Object}
    (adds : Adds base (endpoints streams.stdin input ++ endpoints streams.stdout output) table)
    (below : ∀ number, streams.stdin = some number ∨ streams.stdout = some number → number < limit)
    (notOnZero : streams.stdout ≠ some 0) :
    rewired limit streams table =
      .ok (base.wired (streams.stdin.map fun _ => input) (streams.stdout.map fun _ => output)) := by
  obtain ⟨stdin, stdout⟩ := streams
  cases stdin with
  | none =>
    cases stdout with
    | none =>
      obtain rfl := adds.eq_base
      rfl
    | some write =>
      have positive : write ≠ 0 := fun zero => notOnZero (by rw [zero])
      have bound := below write (.inr rfl)
      obtain ⟨after, adds, equal⟩ := redirected_cons adds (by omega : 1 < limit) (by simp) []
      obtain rfl := adds.eq_base
      exact equal
  | some read =>
    have bound := below read (.inl rfl)
    cases stdout with
    | none =>
      obtain ⟨after, adds, equal⟩ := redirected_cons adds (by omega : 0 < limit) (by simp) []
      obtain rfl := adds.eq_base
      exact equal
    | some write =>
      have positive : write ≠ 0 := fun zero => notOnZero (by rw [zero])
      have writeBound := below write (.inr rfl)
      obtain ⟨between, adds, first⟩ := redirected_cons adds (by omega : 0 < limit) (by simpa using positive)
        [(write, 1)]
      obtain ⟨after, adds, second⟩ := redirected_cons adds (by omega : 1 < limit) (by simp) []
      obtain rfl := adds.eq_base
      have unfolded : rewired limit ⟨some read, some write⟩ table =
          redirected limit [(read, 0), (write, 1)] table := by
        cases write with
        | zero => exact absurd rfl positive
        | succ write => rfl
      rw [unfolded, first, second]
      rfl

/-- The table with which a process loads its program that was made for a stage by the holder of the endpoints:
the table that was there before them, in which the standard streams are replaced. -/
theorem outcome_begin {base table : DescriptorTable} {limit : Nat} {streams : Streams} {unused : Option Nat}
    {input output other : Object} (stage : Stage)
    (adds : Adds base (endpoints streams.stdin input ++ endpoints streams.stdout output ++
      endpoints unused other) table)
    (below : ∀ number, streams.stdin = some number ∨ streams.stdout = some number → number < limit)
    (notOnZero : streams.stdout ≠ some 0) :
    (begin stage streams unused).control.outcome limit table =
      .ok (base.wired (streams.stdin.map fun _ => input) (streams.stdout.map fun _ => output)) := by
  cases unused with
  | none =>
    simp only [begin, Control.outcome_wire]
    exact rewired_eq_wired (by simpa using adds) below notOnZero
  | some unused =>
    obtain ⟨closed, adds⟩ := (adds.perm (List.perm_append_comm)).close
    simp only [begin, Control.outcome, closed, Except.bind]
    exact rewired_eq_wired adds below notOnZero

/-- Two steps that succeed one after the other. -/
theorem eq_ok_of_bind {α β : Type} {first : Except Errno α} {second : α → Except Errno β} {final : β}
    (settled : first.bind second = .ok final) : ∃ value, first = .ok value ∧ second value = .ok final := by
  cases first with
  | error errno => cases settled
  | ok value => exact ⟨value, rfl, settled⟩

theorem inherits_redirected {limit : Nat} {pairs : List (Nat × Nat)} {table final : DescriptorTable}
    (settled : redirected limit pairs table = .ok final) : table.Inherits final := by
  induction pairs generalizing table with
  | nil =>
    cases settled
    exact .refl _
  | cons pair later ih =>
    obtain ⟨endpoint, target⟩ := pair
    unfold redirected at settled
    split at settled
    · obtain ⟨between, kept, settled⟩ := eq_ok_of_bind settled
      obtain ⟨source, isOpen, rfl⟩ := DescriptorTable.eq_of_keepOnExec kept
      exact (DescriptorTable.inherits_insert ⟨_, source, isOpen, rfl⟩ _ _).trans (ih settled)
    · obtain ⟨doubled, duplicated, settled⟩ := eq_ok_of_bind settled
      obtain ⟨between, closed, settled⟩ := eq_ok_of_bind settled
      obtain rfl := DescriptorTable.eq_of_close closed
      exact ((DescriptorTable.inherits_of_duplicate duplicated).trans (DescriptorTable.inherits_erase _ _)).trans
        (ih settled)

theorem inherits_movedAndRedirected {limit stdin : Nat} {table final : DescriptorTable}
    (settled : movedAndRedirected limit stdin table = .ok final) : table.Inherits final := by
  obtain ⟨given, duplicated, settled⟩ := eq_ok_of_bind settled
  exact (DescriptorTable.inherits_of_duplicateFrom duplicated).trans (inherits_redirected settled)

theorem inherits_rewired {limit : Nat} {streams : Streams} {table final : DescriptorTable}
    (settled : rewired limit streams table = .ok final) : table.Inherits final := by
  unfold rewired at settled
  split at settled
  · exact inherits_movedAndRedirected settled
  · exact inherits_redirected settled

/-- A process has all that it will come to its program with. -/
theorem Control.inherits_of_outcome {limit : Nat} {control : Control} {table final : DescriptorTable}
    (settled : control.outcome limit table = .ok final) : table.Inherits final := by
  cases control with
  | closingUnused unused streams =>
    obtain ⟨between, closed, settled⟩ := eq_ok_of_bind settled
    obtain rfl := DescriptorTable.eq_of_close closed
    exact (DescriptorTable.inherits_erase _ _).trans (inherits_rewired settled)
  | movingStdout stdin => exact inherits_movedAndRedirected settled
  | redirecting endpoint target later => exact inherits_redirected settled
  | closingEndpoint endpoint later =>
    obtain ⟨between, closed, settled⟩ := eq_ok_of_bind settled
    obtain rfl := DescriptorTable.eq_of_close closed
    exact (DescriptorTable.inherits_erase _ _).trans (inherits_redirected settled)
  | _ =>
    cases settled
    exact .refl _

/-- What a call of the rewiring makes of the table, with its answer. -/
def operate (startup : Startup) (limit : Nat) (table : DescriptorTable) : Except Errno (Reply × DescriptorTable) :=
  match startup.control with
  | .closingUnused endpoint _ | .closingEndpoint endpoint _ => (table.close endpoint).map (Reply.done, ·)
  | .movingStdout _ =>
    (table.duplicateFrom limit 0 (diagnostics + 1)).map fun (moved, table) => (Reply.number moved, table)
  | .redirecting endpoint target _ =>
    if endpoint = target then (table.keepOnExec endpoint).map (Reply.done, ·)
    else (table.duplicate limit endpoint target).map (Reply.done, ·)
  | _ => .ok (.done, table)

/-- How many calls of the rewiring are left at most. -/
def Control.calls : Control → Nat
  | closingUnused _ _ => 6
  | movingStdout _ => 5
  | redirecting _ _ later => 2 * later.length + 2
  | closingEndpoint _ later => 2 * later.length + 1
  | loading | complaining _ _ _ | exiting _ => 0

theorem Control.calls_pos {control : Control} (rewiring : control.isRewiring = true) : 0 < control.calls := by
  cases control <;> first | exact Nat.succ_pos _ | cases rewiring

theorem Control.calls_eq_zero {control : Control} {code : Nat} (failed : control.code? = some code) :
    control.calls = 0 := by
  cases control <;> first | rfl | cases failed

theorem Control.calls_redirect (pairs : List (Nat × Nat)) : (redirect pairs).calls = 2 * pairs.length := by
  cases pairs <;> simp [redirect, calls, Nat.mul_add]

theorem Control.calls_wire (streams : Streams) : (wire streams).calls < 6 := by
  obtain ⟨_ | stdin, _ | _ | stdout⟩ := streams <;> simp [wire, redirect, calls]

section operate

variable {startup : Startup} {table : DescriptorTable} (rewiring : startup.control.isRewiring = true)

include rewiring

/-- The calls of the rewiring are answered at once. -/
theorem perform_operate {σ : Type} (system : System σ) (number : Nat) (process : Process σ) :
    system.perform number process startup.next =
      match startup.operate process.limit process.descriptors with
      | .ok (reply, table) => .answer reply (system.putTable number process table)
      | .error errno => .answer (.failed errno) system := by
  cases control : startup.control with
  | closingUnused endpoint streams =>
    simp only [next, operate, control, System.perform]
    cases process.descriptors.close endpoint <;> rfl
  | closingEndpoint endpoint later =>
    simp only [next, operate, control, System.perform]
    cases process.descriptors.close endpoint <;> rfl
  | movingStdout stdin =>
    simp only [next, operate, control, System.perform]
    cases process.descriptors.duplicateFrom process.limit 0 (diagnostics + 1) <;> rfl
  | redirecting endpoint target later =>
    simp only [next, operate, control]
    split
    · simp only [System.perform]
      cases process.descriptors.keepOnExec endpoint <;> rfl
    · simp only [System.perform]
      cases process.descriptors.duplicate process.limit endpoint target <;> rfl
  | _ => simp [control, Control.isRewiring] at rewiring

/-- What the rewiring comes to is what it comes to after its next call. -/
theorem outcome_operate (limit : Nat) (table : DescriptorTable) :
    startup.control.outcome limit table = (startup.operate limit table).bind fun answered =>
      (startup.resume answered.1).control.outcome limit answered.2 := by
  obtain ⟨program, arguments, control⟩ := startup
  cases control with
  | closingUnused endpoint streams =>
    simp only [operate, Control.outcome]
    cases table.close endpoint with
    | error errno => rfl
    | ok after => exact (Control.outcome_wire limit streams after).symm
  | closingEndpoint endpoint later =>
    simp only [operate, Control.outcome]
    cases table.close endpoint with
    | error errno => rfl
    | ok after => exact (Control.outcome_redirect limit later after).symm
  | movingStdout stdin =>
    simp only [operate, Control.outcome, movedAndRedirected]
    cases table.duplicateFrom limit 0 (diagnostics + 1) with
    | error errno => rfl
    | ok given => exact (Control.outcome_redirect limit _ given.2).symm
  | redirecting endpoint target later =>
    simp only [operate, Control.outcome, redirected]
    split
    · rename_i inPlace
      cases table.keepOnExec endpoint with
      | error errno => rfl
      | ok after =>
        show redirected limit later after =
          Control.outcome limit (if endpoint = target then .redirect later else .closingEndpoint endpoint later) after
        rw [if_pos inPlace, Control.outcome_redirect]
    · rename_i apart
      cases table.duplicate limit endpoint target with
      | error errno => rfl
      | ok after => simp only [Except.bind, Except.map, resume, Control.after, if_neg apart]
  | _ => cases rewiring

/-- After a call that was answered there are fewer left. The process has not failed, and closes no endpoint for being
unused. -/
theorem begun_operate {limit : Nat} {answered : Reply × DescriptorTable}
    (operated : startup.operate limit table = .ok answered) :
    (startup.resume answered.1).control.hasFailed = false ∧
      (startup.resume answered.1).control.calls < startup.control.calls ∧
      ∀ unused streams, (startup.resume answered.1).control ≠ .closingUnused unused streams := by
  obtain ⟨program, arguments, control⟩ := startup
  have done : ∀ {result : Except Errno DescriptorTable}, result.map (Reply.done, ·) = .ok answered →
      answered.1 = .done := by
    intro result mapped
    cases result <;> cases mapped
    rfl
  have redirects : ∀ {pairs : List (Nat × Nat)} {calls : Nat}, 2 * pairs.length < calls →
      (Control.redirect pairs).hasFailed = false ∧ (Control.redirect pairs).calls < calls ∧
        ∀ unused streams, Control.redirect pairs ≠ .closingUnused unused streams := by
    intro pairs calls fewer
    exact ⟨Control.hasFailed_redirect pairs, Control.calls_redirect pairs ▸ fewer,
      Control.redirect_ne_closingUnused pairs⟩
  cases control with
  | closingUnused endpoint streams =>
    rw [done operated]
    exact ⟨Control.hasFailed_wire streams, Control.calls_wire streams, Control.wire_ne_closingUnused streams⟩
  | closingEndpoint endpoint later =>
    rw [done operated]
    exact redirects (Nat.lt_succ_self _)
  | movingStdout stdin =>
    simp only [operate] at operated
    cases duplicated : table.duplicateFrom limit 0 (diagnostics + 1) with
    | error errno => simp [duplicated, Except.map] at operated
    | ok given =>
      rw [duplicated] at operated
      cases operated
      exact redirects (show 2 * [(stdin, 0), (given.1, 1)].length < 5 from Nat.lt_succ_self 4)
  | redirecting endpoint target later =>
    simp only [operate] at operated
    split at operated
    · rename_i inPlace
      rw [done operated]
      simp only [resume, Control.after, if_pos inPlace]
      exact redirects (Nat.lt_add_of_pos_right (Nat.succ_pos 1))
    · rename_i apart
      rw [done operated]
      simp [resume, Control.after, apart, Control.hasFailed, Control.calls]
  | _ => cases rewiring

/-- A call of the rewiring brings no object into the table; the first one closes the unused endpoint, if there is one.
-/
theorem inherits_operate {limit : Nat} {answered : Reply × DescriptorTable}
    (operated : startup.operate limit table = .ok answered) :
    table.Inherits answered.2 ∧
      ∀ unused streams, startup.control = .closingUnused unused streams → answered.2 = table.erase unused := by
  obtain ⟨program, arguments, control⟩ := startup
  have done : ∀ {result : Except Errno DescriptorTable}, result.map (Reply.done, ·) = .ok answered →
      result = .ok answered.2 := by
    intro result mapped
    cases result <;> cases mapped
    rfl
  cases control with
  | closingUnused endpoint streams =>
    have erased := DescriptorTable.eq_of_close (done operated)
    refine ⟨erased ▸ DescriptorTable.inherits_erase _ _, ?_⟩
    rintro _ _ ⟨⟩
    exact erased
  | closingEndpoint endpoint later =>
    have erased := DescriptorTable.eq_of_close (done operated)
    exact ⟨erased ▸ DescriptorTable.inherits_erase _ _, by simp⟩
  | movingStdout stdin =>
    simp only [operate] at operated
    cases duplicated : table.duplicateFrom limit 0 (diagnostics + 1) with
    | error errno => simp [duplicated, Except.map] at operated
    | ok given =>
      rw [duplicated] at operated
      cases operated
      exact ⟨DescriptorTable.inherits_of_duplicateFrom duplicated, by simp⟩
  | redirecting endpoint target later =>
    simp only [operate] at operated
    split at operated
    · obtain ⟨source, isOpen, inserted⟩ := DescriptorTable.eq_of_keepOnExec (done operated)
      exact ⟨inserted ▸ DescriptorTable.inherits_insert ⟨_, source, isOpen, rfl⟩ _ _, by simp⟩
    · exact ⟨DescriptorTable.inherits_of_duplicate (done operated), by simp⟩
  | _ => cases rewiring

/-- A call that fails ends the rewiring, unless it was interrupted and is made again. -/
theorem code?_of_failed_rewiring (errno : Errno) :
    (startup.resume (.failed errno)).control.code? = some rewireFailure ∨
      errno = .interrupted ∧ (∃ endpoint target, startup.next = .duplicate endpoint target) ∧
        startup.resume (.failed errno) = startup := by
  obtain ⟨program, arguments, control⟩ := startup
  cases control with
  | redirecting endpoint target later =>
    by_cases inPlace : endpoint = target
    · exact .inl (by simp [resume, Control.after, inPlace, Control.fail, Control.code?])
    · by_cases interrupted : errno = .interrupted
      · exact .inr ⟨interrupted, ⟨endpoint, target, by simp [next, inPlace]⟩, by
          simp [resume, Control.after, inPlace, interrupted]⟩
      · exact .inl (by simp [resume, Control.after, inPlace, interrupted, Control.fail, Control.code?])
  | loading => cases rewiring
  | complaining part parts code => cases rewiring
  | exiting code => cases rewiring
  | _ => exact .inl rfl

/-- The machine itself interrupts no call of the rewiring. -/
theorem ne_interrupted_of_operate {limit : Nat} {errno : Errno} (refused : startup.operate limit table = .error errno) :
    errno ≠ .interrupted := by
  rintro rfl
  have closes : ∀ endpoint, table.close endpoint ≠ .error .interrupted := by
    intro endpoint
    unfold DescriptorTable.close
    split <;> simp
  have kept : ∀ {result : Except Errno DescriptorTable}, result.map (Reply.done, ·) = .error .interrupted →
      result = .error .interrupted := by
    intro result mapped
    cases result <;> cases mapped
    rfl
  obtain ⟨program, arguments, control⟩ := startup
  cases control with
  | closingUnused endpoint streams => exact closes endpoint (kept refused)
  | closingEndpoint endpoint later => exact closes endpoint (kept refused)
  | movingStdout stdin =>
    simp only [operate, DescriptorTable.duplicateFrom, DescriptorTable.allocate] at refused
    repeat' split at refused
    all_goals cases refused
  | redirecting endpoint target later =>
    simp only [operate] at refused
    split at refused
    · have interrupted := kept refused
      unfold DescriptorTable.keepOnExec at interrupted
      split at interrupted <;> cases interrupted
    · have interrupted := kept refused
      unfold DescriptorTable.duplicate at interrupted
      repeat' split at interrupted
      all_goals cases interrupted
  | _ => cases rewiring

end operate

/-- The calls of the rewiring are answered at once, bring no object into the table and lead on to the same table
at the loading. The first of them closes the unused endpoint, if there is one. -/
theorem perform_rewiring {σ : Type} (system : System σ) (number : Nat) {process : Process σ} {startup : Startup}
    {final : DescriptorTable} (rewiring : startup.control.isRewiring = true)
    (settled : startup.control.outcome process.limit process.descriptors = .ok final) :
    ∃ (reply : Reply) (table : DescriptorTable),
      system.perform number process startup.next = .answer reply (system.putTable number process table) ∧
      (startup.resume reply).control.outcome process.limit table = .ok final ∧
      (∀ unused streams, (startup.resume reply).control ≠ .closingUnused unused streams) ∧
      (startup.resume reply).control.hasFailed = false ∧ process.descriptors.Inherits table ∧
      ∀ unused streams, startup.control = .closingUnused unused streams →
        table = process.descriptors.erase unused := by
  have performed := perform_operate rewiring system number process
  rw [outcome_operate rewiring] at settled
  cases operated : startup.operate process.limit process.descriptors with
  | error errno => simp [operated, Except.bind] at settled
  | ok answered =>
    rw [operated] at performed settled
    obtain ⟨begun, -, opened⟩ := begun_operate rewiring operated
    obtain ⟨inherits, erased⟩ := inherits_operate rewiring operated
    exact ⟨answered.1, answered.2, performed, settled, opened, begun, inherits, erased⟩

end Startup

end Pipework
