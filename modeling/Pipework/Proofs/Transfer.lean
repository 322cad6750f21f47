import Pipework.Proofs.Contents
import Pipework.Proofs.Frame

set_option autoImplicit false

/-!
What can come of a read and of a write, case by case. `Wrote` and `Received` list the effects of the two calls
with all that they depend on, so that what is shown about them is shown by cases on these, and the calls
themselves are opened here only.
-/

namespace Pipework.Kernel

variable {σ : Type}

namespace System

/-- The pipe into which a descriptor writes. -/
def outlet? (system : System σ) (process : Process σ) (descriptor : Nat) : Option (Nat × Pipe) :=
  match (process.descriptors[descriptor]?).map Descriptor.object with
  | some (.writeEnd pipe) | some (.bothEnds pipe) => (system.pipes[pipe]?).map (pipe, ·)
  | _ => none

/-- The pipe from which a descriptor reads. -/
def inlet? (system : System σ) (process : Process σ) (descriptor : Nat) : Option (Nat × Pipe) :=
  match (process.descriptors[descriptor]?).map Descriptor.object with
  | some (.readEnd pipe) | some (.bothEnds pipe) => (system.pipes[pipe]?).map (pipe, ·)
  | _ => none

/-- The open file behind a descriptor. -/
def opening? (process : Process σ) (descriptor : Nat) : Option Nat :=
  match (process.descriptors[descriptor]?).map Descriptor.object with
  | some (.file opening) => some opening
  | _ => none

/-- What a pipe takes on of a write, of which some bytes may have been taken before. -/
def taken (system : System σ) (process : Process σ) (found : Pipe) (data : Bytes) : Pipe × Bytes :=
  if process.written = 0 then found.accept system.shape data
  else found.extend system.shape (data.drop process.written)

/-- What is taken on comes after what was in the pipe, and is the beginning of what was left of the write. -/
theorem taken_takes {system : System σ} {process : Process σ} {found replaced : Pipe} {data rest : Bytes}
    (took : system.taken process found data = (replaced, rest)) :
    found.Takes (data.drop process.written) replaced rest := by
  unfold taken at took
  split at took
  · rename_i unbegun
    rw [unbegun, List.drop_zero]
    exact Pipe.accept_takes took
  · exact Pipe.extend_takes took

theorem taken_filled {system : System σ} {process : Process σ} {found replaced : Pipe} {data rest : Bytes}
    (positive : 0 < system.shape.pageSize) (filled : found.Filled)
    (took : system.taken process found data = (replaced, rest)) : replaced.Filled := by
  unfold taken at took
  split at took
  · exact Pipe.accept_filled positive filled took
  · exact Pipe.extend_filled positive filled took

/-- What can come of a write. -/
inductive Wrote (system : System σ) (number : Nat) (process : Process σ) (descriptor : Nat) (data : Bytes) :
    Effect σ → Prop where
  | refused (errno : Errno) (noPipe : system.outlet? process descriptor = none) :
      Wrote system number process descriptor data (.answer (.failed errno) system)
  | file (opening : Nat) (files : Files) (isFile : opening? process descriptor = some opening)
      (wrote : system.files.write system.now opening data = .ok files) :
      Wrote system number process descriptor data (.answer (.number data.length) { system with files })
  | nothing (pipe : Nat) (found : Pipe) (outlet : system.outlet? process descriptor = some (pipe, found))
      (empty : data = []) : Wrote system number process descriptor data (.answer (.number 0) system)
  /-- Nobody can read what is written; something was taken before. -/
  | cut (pipe : Nat) (found : Pipe) (outlet : system.outlet? process descriptor = some (pipe, found))
      (unread : system.holds (.readEnd pipe) = false) (begun : 0 < process.written) :
      Wrote system number process descriptor data (.answer (.number process.written) system)
  | broken (pipe : Nat) (found : Pipe) (outlet : system.outlet? process descriptor = some (pipe, found))
      (unread : system.holds (.readEnd pipe) = false) (unbegun : process.written = 0) :
      Wrote system number process descriptor data (.answer (.failed .brokenPipe) system)
  | killed (pipe : Nat) (found : Pipe) (outlet : system.outlet? process descriptor = some (pipe, found))
      (unread : system.holds (.readEnd pipe) = false) (unbegun : process.written = 0)
      (heeds : Signal.pipe ∉ process.ignored) :
      Wrote system number process descriptor data (.moved (system.finish number (.signaled Signal.pipe)))
  | whole (pipe : Nat) (found replaced : Pipe) (outlet : system.outlet? process descriptor = some (pipe, found))
      (took : system.taken process found data = (replaced, [])) :
      Wrote system number process descriptor data
        (.answer (.number data.length) (system.putPipe pipe replaced))
  | full (pipe : Nat) (found : Pipe) (outlet : system.outlet? process descriptor = some (pipe, found))
      (atOnce : found.writesAtOnce = true) :
      Wrote system number process descriptor data (.answer (.failed .again) system)
  | atOnce (pipe : Nat) (found replaced : Pipe) (rest : Bytes)
      (outlet : system.outlet? process descriptor = some (pipe, found)) (atOnce : found.writesAtOnce = true)
      (took : system.taken process found data = (replaced, rest)) :
      Wrote system number process descriptor data
        (.answer (.number (data.length - rest.length)) (system.putPipe pipe replaced))
  | part (pipe : Nat) (found replaced : Pipe) (rest : Bytes)
      (outlet : system.outlet? process descriptor = some (pipe, found)) (waits : found.writesAtOnce = false)
      (took : system.taken process found data = (replaced, rest)) (remains : rest ≠ [])
      (grown : data.length - rest.length ≠ process.written) :
      Wrote system number process descriptor data
        (.moved ((system.putPipe pipe replaced).put number
          { process with written := data.length - rest.length }))
  | blocked (pipe : Nat) (found replaced : Pipe) (rest : Bytes)
      (outlet : system.outlet? process descriptor = some (pipe, found)) (waits : found.writesAtOnce = false)
      (read : system.holds (.readEnd pipe) = true) (nonempty : data ≠ [])
      (took : system.taken process found data = (replaced, rest)) (remains : rest ≠ [])
      (stuck : data.length - rest.length = process.written) :
      Wrote system number process descriptor data .blocked

theorem writePipe_wrote {system : System σ} {number : Nat} {process : Process σ} {descriptor pipe : Nat}
    {data : Bytes} {object : Object}
    (isOpen : (process.descriptors[descriptor]?).map Descriptor.object = some object)
    (isPipe : object = .writeEnd pipe ∨ object = .bothEnds pipe) :
    Wrote system number process descriptor data (system.writePipe number process pipe data) := by
  have outlet : system.outlet? process descriptor = (system.pipes[pipe]?).map (pipe, ·) := by
    rcases isPipe with rfl | rfl <;> simp [outlet?, isOpen]
  unfold writePipe
  split
  · rename_i absent
    rw [absent] at outlet
    exact .refused _ outlet
  rename_i found present
  rw [present] at outlet
  split
  · rename_i empty
    exact .nothing pipe found outlet (by simpa using empty)
  rename_i nonempty
  split
  · rename_i unread
    have unread : system.holds (.readEnd pipe) = false := by simpa using unread
    split
    · rename_i begun
      exact .cut pipe found outlet unread begun
    · rename_i unbegun
      have unbegun : process.written = 0 := by omega
      split
      · exact .broken pipe found outlet unread unbegun
      · rename_i heeds
        exact .killed pipe found outlet unread unbegun (by simpa using heeds)
  rename_i read
  obtain ⟨⟨replaced, rest⟩, took⟩ : ∃ result, system.taken process found data = result := ⟨_, rfl⟩
  have given := took
  simp only [taken] at given
  simp only [given]
  split
  · rename_i complete
    obtain rfl : rest = [] := by simpa using complete
    exact .whole pipe found replaced outlet took
  have same : replaced.writesAtOnce = found.writesAtOnce := (taken_takes took).writesAtOnce
  rename_i incomplete
  have remains : rest ≠ [] := by simpa using incomplete
  rw [same]
  split
  · rename_i atOnce
    split
    · exact .full pipe found outlet atOnce
    · exact .atOnce pipe found replaced rest outlet atOnce took
  rename_i waits
  split
  · rename_i stuck
    exact .blocked pipe found replaced rest outlet (by simpa using waits) (by simpa using read)
      (by simpa using nonempty) took remains stuck
  · rename_i grown
    exact .part pipe found replaced rest outlet (by simpa using waits) took remains grown

/-- A write has one of the effects that are listed. -/
theorem perform_write (system : System σ) (number : Nat) (process : Process σ) (descriptor : Nat)
    (data : Bytes) :
    Wrote system number process descriptor data (system.perform number process (.write descriptor data)) := by
  simp only [perform]
  cases isOpen : process.descriptors[descriptor]? with
  | none => exact .refused _ (by simp [outlet?, isOpen])
  | some entry =>
    obtain ⟨object, closeOnExec⟩ := entry
    cases object with
    | readEnd pipe => exact .refused _ (by simp [outlet?, isOpen])
    | writeEnd pipe => exact writePipe_wrote (by rw [isOpen]; rfl) (.inl rfl)
    | bothEnds pipe => exact writePipe_wrote (by rw [isOpen]; rfl) (.inr rfl)
    | file opening =>
      dsimp only
      split
      · exact .refused _ (by simp [outlet?, isOpen])
      · rename_i files wrote
        exact .file opening files (by simp [opening?, isOpen]) wrote

/-- What can come of a read. -/
inductive Received (system : System σ) (process : Process σ) (descriptor limit : Nat) : Effect σ → Prop where
  | refused (errno : Errno) (noPipe : system.inlet? process descriptor = none) :
      Received system process descriptor limit (.answer (.failed errno) system)
  | file (opening : Nat) (data : Bytes) (files : Files) (isFile : opening? process descriptor = some opening)
      (read : system.files.read opening limit = .ok (data, files)) :
      Received system process descriptor limit (.answer (.data data) { system with files })
  | nothing (pipe : Nat) (found : Pipe) (inlet : system.inlet? process descriptor = some (pipe, found))
      (zero : limit = 0) : Received system process descriptor limit (.answer (.data []) system)
  /-- The pipe is empty, and nobody can write to it. -/
  | ended (pipe : Nat) (found : Pipe) (inlet : system.inlet? process descriptor = some (pipe, found))
      (empty : found.pages = []) (unwritten : system.holds (.writeEnd pipe) = false) :
      Received system process descriptor limit (.answer (.data []) system)
  | again (pipe : Nat) (found : Pipe) (inlet : system.inlet? process descriptor = some (pipe, found))
      (atOnce : found.readsAtOnce = true) :
      Received system process descriptor limit (.answer (.failed .again) system)
  | data (pipe : Nat) (found : Pipe) (inlet : system.inlet? process descriptor = some (pipe, found))
      (positive : 0 < limit) (nonempty : found.pages ≠ []) :
      Received system process descriptor limit
        (.answer (.data (found.take limit).1) (system.putPipe pipe (found.take limit).2))
  | blocked (pipe : Nat) (found : Pipe) (inlet : system.inlet? process descriptor = some (pipe, found))
      (empty : found.pages = []) (written : system.holds (.writeEnd pipe) = true)
      (waits : found.readsAtOnce = false) : Received system process descriptor limit .blocked

theorem readPipe_received {system : System σ} {process : Process σ} {descriptor pipe limit : Nat}
    {object : Object} (isOpen : (process.descriptors[descriptor]?).map Descriptor.object = some object)
    (isPipe : object = .readEnd pipe ∨ object = .bothEnds pipe) :
    Received system process descriptor limit (system.readPipe pipe limit) := by
  have inlet : system.inlet? process descriptor = (system.pipes[pipe]?).map (pipe, ·) := by
    rcases isPipe with rfl | rfl <;> simp [inlet?, isOpen]
  unfold readPipe
  split
  · rename_i absent
    rw [absent] at inlet
    exact .refused _ inlet
  rename_i found present
  rw [present] at inlet
  split
  · rename_i zero
    exact .nothing pipe found inlet zero
  rename_i positive
  split
  · rename_i empty
    have empty : found.pages = [] := by simpa using empty
    split
    · rename_i unwritten
      exact .ended pipe found inlet empty (by simpa using unwritten)
    rename_i written
    split
    · rename_i atOnce
      exact .again pipe found inlet atOnce
    · rename_i waits
      exact .blocked pipe found inlet empty (by simpa using written) (by simpa using waits)
  · rename_i nonempty
    exact .data pipe found inlet (by omega) (by simpa using nonempty)

/-- A read has one of the effects that are listed. -/
theorem perform_read (system : System σ) (number : Nat) (process : Process σ) (descriptor limit : Nat) :
    Received system process descriptor limit (system.perform number process (.read descriptor limit)) := by
  simp only [perform]
  cases isOpen : process.descriptors[descriptor]? with
  | none => exact .refused _ (by simp [inlet?, isOpen])
  | some entry =>
    obtain ⟨object, closeOnExec⟩ := entry
    cases object with
    | readEnd pipe => exact readPipe_received (by rw [isOpen]; rfl) (.inl rfl)
    | writeEnd pipe => exact .refused _ (by simp [inlet?, isOpen])
    | bothEnds pipe => exact readPipe_received (by rw [isOpen]; rfl) (.inr rfl)
    | file opening =>
      dsimp only
      split
      · exact .refused _ (by simp [inlet?, isOpen])
      · rename_i data files read
        exact .file opening data files (by simp [opening?, isOpen]) read

/-- Who writes keeps its program, and as long as it lives its descriptors. -/
theorem write_disturbed {system after : System σ} {number descriptor : Nat} {process later : Process σ}
    {data : Bytes} (present : system.processes[number]? = some process)
    (led : (system.perform number process (.write descriptor data)).Leads after)
    (found : after.processes[number]? = some later) : Disturbed process later := by
  have wrote := system.perform_write number process descriptor data
  revert wrote
  generalize system.perform number process (.write descriptor data) = effect at led
  intro wrote
  cases wrote with
  | killed pipe replaced outlet unread unbegun =>
    cases led
    obtain ⟨earlier, living, disturbed⟩ := finish_disturbed found
    rw [present] at living
    cases living
    exact disturbed
  | part pipe replaced after rest outlet waits took remains =>
    cases led
    rw [getElem?_put_self] at found
    cases found
    exact ⟨rfl, rfl, rfl, rfl, fun none => ⟨none, rfl⟩⟩
  | blocked => cases led
  | _ =>
    cases led
    obtain rfl := eq_of_processes rfl present found
    exact .refl process

end System

end Pipework.Kernel
