import Pipework.Kernel.Files
import Pipework.Kernel.Pipe

set_option autoImplicit false

/-!
What reads and writes do to the bytes of a pipe and to the contents of files.

A write into a pipe appends as much of its data as is taken, a read takes bytes off the other end, and no page is left
without bytes (`Pipe.Filled`): so a pipe that is not empty always has data for a reader, and an empty one has room for a
writer.

A regular file is seen through an opening together with the place where it stands (`Files.view?`); a read moves the
opening, a write at the end of the file adds to its content, and both leave alone what is seen through the openings of
other files.
-/

namespace Pipework.Kernel.Pipe

variable {shape : PipeShape} {pipe after : Pipe} {data rest : Bytes}

/-- A pipe without pages on which nothing is left to read. -/
def Filled (pipe : Pipe) : Prop := ∀ page ∈ pipe.pages, page.unread ≠ []

/-- A pipe that has taken the first bytes of some data: how it answers is as before. -/
structure Takes (pipe : Pipe) (data : Bytes) (after : Pipe) (rest : Bytes) : Prop where
  content : ∃ taken, data = taken ++ rest ∧ after.content = pipe.content ++ taken
  readsAtOnce : after.readsAtOnce = pipe.readsAtOnce
  writesAtOnce : after.writesAtOnce = pipe.writesAtOnce

theorem fillLast_takes (shape : PipeShape) (data : Bytes) (pages : List Page) :
    ∃ taken, data = taken ++ (fillLast shape data pages).2 ∧
      (fillLast shape data pages).1.flatMap Page.unread = pages.flatMap Page.unread ++ taken := by
  induction pages with
  | nil => exact ⟨[], by simp [fillLast]⟩
  | cons page later ih =>
    cases later with
    | nil =>
      simp only [fillLast]
      split
      · exact ⟨data.take (data.length % shape.pageSize), by simp⟩
      · exact ⟨[], by simp⟩
    | cons next later =>
      obtain ⟨taken, whole, appended⟩ := ih
      refine ⟨taken, whole, ?_⟩
      simp only [fillLast, List.flatMap_cons, appended, List.append_assoc]

theorem newPages_takes (pageSize count : Nat) (data : Bytes) :
    ∃ taken, data = taken ++ (newPages pageSize count data).2 ∧
      (newPages pageSize count data).1.flatMap Page.unread = taken := by
  induction count generalizing data with
  | zero => exact ⟨[], by simp [newPages]⟩
  | succ count ih =>
    unfold newPages
    split
    · exact ⟨[], by simp⟩
    · obtain ⟨taken, whole, appended⟩ := ih (data.drop pageSize)
      refine ⟨data.take pageSize ++ taken, ?_, ?_⟩
      · rw [List.append_assoc, ← whole, List.take_append_drop]
      · rw [List.flatMap_cons, appended]

/-- What an extension takes on comes after what was there. -/
theorem extend_takes (taken : pipe.extend shape data = (after, rest)) : Takes pipe data after rest := by
  obtain ⟨bytes, whole, appended⟩ :=
    newPages_takes shape.pageSize (shape.pages - pipe.pages.length) data
  cases taken
  refine ⟨⟨bytes, whole, ?_⟩, rfl, rfl⟩
  simp only [content, List.flatMap_append, appended]

/-- What the start of a write takes on comes after what was there. -/
theorem accept_takes (taken : pipe.accept shape data = (after, rest)) : Takes pipe data after rest := by
  obtain ⟨first, whole, filled⟩ := fillLast_takes shape data pipe.pages
  have extended : ({ pipe with pages := (fillLast shape data pipe.pages).1 } : Pipe).extend shape
      (fillLast shape data pipe.pages).2 = (after, rest) := taken
  obtain ⟨⟨second, remaining, appended⟩, readsAtOnce, writesAtOnce⟩ := extend_takes extended
  refine ⟨⟨first ++ second, ?_, ?_⟩, readsAtOnce, writesAtOnce⟩
  · rw [List.append_assoc, ← remaining, ← whole]
  · rw [appended, content, filled, content, List.append_assoc]

theorem fillLast_filled {data : Bytes} {pages : List Page} (filled : ∀ page ∈ pages, page.unread ≠ []) :
    ∀ page ∈ (fillLast shape data pages).1, page.unread ≠ [] := by
  induction pages with
  | nil => simp [fillLast]
  | cons page later ih =>
    cases later with
    | nil =>
      have nonempty := filled page (List.mem_singleton_self page)
      simp only [fillLast]
      split
      · simp [nonempty]
      · simpa using nonempty
    | cons next later =>
      have others := ih fun page member => filled page (List.mem_cons_of_mem _ member)
      intro page member
      rw [fillLast, List.mem_cons] at member
      rcases member with rfl | member
      · exact filled _ List.mem_cons_self
      · exact others page member

theorem newPages_filled {pageSize : Nat} (positive : 0 < pageSize) (count : Nat) (data : Bytes) :
    ∀ page ∈ (newPages pageSize count data).1, page.unread ≠ [] := by
  induction count generalizing data with
  | zero => simp [newPages]
  | succ count ih =>
    unfold newPages
    split
    · simp
    · rename_i nonempty
      intro page member
      rcases List.mem_cons.mp member with rfl | member
      · have some : data ≠ [] := by simpa using nonempty
        have size : pageSize ≠ 0 := by omega
        simp [List.take_eq_nil_iff, some, size]
      · exact ih _ page member

theorem extend_filled (positive : 0 < shape.pageSize) (filled : pipe.Filled)
    (taken : pipe.extend shape data = (after, rest)) : after.Filled := by
  cases taken
  intro page member
  rcases List.mem_append.mp member with old | new
  · exact filled page old
  · exact newPages_filled positive _ _ page new

theorem accept_filled (positive : 0 < shape.pageSize) (filled : pipe.Filled)
    (taken : pipe.accept shape data = (after, rest)) : after.Filled := by
  have extended : ({ pipe with pages := (fillLast shape data pipe.pages).1 } : Pipe).extend shape
      (fillLast shape data pipe.pages).2 = (after, rest) := taken
  have first : ({ pipe with pages := (fillLast shape data pipe.pages).1 } : Pipe).Filled := fillLast_filled filled
  exact extend_filled positive first extended

/-- An empty pipe has room for at least one byte. -/
theorem length_rest_lt (pages : 0 < shape.pages) (positive : 0 < shape.pageSize) (empty : pipe.pages = [])
    (some : data ≠ []) (taken : pipe.extend shape data = (after, rest)) : rest.length < data.length := by
  have room : ∃ count, shape.pages - pipe.pages.length = count + 1 :=
    ⟨shape.pages - 1, by rw [empty]; simp only [List.length_nil]; omega⟩
  obtain ⟨count, room⟩ := room
  obtain ⟨bytes, whole, -⟩ := newPages_takes shape.pageSize count (data.drop shape.pageSize)
  have longer : 0 < data.length := List.length_pos_iff.mpr some
  have shorter := congrArg List.length whole
  rw [List.length_drop, List.length_append] at shorter
  simp only [extend, room, newPages, List.isEmpty_iff, some, if_false, Prod.mk.injEq] at taken
  rw [← taken.2]
  omega

theorem accept_of_empty (empty : pipe.pages = []) (shape : PipeShape) (data : Bytes) :
    pipe.accept shape data = pipe.extend shape data := by
  simp [accept, empty, fillLast, extend]

theorem takePages_eq (limit : Nat) (pages : List Page) :
    pages.flatMap Page.unread = (takePages limit pages).1 ++ (takePages limit pages).2.flatMap Page.unread := by
  induction pages generalizing limit with
  | nil => simp [takePages]
  | cons page later ih =>
    unfold takePages
    split
    · rw [List.flatMap_cons, ih (limit - page.unread.length), List.append_assoc]
    · rw [List.flatMap_cons, List.flatMap_cons, ← List.append_assoc, List.take_append_drop]

/-- A read takes the oldest bytes. -/
theorem content_take (pipe : Pipe) (limit : Nat) :
    pipe.content = (pipe.take limit).1 ++ (pipe.take limit).2.content := takePages_eq limit pipe.pages

theorem takePages_filled {pages : List Page} (filled : ∀ page ∈ pages, page.unread ≠ []) (limit : Nat) :
    ∀ page ∈ (takePages limit pages).2, page.unread ≠ [] := by
  induction pages generalizing limit with
  | nil => simp [takePages]
  | cons page later ih =>
    have others := ih fun page member => filled page (List.mem_cons_of_mem _ member)
    unfold takePages
    split
    · exact others _
    · rename_i longer
      intro page member
      rcases List.mem_cons.mp member with rfl | member
      · simpa [List.drop_eq_nil_iff] using longer
      · exact filled page (List.mem_cons_of_mem _ member)

theorem take_filled (filled : pipe.Filled) (limit : Nat) : (pipe.take limit).2.Filled :=
  takePages_filled filled limit

/-- A read that finds something takes at least one byte. -/
theorem take_ne_nil {limit : Nat} (filled : pipe.Filled) (some : pipe.pages ≠ []) (positive : 0 < limit) :
    (pipe.take limit).1 ≠ [] := by
  obtain ⟨page, later, pages⟩ := List.exists_cons_of_ne_nil some
  have nonempty := filled page (by simp [pages])
  have size : limit ≠ 0 := by omega
  simp only [take, pages, takePages]
  split
  · simp [nonempty]
  · simp [List.take_eq_nil_iff, nonempty, size]

/-- A filled pipe with no content has no pages. -/
theorem Filled.pages_of_content (filled : pipe.Filled) (nothing : pipe.content = []) : pipe.pages = [] := by
  cases pages : pipe.pages with
  | nil => rfl
  | cons page later =>
    refine absurd ?_ (filled page (by simp [pages]))
    simp only [content, pages, List.flatMap_cons] at nothing
    exact (List.append_eq_nil_iff.mp nothing).1

theorem takes_length {taken : Bytes} (pipe : Pipe) (limit : Nat) (took : (pipe.take limit).1 = taken) :
    taken.length ≤ limit := by
  subst took
  have bound : ∀ (pages : List Page) (limit : Nat), (takePages limit pages).1.length ≤ limit := by
    intro pages
    induction pages with
    | nil => simp [takePages]
    | cons page later ih =>
      intro limit
      unfold takePages
      split
      · have := ih (limit - page.unread.length)
        simp only [List.length_append]
        omega
      · rw [List.length_take]
        omega
  exact bound pipe.pages limit

/-- A pipe that has no more pages than there is room for, and on each of them no more bytes than fit there. -/
structure Within (shape : PipeShape) (pipe : Pipe) : Prop where
  count : pipe.pages.length ≤ shape.pages
  size : ∀ page ∈ pipe.pages, page.start + page.unread.length ≤ shape.pageSize

theorem length_fillLast (shape : PipeShape) (data : Bytes) (pages : List Page) :
    (fillLast shape data pages).1.length = pages.length := by
  induction pages with
  | nil => rfl
  | cons page later ih =>
    cases later with
    | nil =>
      simp only [fillLast]
      split <;> rfl
    | cons next later => simpa only [fillLast, List.length_cons, Nat.add_right_cancel_iff] using ih

theorem size_fillLast {data : Bytes} {pages : List Page}
    (size : ∀ page ∈ pages, page.start + page.unread.length ≤ shape.pageSize) :
    ∀ page ∈ (fillLast shape data pages).1, page.start + page.unread.length ≤ shape.pageSize := by
  induction pages with
  | nil => simp [fillLast]
  | cons page later ih =>
    cases later with
    | nil =>
      simp only [fillLast]
      split
      · rename_i fits
        intro filled member
        obtain rfl := List.mem_singleton.mp member
        have odd := List.length_take_le (data.length % shape.pageSize) data
        simp only [List.length_append]
        omega
      · exact size
    | cons next later =>
      have others := ih fun page member => size page (List.mem_cons_of_mem _ member)
      intro filled member
      rw [fillLast, List.mem_cons] at member
      rcases member with rfl | member
      · exact size _ List.mem_cons_self
      · exact others filled member

theorem length_newPages_le (pageSize count : Nat) (data : Bytes) : (newPages pageSize count data).1.length ≤ count := by
  induction count generalizing data with
  | zero => simp [newPages]
  | succ count ih =>
    unfold newPages
    split
    · simp
    · have later := ih (data.drop pageSize)
      simp only [List.length_cons]
      omega

theorem size_newPages (pageSize count : Nat) (data : Bytes) :
    ∀ page ∈ (newPages pageSize count data).1, page.start + page.unread.length ≤ pageSize := by
  induction count generalizing data with
  | zero => simp [newPages]
  | succ count ih =>
    unfold newPages
    split
    · simp
    · intro page member
      rcases List.mem_cons.mp member with rfl | member
      · simp only [Nat.zero_add]
        exact List.length_take_le pageSize data
      · exact ih _ page member

theorem Within.accept (within : pipe.Within shape) (taken : pipe.accept shape data = (after, rest)) :
    after.Within shape := by
  have length := length_fillLast shape data pipe.pages
  have most := length_newPages_le shape.pageSize
    (shape.pages - (fillLast shape data pipe.pages).1.length) (fillLast shape data pipe.pages).2
  have count := within.count
  unfold Pipe.accept extend at taken
  cases taken
  constructor
  · simp only [List.length_append]
    omega
  · intro page member
    rcases List.mem_append.mp member with old | new
    · exact size_fillLast within.size page old
    · exact size_newPages _ _ _ page new

theorem Within.take (within : pipe.Within shape) (limit : Nat) : (pipe.take limit).2.Within shape := by
  have left : ∀ (pages : List Page) (limit : Nat),
      (∀ page ∈ pages, page.start + page.unread.length ≤ shape.pageSize) →
      (takePages limit pages).2.length ≤ pages.length ∧
        ∀ page ∈ (takePages limit pages).2, page.start + page.unread.length ≤ shape.pageSize := by
    intro pages
    induction pages with
    | nil => simp [takePages]
    | cons page later ih =>
      intro limit size
      have others := ih (limit - page.unread.length) fun page member => size page (List.mem_cons_of_mem _ member)
      unfold takePages
      split
      · exact ⟨Nat.le_succ_of_le others.1, others.2⟩
      · refine ⟨Nat.le_refl _, fun part member => ?_⟩
        rcases List.mem_cons.mp member with rfl | member
        · have whole := size page List.mem_cons_self
          simp only [List.length_drop]
          omega
        · exact size part (List.mem_cons_of_mem _ member)
  obtain ⟨fewer, size⟩ := left pipe.pages limit within.size
  exact ⟨Nat.le_trans fewer within.count, size⟩

/-- The bytes in flight never exceed the capacity. -/
theorem Within.length_content_le (within : pipe.Within shape) : pipe.content.length ≤ shape.capacity := by
  have sum : ∀ pages : List Page, (∀ page ∈ pages, page.start + page.unread.length ≤ shape.pageSize) →
      (pages.flatMap Page.unread).length ≤ pages.length * shape.pageSize := by
    intro pages size
    induction pages with
    | nil => simp
    | cons page later ih =>
      have others := ih fun page member => size page (List.mem_cons_of_mem _ member)
      have first := size page List.mem_cons_self
      simp only [List.flatMap_cons, List.length_append, List.length_cons, Nat.succ_mul]
      omega
  exact Nat.le_trans (sum pipe.pages within.size) (Nat.mul_le_mul_right _ within.count)

end Pipework.Kernel.Pipe

namespace Pipework.Kernel.Files

variable {files after : Files} {number other limit : Nat} {now : Moment} {opening : Opening} {content data : Bytes}

/-- An opening of a regular file, with what the file holds. -/
def view? (files : Files) (number : Nat) : Option (Opening × Bytes) :=
  match files.openings[number]? with
  | none => none
  | some opening =>
    match (files.table[opening.file]?).map File.node with
    | some (.regular content) => some (opening, content)
    | _ => none

/-- The file behind an opening. -/
def fileOf? (files : Files) (number : Nat) : Option Nat := (files.openings[number]?).map Opening.file

theorem view?_eq_some :
    files.view? number = some (opening, content) ↔ files.openings[number]? = some opening ∧
      (files.table[opening.file]?).map File.node = some (.regular content) := by
  unfold view?
  constructor
  · intro view
    split at view
    · cases view
    · rename_i found present
      split at view
      · rename_i isRegular
        cases view
        exact ⟨present, isRegular⟩
      · cases view
  · rintro ⟨present, isRegular⟩
    simp only [present, isRegular]

/-- What is seen depends on the opening and on its file only. -/
theorem view?_congr (openings : after.openings[number]? = files.openings[number]?)
    (table : ∀ file, files.fileOf? number = some file → after.table[file]? = files.table[file]?) :
    after.view? number = files.view? number := by
  unfold view?
  rw [openings]
  cases present : files.openings[number]? with
  | none => rfl
  | some opening => simp only [table opening.file (by rw [fileOf?, present, Option.map_some])]

section read

/-- A read moves the opening, if it changes anything. -/
theorem eq_of_read (read : files.read number limit = .ok (data, after)) :
    after = files ∨ ∃ opening offset, files.openings[number]? = some opening ∧
      after = files.moveTo number opening offset := by
  unfold Files.read at read
  split at read
  · cases read
  · rename_i opening present
    split at read
    · split at read
      · cases read
        exact .inr ⟨opening, _, present, rfl⟩
      · cases read
      · cases read
        exact .inl rfl
      · cases read
        exact .inl rfl
      · cases read
        exact .inl rfl
    · cases read

theorem fileOf?_read (read : files.read other limit = .ok (data, after)) :
    after.fileOf? number = files.fileOf? number := by
  rcases eq_of_read read with rfl | ⟨opening, offset, present, rfl⟩
  · rfl
  · simp only [fileOf?, moveTo, Std.ExtTreeMap.getElem?_insert]
    split
    · rename_i same
      obtain rfl : other = number := by simpa using same
      rw [present, Option.map_some, Option.map_some]
    · rfl

/-- What is seen through one opening stays as it is when another one is read. -/
theorem view?_read (apart : other ≠ number) (read : files.read other limit = .ok (data, after)) :
    after.view? number = files.view? number := by
  rcases eq_of_read read with rfl | ⟨opening, offset, present, rfl⟩
  · rfl
  · refine view?_congr ?_ fun _ _ => rfl
    rw [moveTo, Std.ExtTreeMap.getElem?_insert, if_neg (by simpa using apart)]

/-- A regular file gives what comes next in it. -/
theorem read_of_view (limit : Nat) (view : files.view? number = some (opening, content)) (reads : opening.access.reads = true) :
    files.read number limit = .ok ((content.drop opening.offset).take limit,
      files.moveTo number opening (opening.offset + ((content.drop opening.offset).take limit).length)) := by
  obtain ⟨present, isRegular⟩ := view?_eq_some.mp view
  simp only [Files.read, present, reads, isRegular, if_true]

theorem view?_read_self (view : files.view? number = some (opening, content)) (reads : opening.access.reads = true)
    (read : files.read number limit = .ok (data, after)) :
    data = (content.drop opening.offset).take limit ∧
      after.view? number = some ({ opening with offset := opening.offset + data.length }, content) := by
  rw [read_of_view limit view reads] at read
  cases read
  refine ⟨rfl, view?_eq_some.mpr ⟨Std.ExtTreeMap.getElem?_insert_self, (view?_eq_some.mp view).2⟩⟩

end read

section write

/-- A write changes the file and moves the opening, if it changes anything. -/
theorem eq_of_write (wrote : files.write now number data = .ok after) :
    after = files ∨ ∃ opening file offset, files.openings[number]? = some opening ∧
      after = (files.put opening.file file).moveTo number opening offset := by
  unfold Files.write at wrote
  split at wrote
  · cases wrote
  · rename_i opening present
    split at wrote
    · cases wrote
    · split at wrote
      · cases wrote
        exact .inl rfl
      · split at wrote
        · split at wrote
          · cases wrote
            exact .inl rfl
          · cases wrote
            exact .inr ⟨opening, _, _, present, rfl⟩
        · split at wrote
          · cases wrote
            exact .inl rfl
          · cases wrote
        · cases wrote
          exact .inl rfl

theorem fileOf?_write (wrote : files.write now other data = .ok after) :
    after.fileOf? number = files.fileOf? number := by
  rcases eq_of_write wrote with rfl | ⟨opening, file, offset, present, rfl⟩
  · rfl
  · simp only [fileOf?, moveTo, put, Std.ExtTreeMap.getElem?_insert]
    split
    · rename_i same
      obtain rfl : other = number := by simpa using same
      rw [present, Option.map_some, Option.map_some]
    · rfl

/-- What is seen of one file stays as it is when another one is written. -/
theorem view?_write (apart : files.fileOf? other ≠ files.fileOf? number)
    (wrote : files.write now other data = .ok after) : after.view? number = files.view? number := by
  rcases eq_of_write wrote with rfl | ⟨opening, file, offset, present, rfl⟩
  · rfl
  · have notSame : other ≠ number := fun same => apart (by rw [same])
    refine view?_congr ?_ fun seen isFile => ?_
    · rw [moveTo, Std.ExtTreeMap.getElem?_insert, if_neg (by simpa using notSame)]
      rfl
    · have differs : opening.file ≠ seen := by
        rintro rfl
        exact apart (by rw [isFile, fileOf?, present, Option.map_some])
      rw [moveTo, put, Std.ExtTreeMap.getElem?_insert, if_neg (by simpa using differs)]

/-- A write through an opening that stands at the end of its file, or appends, adds to the file. -/
theorem write_of_view (now : Moment) (data : Bytes) (view : files.view? number = some (opening, content))
    (writes : opening.access.writes = true)
    (atEnd : opening.access = .append ∨ opening.offset = content.length) :
    ∃ after, files.write now number data = .ok after ∧
      ∃ offset, after.view? number = some ({ opening with offset }, content ++ data) ∧
        (opening.access = .append ∨ offset = (content ++ data).length) := by
  obtain ⟨present, isRegular⟩ := view?_eq_some.mp view
  obtain ⟨file, found, node⟩ := Option.map_eq_some_iff.mp isRegular
  have place : (if opening.access = .append then content.length else opening.offset) = content.length := by
    split
    · rfl
    · rename_i notAppend
      exact atEnd.resolve_left notAppend
  by_cases nothing : data = []
  · subst nothing
    refine ⟨files, by simp [Files.write, present, writes, found, node], opening.offset, ?_, ?_⟩
    · rw [List.append_nil, view]
    · rwa [List.append_nil]
  · have some : data.isEmpty = false := by simpa using nothing
    refine ⟨(files.put opening.file { file with
        node := .regular (content ++ data), modified := now, changed := now }).moveTo number opening
        (content.length + data.length), ?_, content.length + data.length, ?_, ?_⟩
    · simp [Files.write, present, writes, found, node, some, place]
    · refine view?_eq_some.mpr ⟨Std.ExtTreeMap.getElem?_insert_self, ?_⟩
      rw [moveTo, put, Std.ExtTreeMap.getElem?_insert_self, Option.map_some]
    · exact .inr List.length_append.symm

end write

/-- What can become of files through some of their openings. -/
inductive Touched (used : Nat → Prop) (files : Files) : Files → Prop where
  | same : Touched used files files
  | read (opening limit : Nat) (data : Bytes) (after : Files) (isUsed : used opening)
      (read : files.read opening limit = .ok (data, after)) : Touched used files after
  | wrote (opening : Nat) (now : Moment) (data : Bytes) (after : Files) (isUsed : used opening)
      (wrote : files.write now opening data = .ok after) : Touched used files after

namespace Touched

variable {used : Nat → Prop}

/-- No opening is turned to another file. -/
theorem fileOf? (touched : files.Touched used after) : after.fileOf? number = files.fileOf? number := by
  cases touched with
  | same => rfl
  | read opening limit data after isUsed read => exact fileOf?_read read
  | wrote opening now data after isUsed wrote => exact fileOf?_write wrote

/-- What is seen of a file stays as it is when those of other files are used. -/
theorem view? (touched : files.Touched used after)
    (foreign : ∀ opening, used opening → files.fileOf? opening ≠ files.fileOf? number) :
    after.view? number = files.view? number := by
  cases touched with
  | same => rfl
  | read opening limit data after isUsed read =>
    refine view?_read ?_ read
    rintro rfl
    exact foreign opening isUsed rfl
  | wrote opening now data after isUsed wrote => exact view?_write (foreign opening isUsed) wrote

end Touched

end Pipework.Kernel.Files
