import Pipework.Bytes

set_option autoImplicit false

/-!
Pipes. A pipe keeps its bytes on pages, and a page is given back only when all its bytes have been
read. A write begins by filling up the last page if its odd bytes fit there, and puts the rest on
pages of its own; so a pipe may be full although it holds fewer bytes than its capacity.
-/

namespace Pipework.Kernel

/-- How much room a pipe has. -/
structure PipeShape where
  pages : Nat := 16
  pageSize : Nat := 4096
  deriving DecidableEq, Repr

/-- The most bytes that a pipe can hold. -/
def PipeShape.capacity (shape : PipeShape) : Nat := shape.pages * shape.pageSize

/-- A page in use. -/
structure Page where
  /-- How many bytes at its start have been read. -/
  start : Nat
  /-- The bytes not yet read. -/
  unread : Bytes
  deriving DecidableEq, Repr

/-- A pipe with its pages, oldest first. -/
structure Pipe where
  pages : List Page := []
  /-- Whether reads answer at once when there is nothing to read. -/
  readsAtOnce : Bool := false
  /-- Whether writes answer at once when there is no room. -/
  writesAtOnce : Bool := false
  /-- How often the ends were opened by name. -/
  readOpenings : Nat := 0
  writeOpenings : Nat := 0
  deriving DecidableEq, Repr

namespace Pipe

/-- The bytes in flight, oldest first. -/
def content (pipe : Pipe) : Bytes := pipe.pages.flatMap Page.unread

/-- Appends to the last page what fits there of a write: its first bytes, as many as exceed whole
pages, if the pipe is not empty and the last page has room for all of them. Also gives the rest of the
write. -/
def fillLast (shape : PipeShape) (data : Bytes) : List Page → List Page × Bytes
  | [] => ([], data)
  | [page] =>
    let odd := data.length % shape.pageSize
    if page.start + page.unread.length + odd ≤ shape.pageSize then
      ([{ page with unread := page.unread ++ data.take odd }], data.drop odd)
    else ([page], data)
  | page :: next :: later =>
    let (filled, rest) := fillLast shape data (next :: later)
    (page :: filled, rest)

/-- Puts data on at most `count` new pages. Also gives what did not fit. -/
def newPages (pageSize : Nat) : Nat → Bytes → List Page × Bytes
  | 0, data => ([], data)
  | count + 1, data =>
    if data.isEmpty then ([], data)
    else
      let (later, rest) := newPages pageSize count (data.drop pageSize)
      (⟨0, data.take pageSize⟩ :: later, rest)

/-- Takes on data for which there is room. Also gives the rest. -/
def extend (shape : PipeShape) (pipe : Pipe) (data : Bytes) : Pipe × Bytes :=
  let (added, rest) := newPages shape.pageSize (shape.pages - pipe.pages.length) data
  ({ pipe with pages := pipe.pages ++ added }, rest)

/-- The start of a write: fills up the last page and extends the pipe. -/
def accept (shape : PipeShape) (pipe : Pipe) (data : Bytes) : Pipe × Bytes :=
  let (filled, rest) := fillLast shape data pipe.pages
  extend shape { pipe with pages := filled } rest

/-- Takes at most `limit` bytes off the pages. -/
def takePages : Nat → List Page → Bytes × List Page
  | _, [] => ([], [])
  | limit, page :: later =>
    if page.unread.length ≤ limit then
      let (data, rest) := takePages (limit - page.unread.length) later
      (page.unread ++ data, rest)
    else
      (page.unread.take limit, ⟨page.start + limit, page.unread.drop limit⟩ :: later)

/-- Reads at most `limit` bytes. -/
def take (pipe : Pipe) (limit : Nat) : Bytes × Pipe :=
  let (data, rest) := takePages limit pipe.pages
  (data, { pipe with pages := rest })

end Pipe

end Pipework.Kernel
