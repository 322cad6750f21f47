import Pipework.Editor.Editing

set_option autoImplicit false

/-!
Searching the history while a text is typed, and the effect of keys on a line that is being edited.
-/

namespace Pipework.Editor

/-- The place of the first occurrence of a text in another. -/
def placeIn? (wanted : List Char) : List Char → Option Nat
  | [] => if wanted.isEmpty then some 0 else none
  | char :: rest =>
    if wanted.isPrefixOf (char :: rest) then some 0 else (placeIn? wanted rest).map (· + 1)

namespace Search

/-- The prompt that shows a search. -/
def prompt (search : Search) : List Char :=
  ((if search.found then "(reverse-i-search)\x60" else "(failed reverse-i-search)\x60").toList ++
    search.wanted) ++ "': ".toList

/-- Looks for the wanted text from the present line on. Gives the line where it is found, and the place
within the line. -/
def find? (search : Search) (history : List (List Char)) : Option (Nat × Nat) :=
  if search.wanted.isEmpty then none
  else
    let indices := List.range history.length
    let indices :=
      if search.backward then (indices.take (search.index + 1)).reverse else indices.drop search.index
    indices.findSome? fun index =>
      ((history[index]?).bind (placeIn? search.wanted)).map fun place => (index, place)

end Search

namespace Editing

/-- Shows the state of a search. -/
def showSearch (editing : Editing) (search : Search) : Editing :=
  { editing with search := some search }.showBehind search.prompt false

/-- Begins a search at the end of the history. -/
def beginSearch (editing : Editing) : Editing :=
  if editing.history.isEmpty then editing
  else
    let search : Search :=
      { index := editing.history.length - 1
        saved := editing.draft
        mark := editing.changes.past.length }
    editing.startGroup.showSearch search

/-- Goes on with a search. -/
def continueSearch (editing : Editing) (search : Search) : Editing :=
  match search.find? editing.history with
  | none => editing.showSearch { search with found := false }
  | some (index, place) =>
    let editing :=
      match editing.history[index]? with
      | some text => editing.update (Draft.make text place)
      | none => editing
    editing.showSearch { search with index, found := true }

/-- Gives a search up: the draft is as before. -/
def abortSearch (editing : Editing) (search : Search) : Editing :=
  let editing := (editing.update search.saved).refresh
  { editing.note ("Changeset::truncate(" ++ toString search.mark ++ ")") with
    changes := editing.changes.truncate search.mark
    search := none }

/-- Carries a command out, or begins a search. -/
def perform (editing : Editing) : Command → Outcome × Editing
  | .reverseSearch => (.unfinished, editing.beginSearch)
  | command => editing.execute command

/-- Carries a command out during a search. One that has no meaning for the search ends it and is carried
out on the line that was found. -/
def performInSearch (editing : Editing) (search : Search) : Command → Outcome × Editing
  | .self _ char =>
    (.unfinished, editing.continueSearch { search with wanted := search.wanted ++ [char] })
  | .kill (.charBackward _) =>
    (.unfinished, editing.showSearch { search with wanted := search.wanted.dropLast })
  | .reverseSearch =>
    let search := { search with backward := true }
    (.unfinished,
      if search.index = 0 then editing.showSearch { search with found := false }
      else editing.continueSearch { search with index := search.index - 1 })
  | .forwardSearch =>
    let search := { search with backward := false }
    (.unfinished,
      if search.index + 1 < editing.history.length then
        editing.continueSearch { search with index := search.index + 1 }
      else editing.showSearch { search with found := false })
  | .abort => (.unfinished, editing.abortSearch search)
  | command =>
    let editing := { editing with search := none }
    let editing :=
      match command with
      | .move _ => editing.refresh
      | _ => editing
    editing.endGroups.execute command

/-- Carries the commands out that keys give. What is left over is not enough for a command, or stands behind
the end of the line. -/
def press : Nat → Editing → List Char → Outcome × Editing × List Char
  | 0, editing, typed => (.unfinished, editing, typed)
  | limit + 1, editing, typed =>
    match readCommand? editing.search.isSome editing.draft.isEmpty typed with
    | none => (.unfinished, editing, typed)
    | some reading =>
      let editing := reading.signs.foldl follow editing
      let command := reading.result
      let (outcome, editing) : Outcome × Editing :=
        match editing.search with
        | some search => editing.performInSearch search command
        | none =>
          (if command.endsKilling then { editing with ring := editing.ring.reset } else editing).perform
            command
      match outcome with
      | .unfinished => press limit editing reading.rest
      | outcome => (outcome, editing, reading.rest)

end Editing

end Pipework.Editor
