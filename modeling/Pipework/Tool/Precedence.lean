import Pipework.Tool.Sort.Order
import Pipework.Tool.Option

set_option autoImplicit false

/-!
An order of items in which each comes after all that are known to precede it. Where items precede each other in a
circle, a relation of the circle is dropped.
-/

namespace Pipework.Tool

/-- An item to be ordered. -/
structure Item where
  name : Text
  /-- How many relations say that something precedes it. -/
  preceding : Nat := 0
  /-- What it precedes, the latest relation first. -/
  following : List Text := []

namespace Item

/-- Changes an item, or makes it. Items are kept in the order of their names. -/
def update (name : Text) (change : Item → Item) : List Item → List Item
  | [] => [change { name }]
  | item :: later =>
    match compareText name item.name with
    | .lt => change { name } :: item :: later
    | .eq => change item :: later
    | .gt => item :: update name change later

def find? (name : Text) (items : List Item) : Option Item := items.find? (·.name = name)

/-- Notes that one item precedes another; an item that precedes itself is only noted. -/
def relate (items : List Item) (first second : Text) : List Item :=
  let items := update second id (update first id items)
  if first = second then items
  else
    update second (fun item => { item with preceding := item.preceding + 1 })
      (update first (fun item => { item with following := second :: item.following }) items)

/-- Takes an item out. Gives the items that nothing precedes any more, in the order of its relations. -/
def takeOut (items : List Item) (name : Text) : List Item × List Text :=
  let following := ((find? name items).map Item.following).getD []
  let rest := items.filter (·.name != name)
  let (rest, freed) := following.foldl (fun (rest, freed) next =>
    let rest := update next (fun item => { item with preceding := item.preceding - 1 }) rest
    match find? next rest with
    | some item => (rest, if item.preceding = 0 then next :: freed else freed)
    | none => (rest, freed)) ((rest, []) : List Item × List Text)
  (rest, freed.reverse)

/-- Takes out items that nothing precedes, as long as there are any. Gives the names in order and the rest. -/
def drain : Nat → List Text → List Item → List Text × List Item
  | 0, _, items => ([], items)
  | _ + 1, [], items => ([], items)
  | fuel + 1, name :: queue, items =>
    let (items, freed) := takeOut items name
    let (names, rest) := drain fuel (queue ++ freed) items
    (name :: names, rest)

/-- Looks for a circle among items in the order of their names; `chain` holds items each of which precedes the
one after it. Gives the chain and, once it closes, the place in it where the circle begins. -/
def closeChain : List Item → List Text → List Text × Option Text
  | [], chain => (chain, none)
  | item :: later, chain =>
    if item.preceding = 0 then closeChain later chain
    else
      match chain with
      | [] => closeChain later [item.name]
      | head :: _ =>
        if item.following.contains head then
          if chain.dropLast.contains item.name then (chain, some item.name)
          else closeChain later (item.name :: chain)
        else closeChain later chain

/-- Looks for a circle again and again until it is closed. Gives the names on it and what it ends with. -/
def findCircle (items : List Item) : Nat → List Text → List Text × Option Text
  | 0, chain => (chain, none)
  | fuel + 1, chain =>
    match closeChain items chain with
    | (chain, some name) => (chain, some name)
    | (chain, none) => findCircle items fuel chain

/-- Drops the relation that one item precedes another. -/
def unrelate (items : List Item) (first second : Text) : List Item :=
  update second (fun item => { item with preceding := item.preceding - 1 })
    (update first (fun item => { item with following := item.following.erase second }) items)

end Item

/-- Relations from names in pairs. -/
def relateAll : List Text → List Item → List Item
  | first :: second :: later, items => relateAll later (Item.relate items first second)
  | _, items => items

/-- Puts out items in order. -/
def putOrdered (operand : Text) : Nat → List Item → Work Unit
  | 0, _ => return ()
  | fuel + 1, items => do
    let free := (items.filter fun item => item.preceding = 0).map Item.name
    let (names, rest) := Item.drain (items.length + 1) free items
    names.forM Work.putLine
    if !rest.isEmpty then
      Work.report (shownName operand ++ ": input contains a loop:".toList)
      match Item.findCircle rest (rest.length * rest.length + 1) [] with
      | (chain, some name) => do
        let circle := chain.takeWhile (· ≠ name) ++ [name]
        circle.forM Work.complain
        putOrdered operand fuel (Item.unrelate rest name (circle.headD []))
      | (_, none) => return ()

/-- Prints names in an order that pairs of them give. -/
def tsort (arguments : List Text) : Work Unit := do
  let (_, operands) ← readOptions { letters := "w" } arguments
  match operands.drop 1 with
  | extra :: _ => failExtra extra
  | [] => pure ()
  let operand := operands.headD inputOperand
  match ← Work.readOperand operand with
  | .error (.unopened errno) => Work.fail (because (shownName operand) errno)
  | .error (.unread errno) => Work.fail (because (shownName operand ++ ": read error".toList) errno)
  | .ok text => do
    let isBetween (char : Char) : Bool := isBlank char || char = '\n'
    let words := (text.splitBy fun left right => isBetween left = isBetween right).filter fun run =>
      !run.all isBetween
    if words.length % 2 = 1 then
      Work.fail (shownName operand ++ ": input contains an odd number of tokens".toList)
    let items := relateAll words []
    let relations := items.foldl (fun total item => total + item.following.length) 0
    putOrdered operand (relations + 2) items

end Pipework.Tool
