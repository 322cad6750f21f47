import Std.Data.ExtTreeMap
import Pipework.Errno

set_option autoImplicit false

/-!
Descriptor tables. A table gives numbers to objects of the kernel; a new descriptor always takes the
lowest number that is free. The operations here change one table and nothing else.
-/

namespace Pipework.Kernel

/-- What a descriptor refers to. -/
inductive Object where
  | readEnd (pipe : Nat)
  | writeEnd (pipe : Nat)
  /-- Both ends at once. -/
  | bothEnds (pipe : Nat)
  /-- An open file, with the place in it that all its descriptors share. -/
  | file (opening : Nat)
  deriving DecidableEq, Repr

/-- Whether one object is held where another one is: both ends of a pipe hold each of them. -/
def Object.includes (whole part : Object) : Bool :=
  match whole, part with
  | bothEnds pipe, readEnd other | bothEnds pipe, writeEnd other => pipe = other
  | _, _ => whole = part

/-- An entry of a table. -/
structure Descriptor where
  object : Object
  /-- Whether the loading of an image drops the entry. -/
  closeOnExec : Bool
  deriving DecidableEq, Repr

/-- The descriptors of one process, by number. -/
abbrev DescriptorTable := Std.ExtTreeMap Nat Descriptor

namespace DescriptorTable

/-- The first free number among `count` numbers from `least` on. -/
def lowestFree (table : DescriptorTable) (least : Nat) : Nat → Option Nat
  | 0 => none
  | count + 1 => if least ∈ table then lowestFree table (least + 1) count else some least

/-- Gives a descriptor the lowest free number that is at least `least` and below `limit`. -/
def allocate (table : DescriptorTable) (limit least : Nat) (descriptor : Descriptor) :
    Except Errno (Nat × DescriptorTable) :=
  match lowestFree table least (limit - least) with
  | none => .error .tooManyOpen
  | some number => .ok (number, table.insert number descriptor)

/-- Releases a number. -/
def close (table : DescriptorTable) (number : Nat) : Except Errno DescriptorTable :=
  if number ∈ table then .ok (table.erase number) else .error .badDescriptor

/-- Makes `target` refer to the object of `source`, to be kept when an image is loaded; what `target`
referred to before is released. -/
def duplicate (table : DescriptorTable) (limit source target : Nat) :
    Except Errno DescriptorTable :=
  match table[source]? with
  | none => .error .badDescriptor
  | some descriptor =>
    if source = target then .ok table
    else if limit ≤ target then .error .badDescriptor
    else .ok (table.insert target ⟨descriptor.object, false⟩)

/-- Gives the object of `source` a second number, the lowest free one from `least` on, to be dropped
when an image is loaded. -/
def duplicateFrom (table : DescriptorTable) (limit source least : Nat) :
    Except Errno (Nat × DescriptorTable) :=
  match table[source]? with
  | none => .error .badDescriptor
  | some descriptor =>
    if limit ≤ least then .error .invalidArgument
    else allocate table limit least ⟨descriptor.object, true⟩

/-- Lets a number survive the loading of an image. -/
def keepOnExec (table : DescriptorTable) (number : Nat) : Except Errno DescriptorTable :=
  match table[number]? with
  | none => .error .badDescriptor
  | some descriptor => .ok (table.insert number { descriptor with closeOnExec := false })

/-- What is left of a table once an image is loaded. -/
def afterLoad (table : DescriptorTable) : DescriptorTable :=
  table.filter fun _ descriptor => ! descriptor.closeOnExec

/-- Whether some number refers to the object. -/
def refersTo (table : DescriptorTable) (object : Object) : Bool :=
  table.toList.any fun entry => entry.2.object.includes object

end DescriptorTable

end Pipework.Kernel
