import Pipework.Executor.Event
import Pipework.Kernel.System

set_option autoImplicit false

/-!
Channels: one-way byte streams between a read end and a write end. `Channels` is one process that owns ends
under names and works on them without ever waiting. An end is released by closing it, with a record and an
answer, or by dropping its owner, without either.
-/

namespace Pipework

open Kernel

/-- A process that owns ends of channels. -/
structure Channels where
  system : System Unit
  readEnds : List (String × Nat) := []
  writeEnds : List (String × Nat) := []

/-- What is done with channels. -/
inductive ChannelAction where
  /-- Opens a channel under a name, in place of the one that had the name. -/
  | openAs (name : String)
  /-- Opens a channel and drops it. -/
  | openAndDrop
  | write (name : String) (data : Bytes)
  | read (name : String) (limit : Nat)
  /-- Asks whether the ends are dropped when an image is loaded. -/
  | flags (name : String)
  | close (side : Side) (name : String)
  | drop (side : Side) (name : String)
  /-- Closes the descriptor of an end behind the back of its owner. -/
  | breakEnd (side : Side) (name : String)
  deriving DecidableEq, Repr

/-- What comes of it. -/
inductive ChannelResult where
  | done
  | written (count : Nat)
  | data (bytes : Bytes)
  | flags (read write : Bool)
  | closed
  | dropped (existed : Bool)
  | noSuchEnd
  | failed (errno : Errno)
  deriving DecidableEq, Repr

namespace Channels

/-- The number of the process. -/
def owner : Nat := 1

/-- A process that owns nothing. -/
def empty : Channels where
  system :=
    { processes := Std.ExtTreeMap.empty.insert owner { program := (), ignored := [Signal.pipe] }
      nextProcess := owner + 1
      pipes := Std.ExtTreeMap.empty
      nextPipe := 0
      files := Files.empty
      shape := {}
      clock := 0 }

/-- The descriptors of the process. -/
def descriptors (channels : Channels) : DescriptorTable :=
  ((channels.system.processes[owner]?).map Process.descriptors).getD Std.ExtTreeMap.empty

/-- How many descriptors are open. -/
def openCount (channels : Channels) : Nat := channels.descriptors.size

/-- Makes a call. One that would wait fails instead. -/
def ask (channels : Channels) (call : Call) : Reply × Channels :=
  let (reply, system) := channels.system.request owner call
  (reply, { channels with system })

/-- The ends on one side. -/
def ends (channels : Channels) : Side → List (String × Nat)
  | .read => channels.readEnds
  | .write => channels.writeEnds

/-- The descriptor of an end. -/
def find? (channels : Channels) (side : Side) (name : String) : Option Nat :=
  (channels.ends side).lookup name

/-- Forgets the owner of an end. -/
def forget (channels : Channels) (side : Side) (name : String) : Channels :=
  match side with
  | .read =>
    { channels with readEnds := channels.readEnds.filter fun entry => entry.1 != name }
  | .write =>
    { channels with writeEnds := channels.writeEnds.filter fun entry => entry.1 != name }

/-- Makes an owner for an end. -/
def remember (channels : Channels) (side : Side) (name : String) (descriptor : Nat) : Channels :=
  match side with
  | .read => { channels with readEnds := channels.readEnds ++ [(name, descriptor)] }
  | .write => { channels with writeEnds := channels.writeEnds ++ [(name, descriptor)] }

/-- Releases an end with its owner, if there is one. -/
def drop (channels : Channels) (side : Side) (name : String) : Channels :=
  match channels.find? side name with
  | none => channels
  | some descriptor => ((channels.ask (.close descriptor)).2).forget side name

/-- What comes of a call that answers with nothing else. -/
def resultOf (otherwise : ChannelResult) : Reply → ChannelResult
  | .failed errno => .failed errno
  | .number count => .written count
  | .data bytes => .data bytes
  | _ => otherwise

/-- Opens a channel whose ends answer at once, and gives the ends owners under a name. -/
def openAs (channels : Channels) (name : String) : ChannelResult × List Event × Channels :=
  match channels.ask .pipe with
  | (.ends read write, channels) =>
    let channels := (channels.ask (.answerAtOnce read)).2
    let channels := (channels.ask (.answerAtOnce write)).2
    let channels := (channels.drop .read name).remember .read name read
    let channels := (channels.drop .write name).remember .write name write
    (.done, [.opened read write], channels)
  | (reply, channels) => (resultOf .done reply, [], channels)

/-- Opens a channel and drops it. -/
def openAndDrop (channels : Channels) : ChannelResult × List Event × Channels :=
  match channels.ask .pipe with
  | (.ends read write, channels) =>
    (.done, [.opened read write], ((channels.ask (.close read)).2.ask (.close write)).2)
  | (reply, channels) => (resultOf .done reply, [], channels)

/-- Closes an end. -/
def close (channels : Channels) (side : Side) (name : String) :
    ChannelResult × List Event × Channels :=
  match channels.find? side name with
  | none => (.noSuchEnd, [], channels)
  | some descriptor =>
    let (reply, channels) := channels.ask (.close descriptor)
    (resultOf .closed reply, [.closing side descriptor], channels.forget side name)

/-- Whether no image that is loaded gets to see a descriptor: it is dropped before, or it is not even open. -/
def isCloseOnExec (channels : Channels) (descriptor : Nat) : Bool :=
  (channels.descriptors[descriptor]?).all Descriptor.closeOnExec

/-- Carries out an action: what comes of it, what is recorded, and the ends afterwards. -/
def act (channels : Channels) : ChannelAction → ChannelResult × List Event × Channels
  | .openAs name => channels.openAs name
  | .openAndDrop => channels.openAndDrop
  | .write name data =>
    match channels.find? .write name with
    | none => (.noSuchEnd, [], channels)
    | some descriptor =>
      let (reply, channels) := channels.ask (.write descriptor data)
      (resultOf .done reply, [], channels)
  | .read name limit =>
    match channels.find? .read name with
    | none => (.noSuchEnd, [], channels)
    | some descriptor =>
      let (reply, channels) := channels.ask (.read descriptor limit)
      (resultOf .done reply, [], channels)
  | .flags name =>
    match channels.find? .read name, channels.find? .write name with
    | some read, some write =>
      (.flags (channels.isCloseOnExec read) (channels.isCloseOnExec write), [], channels)
    | _, _ => (.noSuchEnd, [], channels)
  | .close side name => channels.close side name
  | .drop side name =>
    (.dropped (channels.find? side name).isSome, [], channels.drop side name)
  | .breakEnd side name =>
    match channels.find? side name with
    | none => (.noSuchEnd, [], channels)
    | some descriptor =>
      let (reply, channels) := channels.ask (.close descriptor)
      (resultOf .closed reply, [], channels)

/-- The answer to an action, and how many descriptors are open afterwards. -/
structure Answer where
  result : ChannelResult
  events : List Event
  openCount : Nat

/-- Carries out actions one after the other. -/
def actAll (channels : Channels) : List ChannelAction → List Answer × Channels
  | [] => ([], channels)
  | action :: later =>
    let (result, events, channels) := channels.act action
    let (answers, rest) := channels.actAll later
    (⟨result, events, channels.openCount⟩ :: answers, rest)

/-- Drops all owners. -/
def dropAll (channels : Channels) : Channels :=
  let channels := channels.readEnds.foldl (fun channels entry => channels.drop .read entry.1) channels
  channels.writeEnds.foldl (fun channels entry => channels.drop .write entry.1) channels

end Channels

end Pipework
