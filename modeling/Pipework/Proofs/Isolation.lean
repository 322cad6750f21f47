import Pipework.Proofs.Conduit

set_option autoImplicit false

/-!
Channels are isolated from each other. Whatever is done with the ends that a process owns, the actions and what came of
them tell of each channel what was accepted, what was returned and which ends are live (`observe`); and the rest of what
was accepted is in the pipe of that channel, the ends answer as the others are live or not, and the descriptors of the
live ends are all that the process has gained (`channels_isolated`).
-/

namespace Pipework

open Kernel

namespace Conduit

/-- How a live end is listed with its name. -/
def listed? (side : Side) (conduit : Conduit) : Option (String × Nat) := (conduit.end? side).map (conduit.name, ·)

/-- Whether the channel has an end that is owned under a name. -/
def owns (side : Side) (name : String) (conduit : Conduit) : Bool :=
  conduit.name == name && (conduit.end? side).isSome

end Conduit

/-- Does something to the channel that has an end under a name. -/
def onOwner (side : Side) (name : String) (change : Conduit → Conduit) (conduits : List Conduit) : List Conduit :=
  conduits.map fun conduit => if conduit.owns side name then change conduit else conduit

/-- The channels after an action, by what came of it and what was recorded. -/
def observe (conduits : List Conduit) (action : ChannelAction) (result : ChannelResult) (events : List Event) :
    List Conduit :=
  match action, result, events with
  | .openAs name, _, [.opened read write] =>
    onOwner .write name (Conduit.release .write) (onOwner .read name (Conduit.release .read) conduits) ++
      [{ name, read := some read, write := some write }]
  | .openAndDrop, _, [.opened _ _] => conduits ++ [{ name := "" }]
  | .write name data, .written count, _ =>
    onOwner .write name (fun conduit => { conduit with accepted := conduit.accepted ++ data.take count }) conduits
  | .read name _, .data bytes, _ =>
    onOwner .read name (fun conduit => { conduit with returned := conduit.returned ++ bytes }) conduits
  | .close side name, _, _ | .drop side name, _, _ => onOwner side name (Conduit.release side) conduits
  | _, _, _ => conduits

section

variable {conduits before after : List Conduit} {conduit : Conduit} {side other : Side} {name : String} {number : Nat}

theorem onOwner_of_none (change : Conduit → Conduit) (none : ∀ conduit ∈ conduits, conduit.owns side name = false) :
    onOwner side name change conduits = conduits := by
  rw [onOwner, List.map_congr_left (g := id), List.map_id]
  intro conduit inside
  simp [none conduit inside]

theorem onOwner_of_split {change : Conduit → Conduit} (owns : conduit.owns side name = true)
    (others : ∀ other ∈ before ++ after, other.owns side name = false) :
    onOwner side name change (before ++ conduit :: after) = before ++ change conduit :: after := by
  have first := onOwner_of_none change fun other inside => others other (List.mem_append_left _ inside)
  have last := onOwner_of_none change fun other inside => others other (List.mem_append_right _ inside)
  simp only [onOwner] at first last
  simp [onOwner, owns, first, last]

/-- Under a name that is not listed nothing is owned. -/
theorem not_owns_of_unlisted (unlisted : ∀ entry ∈ conduits.filterMap (Conduit.listed? side), entry.1 ≠ name) :
    ∀ conduit ∈ conduits, conduit.owns side name = false := by
  intro conduit inside
  cases live : conduit.end? side with
  | none => simp [Conduit.owns, live]
  | some number =>
    have apart := unlisted (conduit.name, number)
      (List.mem_filterMap.mpr ⟨conduit, inside, by simp [Conduit.listed?, live]⟩)
    simp [Conduit.owns, apart]

/-- A name that is listed is that of one channel. -/
theorem split_of_lookup (distinct : ((conduits.filterMap (Conduit.listed? side)).map Prod.fst).Nodup)
    (found : (conduits.filterMap (Conduit.listed? side)).lookup name = some number) :
    ∃ before conduit after, conduits = before ++ conduit :: after ∧ conduit.owns side name = true ∧
      conduit.end? side = some number ∧ ∀ other ∈ before ++ after, other.owns side name = false := by
  induction conduits with
  | nil => simp at found
  | cons conduit later ih =>
    cases live : conduit.end? side with
    | none =>
      have absent : conduit.listed? side = none := by simp [Conduit.listed?, live]
      rw [List.filterMap_cons_none absent] at distinct found
      obtain ⟨before, owner, after, rfl, owns, here, others⟩ := ih distinct found
      refine ⟨conduit :: before, owner, after, rfl, owns, here, ?_⟩
      simpa [Conduit.owns, live] using others
    | some place =>
      have listed : conduit.listed? side = some (conduit.name, place) := by simp [Conduit.listed?, live]
      rw [List.filterMap_cons_some listed] at distinct found
      obtain ⟨fresh, distinct⟩ := List.nodup_cons.mp distinct
      by_cases same : conduit.name = name
      · have first : place = number := by simpa [List.lookup_cons, same] using found
        refine ⟨[], conduit, later, rfl, by simp [Conduit.owns, same, live], by rw [live, first],
          not_owns_of_unlisted fun entry inside equal => ?_⟩
        exact fresh (List.mem_map.mpr ⟨entry, inside, equal.trans same.symm⟩)
      · have apart : (name == conduit.name) = false := by simpa using Ne.symm same
        simp only [List.lookup_cons, apart] at found
        obtain ⟨before, owner, after, rfl, owns, here, others⟩ := ih distinct found
        refine ⟨conduit :: before, owner, after, rfl, owns, here, ?_⟩
        simpa [Conduit.owns, same] using others

/-- What leaves the ends of a channel leaves the list. -/
theorem listed_onOwner {change : Conduit → Conduit}
    (same : ∀ conduit, (change conduit).listed? other = conduit.listed? other) (side : Side) (name : String)
    (conduits : List Conduit) :
    (onOwner side name change conduits).filterMap (Conduit.listed? other) =
      conduits.filterMap (Conduit.listed? other) := by
  rw [onOwner, List.filterMap_map]
  congr 1
  funext conduit
  simp only [Function.comp_apply]
  split
  · exact same conduit
  · rfl

/-- Releasing what is owned under a name takes that name from the list. -/
theorem listed_release (side : Side) (name : String) (conduits : List Conduit) :
    (onOwner side name (Conduit.release side) conduits).filterMap (Conduit.listed? side) =
      (conduits.filterMap (Conduit.listed? side)).filter fun entry => entry.1 != name := by
  rw [onOwner, List.filterMap_map, List.filter_filterMap]
  congr 1
  funext conduit
  cases live : conduit.end? side <;> by_cases named : conduit.name = name <;>
    simp [Conduit.owns, Conduit.listed?, live, named, Option.filter]

theorem listed?_release_of_ne (apart : other ≠ side) (conduit : Conduit) :
    (conduit.release side).listed? other = conduit.listed? other := by
  simp [Conduit.listed?, Conduit.end?_release_of_ne apart]

end

namespace Channels

/-- Owned channels, and further ones of which the ends have no owner yet. -/
structure Tracks (start : Channels) (process : Process Unit) (channels : Channels) (conduits unowned : List Conduit) :
    Prop where
  conducting : Conducting start.system process (conduits ++ unowned) channels.system
  ends : ∀ side, channels.ends side = conduits.filterMap (Conduit.listed? side)
  distinct : ∀ side, ((channels.ends side).map Prod.fst).Nodup

@[simp] theorem ends_of_system (channels : Channels) (system : System Unit) (side : Side) :
    ({ channels with system } : Channels).ends side = channels.ends side := by cases side <;> rfl

theorem ends_forget (channels : Channels) (side other : Side) (name : String) :
    (channels.forget side name).ends other =
      if other = side then (channels.ends side).filter fun entry => entry.1 != name else channels.ends other := by
  cases side <;> cases other <;> rfl

theorem system_forget (channels : Channels) (side : Side) (name : String) :
    (channels.forget side name).system = channels.system := by
  cases side <;> rfl

/-- Dropping an end takes its name from the list, whatever comes of it. -/
theorem ends_drop (channels : Channels) (side other : Side) (name : String) :
    (channels.drop side name).ends other =
      if other = side then (channels.ends side).filter fun entry => entry.1 != name else channels.ends other := by
  unfold drop
  split
  · rename_i none
    split
    · rename_i same
      have unlisted : ∀ entry ∈ channels.ends side, (entry.1 != name) = true := by
        intro entry inside
        simpa [bne_comm] using List.lookup_eq_none_iff.mp none entry inside
      rw [same, List.filter_eq_self.mpr unlisted]
    · rfl
  · simp only [ends_forget, ask, ends_of_system]

variable {start channels : Channels} {process : Process Unit} {conduits unowned : List Conduit} {side : Side}
  {name : String} {number : Nat}

namespace Tracks

theorem conducts (tracks : Tracks start process channels conduits []) :
    Conducting start.system process conduits channels.system := by
  simpa using tracks.conducting

/-- An end that is found is a live one of the only channel that has one under the name. -/
theorem split (tracks : Tracks start process channels conduits unowned)
    (found : channels.find? side name = some number) :
    ∃ before conduit after, conduits = before ++ conduit :: after ∧ conduit.owns side name = true ∧
      conduit.end? side = some number ∧ ∀ other ∈ before ++ after, other.owns side name = false := by
  refine split_of_lookup (tracks.ends side ▸ tracks.distinct side) ?_
  rwa [← tracks.ends side]

theorem unlisted (tracks : Tracks start process channels conduits unowned) (none : channels.find? side name = none) :
    ∀ conduit ∈ conduits, conduit.owns side name = false := by
  refine not_owns_of_unlisted fun entry inside same => ?_
  rw [← tracks.ends side] at inside
  have apart := List.lookup_eq_none_iff.mp none entry inside
  simp [same] at apart

/-- An end that is owned is found. -/
theorem found {conduit : Conduit} (tracks : Tracks start process channels conduits unowned)
    (inside : conduit ∈ conduits) (owns : conduit.owns side name = true) :
    ∃ number before after, channels.find? side name = some number ∧ conduits = before ++ conduit :: after ∧
      conduit.end? side = some number := by
  cases found : channels.find? side name with
  | none =>
    rw [tracks.unlisted found conduit inside] at owns
    cases owns
  | some number =>
    obtain ⟨before, owner, after, rfl, -, live, others⟩ := tracks.split found
    have same : conduit = owner := by
      rcases List.mem_append.mp inside with first | rest
      · exact absurd owns (by simp [others conduit (List.mem_append_left _ first)])
      · rcases List.mem_cons.mp rest with same | last
        · exact same
        · exact absurd owns (by simp [others conduit (List.mem_append_right _ last)])
    exact ⟨number, before, after, rfl, by rw [same], same ▸ live⟩

/-- An end that is dropped is released. -/
theorem drop (tracks : Tracks start process channels conduits unowned) (side : Side) (name : String) :
    Tracks start process (channels.drop side name) (onOwner side name (Conduit.release side) conduits) unowned := by
  cases found : channels.find? side name with
  | none =>
    rw [onOwner_of_none _ (tracks.unlisted found), Channels.drop, found]
    exact tracks
  | some number =>
    obtain ⟨before, conduit, after, rfl, owns, live, others⟩ := tracks.split found
    have conducting := tracks.conducting
    rw [List.append_assoc, List.cons_append] at conducting
    obtain ⟨next, answer, onward⟩ := conducting.close live
    have released : channels.drop side name = ({ channels with system := next } : Channels).forget side name := by
      simp [Channels.drop, found, ask, answer]
    refine ⟨?_, fun other => ?_, fun other => ?_⟩
    · rw [released, system_forget, onOwner_of_split owns others]
      simpa using onward
    · rw [ends_drop]
      split
      · rename_i same
        rw [same, listed_release, ← tracks.ends side]
      · rename_i apart
        rw [listed_onOwner (listed?_release_of_ne apart), ← tracks.ends other]
    · rw [ends_drop]
      split
      · exact (tracks.distinct side).sublist (List.filter_sublist.map _)
      · exact tracks.distinct other

/-- A channel gets owners for its ends, under a name that is not in use. -/
theorem remember {read write : Nat}
    (tracks : Tracks start process channels conduits [{ name, read := some read, write := some write }])
    (free : ∀ side, ∀ entry ∈ channels.ends side, entry.1 ≠ name) :
    Tracks start process ((channels.remember .read name read).remember .write name write)
      (conduits ++ [{ name, read := some read, write := some write }]) [] where
  conducting := by simpa [Channels.remember] using tracks.conducting
  ends side := by
    have before := tracks.ends side
    cases side <;> simpa [Channels.remember, Channels.ends, Conduit.listed?, Conduit.end?] using before
  distinct side := by
    have before := tracks.distinct side
    have fresh : name ∉ (channels.ends side).map Prod.fst := by
      intro inside
      obtain ⟨entry, listed, same⟩ := List.mem_map.mp inside
      exact free side entry listed same
    have both : ∀ number, (((channels.ends side) ++ [(name, number)]).map Prod.fst).Nodup := by
      intro number
      rw [List.map_append]
      refine List.nodup_append.mpr ⟨before, by simp, ?_⟩
      rintro other inside _ only rfl
      exact fresh (by simpa [List.mem_singleton.mp only] using inside)
    cases side
    · exact both read
    · exact both write

theorem drop_remember (channels : Channels) (name : String) (number : Nat) :
    (channels.remember .read name number).drop .write name =
      (channels.drop .write name).remember .read name number := by
  unfold Channels.drop
  have same : (channels.remember .read name number).find? .write name = channels.find? .write name := rfl
  rw [same]
  split <;> rfl

theorem openAs (tracks : Tracks start process channels conduits []) (name : String) :
    Tracks start process (channels.openAs name).2.2
      (observe conduits (.openAs name) (channels.openAs name).1 (channels.openAs name).2.1) [] := by
  obtain ⟨errno, refused⟩ | ⟨read, write, next, given, opened⟩ := tracks.conducts.opened
  · have same : channels.openAs name = (.failed errno, [], channels) := by
      simp [Channels.openAs, ask, refused, resultOf]
    rw [same]
    exact tracks
  · obtain ⟨last, answers⟩ : ∃ last,
        ((next.request owner (.answerAtOnce read)).2.request owner (.answerAtOnce write)).2 = last := ⟨_, rfl⟩
    have conducts := opened.answers tracks.conducts name
    rw [answers] at conducts
    have opens : channels.openAs name = (.done, [.opened read write],
        (((({ channels with system := last } : Channels).drop .read name).drop .write name).remember .read name
          read).remember .write name write) := by
      rw [← drop_remember, ← answers]
      simp [Channels.openAs, ask, given]
    have added : Tracks start process { channels with system := last } conduits
        [{ name, read := some read, write := some write }] :=
      ⟨conducts, fun side => by simpa using tracks.ends side, fun side => by simpa using tracks.distinct side⟩
    rw [opens]
    refine ((added.drop .read name).drop .write name).remember fun side entry inside => ?_
    rw [ends_drop, ends_drop, ends_drop] at inside
    cases side <;> simp at inside <;> exact inside.2

theorem openAndDrop (tracks : Tracks start process channels conduits []) :
    Tracks start process channels.openAndDrop.2.2
      (observe conduits .openAndDrop channels.openAndDrop.1 channels.openAndDrop.2.1) [] := by
  obtain ⟨errno, refused⟩ | ⟨read, write, next, given, opened⟩ := tracks.conducts.opened
  · have same : channels.openAndDrop = (.failed errno, [], channels) := by
      simp [Channels.openAndDrop, ask, refused, resultOf]
    rw [same]
    exact tracks
  · have opens : channels.openAndDrop = (.done, [.opened read write],
        { channels with
          system := ((next.request owner (.close read)).2.request owner (.close write)).2 }) := by
      simp [Channels.openAndDrop, ask, given]
    rw [opens]
    refine ⟨by simpa [observe] using opened.closes tracks.conducts "", fun side => ?_, fun side => ?_⟩
    · have before := tracks.ends side
      cases side <;> simpa [observe, List.filterMap_cons, Conduit.listed?, Conduit.end?] using before
    · simpa using tracks.distinct side

/-- Bytes that go in or come out leave the ends as they are. -/
theorem transfer {next : System Unit} {change : Conduit → Conduit}
    (tracks : Tracks start process channels conduits []) (side : Side) (name : String)
    (same : ∀ side conduit, (change conduit).listed? side = conduit.listed? side)
    (conducting : Conducting start.system process (onOwner side name change conduits) next) :
    Tracks start process { channels with system := next } (onOwner side name change conduits) [] where
  conducting := by simpa using conducting
  ends other := by
    rw [ends_of_system, tracks.ends other, listed_onOwner (same other)]
  distinct other := by
    rw [ends_of_system]
    exact tracks.distinct other

theorem act_read (found : channels.find? .read name = some number) (limit : Nat) :
    channels.act (.read name limit) =
      let outcome := channels.system.request owner (.read number limit)
      (resultOf .done outcome.1, [], { channels with system := outcome.2 }) := by
  simp [act, found, ask]

theorem act_write (found : channels.find? .write name = some number) (data : Bytes) :
    channels.act (.write name data) =
      let outcome := channels.system.request owner (.write number data)
      (resultOf .done outcome.1, [], { channels with system := outcome.2 }) := by
  simp [act, found, ask]

theorem read (tracks : Tracks start process channels conduits []) (suits : Suits process start.system) (name : String)
    (limit : Nat) :
    Tracks start process (channels.act (.read name limit)).2.2
      (observe conduits (.read name limit) (channels.act (.read name limit)).1
        (channels.act (.read name limit)).2.1) [] := by
  cases found : channels.find? .read name with
  | none =>
    have same : channels.act (.read name limit) = (.noSuchEnd, [], channels) := by simp [act, found]
    rw [same]
    exact tracks
  | some number =>
    obtain ⟨before, conduit, after, rfl, owns, live, others⟩ := tracks.split found
    have reads := tracks.conducts.reads suits live limit
    rw [act_read found]
    generalize channels.system.request owner (.read number limit) = outcome at reads
    cases reads with
    | nothing zero => simpa [resultOf, observe, onOwner_of_split owns others] using tracks
    | ended positive empty closed => simpa [resultOf, observe, onOwner_of_split owns others] using tracks
    | again positive empty live => simpa [resultOf, observe] using tracks
    | data bytes next some fits left onward =>
      refine tracks.transfer .read name (fun side conduit => by cases side <;> rfl) ?_
      rwa [onOwner_of_split owns others]

theorem write (tracks : Tracks start process channels conduits []) (suits : Suits process start.system) (name : String)
    (data : Bytes) :
    Tracks start process (channels.act (.write name data)).2.2
      (observe conduits (.write name data) (channels.act (.write name data)).1
        (channels.act (.write name data)).2.1) [] := by
  cases found : channels.find? .write name with
  | none =>
    have same : channels.act (.write name data) = (.noSuchEnd, [], channels) := by simp [act, found]
    rw [same]
    exact tracks
  | some number =>
    obtain ⟨before, conduit, after, rfl, owns, live, others⟩ := tracks.split found
    have writes := tracks.conducts.writes suits live data
    rw [act_write found]
    generalize channels.system.request owner (.write number data) = outcome at writes
    cases writes with
    | nothing empty => simpa [resultOf, observe, onOwner_of_split owns others] using tracks
    | broken some closed => simpa [resultOf, observe] using tracks
    | full some live left => simpa [resultOf, observe] using tracks
    | taken count next some live positive within onward =>
      refine tracks.transfer .write name (fun side conduit => by cases side <;> rfl) ?_
      rwa [onOwner_of_split owns others]

/-- Every action but the breaking of an end leads on. -/
theorem act (tracks : Tracks start process channels conduits []) (suits : Suits process start.system)
    {action : ChannelAction} (whole : ∀ side name, action ≠ .breakEnd side name) :
    Tracks start process (channels.act action).2.2
      (observe conduits action (channels.act action).1 (channels.act action).2.1) [] := by
  cases action with
  | openAs name => exact tracks.openAs name
  | openAndDrop => exact tracks.openAndDrop
  | write name data => exact tracks.write suits name data
  | read name limit => exact tracks.read suits name limit
  | flags name =>
    simp only [Channels.act]
    split <;> exact tracks
  | close side name =>
    have released : (channels.close side name).2.2 = channels.drop side name := by
      unfold Channels.close Channels.drop
      split <;> rfl
    rw [Channels.act, released]
    exact tracks.drop side name
  | drop side name => exact tracks.drop side name
  | breakEnd side name => exact absurd rfl (whole side name)

end Tracks

/-- The channels after actions, by what came of them. -/
def conduitsAfter (conduits : List Conduit) (actions : List ChannelAction) (answers : List Answer) : List Conduit :=
  (actions.zip answers).foldl (fun conduits (action, answer) => observe conduits action answer.result answer.events)
    conduits

theorem Tracks.actAll (tracks : Tracks start process channels conduits []) (suits : Suits process start.system)
    {actions : List ChannelAction} (whole : ∀ side name, .breakEnd side name ∉ actions) :
    Tracks start process (channels.actAll actions).2
      (conduitsAfter conduits actions (channels.actAll actions).1) [] := by
  induction actions generalizing channels conduits with
  | nil => exact tracks
  | cons action later ih =>
    have unbroken : ∀ side name, action ≠ .breakEnd side name := fun side name same =>
      whole side name (by simp [same])
    exact ih (tracks.act suits unbroken) fun side name inside => whole side name (List.mem_cons_of_mem _ inside)

/-- Dropping every end that is listed on a side leaves none there. -/
theorem Tracks.dropEach (side : Side) {entries : List (String × Nat)}
    (tracks : Tracks start process channels conduits []) (listed : channels.ends side = entries) :
    let last := entries.foldl (fun channels entry => channels.drop side entry.1) channels
    (∃ conduits, Tracks start process last conduits []) ∧ last.ends side = [] ∧
      ∀ other, other ≠ side → last.ends other = channels.ends other := by
  induction entries generalizing channels conduits with
  | nil => exact ⟨⟨conduits, tracks⟩, listed, fun _ _ => rfl⟩
  | cons entry later ih =>
    have distinct := tracks.distinct side
    rw [listed, List.map_cons, List.nodup_cons] at distinct
    have left : (channels.drop side entry.1).ends side = later := by
      have others : ∀ other ∈ later, (other.1 != entry.1) = true := by
        intro other inside
        have apart : other.1 ≠ entry.1 := fun same => distinct.1 (List.mem_map.mpr ⟨other, inside, same⟩)
        simpa using apart
      rw [ends_drop, if_pos rfl, listed, List.filter_cons_of_neg (by simp), List.filter_eq_self.mpr others]
    obtain ⟨onward, none, same⟩ := ih (tracks.drop side entry.1) left
    refine ⟨onward, none, fun other apart => (same other apart).trans ?_⟩
    rw [ends_drop, if_neg apart]

/-- A process that owns no end, on a system that suits it. -/
structure Anew (channels : Channels) (process : Process Unit) : Prop where
  suits : Suits process channels.system
  ends : ∀ side, channels.ends side = []

theorem anew_empty : Anew empty { program := (), ignored := [Signal.pipe] } where
  suits :=
    { present := by simp [empty]
      unwritten := rfl
      ignores := rfl
      shape := rfl
      unheld := by
        intro side pipe _
        rw [Bool.eq_false_iff]
        intro held
        obtain ⟨number, process, present, refers⟩ := System.holds_iff.mp held
        obtain ⟨whole, has, -⟩ := DescriptorTable.refersTo_iff.mp refers
        simp only [empty, Std.ExtTreeMap.getElem?_insert] at present
        split at present
        · cases present
          exact DescriptorTable.not_has_empty whole has
        · simp at present }
  ends side := by cases side <;> rfl

theorem Anew.tracks (anew : Anew start process) : Tracks start process start [] [] where
  conducting := .begin anew.suits
  ends side := anew.ends side
  distinct side := by simp [anew.ends side]

theorem Anew.descriptors (anew : Anew start process) : start.descriptors = process.descriptors := by
  simp [Channels.descriptors, anew.suits.present]

/-- How many ends of channels are live. -/
def liveEnds (conduits : List Conduit) : Nat :=
  conduits.countP (fun conduit => conduit.read.isSome) + conduits.countP fun conduit => conduit.write.isSome

theorem length_heldEnds (first : Nat) (conduits : List Conduit) :
    (heldEnds first conduits).length = liveEnds conduits := by
  induction conduits generalizing first with
  | nil => rfl
  | cons conduit later ih =>
    cases read : conduit.read <;> cases write : conduit.write <;>
      simp [heldEnds, ih, Conduit.held, liveEnds, read, write] <;> omega

/-- Where no end is listed, none is live. -/
theorem Tracks.liveEnds_eq_zero (tracks : Tracks start process channels conduits [])
    (unlisted : ∀ side, channels.ends side = []) : liveEnds conduits = 0 := by
  have dead : ∀ side, ∀ conduit ∈ conduits, conduit.end? side = none := by
    intro side conduit inside
    have listed := tracks.ends side
    rw [unlisted side] at listed
    simpa [Conduit.listed?] using List.filterMap_eq_nil_iff.mp listed.symm conduit inside
  have reads : ∀ conduit ∈ conduits, conduit.read = none := dead .read
  have writes : ∀ conduit ∈ conduits, conduit.write = none := dead .write
  rw [liveEnds, List.countP_eq_zero.mpr (by simpa using reads), List.countP_eq_zero.mpr (by simpa using writes)]

/-- What is to be seen of channels from which nothing was broken off. -/
structure Isolated (start : Channels) (conduits : List Conduit) (channels : Channels) : Prop where
  /-- Each channel has a pipe of its own, in which the bytes are that were accepted and not returned. -/
  stream : ∀ (index : Nat) (conduit : Conduit), conduits[index]? = some conduit →
    ∃ pipe, channels.system.pipes[start.system.nextPipe + index]? = some pipe ∧
      conduit.returned ++ pipe.content = conduit.accepted ∧ pipe.content.length ≤ 65536
  /-- A read from a channel that is not empty gets bytes; from an empty one it gets the end of the stream, or has to
  come again as long as the write end is live. -/
  reading : ∀ conduit ∈ conduits, ∀ name limit, conduit.owns .read name = true → 0 < limit →
    let result := (channels.act (.read name limit)).1
    (result = .data [] ↔ conduit.returned = conduit.accepted ∧ conduit.write = none) ∧
      (result = .failed .again ↔ conduit.returned = conduit.accepted ∧ conduit.write.isSome) ∧
      (conduit.returned ≠ conduit.accepted → ∃ bytes, bytes ≠ [] ∧ bytes.length ≤ limit ∧ result = .data bytes)
  /-- A write puts bytes into a channel that can be read, unless there is no room. -/
  writing : ∀ conduit ∈ conduits, ∀ name data, conduit.owns .write name = true → data ≠ [] →
    let result := (channels.act (.write name data)).1
    (result = .failed .brokenPipe ↔ conduit.read = none) ∧
      (conduit.read.isSome → (∃ count, 0 < count ∧ count ≤ data.length ∧ result = .written count) ∨
        result = .failed .again ∧ conduit.returned ≠ conduit.accepted)
  openCount : channels.openCount = start.openCount + liveEnds conduits
  released : liveEnds conduits = 0 → channels.descriptors = start.descriptors
  dropped : channels.dropAll.descriptors = start.descriptors

theorem Tracks.adds (tracks : Tracks start process channels conduits []) (anew : Anew start process) :
    start.descriptors.Adds (heldEnds start.system.nextPipe conduits) channels.descriptors := by
  obtain ⟨table, present, adds⟩ := tracks.conducts.present
  have descriptors : channels.descriptors = table := by simp [Channels.descriptors, present]
  rwa [descriptors, anew.descriptors]

/-- Where no end is live, the process has just the descriptors that it had. -/
theorem Tracks.restored (tracks : Tracks start process channels conduits []) (anew : Anew start process)
    (none : liveEnds conduits = 0) : channels.descriptors = start.descriptors := by
  have adds := tracks.adds anew
  rw [List.eq_nil_of_length_eq_zero ((length_heldEnds _ conduits).trans none)] at adds
  exact adds.eq_base

theorem Tracks.dropAll (tracks : Tracks start process channels conduits []) (anew : Anew start process) :
    channels.dropAll.descriptors = start.descriptors := by
  obtain ⟨⟨conduits, first⟩, noReads, same⟩ := tracks.dropEach .read rfl
  obtain ⟨⟨conduits, last⟩, noWrites, kept⟩ := first.dropEach .write rfl
  refine last.restored anew (last.liveEnds_eq_zero fun side => ?_)
  cases side
  · exact (kept .read (by simp)).trans noReads
  · exact noWrites

/-- What was kept track of is what is to be seen. -/
theorem Tracks.isolated (tracks : Tracks start process channels conduits []) (anew : Anew start process) :
    Isolated start conduits channels := by
  refine ⟨?_, ?_, ?_, ?_, tracks.restored anew, tracks.dropAll anew⟩
  · intro index conduit found
    obtain ⟨pipe, own, fits⟩ := tracks.conducts.pipes index conduit found
    exact ⟨pipe, own, fits.content, fits.within.length_content_le⟩
  · intro conduit inside name limit owns positive
    obtain ⟨number, before, after, found, rfl, live⟩ := tracks.found inside owns
    have reads := tracks.conducts.reads anew.suits live limit
    rw [act_read found]
    generalize channels.system.request owner (.read number limit) = outcome at reads
    cases reads with
    | nothing zero => omega
    | ended positive empty closed => simp [resultOf, empty, closed]
    | again positive empty live => cases closed : conduit.write <;> simp_all [resultOf]
    | data bytes next some fits left onward => simp [resultOf, some, left, fits]
  · intro conduit inside name data owns some
    obtain ⟨number, before, after, found, rfl, live⟩ := tracks.found inside owns
    have writes := tracks.conducts.writes anew.suits live data
    rw [act_write found]
    generalize channels.system.request owner (.write number data) = outcome at writes
    cases writes with
    | nothing empty => exact absurd empty some
    | broken some closed => simp [resultOf, closed]
    | full some live left => cases closed : conduit.read <;> simp_all [resultOf]
    | taken count next some live positive within onward => cases closed : conduit.read <;> simp_all [resultOf]
  · rw [openCount, openCount, (tracks.adds anew).size_eq, length_heldEnds]

/-- Whatever is done with the ends of channels and however they are released, the channels are isolated streams, and
the process holds the descriptors of the live ends besides those that it had. -/
theorem channels_isolated {start : Channels} {process : Process Unit} (anew : Anew start process)
    (actions : List ChannelAction) (whole : ∀ side name, .breakEnd side name ∉ actions) :
    Isolated start (conduitsAfter [] actions (start.actAll actions).1) (start.actAll actions).2 :=
  (anew.tracks.actAll anew.suits whole).isolated anew

/-- A process without descriptors opens a channel, writes into it, reads from it and closes one end; a second channel is
dropped in between. -/
theorem channels_isolated_of_empty :
    let actions : List ChannelAction :=
      [.openAs "a", .write "a" [1, 2, 3], .openAndDrop, .read "a" 2, .close .write "a"]
    let answers := (empty.actAll actions).1
    answers.map Answer.result = [.done, .written 3, .done, .data [1, 2], .closed] ∧
      answers.map Answer.openCount = [2, 2, 2, 2, 1] ∧
      Isolated empty (conduitsAfter [] actions answers) (empty.actAll actions).2 := by
  exact ⟨by decide +kernel, by decide +kernel, channels_isolated anew_empty _ (by simp)⟩

end Channels

end Pipework
