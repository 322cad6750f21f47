import Pipework.Kernel.Descriptor

set_option autoImplicit false

/-!
What the operations on a descriptor table do to its entries. `Adds` describes the table of a process that
holds endpoints beside the descriptors it began with: opening an endpoint extends the list of those that are
held, and closing one takes it off again, so that nothing else of the table ever changes.
-/

namespace Pipework.Kernel.DescriptorTable

/-- The search for a free number stops at the first one. -/
theorem lowestFree_eq_some {table : DescriptorTable} {least count number : Nat}
    (found : lowestFree table least count = some number) :
    least ≤ number ∧ number < least + count ∧ table[number]? = none ∧
      ∀ lower, least ≤ lower → lower < number → table[lower]? ≠ none := by
  induction count generalizing least with
  | zero => simp [lowestFree] at found
  | succ count ih =>
    unfold lowestFree at found
    split at found
    · rename_i taken
      obtain ⟨above, below, free, full⟩ := ih found
      refine ⟨by omega, by omega, free, ?_⟩
      intro lower reached before
      by_cases first : lower = least
      · subst first
        simpa using taken
      · exact full lower (by omega) before
    · rename_i free
      obtain rfl : least = number := by simpa using found
      exact ⟨by omega, by omega, Std.ExtTreeMap.getElem?_eq_none free, by omega⟩

/-- The search for a free number fails only if all are taken. -/
theorem mem_of_lowestFree_eq_none {table : DescriptorTable} {least count number : Nat}
    (full : lowestFree table least count = none) (above : least ≤ number) (below : number < least + count) :
    number ∈ table := by
  induction count generalizing least with
  | zero => omega
  | succ count ih =>
    unfold lowestFree at full
    split at full
    · by_cases first : number = least
      · exact first ▸ by assumption
      · exact ih full (by omega) (by omega)
    · cases full

/-- A new descriptor takes the lowest number that is free, and nothing else changes. -/
theorem allocate_eq_ok {table after : DescriptorTable} {limit least number : Nat} {descriptor : Descriptor}
    (given : allocate table limit least descriptor = .ok (number, after)) :
    least ≤ number ∧ number < limit ∧ table[number]? = none ∧
      (∀ lower, least ≤ lower → lower < number → table[lower]? ≠ none) ∧
      after = table.insert number descriptor := by
  unfold allocate at given
  split at given
  · cases given
  · rename_i found
    obtain ⟨above, below, free, full⟩ := lowestFree_eq_some found
    cases given
    exact ⟨above, by omega, free, full, rfl⟩

/-- The second of two new descriptors does not get the number 0. -/
theorem ne_zero_of_allocate {table between after : DescriptorTable} {limit first second : Nat}
    {one other : Descriptor} (before : allocate table limit 0 one = .ok (first, between))
    (given : allocate between limit 0 other = .ok (second, after)) : second ≠ 0 := by
  rintro rfl
  obtain ⟨-, -, free, lower, rfl⟩ := allocate_eq_ok before
  obtain ⟨-, -, stillFree, -, -⟩ := allocate_eq_ok given
  rw [Std.ExtTreeMap.getElem?_insert] at stillFree
  split at stillFree
  · cases stillFree
  · rename_i apart
    have positive : first ≠ 0 := by simpa using apart
    exact lower 0 (Nat.le_refl 0) (by omega) stillFree

theorem erase_of_not_mem {table : DescriptorTable} {number : Nat} (free : number ∉ table) :
    table.erase number = table := by
  apply Std.ExtTreeMap.ext_getElem?
  intro place
  grind

/-- Closing an open number succeeds. -/
theorem close_eq_ok {table : DescriptorTable} {number : Nat} {descriptor : Descriptor}
    (isOpen : table[number]? = some descriptor) : table.close number = .ok (table.erase number) := by
  unfold close
  rw [if_pos]
  exact Std.ExtTreeMap.mem_iff_isSome_getElem?.mpr (by simp [isOpen])

theorem keepOnExec_eq_ok {table : DescriptorTable} {number : Nat} {descriptor : Descriptor}
    (isOpen : table[number]? = some descriptor) :
    table.keepOnExec number = .ok (table.insert number ⟨descriptor.object, false⟩) := by
  simp [keepOnExec, isOpen]

theorem duplicate_eq_ok {table : DescriptorTable} {limit source target : Nat} {descriptor : Descriptor}
    (isOpen : table[source]? = some descriptor) (distinct : source ≠ target) (within : target < limit) :
    table.duplicate limit source target = .ok (table.insert target ⟨descriptor.object, false⟩) := by
  simp [duplicate, isOpen, distinct, Nat.not_le.mpr within]

theorem eq_of_close {table after : DescriptorTable} {number : Nat} (closed : table.close number = .ok after) :
    after = table.erase number := by
  unfold close at closed
  split at closed
  · cases closed
    rfl
  · cases closed

theorem eq_of_keepOnExec {table after : DescriptorTable} {number : Nat}
    (kept : table.keepOnExec number = .ok after) :
    ∃ descriptor, table[number]? = some descriptor ∧ after = table.insert number ⟨descriptor.object, false⟩ := by
  unfold keepOnExec at kept
  split at kept
  · cases kept
  · rename_i descriptor isOpen
    cases kept
    exact ⟨descriptor, isOpen, rfl⟩

theorem eq_of_duplicate {table after : DescriptorTable} {limit source target : Nat} (distinct : source ≠ target)
    (duplicated : table.duplicate limit source target = .ok after) :
    ∃ descriptor, table[source]? = some descriptor ∧ after = table.insert target ⟨descriptor.object, false⟩ := by
  unfold duplicate at duplicated
  split at duplicated
  · cases duplicated
  · rename_i descriptor isOpen
    rw [if_neg distinct] at duplicated
    split at duplicated
    · cases duplicated
    · cases duplicated
      exact ⟨descriptor, isOpen, rfl⟩

theorem eq_of_duplicateFrom {table after : DescriptorTable} {limit source least number : Nat}
    (duplicated : table.duplicateFrom limit source least = .ok (number, after)) :
    ∃ descriptor, table[source]? = some descriptor ∧ after = table.insert number ⟨descriptor.object, true⟩ := by
  unfold duplicateFrom at duplicated
  split at duplicated
  · cases duplicated
  · rename_i descriptor isOpen
    split at duplicated
    · cases duplicated
    · exact ⟨descriptor, isOpen, (allocate_eq_ok duplicated).2.2.2.2⟩

/-- The loading of an image drops exactly the entries that are marked so. -/
theorem getElem?_afterLoad (table : DescriptorTable) (number : Nat) :
    table.afterLoad[number]? = table[number]?.filter fun descriptor => !descriptor.closeOnExec := by
  simp [afterLoad, Std.ExtTreeMap.getElem?_filter]

theorem getElem?_of_afterLoad {table : DescriptorTable} {number : Nat} {descriptor : Descriptor}
    (kept : table.afterLoad[number]? = some descriptor) : table[number]? = some descriptor := by
  rw [getElem?_afterLoad, Option.filter_eq_some_iff] at kept
  exact kept.1

/-- Some number refers to the object. -/
def Has (table : DescriptorTable) (object : Object) : Prop :=
  ∃ (number : Nat) (descriptor : Descriptor), table[number]? = some descriptor ∧ descriptor.object = object

/-- A number refers to the object. -/
def HasAt (table : DescriptorTable) (number : Nat) (object : Object) : Prop :=
  ∃ descriptor, table[number]? = some descriptor ∧ descriptor.object = object

theorem HasAt.has {table : DescriptorTable} {number : Nat} {object : Object} (isAt : table.HasAt number object) :
    table.Has object := ⟨number, isAt⟩

/-- Every object in the second table is in the first one, too. -/
def Inherits (before after : DescriptorTable) : Prop := ∀ object, after.Has object → before.Has object

theorem Inherits.refl (table : DescriptorTable) : table.Inherits table := fun _ has => has

theorem Inherits.trans {first second third : DescriptorTable} (before : first.Inherits second)
    (after : second.Inherits third) : first.Inherits third := fun object has => before object (after object has)

theorem not_has_empty (object : Object) : ¬ Has Std.ExtTreeMap.empty object := by
  rintro ⟨number, descriptor, present, -⟩
  simp at present

theorem inherits_empty (table : DescriptorTable) : table.Inherits Std.ExtTreeMap.empty :=
  fun object has => absurd has (not_has_empty object)

theorem inherits_erase (table : DescriptorTable) (number : Nat) : table.Inherits (table.erase number) := by
  rintro object ⟨place, descriptor, present, same⟩
  rw [Std.ExtTreeMap.getElem?_erase] at present
  split at present
  · cases present
  · exact ⟨place, descriptor, present, same⟩

/-- A new entry brings one object. -/
theorem has_insert {table : DescriptorTable} {number : Nat} {descriptor : Descriptor} {object : Object}
    (has : Has (table.insert number descriptor) object) : table.Has object ∨ object = descriptor.object := by
  obtain ⟨place, entry, present, same⟩ := has
  rw [Std.ExtTreeMap.getElem?_insert] at present
  split at present
  · cases present
    exact .inr same.symm
  · exact .inl ⟨place, entry, present, same⟩

theorem inherits_insert {table : DescriptorTable} {object : Object} (has : table.Has object) (number : Nat)
    (closeOnExec : Bool) : table.Inherits (table.insert number ⟨object, closeOnExec⟩) := by
  intro other present
  rcases has_insert present with old | rfl
  · exact old
  · exact has

theorem inherits_of_duplicate {table after : DescriptorTable} {limit source target : Nat}
    (duplicated : table.duplicate limit source target = .ok after) : table.Inherits after := by
  by_cases same : source = target
  · unfold duplicate at duplicated
    split at duplicated
    · cases duplicated
    · rw [if_pos same] at duplicated
      cases duplicated
      exact .refl table
  · obtain ⟨descriptor, isOpen, rfl⟩ := eq_of_duplicate same duplicated
    exact inherits_insert ⟨source, descriptor, isOpen, rfl⟩ _ _

theorem inherits_of_duplicateFrom {table : DescriptorTable} {limit source least : Nat}
    {given : Nat × DescriptorTable} (duplicated : table.duplicateFrom limit source least = .ok given) :
    table.Inherits given.2 := by
  obtain ⟨descriptor, isOpen, inserted⟩ := eq_of_duplicateFrom duplicated
  exact inserted ▸ inherits_insert ⟨source, descriptor, isOpen, rfl⟩ _ _

theorem inherits_afterLoad (table : DescriptorTable) : table.Inherits table.afterLoad := by
  rintro object ⟨place, descriptor, present, same⟩
  rw [getElem?_afterLoad] at present
  exact ⟨place, descriptor, (Option.filter_eq_some_iff.mp present).1, same⟩

/-- An object is referred to where some object in the table includes it. -/
theorem refersTo_iff {table : DescriptorTable} {object : Object} :
    table.refersTo object = true ↔ ∃ whole, table.Has whole ∧ whole.includes object = true := by
  simp only [refersTo, List.any_eq_true]
  constructor
  · rintro ⟨⟨number, descriptor⟩, present, included⟩
    exact ⟨descriptor.object, ⟨number, descriptor, Std.ExtTreeMap.mem_toList_iff_getElem?_eq_some.mp present, rfl⟩,
      included⟩
  · rintro ⟨-, ⟨number, descriptor, present, rfl⟩, included⟩
    exact ⟨(number, descriptor), Std.ExtTreeMap.mem_toList_iff_getElem?_eq_some.mpr present, included⟩

theorem Inherits.refersTo {before after : DescriptorTable} (inherits : before.Inherits after) {object : Object}
    (refers : after.refersTo object = true) : before.refersTo object = true := by
  obtain ⟨whole, has, included⟩ := refersTo_iff.mp refers
  exact refersTo_iff.mpr ⟨whole, inherits whole has, included⟩

/-- The table is `base` with the endpoints in `held` besides. Each has a number that was free and is no other's,
and is dropped when an image is loaded. -/
structure Adds (base : DescriptorTable) (held : List (Nat × Object)) (table : DescriptorTable) : Prop where
  fresh : ∀ entry ∈ held, base[entry.1]? = none
  distinct : (held.map Prod.fst).Nodup
  entries : ∀ (number : Nat) (descriptor : Descriptor), table[number]? = some descriptor ↔
    base[number]? = some descriptor ∨ (number, descriptor.object) ∈ held ∧ descriptor.closeOnExec = true

namespace Adds

variable {base table after : DescriptorTable} {held others : List (Nat × Object)} {number : Nat}
  {object : Object}

theorem refl (base : DescriptorTable) : Adds base [] base where
  fresh := by simp
  distinct := by simp
  entries := by simp

/-- With nothing held the table is what it was. -/
theorem eq_base (adds : Adds base [] table) : table = base := by
  apply Std.ExtTreeMap.ext_getElem?
  intro number
  apply Option.ext
  intro descriptor
  simpa using adds.entries number descriptor

/-- An object of the table was there before or is held besides. -/
theorem has (adds : Adds base held table) (present : table.Has object) :
    base.Has object ∨ ∃ number, (number, object) ∈ held := by
  obtain ⟨number, descriptor, isOpen, rfl⟩ := present
  rcases (adds.entries number descriptor).mp isOpen with old | ⟨isHeld, -⟩
  · exact .inl ⟨number, descriptor, old, rfl⟩
  · exact .inr ⟨number, isHeld⟩

theorem getElem?_of_mem (adds : Adds base held table) (isHeld : (number, object) ∈ held) :
    table[number]? = some ⟨object, true⟩ :=
  (adds.entries number ⟨object, true⟩).mpr (.inr ⟨isHeld, rfl⟩)

/-- What is not held is as it was. -/
theorem getElem?_of_not_mem (adds : Adds base held table) (free : ∀ object, (number, object) ∉ held) :
    table[number]? = base[number]? := by
  apply Option.ext
  intro descriptor
  simp [adds.entries, free]

/-- The order of what is held does not matter. -/
theorem perm (adds : Adds base held table) (same : held.Perm others) : Adds base others table where
  fresh entry member := adds.fresh entry (same.mem_iff.mpr member)
  distinct := ((same.map Prod.fst).nodup_iff).mp adds.distinct
  entries number descriptor := by rw [adds.entries, same.mem_iff]

/-- A new endpoint extends what is held. -/
theorem allocate {limit least : Nat} (adds : Adds base held table)
    (given : table.allocate limit least ⟨object, true⟩ = .ok (number, after)) :
    Adds base ((number, object) :: held) after := by
  obtain ⟨-, -, free, -, rfl⟩ := allocate_eq_ok given
  have absent : ∀ held' , (number, held') ∉ held := by
    intro other isHeld
    rw [adds.getElem?_of_mem isHeld] at free
    cases free
  have baseFree : base[number]? = none := by rw [← adds.getElem?_of_not_mem absent, free]
  refine ⟨?_, ?_, ?_⟩
  · intro entry member
    rcases List.mem_cons.mp member with rfl | member
    · exact baseFree
    · exact adds.fresh entry member
  · simp only [List.map_cons, List.nodup_cons, List.mem_map, Prod.exists, exists_and_right, exists_eq_right,
      not_exists]
    exact ⟨absent, adds.distinct⟩
  · intro place descriptor
    rw [Std.ExtTreeMap.getElem?_insert]
    by_cases same : number = place
    · subst same
      obtain ⟨content, closeOnExec⟩ := descriptor
      simp [baseFree, absent, eq_comm]
    · have other : place ≠ number := fun equal => same equal.symm
      simp [same, other, adds.entries]

/-- The first endpoint that is held can be closed; it is not held afterwards. -/
theorem close (adds : Adds base ((number, object) :: held) table) :
    table.close number = .ok (table.erase number) ∧ Adds base held (table.erase number) := by
  have isOpen := adds.getElem?_of_mem (List.mem_cons_self)
  have baseFree := adds.fresh (number, object) (List.mem_cons_self)
  have distinct := adds.distinct
  simp only [List.map_cons, List.nodup_cons, List.mem_map, Prod.exists, exists_and_right, exists_eq_right,
    not_exists] at distinct
  refine ⟨close_eq_ok isOpen, fun entry member => adds.fresh entry (List.mem_cons_of_mem _ member),
    distinct.2, ?_⟩
  intro place descriptor
  rw [Std.ExtTreeMap.getElem?_erase]
  by_cases same : number = place
  · subst same
    simp [baseFree, distinct.1]
  · have other : place ≠ number := fun equal => same equal.symm
    simp [same, other, adds.entries]

/-- What is held comes on top of what was there. -/
theorem size_eq (adds : Adds base held table) : table.size = base.size + held.length := by
  induction held generalizing table with
  | nil => simp [adds.eq_base]
  | cons entry held ih =>
    obtain ⟨number, object⟩ := entry
    have present := adds.getElem?_of_mem (List.mem_cons_self (a := (number, object)) (l := held))
    have contained : table.contains number = true := by
      rw [Std.ExtTreeMap.contains_eq_isSome_getElem?, present]
      rfl
    have some : table.size ≠ 0 := by
      intro none
      rw [Std.ExtTreeMap.eq_empty_iff_size_eq_zero.mpr none] at contained
      simp at contained
    have left := ih adds.close.2
    rw [Std.ExtTreeMap.size_erase, if_pos contained] at left
    rw [List.length_cons]
    omega

end Adds

end Pipework.Kernel.DescriptorTable
