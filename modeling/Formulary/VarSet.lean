/-! Finite sets of variable indices, kept as ascending lists. -/

namespace Formulary

/-- A finite set of variable indices. -/
structure VarSet where
  /-- The members, ascending. -/
  toList : List UInt64
  ascending : toList.Pairwise (· < ·)
deriving DecidableEq

namespace VarSet

/-- The list with the index in its place. -/
def insertInto (index : UInt64) : List UInt64 → List UInt64
  | [] => [index]
  | head :: rest =>
      if index < head then index :: head :: rest
      else if index = head then head :: rest
      else head :: insertInto index rest

/-- The inserted index is a member, and every other member was one before. -/
theorem mem_insertInto {index member : UInt64} {list : List UInt64}
    : member ∈ insertInto index list ↔ member = index ∨ member ∈ list := by
  induction list with
  | nil => simp [insertInto]
  | cons head rest ih => grind [insertInto]

/-- Insertion keeps an ascending list ascending. -/
theorem ascending_insertInto {index : UInt64} {list : List UInt64}
    (ascending : list.Pairwise (· < ·))
    : (insertInto index list).Pairwise (· < ·) := by
  induction list with
  | nil => simp [insertInto]
  | cons head rest ih =>
      obtain ⟨below, tail⟩ := List.pairwise_cons.mp ascending
      unfold insertInto
      split
      · rename_i first
        refine List.pairwise_cons.mpr ⟨fun member found => ?_, ascending⟩
        rcases List.mem_cons.mp found with rfl | found
        · exact first
        · exact UInt64.lt_trans first (below member found)
      · split
        · exact ascending
        · rename_i notFirst notHead
          refine List.pairwise_cons.mpr ⟨fun member found => ?_, ih tail⟩
          rcases mem_insertInto.mp found with rfl | found
          · exact UInt64.lt_of_le_of_ne (UInt64.not_lt.mp notFirst) (Ne.symm notHead)
          · exact below member found

/-- The set without members. -/
def empty : VarSet :=
  { toList := [], ascending := .nil }

/-- The set with one more member. -/
def insert (set : VarSet) (index : UInt64) : VarSet :=
  { toList := insertInto index set.toList
    ascending := ascending_insertInto set.ascending }

/-- The set with one member. -/
def singleton (index : UInt64) : VarSet :=
  empty.insert index

/-- The members of a list. -/
def ofList (indices : List UInt64) : VarSet :=
  indices.foldl insert empty

/-- The members of either set. -/
def union (left right : VarSet) : VarSet :=
  right.toList.foldl insert left

/-- How many members there are. -/
def size (set : VarSet) : Nat :=
  set.toList.length

instance : Membership UInt64 VarSet :=
  ⟨fun set index => index ∈ set.toList⟩

/-- The inserted index is a member, and every other member was one before. -/
theorem mem_insert {set : VarSet} {index member : UInt64}
    : member ∈ set.insert index ↔ member = index ∨ member ∈ set :=
  mem_insertInto

/-- Insertion of a list adds its members. -/
theorem mem_foldl_insert {indices : List UInt64} {set : VarSet} {member : UInt64}
    : member ∈ indices.foldl insert set ↔ member ∈ indices ∨ member ∈ set := by
  induction indices generalizing set with
  | nil => simp
  | cons head rest ih =>
      rw [List.foldl_cons, ih, mem_insert, List.mem_cons]
      grind

/-- The empty set has no member. -/
theorem not_mem_empty {member : UInt64} : member ∉ empty :=
  List.not_mem_nil

/-- Its one index is the member of a singleton. -/
theorem mem_singleton {index member : UInt64}
    : member ∈ singleton index ↔ member = index := by
  simp [singleton, mem_insert, not_mem_empty]

/-- The members of a list are those of its set. -/
theorem mem_ofList {indices : List UInt64} {member : UInt64}
    : member ∈ ofList indices ↔ member ∈ indices := by
  simp [ofList, mem_foldl_insert, not_mem_empty]

/-- A union has the members of both sets. -/
theorem mem_union {left right : VarSet} {member : UInt64}
    : member ∈ left.union right ↔ member ∈ right ∨ member ∈ left :=
  mem_foldl_insert

end VarSet

end Formulary
