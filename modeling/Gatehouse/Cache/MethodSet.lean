import Gatehouse.Text.Pieces

/-!
# Sets of methods

The methods that a cache rule names, as a set: kept in order and without
repetition, so that two sets with the same members are equal and are written
the same way.
-/

namespace Gatehouse

/-- A set of method names. -/
structure MethodSet where
  /-- The members in order. -/
  toList : List String
  /-- Each member comes before all later ones. -/
  ordered : toList.Pairwise (· < ·)
  deriving DecidableEq

namespace MethodSet

instance : Repr MethodSet where
  reprPrec methods precedence := reprPrec methods.toList precedence

def empty : MethodSet :=
  ⟨[], .nil⟩

instance : Inhabited MethodSet :=
  ⟨empty⟩

/-- Puts a name at its place in an ordered list, unless it is there. -/
def place (method : String) : List String → List String
  | [] => [method]
  | first :: rest =>
      if method < first then method :: first :: rest
      else if method = first then first :: rest
      else first :: place method rest

theorem mem_place {method other : String} {members : List String} :
    other ∈ place method members ↔ other = method ∨ other ∈ members := by
  induction members with
  | nil => simp [place]
  | cons first rest ih =>
    unfold place
    split
    · simp
    · split
      · rename_i same
        subst same
        simp
      · simp only [List.mem_cons, ih]
        grind

theorem ordered_place (method : String) {members : List String}
    (ordered : members.Pairwise (· < ·)) : (place method members).Pairwise (· < ·) := by
  induction members with
  | nil => simp [place]
  | cons first rest ih =>
    unfold place
    rw [List.pairwise_cons] at ordered
    split
    · rename_i before
      rw [List.pairwise_cons, List.pairwise_cons]
      refine ⟨fun other member => ?_, ordered⟩
      rcases List.mem_cons.1 member with rfl | member
      · exact before
      · exact String.lt_trans before (ordered.1 other member)
    · split
      · exact List.pairwise_cons.2 ordered
      · rename_i notBefore different
        rw [List.pairwise_cons]
        refine ⟨fun other member => ?_, ih ordered.2⟩
        rcases mem_place.1 member with rfl | member
        · exact Std.lt_of_le_of_ne (String.not_lt.1 notBefore) (Ne.symm different)
        · exact ordered.1 other member

def insert (methods : MethodSet) (method : String) : MethodSet :=
  ⟨place method methods.toList, ordered_place method methods.ordered⟩

def ofList (methods : List String) : MethodSet :=
  methods.foldl insert empty

def isEmpty (methods : MethodSet) : Bool :=
  methods.toList.isEmpty

def contains (methods : MethodSet) (method : String) : Bool :=
  methods.toList.contains method

variable {method : String} {names : List String}

theorem mem_foldl_insert {set : MethodSet} :
    method ∈ (names.foldl insert set).toList ↔ method ∈ names ∨ method ∈ set.toList := by
  induction names generalizing set with
  | nil => simp
  | cons first rest ih =>
      rw [List.foldl_cons, ih, insert, mem_place, List.mem_cons]
      grind

theorem mem_ofList : method ∈ (ofList names).toList ↔ method ∈ names := by
  rw [ofList, mem_foldl_insert]
  simp [empty]

theorem eq_empty_of_isEmpty {methods : MethodSet} (isEmpty : methods.isEmpty) :
    methods = empty := by
  rcases methods with ⟨members, ordered⟩
  rw [MethodSet.isEmpty, List.isEmpty_iff] at isEmpty
  cases isEmpty
  rfl

end MethodSet

end Gatehouse
