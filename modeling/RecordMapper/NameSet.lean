/-!
# Sets of names

* `NameSet`: a set of texts, kept as a list without repetition in ascending order of code points.
* `NameSet.mem_insert`, `NameSet.ext_of_mem`: what a set holds after an insertion, and that two
  sets with the same names are equal.
-/

namespace RecordMapper

/-- A set of names. Names ascend by their code points, which is the order of their UTF-8 bytes. -/
structure NameSet where
  names : List String
  ascending : names.Pairwise (· < ·)
deriving DecidableEq, Repr

namespace NameSet

def empty : NameSet := ⟨[], .nil⟩

instance : Inhabited NameSet := ⟨empty⟩

instance : Membership String NameSet := ⟨fun set name => name ∈ set.names⟩

instance (name : String) (set : NameSet) : Decidable (name ∈ set) :=
  inferInstanceAs (Decidable (name ∈ set.names))

theorem mem_def {name : String} {set : NameSet} : name ∈ set ↔ name ∈ set.names := Iff.rfl

def isEmpty (set : NameSet) : Bool :=
  set.names.isEmpty

/-! ## Insertion -/

/-- Puts a name in its place, unless it is there. -/
def place (name : String) : List String → List String
  | [] => [name]
  | first :: rest =>
    if name < first then name :: first :: rest
    else if name = first then first :: rest
    else first :: place name rest

theorem mem_place {name other : String} {names : List String} :
    other ∈ place name names ↔ other = name ∨ other ∈ names := by
  induction names with
  | nil => simp [place]
  | cons first rest ih =>
    unfold place
    split
    · simp
    · split
      · next h => subst h; simp
      · simp [ih, or_left_comm]

theorem pairwise_place {name : String} {names : List String} (h : names.Pairwise (· < ·)) :
    (place name names).Pairwise (· < ·) := by
  induction names with
  | nil => simp [place]
  | cons first rest ih =>
    rw [List.pairwise_cons] at h
    unfold place
    split
    · next hlt =>
      refine List.pairwise_cons.2 ⟨?_, List.pairwise_cons.2 h⟩
      intro other hother
      rcases List.mem_cons.1 hother with rfl | hrest
      · exact hlt
      · exact String.lt_trans hlt (h.1 other hrest)
    · next hlt =>
      split
      · exact List.pairwise_cons.2 h
      · next hne =>
        refine List.pairwise_cons.2 ⟨?_, ih h.2⟩
        intro other hother
        rcases mem_place.1 hother with rfl | hrest
        · exact Std.lt_of_le_of_ne (String.not_lt.1 hlt) (Ne.symm hne)
        · exact h.1 other hrest

def insert (set : NameSet) (name : String) : NameSet :=
  ⟨place name set.names, pairwise_place set.ascending⟩

def insertAll (set : NameSet) (names : List String) : NameSet :=
  names.foldl insert set

@[simp] theorem mem_insert {set : NameSet} {name other : String} :
    other ∈ set.insert name ↔ other = name ∨ other ∈ set :=
  mem_place

@[simp] theorem mem_insertAll {set : NameSet} {names : List String} {other : String} :
    other ∈ set.insertAll names ↔ other ∈ names ∨ other ∈ set := by
  induction names generalizing set with
  | nil => simp [insertAll]
  | cons name rest ih =>
    simp only [insertAll, List.foldl_cons] at ih ⊢
    rw [ih]
    simp [or_left_comm, or_assoc]

@[simp] theorem not_mem_empty {name : String} : name ∉ empty := by
  simp [empty, mem_def]

/-! ## Extensionality -/

theorem eq_of_pairwise {xs ys : List String} (hx : xs.Pairwise (· < ·)) (hy : ys.Pairwise (· < ·))
    (h : ∀ name, name ∈ xs ↔ name ∈ ys) : xs = ys := by
  induction xs generalizing ys with
  | nil =>
    cases ys with
    | nil => rfl
    | cons y ys => exact absurd ((h y).2 List.mem_cons_self) List.not_mem_nil
  | cons x xs ih =>
    cases ys with
    | nil => exact absurd ((h x).1 List.mem_cons_self) List.not_mem_nil
    | cons y ys =>
      rw [List.pairwise_cons] at hx hy
      have hxy : x = y := by
        rcases List.mem_cons.1 ((h x).1 List.mem_cons_self) with hx' | hx'
        · exact hx'
        · rcases List.mem_cons.1 ((h y).2 List.mem_cons_self) with hy' | hy'
          · exact hy'.symm
          · exact absurd (String.lt_trans (hy.1 x hx') (hx.1 y hy')) (String.lt_irrefl y)
      subst hxy
      congr 1
      refine ih hx.2 hy.2 fun name => ?_
      constructor
      · intro hname
        rcases List.mem_cons.1 ((h name).1 (List.mem_cons_of_mem _ hname)) with rfl | hmem
        · exact absurd (hx.1 name hname) (String.lt_irrefl name)
        · exact hmem
      · intro hname
        rcases List.mem_cons.1 ((h name).2 (List.mem_cons_of_mem _ hname)) with rfl | hmem
        · exact absurd (hy.1 name hname) (String.lt_irrefl name)
        · exact hmem

theorem ext_of_mem {s t : NameSet} (h : ∀ name, name ∈ s ↔ name ∈ t) : s = t := by
  cases s with
  | mk xs hx =>
    cases t with
    | mk ys hy =>
      have hxy : xs = ys := eq_of_pairwise hx hy h
      subst hxy
      rfl

end NameSet

end RecordMapper
