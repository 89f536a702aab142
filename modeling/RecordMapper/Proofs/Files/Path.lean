import Mathlib.Data.List.Basic
import Mathlib.Data.List.Induction
import RecordMapper.Files.Folder
import RecordMapper.Proofs.Text

/-!
# Steps of paths

* `Path.components_eq_nil_iff`: only the empty path takes no step.
* `Path.parent?_eq_none_iff`: a path has a parent unless it takes no step or only that to the root.
* `Path.isLookedUp_of_root`: a path that leads to the root is looked up if it is short enough.
* `Path.Limits.Within`: limits that are at least as strict as others.
* `Path.components_slashes`: a path of slashes leads to the root.
-/

namespace RecordMapper.Path

/-! ## Segments and steps -/

theorem exists_segments (path : Path) : ∃ first rest, path.segments = first :: rest := by
  have hlength := Text.length_split '/' path.text.toList
  cases hsegments : path.segments with
  | nil =>
    rw [segments, List.map_eq_nil_iff] at hsegments
    simp [hsegments] at hlength
  | cons first rest => exact ⟨first, rest, rfl⟩

theorem innerStep?_ne_root (segment : String) : innerStep? segment ≠ some .root := by
  unfold innerStep?
  split
  · nofun
  · split <;> nofun

theorem innerStep?_eq_none_iff (segment : String) :
    innerStep? segment = none ↔ segment = "" ∨ segment = "." := by
  unfold innerStep?
  split
  · next h => exact ⟨fun _ => h, fun _ => rfl⟩
  · next h =>
    refine ⟨fun hnone => ?_, fun hempty => absurd hempty h⟩
    split at hnone <;> cases hnone

theorem firstStep?_eq_none_iff (isOnly : Bool) (segment : String) :
    firstStep? isOnly segment = none ↔ segment = "" ∧ isOnly = true := by
  unfold firstStep?
  split
  · cases isOnly <;> simp [*]
  · next hempty =>
    split
    · simp [hempty]
    · next hdot => simp [innerStep?_eq_none_iff, hempty, hdot]

theorem firstStep?_eq_root {isOnly : Bool} {segment : String}
    (h : firstStep? isOnly segment = some .root) : segment = "" := by
  unfold firstStep? at h
  split at h
  · assumption
  · split at h
    · cases h
    · exact absurd h (innerStep?_ne_root segment)

theorem root_not_mem_inner (segments : List String) : .root ∉ segments.filterMap innerStep? := by
  intro hroot
  obtain ⟨segment, -, hsegment⟩ := List.mem_filterMap.mp hroot
  exact innerStep?_ne_root segment hsegment

/-- The first step of a path, if it is one, and the steps after it. -/
theorem components_eq {path : Path} {first : String} {rest : List String}
    (h : path.segments = first :: rest) :
    path.components = (firstStep? rest.isEmpty first).toList ++ rest.filterMap innerStep? := by
  rw [components, steps, h, List.filterMap_cons, List.filterMap_map]
  cases firstStep? rest.isEmpty first <;> rfl

theorem components_eq_nil_iff (path : Path) : path.components = [] ↔ path.text = "" := by
  constructor
  · intro h
    obtain ⟨first, rest, hsegments⟩ := path.exists_segments
    rw [components_eq hsegments, List.append_eq_nil_iff, Option.toList_eq_nil_iff,
      firstStep?_eq_none_iff, List.isEmpty_iff] at h
    obtain ⟨⟨rfl, rfl⟩, -⟩ := h
    rw [segments, List.map_eq_singleton_iff] at hsegments
    obtain ⟨part, hsplit, hpart⟩ := hsegments
    have hnil : part = [] := by simpa using hpart
    rw [hnil, Text.split_eq_singleton_nil] at hsplit
    exact String.toList_eq_nil_iff.mp hsplit
  · intro h
    rw [components, steps, segments, h]
    rfl

/-- The root is the first step of a path, or none. -/
theorem components_eq_root {path : Path} (h : path.components.getLast? = some .root) :
    path.components = [.root] := by
  obtain ⟨first, rest, hsegments⟩ := path.exists_segments
  rw [components_eq hsegments] at h ⊢
  cases hlast : (rest.filterMap innerStep?).getLast? with
  | some step =>
    rw [List.getLast?_append, hlast, Option.some_or] at h
    have hstep := List.mem_of_getLast? hlast
    rw [Option.some.inj h] at hstep
    exact absurd hstep (root_not_mem_inner rest)
  | none =>
    rw [List.getLast?_eq_none_iff] at hlast
    rw [hlast, List.append_nil] at h ⊢
    cases hfirst : firstStep? rest.isEmpty first with
    | none => simp [hfirst] at h
    | some step =>
      rw [hfirst] at h
      cases h
      rfl

/-! ## Parents -/

/-- The last step of a path stands where the search for it from the end stops. -/
theorem head?_dropWhile_reverse (steps : List (String × Option Component)) :
    (steps.reverse.dropWhile (·.2.isNone)).head?.bind (·.2) =
      (steps.filterMap (·.2)).getLast? := by
  induction steps using List.reverseRecOn with
  | nil => rfl
  | append_singleton before step ih =>
    obtain ⟨segment, component⟩ := step
    rw [List.reverse_append, List.reverse_singleton, List.singleton_append, List.filterMap_append,
      List.getLast?_append]
    cases component with
    | none =>
      rw [List.dropWhile_cons_of_pos rfl, ih]
      rfl
    | some component =>
      rw [List.dropWhile_cons_of_neg (by simp)]
      rfl

/-- A path has a parent, unless it is empty or leads to the root and no further. -/
theorem parent?_eq_none_iff (path : Path) :
    path.parent? = none ↔ path.components = [] ∨ path.components = [.root] := by
  have hlast := head?_dropWhile_reverse path.steps
  rw [← components] at hlast
  have hends : path.components.getLast? = some .root ↔ path.components = [.root] :=
    ⟨components_eq_root, fun h => by rw [h]; rfl⟩
  rw [← hends, ← List.getLast?_eq_none_iff, ← hlast, parent?]
  split
  · next hnil => simp [hnil]
  · next hroot => simp [hroot]
  · next step before hother hcons =>
    have hsome := List.head?_dropWhile_not (·.2.isNone) path.steps.reverse
    rw [hcons] at hsome ⊢
    obtain ⟨segment, component⟩ := step
    cases component with
    | none => cases hsome
    | some component =>
      refine ⟨nofun, ?_⟩
      rintro (h | h)
      · cases h
      · cases h
        exact absurd rfl (hother segment)

/-! ## Paths to the root -/

/-- A path that leads to the root and no further has only slashes and dots. -/
theorem mem_of_root {path : Path} (h : path.components = [.root]) {c : Char}
    (hc : c ∈ path.text.toList) : c = '/' ∨ c = '.' := by
  obtain ⟨first, rest, hsegments⟩ := path.exists_segments
  have hsteps := components_eq hsegments
  rw [h] at hsteps
  have hroot : .root ∈ (firstStep? rest.isEmpty first).toList ++ rest.filterMap innerStep? :=
    hsteps ▸ List.mem_singleton_self _
  have hfirst : firstStep? rest.isEmpty first = some .root := by
    rcases List.mem_append.mp hroot with hfirst | hinner
    · exact Option.mem_toList.mp hfirst
    · exact absurd hinner (root_not_mem_inner rest)
  rw [hfirst] at hsteps
  have hrest := (List.cons.inj hsteps).2
  have hempty : first = "" := firstStep?_eq_root hfirst
  have hblank : ∀ segment ∈ path.segments, segment = "" ∨ segment = "." := by
    rw [hsegments, List.forall_mem_cons]
    refine ⟨.inl hempty, fun segment hsegment => (innerStep?_eq_none_iff segment).mp ?_⟩
    exact List.filterMap_eq_nil_iff.mp hrest.symm segment hsegment
  have hsplit : c = '/' ∨ ∃ part ∈ Text.split '/' path.text.toList, c ∈ part :=
    Text.mem_of_mem_split hc
  rcases hsplit with hslash | ⟨part, hpart, hmem⟩
  · exact .inl hslash
  · rcases hblank _ (List.mem_map_of_mem hpart) with hpart | hpart
    · rw [← String.toList_inj, String.toList_ofList] at hpart
      rw [hpart] at hmem
      cases hmem
    · rw [← String.toList_inj, String.toList_ofList] at hpart
      rw [hpart] at hmem
      exact .inr (List.mem_singleton.mp hmem)

/-- A path that leads to the root is looked up unless it is too long for the system. -/
theorem isLookedUp_of_root {path : Path} (h : path.components = [.root]) :
    path.isLookedUp = decide (path.text.utf8ByteSize < systemLength) := by
  have hne : path.text ≠ "" := by
    rw [Ne, ← components_eq_nil_iff, h]
    exact List.cons_ne_nil _ _
  have hzero : '\x00' ∉ path.text.toList := fun hmem =>
    (mem_of_root h hmem).elim (by decide) (by decide)
  simp [isLookedUp, hne, hzero]

/-- A path of slashes leads to the root and no further. -/
theorem components_slashes (n : Nat) :
    components ⟨String.ofList (List.replicate (n + 1) '/')⟩ = [.root] := by
  have hsegments : segments ⟨String.ofList (List.replicate (n + 1) '/')⟩ =
      "" :: List.replicate (n + 1) "" := by
    rw [segments, String.toList_ofList, Text.split_replicate, List.map_replicate]
    rfl
  rw [components_eq hsegments, List.filterMap_replicate_of_none rfl]
  rfl

theorem utf8ByteSize_slashes (n : Nat) :
    (String.ofList (List.replicate n '/')).utf8ByteSize = n := by
  have hascii : ∀ c ∈ List.replicate n '/', c.toNat < 0x80 := fun c hc =>
    List.eq_of_mem_replicate hc ▸ by decide
  rw [String.utf8ByteSize_ofList, Text.utf8Len_of_oneByte hascii, List.length_replicate]

/-! ## Limits -/

/-- Limits of which none is above that of others. -/
structure Limits.Within (limits limits' : Limits) : Prop where
  length : limits.length ≤ limits'.length
  componentLength : limits.componentLength ≤ limits'.componentLength

namespace Limits.Within

variable {limits limits' : Limits} {path : Path}

theorem isTooLong (h : limits.Within limits') (hpath : path.isTooLong limits = false) :
    path.isTooLong limits' = false := by
  have hlength := h.length
  unfold Path.isTooLong at hpath ⊢
  rw [decide_eq_false_iff_not] at hpath ⊢
  omega

theorem hasLongComponent (h : limits.Within limits')
    (hpath : path.hasLongComponent limits = false) : path.hasLongComponent limits' = false := by
  have hlength := h.componentLength
  unfold Path.hasLongComponent at hpath ⊢
  rw [List.any_eq_false] at hpath ⊢
  intro component hcomponent hlong
  have hshort := hpath component hcomponent
  rw [decide_eq_true_eq] at hshort hlong
  omega

end Limits.Within

end RecordMapper.Path
