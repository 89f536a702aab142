import Mathlib.Data.List.Forall2

/-!
# Runs that may fail

* `bind_eq_ok`, `map_eq_ok`, `mapM_eq_ok`, `forM_eq_ok`: what a successful run consists of.
* `exists_of_mapM_eq_error`, `forM_eq_error`: where a traversal fails.
* `discard_bind`, `discard_eq_ok`: runs without their results.
* `takeWhile_append_of_head`: what is taken from the start of a list.
* `Fails`: every failure of a run is of a kind.
* `Agree`: two runs that fail for the same reason, or succeed with related results.
-/

namespace RecordMapper

variable {ε α β γ δ : Type}

/-! ## Successful runs -/

theorem bind_eq_ok {x : Except ε α} {f : α → Except ε β} {b : β} :
    x >>= f = .ok b ↔ ∃ a, x = .ok a ∧ f a = .ok b := by
  cases x with
  | error e =>
    constructor
    · nofun
    · rintro ⟨_, h, _⟩
      cases h
  | ok a =>
    constructor
    · exact fun h => ⟨a, rfl, h⟩
    · rintro ⟨_, h, h'⟩
      cases h
      exact h'

theorem map_eq_ok {x : Except ε α} {f : α → β} {b : β} :
    f <$> x = .ok b ↔ ∃ a, x = .ok a ∧ f a = b := by
  rw [map_eq_pure_bind, bind_eq_ok]
  constructor
  · rintro ⟨a, h, h'⟩
    exact ⟨a, h, Except.ok.inj h'⟩
  · rintro ⟨a, h, rfl⟩
    exact ⟨a, h, rfl⟩

theorem map_eq_error {x : Except ε α} {f : α → β} {e : ε} : f <$> x = .error e ↔ x = .error e := by
  cases x with
  | error e' =>
    constructor <;>
      · rintro ⟨⟩
        rfl
  | ok a => exact ⟨nofun, nofun⟩

theorem exists_map_eq_ok {x : Except ε α} {f : α → β} :
    (∃ b, f <$> x = .ok b) ↔ ∃ a, x = .ok a := by
  constructor
  · rintro ⟨b, h⟩
    obtain ⟨a, ha, -⟩ := map_eq_ok.mp h
    exact ⟨a, ha⟩
  · rintro ⟨a, ha⟩
    exact ⟨f a, map_eq_ok.mpr ⟨a, ha, rfl⟩⟩

theorem bind_unit_eq_ok {x : Except ε Unit} {f : Unit → Except ε β} {b : β} :
    x >>= f = .ok b ↔ x = .ok () ∧ f () = .ok b := by
  rw [bind_eq_ok]
  exact ⟨fun ⟨_, h, h'⟩ => ⟨h, h'⟩, fun ⟨h, h'⟩ => ⟨(), h, h'⟩⟩

/-- A check that throws under a condition, and goes on otherwise. -/
theorem ite_throw_eq_ok {p : Prop} [Decidable p] {e : ε} {f : Unit → Except ε β} {b : β} :
    (if p then throw e >>= f else f ()) = .ok b ↔ ¬ p ∧ f () = .ok b := by
  by_cases h : p
  · rw [if_pos h]
    exact ⟨nofun, fun h' => absurd h h'.1⟩
  · rw [if_neg h]
    exact ⟨fun h' => ⟨h, h'⟩, fun h' => h'.2⟩

theorem mapM_eq_ok {f : α → Except ε β} {xs : List α} {ys : List β} :
    xs.mapM f = .ok ys ↔ List.Forall₂ (fun x y => f x = .ok y) xs ys := by
  induction xs generalizing ys with
  | nil =>
    rw [List.mapM_nil, List.forall₂_nil_left_iff]
    exact ⟨fun h => (Except.ok.inj h).symm, fun h => h ▸ rfl⟩
  | cons x xs ih =>
    rw [List.mapM_cons, bind_eq_ok, List.forall₂_cons_left_iff]
    constructor
    · rintro ⟨y, hy, h⟩
      obtain ⟨ys', hys', h⟩ := bind_eq_ok.mp h
      exact ⟨y, ys', hy, ih.mp hys', (Except.ok.inj h).symm⟩
    · rintro ⟨y, ys', hy, hys', rfl⟩
      exact ⟨y, hy, bind_eq_ok.mpr ⟨ys', ih.mpr hys', rfl⟩⟩

/-- A traversal fails at the first member that does. -/
theorem exists_of_mapM_eq_error {f : α → Except ε β} {xs : List α} {e : ε}
    (h : xs.mapM f = .error e) : ∃ before x after, xs = before ++ x :: after ∧
      (∀ y ∈ before, ∃ b, f y = .ok b) ∧ f x = .error e := by
  induction xs with
  | nil => cases h
  | cons x xs ih =>
    rw [List.mapM_cons] at h
    cases hx : f x with
    | error e' =>
      rw [hx] at h
      cases h
      exact ⟨[], x, xs, rfl, nofun, hx⟩
    | ok b =>
      have hxs : xs.mapM f = .error e := by
        cases hrest : xs.mapM f with
        | error e' =>
          rw [hx, hrest] at h
          cases h
          rfl
        | ok bs =>
          rw [hx, hrest] at h
          cases h
      obtain ⟨before, y, after, rfl, hbefore, hy⟩ := ih hxs
      exact ⟨x :: before, y, after, rfl, List.forall_mem_cons.mpr ⟨⟨b, hx⟩, hbefore⟩, hy⟩

/-- A traversal that checks each member and gives what a function has for it. -/
theorem mapM_eq_ok_of_spec {f : α → Except ε β} {P : α → Prop} {g : α → β}
    (hf : ∀ x y, f x = .ok y ↔ P x ∧ g x = y) {xs : List α}
    {ys : List β} : xs.mapM f = .ok ys ↔ (∀ x ∈ xs, P x) ∧ xs.map g = ys := by
  rw [mapM_eq_ok]
  constructor
  · intro h
    induction h with
    | nil => simp
    | cons hxy _ ih =>
      obtain ⟨hP, hg⟩ := (hf _ _).mp hxy
      rw [List.forall_mem_cons, List.map_cons, hg, ih.2]
      exact ⟨⟨hP, ih.1⟩, rfl⟩
  · rintro ⟨hP, rfl⟩
    rw [List.forall₂_map_right_iff, List.forall₂_same]
    exact fun x hx => (hf _ _).mpr ⟨hP x hx, rfl⟩

theorem exists_of_mem_right {R : α → β → Prop} {xs : List α} {ys : List β}
    (h : List.Forall₂ R xs ys) {y : β} (hy : y ∈ ys) : ∃ x ∈ xs, R x y := by
  induction h with
  | nil => cases hy
  | cons hxy _ ih =>
    rcases List.mem_cons.mp hy with rfl | hmem
    · exact ⟨_, List.mem_cons_self, hxy⟩
    · obtain ⟨x, hx, hR⟩ := ih hmem
      exact ⟨x, List.mem_cons_of_mem _ hx, hR⟩

theorem exists_forall₂ {R : α → β → Prop} {xs : List α} (h : ∀ x ∈ xs, ∃ y, R x y) :
    ∃ ys, List.Forall₂ R xs ys := by
  induction xs with
  | nil => exact ⟨[], .nil⟩
  | cons x xs ih =>
    obtain ⟨⟨y, hy⟩, hxs⟩ := List.forall_mem_cons.mp h
    obtain ⟨ys, hys⟩ := ih hxs
    exact ⟨y :: ys, .cons hy hys⟩

theorem comp_forall₂ {R : α → β → Prop} {S : β → γ → Prop} {xs : List α} {ys : List β} {zs : List γ}
    (h : List.Forall₂ R xs ys) (h' : List.Forall₂ S ys zs) :
    List.Forall₂ (fun x z => ∃ y, R x y ∧ S y z) xs zs := by
  induction h generalizing zs with
  | nil =>
    cases h'
    exact .nil
  | cons hxy _ ih =>
    cases h' with
    | cons hyz hrest => exact .cons ⟨_, hxy, hyz⟩ (ih hrest)

theorem exists_of_mem_left {R : α → β → Prop} {xs : List α} {ys : List β}
    (h : List.Forall₂ R xs ys) {x : α} (hx : x ∈ xs) : ∃ y ∈ ys, R x y := by
  obtain ⟨y, hy, hR⟩ := exists_of_mem_right h.flip hx
  exact ⟨y, hy, hR⟩

/-- Members beside each other have the same image if and only if the lists of images are the same.
-/
theorem forall₂_eq_iff_map_eq {γ : Type} {f : α → γ} {g : β → γ} {xs : List α} {ys : List β} :
    List.Forall₂ (fun x y => f x = g y) xs ys ↔ xs.map f = ys.map g := by
  rw [← List.forall₂_eq_eq_eq, List.forall₂_map_left_iff, List.forall₂_map_right_iff]

/-- Members of the same image are beside each other if the lists of images are the same. -/
theorem forall₂_of_map_eq {γ : Type} {f : α → γ} {g : β → γ} {R : α → β → Prop} {xs : List α}
    {ys : List β} (h : xs.map f = ys.map g)
    (hR : ∀ x ∈ xs, ∀ y ∈ ys, f x = g y → R x y) : List.Forall₂ R xs ys := by
  obtain ⟨hlength, hsame⟩ := List.forall₂_iff_zip.mp (forall₂_eq_iff_map_eq.mpr h)
  refine List.forall₂_iff_zip.mpr ⟨hlength, fun hpair => ?_⟩
  obtain ⟨hx, hy⟩ := List.of_mem_zip hpair
  exact hR _ hx _ hy (hsame hpair)

theorem map_eq_of_forall₂ {R : α → β → Prop} {f : β → α} {xs : List α} {ys : List β}
    (h : List.Forall₂ R xs ys) (hf : ∀ x y, R x y → f y = x) : ys.map f = xs := by
  have hmap : ys.map f = xs.map id :=
    forall₂_eq_iff_map_eq.mp (h.flip.imp fun y x hxy => hf x y hxy)
  rwa [List.map_id] at hmap

theorem mapM_congr_of_mem {m : Type → Type} [Monad m] [LawfulMonad m] {f g : α → m β}
    {xs : List α} (h : ∀ x ∈ xs, f x = g x) : xs.mapM f = xs.mapM g := by
  induction xs with
  | nil => rfl
  | cons x xs ih =>
    obtain ⟨hx, hxs⟩ := List.forall_mem_cons.mp h
    rw [List.mapM_cons, List.mapM_cons, hx, ih hxs]

/-- Traversals that do the same at each place are the same. -/
theorem mapM_eq_of_forall₂ {m : Type → Type} [Monad m] [LawfulMonad m] {f g : α → m β}
    {xs ys : List α} (h : List.Forall₂ (fun x y => f x = g y) xs ys) : xs.mapM f = ys.mapM g := by
  induction h with
  | nil => rfl
  | cons hxy _ ih => rw [List.mapM_cons, List.mapM_cons, hxy, ih]

theorem filterMap_id_map (g : α → Option β) (xs : List α) :
    (xs.map g).filterMap id = xs.filterMap g := by
  rw [List.filterMap_map]
  rfl

theorem forM_eq_ok {f : α → Except ε Unit} {xs : List α} :
    xs.forM f = .ok () ↔ ∀ x ∈ xs, f x = .ok () := by
  induction xs with
  | nil => exact ⟨fun _ => by simp, fun _ => rfl⟩
  | cons x xs ih =>
    rw [List.forM_eq_forM, List.forM_cons, bind_unit_eq_ok, ← List.forM_eq_forM, ih,
      List.forall_mem_cons]

/-- A traversal stops at the first member that fails. -/
theorem forM_eq_error {f : α → Except ε Unit} {xs : List α} {e : ε} :
    xs.forM f = .error e ↔ ∃ before x after, xs = before ++ x :: after ∧
      (∀ y ∈ before, f y = .ok ()) ∧ f x = .error e := by
  constructor
  · intro h
    induction xs with
    | nil => cases h
    | cons x xs ih =>
      rw [List.forM_eq_forM, List.forM_cons, ← List.forM_eq_forM] at h
      cases hx : f x with
      | error e' =>
        rw [hx] at h
        cases h
        exact ⟨[], x, xs, rfl, nofun, hx⟩
      | ok =>
        rw [hx] at h
        obtain ⟨before, y, after, rfl, hbefore, hy⟩ := ih h
        exact ⟨x :: before, y, after, rfl, List.forall_mem_cons.mpr ⟨hx, hbefore⟩, hy⟩
  · rintro ⟨before, x, after, rfl, hbefore, hx⟩
    rw [List.forM_eq_forM, List.forM_append, List.forM_cons, ← List.forM_eq_forM,
      forM_eq_ok.mpr hbefore, hx]
    rfl

/-! ## Runs without their results -/

theorem discard_eq_ok {x : Except ε α} : discard x = .ok () ↔ ∃ a, x = .ok a := by
  cases x with
  | error e => exact ⟨nofun, fun ⟨_, h⟩ => nomatch h⟩
  | ok a => exact ⟨fun _ => ⟨a, rfl⟩, fun _ => rfl⟩

theorem discard_pure {a : α} : discard (pure a : Except ε α) = pure () := rfl

theorem discard_bind {x : Except ε α} {f : α → Except ε β} :
    discard (x >>= f) = x >>= fun a => discard (f a) := by
  cases x <;> rfl

theorem discard_bind_const {x : Except ε α} {y : Except ε β} :
    (discard x >>= fun _ => y) = x >>= fun _ => y := by
  cases x <;> rfl

/-! ## Starts of lists -/

theorem takeWhile_of_head {p : α → Bool} {rest : List α}
    (h : ∀ x ∈ rest.head?, p x = false) : rest.takeWhile p = [] ∧ rest.dropWhile p = rest := by
  cases rest with
  | nil => exact ⟨rfl, rfl⟩
  | cons x rest =>
    have hx : p x = false := h x rfl
    rw [List.takeWhile_cons, List.dropWhile_cons, hx]
    exact ⟨rfl, rfl⟩

/-- A run of characters is taken up to where something else starts. -/
theorem takeWhile_append_of_head {p : α → Bool} {xs rest : List α}
    (hxs : ∀ x ∈ xs, p x) (hrest : ∀ x ∈ rest.head?, p x = false) :
    (xs ++ rest).takeWhile p = xs ∧ (xs ++ rest).dropWhile p = rest := by
  obtain ⟨htake, hdrop⟩ := takeWhile_of_head hrest
  rw [List.takeWhile_append_of_pos hxs, List.dropWhile_append_of_pos hxs, htake, hdrop]
  exact ⟨List.append_nil xs, rfl⟩

/-! ## Failures of a kind -/

/-- Every failure of a run satisfies `P`. -/
def Fails (x : Except ε α) (P : ε → Prop) : Prop := ∀ e, x = .error e → P e

theorem fails_ok {P : ε → Prop} {a : α} : Fails (.ok a) P := nofun

theorem fails_error {P : ε → Prop} {e : ε} (h : P e) : Fails (.error e : Except ε α) P := by
  intro e' he
  cases he
  exact h

theorem fails_mono {P Q : ε → Prop} {x : Except ε α} (h : Fails x P) (hPQ : ∀ e, P e → Q e) :
    Fails x Q :=
  fun e he => hPQ e (h e he)

theorem fails_bind {P : ε → Prop} {x : Except ε α} {f : α → Except ε β} (hx : Fails x P)
    (hf : ∀ a, Fails (f a) P) : Fails (x >>= f) P := by
  intro e he
  cases x with
  | error e' => cases he; exact hx e rfl
  | ok a => exact hf a e he

theorem fails_map {P : ε → Prop} {x : Except ε α} {f : α → β} (hx : Fails x P) :
    Fails (f <$> x) P := by
  rw [map_eq_pure_bind]
  exact fails_bind hx fun _ => fails_ok

theorem fails_mapM {P : ε → Prop} {f : α → Except ε β} {xs : List α}
    (hf : ∀ x ∈ xs, Fails (f x) P) : Fails (xs.mapM f) P := by
  induction xs with
  | nil => exact fails_ok
  | cons x xs ih =>
    obtain ⟨hx, hxs⟩ := List.forall_mem_cons.mp hf
    rw [List.mapM_cons]
    exact fails_bind hx fun _ => fails_bind (ih hxs) fun _ => fails_ok

theorem fails_forM {P : ε → Prop} {f : α → Except ε Unit} (xs : List α)
    (hf : ∀ x, Fails (f x) P) : Fails (xs.forM f) P := by
  induction xs with
  | nil => exact fails_ok
  | cons x xs ih => exact fails_bind (hf x) fun _ => ih

/-! ## Two runs -/

/-- Two runs that fail for the same reason, or succeed with results in `R`. -/
inductive Agree (R : α → β → Prop) : Except ε α → Except ε β → Prop
  | failed (e : ε) : Agree R (.error e) (.error e)
  | done {a : α} {b : β} : R a b → Agree R (.ok a) (.ok b)

namespace Agree

variable {R : α → β → Prop} {S : γ → δ → Prop} {x : Except ε α} {y : Except ε β}

theorem of_eq {x y : Except ε α} (h : x = y) : Agree Eq x y := by
  subst h
  cases x with
  | error e => exact .failed e
  | ok a => exact .done rfl

theorem bind {f : α → Except ε γ} {g : β → Except ε δ} (h : Agree R x y)
    (hfg : ∀ a b, R a b → Agree S (f a) (g b)) : Agree S (x >>= f) (y >>= g) := by
  cases h with
  | failed e => exact .failed e
  | done hab => exact hfg _ _ hab

theorem map {f : α → γ} {g : β → δ} (h : Agree R x y) (hfg : ∀ a b, R a b → S (f a) (g b)) :
    Agree S (f <$> x) (g <$> y) := by
  cases h with
  | failed e => exact .failed e
  | done hab => exact .done (hfg _ _ hab)

/-- Keeps the results of the runs beside the relation between them. -/
theorem with_results (h : Agree R x y) :
    Agree (fun a b => R a b ∧ x = .ok a ∧ y = .ok b) x y := by
  cases h with
  | failed e => exact .failed e
  | done hab => exact .done ⟨hab, rfl, rfl⟩

theorem mono {R' : α → β → Prop} (h : Agree R x y) (hR : ∀ a b, R a b → R' a b) :
    Agree R' x y := by
  cases h with
  | failed e => exact .failed e
  | done hab => exact .done (hR _ _ hab)

theorem mapM {Q : γ → δ → Prop} {f : γ → Except ε α} {g : δ → Except ε β} {xs : List γ}
    {ys : List δ} (h : List.Forall₂ Q xs ys) (hfg : ∀ c d, Q c d → Agree R (f c) (g d)) :
    Agree (List.Forall₂ R) (xs.mapM f) (ys.mapM g) := by
  induction h with
  | nil => exact .done .nil
  | cons hcd _ ih =>
    rw [List.mapM_cons, List.mapM_cons]
    exact (hfg _ _ hcd).bind fun _ _ hab => ih.bind fun _ _ hrest => .done (.cons hab hrest)

end Agree

end RecordMapper
