import RecordMapper.Proofs.Session.Footprint

/-!
# Sessions that give a result

* `Session.Gives`: from each world of a kind, a run gives a result in a world of another kind.
* `Session.run_guarded_of_fault`: how an operation ends when what it runs ends with a fault.

`Session.Leaves` says what every run leaves behind. Here it is said that there is a result at all,
which depends on what the store answers and so on the world in which the run starts.
-/

namespace RecordMapper.Session

variable {α β : Type} {surroundings : Surroundings}

/-- From each world in `I` a run gives a result in a world, both in `J`. -/
def Gives (surroundings : Surroundings) (I : World → Prop) (session : Session α)
    (J : α → World → Prop) : Prop :=
  ∀ world, I world → ∃ a world', session.run surroundings world = (.ok a, world') ∧ J a world'

section Gives

variable {I : World → Prop}

theorem gives_pure {a : α} {J : α → World → Prop} (h : ∀ world, I world → J a world) :
    Gives surroundings I (pure a) J :=
  fun world hI => ⟨a, world, rfl, h world hI⟩

theorem gives_bind {x : Session α} {f : α → Session β} {K : α → World → Prop}
    {J : β → World → Prop} (hx : Gives surroundings I x K)
    (hf : ∀ a, Gives surroundings (K a) (f a) J) : Gives surroundings I (x >>= f) J := by
  intro world hI
  obtain ⟨a, world', hrun, hK⟩ := hx world hI
  obtain ⟨b, world'', hrun', hJ⟩ := hf a world' hK
  refine ⟨b, world'', ?_, hJ⟩
  rw [run_bind, hrun]
  exact hrun'

/-- Goes on with what is known of the result, apart from the world. -/
theorem gives_bind_of {x : Session α} {f : α → Session β} {K : World → Prop} {P : α → Prop}
    {J : β → World → Prop} (hx : Gives surroundings I x fun a world => K world ∧ P a)
    (hf : ∀ a, P a → Gives surroundings K (f a) J) : Gives surroundings I (x >>= f) J := by
  refine gives_bind hx fun a world h => ?_
  exact hf a h.2 world h.1

theorem gives_mapM {Q : β → α → Prop} {ys : List β} {f : β → Session α}
    (hf : ∀ y ∈ ys, Gives surroundings I (f y) fun a world => I world ∧ Q y a) :
    Gives surroundings I (ys.mapM f) fun as world => I world ∧ List.Forall₂ Q ys as := by
  induction ys with
  | nil => exact gives_pure fun _ hI => ⟨hI, .nil⟩
  | cons y ys ih =>
    obtain ⟨hy, hys⟩ := List.forall_mem_cons.mp hf
    rw [List.mapM_cons]
    refine gives_bind_of hy fun a ha => gives_bind_of (ih hys) fun as has => ?_
    exact gives_pure fun _ hI => ⟨hI, .cons ha has⟩

theorem gives_dialect :
    Gives surroundings I dialect fun dialect world =>
      I world ∧ dialect = surroundings.catalogue.dialect :=
  fun world hI => ⟨_, world, rfl, hI, rfl⟩

/-- A query gives the rows with which the store answers. -/
theorem gives_query {table : Option String} {sql : String} {rows : List Row}
    {J : List Row → World → Prop}
    (hstore : ∀ world, I world → surroundings.store world.exchanges (.query sql) = .done rows)
    (hJ : ∀ world, I world → J rows { world with
      exchanges := world.exchanges ++ [⟨.query sql, .done rows⟩]
      events := world.events ++ [.queryExecuted table sql] }) :
    Gives surroundings I (query table sql) J := by
  intro world hI
  refine ⟨rows, _, ?_, hJ world hI⟩
  change (send (.query sql)).run surroundings
    { world with events := world.events ++ [.queryExecuted table sql] } = _
  rw [run_send, hstore world hI]
  rfl

end Gives

theorem run_get_bind (f : World → Session α) (world : World) :
    (get >>= f).run surroundings world = (f world).run surroundings world := rfl

theorem run_guarded_of_fault {operation : String} {table : Option String} {session : Session α}
    {world world' : World} {fault : Fault} (hopen : world.isClosed = false)
    (hsound : world.isPoisoned = false)
    (h : session.run surroundings world = (.error (.fault fault), world')) :
    (guarded operation table session).run surroundings world =
      (.error (.fault fault), { world' with
        events := world'.events ++ [.operationFailed operation table fault] }) := by
  have hinner : (withStore session).run surroundings world = (.error (.fault fault), world') := by
    have hclosed : ¬ world.isClosed = true := by simp [hopen]
    have hpoisoned : ¬ world.isPoisoned = true := by simp [hsound]
    rw [withStore, run_get_bind]
    dsimp only
    rw [if_neg hclosed, run_get_bind, if_neg hpoisoned, run_tryCatch, h]
    rfl
  rw [guarded, run_tryCatch, hinner]
  rfl

end RecordMapper.Session
