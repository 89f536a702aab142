import RecordMapper.Proofs.Session.Trace

/-!
# The creation of the tables

* `Session.creation`, `Session.leaves_createTable`: what the creation of one table leaves behind.
* `Session.Creates`: the ways in which the creation of several tables goes, up to the first one that
  is not done.
* `Session.created_createTables`: the statements of a catalogue are sent in their order, up to the
  first that is not done, and what became of each table is recorded.
-/

namespace RecordMapper.Session

/-! ## One table -/

theorem run_dialect_bind {α : Type} (surroundings : Surroundings) (world : World)
    (f : Dialect → Session α) : (dialect >>= f).run surroundings world =
      (f surroundings.catalogue.dialect).run surroundings world := rfl

theorem run_discard_send (surroundings : Surroundings) (world : World) (call : Call) :
    (discard (send call)).run surroundings world =
      (discard (surroundings.store world.exchanges call).result, { world with
        exchanges := world.exchanges ++ [⟨call, surroundings.store world.exchanges call⟩] }) := by
  have hbind : (discard (send call) : Session Unit) = send call >>= fun _ => pure () := rfl
  rw [hbind, run_bind, run_send]
  generalize surroundings.store world.exchanges call = reply
  cases reply <;> rfl

/-- The statement that creates a table. -/
def creationText (dialect : Dialect) (schema : Schema) : String :=
  (CreateTable.ofSchema schema).render dialect

/-- What is recorded after the reply to a creation. Nothing is after a crash. -/
def creationEvents (dialect : Dialect) (schema : Schema) : Reply → List Event
  | .done _ => [.tableCreated schema.table (creationText dialect schema)]
  | .refused text => [.tableRefused schema.table (creationText dialect schema) (.store text)]
  | .crashed => []

/-- What the creation of a table leaves behind, given the reply. -/
def creation (dialect : Dialect) (schema : Schema) (reply : Reply) : Footprint where
  exchanges := [⟨.execute (creationText dialect schema), reply⟩]
  events := creationEvents dialect schema reply

variable {surroundings : Surroundings} {dialect : Dialect}

theorem leaves_createTable (schema : Schema) :
    Leaves surroundings (createTable schema) fun result added =>
      ∃ reply, result = discard reply.result ∧
        added = creation surroundings.catalogue.dialect schema reply := by
  intro world
  obtain ⟨sql, hsql⟩ : ∃ sql, creationText surroundings.catalogue.dialect schema = sql := ⟨_, rfl⟩
  obtain ⟨reply, hreply⟩ : ∃ reply, surroundings.store world.exchanges (.execute sql) = reply :=
    ⟨_, rfl⟩
  have hrun : (createTable schema).run surroundings world = (discard reply.result, { world with
      exchanges := world.exchanges ++ [⟨.execute sql, reply⟩]
      events := world.events ++ creationEvents surroundings.catalogue.dialect schema reply }) := by
    rw [creationText] at hsql
    rw [createTable, run_dialect_bind, hsql, run_bind, run_tryCatch, run_discard_send, hreply]
    cases reply with
    | done | refused =>
      rw [creationEvents, creationText, hsql]
      rfl
    | crashed =>
      rw [creationEvents, List.append_nil]
      rfl
  rw [hrun]
  refine ⟨creation surroundings.catalogue.dialect schema reply, ⟨?_, rfl⟩, reply, rfl, rfl⟩
  rw [creation, hsql]

/-! ## Several tables -/

/-- The ways in which the creation of some tables goes: each is created, or the first that is not
ends it. -/
inductive Creates (dialect : Dialect) : List Schema → Except Halt Unit → Footprint → Prop
  | nil : Creates dialect [] (.ok ()) {}
  | made {schema : Schema} {rest : List Schema} {result : Except Halt Unit} {more : Footprint}
      (rows : List Row) : Creates dialect rest result more →
      Creates dialect (schema :: rest) result (creation dialect schema (.done rows) ++ more)
  | halted {schema : Schema} {rest : List Schema} {reply : Reply} {halt : Halt} :
      reply.result = .error halt →
      Creates dialect (schema :: rest) (.error halt) (creation dialect schema reply)

/-- By induction on the tables: a table is created before the ones after it, or none of these is. -/
theorem creates_forM (schemas : List Schema) :
    Leaves surroundings (schemas.forM createTable)
      (Creates surroundings.catalogue.dialect schemas) := by
  induction schemas with
  | nil => exact leaves_pure .nil
  | cons schema rest ih =>
    refine leaves_bind (leaves_createTable schema) ?_ ?_
    · rintro halt added ⟨reply, hresult, rfl⟩
      cases hreply : reply.result with
      | ok rows =>
        rw [hreply] at hresult
        cases hresult
      | error halt' =>
        rw [hreply] at hresult
        cases hresult
        exact .halted hreply
    · rintro _ added ⟨reply, hresult, rfl⟩
      cases reply with
      | done rows => exact leaves_mono ih fun result more hmore => .made rows hmore
      | refused | crashed => cases hresult

/-- What becomes of the tables of a catalogue: the statements are sent in their order, up to the
first that is not done, and what is recorded for each belongs to its reply. -/
structure Created (catalogue : Catalogue) (result : Except Halt Unit) (added : Footprint) :
    Prop where
  follows : Follows (catalogue.createStatements.map .execute) added.exchanges result
  events : added.events = (catalogue.schemas.zip added.exchanges).flatMap fun made =>
    creationEvents catalogue.dialect made.1 made.2.reply
  stops : ∀ halt, result = .error halt → ∃ before last, added.exchanges = before ++ [last] ∧
    (∀ exchange ∈ before, ∃ rows, exchange.reply = .done rows) ∧ last.reply.result = .error halt

namespace Creates

variable {schemas : List Schema} {result : Except Halt Unit} {added : Footprint}

theorem follows (h : Creates dialect schemas result added) :
    Follows (schemas.map fun schema => .execute (creationText dialect schema)) added.exchanges
      result := by
  induction h with
  | nil => exact ⟨List.prefix_refl _, fun _ _ => rfl⟩
  | made rows _ ih =>
    constructor
    · exact (List.prefix_cons_inj _).mpr ih.starts
    · exact fun a ha => congrArg _ (ih.ends a ha)
  | halted _ => exact ⟨(List.prefix_cons_inj _).mpr (List.nil_prefix), nofun⟩

theorem events (h : Creates dialect schemas result added) :
    added.events = (schemas.zip added.exchanges).flatMap fun made =>
      creationEvents dialect made.1 made.2.reply := by
  induction h with
  | nil => rfl
  | made rows _ ih => exact congrArg (_ ++ ·) ih
  | halted _ => simp [creation]

theorem stops (h : Creates dialect schemas result added) {halt : Halt}
    (hresult : result = .error halt) : ∃ before last, added.exchanges = before ++ [last] ∧
      (∀ exchange ∈ before, ∃ rows, exchange.reply = .done rows) ∧
        last.reply.result = .error halt := by
  induction h with
  | nil => cases hresult
  | made rows _ ih =>
    obtain ⟨before, last, hexchanges, hbefore, hlast⟩ := ih hresult
    refine ⟨_ :: before, last, congrArg (_ :: ·) hexchanges, ?_, hlast⟩
    exact List.forall_mem_cons.mpr ⟨⟨rows, rfl⟩, hbefore⟩
  | halted hreply =>
    cases hresult
    exact ⟨[], _, rfl, nofun, hreply⟩

end Creates

theorem created_createTables (surroundings : Surroundings) :
    Leaves surroundings createTables (Created surroundings.catalogue) := by
  refine leaves_read_bind (leaves_mono (creates_forM _) fun result added h => ?_)
  refine ⟨?_, h.events, fun halt hhalt => h.stops hhalt⟩
  rw [Catalogue.createStatements, List.map_map]
  exact h.follows

end RecordMapper.Session
