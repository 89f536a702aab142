import RecordMapper.Proofs.Record
import RecordMapper.Session

/-!
# Changes of records

* `Record.Change`, `Record.perform`: the changes of one cell, and one change after the other.
* `Slots`: a record as it lies in memory, its cells by position and apart from the layout.
* `Slots.edit`: a change in place. What it wrote before it fails stays written, and it breaks down
  at a position that is not there.
* `Slots.Changed`: what a change does to the slots when it succeeds.
* `Record.intact_of_changes`: whatever changes are tried, the slots keep the form of their schema, a
  change that fails leaves them as they were, and no position is missed.
-/

namespace RecordMapper

/-! ## Changes one after the other -/

namespace Record

/-- A change of one cell of a record. -/
inductive Change where
  | set (name : String) (cell : Cell Value)
  | read (name : String) (text : Option String)
  | link (key : String) (peer : Cell Record)
  | setKey (key : String)
  | withKey (key : Cell String)

def Change.apply : Change → Record → Except Fault Record
  | .set name cell, record => record.set name cell
  | .read name text, record => record.read name text
  | .link key peer, record => record.link key peer
  | .setKey key, record => record.setKey key
  | .withKey key, record => .ok (record.withKey key)

/-- Tries changes one after the other. One that fails does not stop those behind it. -/
def perform (record : Record) (changes : List Change) : Record :=
  changes.foldl (fun record change => (change.apply record).toOption.getD record) record

end Record

/-! ## Positions -/

/-- The first member that is looked for, with its position. -/
structure FirstAt {α : Type} (isOwner : α → Bool) (owners : List α) (owner : α) (position : Nat) :
    Prop where
  here : owners[position]? = some owner
  owns : isOwner owner = true
  first : ∀ i < position, ∀ other, owners[i]? = some other → isOwner other = false

namespace FirstAt

variable {α β : Type} {isOwner : α → Bool} {owners : List α} {owner : α} {position : Nat}

theorem lt_length (h : FirstAt isOwner owners owner position) : position < owners.length := by
  obtain ⟨hlt, -⟩ := List.getElem?_eq_some_iff.mp h.here
  exact hlt

theorem find?_eq (h : FirstAt isOwner owners owner position) :
    owners.find? isOwner = some owner := by
  obtain ⟨hlt, hhere⟩ := List.getElem?_eq_some_iff.mp h.here
  rw [List.find?_eq_some_iff_getElem]
  refine ⟨h.owns, position, hlt, hhere, fun i hi => ?_⟩
  rw [h.first i hi _ (List.getElem?_eq_getElem (by omega))]
  rfl

theorem unique (h : FirstAt isOwner owners owner position) {owner' : α} {position' : Nat}
    (h' : FirstAt isOwner owners owner' position') : owner = owner' ∧ position = position' := by
  have howner : owner = owner' := Option.some.inj (h.find?_eq.symm.trans h'.find?_eq)
  refine ⟨howner, Nat.le_antisymm ?_ ?_⟩
  · by_contra hlt
    have hearlier := h.first position' (by omega) owner' h'.here
    exact Bool.false_ne_true (hearlier.symm.trans h'.owns)
  · by_contra hlt
    have hearlier := h'.first position (by omega) owner h.here
    exact Bool.false_ne_true (hearlier.symm.trans h.owns)

theorem of_find?_zipIdx (h : owners.zipIdx.find? (isOwner ·.1) = some (owner, position)) :
    FirstAt isOwner owners owner position := by
  obtain ⟨howns, i, hi, hhere, hfirst⟩ := List.find?_eq_some_iff_getElem.mp h
  rw [List.getElem_zipIdx, Nat.zero_add] at hhere
  obtain ⟨rfl, rfl⟩ := Prod.mk.inj hhere
  rw [List.length_zipIdx] at hi
  refine ⟨List.getElem?_eq_getElem hi, howns, fun j hj other hother => ?_⟩
  obtain ⟨hlt, rfl⟩ := List.getElem?_eq_some_iff.mp hother
  have hbefore := hfirst j hj
  rwa [List.getElem_zipIdx, Bool.not_eq_true'] at hbefore

/-- The first owner that is looked for gets the content, at its position. -/
theorem map_snd_replaceFirst {entries : List (α × β)}
    (h : FirstAt isOwner (entries.map Prod.fst) owner position) (content : β) :
    (Record.replaceFirst isOwner content entries).map Prod.snd =
      (entries.map Prod.snd).set position content := by
  induction entries generalizing position with
  | nil => cases h.lt_length
  | cons entry rest ih =>
    obtain ⟨other, old⟩ := entry
    cases position with
    | zero =>
      obtain rfl : other = owner := Option.some.inj h.here
      rw [Record.replaceFirst, if_pos h.owns]
      rfl
    | succ position =>
      have hother : isOwner other = false := h.first 0 (Nat.succ_pos _) other rfl
      have hrest : FirstAt isOwner (rest.map Prod.fst) owner position :=
        ⟨h.here, h.owns, fun i hi => h.first (i + 1) (Nat.succ_lt_succ hi)⟩
      rw [Record.replaceFirst, if_neg (Bool.eq_false_iff.mp hother), List.map_cons, ih hrest]
      rfl

/-- The entry of the first owner that is looked for has its content at the same position. -/
theorem exists_entry {entries : List (α × β)}
    (h : FirstAt isOwner (entries.map Prod.fst) owner position) :
    ∃ content, (entries.map Prod.snd)[position]? = some content ∧
      entries.find? (isOwner ·.1) = some (owner, content) := by
  have hhere := h.here
  rw [List.getElem?_map] at hhere
  obtain ⟨⟨found, content⟩, hentry, rfl⟩ := Option.map_eq_some_iff.mp hhere
  refine ⟨content, by rw [List.getElem?_map, hentry]; rfl, ?_⟩
  have hfirst : FirstAt (fun entry : α × β => isOwner entry.1) entries (found, content) position :=
    ⟨hentry, h.owns, fun i hi other hother => h.first i hi other.1 (by
      rw [List.getElem?_map, hother]
      rfl)⟩
  exact hfirst.find?_eq

end FirstAt

/-! ## Records in memory -/

/-- The cells of a record, each found by its position. The layout is kept apart. -/
structure Slots where
  schema : Schema
  values : List (Cell Value)
  peers : List (Cell Record)
  key : Cell String

namespace Slots

/-- The slots of a record in which nothing is set. -/
def empty (schema : Schema) : Slots where
  schema
  values := List.replicate schema.columns.length .undefined
  peers := List.replicate schema.relations.length .undefined
  key := .undefined

def withValue (slots : Slots) (position : Nat) (cell : Cell Value) : Slots :=
  { slots with values := slots.values.set position cell }

def withPeer (slots : Slots) (position : Nat) (peer : Cell Record) : Slots :=
  { slots with peers := slots.peers.set position peer }

def withKey (slots : Slots) (key : Cell String) : Slots :=
  { slots with key := key }

/-- A computation on slots. What it leaves behind stays, however it ends. -/
abbrev Edit := ExceptT Halt (StateM Slots)

namespace Edit

variable {α β : Type}

def run (edit : Edit α) (slots : Slots) : Except Halt α × Slots :=
  StateT.run (ExceptT.run edit) slots

def fail (fault : Fault) : Edit α :=
  throw (.fault fault)

/-- Goes on with a result, or ends with its fault. -/
def check : Except Fault α → Edit α
  | .ok result => pure result
  | .error fault => fail fault

/-- The first member of a name, with its position. -/
def locate (isOwner : α → Bool) (owners : Slots → List α) (missing : Slots → Fault) :
    Edit (α × Nat) := do
  let slots ← get
  match (owners slots).zipIdx.find? (isOwner ·.1) with
  | some found => return found
  | none => fail (missing slots)

def column (name : String) : Edit (Column × Nat) :=
  locate (·.name == name) (·.schema.columns) (.unknownColumn ·.schema.table name)

def relation (key : String) : Edit (Relation × Nat) :=
  locate (·.key == key) (·.schema.relations) (.unknownRelation ·.schema.table key)

/-- What stands at a position, which has to be there. -/
def get (contents : Slots → List α) (position : Nat) : Edit α := do
  match (contents (← MonadState.get))[position]? with
  | some content => return content
  | none => throw .crash

/-- Replaces the content that belongs to a member by one that is made for it. The position of the
member has to be there. -/
def replace {β : Type} (place : Edit (α × Nat)) (make : α → Except Fault β)
    (contents : Slots → List β) (write : Slots → Nat → β → Slots) : Edit Unit := do
  let (owner, position) ← place
  let content ← check (make owner)
  let slots ← MonadState.get
  if position < (contents slots).length then set (write slots position content) else throw .crash

end Edit

/-! ## Changes in place -/

def cell (name : String) : Edit (Cell Value) := do
  let (_, position) ← Edit.column name
  Edit.get (·.values) position

def peer (key : String) : Edit (Cell Record) := do
  let (_, position) ← Edit.relation key
  Edit.get (·.peers) position

open Record (Change)

def edit : Change → Edit Unit
  | .set name cell => Edit.replace (Edit.column name) (·.checkCell cell) values withValue
  | .read name text => Edit.replace (Edit.column name) (·.read text) values withValue
  | .link key peer => Edit.replace (Edit.relation key) (·.checkPeer peer) peers withPeer
  | .setKey key =>
    if InstanceKey.isWellFormed key then modify (·.withKey (.present key))
    else Edit.fail .instanceKeyForm
  | .withKey key => modify (·.withKey key)

/-- What a change does when it succeeds: the cell of the first member of a name, at a position that
is there, gets content that fits. -/
inductive Changed (slots : Slots) : Change → Slots → Prop
  | set {name : String} {cell : Cell Value} {column : Column} {position : Nat} :
      FirstAt (·.name == name) slots.schema.columns column position →
        position < slots.values.length → FieldFits (column, cell) →
          Changed slots (.set name cell) (slots.withValue position cell)
  | read {name : String} {text : Option String} {cell : Cell Value} {column : Column}
      {position : Nat} :
      FirstAt (·.name == name) slots.schema.columns column position →
        position < slots.values.length → column.read text = .ok cell →
          Changed slots (.read name text) (slots.withValue position cell)
  | link {key : String} {cell : Cell Record} {relation : Relation} {position : Nat} :
      FirstAt (·.key == key) slots.schema.relations relation position →
        position < slots.peers.length →
          (∀ peer, cell = .present peer → peer.table = relation.targetTable) →
            Changed slots (.link key cell) (slots.withPeer position cell)
  | setKey {key : String} :
      InstanceKey.isWellFormed key → Changed slots (.setKey key) (slots.withKey (.present key))
  | withKey (key : Cell String) : Changed slots (.withKey key) (slots.withKey key)

/-! ## Runs in place -/

namespace Edit

variable {α β : Type} {slots after : Slots}

theorem run_bind (x : Edit α) (f : α → Edit β) :
    (x >>= f).run slots =
      match x.run slots with
      | (.ok a, after) => (f a).run after
      | (.error halt, after) => (.error halt, after) := by
  simp only [run, ExceptT.run_bind, StateT.run_bind]
  rcases StateT.run (ExceptT.run x) slots with ⟨result, after⟩
  cases result <;> rfl

theorem run_bind_of_ok {x : Edit α} {f : α → Edit β} {a : α} (h : x.run slots = (.ok a, after)) :
    (x >>= f).run slots = (f a).run after := by
  rw [run_bind, h]

theorem run_bind_of_error {x : Edit α} {f : α → Edit β} {halt : Halt}
    (h : x.run slots = (.error halt, after)) : (x >>= f).run slots = (.error halt, after) := by
  rw [run_bind, h]

/-- Either the first member that is looked for is found with its position, or there is none. -/
theorem run_locate (slots : Slots) (isOwner : α → Bool) (owners : Slots → List α)
    (missing : Slots → Fault) :
    (∃ owner position, FirstAt isOwner (owners slots) owner position ∧
      (locate isOwner owners missing).run slots = (.ok (owner, position), slots)) ∨
    ((owners slots).find? isOwner = none ∧
      (locate isOwner owners missing).run slots = (.error (.fault (missing slots)), slots)) := by
  have hrun : (locate isOwner owners missing).run slots =
      match (owners slots).zipIdx.find? (isOwner ·.1) with
      | some found => (.ok found, slots)
      | none => (.error (.fault (missing slots)), slots) := by
    change (match (owners slots).zipIdx.find? (isOwner ·.1) with
      | some found => return found
      | none => fail (missing slots) : Edit (α × Nat)).run slots = _
    cases (owners slots).zipIdx.find? (isOwner ·.1) <;> rfl
  cases hfound : (owners slots).zipIdx.find? (isOwner ·.1) with
  | some found =>
    refine .inl ⟨found.1, found.2, FirstAt.of_find?_zipIdx hfound, ?_⟩
    rw [hrun, hfound]
  | none =>
    refine .inr ⟨?_, by rw [hrun, hfound]⟩
    rw [List.find?_eq_none] at hfound ⊢
    intro owner howner
    obtain ⟨i, hi⟩ := List.getElem?_of_mem howner
    exact hfound (owner, i) (List.mk_mem_zipIdx_iff_getElem?.mpr hi)

theorem run_get {contents : Slots → List α} {position : Nat} {content : α}
    (h : (contents slots)[position]? = some content) :
    (Edit.get contents position).run slots = (.ok content, slots) := by
  change (match (contents slots)[position]? with
    | some content => return content
    | none => throw .crash : Edit α).run slots = _
  rw [h]
  rfl

section Replace

variable {place : Edit (α × Nat)} {make : α → Except Fault β} {contents : Slots → List β}
  {write : Slots → Nat → β → Slots} {owner : α} {position : Nat}

theorem run_replace_of_ok (hplace : place.run slots = (.ok (owner, position), slots)) {content : β}
    (hmake : make owner = .ok content) (hrange : position < (contents slots).length) :
    (replace place make contents write).run slots = (.ok (), write slots position content) := by
  have hcheck : (check (make owner)).run slots = (.ok content, slots) := by
    rw [hmake]
    rfl
  rw [replace, run_bind_of_ok hplace]
  dsimp only
  rw [run_bind_of_ok hcheck]
  change (if position < (contents slots).length then set (write slots position content)
    else throw .crash : Edit Unit).run slots = _
  rw [if_pos hrange]
  rfl

theorem run_replace_of_refused (hplace : place.run slots = (.ok (owner, position), slots))
    {fault : Fault} (hmake : make owner = .error fault) :
    (replace place make contents write).run slots = (.error (.fault fault), slots) := by
  have hcheck : (check (make owner)).run slots = (.error (.fault fault), slots) := by
    rw [hmake]
    rfl
  rw [replace, run_bind_of_ok hplace]
  dsimp only
  rw [run_bind_of_error hcheck]

theorem run_replace_of_missing {halt : Halt} (hplace : place.run slots = (.error halt, slots)) :
    (replace place make contents write).run slots = (.error halt, slots) := by
  rw [replace, run_bind_of_error hplace]

end Replace

end Edit

end Slots

/-! ## The slots of a record -/

namespace Record

/-- A record as it lies in memory. -/
def slots (record : Record) : Slots where
  schema := record.schema
  values := record.fields.map Prod.snd
  peers := record.links.map Prod.snd
  key := record.key

theorem slots_empty (schema : Schema) : (empty schema).slots = .empty schema := by
  simp [slots, empty, Record.schema, Slots.empty, Function.comp_def]

section Positions

variable {record : Record} {name : String} {position : Nat}

theorem length_values (record : Record) :
    record.slots.values.length = record.schema.columns.length := by
  simp [slots, Record.schema]

theorem length_peers (record : Record) :
    record.slots.peers.length = record.schema.relations.length := by
  simp [slots, Record.schema]

theorem slots_putCell {column : Column}
    (h : FirstAt (·.name == name) record.schema.columns column position) (cell : Cell Value) :
    (record.putCell name cell).slots = record.slots.withValue position cell := by
  have hvalues := h.map_snd_replaceFirst cell
  rw [slots, putCell, Slots.withValue, hvalues, Record.schema, map_fst_replaceFirst]
  rfl

theorem slots_putPeer {relation : Relation}
    (h : FirstAt (·.key == name) record.schema.relations relation position) (peer : Cell Record) :
    (record.putPeer name peer).slots = record.slots.withPeer position peer := by
  have hpeers := h.map_snd_replaceFirst peer
  rw [slots, putPeer, Slots.withPeer, hpeers, Record.schema, map_fst_replaceFirst]
  rfl

end Positions

/-- Either the first member that is looked for is found, at a position that is there, or there is
none. -/
inductive Located {α : Type} (record : Record) (isOwner : α → Bool) (owners : List α) (length : Nat)
    (required : Except Fault α) (place : Slots.Edit (α × Nat)) : Prop
  | found (owner : α) (position : Nat) :
      FirstAt isOwner owners owner position → position < length → required = .ok owner →
        place.run record.slots = (.ok (owner, position), record.slots) →
          Located record isOwner owners length required place
  | missing (fault : Fault) :
      owners.find? isOwner = none → required = .error fault →
        place.run record.slots = (.error (.fault fault), record.slots) →
          Located record isOwner owners length required place

theorem located_column (record : Record) (name : String) :
    record.Located (·.name == name) record.schema.columns record.slots.values.length
      (record.schema.requireColumn name) (Slots.Edit.column name) := by
  rcases Slots.Edit.run_locate record.slots (·.name == name) (·.schema.columns)
    (.unknownColumn ·.schema.table name) with ⟨column, position, hfirst, hrun⟩ | ⟨hnone, hrun⟩
  · have hrange : position < record.slots.values.length := by
      rw [length_values]
      exact hfirst.lt_length
    exact .found column position hfirst hrange (Schema.requireColumn_eq_ok.mpr hfirst.find?_eq) hrun
  · refine .missing _ hnone ?_ hrun
    change record.schema.column? name = none at hnone
    rw [Schema.requireColumn, hnone]
    rfl

theorem located_relation (record : Record) (key : String) :
    record.Located (·.key == key) record.schema.relations record.slots.peers.length
      (record.schema.requireRelation key) (Slots.Edit.relation key) := by
  rcases Slots.Edit.run_locate record.slots (·.key == key) (·.schema.relations)
    (.unknownRelation ·.schema.table key) with ⟨relation, position, hfirst, hrun⟩ | ⟨hnone, hrun⟩
  · have hrange : position < record.slots.peers.length := by
      rw [length_peers]
      exact hfirst.lt_length
    exact .found relation position hfirst hrange (Schema.requireRelation_eq_ok.mpr hfirst.find?_eq)
      hrun
  · refine .missing _ hnone ?_ hrun
    change record.schema.relation? key = none at hnone
    rw [Schema.requireRelation, hnone]
    rfl

/-! ## Changes of a record and of its slots -/

/-- A change goes in memory as it goes on the record: it does its work on one cell, or it fails, for
want of any work that it could do, and leaves everything as it was. -/
inductive Carried (record : Record) (change : Change) : Prop
  | done (record' : Record) :
      change.apply record = .ok record' →
        (Slots.edit change).run record.slots = (.ok (), record'.slots) →
          record.slots.Changed change record'.slots → Carried record change
  | refused (fault : Fault) :
      change.apply record = .error fault →
        (Slots.edit change).run record.slots = (.error (.fault fault), record.slots) →
          (∀ slots, ¬ record.slots.Changed change slots) → Carried record change

open Slots.Edit

/-- What holds of every change that replaces the content of a member. -/
theorem carried_of_located {α β : Type} {record : Record} {change : Change} {isOwner : α → Bool}
    {owners : List α} {required : Except Fault α} {place : Slots.Edit (α × Nat)}
    {make : α → Except Fault β} {contents : Slots → List β} {write : Slots → Nat → β → Slots}
    {put : β → Record}
    (hlocated : record.Located isOwner owners (contents record.slots).length required place)
    (happly : change.apply record = do return put (← make (← required)))
    (hedit : Slots.edit change = replace place make contents write)
    (hput : ∀ owner position content, FirstAt isOwner owners owner position →
      (put content).slots = write record.slots position content)
    (hchanged : ∀ slots, record.slots.Changed change slots ↔ ∃ owner position content,
      FirstAt isOwner owners owner position ∧ position < (contents record.slots).length ∧
        make owner = .ok content ∧ slots = write record.slots position content) :
    record.Carried change := by
  cases hlocated with
  | found owner position hfirst hrange hrequired hplace =>
    cases hmake : make owner with
    | ok content =>
      have hslots := hput owner position content hfirst
      refine .done (put content) ?_ ?_ ?_
      · rw [happly, hrequired]
        exact congrArg (· >>= fun content => pure (put content)) hmake
      · rw [hedit, hslots]
        exact run_replace_of_ok hplace hmake hrange
      · exact (hchanged _).mpr ⟨owner, position, content, hfirst, hrange, hmake, hslots⟩
    | error fault =>
      refine .refused fault ?_ ?_ ?_
      · rw [happly, hrequired]
        exact congrArg (· >>= fun content => pure (put content)) hmake
      · rw [hedit]
        exact run_replace_of_refused hplace hmake
      · intro slots hslots
        obtain ⟨owner', position', content, hfirst', -, hmake', -⟩ := (hchanged slots).mp hslots
        obtain ⟨rfl, rfl⟩ := hfirst.unique hfirst'
        cases hmake.symm.trans hmake'
  | missing fault hnone hrequired hplace =>
    refine .refused fault ?_ ?_ ?_
    · rw [happly, hrequired]
      rfl
    · rw [hedit]
      exact run_replace_of_missing hplace
    · intro slots hslots
      obtain ⟨owner, position, content, hfirst, -, -, -⟩ := (hchanged slots).mp hslots
      cases hnone.symm.trans hfirst.find?_eq

/-- Every change goes in memory as it goes on the record. -/
theorem carried (record : Record) (change : Change) : record.Carried change := by
  cases change with
  | set name cell =>
    refine carried_of_located (record.located_column name) rfl rfl
      (fun _ _ content hfirst => slots_putCell hfirst content) fun slots => ?_
    constructor
    · intro h
      cases h with
      | set hfirst hrange hfits =>
        exact ⟨_, _, cell, hfirst, hrange, Column.checkCell_eq_ok.mpr ⟨hfits, rfl⟩, rfl⟩
    · rintro ⟨column, position, content, hfirst, hrange, hcheck, rfl⟩
      obtain ⟨hfits, rfl⟩ := Column.checkCell_eq_ok.mp hcheck
      exact .set hfirst hrange hfits
  | read name text =>
    refine carried_of_located (record.located_column name) rfl rfl
      (fun _ _ content hfirst => slots_putCell hfirst content) fun slots => ?_
    constructor
    · intro h
      cases h with
      | read hfirst hrange hread => exact ⟨_, _, _, hfirst, hrange, hread, rfl⟩
    · rintro ⟨column, position, content, hfirst, hrange, hread, rfl⟩
      exact .read hfirst hrange hread
  | link key cell =>
    refine carried_of_located (record.located_relation key) rfl rfl
      (fun _ _ content hfirst => slots_putPeer hfirst content) fun slots => ?_
    constructor
    · intro h
      cases h with
      | link hfirst hrange htable =>
        exact ⟨_, _, cell, hfirst, hrange, Relation.checkPeer_eq_ok.mpr ⟨htable, rfl⟩, rfl⟩
    · rintro ⟨relation, position, content, hfirst, hrange, hcheck, rfl⟩
      obtain ⟨htable, rfl⟩ := Relation.checkPeer_eq_ok.mp hcheck
      exact .link hfirst hrange htable
  | setKey key =>
    by_cases hform : InstanceKey.isWellFormed key
    · refine .done (record.withKey (.present key)) (if_pos hform) ?_ (.setKey hform)
      rw [Slots.edit, if_pos hform]
      rfl
    · refine .refused .instanceKeyForm (if_neg hform) ?_ ?_
      · rw [Slots.edit, if_neg hform]
        rfl
      · intro slots h
        cases h with
        | setKey hform' => exact hform hform'
  | withKey key => exact .done (record.withKey key) rfl rfl (.withKey key)

/-! ## Reading in memory -/

theorem find?_entries_eq_none {α β : Type} {isOwner : α → Bool} {entries : List (α × β)}
    (h : (entries.map Prod.fst).find? isOwner = none) : entries.find? (isOwner ·.1) = none := by
  rw [List.find?_map] at h
  exact Option.map_eq_none_iff.mp h

/-- A cell is read where it is, and reading changes nothing. -/
theorem run_cell (record : Record) (name : String) :
    (Slots.cell name).run record.slots =
      ((record.cell name).mapError .fault, record.slots) := by
  cases record.located_column name with
  | found column position hfirst _ _ hplace =>
    obtain ⟨content, hcontent, hfield⟩ := hfirst.exists_entry
    rw [Slots.cell, run_bind_of_ok hplace, Record.cell, hfield]
    exact run_get hcontent
  | missing fault hnone hrequired hplace =>
    have hfield := find?_entries_eq_none hnone
    rw [Schema.requireColumn, Schema.column?, hnone] at hrequired
    cases hrequired
    rw [Slots.cell, run_bind_of_error hplace, Record.cell, hfield]
    rfl

theorem run_peer (record : Record) (key : String) :
    (Slots.peer key).run record.slots =
      ((record.peer key).mapError .fault, record.slots) := by
  cases record.located_relation key with
  | found relation position hfirst _ _ hplace =>
    obtain ⟨content, hcontent, hlink⟩ := hfirst.exists_entry
    rw [Slots.peer, run_bind_of_ok hplace, Record.peer, hlink]
    exact run_get hcontent
  | missing fault hnone hrequired hplace =>
    have hlink := find?_entries_eq_none hnone
    rw [Schema.requireRelation, Schema.relation?, hnone] at hrequired
    cases hrequired
    rw [Slots.peer, run_bind_of_error hplace, Record.peer, hlink]
    rfl

end Record

/-! ## Whole runs -/

/-- Slots of the form of a schema: a cell for each column and each relation, whose contents fit. -/
structure Slots.Intact (schema : Schema) (slots : Slots) : Prop where
  schema_eq : slots.schema = schema
  length_values : slots.values.length = schema.columns.length
  length_peers : slots.peers.length = schema.relations.length
  fits : ∀ (position : Nat) (column : Column) (value : Value),
    schema.columns[position]? = some column → slots.values[position]? = some (.present value) →
      column.Fits value
  linked : ∀ (position : Nat) (relation : Relation) (peer : Record),
    schema.relations[position]? = some relation → slots.peers[position]? = some (.present peer) →
      peer.table = relation.targetTable

/-- Tries changes in place one after the other. -/
def Slots.perform (changes : List Record.Change) (slots : Slots) : Slots :=
  changes.foldl (fun slots change => ((edit change).run slots).2) slots

namespace Record

theorem Sound.apply {record record' : Record} (h : record.Sound) {change : Change}
    (happly : change.apply record = .ok record') : record'.Sound := by
  cases change with
  | set name cell => exact h.set happly
  | read name text => exact h.read happly
  | link key peer => exact h.link happly
  | setKey key => exact h.setKey happly
  | withKey key =>
    cases happly
    exact h.withKey key

theorem Sound.intact {record : Record} (h : record.Sound) : record.slots.Intact record.schema where
  schema_eq := rfl
  length_values := record.length_values
  length_peers := record.length_peers
  fits := by
    intro position column value hcolumn hvalue
    rw [Record.schema, List.getElem?_map] at hcolumn
    obtain ⟨field, hfield, rfl⟩ := Option.map_eq_some_iff.mp hcolumn
    rw [slots, List.getElem?_map, hfield] at hvalue
    exact h.fits field (List.mem_of_getElem? hfield) value (Option.some.inj hvalue)
  linked := by
    intro position relation peer hrelation hpeer
    rw [Record.schema, List.getElem?_map] at hrelation
    obtain ⟨link, hlink, rfl⟩ := Option.map_eq_some_iff.mp hrelation
    rw [slots, List.getElem?_map, hlink] at hpeer
    exact h.linked link (List.mem_of_getElem? hlink) peer (Option.some.inj hpeer)

theorem schema_apply {record record' : Record} {change : Change}
    (h : change.apply record = .ok record') : record'.schema = record.schema := by
  cases change with
  | set name cell =>
    obtain ⟨column, -, -, rfl⟩ := set_eq_ok.mp h
    rw [putCell, Record.schema, map_fst_replaceFirst, Record.schema]
  | read name text =>
    obtain ⟨column, cell, -, -, rfl⟩ := read_eq_ok.mp h
    rw [putCell, Record.schema, map_fst_replaceFirst, Record.schema]
  | link key peer =>
    obtain ⟨relation, -, -, rfl⟩ := link_eq_ok.mp h
    rw [putPeer, Record.schema, map_fst_replaceFirst, Record.schema]
  | setKey key =>
    obtain ⟨-, rfl⟩ := setKey_eq_ok.mp h
    rfl
  | withKey key =>
    cases h
    rfl

/-- What a run of changes keeps, from what one change keeps. -/
theorem Sound.perform {record : Record} (h : record.Sound) (changes : List Change) :
    (record.perform changes).Sound ∧ (record.perform changes).schema = record.schema ∧
      Slots.perform changes record.slots = (record.perform changes).slots := by
  induction changes generalizing record with
  | nil => exact ⟨h, rfl, rfl⟩
  | cons change changes ih =>
    rw [Record.perform, List.foldl_cons, Slots.perform, List.foldl_cons]
    cases record.carried change with
    | done record' happly hrun _ =>
      obtain ⟨hsound, hschema, hslots⟩ := ih (h.apply happly)
      rw [happly, hrun]
      exact ⟨hsound, hschema.trans (schema_apply happly), hslots⟩
    | refused fault happly hrun _ =>
      rw [happly, hrun]
      exact ih h

/-- Whatever changes are tried on an empty record, of whatever schema, it lies in memory as the
schema asks: a cell for each column and each relation, whose contents fit. Each further change
either does its work on one cell or fails and leaves everything as it was, and what is read is at a
position that is there. -/
theorem intact_of_changes (schema : Schema) (changes : List Change) :
    let record := (empty schema).perform changes
    Slots.perform changes (.empty schema) = record.slots ∧ record.slots.Intact schema ∧
      (∀ change, record.Carried change) ∧
      (∀ name, (Slots.cell name).run record.slots =
        ((record.cell name).mapError .fault, record.slots)) ∧
      ∀ key, (Slots.peer key).run record.slots =
        ((record.peer key).mapError .fault, record.slots) := by
  obtain ⟨hsound, hschema, hslots⟩ := (Sound.empty schema).perform changes
  have hintact := hsound.intact
  rw [hschema, schema_empty] at hintact
  rw [slots_empty] at hslots
  exact ⟨hslots, hintact, carried _, run_cell _, run_peer _⟩

end Record

end RecordMapper
