import Mathlib.Data.List.Perm.Basic
import NodeNexus.Config.Export
import NodeNexus.Config.Preview

/-!
# Export and import

When the import of an export into an empty store gives the exported
configuration again.

* `Came` says that a row was made of what was exported of another one;
  `trip_of_portable` and `came_of_trip` are the way of the rows of one kind.
* `PortableNode`, `PortableCommand`, `PortableScript` — the rows that come back as
  they were.
* `round_trip_iff` — a configuration is reproduced exactly when all its rows are
  of that kind and no table is larger than a batch.
-/

namespace NodeNexus
namespace Config

open Content Node

/-! ## The way of one kind -/

section OneKind

variable {α β ρ : Type} {id : ρ → Uuid} {name : ρ → String} {k : Kind α id name}
  {entry : ρ → Except Failure β} {dto : β → α}

/-- A row was made, under an id from `next` on, of what was exported of another
one. -/
def Came (k : Kind α id name) (entry : ρ → Except Failure β) (dto : β → α) (next : Uuid)
    (old new : ρ) : Prop :=
  ∃ b, entry old = .ok b ∧ MadeOf k next (dto b) new

/-- A relation between the rows of two tables, whatever their order. -/
def SameRows (Same : ρ → ρ → Prop) (old new : List ρ) : Prop :=
  ∃ rows, rows.Perm new ∧ List.Forall₂ Same old rows

theorem SameRows.exists_left {Same : ρ → ρ → Prop} {old new : List ρ} (h : SameRows Same old new)
    {r : ρ} (hr : r ∈ old) : ∃ r' ∈ new, Same r r' := by
  obtain ⟨rows, hperm, hsame⟩ := h
  obtain ⟨r', hr', hrr'⟩ := exists_of_forall₂_left hsame hr
  exact ⟨r', hperm.mem_iff.1 hr', hrr'⟩

theorem SameRows.imp {R S : ρ → ρ → Prop} {old new : List ρ} (h : SameRows R old new)
    (hRS : ∀ r ∈ old, ∀ r' ∈ new, R r r' → S r r') : SameRows S old new := by
  obtain ⟨rows, hperm, hsame⟩ := h
  refine ⟨rows, hperm, List.forall₂_iff_get.2 ⟨hsame.length_eq, fun i h₁ h₂ => ?_⟩⟩
  exact hRS _ (List.get_mem ..) _ (hperm.mem_iff.1 (List.get_mem ..)) (hsame.get h₁ h₂)

/-- The rows may be listed in another order. -/
theorem SameRows.of_perm {Same : ρ → ρ → Prop} {old old' new : List ρ} (hold : old'.Perm old)
    (h : List.Forall₂ Same old new) : SameRows Same old' new := by
  obtain ⟨rows, hsame, hperm⟩ := List.perm_comp_forall₂ hold h
  exact ⟨rows, hperm, hsame⟩

/-- Entries with different names are all taken into an empty table. -/
theorem notSkipped_nil (entryName : α → String) {as : List α} (h : (as.map entryName).Nodup) :
    notSkipped entryName [] as = as := by
  have hfresh : fresh entryName [] as = as := List.filter_eq_self.2 fun a _ => by simp
  have hall : notSkipped entryName [] as = fresh entryName [] as :=
    (notSkipped_eq_fresh entryName (by rwa [hfresh])).1
  rw [hall, hfresh]

variable {batchSize : Nat} {t : NamedTable id name} {orders : Nat → List ρ}

/-- No names are read in an empty table. -/
theorem readNames_empty (hb : 1 ≤ batchSize) (ht : t.rows = []) (horders : OrdersOf t.rows orders)
    (as : List α) : readNames as name batchSize orders = [] := by
  by_cases ha : as = []
  · rw [ha]
    rfl
  · refine List.eq_nil_iff_forall_not_mem.2 fun n hn => ?_
    obtain ⟨r, hr, -⟩ := NamedTable.mem_names.1 (readNames_subset hb horders ha hn)
    rw [ht] at hr
    cases hr

/-- What is known of one kind when its rows are exported and the entries imported
into an empty table. -/
structure Trip (k : Kind α id name) (entry : ρ → Except Failure β) (dto : β → α)
    (t t' : NamedTable id name) (read : List ρ) (bs : List β) : Prop where
  exported : read.mapM entry = .ok bs
  imported : ∃ created errors, k.importRows t [] (bs.map dto) = .ok (t', created, errors)

variable {s t' : NamedTable id name} {read : List ρ} {bs : List β}

/-- The rows that an import makes have names of entries. -/
theorem Trip.name_mem (hk : k.Lawful)
    (hname : ∀ r b, entry r = .ok b → k.entryName (dto b) = name r) (ht : t.rows = [])
    (h : Trip k entry dto t t' read bs) {r' : ρ} (hr' : r' ∈ t'.rows) :
    ∃ r ∈ read, name r = name r' := by
  obtain ⟨created, errors, himport⟩ := h.imported
  obtain ⟨⟨rows, hmade, hrows⟩, -⟩ := Kind.importRows_eq_ok himport
  rw [ht, List.nil_append] at hrows
  rw [hrows] at hr'
  obtain ⟨a, ha, i, -, hrow⟩ := exists_of_forall₂_right hmade hr'
  have hmem : a ∈ bs.map dto :=
    List.mem_of_mem_filter ((notSkipped_sublist k.entryName (List.Subset.refl _) _).subset ha)
  obtain ⟨b, hb, rfl⟩ := List.mem_map.1 hmem
  obtain ⟨r, hr, hrb⟩ := mem_of_mapM h.exported hb
  exact ⟨r, hr, by rw [hk.make_name hrow, hname r b hrb]⟩

/-- The names of the entries of different rows are different. -/
theorem names_of_exported (hname : ∀ r b, entry r = .ok b → k.entryName (dto b) = name r)
    (h : read.mapM entry = .ok bs) : (bs.map dto).map k.entryName = read.map name := by
  rw [mapM_eq_ok_iff] at h
  induction h with
  | nil => rfl
  | cons hrb _ ih => rw [List.map_cons, List.map_cons, List.map_cons, ih, hname _ _ hrb]

/-- **After the way of all rows** each one has one that was made of it. -/
theorem Trip.came (hname : ∀ r b, entry r = .ok b → k.entryName (dto b) = name r)
    (ht : t.rows = []) (hread : read.Perm s.rows) (h : Trip k entry dto t t' read bs) :
    SameRows (Came k entry dto t.nextId) s.rows t'.rows := by
  obtain ⟨created, errors, himport⟩ := h.imported
  have hnodup : ((bs.map dto).map k.entryName).Nodup := by
    rw [names_of_exported hname h.exported]
    exact (hread.map name).nodup_iff.2 s.names_nodup
  obtain ⟨⟨rows, hmade, hrows⟩, -⟩ := Kind.importRows_eq_ok himport
  rw [notSkipped_nil k.entryName hnodup, List.forall₂_map_left_iff] at hmade
  rw [ht, List.nil_append] at hrows
  rw [hrows]
  apply SameRows.of_perm hread.symm
  have hexported := mapM_eq_ok_iff.1 h.exported
  clear himport hnodup hread hrows h
  induction hexported generalizing rows with
  | nil =>
      cases hmade
      exact .nil
  | cons hrb _ ih =>
      cases hmade with
      | cons hrow hrest => exact .cons ⟨_, hrb, hrow⟩ (ih _ hrest)

/-- **When the rows of a kind find their way**: each is exported, and what is
exported of it fits its columns. -/
theorem exists_trip (hk : k.Lawful)
    (hname : ∀ r b, entry r = .ok b → k.entryName (dto b) = name r) (ht : t.rows = [])
    (hread : read.Perm s.rows)
    (hrows : ∀ r ∈ s.rows, ∃ b, entry r = .ok b ∧ Returns (k.make 0 (dto b))) :
    ∃ t' bs, Trip k entry dto t t' read bs := by
  obtain ⟨bs, hbs⟩ : Returns (read.mapM entry) := returns_mapM.2 fun r hr =>
    let ⟨b, hb, _⟩ := hrows r (hread.mem_iff.1 hr)
    ⟨b, hb⟩
  have hnodup : ((bs.map dto).map k.entryName).Nodup := by
    rw [names_of_exported hname hbs]
    exact (hread.map name).nodup_iff.2 s.names_nodup
  have himport : Returns (k.importRows t [] (bs.map dto)) := by
    apply Kind.returns_importRows hk
    · intro a _ hmem
      obtain ⟨r, hr, -⟩ := NamedTable.mem_names.1 hmem
      rw [ht] at hr
      cases hr
    · rw [notSkipped_nil k.entryName hnodup]
      intro a ha
      obtain ⟨b, hb, rfl⟩ := List.mem_map.1 ha
      obtain ⟨r, hr, hrb⟩ := mem_of_mapM hbs hb
      obtain ⟨b', hrb', hfit⟩ := hrows r (hread.mem_iff.1 hr)
      rw [hrb, Except.ok.injEq] at hrb'
      rw [hrb']
      exact hfit
  obtain ⟨⟨t', created, errors⟩, himport⟩ := himport
  exact ⟨t', bs, hbs, created, errors, himport⟩

/-- A row that came of another one keeps what the two have in common with it. -/
theorem same_of_came (hk : k.Lawful)
    (hname : ∀ r b, entry r = .ok b → k.entryName (dto b) = name r) {Same : ρ → ρ → Prop}
    (hsameName : ∀ r r', Same r r' → name r = name r') {next : Uuid}
    (hcame : SameRows (Came k entry dto next) s.rows t'.rows)
    (hsame : SameRows Same s.rows t'.rows) {r : ρ} (hr : r ∈ s.rows) :
    ∃ r' ∈ t'.rows, Came k entry dto next r r' ∧ Same r r' := by
  obtain ⟨r', hr', hrr'⟩ := hcame.exists_left hr
  obtain ⟨r'', hr'', hrr''⟩ := hsame.exists_left hr
  obtain ⟨b, hb, i, hi, hrow⟩ := hrr'
  have hnames : name r' = name r'' := by
    rw [hk.make_name hrow, hname r b hb, hsameName r r'' hrr'']
  have heq : r' = r'' := t'.eq_of_name_eq hr' hr'' hnames
  rw [heq] at hrow
  exact ⟨r'', hr'', ⟨b, hb, i, hi, hrow⟩, hrr''⟩

/-- A table that is larger than a batch is not reproduced for all orders. -/
theorem length_le_of_trips (hk : k.Lawful)
    (hname : ∀ r b, entry r = .ok b → k.entryName (dto b) = name r) {Same : ρ → ρ → Prop}
    (hsameName : ∀ r r', Same r r' → name r = name r') (hb : 1 ≤ batchSize) (ht : t.rows = [])
    (h : ∀ orders, OrdersOf s.rows orders → ∃ t' bs,
      Trip k entry dto t t' (load cut batchSize orders) bs ∧ SameRows Same s.rows t'.rows) :
    s.rows.length ≤ batchSize := by
  by_contra hlarge
  obtain ⟨r, hr⟩ := List.exists_mem_of_length_pos (l := s.rows) (by omega)
  obtain ⟨orders, horders, hmiss⟩ :=
    exists_orders_not_mem hb s.rows_nodup hr (Nat.lt_of_not_le hlarge)
  obtain ⟨t', bs, htrip, hsame⟩ := h orders horders
  obtain ⟨r', hr', hrr'⟩ := hsame.exists_left hr
  obtain ⟨x, hx, hxname⟩ := htrip.name_mem hk hname ht hr'
  have hload := loadAll_eq_load hb horders
  have hxs : x ∈ s.rows := loadFrom_subset horders (List.nil_subset _) hload hx
  have heq : x = r := s.eq_of_name_eq hxs hr (hxname.trans (hsameName r r' hrr').symm)
  rw [heq] at hx
  exact hmiss _ _ hload hx

/-- A table that fits into a batch is read completely. -/
theorem load_perm (hb : 1 ≤ batchSize) (horders : OrdersOf s.rows orders)
    (hle : s.rows.length ≤ batchSize) : (load cut batchSize orders).Perm s.rows := by
  have hload := loadAll_eq_load hb horders
  rw [loadAll_of_length_le hb horders hle (Nat.lt_succ_self _)] at hload
  rw [← Option.some.inj hload]
  exact horders 0

end OneKind

/-- The texts of an array in which none is missing. -/
theorem reduceOption_map_some (ts : List String) : (ts.map some).reduceOption = ts := by
  unfold List.reduceOption
  rw [List.filterMap_map]
  exact List.filterMap_some

/-! ## Rows that come back as they were -/

/-- Two nodes agree, up to their secrets. -/
structure SameNode (r r' : NodeRow) : Prop where
  name : r'.name = r.name
  host : r'.host = r.host
  port : r'.port = r.port
  connectionType : r'.connectionType = r.connectionType
  username : r'.username = r.username
  dockerHost : r'.dockerHost = r.dockerHost
  hasDocker : r'.hasDocker = r.hasDocker
  tags : r'.tags.getD [] = r.tags.getD []
  description : r'.description = r.description

/-- Two commands agree in all that their views show but the id. -/
def SameCommand (r r' : CommandRow) : Prop :=
  ∃ v v', commandToView r = .ok v ∧ commandToView r' = .ok v' ∧ v' = { v with id := v'.id }

/-- The command that an id means in the new store: the one with the name that the
command has in the old store. -/
def target (s s' : ConfigStore) (i : Uuid) : Uuid :=
  match s.commands.rows.find? fun c => decide (c.id = i) with
  | none => i
  | some c => match s'.commands.rows.find? fun c' => decide (c'.name = c.name) with
    | none => i
    | some c' => c'.id

/-- A step that refers to the command in the new store. -/
def retarget (s s' : ConfigStore) (step : ScriptStepDTO) : ScriptStepDTO :=
  if step.type = .command then { step with commandId := step.commandId.map (target s s') }
  else step

/-- Two scripts agree in all that their views show but the id, and their command
steps refer to commands of one name. -/
def SameScript (fmt : Formats) (s s' : ConfigStore) (r r' : ScriptRow) : Prop :=
  ∃ v v', scriptToView fmt r = .ok v ∧ scriptToView fmt r' = .ok v' ∧
    v' = { v with id := v'.id, steps := v.steps.map (retarget s s') }

/-- A store has the rows of another one again. -/
structure Reproduces (fmt : Formats) (s s' : ConfigStore) : Prop where
  nodes : SameRows SameNode s.nodes.rows s'.nodes.rows
  commands : SameRows SameCommand s.commands.rows s'.commands.rows
  scripts : SameRows (SameScript fmt s s') s.scripts.rows s'.scripts.rows

section Rows

variable {env : ExportEnv}

/-! ### Nodes -/

/-- The payload entry of a node. -/
def nodeDto (row : NodeRow) : NodeConfigDTO where
  name := row.name
  host := row.host
  port := row.port
  connectionType := row.connectionType
  dockerHost := row.dockerHost
  hasDocker := row.hasDocker
  username := row.username
  tags := (row.tags.getD []).filterMap fun tag => tag

/-- A node that comes back as it was. -/
structure PortableNode (env : ExportEnv) (row : NodeRow) : Prop where
  name : safeName row.name = true
  docker : dockerFields env.uni env.isDecimal row.dockerHost row.hasDocker = true
  tags : ∀ tag ∈ row.tags.getD [], tag.isSome = true
  /-- A description is not exported. -/
  description : row.description = none
  fits : Returns (bindNode env.db env.now 0 (nodeDto row))

theorem exportNode_dto {row : NodeRow} {data : NodeExport env.uni env.isDecimal}
    (h : exportNode env.uni env.isDecimal row = .ok data) : data.dto = nodeDto row := by
  obtain ⟨htags, hname, hhost, hport, htype, huser, hdocker, hhas⟩ := exportNode_eq_ok h
  unfold NodeExport.dto nodeDto
  rw [hname, hhost, hport, htype, huser, hdocker, hhas, htags, List.filterMap_map]
  congr 1
  exact List.filterMap_some.symm

theorem PortableNode.exported {row : NodeRow} (h : PortableNode env row) :
    ∃ data, exportNode env.uni env.isDecimal row = .ok data ∧
      Returns ((nodeKind env.db env.now).make 0 data.dto) := by
  obtain ⟨data, hdata⟩ := returns_exportNode.2 ⟨h.tags, h.name, h.docker⟩
  refine ⟨data, hdata, ?_⟩
  rw [exportNode_dto hdata]
  exact h.fits

/-- What came of a node agrees with it but for the description. -/
theorem sameNode_of_came (hdb : env.db.Lawful) (hback : env.db.ReadsBack) {next : Uuid}
    {row row' : NodeRow} (h : Came (nodeKind env.db env.now) (exportNode env.uni env.isDecimal)
      NodeExport.dto next row row') (hdescription : row.description = none) : SameNode row row' := by
  obtain ⟨data, hdata, i, -, hrow⟩ := h
  obtain ⟨-, hbound⟩ := bindNode_eq_ok hrow
  obtain ⟨htags, hname, hhost, hport, htype, huser, hdocker, hhas⟩ := exportNode_eq_ok hdata
  exact
    { name := (bindName_eq hdb hbound.name).trans hname
      host := (bindName_eq hdb hbound.host).trans hhost
      port := (bindInteger_eq hbound.port).trans hport
      connectionType := hbound.connectionType.trans htype
      username := (bindOptionalName_eq hdb hbound.username).trans huser
      dockerHost := (bindOptionalName_eq hdb hbound.dockerHost).trans hdocker
      hasDocker := hbound.hasDocker.trans hhas
      tags := by
        rw [bindTags_eq hback hbound.tags, htags]
        rfl
      description := hbound.description.trans hdescription.symm }

/-- A node whose copy agrees with it is portable. -/
theorem portableNode_of_same {next : Uuid} {row row' : NodeRow}
    (h : Came (nodeKind env.db env.now) (exportNode env.uni env.isDecimal) NodeExport.dto next row
      row') (hsame : SameNode row row') : PortableNode env row := by
  obtain ⟨data, hdata, i, -, hrow⟩ := h
  obtain ⟨htags, hname, hdocker⟩ := returns_exportNode.1 ⟨data, hdata⟩
  obtain ⟨-, hbound⟩ := bindNode_eq_ok hrow
  refine ⟨hname, hdocker, htags, hsame.description.symm.trans hbound.description, ?_⟩
  rw [← exportNode_dto hdata]
  exact ⟨_, bindNode_any hrow 0⟩

/-! ### Commands -/

/-- The values of a command that is made again as it is viewed. -/
def commandAgain (view : CommandView) : Values CommandBody where
  name := view.name
  description := optionalStr view.description
  body := ⟨view.command, storedParameters view.parameters⟩
  tags := some (view.tags.reduceOption.map .str)
  timeout := defaultTimeout

/-- A command that comes back as it was. -/
structure PortableCommand (env : ExportEnv) (row : CommandRow) : Prop where
  /-- The view and the export read it. -/
  readable : ReadableCommand row
  /-- A timeout is not exported. -/
  timeout : row.timeout = defaultTimeout
  fits : ∀ view, commandToView row = .ok view →
    Returns (bindRow commandModel env.db 0 none (commandAgain view))

/-- What is exported of a command are the values of its view. -/
theorem commandAgain_of_export (hfmt : env.fmt.Lawful) {row : CommandRow} {view : CommandView}
    {data : CommandExport} (hview : commandToView row = .ok view)
    (hdata : exportCommand env.fmt row = .ok data) : commandAgain view = data.values := by
  obtain ⟨hviewEq, -⟩ := view_of_exportCommand hfmt hview hdata
  rw [hviewEq]
  unfold commandAgain CommandExport.values
  rw [reduceOption_map_some]

theorem PortableCommand.exported (hfmt : env.fmt.Lawful) {row : CommandRow}
    (h : PortableCommand env row) : ∃ data, exportCommand env.fmt row = .ok data ∧
      Returns ((commandKind env.db).make 0 (commandDto data)) := by
  obtain ⟨⟨view, hview⟩, data, hdata⟩ := (readableCommand_iff hfmt).1 h.readable
  refine ⟨data, hdata, ?_⟩
  show Returns (bindRow commandModel env.db 0 none (commandDto data).values)
  rw [commandDto_values, ← commandAgain_of_export hfmt hview hdata]
  exact h.fits view hview

/-- The timeout of a row that an import makes. -/
theorem timeout_of_bound {Body : Type} {model : Model Body} {db : Columns} {v : Values Body}
    {row : Row Body} (h : Bound model db v row) (hv : v.timeout = defaultTimeout) :
    row.timeout = defaultTimeout := by
  have htimeout := h.timeout
  unfold bindTimeout at htimeout
  split at htimeout
  · rw [← hv]
    exact (Except.ok.inj htimeout).symm
  · cases htimeout

/-- The view of what came of a command. -/
theorem view_of_came_command (hdb : env.db.Lawful) (hback : env.db.ReadsBack) {next : Uuid}
    {row' : CommandRow} {data : CommandExport}
    (h : MadeOf (commandKind env.db) next (commandDto data) row') :
    commandToView row' = .ok ⟨row'.id, data.name, data.description, data.command,
      (data.parameters.getD []).map (·.toCommandParameterDTO), data.tags.map some,
      defaultTimeout⟩ := by
  obtain ⟨i, -, hrow⟩ := h
  obtain ⟨-, -, hbound⟩ := bindRow_eq_ok hrow
  rw [commandDto_values] at hbound
  have hbody := hbound.body
  simp only [commandModel, bind_eq_ok, Except.ok.injEq] at hbody
  obtain ⟨command, hcommand, parameters, hparameters, hbody⟩ := hbody
  have hstored : row'.body.parameters =
      storedParameters ((data.parameters.getD []).map (·.toCommandParameterDTO)) := by
    rw [← hbody]
    exact hdb.json_eq _ _ hparameters
  have htext : row'.body.command = data.command := by
    rw [← hbody]
    exact hdb.text_eq _ _ hcommand
  have htags : row'.tags = some (data.tags.map some) := bindTags_eq hback hbound.tags
  have hdescription : row'.description = data.description :=
    hback.textOrNull _ _ hbound.description
  rw [commandToView_of_stored hstored, hbound.name_eq hdb, hdescription, htext, htags,
    timeout_of_bound hbound rfl]
  rfl

theorem PortableCommand.same (hdb : env.db.Lawful) (hback : env.db.ReadsBack)
    (hfmt : env.fmt.Lawful) {next : Uuid} {row row' : CommandRow} (h : PortableCommand env row)
    (hcame : Came (commandKind env.db) (exportCommand env.fmt) commandDto next row row') :
    SameCommand row row' := by
  obtain ⟨data, hdata, hmade⟩ := hcame
  obtain ⟨view, hview⟩ := ((readableCommand_iff hfmt).1 h.readable).1
  obtain ⟨hviewEq, -⟩ := view_of_exportCommand hfmt hview hdata
  refine ⟨view, _, hview, view_of_came_command hdb hback hmade, ?_⟩
  rw [hviewEq, h.timeout]

theorem portableCommand_of_same (hdb : env.db.Lawful) (hback : env.db.ReadsBack)
    (hfmt : env.fmt.Lawful) {next : Uuid} {row row' : CommandRow}
    (hcame : Came (commandKind env.db) (exportCommand env.fmt) commandDto next row row')
    (hsame : SameCommand row row') : PortableCommand env row := by
  obtain ⟨data, hdata, hmade⟩ := hcame
  obtain ⟨view, view', hview, hview', heq⟩ := hsame
  rw [view_of_came_command hdb hback hmade, Except.ok.injEq] at hview'
  obtain ⟨hviewEq, -⟩ := view_of_exportCommand hfmt hview hdata
  refine ⟨(readableCommand_iff hfmt).2 ⟨⟨_, hview⟩, ⟨_, hdata⟩⟩, ?_, fun view₁ hview₁ => ?_⟩
  · have htimeout : view'.timeout = view.timeout := by rw [heq]
    rw [← hview', hviewEq] at htimeout
    exact htimeout.symm
  · obtain ⟨i, -, hrow⟩ := hmade
    rw [commandAgain_of_export hfmt hview₁ hdata, ← commandDto_values]
    exact ⟨_, bindRow_any hrow 0⟩

theorem name_of_commandToView {row : CommandRow} {view : CommandView}
    (h : commandToView row = .ok view) : view.name = row.name := by
  simp only [commandToView, bind_eq_ok] at h
  obtain ⟨items, -, ps, -, h⟩ := h
  cases h
  rfl

theorem name_of_scriptToView {fmt : Formats} {row : ScriptRow} {view : ScriptView}
    (h : scriptToView fmt row = .ok view) : view.name = row.name := by
  simp only [scriptToView, bind_eq_ok] at h
  obtain ⟨items, -, steps, -, h⟩ := h
  cases h
  rfl

/-! ### Scripts -/

/-- The values of a script that is made again as it is viewed. -/
def scriptAgain (fmt : Formats) (view : ScriptView) : Values ScriptBody where
  name := view.name
  description := optionalStr view.description
  body := ⟨storedSteps fmt view.steps⟩
  tags := some (view.tags.reduceOption.map .str)
  timeout := defaultTimeout

/-- A row of `scripts` that its view and its export read. -/
structure ExportedScript (fmt : Formats) (row : ScriptRow) : Prop where
  name : safeName row.name = true
  tags : ∀ tag ∈ row.tags.getD [], tag.isSome = true
  /-- The gateway and the schema of steps read each step. -/
  steps : ∃ items, iterate row.body.steps = .ok items ∧
    ∀ x ∈ items, Returns (stepFromDict fmt x) ∧ Returns (ScriptStep.ofJson fmt x)

/-- A script that comes back as it was. -/
structure PortableScript (env : ExportEnv) (s : ConfigStore) (row : ScriptRow) : Prop where
  readable : ExportedScript env.fmt row
  /-- A timeout is not exported. -/
  timeout : row.timeout = defaultTimeout
  fits : ∀ view, scriptToView env.fmt row = .ok view →
    Returns (bindRow scriptModel env.db 0 none (scriptAgain env.fmt view))
  /-- No command step refers to a command: the ids of the commands are not those of
  the imported ones. -/
  detached : ∀ view, scriptToView env.fmt row = .ok view → ∀ step ∈ view.steps,
    step.type = .command → ∀ i ∈ step.commandId, ∀ c ∈ s.commands.rows, c.id ≠ i

theorem exportedScript_iff {fmt : Formats} {row : ScriptRow} : ExportedScript fmt row ↔
    Returns (scriptToView fmt row) ∧ Returns (exportScript fmt row) := by
  constructor
  · rintro ⟨hname, htags, items, hitems, hsteps⟩
    obtain ⟨steps, hread⟩ := returns_mapM.2 fun x hx => (hsteps x hx).1
    have hview : Returns (scriptToView fmt row) := by
      unfold scriptToView
      exact ⟨_, bind_eq_ok.2 ⟨items, hitems, bind_eq_ok.2 ⟨steps, hread, rfl⟩⟩⟩
    refine ⟨hview, returns_exportScript.2 ⟨?_, htags, hname⟩⟩
    rw [exists_returns_iff]
    exact ⟨items, iterateOrEmpty_of_iterate hitems, fun x hx => (hsteps x hx).2⟩
  · rintro ⟨⟨view, hview⟩, hexport⟩
    obtain ⟨hjson, htags, hname⟩ := returns_exportScript.1 hexport
    simp only [scriptToView, bind_eq_ok] at hview
    obtain ⟨items, hitems, steps, hsteps, -⟩ := hview
    obtain ⟨items', hitems', hschema⟩ := exists_returns_iff.1 hjson
    rw [iterateOrEmpty_of_iterate hitems, Except.ok.injEq] at hitems'
    subst hitems'
    exact ⟨hname, htags, items, hitems, fun x hx =>
      ⟨returns_mapM.1 ⟨steps, hsteps⟩ x hx, hschema x hx⟩⟩

/-- What is exported of a script are the values of its view. -/
theorem scriptAgain_of_export (hfmt : env.fmt.Lawful) (hagree : env.fmt.Agree) {row : ScriptRow}
    {view : ScriptView} {data : ScriptExport} (hview : scriptToView env.fmt row = .ok view)
    (hdata : exportScript env.fmt row = .ok data) :
    scriptAgain env.fmt view = data.values env.fmt := by
  obtain ⟨hviewEq, -⟩ := view_of_exportScript hfmt hagree hview hdata
  rw [hviewEq]
  unfold scriptAgain ScriptExport.values storedSteps
  rw [reduceOption_map_some, List.map_map]
  rfl

/-- The view of what came of a script. -/
theorem view_of_came_script (hdb : env.db.Lawful) (hback : env.db.ReadsBack)
    (hfmt : env.fmt.Lawful) {next : Uuid} {row' : ScriptRow} {data : ScriptExport}
    (h : MadeOf (scriptKind env.db) next (scriptDto env.fmt data) row') :
    scriptToView env.fmt row' = .ok ⟨row'.id, data.name, data.description,
      data.steps.map stepDto, data.tags.map some, defaultTimeout⟩ := by
  obtain ⟨i, -, hrow⟩ := h
  obtain ⟨-, -, hbound⟩ := bindRow_eq_ok hrow
  rw [scriptDto_values] at hbound
  have hbody := hbound.body
  simp only [scriptModel, bind_eq_ok, Except.ok.injEq] at hbody
  obtain ⟨steps, hsteps, hbody⟩ := hbody
  have hstored : row'.body.steps = storedSteps env.fmt (data.steps.map stepDto) := by
    rw [← hbody, hdb.json_eq _ _ hsteps]
    unfold storedSteps ScriptExport.values
    rw [List.map_map]
    rfl
  have htags : row'.tags = some (data.tags.map some) := bindTags_eq hback hbound.tags
  have hdescription : row'.description = data.description :=
    hback.textOrNull _ _ hbound.description
  rw [scriptToView_of_stored hfmt hstored, hbound.name_eq hdb, hdescription, htags,
    timeout_of_bound hbound rfl]
  rfl

/-- Steps that refer to no command refer to the same in the new store. -/
theorem retarget_eq_self {s s' : ConfigStore} {step : ScriptStepDTO}
    (h : step.type = .command → ∀ i ∈ step.commandId, ∀ c ∈ s.commands.rows, c.id ≠ i) :
    retarget s s' step = step := by
  unfold retarget
  split
  · rename_i htype
    cases hid : step.commandId with
    | none =>
        rw [Option.map_none, ← hid]
    | some i =>
        have hnone : s.commands.rows.find? (fun c => decide (c.id = i)) = none := by
          rw [List.find?_eq_none]
          intro c hc hci
          exact h htype i hid c hc (of_decide_eq_true hci)
        have htarget : target s s' i = i := by
          unfold target
          rw [hnone]
        rw [Option.map_some, htarget, ← hid]
  · rfl

theorem PortableScript.exported (hfmt : env.fmt.Lawful) (hagree : env.fmt.Agree) {s : ConfigStore}
    {row : ScriptRow} (h : PortableScript env s row) : ∃ data, exportScript env.fmt row = .ok data ∧
      Returns ((scriptKind env.db).make 0 (scriptDto env.fmt data)) := by
  obtain ⟨⟨view, hview⟩, data, hdata⟩ := exportedScript_iff.1 h.readable
  refine ⟨data, hdata, ?_⟩
  show Returns (bindRow scriptModel env.db 0 none (scriptDto env.fmt data).values)
  rw [scriptDto_values, ← scriptAgain_of_export hfmt hagree hview hdata]
  exact h.fits view hview

theorem PortableScript.same (hdb : env.db.Lawful) (hback : env.db.ReadsBack)
    (hfmt : env.fmt.Lawful) (hagree : env.fmt.Agree) {s s' : ConfigStore} {next : Uuid}
    {row row' : ScriptRow} (h : PortableScript env s row)
    (hcame : Came (scriptKind env.db) (exportScript env.fmt) (scriptDto env.fmt) next row row') :
    SameScript env.fmt s s' row row' := by
  obtain ⟨data, hdata, hmade⟩ := hcame
  obtain ⟨⟨view, hview⟩, -⟩ := exportedScript_iff.1 h.readable
  obtain ⟨hviewEq, -⟩ := view_of_exportScript hfmt hagree hview hdata
  refine ⟨view, _, hview, view_of_came_script hdb hback hfmt hmade, ?_⟩
  have hsteps : view.steps.map (retarget s s') = view.steps := by
    refine (List.map_congr_left fun step hstep => ?_).trans (List.map_id _)
    exact retarget_eq_self (h.detached view hview step hstep)
  rw [hsteps, hviewEq, h.timeout]

/-- A script whose copy agrees with it, when the commands of the new store are new. -/
theorem portableScript_of_same (hdb : env.db.Lawful) (hback : env.db.ReadsBack)
    (hfmt : env.fmt.Lawful) (hagree : env.fmt.Agree) {s s' : ConfigStore} {next : Uuid}
    {row row' : ScriptRow}
    (hcommands : SameRows SameCommand s.commands.rows s'.commands.rows)
    (hnew : ∀ c ∈ s.commands.rows, ∀ c' ∈ s'.commands.rows, c'.id ≠ c.id)
    (hcame : Came (scriptKind env.db) (exportScript env.fmt) (scriptDto env.fmt) next row row')
    (hsame : SameScript env.fmt s s' row row') : PortableScript env s row := by
  obtain ⟨data, hdata, hmade⟩ := hcame
  obtain ⟨view, view', hview, hview', heq⟩ := hsame
  rw [view_of_came_script hdb hback hfmt hmade, Except.ok.injEq] at hview'
  obtain ⟨hviewEq, -⟩ := view_of_exportScript hfmt hagree hview hdata
  refine ⟨exportedScript_iff.2 ⟨⟨_, hview⟩, ⟨_, hdata⟩⟩, ?_, fun view₁ hview₁ => ?_, ?_⟩
  · have htimeout : view'.timeout = view.timeout := by rw [heq]
    rw [← hview', hviewEq] at htimeout
    exact htimeout.symm
  · obtain ⟨i, -, hrow⟩ := hmade
    rw [scriptAgain_of_export hfmt hagree hview₁ hdata, ← scriptDto_values]
    exact ⟨_, bindRow_any hrow 0⟩
  · intro view₁ hview₁ step hstep htype i hi c hc hci
    rw [hview, Except.ok.injEq] at hview₁
    subst hview₁
    -- The steps came back unchanged, and so did this one.
    have hsteps : view.steps.map (retarget s s') = view.steps := by
      have hsteps' : view'.steps = view.steps.map (retarget s s') :=
        congrArg ScriptView.steps heq
      rw [← hsteps', ← hview', hviewEq]
    have hfixed : retarget s s' step = step :=
      List.map_inj_left.1 (hsteps.trans (List.map_id _).symm) step hstep
    have htarget : target s s' i = i := by
      unfold retarget at hfixed
      rw [if_pos htype] at hfixed
      have hids := congrArg ScriptStepDTO.commandId hfixed
      rw [Option.mem_def.1 hi] at hids
      exact Option.some.inj hids
    unfold target at htarget
    cases hfind : s.commands.rows.find? (fun c => decide (c.id = i)) with
    | none => exact List.find?_eq_none.1 hfind c hc (decide_eq_true hci)
    | some c₀ =>
        rw [hfind] at htarget
        have hc₀ : c₀ ∈ s.commands.rows := List.mem_of_find?_eq_some hfind
        have hid₀ : c₀.id = i := by simpa using List.find?_some hfind
        obtain ⟨c', hc', v, v', hv, hv', hvv'⟩ := hcommands.exists_left hc₀
        have hname : c'.name = c₀.name := by
          have hvname : v'.name = v.name := by rw [hvv']
          rw [name_of_commandToView hv', name_of_commandToView hv] at hvname
          exact hvname
        cases hfind' : s'.commands.rows.find? (fun c' => decide (c'.name = c₀.name)) with
        | none => exact List.find?_eq_none.1 hfind' c' hc' (decide_eq_true hname)
        | some c₁ =>
            simp only [hfind'] at htarget
            exact hnew c₀ hc₀ c₁ (List.mem_of_find?_eq_some hfind') (htarget.trans hid₀.symm)

end Rows

/-! ## The round trip -/

/-- A store without rows, whose commands get ids that were not drawn before. -/
structure EmptyAfter (s t : ConfigStore) : Prop where
  nodes : t.nodes.rows = []
  commands : t.commands.rows = []
  scripts : t.scripts.rows = []
  drawn : s.commands.nextId ≤ t.commands.nextId

/-- Whatever orders the database chooses, the import of the export into an empty
store gives the configuration again. -/
def RoundTrips (env : ExportEnv) (s : ConfigStore) : Prop :=
  ∀ t, EmptyAfter s t → ∀ orders ordersT : Orders, orders.Of s → ordersT.Of t →
    ∃ data s' result, exportConfig env orders = .ok data ∧
      importConfig env.toConfigEnv ordersT t (importRequest data) = .ok (s', result) ∧
      Reproduces env.fmt s s'

/-- A store all of whose rows come back as they were. -/
structure Portable (env : ExportEnv) (s : ConfigStore) : Prop where
  nodes : ∀ row ∈ s.nodes.rows, PortableNode env row
  commands : ∀ row ∈ s.commands.rows, PortableCommand env row
  scripts : ∀ row ∈ s.scripts.rows, PortableScript env s row
  nodesFit : s.nodes.rows.length ≤ env.batchSize
  commandsFit : s.commands.rows.length ≤ env.batchSize
  scriptsFit : s.scripts.rows.length ≤ env.batchSize

section RoundTrip

variable {env : ExportEnv} {s t : ConfigStore} {orders ordersT : Orders}

/-- What is known of the three kinds when an export is imported into an empty
store. -/
structure Trips (env : ExportEnv) (s t s' : ConfigStore) (orders : Orders)
    (data : ConfigExport env) : Prop where
  nodes : Trip (nodeKind env.db env.now) (exportNode env.uni env.isDecimal) NodeExport.dto t.nodes
    s'.nodes (load cut env.batchSize orders.nodes) data.nodes
  commands : Trip (commandKind env.db) (exportCommand env.fmt) commandDto t.commands s'.commands
    (load cut env.batchSize orders.commands) data.commands
  scripts : Trip (scriptKind env.db) (exportScript env.fmt) (scriptDto env.fmt) t.scripts s'.scripts
    (load cut env.batchSize orders.scripts) data.scripts

/-- The reads of the export have no filter. -/
theorem exportConfig_eq : exportConfig env orders = (do
    let nodes ← (load cut env.batchSize orders.nodes).mapM (exportNode env.uni env.isDecimal)
    let commands ← (load cut env.batchSize orders.commands).mapM (exportCommand env.fmt)
    let scripts ← (load cut env.batchSize orders.scripts).mapM (exportScript env.fmt)
    .ok ⟨nodes, commands, scripts⟩) := by
  unfold exportConfig commandGetAll scriptGetAll
  rw [getAllFiltered_none, getAllFiltered_none]
  rfl

/-- The export and the import, kind by kind. -/
theorem trips_iff (hb : 1 ≤ env.batchSize) (ht : EmptyAfter s t) (hT : ordersT.Of t)
    {data : ConfigExport env} {s' : ConfigStore} :
    (exportConfig env orders = .ok data ∧
      ∃ result, importConfig env.toConfigEnv ordersT t (importRequest data) = .ok (s', result)) ↔
      Trips env s t s' orders data := by
  rw [exportConfig_eq]
  have hnodes : ∀ as : List NodeConfigDTO,
      readNames as NodeRow.name env.batchSize ordersT.nodes = [] :=
    readNames_empty hb ht.nodes hT.nodes
  have hcommands : ∀ as : List CommandConfigDTO,
      readNames as (@Row.name CommandBody) env.batchSize ordersT.commands = [] :=
    readNames_empty hb ht.commands hT.commands
  have hscripts : ∀ as : List ScriptConfigDTO,
      readNames as (@Row.name ScriptBody) env.batchSize ordersT.scripts = [] :=
    readNames_empty hb ht.scripts hT.scripts
  constructor
  · rintro ⟨hexport, result, himport⟩
    simp only [bind_eq_ok] at hexport
    obtain ⟨nodes, hnodes', commands, hcommands', scripts, hscripts', hdata⟩ := hexport
    cases hdata
    obtain ⟨⟨_, himportN⟩, ⟨_, himportC⟩, ⟨_, himportS⟩⟩ := importConfig_eq_ok himport
    rw [hnodes] at himportN
    rw [hcommands] at himportC
    rw [hscripts] at himportS
    exact ⟨⟨hnodes', _, _, himportN⟩, ⟨hcommands', _, _, himportC⟩, ⟨hscripts', _, _, himportS⟩⟩
  · rintro ⟨⟨hnodes', createdN, errorsN, himportN⟩, ⟨hcommands', createdC, errorsC, himportC⟩,
      ⟨hscripts', createdS, errorsS, himportS⟩⟩
    refine ⟨?_, ⟨createdN, createdC, createdS, errorsN ++ errorsC ++ errorsS⟩, ?_⟩
    · rw [hnodes', hcommands', hscripts']
      rfl
    · unfold importConfig
      rw [existingCommandNames_eq, existingScriptNames_eq, hcommands, hscripts,
        show existingNodeNames env.toConfigEnv ordersT (importRequest data) = [] from hnodes _]
      show ((nodeKind env.db env.now).importRows t.nodes [] (data.nodes.map NodeExport.dto)).bind _
        = _
      rw [himportN]
      show ((commandKind env.db).importRows t.commands [] (data.commands.map commandDto)).bind _ = _
      rw [himportC]
      show ((scriptKind env.db).importRows t.scripts [] (data.scripts.map _)).bind _ = _
      rw [himportS]
      rfl

/-- Every row of the new store came of one of the old store. -/
theorem SameRows.exists_right {ρ : Type} {Same : ρ → ρ → Prop} {old new : List ρ}
    (h : SameRows Same old new) {r' : ρ} (hr' : r' ∈ new) : ∃ r ∈ old, Same r r' := by
  obtain ⟨rows, hperm, hsame⟩ := h
  exact exists_of_forall₂_right hsame (hperm.mem_iff.2 hr')

/-- The names of entries are those of their rows. -/
theorem entryName_node (row : NodeRow) (data : NodeExport env.uni env.isDecimal)
    (h : exportNode env.uni env.isDecimal row = .ok data) :
    (nodeKind env.db env.now).entryName data.dto = row.name :=
  (exportNode_eq_ok h).2.1

/-- **When the round trip reproduces a store.** -/
theorem roundTrips_of_portable (hdb : env.db.Lawful) (hback : env.db.ReadsBack)
    (hfmt : env.fmt.Lawful) (hagree : env.fmt.Agree) (hb : 1 ≤ env.batchSize)
    (h : Portable env s) : RoundTrips env s := by
  intro t ht orders ordersT hO hT
  have hreadN := load_perm hb hO.nodes h.nodesFit
  have hreadC := load_perm hb hO.commands h.commandsFit
  have hreadS := load_perm hb hO.scripts h.scriptsFit
  have hnameC : ∀ row data, exportCommand env.fmt row = .ok data →
      (commandKind env.db).entryName (commandDto data) = row.name :=
    fun _ _ => name_of_exportCommand
  have hnameS : ∀ row data, exportScript env.fmt row = .ok data →
      (scriptKind env.db).entryName (scriptDto env.fmt data) = row.name :=
    fun _ _ => name_of_exportScript
  obtain ⟨nodes, dataN, htripN⟩ := exists_trip (nodeKind_lawful hdb env.now) entryName_node ht.nodes
    hreadN fun row hrow => (h.nodes row hrow).exported
  obtain ⟨commands, dataC, htripC⟩ := exists_trip (commandKind_lawful hdb) hnameC ht.commands
    hreadC fun row hrow => (h.commands row hrow).exported hfmt
  obtain ⟨scripts, dataS, htripS⟩ := exists_trip (scriptKind_lawful hdb) hnameS ht.scripts
    hreadS fun row hrow => by
      exact (h.scripts row hrow).exported hfmt hagree
  have htrips : Trips env s t ⟨nodes, commands, scripts⟩ orders ⟨dataN, dataC, dataS⟩ :=
    ⟨htripN, htripC, htripS⟩
  obtain ⟨hexport, result, himport⟩ := (trips_iff hb ht hT).2 htrips
  refine ⟨_, _, result, hexport, himport, ?_⟩
  have hcameN := htripN.came entryName_node ht.nodes hreadN
  have hcameC := htripC.came hnameC ht.commands hreadC
  have hcameS := htripS.came hnameS ht.scripts hreadS
  exact
    { nodes := hcameN.imp fun row hrow _ _ hcame =>
        sameNode_of_came hdb hback hcame (h.nodes row hrow).description
      commands := hcameC.imp fun row hrow _ _ hcame =>
        (h.commands row hrow).same hdb hback hfmt hcame
      scripts := hcameS.imp fun row hrow _ _ hcame =>
        (h.scripts row hrow).same hdb hback hfmt hagree hcame }

/-- A store that the round trip reproduces is portable. -/
theorem portable_of_roundTrips (hdb : env.db.Lawful) (hback : env.db.ReadsBack)
    (hfmt : env.fmt.Lawful) (hagree : env.fmt.Agree) (hb : 1 ≤ env.batchSize)
    (h : RoundTrips env s) : Portable env s := by
  obtain ⟨t, ht⟩ : ∃ t : ConfigStore, EmptyAfter s t :=
    ⟨⟨.empty 0, .empty s.commands.nextId, .empty 0⟩, rfl, rfl, rfl, Nat.le_refl _⟩
  have hT : (inserted t).Of t := inserted_of t
  have hnameC : ∀ row data, exportCommand env.fmt row = .ok data →
      (commandKind env.db).entryName (commandDto data) = row.name :=
    fun _ _ => name_of_exportCommand
  have hnameS : ∀ row data, exportScript env.fmt row = .ok data →
      (scriptKind env.db).entryName (scriptDto env.fmt data) = row.name :=
    fun _ _ => name_of_exportScript
  have hsameN : ∀ r r', SameNode r r' → r.name = r'.name := fun _ _ hsame => hsame.name.symm
  have hsameC : ∀ r r', SameCommand r r' → r.name = r'.name := by
    rintro r r' ⟨v, v', hv, hv', heq⟩
    have hname : v'.name = v.name := by rw [heq]
    rw [← name_of_commandToView hv, ← name_of_commandToView hv', hname]
  have hsameS : ∀ s' r r', SameScript env.fmt s s' r r' → r.name = r'.name := by
    rintro s' r r' ⟨v, v', hv, hv', heq⟩
    have hname : v'.name = v.name := by rw [heq]
    rw [← name_of_scriptToView hv, ← name_of_scriptToView hv', hname]
  -- Every way through gives trips of the three kinds.
  have htrips : ∀ orders, orders.Of s → ∃ data s', Trips env s t s' orders data ∧
      Reproduces env.fmt s s' := by
    intro orders hO
    obtain ⟨data, s', result, hexport, himport, hsame⟩ := h t ht orders (inserted t) hO hT
    exact ⟨data, s', (trips_iff hb ht hT).1 ⟨hexport, result, himport⟩, hsame⟩
  have hsizes : s.nodes.rows.length ≤ env.batchSize ∧ s.commands.rows.length ≤ env.batchSize ∧
      s.scripts.rows.length ≤ env.batchSize := by
    refine ⟨?_, ?_, ?_⟩
    · refine length_le_of_trips (nodeKind_lawful hdb env.now) entryName_node
        hsameN hb ht.nodes fun orders horders => ?_
      obtain ⟨data, s', htrip, hsame⟩ := htrips { inserted s with nodes := orders }
        ⟨horders, (inserted_of s).commands, (inserted_of s).scripts⟩
      exact ⟨s'.nodes, data.nodes, htrip.nodes, hsame.nodes⟩
    · refine length_le_of_trips (commandKind_lawful hdb) hnameC hsameC hb ht.commands
        fun orders horders => ?_
      obtain ⟨data, s', htrip, hsame⟩ := htrips { inserted s with commands := orders }
        ⟨(inserted_of s).nodes, horders, (inserted_of s).scripts⟩
      exact ⟨s'.commands, data.commands, htrip.commands, hsame.commands⟩
    · have hname : ∀ r r' : ScriptRow, r.name = r'.name → r.name = r'.name := fun _ _ hname => hname
      refine length_le_of_trips (scriptKind_lawful hdb) hnameS hname hb ht.scripts
        fun orders horders => ?_
      obtain ⟨data, s', htrip, hsame⟩ := htrips { inserted s with scripts := orders }
        ⟨(inserted_of s).nodes, (inserted_of s).commands, horders⟩
      exact ⟨s'.scripts, data.scripts, htrip.scripts,
        hsame.scripts.imp fun r _ r' _ hrr' => hsameS s' r r' hrr'⟩
  obtain ⟨hsizeN, hsizeC, hsizeS⟩ := hsizes
  obtain ⟨data, s', htrip, hsame⟩ := htrips (inserted s) (inserted_of s)
  have hreadN := load_perm hb (inserted_of s).nodes hsizeN
  have hreadC := load_perm hb (inserted_of s).commands hsizeC
  have hreadS := load_perm hb (inserted_of s).scripts hsizeS
  have hcameN := htrip.nodes.came entryName_node ht.nodes hreadN
  have hcameC := htrip.commands.came hnameC ht.commands hreadC
  have hcameS := htrip.scripts.came hnameS ht.scripts hreadS
  have hnew : ∀ c ∈ s.commands.rows, ∀ c' ∈ s'.commands.rows, c'.id ≠ c.id := by
    intro c hc c' hc' heq
    obtain ⟨r, -, b, -, i, hi, hrow⟩ := hcameC.exists_right hc'
    rw [(commandKind env.db).make_id hrow] at heq
    exact Nat.lt_irrefl c.id (Nat.lt_of_lt_of_le (s.commands.drawn c hc)
      (Nat.le_trans ht.drawn (heq ▸ hi)))
  refine ⟨fun row hrow => ?_, fun row hrow => ?_, fun row hrow => ?_, hsizeN, hsizeC, hsizeS⟩
  · obtain ⟨row', -, hcame, hrr'⟩ := same_of_came (nodeKind_lawful hdb env.now) entryName_node
      hsameN hcameN hsame.nodes hrow
    exact portableNode_of_same hcame hrr'
  · obtain ⟨row', -, hcame, hrr'⟩ := same_of_came (commandKind_lawful hdb) hnameC hsameC hcameC
      hsame.commands hrow
    exact portableCommand_of_same hdb hback hfmt hcame hrr'
  · obtain ⟨row', -, hcame, hrr'⟩ := same_of_came (scriptKind_lawful hdb) hnameS (hsameS s') hcameS
      hsame.scripts hrow
    exact portableScript_of_same hdb hback hfmt hagree hsame.commands hnew hcame hrr'

/-- **When an export that is imported again gives the configuration.**  Its rows
can be exported and take their columns, no node has a description, no command and
no script a timeout other than the default, no command step refers to a command,
and no table is larger than a batch. -/
theorem round_trip_iff (hdb : env.db.Lawful) (hback : env.db.ReadsBack) (hfmt : env.fmt.Lawful)
    (hagree : env.fmt.Agree) (hb : 1 ≤ env.batchSize) (s : ConfigStore) :
    RoundTrips env s ↔ Portable env s :=
  ⟨portable_of_roundTrips hdb hback hfmt hagree hb, roundTrips_of_portable hdb hback hfmt hagree hb⟩

end RoundTrip

/-- The export as it is built, over the plain columns and canonical texts. -/
def plainExportEnv : ExportEnv where
  toConfigEnv := plainEnv
  fmt := canonicalFormats
  uni := Core.asciiUnicode
  isDecimal := Char.isDigit

/-- What `create_command` makes of a store without rows. -/
def createIn (db : Columns) (data : CommandCreate) : Except Failure ConfigStore :=
  let kind : Kind CommandCreateDTO (@Row.id CommandBody) (@Row.name CommandBody) :=
    { commandKind db with
      entryName := CommandCreateDTO.name
      make := fun i dto => bindRow commandModel db i none dto.values
      make_id := fun h => (bindRow_eq_ok h).1 }
  (kind.create (emptyStore 1).commands data.dto).map fun commands =>
    { emptyStore 1 with commands := commands }

/-- A request for a command with a timeout. -/
def backupRequest (timeout : Int) (h : timeoutInRange timeout) : CommandCreate where
  name := "backup"
  description := none
  command := "true"
  parameters := []
  tags := []
  timeout := timeout
  name_ok := by decide
  description_ok := description_none
  command_ok := by decide
  timeout_ok := h

/-- Every store with one command survives the round trip. -/
def CreatedRoundTrips (env : ExportEnv) : Prop :=
  ∀ (data : CommandCreate) (s : ConfigStore), createIn env.db data = .ok s → RoundTrips env s

/-- A command with a timeout of a minute does not. -/
theorem not_createdRoundTrips : ¬ CreatedRoundTrips plainExportEnv := by
  intro h
  have hportable := @portable_of_roundTrips plainExportEnv _ plainColumns_lawful
    plainColumns_readsBack canonicalFormats_lawful canonicalFormats_agree (by decide)
    (h (backupRequest 60 ⟨by decide, by decide⟩) (backupStore 60) rfl)
  have htimeout := (hportable.commands _ (List.mem_singleton_self _)).timeout
  exact absurd htimeout (by decide)

/-- The command with the default timeout, beside a node that has a secret and a script with a step
of its own. -/
def fleetStore : ConfigStore :=
  { backupStore 30 with
    nodes :=
      { rows := [⟨1, "web", "10.0.0.5", 22, .ssh, .active, some "root", some "cipher", none, none,
          none, false, some [some "prod"], none, fleetMoment, fleetMoment⟩]
        nextId := 2
        ids_nodup := List.nodup_singleton _
        names_nodup := List.nodup_singleton _
        drawn := by
          intro r hr
          obtain rfl := List.mem_singleton.1 hr
          exact Nat.lt_succ_self 1 }
    scripts :=
      { rows := [⟨1, "nightly", some "every night", ⟨.list [.dict [("label", .str "dump"),
          ("type", .str "inline"), ("command", .str "true")]]⟩, some [some "daily"], 30, none⟩]
        nextId := 2
        ids_nodup := List.nodup_singleton _
        names_nodup := List.nodup_singleton _
        drawn := by
          intro r hr
          obtain rfl := List.mem_singleton.1 hr
          exact Nat.lt_succ_self 1 } }

/-- It survives the round trip. -/
theorem round_trip_backup : RoundTrips plainExportEnv fleetStore := by
  refine (@round_trip_iff plainExportEnv plainColumns_lawful plainColumns_readsBack
    canonicalFormats_lawful canonicalFormats_agree (by decide) fleetStore).2 ⟨?_, ?_, ?_, by decide,
      by decide, by decide⟩
  · intro row hrow
    obtain rfl : row = _ := List.mem_singleton.1 hrow
    exact ⟨by decide, by decide, by decide, rfl, ⟨_, rfl⟩⟩
  · intro row hrow
    obtain rfl : row = _ := List.mem_singleton.1 hrow
    refine ⟨⟨by decide, ?_, [], rfl, fun x hx => nomatch hx⟩, rfl, ?_⟩
    · exact fun tag htag => nomatch htag
    intro view hview
    cases hview
    exact ⟨_, rfl⟩
  · intro row hrow
    obtain rfl : row = _ := List.mem_singleton.1 hrow
    refine ⟨⟨by decide, by decide, _, rfl, fun x hx => ?_⟩, rfl, ?_, ?_⟩
    · obtain rfl : x = _ := List.mem_singleton.1 hx
      exact ⟨⟨_, rfl⟩, ⟨_, rfl⟩⟩
    · intro view hview
      cases hview
      exact ⟨_, rfl⟩
    · intro view hview step hstep htype
      cases hview
      obtain rfl : step = _ := List.mem_singleton.1 hstep
      cases htype

end Config
end NodeNexus
