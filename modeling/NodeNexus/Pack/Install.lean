import NodeNexus.Pack.Phases

/-!
# Installing a pack isolates bad items

With `on_conflict="rename"` an installation is expected to take what it can:
items the database would refuse are reported as errors, all others become
rows.  All valid rows are flushed in one transaction, so this works only as far
as the payload checks imply what the tables demand.

* `Storable` lists what a table demands of the values of a row.
* `planNames_rename` — in this mode name resolution gives every item a name
  that is new and different from the others.
* `Kind.good` — an item is good when its table takes it; the payload checks have
  no part in that.
* `InstallReport` is what one expects of the result, and
  `install_isolates_iff` says when the code delivers it: when the payload checks
  and the tables agree on every item.  The checks do not look at the range of the
  timeout, nor at the types of the description and the tags, and they refuse
  command lines of more than 4096 characters, empty names, and scripts without
  steps, which the tables take.
-/

namespace NodeNexus
namespace Pack

open Content

variable {Body : Type}

/-! ## What a table demands -/

/-- The values fit the columns and meet the CHECK constraint. -/
structure Storable (model : Model Body) (db : Columns) (v : Values Body) : Prop where
  nameLength : v.name.length ≤ 255
  name : Returns (db.text v.name)
  description : Returns (db.textOrNull v.description)
  body : Returns (model.bindBody db v.body)
  tags : Returns (bindTags db v.tags)
  timeout : 1 ≤ v.timeout ∧ v.timeout ≤ 3600

/-- A row can be made of values exactly when they are storable. -/
theorem returns_bindRow {model : Model Body} {db : Columns} {id : Uuid} {packId : Option Uuid}
    {v : Values Body} : Returns (bindRow model db id packId v) ↔ Storable model db v := by
  simp only [bindRow, returns_bind, bindName, bindTimeout]
  constructor
  · rintro ⟨name, hname, description, hdescription, body, hbody, tags, htags, timeout, htimeout, -⟩
    split at hname
    · rename_i hlen
      split at htimeout
      · rename_i hrange
        exact ⟨hlen, ⟨name, hname⟩, ⟨_, hdescription⟩, ⟨_, hbody⟩, ⟨_, htags⟩, hrange⟩
      · cases htimeout
    · cases hname
  · rintro ⟨hlen, ⟨name, hname⟩, ⟨description, hdescription⟩, ⟨body, hbody⟩, ⟨tags, htags⟩, hrange⟩
    exact ⟨name, by rw [if_pos hlen, hname], description, hdescription, body, hbody, tags, htags,
      v.timeout, by rw [if_pos hrange], returns_ok _⟩

/-- The tags of an item: a list, or none at all. -/
def contentTags (item : Json.Fields) : Option (List Json) :=
  match (Json.getD item "tags" .null).orElse (.list []) with
  | .list tags => some tags
  | _ => none

/-- What an item named `name` holds for the columns of `commands`: a command line
that is a string, tags that are a list, and a timeout that is an integer. -/
def commandColumns (name : String) (item : Json.Fields) : Option (Values CommandBody) :=
  match Json.getD item "command" .null, contentTags item, Json.getD item "timeout" (.int 60) with
  | .str command, some tags, .int timeout =>
      some { name := name
             description := Json.getD item "description" .null
             body := ⟨command, (Json.getD item "parameters" .null).orElse (.list [])⟩
             tags := some tags
             timeout := timeout }
  | _, _, _ => none

/-- What it holds for the columns of `scripts`, where the steps may be anything. -/
def scriptColumns (name : String) (item : Json.Fields) : Option (Values ScriptBody) :=
  match contentTags item, Json.getD item "timeout" (.int 60) with
  | some tags, .int timeout =>
      some { name := name
             description := Json.getD item "description" .null
             body := ⟨Json.getD item "steps" .null⟩
             tags := some tags
             timeout := timeout }
  | _, _ => none

/-- What differs between the two kinds of content. -/
structure Kind (Body : Type) where
  entity : EntityType
  model : Model Body
  validate : Json.Fields → Except Failure (Values Body)
  columns : String → Json.Fields → Option (Values Body)

/-- The commands of a pack. -/
def commandKind (env : Env) : Kind CommandBody where
  entity := .command
  model := commandModel
  validate := validateCommandPayload env.unicode.isPrintable
  columns := commandColumns

/-- The scripts of a pack. -/
def scriptKind (env : Env) : Kind ScriptBody where
  entity := .script
  model := scriptModel
  validate := validateScriptPayload env.unicode.isPrintable
  columns := scriptColumns

/-- Is an item good: would the database take its row? -/
def Kind.good (kind : Kind Body) (db : Columns) (p : String × Json.Fields) : Bool :=
  match kind.columns p.1 p.2 with
  | some v => (bindRow kind.model db 0 none v).isOk
  | none => false

/-- Does an item pass its payload check under the name it gets? -/
def Kind.passes (kind : Kind Body) (p : String × Json.Fields) : Bool :=
  (kind.validate (plannedPayload p)).isOk

theorem Kind.passes_iff {kind : Kind Body} {p : String × Json.Fields} :
    kind.passes p = true ↔ ∃ v, kind.validate (plannedPayload p) = .ok v := by
  unfold Kind.passes
  cases kind.validate (plannedPayload p) with
  | ok v => simp [Except.isOk, Except.toBool]
  | error e => simp [Except.isOk, Except.toBool]

/-! ## What the checks return -/

/-- Tags that are a list come out of the check as they are. -/
theorem payloadTags_of_contentTags {item : Json.Fields} {tags : List Json}
    (h : contentTags item = some tags) : payloadTags item = .ok tags := by
  unfold contentTags Json.orElse at h
  unfold payloadTags iterateOrEmpty
  split at h
  · rename_i hlist
    cases h
    split at hlist
    · rename_i htruthy
      rw [if_pos htruthy, hlist]
      rfl
    · rename_i hfalsy
      cases hlist
      rw [if_neg hfalsy]
  · cases h

/-- The check and the columns read an item alike: its name is the planned one, and
where both give values these are the same. -/
structure Kind.ReadsAlike (kind : Kind Body) : Prop where
  name : ∀ {p v}, kind.validate (plannedPayload p) = .ok v → v.name = p.1
  values : ∀ {p v v'}, kind.validate (plannedPayload p) = .ok v →
    kind.columns p.1 p.2 = some v' → v' = v

theorem commandKind_readsAlike (env : Env) : (commandKind env).ReadsAlike := by
  refine ⟨fun {p v} hv => ?_, fun {p v v'} hv hv' => ?_⟩
  · have hname := (validateCommandPayload_eq_ok hv).1
    rw [getD_plannedPayload_name, Json.str.injEq] at hname
    exact hname.symm
  obtain ⟨hname, hdescription, hcommand, hparameters, ⟨tags, htags, hvtags⟩, htimeout⟩ :=
    validateCommandPayload_eq_ok hv
  rw [getD_plannedPayload_name, Json.str.injEq] at hname
  rw [getD_plannedPayload p (by decide)] at hdescription hcommand hparameters htimeout
  rw [payloadTags, getD_plannedPayload p (by decide)] at htags
  simp only [commandKind, commandColumns, hcommand, htimeout] at hv'
  split at hv'
  · rename_i command tags' timeout hc htags' ht
    have heq := (payloadTags_of_contentTags htags').symm.trans htags
    cases hc
    cases ht
    cases heq
    cases hv'
    obtain ⟨name, description, ⟨command, parameters⟩, vtags, timeout⟩ := v
    simp only at hname hdescription hparameters hvtags
    rw [hname, hdescription, hparameters, hvtags]
  · cases hv'

theorem scriptKind_readsAlike (env : Env) : (scriptKind env).ReadsAlike := by
  refine ⟨fun {p v} hv => ?_, fun {p v v'} hv hv' => ?_⟩
  · have hname := (validateScriptPayload_eq_ok hv).1
    rw [getD_plannedPayload_name, Json.str.injEq] at hname
    exact hname.symm
  obtain ⟨hname, hdescription, hsteps, ⟨tags, htags, hvtags⟩, htimeout⟩ :=
    validateScriptPayload_eq_ok hv
  rw [getD_plannedPayload_name, Json.str.injEq] at hname
  rw [getD_plannedPayload p (by decide)] at hdescription hsteps htimeout
  rw [payloadTags, getD_plannedPayload p (by decide)] at htags
  simp only [scriptKind, scriptColumns, htimeout] at hv'
  split at hv'
  · rename_i tags' timeout htags' ht
    have heq := (payloadTags_of_contentTags htags').symm.trans htags
    cases ht
    cases heq
    cases hv'
    obtain ⟨name, description, ⟨steps⟩, vtags, timeout⟩ := v
    simp only at hname hdescription hsteps hvtags
    rw [hname, hdescription, hsteps, hvtags]
  · cases hv'

/-- What passes the check of a good item are the values of its row. -/
theorem Kind.ReadsAlike.storable {kind : Kind Body} (halike : kind.ReadsAlike) {db : Columns}
    {p : String × Json.Fields} {v : Values Body} (hgood : kind.good db p = true)
    (hv : kind.validate (plannedPayload p) = .ok v) :
    kind.columns p.1 p.2 = some v ∧ Storable kind.model db v := by
  unfold Kind.good at hgood
  split at hgood
  · rename_i v' hv'
    obtain rfl := halike.values hv hv'
    refine ⟨hv', (@returns_bindRow _ kind.model db 0 none v').1 ?_⟩
    cases hrow : bindRow kind.model db 0 none v' with
    | ok row => exact returns_ok row
    | error e =>
        rw [hrow] at hgood
        cases hgood
  · cases hgood

/-! ## Name resolution -/

/-- **Renaming never fails**, and the planned names are new and pairwise
different. -/
theorem planNames_rename (env : Env) (entity : EntityType) (existing : List String)
    (planned : List (String × Json.Fields)) (raws : List Json.Fields) :
    ∃ out, planNames env entity .rename existing planned raws = .ok (planned ++ out) ∧
      out.map (·.2) = raws ∧ (∀ p ∈ out, p.1 ∉ existing ++ planned.map (·.1)) ∧
      (out.map (·.1)).Nodup := by
  induction raws generalizing planned with
  | nil => exact ⟨[], by simp [planNames], rfl, by simp, List.nodup_nil⟩
  | cons raw rest ih =>
      obtain ⟨name, hname, hstep⟩ : ∃ name, name ∉ existing ++ planned.map (·.1) ∧
          planNames env entity .rename existing planned (raw :: rest) =
            planNames env entity .rename existing (planned ++ [(name, raw)]) rest := by
        simp only [planNames]
        split
        · exact ⟨_, uniqueName_not_mem _ _, rfl⟩
        · exact ⟨_, ‹_›, rfl⟩
      obtain ⟨out, hout, hraws, hnew, hnodup⟩ := ih (planned ++ [(name, raw)])
      refine ⟨(name, raw) :: out, ?_, by rw [List.map_cons, hraws], ?_, ?_⟩
      · rw [hstep, hout, List.append_assoc, List.singleton_append]
      · intro p hp
        rcases List.mem_cons.1 hp with rfl | hp
        · exact hname
        · intro hmem
          refine hnew p hp ?_
          rw [List.map_append, ← List.append_assoc]
          exact List.mem_append_left _ hmem
      · rw [List.map_cons, List.nodup_cons]
        refine ⟨fun hmem => ?_, hnodup⟩
        obtain ⟨p, hp, hpn⟩ := List.mem_map.1 hmem
        refine hnew p hp ?_
        rw [List.map_append, ← List.append_assoc]
        exact List.mem_append_right _ (by simpa using hpn)

/-! ## Writing the rows -/

/-- The rows that are bound, each from the values of its item. -/
theorem bindRows_forall₂ {model : Model Body} {db : Columns} {packId next : Uuid}
    {values : List (String × Values Body)} {rows : List (Row Body)}
    (h : bindRows model db packId next values = .ok rows) :
    List.Forall₂ (fun v row =>
      bindRow model db row.id (some packId) { v.2 with name := v.1 } = .ok row) values rows := by
  induction values generalizing next rows with
  | nil =>
      cases h
      exact .nil
  | cons v rest ih =>
      simp only [bindRows, bind_eq_ok] at h
      obtain ⟨row, hrow, rows', hrest, h⟩ := h
      cases h
      refine .cons ?_ (ih hrest)
      rw [(bindRow_eq_ok hrow).1]
      exact hrow

/-- The rows that are bound have the names of their items. -/
theorem names_of_bindRows {model : Model Body} {db : Columns} (hdb : db.Lawful)
    {packId next : Uuid} {values : List (String × Values Body)} {rows : List (Row Body)}
    (h : bindRows model db packId next values = .ok rows) :
    rows.map (·.name) = values.map (·.1) := by
  have hbound := bindRows_forall₂ h
  clear h
  induction hbound with
  | nil => rfl
  | cons h _ ih => rw [List.map_cons, List.map_cons, ih, (bindRow_eq_ok h).2.2.name_eq hdb]

/-- All rows are bound exactly when all values are storable. -/
theorem returns_bindRows {model : Model Body} {db : Columns} {packId next : Uuid}
    {values : List (String × Values Body)} :
    Returns (bindRows model db packId next values) ↔
      ∀ v ∈ values, Storable model db { v.2 with name := v.1 } := by
  induction values generalizing next with
  | nil => simp [bindRows]
  | cons v rest ih =>
      simp only [bindRows, returns_bind, List.forall_mem_cons]
      constructor
      · rintro ⟨row, hrow, rows, hrest, -⟩
        exact ⟨returns_bindRow.1 ⟨row, hrow⟩, ih.1 ⟨rows, hrest⟩⟩
      · rintro ⟨hv, hrest⟩
        obtain ⟨row, hrow⟩ := returns_bindRow.2 hv
        obtain ⟨rows, hrows⟩ := ih.2 hrest
        exact ⟨row, hrow, rows, hrows, returns_ok _⟩

/-- Rows under new names and new ids are written. -/
theorem Rows.saveAll_of_new {model : Model Body} {rows : Rows Body} {new : List (Row Body)}
    (hnames : (new.map (·.name)).Nodup) (hnew : ∀ r ∈ new, r.name ∉ rows.names)
    (hids : (new.map (·.id)).Nodup) (hfresh : ∀ r ∈ new, ∀ x ∈ rows.rows, x.id ≠ r.id) :
    rows.saveAll model new = .ok (rows.putAll new) := by
  induction new generalizing rows with
  | nil => rfl
  | cons r new ih =>
      rw [List.map_cons, List.nodup_cons] at hnames hids
      have hsave : rows.save model r = .ok (rows.put r) := by
        refine Rows.save_eq_ok.2 ⟨fun x hx _ hname => ?_, rfl⟩
        exact hnew r (List.mem_cons_self ..) (List.mem_map.2 ⟨x, hx, hname⟩)
      have hput : ∀ x ∈ (rows.put r).rows, x = r ∨ x ∈ rows.rows := by
        intro x hx
        rcases Table.mem_put.1 hx with hx | hx
        · exact .inl hx
        · exact .inr hx.1
      have hrest : Rows.saveAll model (rows.put r) new = .ok ((rows.put r).putAll new) := by
        apply ih hnames.2 _ hids.2
        · intro x hx y hy hid
          rcases hput y hy with rfl | hy
          · exact hids.1 (hid ▸ List.mem_map_of_mem hx)
          · exact hfresh x (List.mem_cons_of_mem _ hx) y hy hid
        · intro x hx hname
          obtain ⟨y, hy, hyn⟩ := List.mem_map.1 hname
          rcases hput y hy with rfl | hy
          · exact hnames.1 (List.mem_map.2 ⟨x, hx, hyn.symm⟩)
          · exact hnew x (List.mem_cons_of_mem _ hx) (List.mem_map.2 ⟨y, hy, hyn⟩)
      simp only [Rows.saveAll, hsave, bind, Except.bind]
      exact hrest

/-! ## The report -/

/-- What one expects for one kind of content: `planned` are its items under the
names they get, `items` what the result says about them.  Whether an item is good
is for its table to say, and its row has the values that the item holds. -/
structure KindReport (kind : Kind Body) (db : Columns) (packId : Uuid) (old new : Rows Body)
    (raws : List Json.Fields) (items : List PackInstallItem)
    (planned : List (String × Json.Fields)) : Prop where
  /-- Every item of the content has its name. -/
  planned_items : planned.map (·.2) = raws
  /-- The names are pairwise different, -/
  names_nodup : (planned.map (·.1)).Nodup
  /-- and no existing row has one of them. -/
  names_new : ∀ p ∈ planned, p.1 ∉ old.names
  /-- There is one result for each item: a success for a good one, an error for
  any other. -/
  one_item : (items.map fun item => (item.name, item.status)).Perm
    (planned.map fun p => (p.1, if kind.good db p then .success else .error))
  /-- A good item is written as a row with its values. -/
  written : ∀ p ∈ planned, kind.good db p = true → ∃ row ∈ new.rows, row ∉ old.rows ∧
    row.name = p.1 ∧ row.templatePackId = some packId ∧
    ∃ v, kind.columns p.1 p.2 = some v ∧ Bound kind.model db v row
  /-- The rows that were there stay as they are. -/
  kept : ∀ row ∈ old.rows, row ∈ new.rows
  /-- Nothing else is written. -/
  only : ∀ row ∈ new.rows, row ∈ old.rows ∨
    ∃ p ∈ planned, kind.good db p = true ∧ row.name = p.1

/-- What one expects of the result of an installation. -/
structure InstallReport (env : Env) (s s' : Store) (pack : PackRow) (result : PackInstallResult) :
    Prop where
  commands : ∀ planned, planNames env .command .rename s.commands.names [] pack.commands =
    .ok planned → KindReport (commandKind env) env.db pack.id s.commands s'.commands
      pack.commands (result.results.filter fun item => item.entityType = .command) planned
  scripts : ∀ planned, planNames env .script .rename s.scripts.names [] pack.scripts =
    .ok planned → KindReport (scriptKind env) env.db pack.id s.scripts s'.scripts
      pack.scripts (result.results.filter fun item => item.entityType = .script) planned
  results : result.results.length = result.total
  total : result.total = result.succeeded + result.failed
  items : result.total = pack.commands.length + pack.scripts.length

theorem KindReport.of_eq {kind : Kind Body} {db : Columns} {packId : Uuid}
    {old new : Rows Body} {raws : List Json.Fields} {items items' : List PackInstallItem}
    {planned : List (String × Json.Fields)}
    (h : KindReport kind db packId old new raws items planned) (heq : items' = items) :
    KindReport kind db packId old new raws items' planned := by
  rw [heq]
  exact h

/-- There are as many results as items. -/
theorem KindReport.length_eq {kind : Kind Body} {db : Columns} {packId : Uuid}
    {old new : Rows Body} {raws : List Json.Fields} {items : List PackInstallItem}
    {planned : List (String × Json.Fields)}
    (h : KindReport kind db packId old new raws items planned) : items.length = raws.length := by
  have hlen := h.one_item.length_eq
  rw [List.length_map, List.length_map] at hlen
  rw [hlen, ← h.planned_items, List.length_map]

/-- The payload check and the table agree on every item under the name it gets: it
passes the check exactly when the table takes it. -/
def ChecksAgree (kind : Kind Body) (env : Env) (existing : List String)
    (raws : List Json.Fields) : Prop :=
  ∀ planned, planNames env kind.entity .rename existing [] raws = .ok planned →
    ∀ p ∈ planned, kind.passes p = kind.good env.db p

/-! ## One kind of content -/

theorem mem_validPlanned {validate : Json.Fields → Except Failure (Values Body)}
    {planned : List (String × Json.Fields)} {x : String × Values Body} :
    x ∈ validPlanned validate planned ↔
      ∃ p ∈ planned, p.1 = x.1 ∧ validate (plannedPayload p) = .ok x.2 := by
  simp only [validPlanned, List.mem_filterMap]
  constructor
  · rintro ⟨p, hp, hx⟩
    cases hv : validate (plannedPayload p) with
    | error e => simp [hv] at hx
    | ok v =>
        simp only [hv, Option.some.injEq] at hx
        subst hx
        exact ⟨p, hp, rfl, hv⟩
  · rintro ⟨p, hp, hname, hv⟩
    exact ⟨p, hp, by rw [hv, hname]⟩

/-- Where the check agrees with the table, valid items are storable. -/
theorem Kind.ReadsAlike.storable_planned {kind : Kind Body} (halike : kind.ReadsAlike)
    {db : Columns} {planned : List (String × Json.Fields)}
    (hagree : ∀ p ∈ planned, kind.passes p = kind.good db p) {x : String × Values Body}
    (hx : x ∈ validPlanned kind.validate planned) :
    Storable kind.model db { x.2 with name := x.1 } := by
  obtain ⟨p, hp, hname, hv⟩ := mem_validPlanned.1 hx
  have hgood := (hagree p hp).symm.trans (Kind.passes_iff.2 ⟨x.2, hv⟩)
  have hsame : ({ x.2 with name := x.1 } : Values Body) = x.2 := by
    rw [← hname, ← halike.name hv]
  rw [hsame]
  exact (halike.storable hgood hv).2

/-- The names of the valid items are names of planned ones. -/
theorem validPlanned_sublist (validate : Json.Fields → Except Failure (Values Body))
    (planned : List (String × Json.Fields)) :
    ((validPlanned validate planned).map (·.1)).Sublist (planned.map (·.1)) := by
  induction planned with
  | nil => exact List.Sublist.refl _
  | cons p rest ih =>
      unfold validPlanned
      rw [List.filterMap_cons]
      cases hv : validate (plannedPayload p) with
      | error e => exact ih.cons p.1
      | ok v => exact ih.cons_cons p.1

theorem okItems_summary (entity : EntityType) (next : Uuid) (values : List (String × Values Body)) :
    (okItems entity next values).map (fun item => (item.name, item.status)) =
      values.map fun v => (v.1, .success) := by
  induction values generalizing next with
  | nil => rfl
  | cons v rest ih => rw [okItems, List.map_cons, ih, List.map_cons]

/-- One result for each planned item. -/
theorem summary_perm (entity : EntityType)
    (validate : Json.Fields → Except Failure (Values Body)) (next : Uuid)
    (planned : List (String × Json.Fields)) :
    ((okItems entity next (validPlanned validate planned) ++
        errorItems entity validate planned).map fun item => (item.name, item.status)).Perm
      (planned.map fun p =>
        (p.1, if (validate (plannedPayload p)).isOk then ItemStatus.success else .error)) := by
  rw [List.map_append, okItems_summary]
  clear next
  induction planned with
  | nil => exact List.Perm.refl _
  | cons p rest ih =>
      unfold validPlanned errorItems
      rw [List.filterMap_cons, List.filterMap_cons]
      cases hv : validate (plannedPayload p) with
      | error e =>
          simp only [List.map_cons, hv, Except.isOk, Except.toBool, Bool.false_eq_true, if_false]
          exact List.perm_middle.trans (ih.cons _)
      | ok v =>
          simp only [List.map_cons, hv, Except.isOk, Except.toBool, if_true, List.cons_append]
          exact ih.cons _

/-- The report on one kind of content, when its check agrees with its table. -/
theorem kindReport {kind : Kind Body} (halike : kind.ReadsAlike) {db : Columns} (hdb : db.Lawful)
    {packId next : Uuid} {old : Rows Body} {raws : List Json.Fields}
    {planned : List (String × Json.Fields)} (hraws : planned.map (·.2) = raws)
    (hnew : ∀ p ∈ planned, p.1 ∉ old.names) (hnodup : (planned.map (·.1)).Nodup)
    (hagree : ∀ p ∈ planned, kind.passes p = kind.good db p)
    (hold : ∀ r ∈ old.rows, r.id < next) {rows : List (Row Body)}
    (hrows : bindRows kind.model db packId next (validPlanned kind.validate planned) = .ok rows) :
    old.saveAll kind.model rows = .ok (old.putAll rows) ∧
      KindReport kind db packId old (old.putAll rows) raws
        (okItems kind.entity next (validPlanned kind.validate planned) ++
          errorItems kind.entity kind.validate planned) planned := by
  have hbound := bindRows_forall₂ hrows
  have hids := ids_of_bindRows hrows
  have hpack := pack_of_bindRows hrows
  have hnames := names_of_bindRows hdb hrows
  have hfresh : ∀ row ∈ rows, ∀ x ∈ old.rows, x.id ≠ row.id := by
    intro row hrow x hx hid
    have hmem : row.id ∈ rows.map (·.id) := List.mem_map_of_mem hrow
    rw [hids, List.mem_range'_1] at hmem
    exact Nat.ne_of_lt (Nat.lt_of_lt_of_le (hold x hx) hmem.1) hid
  have hidsNodup : (rows.map (·.id)).Nodup := by
    rw [hids]
    exact List.nodup_range'
  have hnewRows : ∀ row ∈ rows, row.name ∉ old.names := by
    intro row hrow
    have hmem : row.name ∈ rows.map (·.name) := List.mem_map_of_mem hrow
    rw [hnames] at hmem
    obtain ⟨p, hp, hpn⟩ := List.mem_map.1 ((validPlanned_sublist _ _).subset hmem)
    rw [← hpn]
    exact hnew p hp
  have hnamesNodup : (rows.map (·.name)).Nodup := by
    rw [hnames]
    exact (validPlanned_sublist _ _).nodup hnodup
  have hmem : ∀ row, row ∈ (old.putAll rows).rows ↔ row ∈ old.rows ∨ row ∈ rows :=
    fun row => Table.mem_putAll hidsNodup hfresh
  refine ⟨Rows.saveAll_of_new hnamesNodup hnewRows hidsNodup hfresh, ?_⟩
  exact
    { planned_items := hraws
      names_nodup := hnodup
      names_new := hnew
      one_item := by
        have hstatus : (planned.map fun p => (p.1, if kind.good db p then ItemStatus.success
            else .error)) = planned.map fun p =>
              (p.1, if kind.passes p then .success else .error) :=
          List.map_congr_left fun p hp => by rw [hagree p hp]
        rw [hstatus]
        exact summary_perm kind.entity kind.validate next planned
      written := by
        intro p hp hg
        obtain ⟨v, hv⟩ := Kind.passes_iff.1 ((hagree p hp).trans hg)
        have hvalid : (p.1, v) ∈ validPlanned kind.validate planned :=
          mem_validPlanned.2 ⟨p, hp, rfl, hv⟩
        obtain ⟨hcolumns, -⟩ := halike.storable hg hv
        obtain ⟨row, hrow, hb⟩ := exists_of_forall₂_left hbound hvalid
        have hb := (bindRow_eq_ok hb).2.2
        have hname : ({ v with name := p.1 } : Values Body) = v := by rw [← halike.name hv]
        refine ⟨row, (hmem row).2 (.inr hrow), ?_, hb.name_eq hdb, hpack row hrow, v, hcolumns, ?_⟩
        · exact fun hrowOld => hfresh row hrow row hrowOld rfl
        · exact hname ▸ hb
      kept := fun row hrow => (hmem row).2 (.inl hrow)
      only := by
        intro row hrow
        rcases (hmem row).1 hrow with hrow | hrow
        · exact .inl hrow
        · obtain ⟨x, hx, hb⟩ := exists_of_forall₂_right hbound hrow
          obtain ⟨p, hp, hpx, hv⟩ := mem_validPlanned.1 hx
          refine .inr ⟨p, hp, ?_, ?_⟩
          · rw [← hagree p hp]
            exact Kind.passes_iff.2 ⟨x.2, hv⟩
          · rw [(bindRow_eq_ok hb).2.2.name_eq hdb, hpx] }

/-- The items about one kind of content are those of that kind. -/
theorem entityType_of_okItems {entity : EntityType} {next : Uuid}
    {values : List (String × Values Body)} {item : PackInstallItem}
    (h : item ∈ okItems entity next values) : item.entityType = entity := by
  induction values generalizing next with
  | nil => cases h
  | cons v rest ih =>
      rcases List.mem_cons.1 h with rfl | h
      · rfl
      · exact ih h

theorem entityType_of_errorItems {entity : EntityType}
    {validate : Json.Fields → Except Failure (Values Body)}
    {planned : List (String × Json.Fields)} {item : PackInstallItem}
    (h : item ∈ errorItems entity validate planned) : item.entityType = entity := by
  obtain ⟨p, -, hitem⟩ := List.mem_filterMap.1 h
  split at hitem
  · cases hitem
  · cases hitem
    rfl

/-- Filtering the items of one kind by a kind. -/
theorem filter_entity {items : List PackInstallItem} {entity : EntityType}
    (h : ∀ item ∈ items, item.entityType = entity) (entity' : EntityType) :
    items.filter (fun item => item.entityType = entity') =
      if entity = entity' then items else [] := by
  split
  · rename_i heq
    exact List.filter_eq_self.2 fun item hitem => by simp [h item hitem, heq]
  · rename_i hne
    exact List.filter_eq_nil_iff.2 fun item hitem => by simp [h item hitem, hne]

/-- The results about one kind, out of all results. -/
theorem filter_results {okC errC okS errS : List PackInstallItem}
    (hokC : ∀ item ∈ okC, item.entityType = .command)
    (herrC : ∀ item ∈ errC, item.entityType = .command)
    (hokS : ∀ item ∈ okS, item.entityType = .script)
    (herrS : ∀ item ∈ errS, item.entityType = .script) :
    (okC ++ okS ++ (errC ++ errS)).filter (fun item => item.entityType = .command) = okC ++ errC ∧
      (okC ++ okS ++ (errC ++ errS)).filter (fun item => item.entityType = .script) =
        okS ++ errS := by
  simp only [List.filter_append, filter_entity hokC, filter_entity herrC, filter_entity hokS,
    filter_entity herrS]
  simp

/-! ## The main result -/

/-- The results of an installation that returns, by the planned items. -/
theorem results_of_install {env : Env} {now : Time} {s s' : Store} {pack : PackRow}
    {result : PackInstallResult} (h : installInSession env now .rename s pack = .ok (s', result))
    {plannedC plannedS : List (String × Json.Fields)}
    (hplanC : planNames env .command .rename s.commands.names [] pack.commands = .ok plannedC)
    (hplanS : planNames env .script .rename s.scripts.names [] pack.scripts = .ok plannedS) :
    ∃ nextC nextS,
      result.results.filter (fun item => item.entityType = .command) =
        okItems .command nextC (validPlanned (commandKind env).validate plannedC) ++
          errorItems .command (commandKind env).validate plannedC ∧
      result.results.filter (fun item => item.entityType = .script) =
        okItems .script nextS (validPlanned (scriptKind env).validate plannedS) ++
          errorItems .script (scriptKind env).validate plannedS := by
  unfold installInSession at h
  split at h
  · cases h
  · split at h
    · -- an empty pack: nothing is planned
      rename_i hempty
      simp only [Bool.and_eq_true, List.isEmpty_iff] at hempty
      rw [hempty.1] at hplanC
      rw [hempty.2] at hplanS
      cases hplanC
      cases hplanS
      cases h
      exact ⟨0, 0, rfl, rfl⟩
    · simp only [bind_eq_ok] at h
      obtain ⟨plannedC', hplanC', plannedS', hplanS', newC, -, newS, -, commands, -, scripts, -, h⟩ :=
        h
      cases hplanC.symm.trans hplanC'
      cases hplanS.symm.trans hplanS'
      cases h
      exact ⟨_, _, filter_results (fun _ => entityType_of_okItems)
        (fun _ => entityType_of_errorItems) (fun _ => entityType_of_okItems)
        (fun _ => entityType_of_errorItems)⟩

/-- Two labellings of items with different names that agree up to order agree. -/
theorem eq_of_labels_perm {α β γ : Type} {key : α → β} {f g : α → γ} {items : List α}
    (hnodup : (items.map key).Nodup)
    (h : (items.map fun a => (key a, f a)).Perm (items.map fun a => (key a, g a))) :
    ∀ a ∈ items, f a = g a := by
  intro a ha
  have hmem : (key a, f a) ∈ items.map fun a => (key a, g a) :=
    h.subset (List.mem_map.2 ⟨a, ha, rfl⟩)
  obtain ⟨b, hb, heq⟩ := List.mem_map.1 hmem
  rw [Prod.mk.injEq] at heq
  have hab : b = a := List.inj_on_of_nodup_map hnodup hb ha heq.1
  rw [← heq.2, hab]

/-- Where the report is right, the check agrees with the table. -/
theorem KindReport.agree {kind : Kind Body} {db : Columns} {packId next : Uuid}
    {old new : Rows Body} {raws : List Json.Fields} {planned : List (String × Json.Fields)}
    (h : KindReport kind db packId old new raws
      (okItems kind.entity next (validPlanned kind.validate planned) ++
        errorItems kind.entity kind.validate planned) planned) :
    ∀ p ∈ planned, kind.passes p = kind.good db p := by
  intro p hp
  have hsame := eq_of_labels_perm h.names_nodup
    ((summary_perm kind.entity kind.validate next planned).symm.trans h.one_item) p hp
  have hstatus : (if kind.passes p = true then ItemStatus.success else .error) =
      if kind.good db p = true then .success else .error := hsame
  cases hpasses : kind.passes p <;> cases hgood : kind.good db p <;>
    simp [hpasses, hgood] at hstatus ⊢

/-- **When an installation isolates bad items.**  Installing a pack that is not
installed, with renaming, returns a result as expected if and only if the payload
checks and the tables agree on every item: it passes its check under the name it
gets exactly when its table takes it. -/
theorem install_isolates_iff {env : Env} (hdb : env.db.Lawful) {s : Store} (hs : s.Drawn)
    {packId : Uuid} {pack : PackRow} (hpack : s.packs.find? packId = some pack)
    (hnot : pack.installedVersion = none) (now : Time) :
    (∃ s' result, installPack env now s packId .rename = .ok (s', result) ∧
        InstallReport env s s' pack result) ↔
      ChecksAgree (commandKind env) env s.commands.names pack.commands ∧
        ChecksAgree (scriptKind env) env s.scripts.names pack.scripts := by
  have hinstall : installPack env now s packId .rename = installInSession env now .rename s pack := by
    unfold installPack
    rw [hpack]
  rw [hinstall]
  obtain ⟨plannedC, hplanC, hrawsC, hnewC, hnodupC⟩ :=
    planNames_rename env .command s.commands.names [] pack.commands
  obtain ⟨plannedS, hplanS, hrawsS, hnewS, hnodupS⟩ :=
    planNames_rename env .script s.scripts.names [] pack.scripts
  rw [List.nil_append] at hplanC hplanS
  simp only [List.map_nil, List.append_nil] at hnewC hnewS
  constructor
  · rintro ⟨s', result, h, hreport⟩
    obtain ⟨nextC, nextS, hresultsC, hresultsS⟩ := results_of_install h hplanC hplanS
    have hreportC := hreport.commands plannedC hplanC
    have hreportS := hreport.scripts plannedS hplanS
    rw [hresultsC] at hreportC
    rw [hresultsS] at hreportS
    constructor
    · intro planned hplan
      cases hplanC.symm.trans hplan
      exact hreportC.agree
    · intro planned hplan
      cases hplanS.symm.trans hplan
      exact hreportS.agree
  · rintro ⟨hagreeC, hagreeS⟩
    replace hagreeC := hagreeC plannedC hplanC
    replace hagreeS := hagreeS plannedS hplanS
    have halikeC := commandKind_readsAlike env
    have halikeS := scriptKind_readsAlike env
    obtain ⟨newC, hbindC⟩ : Returns (bindRows commandModel env.db pack.id s.nextId
        (validPlanned (commandKind env).validate plannedC)) :=
      returns_bindRows.2 fun v hv => halikeC.storable_planned hagreeC hv
    obtain ⟨newS, hbindS⟩ : Returns (bindRows scriptModel env.db pack.id
        (s.nextId + (validPlanned (commandKind env).validate plannedC).length)
        (validPlanned (scriptKind env).validate plannedS)) :=
      returns_bindRows.2 fun v hv => halikeS.storable_planned hagreeS hv
    obtain ⟨hsaveC, hreportC⟩ := kindReport halikeC hdb hrawsC hnewC hnodupC hagreeC hs.commands
      hbindC
    obtain ⟨hsaveS, hreportS⟩ := kindReport halikeS hdb hrawsS hnewS hnodupS hagreeS
      (fun r hr => Nat.lt_of_lt_of_le (hs.scripts r hr) (Nat.le_add_right ..)) hbindS
    by_cases hempty : (pack.commands.isEmpty && pack.scripts.isEmpty) = true
    · -- an empty pack: nothing is planned
      simp only [Bool.and_eq_true, List.isEmpty_iff] at hempty
      have hnoneC : plannedC = [] := List.map_eq_nil_iff.1 (hrawsC.trans hempty.1)
      have hnoneS : plannedS = [] := List.map_eq_nil_iff.1 (hrawsS.trans hempty.2)
      subst hnoneC hnoneS
      cases hbindC
      cases hbindS
      refine ⟨s, ⟨pack.id, pack.version, 0, 0, 0, []⟩, ?_, ?_⟩
      · unfold installInSession
        simp [hnot, hempty]
      · exact
          { commands := fun planned hplan => by
              cases hplanC.symm.trans hplan
              exact hreportC
            scripts := fun planned hplan => by
              cases hplanS.symm.trans hplan
              exact hreportS
            results := rfl
            total := rfl
            items := by simp [hempty] }
    · obtain ⟨hfilterC, hfilterS⟩ := filter_results
        (fun _ => @entityType_of_okItems _ .command s.nextId
          (validPlanned (commandKind env).validate plannedC) _)
        (fun _ => @entityType_of_errorItems _ .command (commandKind env).validate plannedC _)
        (fun _ => @entityType_of_okItems _ .script
          (s.nextId + (validPlanned (commandKind env).validate plannedC).length)
          (validPlanned (scriptKind env).validate plannedS) _)
        (fun _ => @entityType_of_errorItems _ .script (scriptKind env).validate plannedS _)
      have hlenC := hreportC.length_eq
      have hlenS := hreportS.length_eq
      apply Exists.intro
      apply Exists.intro
      constructor
      · -- every phase succeeds
        unfold installInSession
        rw [if_neg (by simp [hnot]), if_neg hempty]
        simp only [bind_eq_ok]
        exact ⟨plannedC, hplanC, plannedS, hplanS, newC, hbindC, newS, hbindS, _, hsaveC, _, hsaveS,
          rfl⟩
      · exact
          { commands := fun planned hplan => by
              cases hplanC.symm.trans hplan
              exact hreportC.of_eq hfilterC
            scripts := fun planned hplan => by
              cases hplanS.symm.trans hplan
              exact hreportS.of_eq hfilterS
            results := List.length_append
            total := rfl
            items := by
              simp only [commandKind, scriptKind, List.length_append] at hlenC hlenS ⊢
              omega }

/-! ## The property, and where it fails -/

/-- The expectation for every store and every pack. -/
def InstallIsolates (env : Env) : Prop :=
  ∀ (now : Time) (s : Store) (packId : Uuid) (pack : PackRow), s.Drawn →
    s.packs.find? packId = some pack → pack.installedVersion = none →
    ∃ s' result, installPack env now s packId .rename = .ok (s', result) ∧
      InstallReport env s s' pack result

/-- A pack with given commands, not installed. -/
def packOf (commands : List Json.Fields) : PackRow where
  id := 1
  registryId := none
  packId := "tools"
  name := "Tools"
  description := none
  version := "1.0.0"
  author := none
  tags := some []
  manifestSha := none
  readme := none
  commands := commands
  scripts := []
  installedVersion := none
  installedAt := none
  createdAt := 0
  updatedAt := 0

/-- A store with one pack and one command, which is called "uptime". -/
def storeOf (pack : PackRow) : Store :=
  { Store.empty [] with
    packs := Table.empty.put pack
    commands := Table.empty.put
      { id := 0, name := "uptime", description := none, body := ⟨"uptime", .list []⟩,
        tags := some [], timeout := 30, templatePackId := none }
    nextId := 2 }

theorem storeOf_drawn (commands : List Json.Fields) : (storeOf (packOf commands)).Drawn where
  packs p hp := by
    rcases Table.mem_put.1 hp with rfl | hp
    · exact Nat.lt_succ_self 1
    · exact absurd hp.1 List.not_mem_nil
  installations link hlink := absurd hlink List.not_mem_nil
  commands r hr := by
    rcases Table.mem_put.1 hr with rfl | hr
    · exact Nat.zero_lt_succ 1
    · exact absurd hr.1 List.not_mem_nil
  scripts r hr := absurd hr List.not_mem_nil

/-- A good item and one with a timeout of 5000 seconds, which the payload check
accepts and the table refuses. -/
def longTimeout : List Json.Fields :=
  [[("name", .str "disk"), ("command", .str "df -h")],
   [("name", .str "backup"), ("command", .str "backup.sh"), ("timeout", .int 5000)]]

/-- **The property fails**: one item with a timeout beyond the range undoes the
installation of all the others. -/
theorem not_installIsolates : ¬ InstallIsolates plainEnv := by
  intro h
  obtain ⟨s', result, hrun, -⟩ := h 0 (storeOf (packOf longTimeout)) 1 (packOf longTimeout)
    (storeOf_drawn longTimeout) rfl rfl
  have hraise : installPack plainEnv 0 (storeOf (packOf longTimeout)) 1 .rename =
      .error (.integrityError "ck_commands_timeout") := rfl
  rw [hraise] at hrun
  cases hrun

/-- An item whose name is taken and an item without a command line. -/
def takenAndBad : List Json.Fields :=
  [[("name", .str "uptime"), ("command", .str "uptime -p"), ("timeout", .int 10)],
   [("name", .str "broken")]]

/-- The first item is written under a new name, the second one is reported. -/
theorem install_isolates_takenAndBad :
    ∃ s' result, installPack plainEnv 0 (storeOf (packOf takenAndBad)) 1 .rename =
        .ok (s', result) ∧
      InstallReport plainEnv (storeOf (packOf takenAndBad)) s' (packOf takenAndBad) result := by
  have hfind : (storeOf (packOf takenAndBad)).packs.find? 1 = some (packOf takenAndBad) := rfl
  refine (install_isolates_iff plainColumns_lawful (storeOf_drawn takenAndBad) hfind rfl 0).2
    ⟨?_, ?_⟩
  · intro planned hplan p hp
    cases hplan
    rcases List.mem_cons.1 hp with rfl | hp
    · rfl
    · rw [List.mem_singleton.1 hp]
      rfl
  · intro planned hplan p hp
    cases hplan
    cases hp

end Pack
end NodeNexus
