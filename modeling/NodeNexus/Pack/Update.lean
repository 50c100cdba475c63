import NodeNexus.Pack.LinksRemoved
import NodeNexus.Pack.Runs

/-!
# Updating a pack

`update_pack` uninstalls a pack and installs its current content in one
transaction and one session.  The names that the rows of the pack had are free
for its new rows, so with `on_conflict="fail"` only other rows can stand in the
way, and where they do, everything stays as it was.

* `Conflicts` is a computation that raises `PackConflictError`; `conflicts_bind`
  takes it apart.
* `conflicts_planNames` — name resolution raises it exactly when the names of
  the items clash with each other or with a row.
* `update_conflicts_iff` — when an update raises it, that the store is then as
  before, and that an update is otherwise an uninstallation followed by an
  installation.  Names of commands and names of scripts are separate, so a
  script cannot stand in the way of a command.
-/

namespace NodeNexus
namespace Pack

open Content

variable {Body : Type} {α β : Type}

/-! ## Computations that raise a conflict -/

/-- The computation raises `PackConflictError`. -/
def Conflicts (x : Except Failure α) : Prop :=
  ∃ message, x = .error (.packConflictError message)

@[simp] theorem not_conflicts_ok (a : α) : ¬Conflicts (.ok a : Except Failure α) := by
  rintro ⟨message, h⟩
  cases h

@[simp] theorem conflicts_error {e : Failure} :
    Conflicts (.error e : Except Failure α) ↔ ∃ message, e = .packConflictError message := by
  constructor
  · rintro ⟨message, h⟩
    exact ⟨message, Except.error.inj h⟩
  · rintro ⟨message, rfl⟩
    exact ⟨message, rfl⟩

/-- A sequence raises a conflict in its first step or after it. -/
theorem conflicts_bind {x : Except Failure α} {f : α → Except Failure β} :
    Conflicts (x >>= f) ↔ Conflicts x ∨ ∃ a, x = .ok a ∧ Conflicts (f a) := by
  cases x with
  | error e => simp [bind, Except.bind]
  | ok a => simp [bind, Except.bind]

theorem conflicts_map {x : Except Failure α} {f : α → β} :
    Conflicts (x.map f) ↔ Conflicts x := by
  cases x with
  | error e => simp [Except.map]
  | ok a => simp [Except.map]

/-- What is documented about the driver: it raises its own errors. -/
structure RaisesDataError (db : Columns) : Prop where
  text : ∀ s e, db.text s = .error e → e = .dataError
  textOrNull : ∀ j e, db.textOrNull j = .error e → e = .dataError
  texts : ∀ ts e, db.texts ts = .error e → e = .dataError
  json : ∀ j e, db.json j = .error e → e = .dataError

theorem not_conflicts_of_dataError {x : Except Failure α}
    (h : ∀ e, x = .error e → e = .dataError) : ¬Conflicts x := by
  rintro ⟨message, hx⟩
  cases h _ hx

/-- The columns of a body raise no conflict. -/
def QuietModel (model : Model Body) (db : Columns) : Prop :=
  ∀ body, ¬Conflicts (model.bindBody db body)

theorem quiet_commandModel {db : Columns} (hdb : RaisesDataError db) :
    QuietModel commandModel db := by
  intro body
  simp only [commandModel, conflicts_bind]
  rintro (h | ⟨command, -, h | ⟨parameters, -, h⟩⟩)
  · exact not_conflicts_of_dataError (hdb.text _) h
  · exact not_conflicts_of_dataError (hdb.json _) h
  · exact not_conflicts_ok _ h

theorem quiet_scriptModel {db : Columns} (hdb : RaisesDataError db) :
    QuietModel scriptModel db := by
  intro body
  simp only [scriptModel, conflicts_bind]
  rintro (h | ⟨steps, -, h⟩)
  · exact not_conflicts_of_dataError (hdb.json _) h
  · exact not_conflicts_ok _ h

/-! ## Writing rows -/

section Writing

variable {model : Model Body} {db : Columns}

theorem not_conflicts_bindRow (hdb : RaisesDataError db) (hmodel : QuietModel model db) (id : Uuid)
    (packId : Option Uuid) (v : Values Body) : ¬Conflicts (bindRow model db id packId v) := by
  simp only [bindRow, conflicts_bind]
  rintro (h | ⟨name, -, h | ⟨description, -, h | ⟨body, -, h | ⟨tags, -, h | ⟨timeout, -, h⟩⟩⟩⟩⟩)
  · unfold bindName at h
    split at h
    · exact not_conflicts_of_dataError (hdb.text _) h
    · simp at h
  · exact not_conflicts_of_dataError (hdb.textOrNull _) h
  · exact hmodel _ h
  · unfold bindTags at h
    split at h
    · exact not_conflicts_ok _ h
    · exact not_conflicts_of_dataError (hdb.texts _) (conflicts_map.1 h)
  · unfold bindTimeout at h
    split at h
    · exact not_conflicts_ok _ h
    · simp at h
  · exact not_conflicts_ok _ h

theorem not_conflicts_bindRows (hdb : RaisesDataError db) (hmodel : QuietModel model db)
    (packId next : Uuid) (values : List (String × Values Body)) :
    ¬Conflicts (bindRows model db packId next values) := by
  induction values generalizing next with
  | nil => exact not_conflicts_ok _
  | cons v rest ih =>
      simp only [bindRows, conflicts_bind]
      rintro (h | ⟨row, -, h | ⟨rows, -, h⟩⟩)
      · exact not_conflicts_bindRow hdb hmodel _ _ _ h
      · exact ih _ h
      · exact not_conflicts_ok _ h

/-- The unique indexes raise `IntegrityError`. -/
theorem not_conflicts_saveAll (rows : Rows Body) (new : List (Row Body)) :
    ¬Conflicts (rows.saveAll model new) := by
  induction new generalizing rows with
  | nil => exact not_conflicts_ok _
  | cons r new ih =>
      simp only [Rows.saveAll, conflicts_bind]
      rintro (h | ⟨rows', -, h⟩)
      · unfold Rows.save at h
        split at h <;> simp at h
      · exact ih _ h

end Writing

/-! ## Resolving names -/

/-- Without renaming, name resolution raises nothing but a conflict. -/
theorem returns_or_conflicts_planNames (env : Env) (entity : EntityType) (existing : List String)
    (planned : List (String × Json.Fields)) (raws : List Json.Fields) :
    Returns (planNames env entity .fail existing planned raws) ∨
      Conflicts (planNames env entity .fail existing planned raws) := by
  induction raws generalizing planned with
  | nil => exact .inl (returns_ok _)
  | cons raw rest ih =>
      simp only [planNames]
      split
      · exact .inr ⟨_, rfl⟩
      · exact ih _

/-- **Name resolution raises a conflict exactly when names clash**: two items
ask for one name, or an item asks for one that is in use. -/
theorem conflicts_planNames {env : Env} {entity : EntityType} {existing : List String}
    {planned : List (String × Json.Fields)} {raws : List Json.Fields} :
    Conflicts (planNames env entity .fail existing planned raws) ↔
      ¬(raws.map (wantedName env entity)).Nodup ∨
        ∃ raw ∈ raws, wantedName env entity raw ∈ existing ++ planned.map (·.1) := by
  induction raws generalizing planned with
  | nil => simp [planNames]
  | cons raw rest ih =>
      simp only [planNames]
      split
      · rename_i hused
        exact iff_of_true ⟨_, rfl⟩ (.inr ⟨raw, List.mem_cons_self .., hused⟩)
      · rename_i hused
        -- the name of this item is in use for the ones after it
        have hmem : ∀ name, name ∈ existing ++ (planned ++ [(wantedName env entity raw, raw)]).map
            (·.1) ↔ name ∈ existing ++ planned.map (·.1) ∨ name = wantedName env entity raw := by
          intro name
          simp [or_assoc]
        rw [ih, List.map_cons, List.nodup_cons, Classical.not_and_iff_not_or_not, not_not]
        constructor
        · rintro (h | ⟨raw', hraw', h⟩)
          · exact .inl (.inr h)
          · rcases (hmem _).1 h with h | h
            · exact .inr ⟨raw', List.mem_cons_of_mem _ hraw', h⟩
            · exact .inl (.inl (List.mem_map.2 ⟨raw', hraw', h⟩))
        · rintro ((h | h) | ⟨raw', hraw', h⟩)
          · obtain ⟨raw', hraw', h⟩ := List.mem_map.1 h
            exact .inr ⟨raw', hraw', (hmem _).2 (.inr h)⟩
          · exact .inl h
          · rcases List.mem_cons.1 hraw' with rfl | hraw'
            · exact absurd h hused
            · exact .inr ⟨raw', hraw', (hmem _).2 (.inl h)⟩

/-- Installing a pack with some content raises a conflict exactly when the names
of its commands or the names of its scripts cannot be resolved. -/
theorem conflicts_installInSession {env : Env} (hdb : RaisesDataError env.db) {now : Time}
    {s : Store} {pack : PackRow} (hnot : pack.installedVersion = none)
    (hcontent : ¬(pack.commands = [] ∧ pack.scripts = [])) :
    Conflicts (installInSession env now .fail s pack) ↔
      Conflicts (planNames env .command .fail s.commands.names [] pack.commands) ∨
        Conflicts (planNames env .script .fail s.scripts.names [] pack.scripts) := by
  unfold installInSession
  rw [if_neg (by simp [hnot]), if_neg (by simpa using hcontent)]
  simp only [conflicts_bind]
  constructor
  · rintro (h | ⟨plannedC, -, h | ⟨plannedS, -, h | ⟨newC, -, h | ⟨newS, -, h | ⟨commands, -, h |
      ⟨scripts, -, h⟩⟩⟩⟩⟩⟩)
    · exact .inl h
    · exact .inr h
    · exact absurd h (not_conflicts_bindRows hdb (quiet_commandModel hdb) _ _ _)
    · exact absurd h (not_conflicts_bindRows hdb (quiet_scriptModel hdb) _ _ _)
    · exact absurd h (not_conflicts_saveAll _ _)
    · exact absurd h (not_conflicts_saveAll _ _)
    · exact absurd h (not_conflicts_ok _)
  · intro h
    rcases returns_or_conflicts_planNames env .command s.commands.names [] pack.commands with
      ⟨plannedC, hplanC⟩ | hconflict
    · rcases h with h | h
      · exact .inl h
      · exact .inr ⟨plannedC, hplanC, .inl h⟩
    · exact .inl hconflict

/-! ## The update -/

/-- The names of the items of one kind clash: with each other, or with a row of
that kind that is not linked to the pack. -/
def NamesClash (env : Env) (s : Store) (packId : Uuid) (entity : EntityType) (rows : Rows Body)
    (raws : List Json.Fields) : Prop :=
  ¬(raws.map (wantedName env entity)).Nodup ∨
    ∃ raw ∈ raws, ∃ r ∈ rows.rows, r.name = wantedName env entity raw ∧
      ¬s.linked packId entity r.id

/-- After an uninstallation the names in use are those of the rows that are not
linked to the pack. -/
theorem conflicts_planNames_uninstalled {env : Env} {s : Store} {packId : Uuid}
    {entity : EntityType} {old rest : Rows Body} {raws : List Json.Fields}
    (hrest : ∀ r, r ∈ rest.rows ↔ r ∈ old.rows ∧ ¬s.linked packId entity r.id) :
    Conflicts (planNames env entity .fail rest.names [] raws) ↔
      NamesClash env s packId entity old raws := by
  rw [conflicts_planNames, List.map_nil, List.append_nil]
  apply or_congr_right
  constructor
  · rintro ⟨raw, hraw, hname⟩
    obtain ⟨r, hr, hrn⟩ := List.mem_map.1 hname
    obtain ⟨hr, hnot⟩ := (hrest r).1 hr
    exact ⟨raw, hraw, r, hr, hrn, hnot⟩
  · rintro ⟨raw, hraw, r, hr, hrn, hnot⟩
    exact ⟨raw, hraw, List.mem_map.2 ⟨r, (hrest r).2 ⟨hr, hnot⟩, hrn⟩⟩

/-- An update is an uninstallation followed by an installation. -/
theorem updatePack_eq {env : Env} {now : Time} {s : Store} {packId : Uuid} {pack : PackRow}
    (hpack : s.packs.find? packId = some pack) (onConflict : OnConflict) :
    ∃ t, uninstallPack env now s packId = .ok t ∧
      updatePack env now s packId onConflict = installPack env now t packId onConflict := by
  refine ⟨uninstallInSession now s pack, ?_, ?_⟩
  · unfold uninstallPack
    rw [hpack]
  · have hu := uninstalled_uninstallInSession now s pack
    have hfind : (uninstallInSession now s pack).packs.find? packId =
        some (pack.uninstalled now) := by
      have hkey : packId = (pack.uninstalled now).id := (Table.key_of_find? hpack).symm
      rw [hu.packs, Table.find?_put, if_pos hkey]
    unfold updatePack installPack
    rw [hpack, hfind]

/-- **When an update conflicts, and what it does.**  Updating a pack with some
content raises `PackConflictError` if and only if the names of its commands or
the names of its scripts clash.  Whenever it raises, the store stays as it was.
When it returns, the store is the one after uninstalling and installing. -/
theorem update_conflicts_iff {env : Env} (hdb : RaisesDataError env.db) {s : Store}
    {packId : Uuid} {pack : PackRow} (hpack : s.packs.find? packId = some pack)
    (hcontent : ¬(pack.commands = [] ∧ pack.scripts = [])) (now : Time) :
    (Conflicts (updatePack env now s packId .fail) ↔
        NamesClash env s packId .command s.commands pack.commands ∨
          NamesClash env s packId .script s.scripts pack.scripts) ∧
      (¬Returns (updatePack env now s packId .fail) →
        perform env s (.updatePack now packId .fail) = s) ∧
      ∀ s' result, updatePack env now s packId .fail = .ok (s', result) →
        ∃ t, uninstallPack env now s packId = .ok t ∧
          installPack env now t packId .fail = .ok (s', result) := by
  refine ⟨?_, ?_, ?_⟩
  · have hu := uninstalled_uninstallInSession now s pack
    have hid : pack.id = packId := Table.key_of_find? hpack
    have hupdate : updatePack env now s packId .fail =
        installInSession env now .fail (uninstallInSession now s pack) (pack.uninstalled now) := by
      unfold updatePack
      rw [hpack]
    have hconflicts := @conflicts_installInSession env hdb now (uninstallInSession now s pack)
      (pack.uninstalled now) rfl hcontent
    rw [hupdate, hconflicts, ← hid]
    exact or_congr (conflicts_planNames_uninstalled hu.commands)
      (conflicts_planNames_uninstalled hu.scripts)
  · intro hnot
    rcases perform_cases env s (.updatePack now packId .fail) with hok | hsame
    · obtain ⟨p, hp, -⟩ := map_eq_ok.1 hok
      exact absurd ⟨p, hp⟩ hnot
    · exact hsame
  · intro s' result hreturn
    obtain ⟨t, huninstall, hinstall⟩ := updatePack_eq hpack .fail
    exact ⟨t, huninstall, hinstall ▸ hreturn⟩

/-! ## The expectation for rows of any kind, and where it fails -/

/-- Some row of any kind that is not linked to the pack has the name. -/
def NamedElsewhere (s : Store) (packId : Uuid) (name : String) : Prop :=
  (∃ r ∈ s.commands.rows, r.name = name ∧ ¬s.linked packId .command r.id) ∨
    ∃ r ∈ s.scripts.rows, r.name = name ∧ ¬s.linked packId .script r.id

/-- The expectation that a row of any kind stands in the way of an item. -/
def UpdateConflictsWithAnyRow (env : Env) : Prop :=
  ∀ s, (storeSystem env).Reachable s → ∀ now packId pack, s.packs.find? packId = some pack →
    pack.installedVersion.isSome = true → ¬(pack.commands = [] ∧ pack.scripts = []) →
    (Conflicts (updatePack env now s packId .fail) ↔
      ¬(pack.commands.map (wantedName env .command)).Nodup ∨
      ¬(pack.scripts.map (wantedName env .script)).Nodup ∨
      (∃ raw ∈ pack.commands, NamedElsewhere s packId (wantedName env .command raw)) ∨
      ∃ raw ∈ pack.scripts, NamedElsewhere s packId (wantedName env .script raw)) ∧
    (¬Returns (updatePack env now s packId .fail) →
      perform env s (.updatePack now packId .fail) = s) ∧
    ∀ s' result, updatePack env now s packId .fail = .ok (s', result) →
      ∃ t, uninstallPack env now s packId = .ok t ∧
        installPack env now t packId .fail = .ok (s', result)

/-- A pack with one command, which is called "uptime". -/
def uptimePack : PackCreate where
  name := "Uptime"
  description := none
  version := "1.0"
  author := none
  tags := []
  manifestSha := none
  readme := none
  packId := "uptime"
  registryId := none
  commands := [.object [("name", .str "uptime"), ("command", .str "uptime")]]
  scripts := []
  assets := []

/-- A script of a user, which has the same name. -/
def uptimeScript : ScriptCreate where
  name := "uptime"
  description := none
  steps := [{
    label := "check"
    type := .inline
    command := some "uptime"
    commandId := none
    commandName := none
    params := []
    onFailure := .stop
    valid := by decide }]
  tags := []
  timeout := 30
  name_ok := safeName_uptime
  description_ok := description_none
  steps_ok := by simp
  timeout_ok := timeoutInRange_default

/-- The pack is installed, then the script is created. -/
def sharedName : Store :=
  runStore plainEnv []
    [.createPack 0 uptimePack, .installPack 1 0 .fail, .createScript uptimeScript]

theorem raisesDataError_plainText (s : String) (e : Failure) (h : plainText s = .error e) :
    e = .dataError := by
  unfold plainText at h
  split at h
  · cases h
    rfl
  · cases h

theorem raisesDataError_plainTextOrNull (j : Json) (e : Failure)
    (h : plainTextOrNull j = .error e) : e = .dataError := by
  cases j with
  | null => cases h
  | str s =>
      simp only [plainTextOrNull] at h
      cases htext : plainText s with
      | ok r =>
          rw [htext] at h
          cases h
      | error f =>
          rw [htext] at h
          cases h
          exact raisesDataError_plainText s _ htext
  | bool _ | int _ | float _ | list _ | dict _ =>
      cases h
      rfl

theorem plainColumns_raisesDataError : RaisesDataError plainColumns where
  text := raisesDataError_plainText
  textOrNull := raisesDataError_plainTextOrNull
  texts ts e h := error_of_mapM raisesDataError_plainTextOrNull h
  json j e h := by cases h

/-- The pack is installed there, -/
theorem sharedName_pack : ∃ pack, sharedName.packs.find? 0 = some pack ∧
    pack.installedVersion.isSome = true ∧ pack.scripts = [] ∧
    pack.commands = [[("name", .str "uptime"), ("command", .str "uptime")]] :=
  ⟨_, rfl, rfl, rfl, rfl⟩

/-- its command is linked to it, -/
theorem sharedName_linked : ∀ r ∈ sharedName.commands.rows, sharedName.linked 0 .command r.id := by
  intro r hr
  obtain ⟨link, hlink, hpack, hentity, hid⟩ : ∃ link ∈ sharedName.installations.rows,
      link.packId = 0 ∧ link.entityType = .command ∧ link.entityId = 1 :=
    ⟨_, List.mem_cons_self .., rfl, rfl, rfl⟩
  have hrows : ∀ r ∈ sharedName.commands.rows, r.id = 1 := by decide
  exact ⟨link, hlink, hpack, hentity, hid.trans (hrows r hr).symm⟩

/-- and the script of the user is not. -/
theorem sharedName_script : NamedElsewhere sharedName 0 "uptime" := by
  obtain ⟨r, hr, hname, hid⟩ : ∃ r ∈ sharedName.scripts.rows, r.name = "uptime" ∧ r.id = 3 :=
    ⟨_, List.mem_cons_self .., rfl, rfl⟩
  have hlinks : ∀ link ∈ sharedName.installations.rows, link.entityType ≠ .script := by decide
  refine .inr ⟨r, hr, hname, ?_⟩
  rintro ⟨link, hlink, -, hentity, -⟩
  exact hlinks link hlink hentity

/-- **The expectation fails**: a script does not stand in the way of a command
with its name. -/
theorem not_updateConflictsWithAnyRow : ¬UpdateConflictsWithAnyRow plainEnv := by
  intro h
  obtain ⟨pack, hpack, hinstalled, hscripts, hcommands⟩ := sharedName_pack
  have hcontent : ¬(pack.commands = [] ∧ pack.scripts = []) := by
    rw [hcommands]
    rintro ⟨hnil, -⟩
    cases hnil
  obtain ⟨hiff, -⟩ := h sharedName (reachable_runStore _ _ _) 3 0 pack hpack hinstalled hcontent
  have hconflicts : Conflicts (updatePack plainEnv 3 sharedName 0 .fail) := by
    refine hiff.2 (.inr (.inr (.inl ?_)))
    rw [hcommands]
    exact ⟨_, List.mem_cons_self .., sharedName_script⟩
  obtain ⟨p, hp⟩ : Returns (updatePack plainEnv 3 sharedName 0 .fail) := ⟨_, rfl⟩
  rw [hp] at hconflicts
  exact not_conflicts_ok _ hconflicts

/-- The only command with this name is linked to the pack, so the update has no
conflict. -/
theorem update_conflicts_sharedName :
    ¬Conflicts (updatePack plainEnv 3 sharedName 0 .fail) := by
  obtain ⟨pack, hpack, -, hscripts, hcommands⟩ := sharedName_pack
  have hcontent : ¬(pack.commands = [] ∧ pack.scripts = []) := by
    rw [hcommands]
    rintro ⟨hnil, -⟩
    cases hnil
  rw [(update_conflicts_iff plainColumns_raisesDataError hpack hcontent 3).1]
  rintro ((hdup | ⟨raw, -, r, hr, -, hnot⟩) | (hdup | ⟨raw, hraw, -⟩))
  · rw [hcommands] at hdup
    exact hdup (List.nodup_singleton _)
  · exact hnot (sharedName_linked r hr)
  · rw [hscripts] at hdup
    exact hdup List.nodup_nil
  · rw [hscripts] at hraw
    cases hraw

end Pack
end NodeNexus
