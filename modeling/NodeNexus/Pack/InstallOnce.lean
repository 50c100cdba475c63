import NodeNexus.Pack.Install
import NodeNexus.Pack.InstallSteps
import NodeNexus.Pack.Runs
import NodeNexus.Pack.Lifecycle

/-!
# Installations in parallel: at most one succeeds

The check that a pack is not installed and the reading of the names are
different statements, and no lock is held between them.  Two transactions that
both pass the check exclude each other only because they want to write rows
under the same names.  With `on_conflict="rename"` a transaction that reads the
names after another one has committed asks for other names, and installs the
pack a second time.

* `Undisturbed` is the condition on a step that excludes this.
* `Progress` is the invariant: as long as nobody has committed, every
  transaction plans the same rows, so only one of them can write; once somebody
  has committed, every other one plans a row whose name is taken.
* `installed_once` — in every run of undisturbed steps at most one transaction
  commits rows, and the others raise and leave nothing.
-/

namespace NodeNexus
namespace Pack

open Content

variable {Body : Type}

/-! ## Names without renaming -/

section Names

variable {env : Env} {entity : EntityType} {existing used : List String}

/-- Where nothing has to be renamed, both modes plan the same, also when fewer
names are in use; and no planned name is in use. -/
theorem planNames_fail_eq {planned out : List (String × Json.Fields)} {raws : List Json.Fields}
    (hsub : ∀ n ∈ existing, n ∈ used) (h : planNames env entity .fail used planned raws = .ok out)
    (onConflict : OnConflict) :
    planNames env entity onConflict existing planned raws = .ok out ∧
      ∀ p ∈ out, p ∈ planned ∨ p.1 ∉ used := by
  induction raws generalizing planned with
  | nil =>
      cases h
      exact ⟨rfl, fun p hp => .inl hp⟩
  | cons raw rest ih =>
      simp only [planNames] at h
      split at h
      · cases h
      · rename_i hfree
        rw [List.mem_append, not_or] at hfree
        obtain ⟨hplan, hout⟩ := ih h
        constructor
        · have hfree' : wantedName env entity raw ∉ existing ++ planned.map (·.1) := by
            rw [List.mem_append, not_or]
            exact ⟨fun hmem => hfree.1 (hsub _ hmem), hfree.2⟩
          simp only [planNames]
          rw [if_neg hfree', hplan]
        · intro p hp
          rcases hout p hp with hmem | hnot
          · rcases List.mem_append.1 hmem with hmem | hmem
            · exact .inl hmem
            · rw [List.mem_singleton.1 hmem]
              exact .inr hfree.1
          · exact .inr hnot

/-- A valid item has the name that was planned for it. -/
theorem name_of_validPlanned {validate : Json.Fields → Except Failure (Values Body)}
    {planned : List (String × Json.Fields)} {n : String}
    (h : n ∈ (validPlanned validate planned).map (·.1)) : ∃ p ∈ planned, p.1 = n := by
  obtain ⟨x, hx, rfl⟩ := List.mem_map.1 h
  obtain ⟨p, hp, hname, -⟩ := mem_validPlanned.1 hx
  exact ⟨p, hp, hname⟩

/-- Names that are all in use are not planned without renaming. -/
theorem validPlanned_eq_nil {planned : List (String × Json.Fields)} {raws : List Json.Fields}
    {validate : Json.Fields → Except Failure (Values Body)}
    (h : planNames env entity .fail used [] raws = .ok planned)
    (hused : ∀ n ∈ (validPlanned validate planned).map (·.1), n ∈ used) :
    validPlanned validate planned = [] := by
  rw [List.eq_nil_iff_forall_not_mem]
  intro x hx
  have hname : x.1 ∈ (validPlanned validate planned).map (·.1) := List.mem_map_of_mem hx
  obtain ⟨p, hp, hpn⟩ := name_of_validPlanned hname
  rcases (planNames_fail_eq (fun n hn => hn) h .fail).2 p hp with hnil | hnot
  · cases hnil
  · exact hnot (hpn ▸ hused _ hname)

end Names

/-! ## What a flush writes -/

/-- Rows that are written under new ids take names nobody has. -/
theorem Rows.names_of_saveAll {model : Model Body} {rows rows' : Rows Body} {new : List (Row Body)}
    (h : rows.saveAll model new = .ok rows') (hids : (new.map (·.id)).Nodup)
    (hfresh : ∀ r ∈ new, ∀ x ∈ rows.rows, x.id ≠ r.id) : ∀ r ∈ new, r.name ∉ rows.names := by
  induction new generalizing rows with
  | nil => simp
  | cons r new ih =>
      rw [List.map_cons, List.nodup_cons] at hids
      simp only [Rows.saveAll, bind_eq_ok] at h
      obtain ⟨rows₁, hsave, h⟩ := h
      obtain ⟨hnames, rfl⟩ := Rows.save_eq_ok.1 hsave
      intro r' hr' hmem
      obtain ⟨x, hx, hxn⟩ := List.mem_map.1 hmem
      rcases List.mem_cons.1 hr' with rfl | hr'
      · exact hnames x hx (hfresh r' (List.mem_cons_self ..) x hx) hxn
      · -- the row that was written before this one is there too
        have hfresh' : ∀ z ∈ new, ∀ y ∈ (rows.put r).rows, y.id ≠ z.id := by
          intro z hz y hy
          rcases Table.mem_put.1 hy with rfl | ⟨hy, -⟩
          · exact fun hid => hids.1 (hid ▸ List.mem_map_of_mem hz)
          · exact hfresh z (List.mem_cons_of_mem _ hz) y hy
        refine ih h hids.2 hfresh' r' hr' (List.mem_map.2 ⟨x, ?_, hxn⟩)
        exact Table.mem_put.2 (.inr ⟨hx, hfresh r (List.mem_cons_self ..) x hx⟩)

/-- What a transaction has written when nothing was in the way: rows under the
planned names and links, with ids drawn between `lo` and `hi`. -/
structure Flushed (packId lo hi : Uuid) (plan : InstallPlan) (w : Written) : Prop where
  pack : w.pack.id = packId
  commandNames : w.commands.map (·.name) = plan.commands.map (·.1)
  scriptNames : w.scripts.map (·.name) = plan.scripts.map (·.1)
  commandIds : (w.commands.map (·.id)).Nodup ∧ ∀ r ∈ w.commands, lo ≤ r.id ∧ r.id < hi
  scriptIds : (w.scripts.map (·.id)).Nodup ∧ ∀ r ∈ w.scripts, lo ≤ r.id ∧ r.id < hi
  linkIds : (w.links.map (·.id)).Nodup ∧ ∀ l ∈ w.links, lo ≤ l.id ∧ l.id < hi
  succeeded : w.result.succeeded = plan.commands.length + plan.scripts.length

theorem Flushed.mono {packId lo lo' hi hi' : Uuid} {plan : InstallPlan} {w : Written}
    (h : Flushed packId lo hi plan w) (hlo : lo' ≤ lo) (hhi : hi ≤ hi') :
    Flushed packId lo' hi' plan w where
  pack := h.pack
  commandNames := h.commandNames
  scriptNames := h.scriptNames
  commandIds := ⟨h.commandIds.1, fun r hr =>
    ⟨Nat.le_trans hlo (h.commandIds.2 r hr).1, Nat.lt_of_lt_of_le (h.commandIds.2 r hr).2 hhi⟩⟩
  scriptIds := ⟨h.scriptIds.1, fun r hr =>
    ⟨Nat.le_trans hlo (h.scriptIds.2 r hr).1, Nat.lt_of_lt_of_le (h.scriptIds.2 r hr).2 hhi⟩⟩
  linkIds := ⟨h.linkIds.1, fun l hl =>
    ⟨Nat.le_trans hlo (h.linkIds.2 l hl).1, Nat.lt_of_lt_of_le (h.linkIds.2 l hl).2 hhi⟩⟩
  succeeded := h.succeeded

/-- Consecutive ids from `n` on are new ones. -/
theorem newIds_of_range' {ρ : Type} {key : ρ → Uuid} {new : List ρ} {lo n hi : Uuid}
    (hids : new.map key = List.range' n new.length) (hlo : lo ≤ n) (hhi : n + new.length ≤ hi) :
    (new.map key).Nodup ∧ ∀ r ∈ new, lo ≤ key r ∧ key r < hi := by
  constructor
  · rw [hids]
    exact List.nodup_range'
  · intro r hr
    obtain ⟨hge, hlt⟩ := bounds_of_ids hids hr
    exact ⟨Nat.le_trans hlo hge, Nat.lt_of_lt_of_le hlt hhi⟩

/-- **A flush that does not raise** writes what was planned, under names that no
committed row has. -/
theorem flush_eq_ok {env : Env} (hdb : env.db.Lawful) {now : Time} {s : Store} (hs : s.Drawn)
    {pack : PackRow} {plan : InstallPlan} {w : Written}
    (h : flush env now s pack plan = .ok w) :
    Flushed pack.id s.nextId w.next plan w ∧ s.nextId ≤ w.next ∧
      (∀ n ∈ plan.commands.map (·.1), n ∉ s.commands.names) ∧
      ∀ n ∈ plan.scripts.map (·.1), n ∉ s.scripts.names := by
  simp only [flush, bind_eq_ok] at h
  obtain ⟨newC, hnewC, newS, hnewS, rowsC, hrowsC, rowsS, hrowsS, h⟩ := h
  have hidsC := ids_of_bindRows hnewC
  have hidsS := ids_of_bindRows hnewS
  have hlenC : newC.length = plan.commands.length := by simpa using congrArg List.length hidsC
  have hlenS : newS.length = plan.scripts.length := by simpa using congrArg List.length hidsS
  have hitems : (okItems .command s.nextId plan.commands ++
        okItems .script (s.nextId + plan.commands.length) plan.scripts).map
        (fun item => (item.entityType, item.entityId)) =
      ((List.range' s.nextId plan.commands.length).map (fun id => (EntityType.command, id)) ++
        (List.range' (s.nextId + plan.commands.length) plan.scripts.length).map
          (fun id => (EntityType.script, id))).map fun e => (e.1, some e.2) := by
    rw [List.map_append, okItems_entities, okItems_entities]
    simp [Function.comp_def]
  have hlenI := congrArg List.length hitems
  obtain ⟨-, hidsL, -⟩ := linkRows_spec now pack.id
    (s.nextId + plan.commands.length + plan.scripts.length) hitems
  have hlenL := congrArg List.length hidsL
  simp only [List.length_map, List.length_append, List.length_range'] at hlenI hlenL
  rw [← hlenC] at hidsC
  rw [← hlenS] at hidsS
  rw [List.length_append, List.length_map, List.length_map, List.length_range',
    List.length_range', ← hlenL] at hidsL
  generalize linkRows now pack.id (s.nextId + plan.commands.length + plan.scripts.length)
    (okItems .command s.nextId plan.commands ++
      okItems .script (s.nextId + plan.commands.length) plan.scripts) = links at hidsL hlenL h
  cases h
  have hnextC : s.nextId ≤ s.nextId + plan.commands.length := Nat.le_add_right _ _
  have hnextS : s.nextId + plan.commands.length ≤
      s.nextId + plan.commands.length + plan.scripts.length := Nat.le_add_right _ _
  have hnextL : s.nextId + plan.commands.length + plan.scripts.length ≤
      s.nextId + plan.commands.length + plan.scripts.length + links.length :=
    Nat.le_add_right _ _
  have hendC : s.nextId + newC.length ≤
      s.nextId + plan.commands.length + plan.scripts.length + links.length := by
    rw [hlenC]
    exact Nat.le_trans hnextS hnextL
  have hendS : s.nextId + plan.commands.length + newS.length ≤
      s.nextId + plan.commands.length + plan.scripts.length + links.length := by
    rw [hlenS]
    exact hnextL
  have hC := newIds_of_range' hidsC (Nat.le_refl _) hendC
  have hS := newIds_of_range' hidsS hnextC hendS
  have hL := newIds_of_range' hidsL (Nat.le_trans hnextC hnextS) (Nat.le_refl _)
  have hnamesC := names_of_bindRows hdb hnewC
  have hnamesS := names_of_bindRows hdb hnewS
  refine ⟨⟨rfl, hnamesC, hnamesS, hC, hS, hL, List.length_append.trans hlenI⟩,
    Nat.le_trans hnextC (Nat.le_trans hnextS hnextL), ?_, ?_⟩
  · intro n hn
    rw [← hnamesC] at hn
    obtain ⟨r, hr, rfl⟩ := List.mem_map.1 hn
    apply Rows.names_of_saveAll hrowsC hC.1 _ r hr
    exact fun z hz x hx => Nat.ne_of_lt (Nat.lt_of_lt_of_le (hs.commands x hx) (hC.2 z hz).1)
  · intro n hn
    rw [← hnamesS] at hn
    obtain ⟨r, hr, rfl⟩ := List.mem_map.1 hn
    apply Rows.names_of_saveAll hrowsS hS.1 _ r hr
    exact fun z hz x hx => Nat.ne_of_lt (Nat.lt_of_lt_of_le (hs.scripts x hx) (hS.2 z hz).1)

/-! ## What a commit leaves -/

section Commit

variable {packId lo hi : Uuid} {plan : InstallPlan} {w : Written} {s₀ : Store}

theorem mem_commit_commands (hw : Flushed packId lo hi plan w) (hs : s₀.Drawn)
    (hlo : s₀.nextId ≤ lo) {r : CommandRow} :
    r ∈ (s₀.commit w).commands.rows ↔ r ∈ s₀.commands.rows ∨ r ∈ w.commands :=
  Table.mem_putAll hw.commandIds.1 fun z hz x hx =>
    Nat.ne_of_lt (Nat.lt_of_lt_of_le (hs.commands x hx)
      (Nat.le_trans hlo (hw.commandIds.2 z hz).1))

theorem mem_commit_scripts (hw : Flushed packId lo hi plan w) (hs : s₀.Drawn)
    (hlo : s₀.nextId ≤ lo) {r : ScriptRow} :
    r ∈ (s₀.commit w).scripts.rows ↔ r ∈ s₀.scripts.rows ∨ r ∈ w.scripts :=
  Table.mem_putAll hw.scriptIds.1 fun z hz x hx =>
    Nat.ne_of_lt (Nat.lt_of_lt_of_le (hs.scripts x hx)
      (Nat.le_trans hlo (hw.scriptIds.2 z hz).1))

theorem mem_commit_installations (hw : Flushed packId lo hi plan w) (hs : s₀.Drawn)
    (hlo : s₀.nextId ≤ lo) {l : Installation} :
    l ∈ (s₀.commit w).installations.rows ↔ l ∈ s₀.installations.rows ∨ l ∈ w.links :=
  Table.mem_putAll hw.linkIds.1 fun z hz x hx =>
    Nat.ne_of_lt (Nat.lt_of_lt_of_le (hs.installations x hx)
      (Nat.le_trans hlo (hw.linkIds.2 z hz).1))

/-- The names in use after a commit are the old ones and the planned ones. -/
theorem mem_commit_commandNames (hw : Flushed packId lo hi plan w) (hs : s₀.Drawn)
    (hlo : s₀.nextId ≤ lo) {n : String} :
    n ∈ (s₀.commit w).commands.names ↔
      n ∈ s₀.commands.names ∨ n ∈ plan.commands.map (·.1) := by
  rw [← hw.commandNames]
  simp only [Rows.names, List.mem_map, mem_commit_commands hw hs hlo, or_and_right, exists_or]

theorem mem_commit_scriptNames (hw : Flushed packId lo hi plan w) (hs : s₀.Drawn)
    (hlo : s₀.nextId ≤ lo) {n : String} :
    n ∈ (s₀.commit w).scripts.names ↔
      n ∈ s₀.scripts.names ∨ n ∈ plan.scripts.map (·.1) := by
  rw [← hw.scriptNames]
  simp only [Rows.names, List.mem_map, mem_commit_scripts hw hs hlo, or_and_right, exists_or]

/-- After a commit of some rows the pack is installed. -/
theorem installed_commit (hw : Flushed packId lo hi plan w)
    (hsome : ¬(plan.commands = [] ∧ plan.scripts = [])) {pack : PackRow}
    (hfind : s₀.packs.find? packId = some pack) :
    ∃ row, (s₀.commit w).packs.find? packId = some row ∧ row.installedVersion.isSome = true := by
  have hne : w.result.succeeded ≠ 0 := by
    rw [hw.succeeded]
    intro hzero
    rw [Nat.add_eq_zero_iff, List.length_eq_zero_iff, List.length_eq_zero_iff] at hzero
    exact hsome hzero
  have hkey : packId = pack.id := (Table.key_of_find? hfind).symm
  simp only [Store.commit, Store.setInstalled, if_neg hne, hw.pack, hfind]
  exact ⟨_, by rw [Table.find?_put, if_pos hkey], rfl⟩

/-- The ids stay below the next one. -/
theorem drawn_commit (hw : Flushed packId lo hi plan w) (hs : s₀.Drawn) (hlo : s₀.nextId ≤ lo)
    {next : Uuid} (hnext : s₀.nextId ≤ next) (hhi : hi ≤ next) :
    Store.Drawn { s₀.commit w with nextId := next } where
  packs p hp := by
    have hold : ∀ q ∈ s₀.packs.rows, q.id < next := fun q hq =>
      Nat.lt_of_lt_of_le (hs.packs q hq) hnext
    simp only [Store.commit, Store.setInstalled] at hp
    split at hp
    · exact hold p hp
    · split at hp
      · rename_i row hfind
        rcases Table.mem_put.1 hp with rfl | ⟨hp, -⟩
        · exact hold row (Table.mem_of_find? hfind)
        · exact hold p hp
      · exact hold p hp
  installations l hl := by
    rcases (mem_commit_installations hw hs hlo).1 hl with hl | hl
    · exact Nat.lt_of_lt_of_le (hs.installations l hl) hnext
    · exact Nat.lt_of_lt_of_le (hw.linkIds.2 l hl).2 hhi
  commands r hr := by
    rcases (mem_commit_commands hw hs hlo).1 hr with hr | hr
    · exact Nat.lt_of_lt_of_le (hs.commands r hr) hnext
    · exact Nat.lt_of_lt_of_le (hw.commandIds.2 r hr).2 hhi
  scripts r hr := by
    rcases (mem_commit_scripts hw hs hlo).1 hr with hr | hr
    · exact Nat.lt_of_lt_of_le (hs.scripts r hr) hnext
    · exact Nat.lt_of_lt_of_le (hw.scriptIds.2 r hr).2 hhi

end Commit

/-! ## The race -/

/-- The pack is not installed, as far as a SELECT can see. -/
def Unclaimed (s : Store) (packId : Uuid) : Prop :=
  ∀ row, s.packs.find? packId = some row → row.installedVersion = none

/-- The names of the commands that were read leave a valid command to write. -/
def WritesCommand (env : Env) (pack : PackRow) (existingCommands : List String) : Prop :=
  ∃ planned, planNames env .command .rename existingCommands [] pack.commands = .ok planned ∧
    validPlanned (validateCommandPayload env.unicode.isPrintable) planned ≠ []

/-- The condition on a step: a transaction that may rename and has found the
pack not installed does not read names after another one has installed it.  The
names of the scripts may be read later, when a command will be written under
the names of the commands read before. -/
def Undisturbed (env : Env) (packId : Uuid) (s : InstallState) (e : Nat × Statement) : Prop :=
  ∀ call phase, s.calls[e.1]? = some (call, phase) → call.onConflict = .rename →
    match phase, e.2 with
    | .checked _, .readCommands => Unclaimed s.store packId
    | .commandsRead pack existingCommands, .readScripts =>
        Unclaimed s.store packId ∨ WritesCommand env pack existingCommands
    | _, _ => True

/-- The start of a race: a pack that is not installed, and what is planned on
the names at the start, which are some rows. -/
structure Race (env : Env) (packId : Uuid) (s₀ : Store) (pack : PackRow) (plan : InstallPlan) :
    Prop where
  columns : env.db.Lawful
  drawn : s₀.Drawn
  found : s₀.packs.find? packId = some pack
  notInstalled : pack.installedVersion = none
  planned : planInstall env .rename pack s₀.commands.names s₀.scripts.names = .ok plan
  some_valid : ¬(plan.commands = [] ∧ plan.scripts = [])

/-- A planned name is taken. -/
def Doomed (s : Store) (plan : InstallPlan) : Prop :=
  (∃ n ∈ plan.commands.map (·.1), n ∈ s.commands.names) ∨
    ∃ n ∈ plan.scripts.map (·.1), n ∈ s.scripts.names

section Race

variable {env : Env} {packId : Uuid} {s₀ : Store} {pack : PackRow} {plan : InstallPlan}

/-- On the names of the start every transaction plans the same. -/
theorem Race.plan_eq (race : Race env packId s₀ pack plan) {onConflict : OnConflict}
    {plan' : InstallPlan}
    (h : planInstall env onConflict pack s₀.commands.names s₀.scripts.names = .ok plan') :
    plan' = plan := by
  have hrename : planInstall env .rename pack s₀.commands.names s₀.scripts.names = .ok plan' := by
    cases onConflict with
    | rename => exact h
    | fail =>
        simp only [planInstall, bind_eq_ok] at h ⊢
        obtain ⟨plannedC, hC, plannedS, hS, h⟩ := h
        exact ⟨plannedC, (planNames_fail_eq (fun n hn => hn) hC .rename).1, plannedS,
          (planNames_fail_eq (fun n hn => hn) hS .rename).1, h⟩
  exact Except.ok.inj (hrename.symm.trans race.planned)

/-- On the names of the commands at the start it plans the same commands. -/
theorem Race.commands_eq (race : Race env packId s₀ pack plan) {plan' : InstallPlan}
    {existingScripts : List String}
    (h : planInstall env .rename pack s₀.commands.names existingScripts = .ok plan') :
    plan'.commands = plan.commands := by
  have hplan := race.planned
  simp only [planInstall, bind_eq_ok] at h hplan
  obtain ⟨plannedC, hC, plannedS, hS, h⟩ := h
  obtain ⟨plannedC', hC', plannedS', hS', hplan⟩ := hplan
  cases h
  cases hplan
  rw [Except.ok.inj (hC.symm.trans hC')]

theorem Race.writes (race : Race env packId s₀ pack plan) {planned : List (String × Json.Fields)}
    (h : planNames env .command .rename s₀.commands.names [] pack.commands = .ok planned)
    (hsome : validPlanned (validateCommandPayload env.unicode.isPrintable) planned ≠ []) :
    plan.commands ≠ [] := by
  have hplan := race.planned
  simp only [planInstall, bind_eq_ok] at hplan
  obtain ⟨plannedC, hC, plannedS, hS, hplan⟩ := hplan
  cases Except.ok.inj (h.symm.trans hC)
  cases hplan
  exact hsome

/-- Without renaming, a transaction that reads names which the planned rows have
already plans no such row. -/
theorem Race.fail_eq (race : Race env packId s₀ pack plan) {plan' : InstallPlan}
    {existingCommands existingScripts : List String}
    (h : planInstall env .fail pack existingCommands existingScripts = .ok plan')
    (hC : ∀ n ∈ s₀.commands.names, n ∈ existingCommands)
    (hS : ∀ n ∈ s₀.scripts.names, n ∈ existingScripts) :
    (plan'.commands = plan.commands ∧
        ((∀ n ∈ plan.commands.map (·.1), n ∈ existingCommands) → plan.commands = [])) ∧
      ((∀ n ∈ plan.scripts.map (·.1), n ∈ existingScripts) → plan.scripts = []) := by
  have hplan := race.planned
  simp only [planInstall, bind_eq_ok] at h hplan
  obtain ⟨plannedC, hplanC, plannedS, hplanS, h⟩ := h
  obtain ⟨plannedC', hplanC', plannedS', hplanS', hplan⟩ := hplan
  have heqC : plannedC = plannedC' :=
    Except.ok.inj ((planNames_fail_eq hC hplanC .rename).1.symm.trans hplanC')
  have heqS : plannedS = plannedS' :=
    Except.ok.inj ((planNames_fail_eq hS hplanS .rename).1.symm.trans hplanS')
  subst heqC heqS
  cases h
  cases hplan
  exact ⟨⟨rfl, validPlanned_eq_nil hplanC⟩, validPlanned_eq_nil hplanS⟩

/-- The pack has some content. -/
theorem Race.content (race : Race env packId s₀ pack plan) :
    (pack.commands.isEmpty && pack.scripts.isEmpty) = false := by
  rw [Bool.eq_false_iff]
  intro hempty
  simp only [Bool.and_eq_true, List.isEmpty_iff] at hempty
  have hplan := race.planned
  rw [planInstall, hempty.1, hempty.2] at hplan
  cases hplan
  exact race.some_valid ⟨rfl, rfl⟩

/-! ## The invariant -/

variable (env packId s₀ pack plan)

/-- Where a transaction may stand while nobody has committed. -/
def FreeCall (next : Uuid) : Phase → Prop
  | .idle | .raised _ => True
  | .checked p => p = pack
  | .commandsRead p existingCommands => p = pack ∧ existingCommands = s₀.commands.names
  | .planned p plan' => p = pack ∧ plan' = plan
  | .written w => Flushed packId s₀.nextId next plan w
  | .committed _ | .returned => False

/-- Where a transaction may stand once another one has committed: it has read
the names before, or it will not rename, or it is bound to fail. -/
def TakenCall (s : Store) (onConflict : OnConflict) : Phase → Prop
  | .idle | .raised _ => True
  | .checked p => p = pack
  | .commandsRead p existingCommands => p = pack ∧
      (existingCommands = s₀.commands.names ∨
        onConflict = .fail ∧ existingCommands = s.commands.names)
  | .planned _ plan' => Doomed s plan'
  | .written _ | .committed _ | .returned => False

/-- At most one transaction has written and not committed. -/
def OneWriter (calls : List (InstallCall × Phase)) : Prop :=
  ∀ (i j : Nat) (call call' : InstallCall) (w w' : Written),
    calls[i]? = some (call, .written w) → calls[j]? = some (call', .written w') → i = j

/-- **The invariant of the race.** -/
inductive Progress (s : InstallState) : Prop
  /-- Nobody has committed; at most one transaction has written. -/
  | free (next : Uuid) (hstore : s.store = { s₀ with nextId := next }) (hnext : s₀.nextId ≤ next)
      (hcalls : ∀ (i : Nat) (call : InstallCall) (phase : Phase),
        s.calls[i]? = some (call, phase) → FreeCall packId s₀ pack plan next phase)
      (hone : OneWriter s.calls)
  /-- One transaction has committed. -/
  | taken (next : Uuid) (k : Nat) (call : InstallCall) (w : Written)
      (hstore : s.store = { s₀.commit w with nextId := next }) (hnext : s₀.nextId ≤ next)
      (hk : s.calls[k]? = some (call, Phase.committed w))
      (hw : Flushed packId s₀.nextId next plan w)
      (hcalls : ∀ (i : Nat) (call : InstallCall) (phase : Phase), i ≠ k →
        s.calls[i]? = some (call, phase) → TakenCall s₀ pack s.store call.onConflict phase)

variable {env packId s₀ pack plan}

theorem FreeCall.mono {next next' : Uuid} {phase : Phase}
    (h : FreeCall packId s₀ pack plan next phase) (hle : next ≤ next') :
    FreeCall packId s₀ pack plan next' phase := by
  cases phase with
  | written w => exact Flushed.mono h (Nat.le_refl _) hle
  | _ => exact h

theorem OneWriter.set {calls : List (InstallCall × Phase)} {i : Nat} {call : InstallCall}
    {phase phase' : Phase} (h : OneWriter calls) (hi : calls[i]? = some (call, phase))
    (hphase : (∃ w, phase' = .written w) →
      ∀ (j : Nat) (call : InstallCall) (w : Written), calls[j]? ≠ some (call, .written w)) :
    OneWriter (calls.set i (call, phase')) := by
  intro j k call₁ call₂ w w' hj hk
  rw [getElem?_set_of_some hi] at hj hk
  split at hj
  · rename_i hij
    cases hj
    split at hk
    · rename_i hik
      rw [← hij, ← hik]
    · exact absurd hk (hphase ⟨w, rfl⟩ _ _ _)
  · split at hk
    · cases hk
      exact absurd hj (hphase ⟨w', rfl⟩ _ _ _)
    · exact h _ _ _ _ _ _ hj hk

/-- A race starts with nobody ahead. -/
theorem progress_start {s : InstallState} (h : (installSystem env packId s₀).init s) :
    Progress packId s₀ pack plan s := by
  obtain ⟨rfl, hidle⟩ := h
  have hphase : ∀ (i : Nat) (call : InstallCall) (phase : Phase),
      s.calls[i]? = some (call, phase) → phase = .idle :=
    fun i call phase hi => hidle _ (List.mem_of_getElem? hi)
  refine .free s.store.nextId rfl (Nat.le_refl _) ?_ ?_
  · intro i call phase hi
    rw [hphase i call phase hi]
    trivial
  · intro i j call call' w w' hi
    cases hphase i call _ hi

/-- Some command or some script is planned. -/
theorem Race.exists_item (race : Race env packId s₀ pack plan) :
    (∃ n, n ∈ plan.commands.map (·.1)) ∨ ∃ n, n ∈ plan.scripts.map (·.1) := by
  by_cases hnil : plan.commands = []
  · obtain ⟨x, hx⟩ := List.exists_mem_of_ne_nil _ fun h => race.some_valid ⟨hnil, h⟩
    exact .inr ⟨x.1, List.mem_map_of_mem hx⟩
  · obtain ⟨x, hx⟩ := List.exists_mem_of_ne_nil _ hnil
    exact .inl ⟨x.1, List.mem_map_of_mem hx⟩

/-- A transaction that has written what is planned holds a planned name. -/
theorem Race.holds (race : Race env packId s₀ pack plan) {lo hi : Uuid} {w : Written}
    (hw : Flushed packId lo hi plan w) : (Phase.written w).holds plan = true := by
  simp only [Phase.holds, Bool.or_eq_true, List.any_eq_true, decide_eq_true_eq]
  rcases race.exists_item with ⟨n, hn⟩ | ⟨n, hn⟩
  · obtain ⟨r, hr, hrn⟩ : ∃ r ∈ w.commands, r.name = n := List.mem_map.1 (hw.commandNames ▸ hn)
    exact .inl ⟨r, hr, hrn ▸ hn⟩
  · obtain ⟨r, hr, hrn⟩ : ∃ r ∈ w.scripts, r.name = n := List.mem_map.1 (hw.scriptNames ▸ hn)
    exact .inr ⟨r, hr, hrn ▸ hn⟩

/-- What is planned on the names at the start is taken once it is committed. -/
theorem Race.doomed (race : Race env packId s₀ pack plan) {hi next : Uuid} {w : Written}
    (hw : Flushed packId s₀.nextId hi plan w) {plan' : InstallPlan}
    (hcommands : plan'.commands = plan.commands)
    (h : plan.commands ≠ [] ∨ plan'.scripts = plan.scripts) :
    Doomed { s₀.commit w with nextId := next } plan' := by
  have hC : ∀ n ∈ plan.commands.map (·.1), n ∈ (s₀.commit w).commands.names := fun n hn =>
    (mem_commit_commandNames hw race.drawn (Nat.le_refl _)).2 (.inr hn)
  have hS : ∀ n ∈ plan.scripts.map (·.1), n ∈ (s₀.commit w).scripts.names := fun n hn =>
    (mem_commit_scriptNames hw race.drawn (Nat.le_refl _)).2 (.inr hn)
  unfold Doomed
  rw [hcommands]
  rcases h with hne | hscripts
  · obtain ⟨x, hx⟩ := List.exists_mem_of_ne_nil _ hne
    exact .inl ⟨x.1, List.mem_map_of_mem hx, hC _ (List.mem_map_of_mem hx)⟩
  · rw [hscripts]
    rcases race.exists_item with ⟨n, hn⟩ | ⟨n, hn⟩
    · exact .inl ⟨n, hn, hC n hn⟩
    · exact .inr ⟨n, hn, hS n hn⟩

theorem Store.Drawn.mono {s : Store} (h : s.Drawn) {next : Uuid} (hnext : s.nextId ≤ next) :
    Store.Drawn { s with nextId := next } where
  packs p hp := Nat.lt_of_lt_of_le (h.packs p hp) hnext
  installations l hl := Nat.lt_of_lt_of_le (h.installations l hl) hnext
  commands r hr := Nat.lt_of_lt_of_le (h.commands r hr) hnext
  scripts r hr := Nat.lt_of_lt_of_le (h.scripts r hr) hnext

/-- **A step while nobody has committed.** -/
theorem Race.free_step (race : Race env packId s₀ pack plan) {s s' : InstallState}
    {e : Nat × Statement} {next : Uuid} (hstore : s.store = { s₀ with nextId := next })
    (hnext : s₀.nextId ≤ next)
    (hcalls : ∀ (i : Nat) (call : InstallCall) (phase : Phase),
      s.calls[i]? = some (call, phase) → FreeCall packId s₀ pack plan next phase)
    (hone : OneWriter s.calls) (hstep : (installSystem env packId s₀).step s e = some s') :
    Progress packId s₀ pack plan s' := by
  obtain ⟨call, phase, store, phase', hi, hadv, rfl⟩ := installSystem_step hstep
  obtain ⟨store, calls⟩ := s
  obtain ⟨i, statement⟩ := e
  dsimp only at hstore hcalls hone hi hadv ⊢
  subst hstore
  have hnow := hcalls _ _ _ hi
  -- a call that goes on without writing
  have hon : ∀ phase', FreeCall packId s₀ pack plan next phase' → (∀ w, phase' ≠ .written w) →
      Progress packId s₀ pack plan ⟨{ s₀ with nextId := next }, calls.set i (call, phase')⟩ := by
    intro phase' hphase' hnot
    refine .free next rfl hnext ?_ (hone.set hi ?_)
    · intro j call' phase'' hj
      rw [getElem?_set_of_some hi] at hj
      split at hj
      · cases hj
        exact hphase'
      · exact hcalls j call' phase'' hj
    · rintro ⟨w, hw⟩
      exact absurd hw (hnot w)
  cases hadv with
  | raised f hended => exact hon _ trivial (by simp)
  | returned hfind hnot hempty =>
      -- the pack has some content
      cases race.found.symm.trans hfind
      rw [race.content] at hempty
      cases hempty
  | checked hfind hnot hcontent =>
      cases race.found.symm.trans hfind
      exact hon _ rfl (by simp)
  | commandsRead => exact hon _ ⟨hnow, rfl⟩ (by simp)
  | planned hplan =>
      obtain ⟨rfl, rfl⟩ := hnow
      exact hon _ ⟨rfl, race.plan_eq hplan⟩ (by simp)
  | @written pack' plan' w hfree hflush =>
      obtain ⟨rfl, rfl⟩ := hnow
      have hdrawn : Store.Drawn { s₀ with nextId := next } := race.drawn.mono hnext
      obtain ⟨hw, hle, -, -⟩ := flush_eq_ok race.columns hdrawn hflush
      rw [Table.key_of_find? race.found] at hw
      refine .free w.next rfl (Nat.le_trans hnext hle) ?_ (hone.set hi ?_)
      · intro j call' phase'' hj
        rw [getElem?_set_of_some hi] at hj
        split at hj
        · cases hj
          exact hw.mono hnext (Nat.le_refl _)
        · exact (hcalls j call' phase'' hj).mono hle
      · -- another writer would hold a planned name
        intro _ j call' w' hj
        have hholds := race.holds (hcalls j call' _ hj)
        rw [hfree _ (List.mem_map_of_mem (List.mem_of_getElem? hj))] at hholds
        cases hholds
  | @committed w =>
      refine .taken next i call w rfl hnext ?_ hnow ?_
      · rw [getElem?_set_of_some hi, if_pos rfl]
      · intro j call' phase'' hne hj
        rw [getElem?_set_of_some hi, if_neg (Ne.symm hne)] at hj
        have hj' := hcalls j call' phase'' hj
        cases phase'' with
        | idle | raised => trivial
        | checked p => exact hj'
        | commandsRead p existing => exact ⟨hj'.1, .inl hj'.2⟩
        | planned p plan' => exact race.doomed hnow (by rw [hj'.2]) (.inr (by rw [hj'.2]))
        | written w' => exact absurd (hone j i _ _ _ _ hj hi) hne
        | committed w' | returned => exact hj'

/-- **A step after somebody has committed**: no other transaction gets as far as
writing. -/
theorem Race.taken_step (race : Race env packId s₀ pack plan) {s s' : InstallState}
    {e : Nat × Statement} {next : Uuid} {k : Nat} {call₀ : InstallCall} {w : Written}
    (hstore : s.store = { s₀.commit w with nextId := next }) (hnext : s₀.nextId ≤ next)
    (hk : s.calls[k]? = some (call₀, .committed w))
    (hw : Flushed packId s₀.nextId next plan w)
    (hcalls : ∀ (i : Nat) (call : InstallCall) (phase : Phase), i ≠ k →
      s.calls[i]? = some (call, phase) → TakenCall s₀ pack s.store call.onConflict phase)
    (hquiet : Undisturbed env packId s e)
    (hstep : (installSystem env packId s₀).step s e = some s') :
    Progress packId s₀ pack plan s' := by
  obtain ⟨call, phase, store, phase', hi, hadv, rfl⟩ := installSystem_step hstep
  obtain ⟨store, calls⟩ := s
  obtain ⟨i, statement⟩ := e
  dsimp only at hstore hcalls hi hadv hk ⊢
  subst hstore
  have hne : i ≠ k := by
    rintro rfl
    cases hk.symm.trans hi
    cases hadv with
    | raised f hended => cases hended
  have hnow := hcalls _ _ _ hne hi
  have hquiet' := hquiet _ _ hi
  obtain ⟨row, hrow, hinstalled⟩ := installed_commit hw race.some_valid race.found
  have hclaimed : ¬Unclaimed { s₀.commit w with nextId := next } packId := by
    intro h
    rw [h row hrow] at hinstalled
    cases hinstalled
  have hon : ∀ phase', TakenCall s₀ pack { s₀.commit w with nextId := next } call.onConflict phase' →
      Progress packId s₀ pack plan
        ⟨{ s₀.commit w with nextId := next }, calls.set i (call, phase')⟩ := by
    intro phase' hphase'
    refine .taken next k call₀ w rfl hnext ?_ hw ?_
    · rw [getElem?_set_of_some hi, if_neg hne]
      exact hk
    · intro j call' phase'' hj hcall
      rw [getElem?_set_of_some hi] at hcall
      split at hcall
      · cases hcall
        exact hphase'
      · exact hcalls j call' phase'' hj hcall
  have hC : ∀ n ∈ plan.commands.map (·.1), n ∈ (s₀.commit w).commands.names := fun n hn =>
    (mem_commit_commandNames hw race.drawn (Nat.le_refl _)).2 (.inr hn)
  have hC₀ : ∀ n ∈ s₀.commands.names, n ∈ (s₀.commit w).commands.names := fun n hn =>
    (mem_commit_commandNames hw race.drawn (Nat.le_refl _)).2 (.inl hn)
  have hS : ∀ n ∈ plan.scripts.map (·.1), n ∈ (s₀.commit w).scripts.names := fun n hn =>
    (mem_commit_scriptNames hw race.drawn (Nat.le_refl _)).2 (.inr hn)
  have hS₀ : ∀ n ∈ s₀.scripts.names, n ∈ (s₀.commit w).scripts.names := fun n hn =>
    (mem_commit_scriptNames hw race.drawn (Nat.le_refl _)).2 (.inl hn)
  cases hadv with
  | raised f hended => exact hon _ trivial
  | returned hfind hnot hempty =>
      cases hrow.symm.trans hfind
      rw [hnot] at hinstalled
      cases hinstalled
  | checked hfind hnot hcontent =>
      cases hrow.symm.trans hfind
      rw [hnot] at hinstalled
      cases hinstalled
  | commandsRead =>
      refine hon _ ⟨hnow, .inr ⟨?_, rfl⟩⟩
      cases hmode : call.onConflict with
      | fail => rfl
      | rename => exact absurd (hquiet' hmode) hclaimed
  | @planned pack' existing plan' hplan =>
      obtain ⟨rfl, hnames⟩ := hnow
      refine hon _ ?_
      cases hmode : call.onConflict with
      | fail =>
          rw [hmode] at hplan
          rcases hnames with rfl | ⟨-, rfl⟩
          · -- the names of the commands were read before the commit
            obtain ⟨⟨hcommands, -⟩, hnoScript⟩ := race.fail_eq hplan (fun n hn => hn) hS₀
            refine race.doomed hw hcommands (.inl fun hnil => ?_)
            exact race.some_valid ⟨hnil, hnoScript hS⟩
          · obtain ⟨⟨-, hnoCommand⟩, hnoScript⟩ := race.fail_eq hplan hC₀ hS₀
            exact absurd ⟨hnoCommand hC, hnoScript hS⟩ race.some_valid
      | rename =>
          rw [hmode] at hplan
          rcases hnames with rfl | ⟨hfail, -⟩
          · rcases hquiet' hmode with hfree | ⟨planned, hplanned, hsome⟩
            · exact absurd hfree hclaimed
            · exact race.doomed hw (race.commands_eq hplan) (.inl (race.writes hplanned hsome))
          · cases hmode.symm.trans hfail
  | @written pack' plan' w' hfree hflush =>
      -- one of the names is taken
      have hdrawn := drawn_commit hw race.drawn (Nat.le_refl _) hnext (Nat.le_refl _)
      obtain ⟨-, -, hnoCommand, hnoScript⟩ := flush_eq_ok race.columns hdrawn hflush
      rcases hnow with ⟨n, hn, hused⟩ | ⟨n, hn, hused⟩
      · exact absurd hused (hnoCommand n hn)
      · exact absurd hused (hnoScript n hn)
  | committed => exact hnow.elim

/-- **The invariant holds in every run of undisturbed steps.** -/
theorem Race.progress (race : Race env packId s₀ pack plan) {s : InstallState}
    (h : (installSystem env packId s₀).Reach (Undisturbed env packId) s) :
    Progress packId s₀ pack plan s := by
  refine h.invariant (fun s => progress_start) ?_
  intro s e s' hs hquiet hstep
  cases hs with
  | free next hstore hnext hcalls hone => exact race.free_step hstore hnext hcalls hone hstep
  | taken next k call w hstore hnext hk hw hcalls =>
      exact race.taken_step hstore hnext hk hw hcalls hquiet hstep

end Race

/-! ## At most one installation -/

/-- The transaction has committed some rows. -/
def InstallState.installs (s : InstallState) (i : Nat) : Prop :=
  ∃ call w, s.calls[i]? = some (call, .committed w) ∧ ¬(w.commands = [] ∧ w.scripts = [])

/-- What one expects of parallel installations. -/
structure InstalledOnce (s₀ : Store) (s : InstallState) : Prop where
  /-- At most one transaction commits rows, -/
  once : ∀ i j, s.installs i → s.installs j → i = j
  /-- the others raise, -/
  others : ∀ (i : Nat) (call : InstallCall) (phase : Phase), s.calls[i]? = some (call, phase) →
    phase.ended = true → ¬s.installs i → ∃ e, phase = .raised e
  /-- and no row or link is left but the old ones and those it has committed. -/
  commands : ∀ r, r ∈ s.store.commands.rows ↔ r ∈ s₀.commands.rows ∨
    ∃ (i : Nat) (call : InstallCall) (w : Written),
      s.calls[i]? = some (call, .committed w) ∧ r ∈ w.commands
  scripts : ∀ r, r ∈ s.store.scripts.rows ↔ r ∈ s₀.scripts.rows ∨
    ∃ (i : Nat) (call : InstallCall) (w : Written),
      s.calls[i]? = some (call, .committed w) ∧ r ∈ w.scripts
  links : ∀ l, l ∈ s.store.installations.rows ↔ l ∈ s₀.installations.rows ∨
    ∃ (i : Nat) (call : InstallCall) (w : Written),
      s.calls[i]? = some (call, .committed w) ∧ l ∈ w.links

section Once

variable {env : Env} {packId : Uuid} {s₀ : Store} {pack : PackRow} {plan : InstallPlan}

theorem Race.once (race : Race env packId s₀ pack plan) {s : InstallState}
    (h : Progress packId s₀ pack plan s) : InstalledOnce s₀ s := by
  cases h with
  | free next hstore hnext hcalls hone =>
      -- no transaction has committed
      have hnone : ∀ (i : Nat) (call : InstallCall) (w : Written),
          s.calls[i]? ≠ some (call, .committed w) := fun i call w hi => hcalls i call _ hi
      rw [show s = ⟨{ s₀ with nextId := next }, s.calls⟩ by rw [← hstore]]
      exact
        { once := fun i j ⟨call, w, hi, _⟩ => absurd hi (hnone i call w)
          others := by
            intro i call phase hi hended _
            have hphase := hcalls i call phase hi
            cases phase with
            | raised e => exact ⟨e, rfl⟩
            | committed w => exact hphase.elim
            | returned => exact hphase.elim
            | _ => cases hended
          commands := fun r => (or_iff_left fun ⟨i, call, w, hi, _⟩ => hnone i call w hi).symm
          scripts := fun r => (or_iff_left fun ⟨i, call, w, hi, _⟩ => hnone i call w hi).symm
          links := fun l => (or_iff_left fun ⟨i, call, w, hi, _⟩ => hnone i call w hi).symm }
  | taken next k call₀ w hstore hnext hk hw hcalls =>
      have honly : ∀ (i : Nat) (call : InstallCall) (w' : Written),
          s.calls[i]? = some (call, .committed w') → i = k ∧ w' = w := by
        intro i call w' hi
        by_cases hne : i = k
        · subst hne
          cases hk.symm.trans hi
          exact ⟨rfl, rfl⟩
        · exact (hcalls i call _ hne hi).elim
      have hex : ∀ p : Written → Prop, (∃ (i : Nat) (call : InstallCall) (w' : Written),
          s.calls[i]? = some (call, .committed w') ∧ p w') ↔ p w := by
        intro p
        constructor
        · rintro ⟨i, call, w', hi, hp⟩
          rw [← (honly i call w' hi).2]
          exact hp
        · exact fun hp => ⟨k, call₀, w, hk, hp⟩
      have hinstalls : s.installs k := by
        refine ⟨call₀, w, hk, ?_⟩
        rintro ⟨hC, hS⟩
        have hnamesC := hw.commandNames
        have hnamesS := hw.scriptNames
        rw [hC] at hnamesC
        rw [hS] at hnamesS
        exact race.some_valid
          ⟨List.map_eq_nil_iff.1 hnamesC.symm, List.map_eq_nil_iff.1 hnamesS.symm⟩
      exact
        { once := by
            rintro i j ⟨call, w', hi, -⟩ ⟨call', w'', hj, -⟩
            rw [(honly i call w' hi).1, (honly j call' w'' hj).1]
          others := by
            intro i call phase hi hended hnot
            have hne : i ≠ k := fun heq => hnot (heq ▸ hinstalls)
            have hphase := hcalls i call phase hne hi
            cases phase with
            | raised e => exact ⟨e, rfl⟩
            | committed w => exact hphase.elim
            | returned => exact hphase.elim
            | _ => cases hended
          commands := by
            intro r
            rw [hstore, hex fun w' => r ∈ w'.commands]
            exact mem_commit_commands hw race.drawn (Nat.le_refl _)
          scripts := by
            intro r
            rw [hstore, hex fun w' => r ∈ w'.scripts]
            exact mem_commit_scripts hw race.drawn (Nat.le_refl _)
          links := by
            intro l
            rw [hstore, hex fun w' => l ∈ w'.links]
            exact mem_commit_installations hw race.drawn (Nat.le_refl _) }

end Once

/-- Some item of the pack passes its payload check under the name it gets. -/
def SomeItemValid (env : Env) (s₀ : Store) (pack : PackRow) : Prop :=
  ∃ plan, planInstall env .rename pack s₀.commands.names s₀.scripts.names = .ok plan ∧
    ¬(plan.commands = [] ∧ plan.scripts = [])

/-- **At most one installation succeeds.**  In every run of undisturbed steps of
any number of calls for a pack that is not installed and has a valid item, at
most one transaction commits rows, and the others raise and leave nothing. -/
theorem installed_once {env : Env} (hdb : env.db.Lawful) {s₀ : Store} (hs₀ : s₀.Drawn)
    {packId : Uuid} {pack : PackRow} (hpack : s₀.packs.find? packId = some pack)
    (hnot : pack.installedVersion = none) (hvalid : SomeItemValid env s₀ pack) {s : InstallState}
    (h : (installSystem env packId s₀).Reach (Undisturbed env packId) s) : InstalledOnce s₀ s := by
  obtain ⟨plan, hplan, hsome⟩ := hvalid
  have race : Race env packId s₀ pack plan := ⟨hdb, hs₀, hpack, hnot, hplan, hsome⟩
  exact race.once (race.progress h)

/-! ## Where it fails -/

/-- The expectation for every run. -/
def AlwaysInstalledOnce (env : Env) : Prop :=
  ∀ packId s₀ pack, s₀.Drawn → s₀.packs.find? packId = some pack → pack.installedVersion = none →
    ∀ s, (installSystem env packId s₀).Reachable s → InstalledOnce s₀ s

/-- A pack with one command. -/
def diskPack : PackRow :=
  packOf [[("name", .str "disk"), ("command", .str "df -h"), ("timeout", .int 10)]]

/-- Two calls that have not started. -/
def twoCalls (onConflict : OnConflict) : InstallState where
  store := storeOf diskPack
  calls := [(⟨onConflict, 1⟩, .idle), (⟨onConflict, 2⟩, .idle)]

theorem init_twoCalls (onConflict : OnConflict) :
    (installSystem plainEnv 1 (storeOf diskPack)).init (twoCalls onConflict) := by
  refine ⟨rfl, ?_⟩
  simp [twoCalls]

/-- Both pass the check, then one runs to its end before the other reads the
names. -/
def overtaken : List (Nat × Statement) :=
  [(0, .getPack), (1, .getPack), (0, .readCommands), (0, .readScripts), (0, .write), (0, .commit),
    (1, .readCommands), (1, .readScripts), (1, .write), (1, .commit)]

/-- **The expectation fails**: two transactions that may rename both install the
pack. -/
theorem not_alwaysInstalledOnce : ¬AlwaysInstalledOnce plainEnv := by
  intro h
  obtain ⟨s, hs, hzero, hone⟩ : ∃ s,
      (installSystem plainEnv 1 (storeOf diskPack)).exec (twoCalls .rename) overtaken = some s ∧
        (∃ call w, s.calls[0]? = some (call, .committed w) ∧ w.commands.length = 1) ∧
        ∃ call w, s.calls[1]? = some (call, .committed w) ∧ w.commands.length = 1 :=
    ⟨_, rfl, ⟨_, _, rfl, rfl⟩, _, _, rfl, rfl⟩
  have hrun := System.reachable_of_exec (init_twoCalls .rename) hs
  have honce := h 1 (storeOf diskPack) diskPack (storeOf_drawn _) rfl rfl s hrun
  have hinstalls : ∀ i, (∃ call w, s.calls[i]? = some (call, .committed w) ∧
      w.commands.length = 1) → s.installs i := by
    rintro i ⟨call, w, hi, hlen⟩
    refine ⟨call, w, hi, ?_⟩
    rintro ⟨hnil, -⟩
    rw [hnil] at hlen
    cases hlen
  cases honce.once 0 1 (hinstalls 0 hzero) (hinstalls 1 hone)

/-- Steps of calls that do not rename disturb nobody. -/
theorem undisturbed_of_fail {env : Env} {packId : Uuid} {s : InstallState} {e : Nat × Statement}
    (h : ∀ c ∈ s.calls, c.1.onConflict = .fail) : Undisturbed env packId s e := by
  intro call phase hi hmode
  cases hmode.symm.trans (h _ (List.mem_of_getElem? hi))

/-- A step leaves the arguments of the calls alone. -/
theorem fails_step {env : Env} {packId : Uuid} {s₀ : Store} {s s' : InstallState}
    {e : Nat × Statement} (hs : ∀ c ∈ s.calls, c.1.onConflict = .fail)
    (h : (installSystem env packId s₀).step s e = some s') :
    ∀ c ∈ s'.calls, c.1.onConflict = .fail := by
  obtain ⟨call, phase, store, phase', hi, -, rfl⟩ := installSystem_step h
  intro c hc
  rcases List.mem_or_eq_of_mem_set hc with hc | rfl
  · exact hs c hc
  · exact hs (call, phase) (List.mem_of_getElem? hi)

/-- Every run of calls that do not rename is undisturbed. -/
theorem reach_of_fail {env : Env} {packId : Uuid} {s₀ : Store} {s s' : InstallState}
    {es : List (Nat × Statement)} (hs : ∀ c ∈ s.calls, c.1.onConflict = .fail)
    (h : (installSystem env packId s₀).Reach (Undisturbed env packId) s)
    (hexec : (installSystem env packId s₀).exec s es = some s') :
    (installSystem env packId s₀).Reach (Undisturbed env packId) s' := by
  induction es generalizing s with
  | nil =>
      cases hexec
      exact h
  | cons e es ih =>
      obtain ⟨t, ht, hexec⟩ := Option.bind_eq_some_iff.1 hexec
      exact ih (fails_step hs ht) (.next h (undisturbed_of_fail hs) ht) hexec

/-- The same order of steps without renaming: the second call raises. -/
theorem installed_once_fail : ∃ s e,
    (installSystem plainEnv 1 (storeOf diskPack)).exec (twoCalls .fail) (overtaken.take 8) =
      some s ∧ InstalledOnce (storeOf diskPack) s ∧
    s.calls[1]? = some (⟨.fail, 2⟩, .raised e) := by
  obtain ⟨s, e, hs, hcall⟩ : ∃ s e,
      (installSystem plainEnv 1 (storeOf diskPack)).exec (twoCalls .fail) (overtaken.take 8) =
        some s ∧ s.calls[1]? = some (⟨.fail, 2⟩, .raised e) := ⟨_, _, rfl, rfl⟩
  refine ⟨s, e, hs, ?_, hcall⟩
  have hpack : (storeOf diskPack).packs.find? 1 = some diskPack := rfl
  have hvalid : SomeItemValid plainEnv (storeOf diskPack) diskPack :=
    ⟨_, rfl, fun h => by cases h.1⟩
  refine installed_once plainColumns_lawful (storeOf_drawn _) hpack rfl hvalid ?_
  exact reach_of_fail (by simp [twoCalls]) (.start (init_twoCalls .fail)) hs

end Pack
end NodeNexus
