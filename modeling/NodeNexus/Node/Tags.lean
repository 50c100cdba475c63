import NodeNexus.Node.RequiredAudit

/-!
# Tags that several calls change

`add_tag` and `remove_tag` read a node in one transaction and overwrite its tags in
another one; the bulk operations lock the rows they change.

* `tagSystem` — the calls on one node, interleaved request by request; any request
  may fail.
* `Fresh` — an overwrite falls on the tags that its call has read.
* `tags_kept` — in runs of fresh overwrites no change of a tag is lost.
* `not_tagsKept` — without that condition one is.
-/

namespace NodeNexus
namespace Node

open Content

/-! ## Bulk operations -/

/-- `NodeBulkOperationService.bulk_add_tags`. -/
def bulkAddTags (cfg : Setting) (ids : List Uuid) (tags : List String) : Service (List Uuid) := do
  let affected : List Uuid ← await (.bulkAddTags ids tags)
  if cfg.audit then
    logOptional "bulk_nodes.add_tags" none (some
      [("affected", .int affected.length), ("tags", .list (tags.map .str))]) >>=
    fun _ => pure affected
  else pure affected

/-- `NodeBulkOperationService.bulk_remove_tags`. -/
def bulkRemoveTags (cfg : Setting) (ids : List Uuid) (tags : List String) :
    Service (List Uuid) := do
  let affected : List Uuid ← await (.bulkRemoveTags ids tags)
  if cfg.audit then
    logOptional "bulk_nodes.remove_tags" none (some
      [("affected", .int affected.length), ("tags", .list (tags.map .str))]) >>=
    fun _ => pure affected
  else pure affected

/-- What is documented about arrays of texts: an accepted one reads back as it was. -/
def ReadsTagsBack (db : Columns) : Prop :=
  ∀ ts r, db.texts (ts.map jsonText) = .ok r → r = ts

/-! ## Calls -/

/-- A call that changes tags of one node. -/
inductive TagCall where
  | add (tag : String)
  | remove (tag : String)
  | bulkAdd (ids : List Uuid) (tags : List String)
  | bulkRemove (ids : List Uuid) (tags : List String)

/-- The tags of a call. -/
def TagCall.tags : TagCall → List String
  | .add tag | .remove tag => [tag]
  | .bulkAdd _ tags | .bulkRemove _ tags => tags

/-- The nodes of a call, when it is about a given one. -/
def TagCall.concerns (node : Uuid) : TagCall → Prop
  | .add _ | .remove _ => True
  | .bulkAdd ids _ | .bulkRemove ids _ => node ∈ ids

/-- Does a call put its tags on the node? -/
def TagCall.adds : TagCall → Bool
  | .add _ | .bulkAdd .. => true
  | .remove _ | .bulkRemove .. => false

/-- The call as a program. -/
def TagCall.program (cfg : Setting) (node : Uuid) : TagCall → Service Unit
  | .add tag => discardResult (addTag cfg node tag)
  | .remove tag => discardResult (removeTag cfg node tag)
  | .bulkAdd ids tags => discardResult (bulkAddTags cfg ids tags)
  | .bulkRemove ids tags => discardResult (bulkRemoveTags cfg ids tags)

/-- A call has done what it is for. -/
def TagCall.Effective (call : TagCall) (tags : List (Option String)) : Prop :=
  ∀ tag ∈ call.tags, (some tag ∈ tags ↔ call.adds = true)

/-- The tags of a node. -/
def tagsOf (w : NodeWorld) (node : Uuid) : Option (List (Option String)) :=
  (w.nodes.find? node).map fun row => row.tags.getD []

/-! ## The system -/

/-- The world and the calls on their way. -/
structure TagState where
  world : NodeWorld
  calls : List (TagCall × Service Unit)

/-- The next request of a call is answered, by an exception where it fails. -/
structure TagEvent where
  call : Nat
  fault : Option NodeFailure

/-- The gateways, unless the request fails. -/
def answerOrFail (env : StoreEnv) (fault : Option NodeFailure) :
    Program.Handler Answer NodeFailure NodeWorld :=
  fun r w =>
    match fault with
    | some e => (.error e, w)
    | none => perform env r w

/-- One request of one call. -/
def tagStep (env : StoreEnv) (s : TagState) (e : TagEvent) : Option TagState :=
  match s.calls[e.call]? with
  | none => none
  | some (call, p) =>
      match p.advance (answerOrFail env e.fault) s.world with
      | none => none
      | some (p', w') => some ⟨w', s.calls.set e.call (call, p')⟩

/-- The calls on a node with some tags, none of them started. -/
structure TagStart (cfg : Setting) (node : Uuid) (before : List (Option String)) (s : TagState) :
    Prop where
  tags : tagsOf s.world node = some before
  nodup : before.Nodup
  calls : ∀ c ∈ s.calls, c.2 = c.1.program cfg node ∧ c.1.concerns node
  /-- The tags of different calls are different. -/
  distinct : s.calls.Pairwise fun c d => ∀ tag ∈ c.1.tags, tag ∉ d.1.tags

/-- Any number of calls on one node. -/
def tagSystem (cfg : Setting) (env : StoreEnv) (node : Uuid) (before : List (Option String)) :
    System TagState TagEvent where
  init := TagStart cfg node before
  step := tagStep env

/-- All calls have returned. -/
def TagState.returned (s : TagState) : Prop :=
  ∀ c ∈ s.calls, c.2 = .done ()

/-- What the node has when the calls have returned. -/
structure TagsKept (node : Uuid) (before : List (Option String)) (s : TagState) : Prop where
  kept : ∃ tags, tagsOf s.world node = some tags ∧ tags.Nodup ∧
    (∀ c ∈ s.calls, c.1.Effective tags) ∧
    ∀ tag, (∀ c ∈ s.calls, tag ∉ c.1.tags.map some) → (tag ∈ tags ↔ tag ∈ before)

/-- The tags that an overwrite of a call makes of some tags. -/
def TagCall.overwrites : TagCall → List (Option String) → List (Option String)
  | .add tag, tags => tags ++ [some tag]
  | .remove tag, tags => tags.erase (some tag)
  | .bulkAdd .., tags | .bulkRemove .., tags => tags

/-- An overwrite falls on the tags that the call has read: the node has them still. -/
def Fresh (node : Uuid) (s : TagState) (e : TagEvent) : Prop :=
  ∀ call ts k, s.calls[e.call]? = some (call, .ask (.updateNode node [.tags (some ts)]) k) →
    e.fault = none → ∀ tags, tagsOf s.world node = some tags → ts = call.overwrites tags

/-! ## Lists of tags -/

theorem mem_addMissing {x : Option String} {tags : List String} {existing : List (Option String)} :
    x ∈ addMissing existing tags ↔ x ∈ existing ∨ x ∈ tags.map some := by
  induction tags generalizing existing with
  | nil => simp [addMissing]
  | cons tag tags ih =>
      unfold addMissing
      rw [ih, List.map_cons, List.mem_cons]
      split
      · rename_i hmem
        constructor
        · exact fun h => h.imp_right .inr
        · rintro (h | rfl | h)
          · exact .inl h
          · exact .inl hmem
          · exact .inr h
      · rw [List.mem_append, List.mem_singleton, or_assoc]

theorem nodup_addMissing {tags : List String} {existing : List (Option String)}
    (h : existing.Nodup) : (addMissing existing tags).Nodup := by
  induction tags generalizing existing with
  | nil => exact h
  | cons tag tags ih =>
      unfold addMissing
      apply ih
      split
      · exact h
      · rename_i hmem
        exact List.nodup_append'.2 ⟨h, List.nodup_singleton _, List.disjoint_singleton.2 hmem⟩

theorem mem_removeListed {x : Option String} {tags : List String}
    {existing : List (Option String)} :
    x ∈ removeListed existing tags ↔ x ∈ existing ∧ x ∉ tags.map some := by
  unfold removeListed
  rw [List.mem_filter, decide_eq_true_eq]

/-! ## What the gateways do to the tags -/

section Gateways

variable {env : StoreEnv} {w : NodeWorld} {node : Uuid}

/-- The tags after a row was written with other tags. -/
theorem tags_of_setField (hdb : ReadsTagsBack env.db) {row row' : NodeRow}
    {ts : List (Option String)} (h : setField env.db row (.tags (some ts)) = .ok row') :
    row'.tags.getD [] = ts ∧ row'.id = row.id := by
  refine ⟨?_, setField_id h⟩
  obtain ⟨v, hv, rfl⟩ := map_eq_ok.1 h
  obtain ⟨r, hr, rfl⟩ := map_eq_ok.1 hv
  rw [hdb ts r hr]
  rfl

/-- **The loop of a bulk operation** changes the tags of the listed nodes. -/
theorem tags_of_retag (hdb : ReadsTagsBack env.db)
    {change : List (Option String) → List (Option String)} {rows : List NodeRow} {t t' : NodeTable}
    {affected : List Uuid} (hrows : ∀ row ∈ rows, t.find? row.id = some row)
    (hids : (rows.map (·.id)).Nodup) (h : retag env change rows t = .ok (t', affected)) (i : Uuid) :
    (t'.find? i).map (fun row => row.tags.getD []) =
      (t.find? i).map fun row =>
        if i ∈ rows.map (·.id) then change (row.tags.getD []) else row.tags.getD [] := by
  induction rows generalizing t affected with
  | nil =>
      cases h
      rfl
  | cons row rows ih =>
      rw [List.map_cons, List.nodup_cons] at hids
      have hfind := hrows row (List.mem_cons_self ..)
      unfold retag at h
      simp only [] at h
      split at h
      · rename_i hsame
        rw [ih (fun r hr => hrows r (List.mem_cons_of_mem _ hr)) hids.2 h]
        by_cases hi : i = row.id
        · subst hi
          rw [hfind]
          simp [hids.1, hsame]
        · simp [hi]
      · split at h
        · cases h
        · rename_i row' hset
          obtain ⟨htags, hid⟩ := tags_of_setField hdb hset
          obtain ⟨t₁, hwrite, h⟩ := bind_eq_ok.1 h
          obtain ⟨⟨t₂, affected'⟩, hrest, h⟩ := bind_eq_ok.1 h
          cases h
          have hput : t.replace? { row' with updatedAt := env.now } = some t₁ := by
            unfold writeRow at hwrite
            split at hwrite
            · cases hwrite
            · rename_i heq
              cases hwrite
              exact heq
          have hlookup : ∀ j, t₁.find? j =
              if j = row.id then some { row' with updatedAt := env.now } else t.find? j := by
            intro j
            rw [NamedTable.find?_replace? hput
              (show (t.find? row'.id).isSome = true by rw [hid, hfind]; rfl)]
            exact if_congr (by rw [← hid]) rfl rfl
          have hothers : ∀ r ∈ rows, t₁.find? r.id = some r := by
            intro r hr
            have hne : r.id ≠ row.id := fun heq => hids.1 (heq ▸ List.mem_map_of_mem hr)
            rw [hlookup, if_neg hne]
            exact hrows r (List.mem_cons_of_mem _ hr)
          rw [ih hothers hids.2 hrest, hlookup]
          by_cases hi : i = row.id
          · subst hi
            rw [if_pos rfl, hfind]
            simp [hids.1, htags]
          · rw [if_neg hi]
            simp [hi]

theorem tags_of_listed (hdb : ReadsTagsBack env.db)
    {change : List (Option String) → List (Option String)} {t t' : NodeTable} {ids : List Uuid}
    {affected : List Uuid} (h : retag env change (listedRows t ids) t = .ok (t', affected))
    (hnode : node ∈ ids) : (t'.find? node).map (fun row => row.tags.getD []) =
      (t.find? node).map fun row => change (row.tags.getD []) := by
  have hsub : (listedRows t ids).Sublist t.rows := List.filter_sublist
  rw [tags_of_retag hdb (fun row hrow => NamedTable.find?_eq_some.2 ⟨hsub.subset hrow, rfl⟩)
    (t.ids_nodup.sublist (hsub.map _)) h node]
  cases hfind : t.find? node with
  | none => rfl
  | some row =>
      obtain ⟨hrow, hid⟩ := NamedTable.find?_eq_some.1 hfind
      have hmem : node ∈ (listedRows t ids).map (·.id) :=
        List.mem_map.2 ⟨row, List.mem_filter.2 ⟨hrow, decide_eq_true (hid ▸ hnode)⟩, hid⟩
      rw [Option.map_some, Option.map_some, if_pos hmem]

/-- The tags after an overwrite. -/
theorem tags_of_updateRow (hdb : ReadsTagsBack env.db) {t t' : NodeTable} {new : NodeRow}
    {ts : List (Option String)} (h : updateRow env t node [.tags (some ts)] = .ok (some (t', new))) :
    (t'.find? node).map (fun row => row.tags.getD []) = some ts := by
  obtain ⟨row, row', -, hset, hnew, hlookup⟩ := find?_of_updateRow h
  obtain ⟨row₁, hset₁, hset₂⟩ := bind_eq_ok.1 hset
  cases hset₂
  rw [hlookup, if_pos rfl, hnew, Option.map_some]
  exact congrArg some (tags_of_setField hdb hset₁).1

end Gateways

/-! ## Where a call stands -/

/-- A call that has changed nothing yet. -/
inductive Pending (cfg : Setting) (node : Uuid) : TagCall → Service Unit → Prop
  | start (call : TagCall) : Pending cfg node call (call.program cfg node)
  | addLogging (tag : String) (ts : List (Option String)) : some tag ∉ ts →
      Pending cfg node (.add tag)
        (discardResult (writeTags cfg "add_tag" node tag (ts ++ [some tag])))
  | removeLogging (tag : String) (ts : List (Option String)) :
      Pending cfg node (.remove tag) (discardResult (writeTags cfg "remove_tag" node tag ts))
  | addWriting (tag : String) (ts : List (Option String)) : some tag ∉ ts →
      Pending cfg node (.add tag) (discardResult (overwriteTags cfg node (ts ++ [some tag])))
  | removeWriting (tag : String) (ts : List (Option String)) :
      Pending cfg node (.remove tag) (discardResult (overwriteTags cfg node ts))

/-- The optional audit of a bulk operation. -/
def Request.optional (r : Request) : Prop := ∃ event, r = .enqueueOptional event

/-- Where a call stands, when the node has some tags. -/
inductive Phase (cfg : Setting) (node : Uuid) (call : TagCall) (tags : List (Option String)) :
    Service Unit → Prop
  /-- Nothing is changed yet. -/
  | pending {p : Service Unit} : Pending cfg node call p → Phase cfg node call tags p
  /-- The tags are changed, at most the audit is left. -/
  | settled {p : Service Unit} : call.Effective tags → p.Asks Request.optional →
      Phase cfg node call tags p
  /-- The call has raised an exception. -/
  | failed (e : NodeFailure) : Phase cfg node call tags (.raise e)

/-- Where a call stands depends on its own tags only. -/
theorem Phase.congr {cfg : Setting} {node : Uuid} {call : TagCall} {tags tags' : List (Option String)}
    {p : Service Unit} (h : Phase cfg node call tags p)
    (hsame : ∀ tag ∈ call.tags, (some tag ∈ tags' ↔ some tag ∈ tags)) :
    Phase cfg node call tags' p := by
  cases h with
  | pending h => exact .pending h
  | settled h hp => exact .settled (fun tag htag => (hsame tag htag).trans (h tag htag)) hp
  | failed e => exact .failed e

/-- What one step of a call does to the tags of the node, and where the call then
stands. -/
def Steps (cfg : Setting) (node : Uuid) (call : TagCall) (tags : List (Option String))
    (p' : Service Unit) (w' : NodeWorld) : Prop :=
  ∃ tags', tagsOf w' node = some tags' ∧ tags'.Nodup ∧
    (∀ tag, tag ∉ call.tags.map some → (tag ∈ tags' ↔ tag ∈ tags)) ∧ Phase cfg node call tags' p'

section Steps

variable {cfg : Setting} {env : StoreEnv} {node : Uuid} {w : NodeWorld}
  {tags : List (Option String)} {call : TagCall} {fault : Option NodeFailure} {p p' : Service Unit}
  {w' : NodeWorld}

/-- A step that leaves the nodes. -/
theorem Steps.same (htags : tagsOf w node = some tags) (hnodup : tags.Nodup)
    (hnodes : w'.nodes = w.nodes) (hp : Phase cfg node call tags p') :
    Steps cfg node call tags p' w' := by
  refine ⟨tags, ?_, hnodup, fun tag _ => Iff.rfl, hp⟩
  unfold tagsOf at htags ⊢
  rw [hnodes, htags]

/-- A failed request. -/
theorem Steps.failed (htags : tagsOf w node = some tags) (hnodup : tags.Nodup) (e : NodeFailure) :
    Steps cfg node call tags (.raise e) w :=
  .same htags hnodup rfl (.failed e)

/-- The node that has the tags. -/
theorem getNode_of_tagsOf (htags : tagsOf w node = some tags) :
    ∃ row, w.nodes.find? node = some row ∧ row.tags.getD [] = tags := by
  unfold tagsOf at htags
  exact Option.map_eq_some_iff.1 htags

/-- A read that finds the tag as it should be ends the call. -/
theorem settled_done (h : call.Effective tags) : Phase cfg node call tags (.done ()) :=
  .settled h (.done ())

/-- The request for the tags to be overwritten. -/
theorem steps_writing (hdb : ReadsTagsBack env.db) (htags : tagsOf w node = some tags)
    (hnodup : tags.Nodup) {ts : List (Option String)} (hts : ts.Nodup)
    (hother : ∀ tag, tag ∉ call.tags.map some → (tag ∈ ts ↔ tag ∈ tags))
    (heffect : call.Effective ts)
    (h : (discardResult (overwriteTags cfg node ts)).advance (answerOrFail env fault) w =
      some (p', w')) : Steps cfg node call tags p' w' := by
  cases fault with
  | some e =>
      change some (_, _) = some (p', w') at h
      obtain ⟨rfl, rfl⟩ := Prod.mk.inj (Option.some.inj h)
      exact .failed htags hnodup e
  | none =>
      have hperform : perform env (.updateNode node [.tags (some ts)]) w =
        updated w (updateRow env w.nodes node [.tags (some ts)]) := rfl
      unfold overwriteTags discardResult at h
      change some (_, _) = some (p', w') at h
      obtain ⟨rfl, rfl⟩ := Prod.mk.inj (Option.some.inj h)
      simp only [answerOrFail, hperform]
      obtain ⟨e, herror⟩ | ⟨-, hnone⟩ | ⟨row, row', t', -, -, -, hok⟩ :=
        updateRow_cases env w.nodes node [.tags (some ts)]
      · rw [herror]
        exact .failed htags hnodup e
      · rw [hnone]
        exact .failed htags hnodup _
      · rw [hok]
        exact ⟨ts, tags_of_updateRow hdb hok, hts, hother, settled_done heffect⟩

/-- The request for the required event. -/
theorem steps_logging (htags : tagsOf w node = some tags) (hnodup : tags.Nodup)
    {action tag : String} {ts : List (Option String)} (haudit : cfg.audit = true)
    (hwriting : Pending cfg node call (discardResult (overwriteTags cfg node ts)))
    (h : (discardResult (writeTags cfg action node tag ts)).advance (answerOrFail env fault) w =
      some (p', w')) : Steps cfg node call tags p' w' := by
  unfold writeTags Setting.logRequired at h
  rw [if_pos haudit] at h
  change some (_, _) = some (p', w') at h
  obtain ⟨rfl, rfl⟩ := Prod.mk.inj (Option.some.inj h)
  cases fault with
  | some e => exact .failed htags hnodup _
  | none => exact .same htags hnodup rfl (.pending hwriting)

/-- Without audit the tags are overwritten at once. -/
theorem writeTags_of_no_audit (haudit : ¬ cfg.audit = true) (action tag : String)
    (ts : List (Option String)) :
    discardResult (writeTags cfg action node tag ts) = discardResult (overwriteTags cfg node ts) := by
  unfold writeTags Setting.logRequired
  rw [if_neg haudit]
  rfl

/-- The transaction of a bulk operation. -/
theorem steps_bulk (hdb : ReadsTagsBack env.db) (htags : tagsOf w node = some tags)
    {ids : List Uuid} (hnode : node ∈ ids) {change : List (Option String) → List (Option String)}
    (hnodup : (change tags).Nodup)
    (hother : ∀ tag, tag ∉ call.tags.map some → (tag ∈ change tags ↔ tag ∈ tags))
    (heffect : call.Effective (change tags)) {t' : NodeTable} {affected : List Uuid}
    (h : retag env change (listedRows w.nodes ids) w.nodes = .ok (t', affected))
    (hp : p'.Asks Request.optional) : Steps cfg node call tags p' (w.withNodes t') := by
  obtain ⟨row, hfind, hrow⟩ := getNode_of_tagsOf htags
  refine ⟨change tags, ?_, hnodup, hother, .settled heffect hp⟩
  show (t'.find? node).map _ = _
  rw [tags_of_listed hdb h hnode, hfind, Option.map_some, hrow]

theorem optional_bulkTail (action : String) (details : Option Json.Fields) (affected : List Uuid) :
    (discardResult (if cfg.audit then
        logOptional action none details >>= fun _ => pure affected
      else pure affected)).Asks Request.optional := by
  unfold discardResult
  refine Program.Asks.bind ?_ fun _ => .done _
  split
  · have hcall : (await (.enqueueOptional (auditEvent action none none details))).Asks
        Request.optional := .call ⟨_, rfl⟩
    have hlog : (logOptional action none details).Asks Request.optional := by
      refine hcall.attempt.bind fun stored => ?_
      cases stored with
      | ok _ => exact .done _
      | error _ => exact .raise _
    exact hlog.bind fun _ => .done _
  · exact .done _

theorem effective_add {tag : String} : (TagCall.add tag).Effective tags ↔ some tag ∈ tags := by
  unfold TagCall.Effective
  simp [TagCall.tags, TagCall.adds]

theorem effective_remove {tag : String} :
    (TagCall.remove tag).Effective tags ↔ some tag ∉ tags := by
  unfold TagCall.Effective
  simp [TagCall.tags, TagCall.adds]

theorem effective_addMissing (ids : List Uuid) (ts : List String) :
    (TagCall.bulkAdd ids ts).Effective (addMissing tags ts) := by
  intro tag htag
  rw [mem_addMissing]
  exact iff_of_true (.inr (List.mem_map_of_mem htag)) rfl

theorem effective_removeListed (ids : List Uuid) (ts : List String) :
    (TagCall.bulkRemove ids ts).Effective (removeListed tags ts) := by
  intro tag htag
  rw [mem_removeListed]
  exact iff_of_false (fun h => h.2 (List.mem_map_of_mem htag)) Bool.false_ne_true

/-- What an overwrite of fresh tags does to them. -/
theorem overwrites_add {tag : String} {ts : List (Option String)}
    (hnodup : tags.Nodup) (hmem : some tag ∉ tags) (hts : ts = (TagCall.add tag).overwrites tags) :
    ts.Nodup ∧ (∀ t, t ∉ (TagCall.add tag).tags.map some → (t ∈ ts ↔ t ∈ tags)) ∧
      (TagCall.add tag).Effective ts := by
  subst hts
  refine ⟨List.nodup_append'.2 ⟨hnodup, List.nodup_singleton _, List.disjoint_singleton.2 hmem⟩,
    fun t ht => ?_, effective_add.2 (List.mem_append_right _ (List.mem_singleton_self _))⟩
  have hne : t ≠ some tag := by simpa [TagCall.tags] using ht
  show t ∈ tags ++ [some tag] ↔ _
  rw [List.mem_append, List.mem_singleton, or_iff_left hne]

theorem overwrites_remove {tag : String} {ts : List (Option String)}
    (hnodup : tags.Nodup) (hts : ts = (TagCall.remove tag).overwrites tags) :
    ts.Nodup ∧ (∀ t, t ∉ (TagCall.remove tag).tags.map some → (t ∈ ts ↔ t ∈ tags)) ∧
      (TagCall.remove tag).Effective ts := by
  subst hts
  refine ⟨hnodup.erase _, fun t ht => ?_, effective_remove.2 hnodup.not_mem_erase⟩
  have hne : t ≠ some tag := by simpa [TagCall.tags] using ht
  exact List.mem_erase_of_ne hne

/-- The next request of `add_tag` and of `remove_tag` at their start. -/
theorem steps_read (htags : tagsOf w node = some tags) (hnodup : tags.Nodup)
    {k : Except NodeFailure (Option NodeViewDTO) → Service Unit}
    (herror : ∀ e, k (.error e) = .raise e)
    (hread : ∀ view, view.tags = tags → Phase cfg node call tags (k (.ok (some view))))
    (h : Program.advance (answerOrFail env fault) (.ask (.getNode node) k) w = some (p', w')) :
    Steps cfg node call tags p' w' := by
  obtain ⟨rfl, rfl⟩ := Prod.mk.inj (Option.some.inj h)
  cases fault with
  | some e =>
      show Steps cfg node call tags (k (.error e)) w
      rw [herror]
      exact .failed htags hnodup e
  | none =>
      obtain ⟨row, hfind, hrow⟩ := getNode_of_tagsOf htags
      have hperform : perform env (.getNode node) w = (.ok (some row.toView), w) := by
        show (Except.ok ((w.nodes.find? node).map (·.toView)), w) = _
        rw [hfind]
        rfl
      show Steps cfg node call tags (k (perform env (.getNode node) w).1) _
      rw [hperform]
      exact .same htags hnodup rfl (hread _ hrow)

/-- The overwrite of `add_tag`. -/
theorem steps_addWriting (hdb : ReadsTagsBack env.db) (htags : tagsOf w node = some tags)
    (hnodup : tags.Nodup) {tag : String} {ts : List (Option String)} (hmem : some tag ∉ ts)
    (hp : p = discardResult (overwriteTags cfg node (ts ++ [some tag])))
    (hfresh : ∀ ts k, p = .ask (.updateNode node [.tags (some ts)]) k → fault = none →
      ts = (TagCall.add tag).overwrites tags)
    (h : p.advance (answerOrFail env fault) w = some (p', w')) :
    Steps cfg node (.add tag) tags p' w' := by
  subst hp
  cases fault with
  | some e =>
      change some (_, _) = some (p', w') at h
      obtain ⟨rfl, rfl⟩ := Prod.mk.inj (Option.some.inj h)
      exact .failed htags hnodup e
  | none =>
      have hts : ts ++ [some tag] = tags ++ [some tag] := hfresh _ _ rfl rfl
      have heq : ts = tags := List.append_cancel_right hts
      subst heq
      obtain ⟨hnodup', hother, heffect⟩ := overwrites_add hnodup hmem rfl
      exact steps_writing hdb htags hnodup hnodup' hother heffect h

/-- The overwrite of `remove_tag`. -/
theorem steps_removeWriting (hdb : ReadsTagsBack env.db) (htags : tagsOf w node = some tags)
    (hnodup : tags.Nodup) {tag : String} {ts : List (Option String)}
    (hp : p = discardResult (overwriteTags cfg node ts))
    (hfresh : ∀ ts k, p = .ask (.updateNode node [.tags (some ts)]) k → fault = none →
      ts = (TagCall.remove tag).overwrites tags)
    (h : p.advance (answerOrFail env fault) w = some (p', w')) :
    Steps cfg node (.remove tag) tags p' w' := by
  subst hp
  cases fault with
  | some e =>
      change some (_, _) = some (p', w') at h
      obtain ⟨rfl, rfl⟩ := Prod.mk.inj (Option.some.inj h)
      exact .failed htags hnodup e
  | none =>
      obtain ⟨hnodup', hother, heffect⟩ := overwrites_remove hnodup (hfresh _ _ rfl rfl)
      exact steps_writing hdb htags hnodup hnodup' hother heffect h

/-- The transaction of `bulk_add_tags`. -/
theorem steps_bulkAdd (hdb : ReadsTagsBack env.db) (htags : tagsOf w node = some tags)
    (hnodup : tags.Nodup) {ids : List Uuid} (hnode : node ∈ ids) {ts : List String}
    (h : ((TagCall.bulkAdd ids ts).program cfg node).advance (answerOrFail env fault) w =
      some (p', w')) : Steps cfg node (.bulkAdd ids ts) tags p' w' := by
  change some (_, _) = some (p', w') at h
  obtain ⟨rfl, rfl⟩ := Prod.mk.inj (Option.some.inj h)
  cases fault with
  | some e => exact .failed htags hnodup e
  | none =>
      have hperform : perform env (.bulkAddTags ids ts) w = committed w
          ((retag env (addMissing · ts) (listedRows w.nodes ids) w.nodes).map
            fun done => (done.2, w.withNodes done.1)) := rfl
      simp only [answerOrFail, hperform]
      cases hretag : retag env (addMissing · ts) (listedRows w.nodes ids) w.nodes with
      | error e => exact .failed htags hnodup e
      | ok done =>
          refine steps_bulk hdb htags hnode (nodup_addMissing hnodup) (fun tag htag => ?_)
            (effective_addMissing ids ts) hretag (optional_bulkTail _ _ _)
          exact mem_addMissing.trans (or_iff_left htag)

/-- The transaction of `bulk_remove_tags`. -/
theorem steps_bulkRemove (hdb : ReadsTagsBack env.db) (htags : tagsOf w node = some tags)
    (hnodup : tags.Nodup) {ids : List Uuid} (hnode : node ∈ ids) {ts : List String}
    (h : ((TagCall.bulkRemove ids ts).program cfg node).advance (answerOrFail env fault) w =
      some (p', w')) : Steps cfg node (.bulkRemove ids ts) tags p' w' := by
  change some (_, _) = some (p', w') at h
  obtain ⟨rfl, rfl⟩ := Prod.mk.inj (Option.some.inj h)
  cases fault with
  | some e => exact .failed htags hnodup e
  | none =>
      have hperform : perform env (.bulkRemoveTags ids ts) w = committed w
          ((retag env (removeListed · ts) (listedRows w.nodes ids) w.nodes).map
            fun done => (done.2, w.withNodes done.1)) := rfl
      simp only [answerOrFail, hperform]
      cases hretag : retag env (removeListed · ts) (listedRows w.nodes ids) w.nodes with
      | error e => exact .failed htags hnodup e
      | ok done =>
          refine steps_bulk hdb htags hnode (hnodup.filter _) (fun tag htag => ?_)
            (effective_removeListed ids ts) hretag (optional_bulkTail _ _ _)
          exact mem_removeListed.trans (and_iff_left htag)

/-- **One request of a call that has changed nothing yet**: the tags of the other
calls are as they were. -/
theorem steps_of_pending (hdb : ReadsTagsBack env.db) (htags : tagsOf w node = some tags)
    (hnodup : tags.Nodup) (hcall : call.concerns node) (hp : Pending cfg node call p)
    (hfresh : ∀ ts k, p = .ask (.updateNode node [.tags (some ts)]) k → fault = none →
      ts = call.overwrites tags)
    (h : p.advance (answerOrFail env fault) w = some (p', w')) :
    Steps cfg node call tags p' w' := by
  cases hp with
  | start =>
      cases call with
      | add tag =>
          refine steps_read htags hnodup (fun e => rfl) (fun view hview => ?_) h
          by_cases hmem : some tag ∈ view.tags
          · have hend : Phase cfg node (.add tag) tags (.done ()) :=
              settled_done (effective_add.2 (hview ▸ hmem))
            refine (congrArg (Phase cfg node (.add tag) tags) ?_).mpr hend
            show discardResult (if some tag ∈ view.tags then _ else _) = _
            rw [if_pos hmem]
            rfl
          · have hnext : Phase cfg node (.add tag) tags
                (discardResult (writeTags cfg "add_tag" node tag (view.tags ++ [some tag]))) :=
              .pending (.addLogging tag view.tags hmem)
            refine (congrArg (Phase cfg node (.add tag) tags) ?_).mpr hnext
            show discardResult (if some tag ∈ view.tags then _ else _) = _
            rw [if_neg hmem]
      | remove tag =>
          refine steps_read htags hnodup (fun e => rfl) (fun view hview => ?_) h
          by_cases hmem : some tag ∈ view.tags
          · have hnext : Phase cfg node (.remove tag) tags
                (discardResult (writeTags cfg "remove_tag" node tag (view.tags.erase (some tag)))) :=
              .pending (.removeLogging tag _)
            refine (congrArg (Phase cfg node (.remove tag) tags) ?_).mpr hnext
            show discardResult (if some tag ∈ view.tags then _ else _) = _
            rw [if_pos hmem]
          · have hend : Phase cfg node (.remove tag) tags (.done ()) :=
              settled_done (effective_remove.2 (hview ▸ hmem))
            refine (congrArg (Phase cfg node (.remove tag) tags) ?_).mpr hend
            show discardResult (if some tag ∈ view.tags then _ else _) = _
            rw [if_neg hmem]
            rfl
      | bulkAdd ids ts => exact steps_bulkAdd hdb htags hnodup hcall h
      | bulkRemove ids ts => exact steps_bulkRemove hdb htags hnodup hcall h
  | addLogging tag ts hmem =>
      by_cases haudit : cfg.audit = true
      · exact steps_logging htags hnodup haudit (.addWriting tag ts hmem) h
      · rw [writeTags_of_no_audit haudit] at h hfresh
        exact steps_addWriting hdb htags hnodup hmem rfl hfresh h
  | removeLogging tag ts =>
      by_cases haudit : cfg.audit = true
      · exact steps_logging htags hnodup haudit (.removeWriting tag ts) h
      · rw [writeTags_of_no_audit haudit] at h hfresh
        exact steps_removeWriting hdb htags hnodup rfl hfresh h
  | addWriting tag ts hmem => exact steps_addWriting hdb htags hnodup hmem rfl hfresh h
  | removeWriting tag ts => exact steps_removeWriting hdb htags hnodup rfl hfresh h

/-- **One request of a call**, wherever it stands. -/
theorem steps_of_phase (hdb : ReadsTagsBack env.db) (htags : tagsOf w node = some tags)
    (hnodup : tags.Nodup) (hcall : call.concerns node) (hp : Phase cfg node call tags p)
    (hfresh : ∀ ts k, p = .ask (.updateNode node [.tags (some ts)]) k → fault = none →
      ts = call.overwrites tags)
    (h : p.advance (answerOrFail env fault) w = some (p', w')) :
    Steps cfg node call tags p' w' := by
  cases hp with
  | pending hp => exact steps_of_pending hdb htags hnodup hcall hp hfresh h
  | failed e => cases h
  | settled heffect hp =>
      cases hp with
      | done a => cases h
      | raise e => cases h
      | @ask r k hr hk =>
          obtain ⟨event, rfl⟩ := hr
          obtain ⟨rfl, rfl⟩ := Prod.mk.inj (Option.some.inj h)
          refine .same htags hnodup ?_ (.settled heffect (hk _))
          cases fault <;> rfl

end Steps

/-! ## Runs -/

section Runs

variable {cfg : Setting} {env : StoreEnv} {node : Uuid} {before : List (Option String)}
  {s s' : TagState} {e : TagEvent}

/-- What holds while the calls are on their way. -/
structure TagInv (cfg : Setting) (node : Uuid) (before : List (Option String)) (s : TagState) :
    Prop where
  concerns : ∀ c ∈ s.calls, c.1.concerns node
  distinct : s.calls.Pairwise fun c d => ∀ tag ∈ c.1.tags, tag ∉ d.1.tags
  node : ∃ tags, tagsOf s.world node = some tags ∧ tags.Nodup ∧
    (∀ c ∈ s.calls, Phase cfg node c.1 tags c.2) ∧
    ∀ tag, (∀ c ∈ s.calls, tag ∉ c.1.tags.map some) → (tag ∈ tags ↔ tag ∈ before)

theorem tagInv_start (h : TagStart cfg node before s) : TagInv cfg node before s where
  concerns c hc := (h.calls c hc).2
  distinct := h.distinct
  node := ⟨before, h.tags, h.nodup,
    fun c hc => (h.calls c hc).1 ▸ .pending (.start c.1), fun _ _ => Iff.rfl⟩

/-- What one event does. -/
theorem tagStep_eq_some (h : tagStep env s e = some s') :
    ∃ call p p' w', s.calls[e.call]? = some (call, p) ∧
      p.advance (answerOrFail env e.fault) s.world = some (p', w') ∧
      s' = ⟨w', s.calls.set e.call (call, p')⟩ := by
  unfold tagStep at h
  split at h
  · cases h
  · rename_i call p hcall
    split at h
    · cases h
    · rename_i p' w' hadvance
      cases h
      exact ⟨call, p, p', w', hcall, hadvance, rfl⟩

/-- The calls after one of them was prolonged. -/
theorem mem_set_calls {calls : List (TagCall × Service Unit)} {i : Nat} {call : TagCall}
    {p' : Service Unit} {c : TagCall × Service Unit}
    (hc : c ∈ calls.set i (call, p')) :
    c = (call, p') ∨ ∃ j, j ≠ i ∧ calls[j]? = some c := by
  obtain ⟨j, hj, rfl⟩ := List.mem_iff_getElem.1 hc
  rw [List.getElem_set]
  split
  · exact .inl rfl
  · rename_i hne
    rw [List.length_set] at hj
    exact .inr ⟨j, fun heq => hne heq.symm, List.getElem?_eq_getElem hj⟩

/-- The ops of the calls do not change. -/
theorem map_set_calls {calls : List (TagCall × Service Unit)} {i : Nat} {call : TagCall}
    {p p' : Service Unit} (hi : calls[i]? = some (call, p)) :
    (calls.set i (call, p')).map Prod.fst = calls.map Prod.fst := by
  rw [List.map_set]
  refine List.ext_getElem? fun j => ?_
  rw [List.getElem?_set, List.getElem?_map]
  split
  · rename_i heq
    subst heq
    rw [List.length_map, hi]
    split
    · rfl
    · rename_i hlen
      rw [List.getElem?_eq_none (by omega)] at hi
      cases hi
  · rfl

/-- Two calls at different places have different tags. -/
theorem disjoint_of_ne {calls : List (TagCall × Service Unit)}
    (h : calls.Pairwise fun c d => ∀ tag ∈ c.1.tags, tag ∉ d.1.tags) {i j : Nat} (hne : j ≠ i)
    {c d : TagCall × Service Unit} (hi : calls[i]? = some c) (hj : calls[j]? = some d)
    {tag : String} (htag : tag ∈ d.1.tags) : tag ∉ c.1.tags := by
  obtain ⟨hil, rfl⟩ := List.getElem?_eq_some_iff.1 hi
  obtain ⟨hjl, rfl⟩ := List.getElem?_eq_some_iff.1 hj
  rcases Nat.lt_or_gt_of_ne hne with hlt | hlt
  · exact List.pairwise_iff_getElem.1 h j i hjl hil hlt tag htag
  · exact fun hmem => List.pairwise_iff_getElem.1 h i j hil hjl hlt tag hmem htag

/-- **One event** keeps the invariant, if its overwrite is fresh. -/
theorem tagInv_step (hdb : ReadsTagsBack env.db) (hs : TagInv cfg node before s)
    (hfresh : Fresh node s e) (h : tagStep env s e = some s') : TagInv cfg node before s' := by
  obtain ⟨call, p, p', w', hcall, hadvance, rfl⟩ := tagStep_eq_some h
  obtain ⟨tags, htags, hnodup, hphases, hothers⟩ := hs.node
  have hmem : (call, p) ∈ s.calls := List.mem_of_getElem? hcall
  obtain ⟨tags', htags', hnodup', hsame, hphase⟩ := steps_of_phase hdb htags hnodup
    (hs.concerns _ hmem) (hphases _ hmem)
    (fun ts k hp hfault => hfresh call ts k (hp ▸ hcall) hfault tags htags) hadvance
  have hops : (s.calls.set e.call (call, p')).map Prod.fst = s.calls.map Prod.fst :=
    map_set_calls hcall
  refine ⟨fun c hc => ?_, ?_, tags', htags', hnodup', fun c hc => ?_, fun tag htag => ?_⟩
  · have hop : c.1 ∈ s.calls.map Prod.fst := hops ▸ List.mem_map_of_mem hc
    obtain ⟨c₀, hc₀, heq⟩ := List.mem_map.1 hop
    exact heq ▸ hs.concerns c₀ hc₀
  · have hdistinct : (s.calls.map Prod.fst).Pairwise fun a b => ∀ tag ∈ a.tags, tag ∉ b.tags :=
      List.pairwise_map.2 hs.distinct
    rw [← hops] at hdistinct
    exact List.pairwise_map.1 hdistinct
  · obtain rfl | ⟨j, hne, hj⟩ := mem_set_calls hc
    · exact hphase
    · refine (hphases c (List.mem_of_getElem? hj)).congr fun tag htag => hsame _ fun hown => ?_
      obtain ⟨own, hown, heq⟩ := List.mem_map.1 hown
      cases heq
      exact disjoint_of_ne hs.distinct hne hcall hj htag hown
  · have hall : ∀ c ∈ s.calls, tag ∉ c.1.tags.map some := by
      intro c hc
      have hop : c.1 ∈ (s.calls.set e.call (call, p')).map Prod.fst :=
        hops ▸ List.mem_map_of_mem hc
      obtain ⟨c', hc', heq⟩ := List.mem_map.1 hop
      exact heq ▸ htag c' hc'
    exact (hsame tag (hall _ hmem)).trans (hothers tag hall)

/-- A call that has changed nothing waits for an answer. -/
theorem pending_ne_done {call : TagCall} {p : Service Unit} (h : Pending cfg node call p) :
    p ≠ .done () := by
  intro hp
  cases h with
  | start => cases call <;> cases hp
  | addLogging | removeLogging =>
      unfold writeTags Setting.logRequired at hp
      split at hp <;> cases hp
  | addWriting | removeWriting => cases hp

/-- **Tags are kept** in every run all of whose overwrites are fresh: when the calls
have returned, the node has the added tags, none of the removed ones and of the others
those it had, each once. -/
theorem tags_kept (hdb : ReadsTagsBack env.db)
    (h : (tagSystem cfg env node before).Reach (Fresh node) s) (hend : s.returned) :
    TagsKept node before s := by
  obtain ⟨-, -, tags, htags, hnodup, hphases, hothers⟩ := h.invariant
    (I := TagInv cfg node before) (fun _ => tagInv_start) fun _ _ _ hs hfresh hstep =>
      tagInv_step hdb hs hfresh hstep
  refine ⟨tags, htags, hnodup, fun c hc => ?_, hothers⟩
  obtain ⟨call, p⟩ := c
  have hp : p = .done () := hend _ hc
  have hphase : Phase cfg node call tags p := hphases _ hc
  cases hphase with
  | settled heffect _ => exact heffect
  | failed e => cases hp
  | pending hpending => exact absurd hp (pending_ne_done hpending)

end Runs

/-! ## A lost tag -/

theorem plainColumns_readsTagsBack : ReadsTagsBack plainColumns := by
  intro ts r h
  have hrounds := mapM_eq_ok_iff.1 h
  rw [List.forall₂_map_left_iff] at hrounds
  clear h
  induction hrounds with
  | nil => rfl
  | @cons t o _ _ hto _ ih =>
      rw [← ih]
      cases t with
      | none =>
          cases hto
          rfl
      | some s =>
          obtain ⟨s', hs, rfl⟩ := map_eq_ok.1 hto
          rw [plainColumns_lawful.text_eq _ _ hs]

/-- Calls on one node, none of them started. -/
def callsOn (calls : List TagCall) : TagState where
  world := oneNode
  calls := calls.map fun call => (call, call.program plainSetting 1)

theorem tagStart_callsOn {calls : List TagCall} (hconcerns : ∀ c ∈ calls, c.concerns 1)
    (hdistinct : calls.Pairwise fun c d => ∀ tag ∈ c.tags, tag ∉ d.tags) :
    TagStart plainSetting 1 [some "web"] (callsOn calls) where
  tags := rfl
  nodup := List.nodup_singleton _
  calls c hc := by
    obtain ⟨call, hcall, rfl⟩ := List.mem_map.1 hc
    exact ⟨rfl, hconcerns call hcall⟩
  distinct := List.pairwise_map.2 hdistinct

/-- Whatever the interleaving, no change of a tag is lost. -/
def TagsNeverLost (cfg : Setting) (env : StoreEnv) : Prop :=
  ∀ node before s, (tagSystem cfg env node before).Reachable s → s.returned →
    TagsKept node before s

/-- Two tags are added at the same time: both calls read, both write, and the first
tag is gone. -/
theorem not_tagsNeverLost : ¬ TagsNeverLost plainSetting plainStoreEnv := by
  intro h
  have hstart : TagStart plainSetting 1 [some "web"] (callsOn [.add "a", .add "b"]) :=
    tagStart_callsOn (by simp [TagCall.concerns]) (by simp [TagCall.tags])
  obtain ⟨s, hrun, hreturned, htags⟩ : ∃ s,
      (tagSystem plainSetting plainStoreEnv 1 [some "web"]).exec (callsOn [.add "a", .add "b"])
        ([0, 1, 0, 1, 0, 1].map fun i => ⟨i, none⟩) = some s ∧
      s.calls = [(.add "a", .done ()), (.add "b", .done ())] ∧
      tagsOf s.world 1 = some [some "web", some "b"] := ⟨_, rfl, rfl, rfl⟩
  obtain ⟨tags, htags', -, heffect, -⟩ := h 1 [some "web"] s
    (System.reachable_of_exec hstart hrun)
    (by rw [TagState.returned, hreturned]; simp)
  rw [htags, Option.some.injEq] at htags'
  have hadded := heffect (.add "a", .done ()) (by rw [hreturned]; simp) "a" (by simp [TagCall.tags])
  rw [← htags'] at hadded
  exact absurd (hadded.2 rfl) (by decide)

/-- `Fresh`, evaluated. -/
def fresh (node : Uuid) (s : TagState) (e : TagEvent) : Bool :=
  match s.calls[e.call]? with
  | some (call, .ask (.updateNode n [.tags (some ts)]) _) =>
      decide (n ≠ node) || e.fault.isSome ||
        (tagsOf s.world node).all fun tags => decide (ts = call.overwrites tags)
  | _ => true

theorem fresh_sound (node : Uuid) (s : TagState) (e : TagEvent) (h : fresh node s e = true) :
    Fresh node s e := by
  intro call ts k hcall hfault tags htags
  unfold fresh at h
  rw [hcall] at h
  simpa [hfault, htags] using h

/-- A tag is added, one is removed and two are added in bulk by calls that take turns; no overwrite
falls between the read and the overwrite of another call. -/
theorem tags_kept_turns : ∃ s : TagState,
    (tagSystem plainSetting plainStoreEnv 1 [some "web"]).exec
        (callsOn [.add "a", .remove "web", .bulkAdd [1] ["b", "c"]])
        ([2, 0, 0, 0, 1, 2, 1, 1].map fun i => ⟨i, none⟩) = some s ∧
      tagsOf s.world 1 = some [some "b", some "c", some "a"] ∧ TagsKept 1 [some "web"] s := by
  have hstart : TagStart plainSetting 1 [some "web"]
      (callsOn [.add "a", .remove "web", .bulkAdd [1] ["b", "c"]]) :=
    tagStart_callsOn (by simp [TagCall.concerns]) (by simp [TagCall.tags])
  obtain ⟨s, hrun, hreturned, htags⟩ : ∃ s,
      (tagSystem plainSetting plainStoreEnv 1 [some "web"]).exec
        (callsOn [.add "a", .remove "web", .bulkAdd [1] ["b", "c"]])
        ([2, 0, 0, 0, 1, 2, 1, 1].map fun i => ⟨i, none⟩) = some s ∧
      s.calls.map (·.2) = [.done (), .done (), .done ()] ∧
      tagsOf s.world 1 = some [some "b", some "c", some "a"] := ⟨_, rfl, rfl, rfl⟩
  have hreach : (tagSystem plainSetting plainStoreEnv 1 [some "web"]).Reach (Fresh 1) s :=
    System.Reach.exec_of_checks (fresh_sound 1) (.start hstart) hrun rfl
  refine ⟨s, hrun, htags, tags_kept plainColumns_readsTagsBack hreach fun c hc => ?_⟩
  have hmem := List.mem_map_of_mem (f := (·.2)) hc
  rw [hreturned] at hmem
  simpa using hmem

end Node
end NodeNexus
