import NodeNexus.Lib.Grouping
import NodeNexus.Pack.Store

/-!
# Statistics of packs

`get_stats` counts the packs with SQL and puts them into buckets with loops in
Python.

* `getStats` is `get_stats`; `bucketOf` is the bucket of a group, which asks
  whether `installed_version` is true, where the counts ask whether it is set.
* `CountsPacks` says what the statistics are to tell.
* `pack_stats_count_iff` — they do exactly if, where packs are grouped, none has
  an empty `installed_version`, and, where they are grouped by tag, none lists a
  tag twice and there are not both a pack without tags and a tag `untagged`.
-/

namespace NodeNexus
namespace Pack

open Content Grouping

/-! ## The statistics -/

/-- `PackStatsBucketDTO`; a tag can be `None` where the array has a NULL. -/
structure PackStatsBucket where
  group : Option String
  total : Nat
  installed : Nat := 0
  notInstalled : Nat := 0
  deriving DecidableEq

/-- `PackStatsDTO`. -/
structure PackStats where
  total : Nat
  installed : Nat
  notInstalled : Nat
  buckets : List PackStatsBucket
  deriving DecidableEq

/-- `installed_version IS NOT NULL`. -/
def isInstalled (p : PackRow) : Bool := p.installedVersion.isSome

/-- The truth value of `x.installed_version`. -/
def versionTrue (p : PackRow) : Bool := p.installedVersion.any (· ≠ "")

/-- `str(p.registry_id) if p.registry_id else "local"`. -/
def registryKey (fmt : Formats) (p : PackRow) : Option String :=
  some (match p.registryId with
    | some id => fmt.printUuid id
    | none => "local")

/-- The groups that the loop over a pack's tags puts it into, one for each tag in
the list. -/
def tagKeys (p : PackRow) : List (Option String) :=
  if p.tags.getD [] = [] then [some "untagged"] else p.tags.getD []

/-- The bucket of a group. -/
def bucketOf (g : Option String × List PackRow) : PackStatsBucket :=
  let inst := g.2.countP versionTrue
  { group := g.1, total := g.2.length, installed := inst, notInstalled := g.2.length - inst }

/-- The buckets of packs under a key. -/
def keyBuckets (key : PackRow → Option String) (packs : List PackRow) : List PackStatsBucket :=
  (group (packs.map fun p => (key p, p))).map bucketOf

/-- The pairs of the loops over the packs and over their tags. -/
def tagPairs (packs : List PackRow) : List (Option String × PackRow) :=
  packs.flatMap fun p => (tagKeys p).map fun tag => (tag, p)

/-- The buckets of packs under their tags. -/
def tagBuckets (packs : List PackRow) : List PackStatsBucket :=
  (group (tagPairs packs)).map bucketOf

/-- `get_stats`. -/
def getStats (env : Env) (packs : List PackRow) (groupBy : Option String) :
    Except Failure PackStats :=
  if groupBy.any fun g => g ∉ ["registry_id", "tag", "installed", "version"] then
    .error (.domainError ("Invalid group_by: " ++
      Json.reprStr env.unicode.isPrintable (groupBy.getD "")))
  else
    let total := packs.length
    let installed := packs.countP isInstalled
    let notInstalled := total - installed
    let buckets :=
      if groupBy = some "registry_id" then keyBuckets (registryKey env.fmt) packs
      else if groupBy = some "tag" then tagBuckets packs
      else if groupBy = some "installed" then
        [⟨some "installed", installed, installed, 0⟩,
          ⟨some "not_installed", notInstalled, 0, notInstalled⟩]
      else if groupBy = some "version" then keyBuckets (fun p => some p.version) packs
      else []
    .ok ⟨total, installed, notInstalled, buckets⟩

/-! ## What they are to tell -/

/-- A bucket counts some packs. -/
structure Counts (packs : List PackRow) (b : PackStatsBucket) : Prop where
  total : b.total = packs.length
  installed : b.installed = packs.countP isInstalled
  sum : b.total = b.installed + b.notInstalled

/-- The buckets partition the packs by a key. -/
structure Partitions (key : PackRow → Option String) (packs : List PackRow)
    (buckets : List PackStatsBucket) : Prop where
  distinct : (buckets.map PackStatsBucket.group).Nodup
  covers : ∀ p ∈ packs, key p ∈ buckets.map PackStatsBucket.group
  counts : ∀ b ∈ buckets, Counts (packs.filter fun p => decide (key p = b.group)) b
  total : (buckets.map PackStatsBucket.total).sum = packs.length

/-- Does the pack have the tag? -/
def lists (tag : Option String) (p : PackRow) : Bool := decide (tag ∈ p.tags.getD [])

/-- Has the pack no tags? -/
def isUntagged (p : PackRow) : Bool := decide (p.tags.getD [] = [])

/-- Every tag has a bucket with the packs that list it, and the packs without tags
have a bucket of their own. -/
structure CountsTags (packs : List PackRow) (buckets tagged untagged : List PackStatsBucket) :
    Prop where
  split : buckets.Perm (tagged ++ untagged)
  distinct : (tagged.map PackStatsBucket.group).Nodup
  covers : ∀ tag, tag ∈ tagged.map PackStatsBucket.group ↔ ∃ p ∈ packs, lists tag p = true
  counts : ∀ b ∈ tagged, Counts (packs.filter (lists b.group)) b
  own : if packs.any isUntagged then ∃ b, untagged = [b] ∧ Counts (packs.filter isUntagged) b
    else untagged = []

/-- The key of the two buckets of `installed`. -/
def installedKey (p : PackRow) : Option String :=
  some (if isInstalled p then "installed" else "not_installed")

/-- What the buckets are to tell. -/
def BucketsRight (fmt : Formats) (packs : List PackRow) (buckets : List PackStatsBucket) :
    Option String → Prop
  | none => buckets = []
  | some groupBy =>
      if groupBy = "registry_id" then Partitions (registryKey fmt) packs buckets
      else if groupBy = "tag" then ∃ tagged untagged, CountsTags packs buckets tagged untagged
      else if groupBy = "installed" then Partitions installedKey packs buckets
      else Partitions (fun p => some p.version) packs buckets

/-- **The statistics count the packs**: an unknown grouping is refused, and
otherwise the numbers of the answer and of every bucket are right. -/
def CountsPacks (env : Env) (packs : List PackRow) (groupBy : Option String) : Prop :=
  match getStats env packs groupBy with
  | .error _ => ∃ g, groupBy = some g ∧ g ∉ ["registry_id", "tag", "installed", "version"]
  | .ok stats =>
      stats.total = packs.length ∧ stats.installed = packs.countP isInstalled ∧
        stats.total = stats.installed + stats.notInstalled ∧
        BucketsRight env.fmt packs stats.buckets groupBy

/-- When they do. -/
structure Countable (packs : List PackRow) (groupBy : Option String) : Prop where
  versions : groupBy ∈ [some "registry_id", some "tag", some "version"] →
    ∀ p ∈ packs, p.installedVersion ≠ some ""
  distinct : groupBy = some "tag" → ∀ p ∈ packs, (p.tags.getD []).Nodup
  apart : groupBy = some "tag" →
    ¬((∃ p ∈ packs, isUntagged p = true) ∧ ∃ p ∈ packs, lists (some "untagged") p = true)

/-! ## One bucket -/

/-- Only an empty version is set and not true. -/
theorem versionTrue_iff (p : PackRow) :
    versionTrue p = true ↔ isInstalled p = true ∧ p.installedVersion ≠ some "" := by
  unfold versionTrue isInstalled
  cases p.installedVersion <;> simp

/-- **A bucket counts its packs** exactly if none has an empty version. -/
theorem counts_bucketOf_iff (k : Option String) (packs : List PackRow) :
    Counts packs (bucketOf (k, packs)) ↔ ∀ p ∈ packs, p.installedVersion ≠ some "" := by
  have hweak : ∀ p, versionTrue p = true → isInstalled p = true :=
    fun p hp => ((versionTrue_iff p).1 hp).1
  have hcount : packs.countP versionTrue = packs.countP isInstalled ↔
      ∀ p ∈ packs, isInstalled p = true → versionTrue p = true := countP_eq_iff hweak
  constructor
  · intro h p hp hempty
    have hinst : isInstalled p = true := by simp [isInstalled, hempty]
    have htrue := hcount.1 h.installed p hp hinst
    exact ((versionTrue_iff p).1 htrue).2 hempty
  · intro h
    have hle : packs.countP versionTrue ≤ packs.length := List.countP_le_length
    refine ⟨rfl, ?_, ?_⟩
    · exact hcount.2 fun p hp hinst => (versionTrue_iff p).2 ⟨hinst, h p hp⟩
    · show packs.length = packs.countP versionTrue + (packs.length - packs.countP versionTrue)
      omega

/-! ## Buckets under a key -/

section Keys

variable {key : PackRow → Option String} {packs : List PackRow}

theorem mem_keyBuckets {b : PackStatsBucket} (hb : b ∈ keyBuckets key packs) :
    b = bucketOf (b.group, packs.filter fun p => decide (key p = b.group)) := by
  obtain ⟨g, hg, rfl⟩ := List.mem_map.1 hb
  have hmembers := (grouped_group _).members g hg
  rw [members_map] at hmembers
  show bucketOf g = bucketOf (g.1, packs.filter fun p => decide (key p = g.1))
  rw [← hmembers]

theorem groups_keyBuckets : (keyBuckets key packs).map PackStatsBucket.group =
    (group (packs.map fun p => (key p, p))).map Prod.fst := by
  unfold keyBuckets
  rw [List.map_map]
  rfl

theorem group_mem_keyBuckets {p : PackRow} (hp : p ∈ packs) :
    key p ∈ (keyBuckets key packs).map PackStatsBucket.group := by
  rw [groups_keyBuckets, (grouped_group _).covers, List.map_map]
  exact List.mem_map_of_mem (f := key) hp

/-- **The buckets partition the packs** exactly if none has an empty version. -/
theorem partitions_keyBuckets_iff :
    Partitions key packs (keyBuckets key packs) ↔ ∀ p ∈ packs, p.installedVersion ≠ some "" := by
  constructor
  · intro h p hp
    have hkey : key p ∈ (keyBuckets key packs).map PackStatsBucket.group :=
      group_mem_keyBuckets hp
    obtain ⟨b, hb, hgroup⟩ := List.mem_map.1 hkey
    have hcounts := h.counts b hb
    rw [mem_keyBuckets hb] at hcounts
    exact (counts_bucketOf_iff _ _).1 hcounts p (List.mem_filter.2 ⟨hp, by simp [bucketOf, hgroup]⟩)
  · intro h
    refine ⟨?_, fun p hp => group_mem_keyBuckets hp, ?_, ?_⟩
    · rw [groups_keyBuckets]
      exact (grouped_group _).nodup
    · intro b hb
      have hcounts := (counts_bucketOf_iff b.group
        (packs.filter fun p => decide (key p = b.group))).2
        fun p hp => h p (List.mem_filter.1 hp).1
      rwa [← mem_keyBuckets hb] at hcounts
    · unfold keyBuckets
      rw [List.map_map]
      show ((group (packs.map fun p => (key p, p))).map fun g => g.2.length).sum = packs.length
      rw [sum_length_group, List.length_map]

end Keys

/-- The two buckets that come from the counts partition the packs. -/
theorem partitions_installed (packs : List PackRow) :
    Partitions installedKey packs
      [⟨some "installed", packs.countP isInstalled, packs.countP isInstalled, 0⟩,
        ⟨some "not_installed", packs.length - packs.countP isInstalled, 0,
          packs.length - packs.countP isInstalled⟩] := by
  have hle : packs.countP isInstalled ≤ packs.length := List.countP_le_length
  have hsum := List.length_eq_countP_add_countP isInstalled (l := packs)
  have hin : packs.filter (fun p => decide (installedKey p = some "installed")) =
      packs.filter isInstalled := by
    refine List.filter_congr fun p _ => ?_
    unfold installedKey
    by_cases h : isInstalled p = true <;> simp [h]
  have hout : packs.filter (fun p => decide (installedKey p = some "not_installed")) =
      packs.filter fun p => !isInstalled p := by
    refine List.filter_congr fun p _ => ?_
    unfold installedKey
    by_cases h : isInstalled p = true <;> simp [h]
  have hnone : (packs.filter fun p => !isInstalled p).countP isInstalled = 0 := by
    rw [List.countP_eq_zero]
    intro p hp
    simpa using (List.mem_filter.1 hp).2
  have hall : (packs.filter isInstalled).countP isInstalled = packs.countP isInstalled := by
    rw [List.countP_filter]
    simp
  refine ⟨by simp, ?_, ?_, ?_⟩
  · intro p _
    unfold installedKey
    by_cases h : isInstalled p = true <;> simp [h]
  · intro b hb
    simp only [List.mem_cons, List.not_mem_nil, or_false] at hb
    rcases hb with rfl | rfl
    · show Counts (packs.filter fun p => decide (installedKey p = some "installed")) _
      rw [hin]
      exact ⟨List.countP_eq_length_filter, hall.symm, rfl⟩
    · show Counts (packs.filter fun p => decide (installedKey p = some "not_installed")) _
      rw [hout]
      refine ⟨?_, hnone.symm, (Nat.zero_add _).symm⟩
      show packs.length - packs.countP isInstalled = _
      rw [← List.countP_eq_length_filter]
      have hnot : packs.countP (fun p => !isInstalled p) =
          packs.countP fun p => decide ¬isInstalled p = true :=
        List.countP_congr fun p _ => by simp
      rw [hnot]
      omega
  · simp only [List.map_cons, List.map_nil, List.sum_cons, List.sum_nil]
    omega

/-! ## Buckets under the tags -/

section Tags

variable {packs : List PackRow}

theorem lists_iff_mem_tagKeys {p : PackRow} (h : isUntagged p = false) (tag : Option String) :
    lists tag p = true ↔ tag ∈ tagKeys p := by
  unfold isUntagged at h
  rw [decide_eq_false_iff_not] at h
  unfold lists tagKeys
  rw [if_neg h, decide_eq_true_eq]

theorem tagKeys_of_untagged {p : PackRow} (h : isUntagged p = true) :
    tagKeys p = [some "untagged"] := by
  unfold isUntagged at h
  unfold tagKeys
  rw [if_pos (of_decide_eq_true h)]

theorem lists_of_untagged {p : PackRow} (h : isUntagged p = true) (tag : Option String) :
    lists tag p = false := by
  unfold isUntagged at h
  unfold lists
  rw [of_decide_eq_true h]
  rfl

/-- A pack that is put under a key lists it, or has no tags. -/
theorem lists_or_untagged {p : PackRow} {tag : Option String} (h : tag ∈ tagKeys p) :
    lists tag p = true ∨ (isUntagged p = true ∧ tag = some "untagged") := by
  cases hp : isUntagged p with
  | true =>
      rw [tagKeys_of_untagged hp, List.mem_singleton] at h
      exact Or.inr ⟨rfl, h⟩
  | false => exact Or.inl ((lists_iff_mem_tagKeys hp tag).2 h)

theorem mem_tagKeys_of_lists {p : PackRow} {tag : Option String} (h : lists tag p = true) :
    tag ∈ tagKeys p := by
  cases hp : isUntagged p with
  | true =>
      rw [lists_of_untagged hp] at h
      cases h
  | false => exact (lists_iff_mem_tagKeys hp tag).1 h

theorem members_one (p : PackRow) (k : Option String) (tags : List (Option String)) :
    members (tags.map fun tag => (tag, p)) k = List.replicate (tags.count k) p := by
  induction tags with
  | nil => rfl
  | cons tag tags ih =>
      unfold members at ih ⊢
      by_cases h : tag = k
      · simp [h, ih, List.replicate_succ]
      · simp [h, ih]

/-- A pack is appended once for each time that it has the tag. -/
theorem members_tagPairs_cons (p : PackRow) (packs : List PackRow) (k : Option String) :
    members (tagPairs (p :: packs)) k =
      List.replicate ((tagKeys p).count k) p ++ members (tagPairs packs) k := by
  rw [← members_one]
  unfold members tagPairs
  rw [List.flatMap_cons, List.filter_append, List.map_append]

theorem length_members_tagPairs (packs : List PackRow) (k : Option String) :
    (members (tagPairs packs) k).length = (packs.map fun p => (tagKeys p).count k).sum := by
  induction packs with
  | nil => rfl
  | cons p packs ih =>
      rw [members_tagPairs_cons, List.length_append, List.length_replicate, ih]
      rfl

/-- Where every pack is appended once or not at all, the members are filtered. -/
theorem members_tagPairs_eq {k : Option String} {keep : PackRow → Bool}
    (h : ∀ p ∈ packs, (tagKeys p).count k = if keep p then 1 else 0) :
    members (tagPairs packs) k = packs.filter keep := by
  induction packs with
  | nil => rfl
  | cons p packs ih =>
      rw [members_tagPairs_cons, h p (List.mem_cons_self ..),
        ih fun q hq => h q (List.mem_cons_of_mem p hq)]
      by_cases hp : keep p = true <;> simp [hp]

theorem mem_tagBuckets {b : PackStatsBucket} (hb : b ∈ tagBuckets packs) :
    b = bucketOf (b.group, members (tagPairs packs) b.group) := by
  obtain ⟨g, hg, rfl⟩ := List.mem_map.1 hb
  have hmembers := (grouped_group _).members g hg
  show bucketOf g = bucketOf (g.1, members (tagPairs packs) g.1)
  rw [← hmembers]

theorem groups_tagBuckets : (tagBuckets packs).map PackStatsBucket.group =
    (group (tagPairs packs)).map Prod.fst := by
  unfold tagBuckets
  rw [List.map_map]
  rfl

theorem nodup_groups_tagBuckets : ((tagBuckets packs).map PackStatsBucket.group).Nodup := by
  rw [groups_tagBuckets]
  exact (grouped_group _).nodup

theorem group_mem_tagBuckets {k : Option String} :
    k ∈ (tagBuckets packs).map PackStatsBucket.group ↔ ∃ p ∈ packs, k ∈ tagKeys p := by
  rw [groups_tagBuckets, (grouped_group _).covers]
  simp [tagPairs]

/-- How often a pack is put under a tag that it lists, when none of its tags is
repeated and the tag is not mistaken for the key of the packs without tags. -/
theorem count_tagKeys_of_nodup {p : PackRow} {k : Option String}
    (hnodup : (p.tags.getD []).Nodup) (hk : isUntagged p = true → k ≠ some "untagged") :
    (tagKeys p).count k = if lists k p then 1 else 0 := by
  cases hp : isUntagged p with
  | true =>
      rw [tagKeys_of_untagged hp, lists_of_untagged hp]
      exact List.count_eq_zero.2 (by simpa using hk hp)
  | false =>
      have hkeys : tagKeys p = p.tags.getD [] := by
        unfold isUntagged at hp
        unfold tagKeys
        rw [if_neg (of_decide_eq_false hp)]
      rw [hkeys, hnodup.count]
      unfold lists
      simp

/-- How often a pack is put under the key of the packs without tags. -/
theorem count_tagKeys_untagged {p : PackRow} (h : lists (some "untagged") p = false) :
    (tagKeys p).count (some "untagged") = if isUntagged p then 1 else 0 := by
  cases hp : isUntagged p with
  | true =>
      rw [tagKeys_of_untagged hp]
      rfl
  | false =>
      have hnot : some "untagged" ∉ tagKeys p := by
        rw [← lists_iff_mem_tagKeys hp, h]
        exact Bool.false_ne_true
      rw [List.count_eq_zero.2 hnot]
      rfl

/-- Buckets with different groups that all have one group are one bucket. -/
theorem eq_singleton_of_groups {k : Option String} {b : PackStatsBucket}
    {buckets : List PackStatsBucket} (hnodup : (buckets.map PackStatsBucket.group).Nodup)
    (hall : ∀ x ∈ buckets, x.group = k) (hb : b ∈ buckets) : buckets = [b] := by
  match buckets with
  | [] => cases hb
  | [x] => rw [List.mem_singleton.1 hb]
  | x :: y :: rest =>
      have hx := hall x (by simp)
      have hy := hall y (by simp)
      simp [hx, hy] at hnodup

/-- Under the conditions the buckets are right. -/
theorem countsTags_of_countable (h : Countable packs (some "tag")) :
    ∃ tagged untagged, CountsTags packs (tagBuckets packs) tagged untagged := by
  have hversions := h.versions (by simp)
  have hdistinct := h.distinct rfl
  have hapart := h.apart rfl
  set isTagged : PackStatsBucket → Bool := fun b => packs.any (lists b.group) with hisTagged
  refine ⟨(tagBuckets packs).filter isTagged,
    (tagBuckets packs).filter fun b => !isTagged b, ?_⟩
  have hcounts : ∀ b ∈ tagBuckets packs, ∀ keep : PackRow → Bool,
      (∀ p ∈ packs, (tagKeys p).count b.group = if keep p then 1 else 0) →
      Counts (packs.filter keep) b := by
    intro b hb keep hkeep
    rw [mem_tagBuckets hb, members_tagPairs_eq hkeep]
    exact (counts_bucketOf_iff _ _).2 fun p hp => hversions p (List.mem_filter.1 hp).1
  -- a bucket without a pack that lists its tag holds the packs without tags
  have hother : ∀ b ∈ (tagBuckets packs).filter (fun b => !isTagged b),
      b ∈ tagBuckets packs ∧ b.group = some "untagged" ∧ packs.any isUntagged = true := by
    intro b hb
    obtain ⟨hb, hnot⟩ := List.mem_filter.1 hb
    obtain ⟨p, hp, hkey⟩ := group_mem_tagBuckets.1 (List.mem_map_of_mem hb)
    rcases lists_or_untagged hkey with hlists | ⟨huntagged, hgroup⟩
    · rw [hisTagged, Bool.not_eq_true', List.any_eq_false] at hnot
      exact absurd hlists (hnot p hp)
    · exact ⟨hb, hgroup, List.any_eq_true.2 ⟨p, hp, huntagged⟩⟩
  refine ⟨(List.filter_append_perm _ _).symm, ?_, ?_, ?_, ?_⟩
  · exact (List.filter_sublist.map _).nodup nodup_groups_tagBuckets
  · intro tag
    constructor
    · intro htag
      obtain ⟨b, hb, rfl⟩ := List.mem_map.1 htag
      exact List.any_eq_true.1 (List.mem_filter.1 hb).2
    · rintro ⟨p, hp, hlists⟩
      obtain ⟨b, hb, rfl⟩ :=
        List.mem_map.1 (group_mem_tagBuckets.2 ⟨p, hp, mem_tagKeys_of_lists hlists⟩)
      exact List.mem_map_of_mem (List.mem_filter.2 ⟨hb, List.any_eq_true.2 ⟨p, hp, hlists⟩⟩)
  · intro b hb
    obtain ⟨hb, htagged⟩ := List.mem_filter.1 hb
    obtain ⟨q, hq, hlists⟩ := List.any_eq_true.1 htagged
    refine hcounts b hb _ fun p hp => count_tagKeys_of_nodup (hdistinct p hp) ?_
    intro huntagged hgroup
    exact hapart ⟨⟨p, hp, huntagged⟩, q, hq, hgroup ▸ hlists⟩
  · by_cases hany : packs.any isUntagged = true
    · rw [if_pos hany]
      obtain ⟨p, hp, huntagged⟩ := List.any_eq_true.1 hany
      have hnone : ∀ q ∈ packs, lists (some "untagged") q = false := by
        intro q hq
        by_contra hlists
        exact hapart ⟨⟨p, hp, huntagged⟩, q, hq, by simpa using hlists⟩
      obtain ⟨b, hb, hgroup⟩ := List.mem_map.1 (group_mem_tagBuckets.2
        ⟨p, hp, by rw [tagKeys_of_untagged huntagged]; exact List.mem_singleton_self _⟩)
      have hbnot : b ∈ (tagBuckets packs).filter (fun b => !isTagged b) := by
        refine List.mem_filter.2 ⟨hb, ?_⟩
        rw [hisTagged, Bool.not_eq_true', List.any_eq_false, hgroup]
        intro q hq
        simp [hnone q hq]
      refine ⟨b, ?_, ?_⟩
      · exact eq_singleton_of_groups ((List.filter_sublist.map _).nodup nodup_groups_tagBuckets)
          (fun x hx => (hother x hx).2.1) hbnot
      · refine hcounts b hb _ fun q hq => ?_
        rw [hgroup]
        exact count_tagKeys_untagged (hnone q hq)
    · rw [if_neg hany, List.eq_nil_iff_forall_not_mem]
      intro b hb
      exact hany (hother b hb).2.2

/-- Buckets that are right count a tag as often as packs list it. -/
theorem CountsTags.count_eq {tagged untagged : List PackStatsBucket}
    (h : CountsTags packs (tagBuckets packs) tagged untagged) {k : Option String}
    (hk : ∃ p ∈ packs, lists k p = true) :
    ∀ p ∈ packs, (tagKeys p).count k = if lists k p then 1 else 0 := by
  obtain ⟨b, hb, rfl⟩ := List.mem_map.1 ((h.covers k).2 hk)
  have hmem : b ∈ tagBuckets packs := h.split.mem_iff.2 (List.mem_append_left _ hb)
  have htotal := (h.counts b hb).total
  rw [mem_tagBuckets hmem] at htotal
  have hsum : (packs.map fun p => if lists b.group p then 1 else 0).sum =
      (packs.map fun p => (tagKeys p).count b.group).sum := by
    rw [← length_members_tagPairs]
    refine Eq.trans ?_ htotal.symm
    clear htotal hmem hb hk h
    induction packs with
    | nil => rfl
    | cons p packs ih =>
        rw [List.map_cons, List.sum_cons, ih]
        by_cases hp : lists b.group p = true
        · simp [bucketOf, hp, Nat.add_comm]
        · simp [bucketOf, hp]
  have hle : ∀ p ∈ packs, (if lists b.group p then 1 else 0) ≤ (tagKeys p).count b.group := by
    intro p _
    by_cases hp : lists b.group p = true
    · rw [if_pos hp]
      exact List.count_pos_iff.2 (mem_tagKeys_of_lists hp)
    · rw [if_neg hp]
      exact Nat.zero_le _
  intro p hp
  exact (forall_eq_of_sum_eq hle hsum p hp).symm

/-- Buckets that are right show that the conditions hold. -/
theorem CountsTags.countable {tagged untagged : List PackStatsBucket}
    (h : CountsTags packs (tagBuckets packs) tagged untagged) :
    Countable packs (some "tag") := by
  have hmem : ∀ b ∈ tagged ++ untagged, b ∈ tagBuckets packs := fun b hb => h.split.mem_iff.2 hb
  have hapart : ¬((∃ p ∈ packs, isUntagged p = true) ∧
      ∃ p ∈ packs, lists (some "untagged") p = true) := by
    rintro ⟨⟨p, hp, huntagged⟩, hlisted⟩
    have hcount := h.count_eq hlisted p hp
    rw [tagKeys_of_untagged huntagged, lists_of_untagged huntagged] at hcount
    revert hcount
    decide
  -- the buckets hold the packs they are to hold, so their versions are counted right
  have hversion : ∀ b ∈ tagBuckets packs, ∀ keep : PackRow → Bool,
      (∀ p ∈ packs, (tagKeys p).count b.group = if keep p then 1 else 0) →
      Counts (packs.filter keep) b → ∀ p ∈ packs, keep p = true →
      p.installedVersion ≠ some "" := by
    intro b hb keep hkeep hcounts p hp hkept
    rw [mem_tagBuckets hb, members_tagPairs_eq hkeep] at hcounts
    exact (counts_bucketOf_iff _ _).1 hcounts p (List.mem_filter.2 ⟨hp, hkept⟩)
  refine ⟨fun _ p hp => ?_, fun _ p hp => ?_, fun _ => hapart⟩
  · cases htags : isUntagged p with
    | true =>
        have hany : packs.any isUntagged = true := List.any_eq_true.2 ⟨p, hp, htags⟩
        have hown := h.own
        rw [if_pos hany] at hown
        obtain ⟨b, rfl, hcounts⟩ := hown
        have hb := hmem b (by simp)
        have hnone : ∀ q ∈ packs, lists (some "untagged") q = false := by
          intro q hq
          by_contra hlists
          exact hapart ⟨⟨p, hp, htags⟩, q, hq, by simpa using hlists⟩
        have hgroup : b.group = some "untagged" := by
          obtain ⟨q, hq, hkey⟩ := group_mem_tagBuckets.1 (List.mem_map_of_mem hb)
          rcases lists_or_untagged hkey with hlists | ⟨-, hgroup⟩
          · have hnodup := ((h.split.map PackStatsBucket.group).nodup_iff).1
              nodup_groups_tagBuckets
            rw [List.map_append, List.nodup_append] at hnodup
            have htagged := (h.covers b.group).2 ⟨q, hq, hlists⟩
            exact absurd rfl (hnodup.2.2 _ htagged b.group (by simp))
          · exact hgroup
        refine hversion b hb isUntagged (fun q hq => ?_) hcounts p hp htags
        rw [hgroup]
        exact count_tagKeys_untagged (hnone q hq)
    | false =>
        unfold isUntagged at htags
        obtain ⟨k, ks, hks⟩ := List.exists_cons_of_ne_nil (of_decide_eq_false htags)
        have hlists : lists k p = true := by simp [lists, hks]
        obtain ⟨b, hb, rfl⟩ := List.mem_map.1 ((h.covers k).2 ⟨p, hp, hlists⟩)
        exact hversion b (hmem b (List.mem_append_left _ hb)) (lists b.group)
          (h.count_eq ⟨p, hp, hlists⟩) (h.counts b hb) p hp hlists
  · rw [List.nodup_iff_count_le_one]
    intro k
    by_cases hlists : lists k p = true
    · have hcount := h.count_eq ⟨p, hp, hlists⟩ p hp
      have htags : p.tags.getD [] ≠ [] := by
        intro hnil
        simp [lists, hnil] at hlists
      unfold tagKeys at hcount
      rw [if_neg htags, if_pos hlists] at hcount
      exact Nat.le_of_eq hcount
    · unfold lists at hlists
      rw [decide_eq_true_eq] at hlists
      rw [List.count_eq_zero.2 hlists]
      exact Nat.zero_le 1

end Tags

/-! ## The result -/

/-- A pack that lists one tag twice. -/
def taggedTwice : PackRow where
  id := 0
  registryId := none
  packId := "tools"
  name := "Tools"
  description := none
  version := "1.0.0"
  author := none
  tags := some [some "web", some "web"]
  manifestSha := none
  readme := none
  commands := []
  scripts := []
  installedVersion := none
  installedAt := none
  createdAt := 0
  updatedAt := 0

section Result

variable (env : Env) (packs : List PackRow)

theorem getStats_none : getStats env packs none =
    .ok ⟨packs.length, packs.countP isInstalled, packs.length - packs.countP isInstalled, []⟩ := by
  simp [getStats]

theorem getStats_registry : getStats env packs (some "registry_id") =
    .ok ⟨packs.length, packs.countP isInstalled, packs.length - packs.countP isInstalled,
      keyBuckets (registryKey env.fmt) packs⟩ := by
  simp [getStats]

theorem getStats_tag : getStats env packs (some "tag") =
    .ok ⟨packs.length, packs.countP isInstalled, packs.length - packs.countP isInstalled,
      tagBuckets packs⟩ := by
  simp [getStats]

theorem getStats_installed : getStats env packs (some "installed") =
    .ok ⟨packs.length, packs.countP isInstalled, packs.length - packs.countP isInstalled,
      [⟨some "installed", packs.countP isInstalled, packs.countP isInstalled, 0⟩,
        ⟨some "not_installed", packs.length - packs.countP isInstalled, 0,
          packs.length - packs.countP isInstalled⟩]⟩ := by
  simp [getStats]

theorem getStats_version : getStats env packs (some "version") =
    .ok ⟨packs.length, packs.countP isInstalled, packs.length - packs.countP isInstalled,
      keyBuckets (fun p => some p.version) packs⟩ := by
  simp [getStats]

/-- An unknown grouping is refused. -/
theorem getStats_unknown {g : String} (h : g ∉ ["registry_id", "tag", "installed", "version"]) :
    getStats env packs (some g) = .error (.domainError ("Invalid group_by: " ++
      Json.reprStr env.unicode.isPrintable g)) := by
  unfold getStats
  rw [if_pos (by simpa using h)]
  rfl

/-- The counts of the answer are right; what is left are the buckets. -/
theorem countsPacks_iff {groupBy : Option String} {buckets : List PackStatsBucket}
    (h : getStats env packs groupBy = .ok ⟨packs.length, packs.countP isInstalled,
      packs.length - packs.countP isInstalled, buckets⟩) :
    CountsPacks env packs groupBy ↔ BucketsRight env.fmt packs buckets groupBy := by
  have hle : packs.countP isInstalled ≤ packs.length := List.countP_le_length
  have hsum : packs.length =
      packs.countP isInstalled + (packs.length - packs.countP isInstalled) := by omega
  unfold CountsPacks
  rw [h]
  constructor
  · rintro ⟨-, -, -, hbuckets⟩
    exact hbuckets
  · intro hbuckets
    exact ⟨rfl, rfl, hsum, hbuckets⟩

/-- Only groupings by registry, tag or version ask for anything. -/
theorem countable_of_other {groupBy : Option String}
    (h : groupBy ∉ [some "registry_id", some "tag", some "version"]) :
    Countable packs groupBy := by
  have htag : groupBy ≠ some "tag" := by
    rintro rfl
    simp at h
  exact ⟨fun hmem => absurd hmem h, fun hg => absurd hg htag, fun hg => absurd hg htag⟩

theorem countable_of_key {groupBy : Option String}
    (h : groupBy ∈ [some "registry_id", some "version"]) :
    Countable packs groupBy ↔ ∀ p ∈ packs, p.installedVersion ≠ some "" := by
  have htag : groupBy ≠ some "tag" := by
    rintro rfl
    simp at h
  have hmem : groupBy ∈ [some "registry_id", some "tag", some "version"] := by
    simp only [List.mem_cons, List.not_mem_nil, or_false] at h ⊢
    tauto
  exact ⟨fun hc => hc.versions hmem, fun hv => ⟨fun _ => hv, fun hg => absurd hg htag,
    fun hg => absurd hg htag⟩⟩

/-- Grouped by tag. -/
theorem countsPacks_tag_iff :
    CountsPacks env packs (some "tag") ↔ Countable packs (some "tag") := by
  rw [countsPacks_iff env packs (getStats_tag env packs)]
  have hright : BucketsRight env.fmt packs (tagBuckets packs) (some "tag") ↔
      ∃ tagged untagged, CountsTags packs (tagBuckets packs) tagged untagged := by
    simp [BucketsRight]
  rw [hright]
  constructor
  · rintro ⟨tagged, untagged, h⟩
    exact h.countable
  · intro h
    exact countsTags_of_countable h

/-- **When the statistics count the packs.**  They do exactly if, where the packs are
grouped by their registry, their version or a tag, none has an empty
`installed_version`, and, where they are grouped by tag, no pack lists a tag twice
and there are not both a pack without tags and a tag `untagged`. -/
theorem pack_stats_count_iff (groupBy : Option String) :
    CountsPacks env packs groupBy ↔ Countable packs groupBy := by
  cases groupBy with
  | none =>
      rw [countsPacks_iff env packs (getStats_none env packs)]
      exact iff_of_true rfl (countable_of_other packs (by simp))
  | some g =>
      by_cases hknown : g ∈ ["registry_id", "tag", "installed", "version"]
      · simp only [List.mem_cons, List.not_mem_nil, or_false] at hknown
        rcases hknown with rfl | rfl | rfl | rfl
        · rw [countsPacks_iff env packs (getStats_registry env packs),
            countable_of_key packs (by simp)]
          simp only [BucketsRight, if_true]
          exact partitions_keyBuckets_iff
        · exact countsPacks_tag_iff env packs
        · rw [countsPacks_iff env packs (getStats_installed env packs)]
          refine iff_of_true ?_ (countable_of_other packs (by simp))
          simpa [BucketsRight] using partitions_installed packs
        · rw [countsPacks_iff env packs (getStats_version env packs),
            countable_of_key packs (by simp)]
          have hversions : Partitions (fun p => some p.version) packs
              (keyBuckets (fun p => some p.version) packs) ↔
              ∀ p ∈ packs, p.installedVersion ≠ some "" := partitions_keyBuckets_iff
          simpa [BucketsRight] using hversions
      · unfold CountsPacks
        rw [getStats_unknown env packs hknown]
        refine iff_of_true ⟨g, rfl, hknown⟩ (countable_of_other packs ?_)
        intro hmem
        apply hknown
        simp only [List.mem_cons, List.not_mem_nil, or_false, Option.some.injEq] at hmem ⊢
        tauto

/-- Statistics always count the packs. -/
def StatsAlwaysCount (env : Env) : Prop :=
  ∀ packs groupBy, CountsPacks env packs groupBy

/-- A pack that lists a tag twice is counted twice in the bucket of the tag. -/
theorem not_statsAlwaysCount : ¬StatsAlwaysCount plainEnv := by
  intro h
  have hcond := (countsPacks_tag_iff plainEnv [taggedTwice]).1 (h [taggedTwice] (some "tag"))
  have hnodup := hcond.distinct rfl taggedTwice (List.mem_singleton_self _)
  revert hnodup
  decide

end Result

end Pack
end NodeNexus
