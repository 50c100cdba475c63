import NodeNexus.Docker.Validation
import NodeNexus.Lib.Infix

/-!
# Errors of the docker CLI

`raise_for_docker_error` reads from the error text of a failed docker command which object is
missing.  It looks for phrases, one kind of object after the other.

* `missingObject` — the kind of object that it takes to be missing.
* `Report` — the messages by which docker reports a missing object.
* `classified_iff` — for which error texts the raised class is the reported kind.
-/

namespace NodeNexus
namespace Docker

open Content Node
open NodeNexus.Core

/-! ## The mapping -/

/-- `str.lower`.  Beyond ASCII it depends on the Unicode database. -/
structure Lowercase where
  lower : List Char → List Char
  /-- ASCII characters are mapped one by one. -/
  ascii : ∀ cs, (∀ c ∈ cs, c.toNat < 128) → lower cs = cs.map Char.toLower

/-- `str.lower` of ASCII, all other characters kept. -/
def asciiLowercase : Lowercase where
  lower cs := cs.map Char.toLower
  ascii _ _ := rfl

/-- The objects that docker may not find. -/
inductive ObjectKind where
  | container
  | image
  | network
  | volume
  deriving DecidableEq

/-- The class of the error for a missing object. -/
def ObjectKind.notFoundError : ObjectKind → DomainErrorClass
  | .container => .containerNotFoundError
  | .image => .imageNotFoundError
  | .network => .networkNotFoundError
  | .volume => .volumeNotFoundError

/-- `needle in text`. -/
def inText (needle : String) (text : List Char) : Bool :=
  decide (needle.toList <:+: text)

/-- The branches that raise for a missing object. -/
def missingObject (normalized : List Char) : Option ObjectKind :=
  if inText "no such image" normalized then some .image
  else if inText "no such network" normalized ||
      (inText "network" normalized && inText "not found" normalized) then some .network
  else if inText "no such volume" normalized ||
      (inText "volume" normalized && inText "not found" normalized) then some .volume
  else if inText "no such container" normalized ||
      inText "no such image or container" normalized ||
      inText "no such object" normalized then some .container
  else none

/-- `raise_for_docker_error`. -/
def raiseForDockerError (lc : Lowercase) (stderr : String) (exitCode : Int) :
    Except NodeFailure Unit :=
  if exitCode = 0 then .ok ()
  else match missingObject (lc.lower stderr.toList) with
    | some kind => .error ⟨.domain kind.notFoundError, stderr⟩
    | none =>
        if inText "cannot connect to the docker daemon" (lc.lower stderr.toList) then
          .error ⟨.domain .dockerDaemonError, stderr⟩
        else if inText "is not running" (lc.lower stderr.toList) then
          .error ⟨.domain .dockerError, stderr⟩
        else .error ⟨.domain .dockerError,
          "Docker command failed (exit " ++ toString exitCode ++ "): " ++ stderr⟩

/-! ## What docker reports -/

/-- The messages about a missing object; all but the last one name it. -/
inductive Report where
  /-- `No such container: NAME` -/
  | noSuchContainer
  /-- `No such image: NAME` -/
  | noSuchImage
  /-- `network NAME not found` -/
  | networkNotFound
  /-- `No such network: NAME` -/
  | noSuchNetwork
  /-- `no such volume: NAME` -/
  | noSuchVolume
  /-- `get NAME: no such volume` -/
  | getNoSuchVolume
  /-- `No such object: NAME` -/
  | noSuchObject
  /-- `no such image or container` -/
  | noSuchImageOrContainer
  deriving DecidableEq

/-- The missing object. -/
def Report.kind : Report → ObjectKind
  | .noSuchContainer | .noSuchObject | .noSuchImageOrContainer => .container
  | .noSuchImage => .image
  | .networkNotFound | .noSuchNetwork => .network
  | .noSuchVolume | .getNoSuchVolume => .volume

/-- The text in front of the name. -/
def Report.before : Report → String
  | .noSuchContainer => "No such container: "
  | .noSuchImage => "No such image: "
  | .networkNotFound => "network "
  | .noSuchNetwork => "No such network: "
  | .noSuchVolume => "no such volume: "
  | .getNoSuchVolume => "get "
  | .noSuchObject => "No such object: "
  | .noSuchImageOrContainer => "no such image or container"

/-- The text behind the name. -/
def Report.after : Report → String
  | .networkNotFound => " not found"
  | .getNoSuchVolume => ": no such volume"
  | _ => ""

/-- The names that the validators accept for a kind of object. -/
def ObjectKind.validName : ObjectKind → String → Bool
  | .image, name => imageNameMatch name
  | _, name => referenceRe name

/-- The name in a report. -/
def Report.validName : Report → String → Bool
  | .noSuchImageOrContainer, name => name = ""
  | report, name => report.kind.validName name

/-- What the docker CLI puts in front of a message. -/
def leads : List String := ["", "Error: ", "Error response from daemon: "]

/-- What the docker CLI puts behind a message. -/
def trails : List String := ["", "\n"]

/-- A text is a report about an object, as docker prints it. -/
def IsReport (report : Report) (name stderr : String) : Prop :=
  report.validName name = true ∧ ∃ lead ∈ leads, ∃ trail ∈ trails,
    stderr.toList = (lead.toList ++ report.before.toList) ++
      (name.toList ++ (report.after.toList ++ trail.toList))

/-- The objects that are said not to be there by "no such". -/
def nouns : List String := ["image", "container", "object", "network", "volume"]

/-- A text in lower case says of some object that it is missing. -/
def ReportsMissing (text : List Char) : Prop :=
  (∃ noun ∈ nouns, "no such ".toList ++ noun.toList <:+: text) ∨
    ∃ noun ∈ ["network", "volume"], noun.toList ++ " not found".toList <:+: text ∨
      ∃ name : List Char, ' ' ∉ name ∧
        noun.toList ++ ' ' :: name ++ " not found".toList <:+: text

/-- The two words by which the branches for networks and volumes decide occur. -/
def NamesNotFound (text : List Char) : Prop :=
  "not found".toList <:+: text ∧ ("network".toList <:+: text ∨ "volume".toList <:+: text)

/-- The raised error tells what is reported missing, and nothing else is reported missing. -/
def ClassifiedByMissing (lc : Lowercase) (stderr : String) (exitCode : Int) : Prop :=
  (∀ report name, IsReport report name stderr →
    raiseForDockerError lc stderr exitCode =
      .error ⟨.domain report.kind.notFoundError, stderr⟩) ∧
  (¬ ReportsMissing (lc.lower stderr.toList) → ∀ (kind : ObjectKind) e,
    raiseForDockerError lc stderr exitCode = .error e →
      e.kind ≠ .domain kind.notFoundError)

/-! ## Phrases of the branches -/

/-- The phrases of the branches before the one of a kind, cut at their first blank. -/
def ObjectKind.earlier : ObjectKind → List (String × String)
  | .image => []
  | .network => [("no", "such image")]
  | .volume => [("no", "such image"), ("no", "such network"), ("not", "found")]
  | .container =>
      [("no", "such image"), ("no", "such network"), ("not", "found"), ("no", "such volume")]

/-- The condition of the branch of a kind. -/
def ObjectKind.hit : ObjectKind → List Char → Bool
  | .image, text => inText "no such image" text
  | .network, text =>
      inText "no such network" text || (inText "network" text && inText "not found" text)
  | .volume, text =>
      inText "no such volume" text || (inText "volume" text && inText "not found" text)
  | .container, text =>
      inText "no such container" text || inText "no such image or container" text ||
        inText "no such object" text

/-- The branch of a kind is taken when no phrase of an earlier one occurs. -/
theorem missingObject_of_hit {kind : ObjectKind} {text : List Char}
    (hearlier : ∀ phrase ∈ kind.earlier,
      ¬ phrase.1.toList ++ ' ' :: phrase.2.toList <:+: text)
    (hhit : kind.hit text = true) : missingObject text = some kind := by
  have hout : ∀ (u v phrase : String), u.toList ++ ' ' :: v.toList = phrase.toList →
      (u, v) ∈ kind.earlier → inText phrase text = false := by
    intro u v phrase hphrase hmem
    have := hearlier (u, v) hmem
    rw [inText, decide_eq_false_iff_not, ← hphrase]
    exact this
  unfold missingObject
  cases kind with
  | image => exact if_pos hhit
  | network =>
      have himage := hout "no" "such image" "no such image" (by decide) (by decide)
      rw [if_neg (by simp [himage])]
      exact if_pos hhit
  | volume =>
      have himage := hout "no" "such image" "no such image" (by decide) (by decide)
      have hnetwork := hout "no" "such network" "no such network" (by decide) (by decide)
      have hfound := hout "not" "found" "not found" (by decide) (by decide)
      rw [if_neg (by simp [himage]), if_neg (by simp [hnetwork, hfound])]
      exact if_pos hhit
  | container =>
      have himage := hout "no" "such image" "no such image" (by decide) (by decide)
      have hnetwork := hout "no" "such network" "no such network" (by decide) (by decide)
      have hfound := hout "not" "found" "not found" (by decide) (by decide)
      have hvolume := hout "no" "such volume" "no such volume" (by decide) (by decide)
      rw [if_neg (by simp [himage]), if_neg (by simp [hnetwork, hfound]),
        if_neg (by simp [hvolume, hfound])]
      exact if_pos hhit

/-! ## Reports -/

/-- Lower case of a text of ASCII characters. -/
def lowered (s : String) : List Char :=
  s.toList.map Char.toLower

/-- Around a name, a report has none of the phrases of the earlier branches. -/
theorem report_absent {report : Report} (h : report ≠ .noSuchImageOrContainer) :
    ∀ lead ∈ leads, ∀ trail ∈ trails, ∀ phrase ∈ report.kind.earlier,
      Infix.absent ' ' phrase.1.toList phrase.2.toList
        (lowered lead ++ lowered report.before)
        (lowered report.after ++ lowered trail) = true := by
  cases report with
  | noSuchImageOrContainer => exact absurd rfl h
  | _ => decide

theorem report_hit (report : Report) (lead name trail : List Char) :
    report.kind.hit ((lead ++ lowered report.before) ++
      (name ++ (lowered report.after ++ trail))) = true := by
  have hbefore : ∀ phrase : String, phrase.toList <:+: lowered report.before →
      inText phrase ((lead ++ lowered report.before) ++
        (name ++ (lowered report.after ++ trail))) = true := by
    intro phrase hphrase
    rw [inText, decide_eq_true_eq]
    exact hphrase.trans
      ((List.suffix_append lead _).isInfix.trans (List.prefix_append _ _).isInfix)
  have hafter : ∀ phrase : String, phrase.toList <:+: lowered report.after →
      inText phrase ((lead ++ lowered report.before) ++
        (name ++ (lowered report.after ++ trail))) = true := by
    intro phrase hphrase
    rw [inText, decide_eq_true_eq]
    exact hphrase.trans ((List.prefix_append _ trail).isInfix.trans
      ((List.suffix_append name _).isInfix.trans (List.suffix_append _ _).isInfix))
  cases report with
  | noSuchContainer =>
      simp only [Report.kind, ObjectKind.hit, hbefore "no such container" (by decide),
        Bool.true_or]
  | noSuchImage =>
      simp only [Report.kind, ObjectKind.hit, hbefore "no such image" (by decide)]
  | networkNotFound =>
      simp only [Report.kind, ObjectKind.hit, hbefore "network" (by decide),
        hafter "not found" (by decide), Bool.and_true, Bool.or_true]
  | noSuchNetwork =>
      simp only [Report.kind, ObjectKind.hit, hbefore "no such network" (by decide),
        Bool.true_or]
  | noSuchVolume =>
      simp only [Report.kind, ObjectKind.hit, hbefore "no such volume" (by decide),
        Bool.true_or]
  | getNoSuchVolume =>
      simp only [Report.kind, ObjectKind.hit, hafter "no such volume" (by decide),
        Bool.true_or]
  | noSuchObject =>
      simp only [Report.kind, ObjectKind.hit, hbefore "no such object" (by decide),
        Bool.or_true]
  | noSuchImageOrContainer =>
      simp only [Report.kind, ObjectKind.hit,
        hbefore "no such image or container" (by decide), Bool.or_true, Bool.true_or]

theorem report_ascii (report : Report) : ∀ lead ∈ leads, ∀ trail ∈ trails,
    ∀ c ∈ lead.toList ++ report.before.toList ++ (report.after.toList ++ trail.toList),
      c.toNat < 128 := by
  have hall : leads.all (fun lead => trails.all fun trail =>
      (lead.toList ++ report.before.toList ++ (report.after.toList ++ trail.toList)).all
        fun c => decide (c.toNat < 128)) = true := by
    cases report <;> decide
  intro lead hlead trail htrail c hc
  have hlead := List.all_eq_true.1 hall lead hlead
  have htrail := List.all_eq_true.1 hlead trail htrail
  simpa using List.all_eq_true.1 htrail c hc

theorem validName_plain {report : Report} {name : String}
    (h : report.validName name = true) : Plain name.toList := by
  have hempty : report = .noSuchImageOrContainer → Plain name.toList := by
    rintro rfl
    simp only [Report.validName, decide_eq_true_eq] at h
    subst h
    intro c hc
    simp at hc
  cases report with
  | noSuchImageOrContainer => exact hempty rfl
  | noSuchImage => exact imageNameMatch_plain h
  | noSuchContainer | networkNotFound | noSuchNetwork | noSuchVolume | getNoSuchVolume
  | noSuchObject => exact referenceRe_plain h

theorem toLower_ne_blank {c : Char} (h : c ≠ ' ') : c.toLower ≠ ' ' := by
  unfold Char.toLower
  split
  · rename_i hupper
    intro hblank
    have hval := congrArg (fun c : Char => c.val.toNat) hblank
    rw [ge_iff_le, UInt32.le_iff_toNat_le, UInt32.le_iff_toNat_le] at hupper
    simp at hupper hval
    omega
  · exact h

/-- The lower case of a report, part by part. -/
theorem lower_report (lc : Lowercase) {report : Report} {name stderr : String}
    (h : IsReport report name stderr) : ∃ lead ∈ leads, ∃ trail ∈ trails,
      lc.lower stderr.toList = (lowered lead ++ lowered report.before) ++
        (lowered name ++ (lowered report.after ++ lowered trail)) := by
  obtain ⟨hname, lead, hlead, trail, htrail, htext⟩ := h
  refine ⟨lead, hlead, trail, htrail, ?_⟩
  have hascii : ∀ c ∈ stderr.toList, c.toNat < 128 := by
    intro c hc
    have hfixed := report_ascii report lead hlead trail htrail c
    have hplain := validName_plain hname c
    rw [htext] at hc
    simp only [List.mem_append] at hc hfixed
    rcases hc with (hc | hc) | hc | hc | hc
    · exact hfixed (Or.inl (Or.inl hc))
    · exact hfixed (Or.inl (Or.inr hc))
    · exact (hplain hc).1
    · exact hfixed (Or.inr (Or.inl hc))
    · exact hfixed (Or.inr (Or.inr hc))
  rw [lc.ascii _ hascii, htext]
  simp [lowered]

/-- **A report that names the object is taken for what it is.** -/
theorem missingObject_report (lc : Lowercase) {report : Report} {name stderr : String}
    (h : IsReport report name stderr) (hne : report ≠ .noSuchImageOrContainer) :
    missingObject (lc.lower stderr.toList) = some report.kind := by
  obtain ⟨lead, hlead, trail, htrail, htext⟩ := lower_report lc h
  have hblank : ' ' ∉ lowered name := by
    intro hmem
    obtain ⟨c, hc, hlower⟩ := List.mem_map.1 hmem
    exact toLower_ne_blank (validName_plain h.1 c hc).2 hlower
  rw [htext]
  refine missingObject_of_hit ?_ (report_hit report _ _ _)
  intro phrase hphrase
  exact Infix.not_infix_of_absent (report_absent hne lead hlead trail htrail phrase hphrase)
    hblank

/-- The report without a name is taken for one about an image. -/
theorem missingObject_noSuchImageOrContainer (lc : Lowercase) {name stderr : String}
    (h : IsReport .noSuchImageOrContainer name stderr) :
    missingObject (lc.lower stderr.toList) = some .image := by
  obtain ⟨lead, -, trail, -, htext⟩ := lower_report lc h
  rw [htext]
  refine missingObject_of_hit (by simp [ObjectKind.earlier]) ?_
  rw [ObjectKind.hit, inText, decide_eq_true_eq]
  have hfixed : "no such image".toList <:+: lowered "no such image or container" := by
    decide
  exact hfixed.trans
    ((List.suffix_append _ _).isInfix.trans (List.prefix_append _ _).isInfix)

/-! ## Texts that report nothing -/

/-- Where nothing is reported missing, only the two words of the branches for networks and
volumes lead to a missing object. -/
theorem missingObject_of_not_reports {text : List Char} (h : ¬ ReportsMissing text) :
    missingObject text = none ↔ ¬ NamesNotFound text := by
  have hnone : ∀ noun ∈ nouns, ∀ phrase : String,
      "no such ".toList ++ noun.toList = phrase.toList → inText phrase text = false := by
    intro noun hnoun phrase hphrase
    rw [inText, decide_eq_false_iff_not, ← hphrase]
    exact fun hfound => h (Or.inl ⟨noun, hnoun, hfound⟩)
  have himage := hnone "image" (by decide) "no such image" (by decide)
  have hnetwork := hnone "network" (by decide) "no such network" (by decide)
  have hvolume := hnone "volume" (by decide) "no such volume" (by decide)
  have hcontainer := hnone "container" (by decide) "no such container" (by decide)
  have hobject := hnone "object" (by decide) "no such object" (by decide)
  have hboth : inText "no such image or container" text = false := by
    rw [inText, decide_eq_false_iff_not] at himage ⊢
    intro hfound
    have hpart : "no such image".toList <:+: "no such image or container".toList := by
      decide
    exact himage (hpart.trans hfound)
  have hnames : NamesNotFound text ↔ inText "not found" text = true ∧
      (inText "network" text = true ∨ inText "volume" text = true) := by
    simp only [NamesNotFound, inText, decide_eq_true_eq]
  rw [hnames, missingObject, himage, hnetwork, hvolume, hcontainer, hobject, hboth]
  cases inText "network" text <;> cases inText "volume" text <;>
    cases inText "not found" text <;> simp

theorem raiseForDockerError_notFound (lc : Lowercase) (stderr : String) {exitCode : Int}
    (hexit : exitCode ≠ 0) (kind : ObjectKind) :
    (∃ e, raiseForDockerError lc stderr exitCode = .error e ∧
      e.kind = .domain kind.notFoundError) ↔
      missingObject (lc.lower stderr.toList) = some kind := by
  unfold raiseForDockerError
  rw [if_neg hexit]
  cases missingObject (lc.lower stderr.toList) with
  | none =>
      simp only [reduceCtorEq, iff_false]
      rintro ⟨e, he, hkind⟩
      split at he
      · cases he
        cases kind <;> cases hkind
      · split at he
        · cases he
          cases kind <;> cases hkind
        · cases he
          cases kind <;> cases hkind
  | some kind' =>
      constructor
      · rintro ⟨e, he, hkind⟩
        cases he
        cases kind <;> cases kind' <;> first | rfl | cases hkind
      · intro h
        cases h
        exact ⟨_, rfl, rfl⟩

/-- **The error of a failed docker command tells the object that is reported missing if and
only if the text is not `no such image or container`, and does not have `not found` together
with `network` or `volume` while it reports nothing.** -/
theorem classified_iff (lc : Lowercase) (stderr : String) (exitCode : Int)
    (hexit : exitCode ≠ 0) :
    ClassifiedByMissing lc stderr exitCode ↔
      ¬ IsReport .noSuchImageOrContainer "" stderr ∧
      (¬ ReportsMissing (lc.lower stderr.toList) →
        ¬ NamesNotFound (lc.lower stderr.toList)) := by
  constructor
  · rintro ⟨hreports, hnothing⟩
    refine ⟨fun hreport => ?_, fun hsilent => ?_⟩
    · have hraise := hreports _ _ hreport
      have hfound := missingObject_noSuchImageOrContainer lc hreport
      have hkind := (raiseForDockerError_notFound lc stderr hexit .container).1
        ⟨_, hraise, rfl⟩
      rw [hfound] at hkind
      cases hkind
    · rw [← missingObject_of_not_reports hsilent]
      cases hmissing : missingObject (lc.lower stderr.toList) with
      | none => rfl
      | some kind =>
          obtain ⟨e, he, hkind⟩ :=
            (raiseForDockerError_notFound lc stderr hexit kind).2 hmissing
          exact absurd hkind (hnothing hsilent kind e he)
  · rintro ⟨hlast, hsilent⟩
    refine ⟨fun report name hreport => ?_, fun hnothing kind e he hkind => ?_⟩
    · have hne : report ≠ .noSuchImageOrContainer := by
        rintro rfl
        have hname : name = "" := by simpa [Report.validName] using hreport.1
        exact hlast (hname ▸ hreport)
      unfold raiseForDockerError
      rw [if_neg hexit, missingObject_report lc hreport hne]
    · have hnone := (missingObject_of_not_reports hnothing).2 (hsilent hnothing)
      have hsome := (raiseForDockerError_notFound lc stderr hexit kind).1 ⟨e, he, hkind⟩
      rw [hnone] at hsome
      cases hsome

/-- A report about a container, as docker prints it. -/
theorem classified_noSuchContainer :
    ClassifiedByMissing asciiLowercase "No such container: web" 1 := by
  refine (classified_iff asciiLowercase "No such container: web" 1 (by decide)).2 ⟨?_, ?_⟩
  · rintro ⟨-, hreport⟩
    revert hreport
    decide
  · rintro - ⟨hfound, -⟩
    revert hfound
    decide

/-- The report without a name raises the error for a missing image. -/
theorem noSuchImageOrContainer_misclassified :
    ¬ ClassifiedByMissing asciiLowercase "no such image or container" 1 := by
  intro h
  have hreport : IsReport .noSuchImageOrContainer "" "no such image or container" :=
    ⟨by decide, "", by decide, "", by decide, by decide⟩
  have hraise := h.1 _ _ hreport
  have himage : raiseForDockerError asciiLowercase "no such image or container" 1 =
      .error ⟨.domain .imageNotFoundError, "no such image or container"⟩ := by
    decide
  rw [himage] at hraise
  revert hraise
  decide

end Docker
end NodeNexus
