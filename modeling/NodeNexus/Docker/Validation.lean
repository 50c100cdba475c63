import NodeNexus.Config.Export
import NodeNexus.Node.Service

/-!
# Docker parameters

The validators of names that stand in docker command lines.  Every one accepts a value that
its regular expression matches, or raises `DockerValidationError`.

* `validated` — what all of them do.
* `Plain` — what all names have in common: ASCII, and no blank.
-/

namespace NodeNexus
namespace Docker

open Content Node Config
open NodeNexus.Core

/-! ## Character classes -/

/-- `[a-zA-Z0-9_.-]` -/
def isReferenceChar (c : Char) : Bool :=
  c.isAlphanum || c = '_' || c = '.' || c = '-'

/-- `[a-zA-Z0-9\-_./:]` -/
def isImageChar (c : Char) : Bool :=
  isReferenceChar c || c = '/' || c = ':'

/-- `_CONTAINER_REFERENCE_RE`, and with it `_NETWORK_NAME_RE`, `_VOLUME_NAME_RE` and
`_NETWORK_DRIVER_RE`: `^[a-zA-Z0-9][a-zA-Z0-9_.-]*$`, the whole text. -/
def referenceRe (s : String) : Bool :=
  match s.toList with
  | [] => false
  | c :: cs => c.isAlphanum && cs.all isReferenceChar

/-- `_IMAGE_NAME_RE`: `^[a-zA-Z0-9\-_./:]+$`, the whole text. -/
def imageNameRe (s : String) : Bool :=
  allOf isImageChar s.toList

/-- `_IMAGE_NAME_RE.match`: `$` also matches in front of a newline at the end. -/
def imageNameMatch (s : String) : Bool :=
  imageNameRe s ||
    (s.toList.getLast? == some '\n' && allOf isImageChar s.toList.dropLast)

/-! ## Validators -/

/-- `DockerValidationError`. -/
def refuse {α : Type} (text : String) : Except NodeFailure α :=
  .error ⟨.domain .dockerValidationError, text⟩

/-- `if not value or not _RE.fullmatch(value): raise …`, then the value. -/
def validated (re : String → Bool) (message value : String) : Except NodeFailure String :=
  if value ≠ "" && re value then .ok value else refuse message

section
variable (isPrintable : Char → Bool)

/-- `validate_container_id`. -/
def validateContainerId (containerId : String) : Except NodeFailure String :=
  validated referenceRe ("Invalid container reference format: " ++
    Json.reprStr isPrintable containerId ++ ". " ++
    "Container reference must start with an alphanumeric character and " ++
    "contain only alphanumeric characters, hyphens, underscores, and dots.") containerId

/-- `validate_container_name`. -/
def validateContainerName (name : String) : Except NodeFailure String :=
  validated referenceRe ("Invalid container name format: " ++
    Json.reprStr isPrintable name ++ ". " ++
    "Container name must start with an alphanumeric character and " ++
    "contain only alphanumeric characters, hyphens, underscores, and dots.") name

/-- `validate_image_name`: the one that uses `match`. -/
def validateImageName (image : String) : Except NodeFailure String :=
  validated imageNameMatch ("Invalid image name format: " ++
    Json.reprStr isPrintable image ++ ". " ++
    "Image name must contain only alphanumeric characters, " ++
    "hyphens, underscores, dots, slashes, and colons.") image

/-- `validate_image_tag`. -/
def validateImageTag (tag : String) : Except NodeFailure String :=
  validated imageNameRe ("Invalid image tag format: " ++
    Json.reprStr isPrintable tag ++ ". " ++
    "Image tag must contain only alphanumeric characters, " ++
    "hyphens, underscores, dots, slashes, and colons.") tag

/-- `validate_network_name`. -/
def validateNetworkName (network : String) : Except NodeFailure String :=
  validated referenceRe ("Invalid network name format: " ++
    Json.reprStr isPrintable network ++ ".") network

/-- `validate_volume_name`. -/
def validateVolumeName (name : String) : Except NodeFailure String :=
  validated referenceRe ("Invalid volume name: " ++ Json.reprStr isPrintable name ++ ". " ++
    "Volume name must start with alphanumeric and contain only " ++
    "alphanumeric characters, hyphens, underscores, and dots.") name

end

/-- A validator returns its argument. -/
theorem validated_ok {re : String → Bool} {message value result : String}
    (h : validated re message value = .ok result) :
    result = value ∧ value ≠ "" ∧ re value = true := by
  unfold validated refuse at h
  split at h
  · rename_i hok
    cases h
    simp only [Bool.and_eq_true, decide_eq_true_eq] at hok
    exact ⟨rfl, hok.1, hok.2⟩
  · cases h

/-! ## What names have in common -/

/-- ASCII characters, none of them a blank. -/
def Plain (cs : List Char) : Prop :=
  ∀ c ∈ cs, c.toNat < 128 ∧ c ≠ ' '

theorem isAlphanum_plain {c : Char} (h : c.isAlphanum = true) : c.toNat < 128 ∧ c ≠ ' ' := by
  refine ⟨?_, ?_⟩
  · have hranges : (decide ('A'.val ≤ c.val ∧ c.val ≤ 'Z'.val) ||
        ('a'.val ≤ c.val && c.val ≤ 'z'.val) || ('0'.val ≤ c.val && c.val ≤ '9'.val)) = true := h
    simp only [Bool.or_eq_true, Bool.and_eq_true, decide_eq_true_eq,
      UInt32.le_iff_toNat_le] at hranges
    have hval : c.val.toNat = c.toNat := rfl
    rw [hval] at hranges
    simp at hranges
    omega
  · rintro rfl
    simp at h

theorem isReferenceChar_plain {c : Char} (h : isReferenceChar c = true) :
    c.toNat < 128 ∧ c ≠ ' ' := by
  simp only [isReferenceChar, Bool.or_eq_true, decide_eq_true_eq] at h
  rcases h with ((h | rfl) | rfl) | rfl
  · exact isAlphanum_plain h
  all_goals decide

theorem isImageChar_plain {c : Char} (h : isImageChar c = true) : c.toNat < 128 ∧ c ≠ ' ' := by
  simp only [isImageChar, Bool.or_eq_true, decide_eq_true_eq] at h
  rcases h with (h | rfl) | rfl
  · exact isReferenceChar_plain h
  all_goals decide

theorem referenceRe_plain {s : String} (h : referenceRe s = true) : Plain s.toList := by
  unfold referenceRe at h
  unfold Plain
  split at h
  · cases h
  · rename_i c cs hcs
    rw [Bool.and_eq_true, List.all_eq_true] at h
    rw [hcs]
    intro d hd
    rcases List.mem_cons.1 hd with rfl | hd
    · exact isAlphanum_plain h.1
    · exact isReferenceChar_plain (h.2 d hd)

theorem allOf_image_plain {cs : List Char} (h : allOf isImageChar cs = true) : Plain cs := by
  intro c hc
  rw [allOf, Bool.and_eq_true, List.all_eq_true] at h
  exact isImageChar_plain (h.2 c hc)

theorem imageNameMatch_plain {s : String} (h : imageNameMatch s = true) : Plain s.toList := by
  unfold imageNameMatch at h
  rw [Bool.or_eq_true, Bool.and_eq_true] at h
  rcases h with h | ⟨hlast, hinit⟩
  · exact allOf_image_plain h
  · intro c hc
    rw [beq_iff_eq, List.getLast?_eq_some_iff] at hlast
    obtain ⟨cs, hcs⟩ := hlast
    rw [hcs] at hc
    rcases List.mem_append.1 hc with hc | hc
    · exact allOf_image_plain hinit c (by rw [hcs, List.dropLast_concat]; exact hc)
    · rw [List.mem_singleton.1 hc]
      decide

end Docker
end NodeNexus
