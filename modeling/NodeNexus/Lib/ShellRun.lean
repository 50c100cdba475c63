import NodeNexus.Lib.Base64
import NodeNexus.Lib.Shell
import NodeNexus.Lib.Utf8

/-!
# Running a shell command line

What a POSIX shell starts for a line of simple commands: assignments in front of a command,
pipelines, `&&` and `>`.

* `Shell.Reads` — a text between blanks, and the tokens that it is read as; texts are put
  together with blanks between them.
* `Shell.assignment` — a word that sets a variable: a name that is not quoted, then `=`.
* `Shell.runLine` — what is written and started, where `printf %s` and `base64 -d` do what
  they are specified to do.
-/

namespace Shell

variable {H : Type}

/-! ## Texts between blanks -/

/-- A quote is kept as a part of its word. -/
def keepQuote : Output H → Output H
  | .mark => .part .quote
  | o => o

/-- The words and operators of a line, with the quotes in the words. -/
def readQuotes (line : List (Symbol H)) : List (Token H) :=
  ((⟨[], none, []⟩ : Assembler H).takeAll
    ((outputs start line).map keepQuote)).endOperator.endWord.tokens

/-- A text that ends where a token may begin is read as some tokens. -/
structure Reads (text : List (Symbol H)) (tokens : List (Token H)) : Prop where
  ends : (after start text).frames = []
  tokens : ∀ ts, ((⟨[], none, ts⟩ : Assembler H).takeAll
    ((outputs start text).map keepQuote)).endOperator.endWord = ⟨[], none, ts ++ tokens⟩

theorem Reads.readQuotes {text : List (Symbol H)} {tokens : List (Token H)}
    (h : Reads text tokens) : readQuotes text = tokens := by
  unfold Shell.readQuotes
  rw [h.tokens []]
  rfl

theorem Reads.nil : Reads (H := H) [] [] :=
  ⟨rfl, fun ts => by simp [outputs, Assembler.takeAll, Assembler.endOperator, Assembler.endWord]⟩

/-- A blank ends what stands in front of it. -/
theorem Reads.append {text text' : List (Symbol H)} {tokens tokens' : List (Token H)}
    (h : Reads text tokens) (h' : Reads text' tokens') :
    Reads (text ++ .char ' ' :: text') (tokens ++ tokens') := by
  obtain ⟨fresh, hk⟩ : ∃ fresh, after start text = ⟨[], fresh⟩ :=
    ⟨(after start text).fresh, by rw [← h.ends]⟩
  have hblank : nextSym (H := H) ⟨[], fresh⟩ (.char ' ') = (start, [.separator]) := rfl
  refine ⟨?_, fun ts => ?_⟩
  · rw [after_append, hk, after, hblank]
    exact h'.ends
  · rw [outputs_append, hk, outputs, hblank, List.map_append, Assembler.takeAll_append,
      List.map_append, Assembler.takeAll_append]
    have hword : ((⟨[], none, ts⟩ : Assembler H).takeAll
        ((outputs start text).map keepQuote)).takeAll ([Output.separator].map keepQuote) =
        ⟨[], none, ts ++ tokens⟩ := h.tokens ts
    rw [hword, h'.tokens, List.append_assoc]

/-- A text that is read as one word. -/
theorem Reads.word {text : List (Symbol H)} {ps : List (WordPart H)} {b : Bool}
    (hends : after start text = ⟨[], b⟩) (hwords : ∀ o ∈ outputs start text, o.inWord = true)
    (hne : outputs start text ≠ [])
    (hparts : ((outputs start text).map keepQuote).flatMap Output.parts = ps) :
    Reads text [.word ps] := by
  refine ⟨by rw [hends], fun ts => ?_⟩
  have hkept : ∀ o ∈ (outputs start text).map keepQuote, o.inWord = true := by
    intro o ho
    obtain ⟨o', ho', rfl⟩ := List.mem_map.1 ho
    have hword := hwords o' ho'
    cases o' with
    | part p => rfl
    | mark => rfl
    | separator => cases hword
    | operator c => cases hword
  rw [Assembler.takeAll_inWord _ (by simpa using hne) hkept, hparts]
  simp [Assembler.extend, Assembler.endOperator, Assembler.endWord]

/-! ## Simple commands -/

/-- The text of a word without its quotes, if nothing in it is expanded. -/
def wordText : List (WordPart H) → Option (List Char)
  | [] => some []
  | .lit (.char c) :: ps => (wordText ps).map (c :: ·)
  | .quote :: ps => wordText ps
  | _ => none

theorem wordText_append (ps qs : List (WordPart H)) :
    wordText (ps ++ qs) =
      (wordText ps).bind fun text => (wordText qs).map fun text' => text ++ text' := by
  induction ps with
  | nil => simp [wordText]
  | cons p ps ih =>
      match p with
      | .lit (.char c) => cases hps : wordText ps <;> simp [wordText, ih, hps, Function.comp_def]
      | .lit (.hole h) => rfl
      | .active c => rfl
      | .quote => simpa [wordText] using ih

theorem wordText_lits (cs : List Char) : wordText (lits (H := H) cs) = some cs := by
  induction cs with
  | nil => rfl
  | cons c cs ih =>
      change (wordText (lits (H := H) cs)).map (c :: ·) = _
      rw [ih]
      rfl

/-- Quotes do not change the text of a word. -/
theorem wordText_keepQuote (os : List (Output H)) :
    wordText ((os.map keepQuote).flatMap Output.parts) = wordText (os.flatMap Output.parts) := by
  induction os with
  | nil => rfl
  | cons o os ih =>
      rw [List.map_cons, List.flatMap_cons, List.flatMap_cons, wordText_append,
        wordText_append, ih]
      cases o with
      | part p => rfl
      | mark => rfl
      | separator => rfl
      | operator c => rfl

/-! ## Pieces of words -/

/-- A text that, on the line itself, is a piece of a word. -/
structure Piece (text : List Char) (ps : List (WordPart H)) : Prop where
  ends : ∀ fresh, after ⟨[], fresh⟩ (text.map (Symbol.char (H := H))) = ⟨[], false⟩
  inWord : ∀ fresh, ∀ o ∈ outputs ⟨[], fresh⟩ (text.map (Symbol.char (H := H))), o.inWord = true
  ne : ∀ fresh, outputs ⟨[], fresh⟩ (text.map (Symbol.char (H := H))) ≠ []
  parts : ∀ fresh, ((outputs ⟨[], fresh⟩ (text.map (Symbol.char (H := H)))).map
    keepQuote).flatMap Output.parts = ps

theorem Piece.append {text text' : List Char} {ps ps' : List (WordPart H)} (h : Piece text ps)
    (h' : Piece text' ps') : Piece (text ++ text') (ps ++ ps') := by
  refine ⟨fun fresh => ?_, fun fresh o ho => ?_, fun fresh => ?_, fun fresh => ?_⟩
  · rw [List.map_append, after_append, h.ends, h'.ends]
  · rw [List.map_append, outputs_append, h.ends] at ho
    rcases List.mem_append.1 ho with ho | ho
    · exact h.inWord fresh o ho
    · exact h'.inWord false o ho
  · rw [List.map_append, outputs_append]
    intro hnil
    exact h.ne fresh (List.append_eq_nil_iff.1 hnil).1
  · rw [List.map_append, outputs_append, h.ends, List.map_append, List.flatMap_append, h.parts,
      h'.parts]

/-- A piece is a word between blanks. -/
theorem Piece.reads {text : List Char} {ps : List (WordPart H)} (h : Piece text ps) :
    Reads (text.map .char) [.word ps] :=
  Reads.word (h.ends true) (h.inWord true) (h.ne true) (h.parts true)

/-- The name at the beginning of a word, and what follows it. -/
def splitName : List (WordPart H) → List Char × List (WordPart H)
  | .lit (.char c) :: ps =>
      if isNameChar c then (c :: (splitName ps).1, (splitName ps).2) else ([], .lit (.char c) :: ps)
  | ps => ([], ps)

/-- A name of a variable: letters, digits and underscores, the first no digit. -/
def isName : List Char → Bool
  | [] => false
  | c :: cs => isNameStart c && cs.all isNameChar

/-- A word that assigns: a name that is not quoted, `=`, and a value. -/
def assignment (ps : List (WordPart H)) : Option (List Char × List Char) :=
  match (splitName ps).2 with
  | .lit (.char '=') :: value =>
      if isName (splitName ps).1 then
        (wordText value).map fun text => ((splitName ps).1, text)
      else none
  | _ => none

/-- A word of a simple command. -/
structure Word where
  text : List Char
  /-- What it assigns, if it stands in front of the command. -/
  assigns : Option (List Char × List Char)

def Word.ofParts (ps : List (WordPart H)) : Option Word :=
  (wordText ps).map fun text => ⟨text, assignment ps⟩

/-- A simple command: its words, and the file that its output goes to. -/
structure Command where
  words : List Word
  target : Option (List Char)

namespace Command

def assignments (c : Command) : List (List Char × List Char) :=
  (c.words.takeWhile fun w => w.assigns.isSome).filterMap Word.assigns

/-- The command word and its arguments. -/
def argv (c : Command) : List (List Char) :=
  (c.words.dropWhile fun w => w.assigns.isSome).map Word.text

end Command

/-- A word is put in front of the first command. -/
def addWord (w : Word) : List (List Command) → List (List Command)
  | (c :: cs) :: rest => ({ c with words := w :: c.words } :: cs) :: rest
  | line => line

def setTarget (path : List Char) : List (List Command) → List (List Command)
  | (c :: cs) :: rest => ({ c with target := some path } :: cs) :: rest
  | line => line

/-- A command begins in front of the first pipeline. -/
def addStage : List (List Command) → List (List Command)
  | pipeline :: rest => (⟨[], none⟩ :: pipeline) :: rest
  | line => line

/-- The pipelines of a line, with `&&` between them. -/
def parse : List (Token H) → Option (List (List Command))
  | [] => some [[⟨[], none⟩]]
  | .word ps :: rest =>
      match Word.ofParts ps with
      | none => none
      | some w => (parse rest).map (addWord w)
  | .operator ['|'] :: rest => (parse rest).map addStage
  | .operator ['&', '&'] :: rest => (parse rest).map ([⟨[], none⟩] :: ·)
  | .operator ['>'] :: .word ps :: rest =>
      match wordText ps with
      | none => none
      | some path => (parse rest).map (setTarget path)
  | .operator _ :: _ => none

/-! ## Running -/

/-- The variables of an environment. -/
abbrev Env := List Char → Option (List Char)

namespace Env

def set (env : Env) (name value : List Char) : Env :=
  fun n => if n = name then some value else env n

/-- Variables are set one after another. -/
def update (env : Env) (values : List (List Char × List Char)) : Env :=
  values.foldl (fun env kv => env.set kv.1 kv.2) env

theorem update_notMem (env : Env) {values : List (List Char × List Char)} {name : List Char}
    (h : name ∉ values.map Prod.fst) : env.update values name = env name := by
  induction values generalizing env with
  | nil => rfl
  | cons kv values ih =>
      rw [List.map_cons, List.mem_cons, not_or] at h
      change (env.set kv.1 kv.2).update values name = _
      rw [ih _ h.2]
      exact if_neg h.1

theorem update_mem (env : Env) {values : List (List Char × List Char)} {name : List Char}
    (h : name ∈ values.map Prod.fst) : (env.update values name).isSome = true := by
  induction values generalizing env with
  | nil => cases h
  | cons kv values ih =>
      change ((env.set kv.1 kv.2).update values name).isSome = true
      by_cases hmem : name ∈ values.map Prod.fst
      · exact ih _ hmem
      · have hname : name = kv.1 := by simpa [hmem] using h
        rw [update_notMem _ hmem, set, if_pos hname]
        rfl

theorem update_append (env : Env) (values values' : List (List Char × List Char)) :
    env.update (values ++ values') = (env.update values).update values' :=
  List.foldl_append

end Env

/-- What running a line does. -/
inductive Effect where
  | write (path : List Char) (bytes : List UInt8)
  | start (env : Env) (argv : List (List Char))

/-- The output of `printf %s` and of `base64 -d`. -/
def utility (input : List UInt8) (argv : List (List Char)) : Option (List UInt8) :=
  match argv with
  | [name, format, text] =>
      if name = "printf".toList ∧ format = "%s".toList then some (Utf8.encode text) else none
  | [name, option] =>
      if name = "base64".toList ∧ option = "-d".toList then
        Base64.decode (Utf8.decode [] input)
      else none
  | _ => none

/-- A pipeline: a utility hands its output on or writes it, any other command is started. -/
def runPipeline (env : Env) (input : List UInt8) : List Command → List Effect
  | [] => []
  | c :: cs =>
      match utility input c.argv, c.target with
      | some output, none => runPipeline env output cs
      | some output, some path => .write path output :: runPipeline env [] cs
      | none, _ => .start (env.update c.assignments) c.argv :: runPipeline env [] cs

/-- What running a line does, each pipeline after the one in front of it has succeeded. -/
def runLine (env : Env) (line : List Char) : Option (List Effect) :=
  (parse (readQuotes (line.map (Symbol.char (H := Empty))))).map
    (·.flatMap (runPipeline env []))

end Shell
