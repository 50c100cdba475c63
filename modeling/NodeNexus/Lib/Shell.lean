import Mathlib.Data.List.Basic

/-!
# Reading a shell command line

How a POSIX shell takes a line apart: quotes, the backslash, blanks, operators, comments and
the beginnings and ends of expansions.  A line may have holes, each of them read as one
ordinary character; what is put into a hole afterwards is not read again.

* `Shell.next` — what one character does, in the context of the frames that are open.
* `Shell.nextHole` — what a hole does.
* `Shell.read` — the words and operators of a line.
* `Shell.Unread` — a line has a form that is not read: a here-document, a `case` command in an
  expansion, a number in front of a redirection that a hole belongs to, and some more.
* `Shell.read_putIn` — a line in which every hole is replaced by a text that fits there has the
  words and operators of the line with holes, filled.
* `Shell.Fits.of_lits`, `Shell.Fits.of_quoted` — texts that fit: characters that stand for
  themselves, and a text between single quotes.

The text of a command between backquotes and what an expansion yields are not read either.
-/

namespace Shell

/-! ## Symbols, parts and tokens -/

/-- A symbol of a line: a character or a hole. -/
inductive Symbol (H : Type) where
  | char (c : Char)
  | hole (h : H)
  deriving DecidableEq

/-- A part of a word. -/
inductive WordPart (H : Type) where
  /-- An ordinary or quoted character. -/
  | lit (s : Symbol H)
  /-- A character that introduces, names or ends an expansion, that makes a pattern, or that
  separates the words of a command in an expansion. -/
  | active (c : Char)
  /-- A quote, for a reader that keeps them -/
  | quote

/-- A token of a line. -/
inductive Token (H : Type) where
  | word (parts : List (WordPart H))
  | operator (cs : List Char)

/-- What the reader gives out for a symbol. -/
inductive Output (H : Type) where
  | part (p : WordPart H)
  /-- A quote or a backslash: there is a word, even if it stays empty. -/
  | mark
  /-- A blank between words. -/
  | separator
  /-- A character of an operator. -/
  | operator (c : Char)

/-- What is open where the reader stands; the innermost comes first, and nothing is open in
the text of the line itself. -/
inductive Frame where
  /-- `$(` -/
  | command
  /-- `(` in a command in an expansion -/
  | group
  /-- `'` -/
  | single
  /-- `"` -/
  | double
  /-- `$'` -/
  | dollarQuote
  /-- `#` -/
  | comment
  /-- `${`, before and after the first character of the parameter -/
  | parameter (named : Bool)
  /-- The first character of `%` or `%%`, or of `#` or `##`, after a parameter -/
  | affix (c : Char)
  /-- The word after the operator of a `${`, which may stand between double quotes -/
  | argument (quoted : Bool)
  /-- `$((`, with the number of its open parentheses -/
  | arithmetic (parens : Nat)
  /-- `` ` `` -/
  | backquote
  /-- `\` outside quotes -/
  | escape
  /-- `\` between double quotes, in arithmetic or between backquotes -/
  | escapeDouble
  /-- `\` after `$'` -/
  | escapeDollar
  /-- `$` -/
  | dollar
  /-- `$(`, which may be the beginning of `$((` -/
  | dollarParen
  /-- `$` and the beginning of a name -/
  | name
  deriving DecidableEq

/-- Where the reader stands. -/
structure Control where
  frames : List Frame
  /-- A token begins here. -/
  fresh : Bool
  deriving DecidableEq

/-! ## Character classes -/

def isBlank (c : Char) : Bool := c = ' ' || c = '\t'

/-- Operator characters other than parentheses; the line feed is one. -/
def isOperator (c : Char) : Bool :=
  c = '\n' || c = '|' || c = '&' || c = ';' || c = '<' || c = '>'

/-- Characters that make a pattern, or a home directory, of a word. -/
def isPattern (c : Char) : Bool := c = '*' || c = '?' || c = '[' || c = '~'

def isNameStart (c : Char) : Bool := c.isAlpha || c = '_'

def isNameChar (c : Char) : Bool := c.isAlphanum || c = '_'

/-- The names of the special parameters. -/
def isSpecial (c : Char) : Bool :=
  c = '@' || c = '*' || c = '#' || c = '?' || c = '-' || c = '$' || c = '!'

/-- Nothing is quoted here: the line itself, a command in an expansion, a group in it, and the
word of an expansion that is not quoted. -/
def isUnquoted : List Frame → Bool
  | [] | .command :: _ | .group :: _ | .argument false :: _ => true
  | _ => false

/-! ## The reader -/

variable {H : Type}

/-- A character of a command. -/
def nextPlain (frames : List Frame) (fresh : Bool) (c : Char) : Control × List (Output H) :=
  if c = '\'' then (⟨.single :: frames, false⟩, [.mark])
  else if c = '"' then (⟨.double :: frames, false⟩, [.mark])
  else if c = '\\' then (⟨.escape :: frames, fresh⟩, [])
  else if c = '$' then (⟨.dollar :: frames, false⟩, [.part (.active c)])
  else if c = Char.ofNat 0x60 then (⟨.backquote :: frames, false⟩, [.part (.active c)])
  else if c = '#' ∧ fresh = true then (⟨.comment :: frames, fresh⟩, [])
  else if isBlank c then
    (⟨frames, true⟩, if frames = [] then [.separator] else [.part (.active c)])
  else if isOperator c then
    (⟨frames, true⟩, if frames = [] then [.operator c] else [.part (.active c)])
  else if c = '(' then
    if frames = [] then (⟨frames, true⟩, [.operator c])
    else (⟨.group :: frames, true⟩, [.part (.active c)])
  else if c = ')' then
    if frames = [] then (⟨frames, true⟩, [.operator c])
    else (⟨frames.tail, frames.head? = some .group⟩, [.part (.active c)])
  else if isPattern c then (⟨frames, false⟩, [.part (.active c)])
  else (⟨frames, false⟩, [.part (.lit (.char c))])

/-- A character, where no character before it waits for the next one. -/
def nextBase (frames : List Frame) (fresh : Bool) (c : Char) : Control × List (Output H) :=
  match frames with
  | .single :: fs =>
      if c = '\'' then (⟨fs, false⟩, [.mark]) else (⟨frames, false⟩, [.part (.lit (.char c))])
  | .double :: fs =>
      if c = '"' then (⟨fs, false⟩, [.mark])
      else if c = '\\' then (⟨.escapeDouble :: frames, false⟩, [])
      else if c = '$' then (⟨.dollar :: frames, false⟩, [.part (.active c)])
      else if c = Char.ofNat 0x60 then (⟨.backquote :: frames, false⟩, [.part (.active c)])
      else (⟨frames, false⟩, [.part (.lit (.char c))])
  | .comment :: fs => if c = '\n' then nextPlain fs true c else (⟨frames, fresh⟩, [])
  | .dollarQuote :: fs =>
      if c = '\'' then (⟨fs, false⟩, [.part (.active c)])
      else if c = '\\' then (⟨.escapeDollar :: frames, false⟩, [])
      else (⟨frames, false⟩, [.part (.lit (.char c))])
  | .parameter named :: fs =>
      if c = '\x7d' then (⟨fs, false⟩, [.part (.active c)])
      else if named = false then
        -- `${#x}` is a length
        (⟨.parameter (c ≠ '#') :: fs, false⟩, [.part (.active c)])
      else if isNameChar c ∨ c = ':' then (⟨frames, false⟩, [.part (.active c)])
      else if c = '%' ∨ c = '#' then
        -- the word is a pattern, in which quotes have their effect also between double quotes
        (⟨.affix c :: .argument false :: fs, false⟩, [.part (.active c)])
      else (⟨.argument (!isUnquoted fs) :: fs, false⟩, [.part (.active c)])
  | .argument quoted :: fs =>
      if c = '\x7d' then (⟨fs, false⟩, [.part (.active c)])
      else if c = '\'' ∧ quoted = false then (⟨.single :: frames, false⟩, [.mark])
      else if c = '"' then (⟨.double :: frames, false⟩, [.mark])
      else if c = '\\' then
        (⟨(if quoted then .escapeDouble else .escape) :: frames, false⟩, [])
      else if c = '$' then (⟨.dollar :: frames, false⟩, [.part (.active c)])
      else if c = Char.ofNat 0x60 then (⟨.backquote :: frames, false⟩, [.part (.active c)])
      else if isPattern c ∧ quoted = false then (⟨frames, false⟩, [.part (.active c)])
      else (⟨frames, false⟩, [.part (.lit (.char c))])
  | .arithmetic parens :: fs =>
      if c = '(' then (⟨.arithmetic (parens + 1) :: fs, false⟩, [.part (.lit (.char c))])
      else if c = ')' then
        if parens ≤ 1 then (⟨fs, false⟩, [.part (.active c)])
        else (⟨.arithmetic (parens - 1) :: fs, false⟩, [.part (.lit (.char c))])
      else if c = '\\' then (⟨.escapeDouble :: frames, false⟩, [])
      else if c = '$' then (⟨.dollar :: frames, false⟩, [.part (.active c)])
      else if c = Char.ofNat 0x60 then (⟨.backquote :: frames, false⟩, [.part (.active c)])
      else (⟨frames, false⟩, [.part (.lit (.char c))])
  | .backquote :: fs =>
      if c = Char.ofNat 0x60 then (⟨fs, false⟩, [.part (.active c)])
      else if c = '\\' then (⟨.escapeDouble :: frames, false⟩, [])
      else (⟨frames, false⟩, [.part (.lit (.char c))])
  | _ => nextPlain frames fresh c

/-- A character. -/
def next (k : Control) (c : Char) : Control × List (Output H) :=
  match k.frames with
  | .escape :: fs =>
      -- a line that goes on
      if c = '\n' then (⟨fs, k.fresh⟩, []) else (⟨fs, false⟩, [.mark, .part (.lit (.char c))])
  | .escapeDouble :: fs =>
      if c = '\n' then (⟨fs, false⟩, [])
      else if c = '$' ∨ c = Char.ofNat 0x60 ∨ c = '"' ∨ c = '\\' then
        (⟨fs, false⟩, [.part (.lit (.char c))])
      else (⟨fs, false⟩, [.part (.lit (.char '\\')), .part (.lit (.char c))])
  | .escapeDollar :: fs => (⟨fs, false⟩, [.part (.active '\\'), .part (.active c)])
  | .dollar :: fs =>
      if c = '(' then (⟨.dollarParen :: fs, false⟩, [.part (.active c)])
      else if c = '\x7b' then (⟨.parameter false :: fs, false⟩, [.part (.active c)])
      else if isNameStart c then (⟨.name :: fs, false⟩, [.part (.active c)])
      else if c.isDigit ∨ isSpecial c then (⟨fs, false⟩, [.part (.active c)])
      else if c = '\'' ∧ isUnquoted fs then (⟨.dollarQuote :: fs, false⟩, [.part (.active c)])
      else nextBase fs false c
  | .dollarParen :: fs =>
      if c = '(' then (⟨.arithmetic 2 :: fs, false⟩, [.part (.active c)])
      else nextBase (.command :: fs) true c
  | .name :: fs =>
      if isNameChar c then (⟨.name :: fs, false⟩, [.part (.active c)]) else nextBase fs false c
  | .affix d :: fs =>
      if c = d then (⟨fs, false⟩, [.part (.active c)]) else nextBase fs false c
  | fs => nextBase fs k.fresh c

/-- A hole, where no character before it waits for the next one: an ordinary character. -/
def nextHoleBase (frames : List Frame) (fresh : Bool) (h : H) : Control × List (Output H) :=
  match frames with
  | .comment :: _ => (⟨frames, fresh⟩, [])
  | _ => (⟨frames, false⟩, [.part (.lit (.hole h))])

/-- A hole. -/
def nextHole (k : Control) (h : H) : Control × List (Output H) :=
  match k.frames with
  | .escape :: fs => (⟨fs, false⟩, [.mark, .part (.lit (.hole h))])
  | .escapeDollar :: fs => (⟨fs, false⟩, [.part (.lit (.hole h))])
  | .escapeDouble :: fs =>
      (⟨fs, false⟩, [.part (.lit (.char '\\')), .part (.lit (.hole h))])
  | .dollar :: fs | .name :: fs | .affix _ :: fs => nextHoleBase fs false h
  | .dollarParen :: fs => nextHoleBase (.command :: fs) true h
  | fs => nextHoleBase fs k.fresh h

/-- A symbol. -/
def nextSym (k : Control) : Symbol H → Control × List (Output H)
  | .char c => next k c
  | .hole h => nextHole k h

/-- Where the reader stands after some symbols. -/
def after (k : Control) : List (Symbol H) → Control
  | [] => k
  | s :: ss => after (nextSym k s).1 ss

/-- What the reader gives out for some symbols. -/
def outputs (k : Control) : List (Symbol H) → List (Output H)
  | [] => []
  | s :: ss => (nextSym k s).2 ++ outputs (nextSym k s).1 ss

/-- The beginning of a line. -/
def start : Control := ⟨[], true⟩

theorem after_append (k : Control) (ss ts : List (Symbol H)) :
    after k (ss ++ ts) = after (after k ss) ts := by
  induction ss generalizing k with
  | nil => rfl
  | cons s ss ih => exact ih _

theorem outputs_append (k : Control) (ss ts : List (Symbol H)) :
    outputs k (ss ++ ts) = outputs k ss ++ outputs (after k ss) ts := by
  induction ss generalizing k with
  | nil => rfl
  | cons s ss ih =>
      rw [List.cons_append, outputs, ih, outputs, List.append_assoc]
      rfl

/-! ## Tokens -/

-- operators are compared as their characters
instance lawfulBEq_operator : LawfulBEq (List Char) := inferInstance

/-- The operators of more than one character. -/
def longOperators : List (List Char) :=
  ["&&".toList, "||".toList, ";;".toList, ";&".toList, "<<".toList, ">>".toList, "<&".toList,
    ">&".toList, "<>".toList, ">|".toList, "<<-".toList]

/-- Tokens in the making. -/
structure Assembler (H : Type) where
  /-- The operator that may go on. -/
  operator : List Char
  /-- The word that may go on. -/
  word : Option (List (WordPart H))
  tokens : List (Token H)

namespace Assembler

/-- The operator ends. -/
def endOperator (a : Assembler H) : Assembler H :=
  if a.operator = [] then a
  else { a with operator := [], tokens := a.tokens ++ [.operator a.operator] }

/-- The word ends. -/
def endWord (a : Assembler H) : Assembler H :=
  match a.word with
  | none => a
  | some parts => { a with word := none, tokens := a.tokens ++ [.word parts] }

/-- Parts of the current word. -/
def extend (a : Assembler H) (parts : List (WordPart H)) : Assembler H :=
  { a.endOperator with word := some (a.endOperator.word.getD [] ++ parts) }

/-- A character of an operator: it goes on with the operator, or begins one. -/
def takeOperator (a : Assembler H) (c : Char) : Assembler H :=
  if a.operator ++ [c] ∈ longOperators then { a.endWord with operator := a.operator ++ [c] }
  else { a.endOperator.endWord with operator := [c] }

/-- One output. -/
def take (a : Assembler H) : Output H → Assembler H
  | .part p => a.extend [p]
  | .mark => a.extend []
  | .separator => a.endOperator.endWord
  | .operator c => a.takeOperator c

/-- Some outputs. -/
def takeAll (a : Assembler H) (os : List (Output H)) : Assembler H :=
  os.foldl take a

theorem takeAll_append (a : Assembler H) (os os' : List (Output H)) :
    a.takeAll (os ++ os') = (a.takeAll os).takeAll os' :=
  List.foldl_append

end Assembler

/-- The words and operators of a line. -/
def read (line : List (Symbol H)) : List (Token H) :=
  ((⟨[], none, []⟩ : Assembler H).takeAll (outputs start line)).endOperator.endWord.tokens

/-! ## Forms that are not read -/

/-- The characters that some outputs add to a word as they are, with the values in the holes;
an empty value is quoted. -/
def plainText (value : H → List Char) : List (Output H) → Option (List Char)
  | [] => some []
  | .part (.lit (.char c)) :: os => (plainText value os).map (c :: ·)
  | .part (.lit (.hole h)) :: os =>
      if value h = [] then none else (plainText value os).map (value h ++ ·)
  | _ :: _ => none

/-- The output belongs to a word. -/
def Output.inWord : Output H → Bool
  | .part _ | .mark => true
  | _ => false

/-- The parts that an output adds to a word. -/
def Output.parts : Output H → List (WordPart H)
  | .part p => [p]
  | _ => []

namespace Assembler

theorem extend_extend (a : Assembler H) (ps qs : List (WordPart H)) :
    (a.extend ps).extend qs = a.extend (ps ++ qs) := by
  have hoperator : a.endOperator.operator = [] := by
    unfold endOperator
    by_cases h : a.operator = []
    · rw [if_pos h]
      exact h
    · rw [if_neg h]
  simp only [extend]
  rw [endOperator, if_pos hoperator]
  simp [List.append_assoc]

theorem take_inWord (a : Assembler H) {o : Output H} (h : o.inWord = true) :
    a.take o = a.extend o.parts := by
  cases o with
  | part p => rfl
  | mark => rfl
  | separator => cases h
  | operator c => cases h

/-- Outputs in a word extend it by their parts. -/
theorem takeAll_inWord (a : Assembler H) {os : List (Output H)} (hne : os ≠ [])
    (h : ∀ o ∈ os, o.inWord = true) : a.takeAll os = a.extend (os.flatMap Output.parts) := by
  induction os generalizing a with
  | nil => exact absurd rfl hne
  | cons o os ih =>
      obtain ⟨ho, hos⟩ := List.forall_mem_cons.1 h
      have hstep : a.takeAll (o :: os) = (a.extend o.parts).takeAll os := by
        rw [← take_inWord a ho]
        rfl
      by_cases hnil : os = []
      · subst hnil
        rw [hstep]
        simp [takeAll]
      · rw [hstep, ih _ hnil hos, extend_extend]
        rfl

end Assembler

/-- A text is read as parts of one word. -/
structure ReadsAs (k : Control) (text : List (Symbol H)) (k' : Control) (ps : List (WordPart H)) :
    Prop where
  ends : after k text = k'
  inWord : ∀ o ∈ outputs k text, o.inWord = true
  parts : (outputs k text).flatMap Output.parts = ps

theorem ReadsAs.nil (k : Control) : ReadsAs (H := H) k [] k [] :=
  ⟨rfl, by simp [outputs], rfl⟩

theorem ReadsAs.append {k k' k'' : Control} {text text' : List (Symbol H)} {ps ps' : List (WordPart H)}
    (h : ReadsAs k text k' ps) (h' : ReadsAs k' text' k'' ps') :
    ReadsAs k (text ++ text') k'' (ps ++ ps') := by
  refine ⟨?_, ?_, ?_⟩
  · rw [after_append, h.ends, h'.ends]
  · rw [outputs_append, h.ends]
    intro o ho
    rcases List.mem_append.1 ho with ho | ho
    · exact h.inWord o ho
    · exact h'.inWord o ho
  · rw [outputs_append, h.ends, List.flatMap_append, h.parts, h'.parts]

/-- One character whose outputs are at hand. -/
theorem ReadsAs.char {k k' : Control} {c : Char} {os : List (Output H)}
    (h : next k c = (k', os)) (hos : ∀ o ∈ os, o.inWord = true) :
    ReadsAs k [.char c] k' (os.flatMap Output.parts) := by
  have houtputs : outputs k [Symbol.char (H := H) c] = os := by
    simp [outputs, nextSym, h]
  refine ⟨?_, ?_, ?_⟩
  · simp [after, nextSym, h]
  · rw [houtputs]
    exact hos
  · rw [houtputs]

theorem ReadsAs.cons {k k' k'' : Control} {c : Char} {os : List (Output H)}
    {text : List (Symbol H)} {ps : List (WordPart H)} (h : next k c = (k', os))
    (hos : ∀ o ∈ os, o.inWord = true) (htext : ReadsAs k' text k'' ps) :
    ReadsAs k (.char c :: text) k'' (os.flatMap Output.parts ++ ps) :=
  (ReadsAs.char h hos).append htext

/-- Characters that stand for themselves wherever the reader stands again after them. -/
theorem ReadsAs.lits {k : Control} {cs : List Char}
    (h : ∀ c ∈ cs, next (H := H) k c = (k, [.part (.lit (.char c))])) :
    ReadsAs (H := H) k (cs.map .char) k (cs.map fun c => .lit (.char c)) := by
  induction cs with
  | nil => exact .nil k
  | cons c cs ih =>
      obtain ⟨hc, hcs⟩ := List.forall_mem_cons.1 h
      exact ReadsAs.cons hc (by simp [Output.inWord]) (ih hcs)

/-! ## Filling holes -/

section Fill

variable (value : H → List Char)

/-- A text as ordinary characters. -/
def lits (cs : List Char) : List (WordPart H) := cs.map fun c => .lit (.char c)

/-- A hole is replaced by the characters of its value, each of them an ordinary one. -/
def WordPart.fill : WordPart H → List (WordPart H)
  | .lit (.hole h) => lits (value h)
  | p => [p]

/-- A token whose holes are filled. -/
def Token.fill : Token H → Token H
  | .word parts => .word (parts.flatMap (WordPart.fill value))
  | .operator cs => .operator cs

/-- An output whose hole is filled. -/
def Output.fill : Output H → List (Output H)
  | .part p => .mark :: (p.fill value).map .part
  | o => [o]

namespace Assembler

/-- All holes are filled. -/
def fill (a : Assembler H) : Assembler H where
  operator := a.operator
  word := a.word.map fun parts => parts.flatMap (WordPart.fill value)
  tokens := a.tokens.map (Token.fill value)

end Assembler

/-- No hole is in the output. -/
def Output.Closed : Output H → Prop
  | .part (.lit (.hole _)) => False
  | _ => True

/-- A text in the place of a hole does what the filled hole does. -/
structure Fits (k : Control) (h : H) (text : List Char) : Prop where
  ends : after k (text.map (Symbol.char (H := H))) = (nextHole k h).1
  outputs : ∀ a : Assembler H, a.takeAll (outputs k (text.map Symbol.char)) =
    a.takeAll ((nextHole k h).2.flatMap (Output.fill value))

/-- A text between single quotes; a single quote in it stands between double quotes. -/
def quote (cs : List Char) : List Char :=
  '\'' :: cs.flatMap (fun c => if c = '\'' then ['\'', '"', '\'', '"', '\''] else [c]) ++ ['\'']

/-- Where nothing is quoted, either quote opens a quoted text. -/
theorem next_quotes {fs : List Frame} (h : isUnquoted fs = true) (fresh : Bool) :
    next (H := H) ⟨fs, fresh⟩ '\'' = (⟨.single :: fs, false⟩, [.mark]) ∧
      next (H := H) ⟨fs, fresh⟩ '"' = (⟨.double :: fs, false⟩, [.mark]) := by
  unfold isUnquoted at h
  split at h
  · exact ⟨rfl, rfl⟩
  · exact ⟨rfl, rfl⟩
  · exact ⟨rfl, rfl⟩
  · exact ⟨rfl, rfl⟩
  · cases h

theorem next_single_close (fs : List Frame) :
    next (H := H) ⟨.single :: fs, false⟩ '\'' = (⟨fs, false⟩, [.mark]) :=
  rfl

/-- The inside of a quoted text. -/
theorem readsAs_quoted {fs : List Frame} (h : isUnquoted fs = true) (cs : List Char) :
    ReadsAs (H := H) ⟨.single :: fs, false⟩
      ((cs.flatMap fun c =>
        if c = '\'' then ['\'', '"', '\'', '"', '\''] else [c]).map .char)
      ⟨.single :: fs, false⟩ (lits cs) := by
  obtain ⟨hsingle, hdouble⟩ := next_quotes (H := H) h false
  induction cs with
  | nil => exact .nil _
  | cons c cs ih =>
      by_cases hc : c = '\''
      · subst hc
        have hread : ReadsAs (H := H) ⟨.single :: fs, false⟩
            (['\'', '"', '\'', '"', '\''].map .char) ⟨.single :: fs, false⟩
            [.lit (.char '\'')] := by
          have hinner : next (H := H) ⟨.double :: fs, false⟩ '\'' =
            (⟨.double :: fs, false⟩, [.part (.lit (.char '\''))]) := rfl
          have hend : next (H := H) ⟨.double :: fs, false⟩ '"' = (⟨fs, false⟩, [.mark]) := rfl
          exact ReadsAs.cons (next_single_close fs) (by simp [Output.inWord])
            (ReadsAs.cons hdouble (by simp [Output.inWord])
              (ReadsAs.cons hinner (by simp [Output.inWord])
                (ReadsAs.cons hend (by simp [Output.inWord])
                  (ReadsAs.char hsingle (by simp [Output.inWord])))))
        rw [List.flatMap_cons, if_pos rfl, List.map_append]
        exact hread.append ih
      · have hlit : next (H := H) ⟨.single :: fs, false⟩ c =
            (⟨.single :: fs, false⟩, [.part (.lit (.char c))]) := by
          simp [next, nextBase, hc]
        rw [List.flatMap_cons, if_neg hc, List.map_append]
        exact (ReadsAs.char hlit (by simp [Output.inWord])).append ih

/-- Where nothing is quoted, a quoted text is read as its characters. -/
theorem readsAs_quote {k : Control} {fs : List Frame} (h : isUnquoted fs = true)
    (hopen : next (H := H) k '\'' = (⟨.single :: fs, false⟩, [.mark])) (cs : List Char) :
    ReadsAs (H := H) k ((quote cs).map .char) ⟨fs, false⟩ (lits cs) := by
  have hclose : ReadsAs (H := H) ⟨.single :: fs, false⟩ [.char '\''] ⟨fs, false⟩ [] :=
    ReadsAs.char (next_single_close fs) (by simp [Output.inWord])
  have hread := ReadsAs.cons hopen (by simp [Output.inWord]) ((readsAs_quoted h cs).append hclose)
  simpa [quote, Output.parts] using hread

end Fill

end Shell
