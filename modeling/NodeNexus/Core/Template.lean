import NodeNexus.Content.Schemas

/-!
# Command templates

`render_command` puts the values of parameters in the place of the
placeholders `{name}` of a template, each quoted for the shell.  The
placeholders are the matches of `\{(\w+)\}`; `segments` cuts a template into
placeholders and single characters in one pass.

Which characters beyond ASCII `\w` matches and `repr` prints depends on the
Unicode database: both sets are parameters.
-/

namespace NodeNexus
namespace Core

open Content

/-- The character classes of the Unicode database that are used. -/
structure Unicode where
  /-- Does `\w` match it? -/
  isWord : Char → Bool
  /-- `str.isprintable`. -/
  isPrintable : Char → Bool

/-- The character classes of ASCII. -/
def asciiUnicode : Unicode where
  isWord c := c.isAlphanum || c = '_'
  isPrintable _ := false

/-! ## Placeholders -/

/-- A piece of a template. -/
inductive Segment where
  /-- A character that stands for itself. -/
  | char (c : Char)
  /-- A match of `\{(\w+)\}`, with its group. -/
  | placeholder (name : String)

/-- The characters of a failed match, as segments. -/
def literal (cs : List Char) : List Segment :=
  cs.map .char

/-- Cut a template into segments.  `opened` holds the word characters since the
last brace, when a match is under way.  A match that fails leaves only word
characters behind the brace, so no other match starts among them. -/
def segments (isWord : Char → Bool) (opened : Option (List Char)) : List Char → List Segment
  | [] => match opened with
    | none => []
    | some word => literal ('{' :: word)
  | c :: cs => match opened with
    | none =>
        if c = '{' then segments isWord (some []) cs
        else .char c :: segments isWord none cs
    | some word =>
        if c = '}' then
          if word.isEmpty then literal ['{', '}'] ++ segments isWord none cs
          else .placeholder (String.ofList word) :: segments isWord none cs
        else if c = '{' then literal ('{' :: word) ++ segments isWord (some []) cs
        else if isWord c then segments isWord (some (word ++ [c])) cs
        else literal ('{' :: word ++ [c]) ++ segments isWord none cs

section Equations

variable (isWord : Char → Bool) (word : List Char) (c : Char) (cs : List Char)

@[simp] theorem segments_none_nil : segments isWord none [] = [] := rfl

@[simp] theorem segments_some_nil : segments isWord (some word) [] = literal ('{' :: word) := rfl

/-- Between two matches, a brace opens the next one. -/
theorem segments_none_cons : segments isWord none (c :: cs) =
    if c = '{' then segments isWord (some []) cs else .char c :: segments isWord none cs := rfl

/-- In a match, a character ends it, begins another one, or belongs to its word. -/
theorem segments_some_cons : segments isWord (some word) (c :: cs) =
    if c = '}' then
      if word.isEmpty then literal ['{', '}'] ++ segments isWord none cs
      else .placeholder (String.ofList word) :: segments isWord none cs
    else if c = '{' then literal ('{' :: word) ++ segments isWord (some []) cs
    else if isWord c then segments isWord (some (word ++ [c])) cs
    else literal ('{' :: word ++ [c]) ++ segments isWord none cs := rfl

end Equations

/-- A group of `\{(\w+)\}`: one or more word characters.  A brace is none of them. -/
def IsName (isWord : Char → Bool) (name : List Char) : Prop :=
  name ≠ [] ∧ ∀ c ∈ name, isWord c = true ∧ c ≠ '{' ∧ c ≠ '}'

/-- The text of a segment in the template. -/
def Segment.source : Segment → List Char
  | .char c => [c]
  | .placeholder name => '{' :: name.toList ++ ['}']

@[simp] theorem flatMap_source_literal (cs : List Char) :
    (literal cs).flatMap Segment.source = cs := by
  induction cs with
  | nil => rfl
  | cons c cs ih => simpa [literal, Segment.source] using ih

/-- The segments of a text are the text, cut. -/
theorem flatMap_source_segments (isWord : Char → Bool) (cs : List Char)
    (opened : Option (List Char)) :
    (segments isWord opened cs).flatMap Segment.source =
      (match opened with | none => [] | some word => '{' :: word) ++ cs := by
  induction cs generalizing opened with
  | nil => cases opened <;> simp
  | cons c cs ih =>
      cases opened with
      | none =>
          by_cases h : c = '{'
          · simp [segments_none_cons, h, ih]
          · simp [segments_none_cons, h, ih, Segment.source]
      | some word =>
          rw [segments_some_cons]
          by_cases hclose : c = '}'
          · subst hclose
            by_cases hw : word.isEmpty
            · simp [List.isEmpty_iff.1 hw, ih]
            · simp [hw, ih, Segment.source]
          · by_cases hopen : c = '{'
            · simp [hopen, ih]
            · by_cases hword : isWord c
              · simp [hclose, hopen, hword, ih]
              · simp [hclose, hopen, hword, ih]

/-- What a match puts into its group is a name. -/
theorem isName_of_mem_segments {isWord : Char → Bool} {name : String} (cs : List Char)
    (opened : Option (List Char))
    (hopened : ∀ word ∈ opened, ∀ c ∈ word, isWord c = true ∧ c ≠ '{' ∧ c ≠ '}')
    (h : .placeholder name ∈ segments isWord opened cs) : IsName isWord name.toList := by
  induction cs generalizing opened with
  | nil => cases opened <;> simp [literal] at h
  | cons c cs ih =>
      cases opened with
      | none =>
          by_cases hc : c = '{'
          · exact ih (some []) (by simp) (by simpa [segments_none_cons, hc] using h)
          · exact ih none (by simp) (by simpa [segments_none_cons, hc] using h)
      | some word =>
          rw [segments_some_cons] at h
          by_cases hclose : c = '}'
          · by_cases hw : word.isEmpty
            · exact ih none (by simp) (by simpa [hclose, hw, literal] using h)
            · rw [if_pos hclose, if_neg hw, List.mem_cons] at h
              rcases h with h | h
              · cases h
                refine ⟨?_, ?_⟩
                · simpa using hw
                · simpa using hopened word rfl
              · exact ih none (by simp) h
          · by_cases hopen : c = '{'
            · exact ih (some []) (by simp) (by simpa [hopen, literal] using h)
            · by_cases hword : isWord c
              · refine ih (some (word ++ [c])) ?_ (by simpa [hclose, hopen, hword] using h)
                intro word' hword' d hd
                cases hword'
                rcases List.mem_append.1 hd with hd | hd
                · exact hopened word rfl d hd
                · rw [List.mem_singleton.1 hd]
                  exact ⟨hword, hopen, hclose⟩
              · exact ih none (by simp) (by simpa [hclose, hopen, hword, literal] using h)

/-- An opening brace ends every match before it. -/
theorem segments_append_brace (isWord : Char → Bool) (before rest : List Char)
    (opened : Option (List Char)) :
    segments isWord opened (before ++ '{' :: rest) =
      segments isWord opened before ++ segments isWord (some []) rest := by
  induction before generalizing opened with
  | nil => cases opened <;> simp [segments_none_cons, segments_some_cons]
  | cons c cs ih =>
      cases opened with
      | none => by_cases h : c = '{' <;> simp [segments_none_cons, h, ih]
      | some word =>
          simp only [List.cons_append, segments_some_cons, ih]
          by_cases hclose : c = '}'
          · by_cases hw : word.isEmpty <;> simp [hclose, hw]
          · by_cases hopen : c = '{'
            · simp [hopen]
            · by_cases hword : isWord c <;> simp [hclose, hopen, hword]

/-- The word characters after an opening brace are collected. -/
theorem segments_append_word (isWord : Char → Bool) (name rest word : List Char)
    (h : ∀ c ∈ name, isWord c = true ∧ c ≠ '{' ∧ c ≠ '}') :
    segments isWord (some word) (name ++ rest) =
      segments isWord (some (word ++ name)) rest := by
  induction name generalizing word with
  | nil => simp
  | cons c cs ih =>
      obtain ⟨⟨hword, hopen, hclose⟩, hcs⟩ := List.forall_mem_cons.1 h
      rw [List.cons_append, segments_some_cons]
      simp only [if_neg hopen, if_neg hclose, if_pos hword]
      rw [ih _ hcs, List.append_assoc, List.singleton_append]

/-- **A name between braces is found wherever it stands.** -/
theorem segments_placeholder {isWord : Char → Bool} {name : List Char}
    (h : IsName isWord name) (before after : List Char) :
    segments isWord none (before ++ ('{' :: name ++ ['}']) ++ after) =
      segments isWord none before ++
        .placeholder (String.ofList name) :: segments isWord none after := by
  have htext : before ++ ('{' :: name ++ ['}']) ++ after =
      before ++ '{' :: (name ++ '}' :: after) := by simp
  have hname : name.isEmpty = false := by simpa using h.1
  rw [htext, segments_append_brace, segments_append_word isWord name _ [] h.2]
  simp [segments_some_cons, hname]

/-- `PLACEHOLDER_RE.findall`. -/
def findPlaceholders (isWord : Char → Bool) (template : String) : List String :=
  (segments isWord none template.toList).filterMap fun
    | .placeholder name => some name
    | .char _ => none

/-! ## Quoting -/

/-- The characters that need no quotes: letters, digits and some punctuation. -/
def isShellSafe (c : Char) : Bool :=
  c.isAlphanum || c = '_' || c = '@' || c = '%' || c = '+' || c = '=' || c = ':' || c = ',' ||
    c = '.' || c = '/' || c = '-'

/-- `shlex.quote`. -/
def shlexQuote (s : String) : String :=
  let cs := s.toList
  if cs.isEmpty then "''"
  else if cs.all isShellSafe then s
  else String.ofList ('\'' :: cs.flatMap (fun c =>
    if c = '\'' then ['\'', '"', '\'', '"', '\''] else [c]) ++ ['\''])

/-! ## Rendering -/

/-- `', '.join(sorted(names))`. -/
def joinSorted (names : List String) : String :=
  ", ".intercalate (names.mergeSort fun a b => decide (a ≤ b))

/-- `defaults.get(name)`: the default of the last parameter with that name. -/
def defaultOf (parameters : List CommandParameterDTO) (name : String) : Json :=
  match (parameters.filter fun p => p.name = name).getLast? with
  | none => .null
  | some p => p.default

/-- `x is not None`. -/
def isNotNone : Json → Bool
  | .null => false
  | _ => true

/-- The replacement of one segment. -/
def renderSegment (unicode : Unicode) (parameters : List CommandParameterDTO)
    (params : Json.Fields) : Segment → List Char
  | .char c => [c]
  | .placeholder name =>
      match Json.get params name with
      | some value => (shlexQuote (value.toStr unicode.isPrintable)).toList
      | none =>
          if isNotNone (defaultOf parameters name) then
            (shlexQuote ((defaultOf parameters name).toStr unicode.isPrintable)).toList
          else '{' :: name.toList ++ ['}']

/-- `render_command`. -/
def renderCommand (unicode : Unicode) (template : String)
    (parameters : List CommandParameterDTO) (params : Json.Fields) : Except Failure String :=
  let found := findPlaceholders unicode.isWord template
  let undeclared := found.filter fun name => parameters.all fun p => p.name ≠ name
  if undeclared ≠ [] then
    .error (.templateRenderError
      ("Undeclared placeholders in command: " ++ joinSorted undeclared.dedup))
  else
    let missing := (parameters.filter fun p =>
      p.name ∈ found && (Json.get params p.name).isNone &&
        !isNotNone (defaultOf parameters p.name) && p.required).map (·.name)
    if missing ≠ [] then
      .error (.templateRenderError ("Missing required parameters: " ++ joinSorted missing))
    else
      .ok (String.ofList
        ((segments unicode.isWord none template.toList).flatMap
          (renderSegment unicode parameters params)))

/-- `render_command` raises nothing but `TemplateRenderError`. -/
theorem renderCommand_error {unicode : Unicode} {template : String}
    {parameters : List CommandParameterDTO} {params : Json.Fields} {e : Failure}
    (h : renderCommand unicode template parameters params = .error e) :
    ∃ message, e = .templateRenderError message := by
  simp only [renderCommand] at h
  split at h
  · cases h
    exact ⟨_, rfl⟩
  · split at h
    · cases h
      exact ⟨_, rfl⟩
    · cases h

end Core
end NodeNexus
