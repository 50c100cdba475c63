import NodeNexus.Lib.Lines

/-!
# Is a host key in known_hosts?

`FileKnownHostsManager` asks `ssh-keygen -F`, and where that is missing or fails it searches the
text of the file for the name.

* `PlainLine` — a line `names keytype key`, with its well-formedness; `render` is the text of such
  lines.
* `SshKeygen` — the program, with what it is relied on for: in a plain line it finds the names.
* `isPresent` — the test, with the program and without it.
* `PresenceExact` — it finds exactly the hosts that a line lists.
* `presence_exact_iff` — it does when no longer name, key type or key has the searched name as a
  part, unless a line lists it too.
-/

namespace NodeNexus
namespace KnownHosts

open Lines

abbrev Text := List Char

/-! ## Plain lines -/

/-- The characters between the fields of a line. -/
def blanks : List Char := [' ', '\t', '\n', '\r', Char.ofNat 11, Char.ofNat 12]

/-- A text that can be a field of a line. -/
def IsField (field : Text) : Prop := field ≠ [] ∧ ∀ c ∈ field, c ∉ blanks

/-- A name that is no pattern. -/
def IsName (name : Text) : Prop :=
  IsField name ∧ ',' ∉ name ∧ '*' ∉ name ∧ '?' ∉ name ∧ '!' ∉ name

/-- A line `names keytype key`, unhashed and without a marker. -/
structure PlainLine where
  /-- The names, the first one apart. -/
  name : Text
  names : List Text
  /-- Of the types that `ssh-keygen` knows: a line of another type it passes over. -/
  keyType : Text
  key : Text
  name_ok : IsName name
  /-- The line is no comment, has no marker and is not hashed. -/
  plain : ∀ c ∈ name.head?, c ∉ ['#', '@', '|']
  names_ok : ∀ n ∈ names, IsName n
  keyType_ok : IsField keyType
  key_ok : IsField key

namespace PlainLine

/-- The names of a line. -/
def allNames (line : PlainLine) : List Text := line.name :: line.names

/-- The fields of a line, each name by itself. -/
def fields (line : PlainLine) : List Text := line.allNames ++ [line.keyType, line.key]

/-- The names, with commas between them. -/
def namesText (line : PlainLine) : Text :=
  line.name ++ line.names.flatMap fun n => ',' :: n

/-- The text of a line. -/
def text (line : PlainLine) : Text :=
  line.namesText ++ ' ' :: (line.keyType ++ ' ' :: line.key)

end PlainLine

/-- The text of plain lines; the last line may lack its line feed. -/
def render (file : List PlainLine) (terminated : Bool) : Text :=
  let text := unlines '\n' (file.map PlainLine.text)
  if terminated then text else text.dropLast

/-- A line of the file lists the name. -/
def Listed (file : List PlainLine) (name : Text) : Prop := ∃ line ∈ file, name ∈ line.allNames

instance (file : List PlainLine) (name : Text) : Decidable (Listed file name) :=
  inferInstanceAs (Decidable (∃ line ∈ file, name ∈ line.allNames))

/-! ## The presence test -/

/-- The program `ssh-keygen`, as far as it decides which lines belong to a name. -/
structure SshKeygen where
  /-- Is the line an entry of the name? -/
  finds : Text → Text → Bool
  /-- What it leaves aside when it compares names. -/
  fold : Text → Text
  /-- What is documented of plain lines, whose key types it knows: the names are compared one
  by one. -/
  finds_plain : ∀ (name : Text) (line : PlainLine),
    finds name line.text = true ↔ ∃ n ∈ line.allNames, fold n = fold name

/-- `ssh-keygen -F`: is there an entry of the name? -/
def SshKeygen.find (keygen : SshKeygen) (text name : Text) : Bool :=
  (lines '\n' text).any (keygen.finds name)

/-- `_host_key`. -/
def hostKey (host : String) (port : Nat) : Text :=
  if port ≠ 22 then ("[" ++ host ++ "]:" ++ toString port).toList else host.toList

/-- What the presence test meets. -/
structure Surroundings where
  /-- The text of the file, where there is one. -/
  file : Option Text
  /-- `shutil.which("ssh-keygen")`. -/
  hasKeygen : Bool
  /-- It times out, or cannot be started. -/
  keygenFails : Bool
  /-- `read_text` raises `OSError`. -/
  readFails : Bool

/-- The exceptions of the presence test. -/
inductive TestFailure where
  /-- `ValueError`: an argument of a program has a NUL in it. -/
  | embeddedNull
  deriving DecidableEq

/-- `key in text`. -/
def occurs (name text : Text) : Bool := decide (name <:+: text)

/-- `_is_present`. -/
def isPresent (keygen : SshKeygen) (w : Surroundings) (host : String) (port : Nat) :
    Except TestFailure Bool :=
  match w.file with
  | none => .ok false
  | some text =>
      let name := hostKey host port
      if w.hasKeygen ∧ Char.ofNat 0 ∈ name then .error .embeddedNull
      else if w.hasKeygen ∧ ¬w.keygenFails then .ok (keygen.find text name)
      else if w.readFails then .ok false
      else .ok (occurs name text)

/-- **The presence test is exact**: with `ssh-keygen` and without it the answer is whether a line
lists the host, and a key is not taken for present, whatever fails, when no line lists it. -/
structure PresenceExact (keygen : SshKeygen) (file : List PlainLine) (text : Text) (host : String)
    (port : Nat) : Prop where
  answers : ∀ hasKeygen keygenFails,
    isPresent keygen ⟨some text, hasKeygen, keygenFails, false⟩ host port =
      .ok (decide (Listed file (hostKey host port)))
  fetches : ∀ w, w.file = some text → isPresent keygen w host port = .ok true →
    Listed file (hostKey host port)

/-- Where it is. -/
structure Unmistakable (keygen : SshKeygen) (file : List PlainLine) (text name : Text) : Prop where
  nonempty : name ≠ []
  noNul : Char.ofNat 0 ∉ name
  /-- A name that `ssh-keygen` takes for the same is not alone. -/
  sameName : (∃ line ∈ file, ∃ n ∈ line.allNames, keygen.fold n = keygen.fold name) →
    Listed file name
  /-- A name, key type or key with the searched name as a part is not alone. -/
  noPart : (∃ line ∈ file, ∃ field ∈ line.fields, name <:+: field) → Listed file name
  /-- A host with a separator in its name is not read across several fields. -/
  notAcross : (' ' ∈ name ∨ ',' ∈ name ∨ '\n' ∈ name) → occurs name text = false

/-! ## The text of a line -/

theorem IsField.notMem {field : Text} (h : IsField field) {c : Char} (hc : c ∈ blanks) :
    c ∉ field := fun hmem => h.2 c hmem hc

namespace PlainLine

variable (line : PlainLine)

theorem isName_of_mem {n : Text} (h : n ∈ line.allNames) : IsName n := by
  rcases List.mem_cons.mp h with rfl | h
  · exact line.name_ok
  · exact line.names_ok n h

theorem isField_of_mem {field : Text} (h : field ∈ line.fields) : IsField field := by
  rcases List.mem_append.mp h with h | h
  · exact (line.isName_of_mem h).1
  · simp only [List.mem_cons, List.not_mem_nil, or_false] at h
    rcases h with rfl | rfl
    · exact line.keyType_ok
    · exact line.key_ok

/-- What is in the text of a line is a separator, or in a field. -/
theorem mem_text {c : Char} (h : c ∈ line.text) :
    c = ' ' ∨ c = ',' ∨ ∃ field ∈ line.fields, c ∈ field := by
  simp only [text, namesText, List.mem_append, List.mem_cons, List.mem_flatMap] at h
  rcases h with (h | ⟨n, hn, h | h⟩) | h | h | h | h
  · exact Or.inr (Or.inr ⟨line.name, by simp [fields, allNames], h⟩)
  · exact Or.inr (Or.inl h)
  · exact Or.inr (Or.inr ⟨n, by simp [fields, allNames, hn], h⟩)
  · exact Or.inl h
  · exact Or.inr (Or.inr ⟨line.keyType, by simp [fields], h⟩)
  · exact Or.inl h
  · exact Or.inr (Or.inr ⟨line.key, by simp [fields], h⟩)

theorem lineFeed_notMem_text : '\n' ∉ line.text := by
  intro h
  rcases line.mem_text h with h | h | ⟨field, hfield, h⟩
  · exact absurd h (by decide)
  · exact absurd h (by decide)
  · exact (line.isField_of_mem hfield).notMem (by decide) h

theorem text_ne_nil : line.text ≠ [] := by
  simp [text]

/-- A phrase without comma is in a list of names exactly when it is in a name. -/
theorem infix_names_iff {w : Text} (hcomma : ',' ∉ w) (hne : w ≠ []) (name : Text)
    (names : List Text) :
    w <:+: name ++ names.flatMap (fun n => ',' :: n) ↔ ∃ n ∈ name :: names, w <:+: n := by
  induction names generalizing name with
  | nil => simp
  | cons n names ih =>
      rw [List.flatMap_cons, List.cons_append, infix_append_cons_iff hcomma hne, ih n]
      simp

/-- **A phrase without separators is in a line exactly when it is in a field of it.** -/
theorem infix_text_iff {w : Text} (hblank : ' ' ∉ w) (hcomma : ',' ∉ w) (hne : w ≠ []) :
    w <:+: line.text ↔ ∃ field ∈ line.fields, w <:+: field := by
  rw [text, infix_append_cons_iff hblank hne, infix_append_cons_iff hblank hne, namesText,
    infix_names_iff hcomma hne]
  simp only [fields, allNames, List.mem_append, List.mem_cons, List.not_mem_nil, or_false]
  constructor
  · rintro (⟨n, hn, hin⟩ | hin | hin)
    · exact ⟨n, Or.inl hn, hin⟩
    · exact ⟨_, Or.inr (Or.inl rfl), hin⟩
    · exact ⟨_, Or.inr (Or.inr rfl), hin⟩
  · rintro ⟨field, hfield | rfl | rfl, hin⟩
    · exact Or.inl ⟨field, hfield, hin⟩
    · exact Or.inr (Or.inl hin)
    · exact Or.inr (Or.inr hin)

/-- A field is a part of its line. -/
theorem field_infix_text {field : Text} (h : field ∈ line.fields) : field <:+: line.text := by
  have hok := line.isField_of_mem h
  by_cases hcomma : ',' ∈ field
  · -- only the key type and the key may have commas
    rcases List.mem_append.mp h with hname | hrest
    · exact absurd hcomma (line.isName_of_mem hname).2.1
    · simp only [List.mem_cons, List.not_mem_nil, or_false] at hrest
      rw [text, infix_append_cons_iff (hok.notMem (by decide)) hok.1,
        infix_append_cons_iff (hok.notMem (by decide)) hok.1]
      rcases hrest with rfl | rfl
      · exact Or.inr (Or.inl (List.infix_refl _))
      · exact Or.inr (Or.inr (List.infix_refl _))
  · rw [line.infix_text_iff (hok.notMem (by decide)) hcomma hok.1]
    exact ⟨field, h, List.infix_refl field⟩

end PlainLine

/-! ## The text of a file -/

/-- **The lines of the text are the lines of the file**, also where the last one lacks its line
feed. -/
theorem lines_render (file : List PlainLine) (terminated : Bool) :
    lines '\n' (render file terminated) = file.map PlainLine.text := by
  have hfree : ∀ line ∈ file.map PlainLine.text, '\n' ∉ line := by
    intro text htext
    rcases List.mem_map.mp htext with ⟨line, _, rfl⟩
    exact line.lineFeed_notMem_text
  unfold render
  cases terminated with
  | true => exact lines_unlines hfree
  | false =>
      simp only [Bool.false_eq_true, if_false]
      induction file using List.reverseRecOn with
      | nil => rfl
      | append_singleton file last _ =>
          have hlast : unlines '\n' ((file ++ [last]).map PlainLine.text) =
              (unlines '\n' (file.map PlainLine.text) ++ last.text) ++ ['\n'] := by
            simp [unlines]
          rw [hlast, List.dropLast_concat, lines_append (terminated_unlines _),
            lines_of_notMem last.lineFeed_notMem_text last.text_ne_nil, lines_unlines,
            List.map_append]
          · rfl
          · intro text htext
            exact hfree text (by simp only [List.map_append]; exact List.mem_append_left _ htext)

variable {keygen : SshKeygen} {file : List PlainLine} {terminated : Bool} {name : Text}

theorem find_render :
    keygen.find (render file terminated) name = true ↔
      ∃ line ∈ file, ∃ n ∈ line.allNames, keygen.fold n = keygen.fold name := by
  rw [SshKeygen.find, lines_render, List.any_eq_true]
  constructor
  · rintro ⟨text, htext, hfinds⟩
    rcases List.mem_map.mp htext with ⟨line, hline, rfl⟩
    exact ⟨line, hline, (keygen.finds_plain name line).mp hfinds⟩
  · rintro ⟨line, hline, hnames⟩
    exact ⟨line.text, List.mem_map_of_mem hline, (keygen.finds_plain name line).mpr hnames⟩

/-- A part of a field is found in the text. -/
theorem occurs_of_part {line : PlainLine} {field : Text} (hline : line ∈ file)
    (hfield : field ∈ line.fields) (hpart : name <:+: field) :
    occurs name (render file terminated) = true := by
  have hmem : line.text ∈ lines '\n' (render file terminated) := by
    rw [lines_render]
    exact List.mem_map_of_mem hline
  have hin := (line.field_infix_text hfield).trans (infix_of_mem_lines hmem)
  exact decide_eq_true (hpart.trans hin)

/-- **What a name without separators is found in.** -/
theorem occurs_iff (hblank : ' ' ∉ name) (hcomma : ',' ∉ name) (hfeed : '\n' ∉ name)
    (hne : name ≠ []) :
    occurs name (render file terminated) = true ↔
      ∃ line ∈ file, ∃ field ∈ line.fields, name <:+: field := by
  rw [occurs, decide_eq_true_eq, infix_iff_of_notMem hfeed hne, lines_render]
  constructor
  · rintro ⟨text, htext, hin⟩
    rcases List.mem_map.mp htext with ⟨line, hline, rfl⟩
    exact ⟨line, hline, (line.infix_text_iff hblank hcomma hne).mp hin⟩
  · rintro ⟨line, hline, hfields⟩
    exact ⟨line.text, List.mem_map_of_mem hline, (line.infix_text_iff hblank hcomma hne).mpr hfields⟩

/-- A listed name has no separators. -/
theorem isName_of_listed (h : Listed file name) : IsName name := by
  rcases h with ⟨line, _, hname⟩
  exact line.isName_of_mem hname

theorem occurs_of_listed (h : Listed file name) : occurs name (render file terminated) = true := by
  rcases h with ⟨line, hline, hname⟩
  exact occurs_of_part hline (List.mem_append_left _ hname) (List.infix_refl name)

/-! ## The result -/

/-- The search in the text finds the listed names. -/
theorem Unmistakable.occurs_iff_listed (h : Unmistakable keygen file (render file terminated) name) :
    occurs name (render file terminated) = true ↔ Listed file name := by
  constructor
  · intro hin
    by_cases hsep : ' ' ∈ name ∨ ',' ∈ name ∨ '\n' ∈ name
    · rw [h.notAcross hsep] at hin
      exact absurd hin (by simp)
    · rw [not_or, not_or] at hsep
      exact h.noPart ((occurs_iff hsep.1 hsep.2.1 hsep.2.2 h.nonempty).mp hin)
  · exact occurs_of_listed

/-- `ssh-keygen` finds the listed names. -/
theorem Unmistakable.find_iff_listed (h : Unmistakable keygen file (render file terminated) name) :
    keygen.find (render file terminated) name = true ↔ Listed file name := by
  rw [find_render]
  constructor
  · exact h.sameName
  · rintro ⟨line, hline, hname⟩
    exact ⟨line, hline, name, hname, rfl⟩

theorem eq_decide_of_iff {b : Bool} {P : Prop} [Decidable P] (h : b = true ↔ P) :
    b = decide P := by
  rw [Bool.eq_iff_iff, h, decide_eq_true_iff]

variable {host : String} {port : Nat}

/-- The condition is enough. -/
theorem exact_of_unmistakable
    (h : Unmistakable keygen file (render file terminated) (hostKey host port)) :
    PresenceExact keygen file (render file terminated) host port where
  answers := by
    intro hasKeygen keygenFails
    unfold isPresent
    simp only
    rw [if_neg fun hnul => h.noNul hnul.2]
    by_cases hasks : hasKeygen = true ∧ ¬keygenFails = true
    · rw [if_pos hasks, eq_decide_of_iff h.find_iff_listed]
    · rw [if_neg hasks, if_neg (by simp), eq_decide_of_iff h.occurs_iff_listed]
  fetches := by
    intro w hfile hpresent
    unfold isPresent at hpresent
    rw [hfile] at hpresent
    simp only at hpresent
    rw [if_neg fun hnul => h.noNul hnul.2] at hpresent
    by_cases hasks : w.hasKeygen = true ∧ ¬w.keygenFails = true
    · rw [if_pos hasks] at hpresent
      exact h.find_iff_listed.mp (Except.ok.inj hpresent)
    · rw [if_neg hasks] at hpresent
      by_cases hread : w.readFails = true
      · rw [if_pos hread] at hpresent
        exact absurd (Except.ok.inj hpresent) (by simp)
      · rw [if_neg hread] at hpresent
        exact h.occurs_iff_listed.mp (Except.ok.inj hpresent)

/-- The condition is necessary. -/
theorem unmistakable_of_exact
    (h : PresenceExact keygen file (render file terminated) host port) :
    Unmistakable keygen file (render file terminated) (hostKey host port) := by
  have hsearch : occurs (hostKey host port) (render file terminated) =
      decide (Listed file (hostKey host port)) := by
    have hanswer := h.answers false false
    simpa [isPresent] using hanswer
  have hnul : Char.ofNat 0 ∉ hostKey host port := by
    intro hmem
    have hanswer := h.answers true false
    simp [isPresent, hmem] at hanswer
  have hfind : keygen.find (render file terminated) (hostKey host port) =
      decide (Listed file (hostKey host port)) := by
    have hanswer := h.answers true false
    simpa [isPresent, hnul] using hanswer
  refine ⟨?_, hnul, ?_, ?_, ?_⟩
  · intro hempty
    have hin : occurs (hostKey host port) (render file terminated) = true := by
      rw [hempty]
      exact decide_eq_true List.nil_infix
    rw [hsearch, decide_eq_true_eq] at hin
    exact (isName_of_listed hin).1.1 hempty
  · intro hsame
    have hfound : keygen.find (render file terminated) (hostKey host port) = true :=
      find_render.mpr hsame
    rw [hfind, decide_eq_true_eq] at hfound
    exact hfound
  · rintro ⟨line, hline, field, hfield, hpart⟩
    have hin : occurs (hostKey host port) (render file terminated) = true :=
      occurs_of_part hline hfield hpart
    rw [hsearch, decide_eq_true_eq] at hin
    exact hin
  · intro hsep
    rw [hsearch, decide_eq_false_iff_not]
    intro hlisted
    have hname := isName_of_listed hlisted
    rcases hsep with hsep | hsep | hsep
    · exact hname.1.notMem (by decide) hsep
    · exact hname.2.1 hsep
    · exact hname.1.notMem (by decide) hsep

/-- **When the presence test is exact.** -/
theorem presence_exact_iff (keygen : SshKeygen) (file : List PlainLine) (terminated : Bool)
    (host : String) (port : Nat) :
    PresenceExact keygen file (render file terminated) host port ↔
      Unmistakable keygen file (render file terminated) (hostKey host port) :=
  ⟨unmistakable_of_exact, exact_of_unmistakable⟩

/-! ## A program that finds names -/

/-- The names of a line, up to its first blank. -/
def namesOf (line : Text) : List Text := lines ',' (line.takeWhile (· ≠ ' '))

theorem lines_names {name : Text} {names : List Text} (hname : IsName name)
    (hnames : ∀ n ∈ names, IsName n) :
    lines ',' (name ++ names.flatMap fun n => ',' :: n) = name :: names := by
  induction names generalizing name with
  | nil => simpa using lines_of_notMem hname.2.1 hname.1.1
  | cons n names ih =>
      rw [List.flatMap_cons, List.cons_append, lines_line_append hname.2.1,
        ih (hnames n (List.mem_cons_self ..)) fun x hx => hnames x (List.mem_cons_of_mem n hx)]

theorem namesOf_text (line : PlainLine) : namesOf line.text = line.allNames := by
  have hfree : ∀ c ∈ line.namesText, decide (c ≠ ' ') = true := by
    intro c hc
    rw [decide_eq_true_eq]
    rintro rfl
    simp only [PlainLine.namesText, List.mem_append, List.mem_flatMap, List.mem_cons] at hc
    rcases hc with hc | ⟨n, hn, hc | hc⟩
    · exact line.name_ok.1.notMem (by decide) hc
    · exact absurd hc (by decide)
    · exact (line.names_ok n hn).1.notMem (by decide) hc
  rw [namesOf, PlainLine.text, List.takeWhile_append_of_pos hfree]
  have hstop : (' ' :: (line.keyType ++ ' ' :: line.key)).takeWhile (· ≠ ' ') = [] := by
    simp
  rw [hstop, List.append_nil]
  exact lines_names line.name_ok line.names_ok

/-- A program that compares names without regard to the case of ASCII letters. -/
def plainKeygen : SshKeygen where
  finds name line := (namesOf line).any fun n => n.map Char.toLower == name.map Char.toLower
  fold name := name.map Char.toLower
  finds_plain name line := by
    rw [namesOf_text, List.any_eq_true]
    simp only [beq_iff_eq]

theorem isField_of_all {field : Text} (hne : field ≠ [])
    (hall : (field.all fun c => !blanks.contains c) = true) : IsField field := by
  refine ⟨hne, ?_⟩
  intro c hc hblank
  have hfree := List.all_eq_true.mp hall c hc
  rw [List.contains_iff_mem.mpr hblank] at hfree
  exact absurd hfree (by decide)

/-- One line, for `example.com`. -/
def exampleLine : PlainLine where
  name := "example.com".toList
  names := []
  keyType := "ssh-ed25519".toList
  key := "AAAA".toList
  name_ok := by
    refine ⟨isField_of_all (by decide) (by decide), ?_, ?_, ?_, ?_⟩
    all_goals decide
  plain := by
    intro c hc
    have hfirst : 'e' = c := Option.some.inj hc
    rw [← hfirst]
    decide
  names_ok := by simp
  keyType_ok := isField_of_all (by decide) (by decide)
  key_ok := isField_of_all (by decide) (by decide)

/-- The host `example` is taken for present. -/
theorem not_presenceExact_example :
    ¬PresenceExact plainKeygen [exampleLine] (render [exampleLine] true) "example" 22 := by
  intro h
  have hlisted := (unmistakable_of_exact h).noPart
    ⟨exampleLine, List.mem_singleton_self _, "example.com".toList, by decide, by decide⟩
  exact absurd hlisted (by decide)

end KnownHosts
end NodeNexus
