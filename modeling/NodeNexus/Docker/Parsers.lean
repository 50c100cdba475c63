import Mathlib.Data.List.Induction
import NodeNexus.Lib.JsonEscapes

/-!
# Docker listings

`docker ps`, `docker images` and the like print one JSON object per line; `parse_json_lines`
reads them.

* `parseJsonLines` — the parser: the output is stripped and split by `str.splitlines`, and
  lines that are no JSON object are skipped.
* `LineEncoder` — a printer of objects that escapes only what JSON demands.
* `listing_complete_iff` — the printed objects are read back unless a key or a value has one of
  the three line boundaries that the printer leaves alone.
-/

namespace NodeNexus
namespace Docker

/-! ## Lines -/

/-- `str.isspace`, for one character. -/
def isSpace (c : Char) : Bool :=
  let n := c.toNat
  (0x09 ≤ n && n ≤ 0x0d) || (0x1c ≤ n && n ≤ 0x20) || n = 0x85 || n = 0xa0 || n = 0x1680 ||
    (0x2000 ≤ n && n ≤ 0x200a) || n = 0x2028 || n = 0x2029 || n = 0x202f || n = 0x205f ||
    n = 0x3000

/-- `str.strip`. -/
def strip (cs : List Char) : List Char :=
  ((cs.dropWhile isSpace).reverse.dropWhile isSpace).reverse

/-- The line boundaries above the control characters: NEL, LINE SEPARATOR and PARAGRAPH
SEPARATOR. -/
def isSeparator (c : Char) : Bool :=
  c.toNat = 0x85 || c.toNat = 0x2028 || c.toNat = 0x2029

/-- The line boundaries of `str.splitlines`. -/
def isBoundary (c : Char) : Bool :=
  (0x0a ≤ c.toNat && c.toNat ≤ 0x0d) || (0x1c ≤ c.toNat && c.toNat ≤ 0x1e) || isSeparator c

/-- `str.splitlines`, with the characters of the current line. -/
def splitFrom (line : List Char) : List Char → List (List Char)
  | [] => if line = [] then [] else [line]
  | '\r' :: '\n' :: cs => line :: splitFrom [] cs
  | c :: cs => if isBoundary c then line :: splitFrom [] cs else splitFrom (line ++ [c]) cs

/-- `str.splitlines`. -/
def splitlines (cs : List Char) : List (List Char) := splitFrom [] cs

/-! ## The parser -/

section Parser

variable (float : String → String)

/-- One line: the object on it, if it is one.  The exceptions of `json.loads` that are no
`JSONDecodeError`, for very deep nesting and very long integers, are not told apart. -/
def parseLine (raw : List Char) : Option Json.Fields :=
  match strip raw with
  | [] => none
  | c :: cs =>
      if c = '\x7b' then
        match Json.loads float (String.ofList (c :: cs)) with
        | some (.dict fields) => some fields
        | _ => none
      else none

/-- `parse_json_lines`. -/
def parseJsonLines (stdout : String) : List Json.Fields :=
  (splitlines (strip stdout.toList)).filterMap (parseLine float)

/-- `json_string`. -/
def jsonString (item : Json.Fields) (key : String) : String :=
  match Json.get item key with
  | some (.str value) => value
  | _ => ""

/-- `json_optional_string`. -/
def jsonOptionalString (item : Json.Fields) (key : String) : Option String :=
  match Json.get item key with
  | some (.str value) => some value
  | _ => none

/-! ### Listings -/

/-- `DockerContainerDTO`. -/
structure DockerContainerDTO where
  id : String
  names : String
  image : String
  command : String
  createdAt : String
  state : String
  status : String
  ports : Option String
  networks : Option String

/-- `DockerImageDTO`. -/
structure DockerImageDTO where
  repository : String
  tag : String
  id : String
  size : String
  createdAt : String

/-- `DockerNetworkDTO`. -/
structure DockerNetworkDTO where
  id : String
  name : String
  driver : String
  scope : String

/-- `DockerVolumeDTO`. -/
structure DockerVolumeDTO where
  driver : String
  name : String

/-- `list_containers`, from the output of the command. -/
def listContainers (stdout : String) : List DockerContainerDTO :=
  (parseJsonLines float stdout).map fun item =>
    { id := jsonString item "ID"
      names := jsonString item "Names"
      image := jsonString item "Image"
      command := jsonString item "Command"
      createdAt := jsonString item "CreatedAt"
      state := jsonString item "State"
      status := jsonString item "Status"
      ports := jsonOptionalString item "Ports"
      networks := jsonOptionalString item "Networks" }

/-- `list_images`, from the output of the command. -/
def listImages (stdout : String) : List DockerImageDTO :=
  (parseJsonLines float stdout).map fun item =>
    { repository := jsonString item "Repository"
      tag := jsonString item "Tag"
      id := jsonString item "ID"
      size := jsonString item "Size"
      createdAt := jsonString item "CreatedAt" }

/-- `list_networks`, from the output of the command. -/
def listNetworks (stdout : String) : List DockerNetworkDTO :=
  (parseJsonLines float stdout).map fun item =>
    { id := jsonString item "ID"
      name := jsonString item "Name"
      driver := jsonString item "Driver"
      scope := jsonString item "Scope" }

/-- `list_volumes`, from the output of the command. -/
def listVolumes (stdout : String) : List DockerVolumeDTO :=
  (parseJsonLines float stdout).map fun item =>
    { driver := jsonString item "Driver"
      name := jsonString item "Name" }

end Parser

/-! ## The printer -/

/-- The characters that must be escaped: quotation mark, backslash, control characters. -/
def mustEscape (c : Char) : Bool :=
  c = '"' || c = '\\' || c.toNat < 0x20

/-- How a printer writes the characters that it must escape. -/
structure LineEncoder where
  /-- What it puts behind the backslash. -/
  escape : Char → List Char
  /-- It stands for the character. -/
  reads : ∀ c, mustEscape c = true → ∀ rest, Json.scanEscape (escape c ++ rest) = some (c, rest)
  /-- It is printable ASCII. -/
  printable : ∀ c, mustEscape c = true → ∀ d ∈ escape c, 0x20 < d.toNat ∧ d.toNat < 0x7f

/-- An object with string values, with different keys. -/
structure StringObject where
  entries : List (String × String)
  nodup : (entries.map (·.1)).Nodup

/-- The object as a dictionary. -/
def StringObject.fields (o : StringObject) : Json.Fields :=
  o.entries.map fun e => (e.1, .str e.2)

namespace LineEncoder

variable (enc : LineEncoder)

/-- One character of a string literal. -/
def encodeChar (c : Char) : List Char :=
  if mustEscape c then '\\' :: enc.escape c else [c]

/-- A string literal. -/
def encodeString (s : String) : List Char :=
  '"' :: (s.toList.flatMap enc.encodeChar ++ ['"'])

/-- The entries of an object, separated by commas. -/
def encodeEntries : List (String × String) → List Char
  | [] => []
  | [e] => enc.encodeString e.1 ++ ':' :: enc.encodeString e.2
  | e :: f :: es =>
      enc.encodeString e.1 ++ ':' :: (enc.encodeString e.2 ++ ',' :: encodeEntries (f :: es))

/-- An object. -/
def encodeObject (o : StringObject) : List Char :=
  '\x7b' :: (enc.encodeEntries o.entries ++ ['\x7d'])

/-- Objects, one per line, each line ended by a line feed. -/
def encodeLines (objects : List StringObject) : List Char :=
  objects.flatMap fun o => enc.encodeObject o ++ ['\n']

end LineEncoder

/-- No key and no value has a separator. -/
def StringObject.Unbroken (o : StringObject) : Prop :=
  ∀ e ∈ o.entries, (∀ c ∈ e.1.toList, isSeparator c = false) ∧
    ∀ c ∈ e.2.toList, isSeparator c = false

/-- A listing is read back: the objects in their order, and in each of the four listings one
entry per line. -/
def ListingComplete (float : String → String) (enc : LineEncoder)
    (objects : List StringObject) : Prop :=
  let stdout := String.ofList (enc.encodeLines objects)
  parseJsonLines float stdout = objects.map (·.fields) ∧
    (listContainers float stdout).length = objects.length ∧
    (listImages float stdout).length = objects.length ∧
    (listNetworks float stdout).length = objects.length ∧
    (listVolumes float stdout).length = objects.length

/-! ## Lines of a text -/

theorem splitFrom_cons {c : Char} (h : isBoundary c = false) (line cs : List Char) :
    splitFrom line (c :: cs) = splitFrom (line ++ [c]) cs := by
  have hne : c ≠ '\r' := by
    rintro rfl
    revert h
    decide
  rw [splitFrom]
  · rw [if_neg (by simp [h])]
  · intro cs' hc _
    exact hne hc

/-- A boundary ends the line. -/
theorem splitFrom_boundary {c : Char} (h : isBoundary c = true) (hne : c ≠ '\r')
    (line cs : List Char) : splitFrom line (c :: cs) = line :: splitFrom [] cs := by
  rw [splitFrom]
  · rw [if_pos h]
  · intro cs' hc _
    exact hne hc

/-- Characters that are no boundaries belong to the line. -/
theorem splitFrom_append {text : List Char} (h : ∀ c ∈ text, isBoundary c = false)
    (line cs : List Char) : splitFrom line (text ++ cs) = splitFrom (line ++ text) cs := by
  induction text generalizing line with
  | nil => simp
  | cons c text ih =>
      obtain ⟨hc, htext⟩ := List.forall_mem_cons.1 h
      rw [List.cons_append, splitFrom_cons hc, ih htext, List.append_assoc,
        List.singleton_append]

/-- Lines without boundaries, each followed by a line feed, and a last one. -/
theorem splitlines_lines {lines : List (List Char)} {last : List Char}
    (hlines : ∀ line ∈ lines, ∀ c ∈ line, isBoundary c = false)
    (hlast : ∀ c ∈ last, isBoundary c = false) (hne : last ≠ []) :
    splitlines (lines.flatMap (fun line => line ++ ['\n']) ++ last) = lines ++ [last] := by
  unfold splitlines
  induction lines with
  | nil =>
      have h := splitFrom_append hlast [] []
      rw [List.append_nil, List.nil_append] at h
      rw [List.flatMap_nil, List.nil_append, h, splitFrom, if_neg hne]
      rfl
  | cons line lines ih =>
      obtain ⟨hline, hrest⟩ := List.forall_mem_cons.1 hlines
      have htext : (line :: lines).flatMap (fun line => line ++ ['\n']) ++ last =
          line ++ '\n' :: (lines.flatMap (fun line => line ++ ['\n']) ++ last) := by simp
      rw [htext, splitFrom_append hline, List.nil_append,
        splitFrom_boundary (by decide) (by decide), ih hrest]
      rfl

/-- Stripping drops a line feed at the end of a text that begins and ends with other
characters than blanks. -/
theorem strip_eq {first last : Char} {middle : List Char} (hfirst : isSpace first = false)
    (hlast : isSpace last = false) (blanks : List Char) (hblanks : ∀ c ∈ blanks, isSpace c = true) :
    strip (first :: (middle ++ last :: blanks)) = first :: (middle ++ [last]) := by
  have hdrop : ∀ rest : List Char, (blanks.reverse ++ rest).dropWhile isSpace =
      rest.dropWhile isSpace := by
    intro rest
    exact List.dropWhile_append_of_pos (fun c hc => hblanks c (List.mem_reverse.1 hc))
  unfold strip
  rw [List.dropWhile_cons, hfirst]
  simp only [Bool.false_eq_true, if_false, List.reverse_cons, List.reverse_append,
    List.append_assoc, List.singleton_append]
  rw [hdrop, List.cons_append, List.dropWhile_cons, hlast]
  simp

/-! ## A printed object reads back -/

namespace LineEncoder

variable {enc : LineEncoder}

theorem encodeChar_of_mustEscape {c : Char} (h : mustEscape c = true) :
    enc.encodeChar c = '\\' :: enc.escape c := by
  rw [encodeChar, if_pos h]

theorem encodeChar_of_not {c : Char} (h : mustEscape c = false) : enc.encodeChar c = [c] := by
  rw [encodeChar, if_neg (by simp [h])]

/-- The characters that stand for themselves. -/
theorem not_mustEscape {c : Char} (h : mustEscape c = false) :
    c ≠ '"' ∧ c ≠ '\\' ∧ ¬ c.toNat < 0x20 := by
  simp only [mustEscape, Bool.or_eq_false_iff, decide_eq_false_iff_not] at h
  exact ⟨h.1.1, h.1.2, h.2⟩

/-- A printed string reads back. -/
theorem scanString_encode {n : Nat} {s : List Char} (h : s.length < n) (rest : List Char) :
    Json.scanString n (s.flatMap enc.encodeChar ++ '"' :: rest) = some (s, rest) := by
  induction s generalizing n with
  | nil =>
      obtain ⟨m, rfl⟩ : ∃ m, n = m + 1 := ⟨n - 1, by omega⟩
      rfl
  | cons c s ih =>
      rw [List.length_cons] at h
      obtain ⟨m, rfl⟩ : ∃ m, n = m + 1 := ⟨n - 1, by omega⟩
      have hmore := ih (n := m) (by omega)
      cases hc : mustEscape c with
      | true =>
          rw [List.flatMap_cons, encodeChar_of_mustEscape hc, List.append_assoc,
            List.cons_append, Json.scanString, if_neg (by decide), if_pos rfl, enc.reads c hc]
          change (Json.scanString m (s.flatMap enc.encodeChar ++ '"' :: rest)).bind _ = _
          rw [hmore]
          rfl
      | false =>
          obtain ⟨hquote, hslash, hcontrol⟩ := not_mustEscape hc
          rw [List.flatMap_cons, encodeChar_of_not hc, List.append_assoc,
            List.singleton_append, Json.scanString, if_neg hquote, if_neg hslash,
            if_neg hcontrol, hmore]
          rfl

theorem encodeChar_ne_nil (c : Char) : enc.encodeChar c ≠ [] := by
  cases hc : mustEscape c with
  | true =>
      rw [encodeChar_of_mustEscape hc]
      exact List.cons_ne_nil _ _
  | false =>
      rw [encodeChar_of_not hc]
      exact List.cons_ne_nil _ _

/-- The scanner gets enough fuel for a printed string. -/
theorem scanString_encodeString (s : String) (rest : List Char) :
    Json.scanString ((s.toList.flatMap enc.encodeChar ++ '"' :: rest).length + 1)
      (s.toList.flatMap enc.encodeChar ++ '"' :: rest) = some (s.toList, rest) := by
  apply scanString_encode
  have hle : ∀ cs : List Char, cs.length ≤ (cs.flatMap enc.encodeChar).length := by
    intro cs
    induction cs with
    | nil => simp
    | cons c cs ih =>
        have hpos : 0 < (enc.encodeChar c).length :=
          List.length_pos_iff.2 (encodeChar_ne_nil c)
        rw [List.flatMap_cons, List.length_append, List.length_cons]
        omega
  have := hle s.toList
  rw [List.length_append, List.length_cons]
  omega

/-- A string literal is a value. -/
theorem scanValue_encodeString (float : String → String) (n : Nat) (s : String)
    (rest : List Char) :
    Json.scanValue float (n + 1) (enc.encodeString s ++ rest) = some (.str s, rest) := by
  have hscan := @scanString_encodeString enc s rest
  show Json.scanValue float (n + 1)
    ('"' :: ((s.toList.flatMap enc.encodeChar ++ ['"']) ++ rest)) = _
  rw [List.append_assoc]
  show (Json.scanString ((s.toList.flatMap enc.encodeChar ++ '"' :: rest).length + 1)
    (s.toList.flatMap enc.encodeChar ++ '"' :: rest)).bind _ = _
  rw [hscan]
  show some (Json.str (String.ofList s.toList), rest) = _
  rw [String.ofList_toList]

/-- An entry at the front: its key and its value are read. -/
theorem scanFields_entry (float : String → String) (n : Nat) (d : Json.Fields)
    (e : String × String) (rest : List Char) :
    Json.scanFields float (n + 2) d
        (enc.encodeString e.1 ++ ':' :: (enc.encodeString e.2 ++ rest)) =
      match Json.skipBlanks rest with
      | '\x7d' :: rest => some (Json.set d e.1 (.str e.2), rest)
      | ',' :: rest =>
          Json.scanFields float (n + 1) (Json.set d e.1 (.str e.2)) (Json.skipBlanks rest)
      | _ => none := by
  have hkey := @scanString_encodeString enc e.1
    (':' :: (enc.encodeString e.2 ++ rest))
  have hvalue := @scanValue_encodeString enc float n e.2 rest
  have hskip : Json.skipBlanks (enc.encodeString e.2 ++ rest) = enc.encodeString e.2 ++ rest :=
    Json.skipBlanks_cons (by decide) _
  show Json.scanFields float (n + 2) d ('"' :: ((e.1.toList.flatMap enc.encodeChar ++ ['"']) ++
    ':' :: (enc.encodeString e.2 ++ rest))) = _
  rw [List.append_assoc]
  show (Json.scanString ((e.1.toList.flatMap enc.encodeChar ++
      '"' :: ':' :: (enc.encodeString e.2 ++ rest)).length + 1)
    (e.1.toList.flatMap enc.encodeChar ++
      '"' :: ':' :: (enc.encodeString e.2 ++ rest))).bind _ = _
  rw [hkey]
  show (Json.scanValue float (n + 1) (Json.skipBlanks (enc.encodeString e.2 ++ rest))).bind _ = _
  rw [hskip, hvalue]
  show (match Json.skipBlanks rest with
    | '\x7d' :: rest => some (Json.set d (String.ofList e.1.toList) (.str e.2), rest)
    | ',' :: rest => Json.scanFields float (n + 1)
        (Json.set d (String.ofList e.1.toList) (.str e.2)) (Json.skipBlanks rest)
    | _ => none) = _
  rw [String.ofList_toList]

theorem encodeEntries_cons {e : String × String} {es : List (String × String)} (hes : es ≠ []) :
    enc.encodeEntries (e :: es) =
      enc.encodeString e.1 ++ ':' :: (enc.encodeString e.2 ++ ',' :: enc.encodeEntries es) := by
  cases es with
  | nil => exact absurd rfl hes
  | cons f fs => rfl

theorem encodeEntries_head {es : List (String × String)} (hes : es ≠ []) :
    ∃ cs, enc.encodeEntries es = '"' :: cs := by
  cases es with
  | nil => exact absurd rfl hes
  | cons e es =>
      cases es with
      | nil => exact ⟨_, rfl⟩
      | cons f fs => exact ⟨_, rfl⟩

/-- Printed entries read back. -/
theorem scanFields_encode (float : String → String) {es : List (String × String)} (hes : es ≠ [])
    (hnodup : (es.map (·.1)).Nodup) {d : Json.Fields} {n : Nat}
    (hfresh : ∀ e ∈ es, Json.get d e.1 = none) (hn : es.length < n) (rest : List Char) :
    Json.scanFields float n d (enc.encodeEntries es ++ '\x7d' :: rest) =
      some (d ++ es.map fun e => (e.1, .str e.2), rest) := by
  induction es generalizing d n with
  | nil => exact absurd rfl hes
  | cons e es ih =>
      rw [List.length_cons] at hn
      obtain ⟨m, rfl⟩ : ∃ m, n = m + 2 := ⟨n - 2, by omega⟩
      rw [List.map_cons, List.nodup_cons] at hnodup
      have hset := Json.set_of_get_none (hfresh e (List.mem_cons_self ..)) (.str e.2)
      by_cases hnil : es = []
      · subst hnil
        have hentry := @scanFields_entry enc float m d e ('\x7d' :: rest)
        show Json.scanFields float (m + 2) d ((enc.encodeString e.1 ++
          ':' :: enc.encodeString e.2) ++ '\x7d' :: rest) = _
        rw [List.append_assoc, List.cons_append, hentry]
        show some (Json.set d e.1 (.str e.2), rest) = _
        rw [hset]
        rfl
      · have htail := ih hnil hnodup.2 (d := Json.set d e.1 (.str e.2)) (n := m + 1)
          (by
            intro f hf
            rw [hset]
            refine Json.get_append_none (hfresh f (List.mem_cons_of_mem _ hf)) ?_
            intro heq
            exact hnodup.1 (heq ▸ List.mem_map.2 ⟨f, hf, rfl⟩)) (by omega)
        obtain ⟨cs, hcs⟩ := @encodeEntries_head enc _ hnil
        have htext : enc.encodeEntries (e :: es) ++ '\x7d' :: rest = enc.encodeString e.1 ++
            ':' :: (enc.encodeString e.2 ++ ',' :: (enc.encodeEntries es ++ '\x7d' :: rest)) := by
          rw [encodeEntries_cons hnil]
          simp
        have hskip : Json.skipBlanks (enc.encodeEntries es ++ '\x7d' :: rest) =
            enc.encodeEntries es ++ '\x7d' :: rest := by
          rw [hcs]
          exact Json.skipBlanks_cons (by decide) _
        rw [htext, scanFields_entry]
        show Json.scanFields float (m + 1) (Json.set d e.1 (.str e.2))
          (Json.skipBlanks (enc.encodeEntries es ++ '\x7d' :: rest)) = _
        rw [hskip, htail, hset]
        simp

/-- The fuel suffices for the entries. -/
theorem length_le_encodeEntries (es : List (String × String)) :
    es.length ≤ (enc.encodeEntries es).length := by
  induction es with
  | nil => simp
  | cons e es ih =>
      by_cases hnil : es = []
      · subst hnil
        simp only [encodeEntries, List.length_append, List.length_cons, List.length_nil]
        omega
      · rw [encodeEntries_cons hnil]
        simp only [List.length_append, List.length_cons]
        omega

/-- **A printed object reads back.** -/
theorem loads_encodeObject (float : String → String) (o : StringObject) :
    Json.loads float (String.ofList (enc.encodeObject o)) = some (.dict o.fields) := by
  unfold Json.loads
  rw [String.toList_ofList]
  have hskip : Json.skipBlanks (enc.encodeObject o) = enc.encodeObject o :=
    Json.skipBlanks_cons (by decide) _
  dsimp only
  rw [hskip]
  have hvalue : Json.scanValue float ((enc.encodeObject o).length + 1) (enc.encodeObject o) =
      some (.dict o.fields, []) := by
    by_cases hnil : o.entries = []
    · have hfields : o.fields = [] := by simp [StringObject.fields, hnil]
      rw [encodeObject, hnil, hfields]
      rfl
    · have hlength := @length_le_encodeEntries enc o.entries
      have hfuel : o.entries.length < (enc.encodeObject o).length := by
        simp only [encodeObject, List.length_cons, List.length_append]
        omega
      have hentries := @scanFields_encode enc float _ hnil o.nodup [] _ (fun _ _ => rfl) hfuel []
      obtain ⟨cs, hcs⟩ := @encodeEntries_head enc _ hnil
      rw [List.nil_append, hcs] at hentries
      show Json.scanValue float ((enc.encodeObject o).length + 1)
        ('\x7b' :: (enc.encodeEntries o.entries ++ ['\x7d'])) = _
      rw [hcs]
      show (Json.scanFields float (enc.encodeObject o).length [] ('"' :: cs ++ ['\x7d'])).bind _ = _
      rw [hentries]
      rfl
  rw [hvalue]
  rfl

/-! ## What is printed -/

/-- A text of printed characters: escapes, and other characters that meet `ok`. -/
inductive Printed (enc : LineEncoder) (ok : Char → Prop) : List Char → Prop where
  | nil : Printed enc ok []
  | char {c : Char} {cs : List Char} (hc : c ≠ '\\') (hok : ok c) (hcs : Printed enc ok cs) :
      Printed enc ok (c :: cs)
  | escape {c : Char} {cs : List Char} (hc : mustEscape c = true) (hcs : Printed enc ok cs) :
      Printed enc ok ('\\' :: (enc.escape c ++ cs))

variable {ok : Char → Prop}

theorem Printed.append {cs ds : List Char} (hcs : Printed enc ok cs) (hds : Printed enc ok ds) :
    Printed enc ok (cs ++ ds) := by
  induction hcs with
  | nil => exact hds
  | char hc hok _ ih => exact .char hc hok ih
  | escape hc _ ih =>
      rw [List.cons_append, List.append_assoc]
      exact .escape hc ih

theorem Printed.flatMap {α : Type} {f : α → List Char} {xs : List α}
    (h : ∀ x ∈ xs, Printed enc ok (f x)) : Printed enc ok (xs.flatMap f) := by
  induction xs with
  | nil => exact .nil
  | cons x xs ih =>
      rw [List.flatMap_cons]
      exact (h x (List.mem_cons_self ..)).append
        (ih fun y hy => h y (List.mem_cons_of_mem _ hy))

/-- A character that is escaped or meets `ok`. -/
theorem printed_encodeChar {c : Char} (h : mustEscape c = false → ok c) :
    Printed enc ok (enc.encodeChar c) := by
  cases hc : mustEscape c with
  | true =>
      rw [encodeChar_of_mustEscape hc, ← List.append_nil (enc.escape c)]
      exact .escape hc .nil
  | false =>
      rw [encodeChar_of_not hc]
      exact .char (not_mustEscape hc).2.1 (h hc) .nil

/-- A string literal, between quotes that meet `ok`. -/
theorem printed_encodeString {s : String} (hquote : ok '"')
    (h : ∀ c ∈ s.toList, mustEscape c = false → ok c) : Printed enc ok (enc.encodeString s) :=
  .char (by decide) hquote
    ((Printed.flatMap fun c hc => printed_encodeChar (h c hc)).append
      (.char (by decide) hquote .nil))

/-- Characters that the printer itself puts between strings. -/
def punctuation : List Char := ['"', ':', ',', '\x7b', '\x7d']

theorem printed_encodeEntries (hpunct : ∀ c ∈ punctuation, ok c) {es : List (String × String)}
    (h : ∀ e ∈ es, (∀ c ∈ e.1.toList, mustEscape c = false → ok c) ∧
      ∀ c ∈ e.2.toList, mustEscape c = false → ok c) :
    Printed enc ok (enc.encodeEntries es) := by
  have hquote : ok '"' := hpunct _ (by decide)
  have hcolon : ok ':' := hpunct _ (by decide)
  have hcomma : ok ',' := hpunct _ (by decide)
  induction es with
  | nil => exact .nil
  | cons e es ih =>
      obtain ⟨⟨hkey, hvalue⟩, hes⟩ := List.forall_mem_cons.1 h
      have hk : Printed enc ok (enc.encodeString e.1) := printed_encodeString hquote hkey
      have hv : Printed enc ok (enc.encodeString e.2) := printed_encodeString hquote hvalue
      by_cases hnil : es = []
      · subst hnil
        exact hk.append (.char (by decide) hcolon hv)
      · rw [encodeEntries_cons hnil]
        exact hk.append (.char (by decide) hcolon (hv.append (.char (by decide) hcomma (ih hes))))

theorem printed_encodeObject (hpunct : ∀ c ∈ punctuation, ok c) {o : StringObject}
    (h : ∀ e ∈ o.entries, (∀ c ∈ e.1.toList, mustEscape c = false → ok c) ∧
      ∀ c ∈ e.2.toList, mustEscape c = false → ok c) :
    Printed enc ok (enc.encodeObject o) :=
  .char (by decide) (hpunct _ (by decide))
    ((printed_encodeEntries hpunct h).append (.char (by decide) (hpunct _ (by decide)) .nil))

/-- Printable ASCII characters are neither blanks nor boundaries. -/
theorem printable_plain {c : Char} (h : 0x20 < c.toNat ∧ c.toNat < 0x7f) :
    isSpace c = false ∧ isBoundary c = false := by
  have hspace : isSpace c = false := by
    simp only [isSpace, Bool.or_eq_false_iff, Bool.and_eq_false_iff, decide_eq_false_iff_not]
    omega
  have hboundary : isBoundary c = false := by
    simp only [isBoundary, isSeparator, Bool.or_eq_false_iff, Bool.and_eq_false_iff,
      decide_eq_false_iff_not]
    omega
  exact ⟨hspace, hboundary⟩

theorem Printed.mono {ok' : Char → Prop} (hok : ∀ c, ok c → ok' c) {cs : List Char}
    (h : Printed enc ok cs) : Printed enc ok' cs := by
  induction h with
  | nil => exact .nil
  | char hc hc' _ ih => exact .char hc (hok _ hc') ih
  | escape hc _ ih => exact .escape hc ih

/-- All characters of a printed text meet `ok` or are printable. -/
theorem Printed.mem {cs : List Char} (h : Printed enc ok cs) :
    ∀ c ∈ cs, ok c ∨ (0x20 < c.toNat ∧ c.toNat < 0x7f) := by
  induction h with
  | nil => simp
  | char _ hok _ ih =>
      intro d hd
      rcases List.mem_cons.1 hd with rfl | hd
      · exact Or.inl hok
      · exact ih d hd
  | escape hc _ ih =>
      intro d hd
      rcases List.mem_cons.1 hd with rfl | hd
      · exact Or.inr (by decide)
      · rcases List.mem_append.1 hd with hd | hd
        · exact Or.inr (enc.printable _ hc d hd)
        · exact ih d hd

/-- A printed text is clean. -/
theorem Printed.clean {cs : List Char} (h : Printed enc ok cs)
    (hesc : ∀ c, mustEscape c = true → ok c) : Json.Clean ok cs := by
  induction h with
  | nil => exact .nil
  | char hc hok _ ih => exact .char hc hok ih
  | escape hc _ ih => exact .escape (enc.reads _ hc) (hesc _ hc) ih

/-! ### Cutting a printed text -/

theorem Printed.dropWhile_space {cs : List Char} (h : Printed enc ok cs) :
    Printed enc ok (cs.dropWhile isSpace) := by
  induction h with
  | nil => exact .nil
  | @char c cs hc hok hcs ih =>
      rw [List.dropWhile_cons]
      split
      · exact ih
      · exact .char hc hok hcs
  | escape hc hcs _ =>
      rw [List.dropWhile_cons, if_neg (by decide)]
      exact .escape hc hcs

/-- No escape ends with a blank, so a blank at the end can be taken away. -/
theorem Printed.of_concat {cs : List Char} {c : Char} (hspace : isSpace c = true)
    (h : Printed enc ok (cs ++ [c])) : Printed enc ok cs := by
  generalize htext : cs ++ [c] = text at h
  induction h generalizing cs with
  | nil => simp at htext
  | @char d ds hd hok hds ih =>
      cases cs with
      | nil => exact .nil
      | cons e es =>
          obtain ⟨rfl, htail⟩ := List.cons.inj htext
          exact .char hd hok (ih htail)
  | @escape d ds hd hds ih =>
      cases ds using List.reverseRecOn with
      | nil =>
          have hlast : c ∈ '\\' :: enc.escape d := by
            have hmem : c ∈ cs ++ [c] := by simp
            rw [htext, List.append_nil] at hmem
            exact hmem
          rcases List.mem_cons.1 hlast with rfl | hmem
          · exact absurd hspace (by decide)
          · rw [(printable_plain (enc.printable d hd c hmem)).1] at hspace
            cases hspace
      | append_singleton ds f =>
          have hcut : cs ++ [c] = ('\\' :: (enc.escape d ++ ds)) ++ [f] := by
            rw [htext]
            simp
          obtain ⟨rfl, hf⟩ := List.append_inj' hcut rfl
          cases hf
          exact .escape hd (ih rfl)

theorem Printed.strip {cs : List Char} (h : Printed enc ok cs) : Printed enc ok (strip cs) := by
  have hback : ∀ ds : List Char, Printed enc ok ds →
      Printed enc ok (ds.reverse.dropWhile isSpace).reverse := by
    intro ds hds
    induction ds using List.reverseRecOn with
    | nil => exact hds
    | append_singleton ds c ih =>
        rw [List.reverse_append, List.reverse_singleton, List.singleton_append,
          List.dropWhile_cons]
        split
        · rename_i hspace
          exact ih (hds.of_concat hspace)
        · simpa using hds
  exact hback _ h.dropWhile_space

/-- The lines of a printed text without carriage returns are printed texts without
boundaries. -/
theorem Printed.splitFrom {cs line : List Char} (h : Printed enc (fun c => c ≠ '\r') cs)
    (hline : Printed enc (fun c => isBoundary c = false) line) :
    ∀ raw ∈ splitFrom line cs, Printed enc (fun c => isBoundary c = false) raw := by
  induction h generalizing line with
  | nil =>
      intro raw hraw
      rw [Docker.splitFrom] at hraw
      split at hraw
      · cases hraw
      · rw [List.mem_singleton.1 hraw]
        exact hline
  | @char c cs hc hok _ ih =>
      cases hboundary : isBoundary c with
      | true =>
          rw [splitFrom_boundary hboundary hok]
          intro raw hraw
          rcases List.mem_cons.1 hraw with rfl | hraw
          · exact hline
          · exact ih .nil raw hraw
      | false =>
          rw [splitFrom_cons hboundary]
          exact ih (hline.append (.char hc hboundary .nil))
  | @escape c cs hc _ ih =>
      have hplain : ∀ d ∈ '\\' :: enc.escape c, isBoundary d = false := by
        intro d hd
        rcases List.mem_cons.1 hd with rfl | hd
        · decide
        · exact (printable_plain (enc.printable c hc d hd)).2
      rw [← List.cons_append, splitFrom_append hplain]
      refine ih (hline.append ?_)
      rw [← List.append_nil (enc.escape c)]
      exact .escape hc .nil

/-! ### Listings of unbroken objects -/

/-- The listing is printed without carriage returns. -/
theorem printed_encodeLines (objects : List StringObject) :
    Printed enc (fun c => c ≠ '\r') (enc.encodeLines objects) := by
  refine Printed.flatMap fun o _ => ?_
  have hself : ∀ c : Char, mustEscape c = false → c ≠ '\r' := by
    rintro c hc rfl
    revert hc
    decide
  have hpunct : ∀ c ∈ punctuation, c ≠ '\r' := by simp [punctuation]
  exact (printed_encodeObject hpunct fun e _ =>
    ⟨fun c _ => hself c, fun c _ => hself c⟩).append (.char (by decide) (by decide) .nil)

/-- A printed object that is unbroken has no boundary. -/
theorem encodeObject_boundary {o : StringObject} (h : o.Unbroken) :
    ∀ c ∈ enc.encodeObject o, isBoundary c = false := by
  have hself : ∀ c : Char, isSeparator c = false → mustEscape c = false →
      isBoundary c = false := by
    intro c hc hescape
    have hcontrol := (not_mustEscape hescape).2.2
    rw [isBoundary, hc]
    simp only [Bool.or_false, Bool.or_eq_false_iff, Bool.and_eq_false_iff,
      decide_eq_false_iff_not]
    omega
  have hpunct : ∀ c ∈ punctuation, isBoundary c = false := by
    have hall : punctuation.all (fun c => !isBoundary c) = true := by decide
    intro c hc
    simpa using List.all_eq_true.1 hall c hc
  have hprinted : Printed enc (fun c => isBoundary c = false) (enc.encodeObject o) :=
    printed_encodeObject hpunct fun e he =>
      ⟨fun c hc => hself c ((h e he).1 c hc), fun c hc => hself c ((h e he).2 c hc)⟩
  intro c hc
  rcases hprinted.mem c hc with hok | hprintable
  · exact hok
  · exact (printable_plain hprintable).2

/-- Stripping a listing takes the last line feed away. -/
theorem strip_encodeLines (objects : List StringObject) (o : StringObject) :
    strip (enc.encodeLines (objects ++ [o])) =
      objects.flatMap (fun o => enc.encodeObject o ++ ['\n']) ++ enc.encodeObject o := by
  have hblank : ∀ c ∈ ['\n'], isSpace c = true := by
    intro c hc
    rw [List.mem_singleton.1 hc]
    decide
  cases objects with
  | nil =>
      have htext : enc.encodeLines ([] ++ [o]) =
          '\x7b' :: (enc.encodeEntries o.entries ++ '\x7d' :: ['\n']) := by
        simp [encodeLines, encodeObject]
      rw [htext, strip_eq (by decide) (by decide) _ hblank]
      rfl
  | cons p ps =>
      have htext : enc.encodeLines (p :: ps ++ [o]) = '\x7b' ::
          ((enc.encodeEntries p.entries ++ '\x7d' :: '\n' ::
            (ps.flatMap (fun o => enc.encodeObject o ++ ['\n']) ++
              '\x7b' :: enc.encodeEntries o.entries)) ++ '\x7d' :: ['\n']) := by
        simp [encodeLines, encodeObject]
      rw [htext, strip_eq (by decide) (by decide) _ hblank]
      simp [encodeObject]

/-- A printed object on a line of its own. -/
theorem parseLine_encodeObject (float : String → String) (o : StringObject) :
    parseLine float (enc.encodeObject o) = some o.fields := by
  have hstrip : strip (enc.encodeObject o) = enc.encodeObject o :=
    strip_eq (by decide) (by decide) [] (by simp)
  have hloads := @loads_encodeObject enc float o
  unfold parseLine
  rw [hstrip]
  show (match Json.loads float (String.ofList (enc.encodeObject o)) with
    | some (.dict fields) => some fields
    | _ => none) = some o.fields
  rw [hloads]

/-- **A listing of unbroken objects is read back.** -/
theorem parseJsonLines_encodeLines (float : String → String) {objects : List StringObject}
    (h : ∀ o ∈ objects, o.Unbroken) :
    parseJsonLines float (String.ofList (enc.encodeLines objects)) =
      objects.map (·.fields) := by
  unfold parseJsonLines
  rw [String.toList_ofList]
  cases objects using List.reverseRecOn with
  | nil => rfl
  | append_singleton objects o =>
      have hlines : ∀ line ∈ objects.map enc.encodeObject, ∀ c ∈ line,
          isBoundary c = false := by
        intro line hline
        obtain ⟨p, hp, rfl⟩ := List.mem_map.1 hline
        exact encodeObject_boundary (h p (List.mem_append_left _ hp))
      have hsplit := splitlines_lines hlines
        (@encodeObject_boundary enc _ (h o (by simp))) (List.cons_ne_nil _ _)
      rw [List.flatMap_map] at hsplit
      rw [strip_encodeLines, hsplit, List.filterMap_append, List.map_append]
      have hobjects : (objects.map enc.encodeObject).filterMap (parseLine float) =
          objects.map (·.fields) := by
        rw [List.filterMap_map]
        have hsome : parseLine float ∘ enc.encodeObject = fun o => some o.fields :=
          funext (parseLine_encodeObject float)
        rw [hsome]
        exact congrFun List.filterMap_eq_map' objects
      rw [hobjects]
      simp [parseLine_encodeObject]

/-! ### What a listing can yield -/

/-- **No object that is read from a listing has a separator in a key or a value.** -/
theorem within_of_mem_parseJsonLines (float : String → String) {objects : List StringObject}
    {fields : Json.Fields}
    (h : fields ∈ parseJsonLines float (String.ofList (enc.encodeLines objects))) :
    Json.Within (fun c => isSeparator c = false) (.dict fields) := by
  unfold parseJsonLines at h
  rw [String.toList_ofList] at h
  obtain ⟨raw, hraw, hparse⟩ := List.mem_filterMap.1 h
  have hprinted : Printed enc (fun c => isBoundary c = false) (strip raw) :=
    (((printed_encodeLines objects).strip.splitFrom .nil) raw hraw).strip
  have hquiet : Printed enc (fun c => isSeparator c = false) (strip raw) := by
    refine hprinted.mono fun c hc => ?_
    rw [isBoundary, Bool.or_eq_false_iff] at hc
    exact hc.2
  have hclean : Json.Clean (fun c => isSeparator c = false) (strip raw) := by
    refine hquiet.clean fun c hc => ?_
    simp only [mustEscape, Bool.or_eq_true, decide_eq_true_eq] at hc
    rcases hc with (rfl | rfl) | hcontrol
    · decide
    · decide
    · simp only [isSeparator, Bool.or_eq_false_iff, decide_eq_false_iff_not]
      omega
  unfold parseLine at hparse
  split at hparse
  · cases hparse
  · rename_i c cs hstrip
    split at hparse
    · split at hparse
      · rename_i fields' hloads
        cases hparse
        rw [← hstrip] at hloads
        exact Json.within_loads (by simpa using hclean) hloads
      · cases hparse
    · cases hparse

/-- The keys and values of an object are within a bound when its dictionary is. -/
theorem unbroken_of_within {o : StringObject}
    (h : Json.Within (fun c => isSeparator c = false) (.dict o.fields)) : o.Unbroken := by
  have hfields := (Json.withinFields_iff o.fields).1 h
  intro e he
  exact hfields (e.1, .str e.2) (List.mem_map.2 ⟨e, he, rfl⟩)

end LineEncoder

/-- **A docker listing is read back, object by object, if and only if no key and no value has
one of the line boundaries NEL, LINE SEPARATOR and PARAGRAPH SEPARATOR.** -/
theorem listing_complete_iff (float : String → String) (enc : LineEncoder)
    (objects : List StringObject) :
    ListingComplete float enc objects ↔ ∀ o ∈ objects, o.Unbroken := by
  unfold ListingComplete
  dsimp only
  constructor
  · rintro ⟨hparse, -⟩ o ho
    refine LineEncoder.unbroken_of_within
      (@LineEncoder.within_of_mem_parseJsonLines enc float objects _ ?_)
    rw [hparse]
    exact List.mem_map.2 ⟨o, ho, rfl⟩
  · intro h
    have hparse := @LineEncoder.parseJsonLines_encodeLines enc float _ h
    refine ⟨hparse, ?_, ?_, ?_, ?_⟩
    · simp [listContainers, hparse]
    · simp [listImages, hparse]
    · simp [listNetworks, hparse]
    · simp [listVolumes, hparse]

/-- The printer that writes control characters as `\u00XX`. -/
def unicodeEscapes : LineEncoder where
  escape c := if c.toNat < 0x20 then 'u' :: hexPad 4 c.toNat else [c]
  reads c hc rest := by
    by_cases hcontrol : c.toNat < 0x20
    · rw [if_pos hcontrol]
      have hread := Json.scanEscape_unit (n := c.toNat) (Or.inl (by omega)) rest
      rw [Char.ofNat_toNat] at hread
      exact hread
    · rw [if_neg hcontrol]
      simp only [mustEscape, hcontrol, Bool.or_eq_true, decide_eq_true_eq, or_false] at hc
      rcases hc with rfl | rfl
      · rfl
      · rfl
  printable c hc d hd := by
    by_cases hcontrol : c.toNat < 0x20
    · have hall : ∀ n < 0x20, ('u' :: hexPad 4 n).all (fun d =>
          decide (0x20 < d.toNat) && decide (d.toNat < 0x7f)) = true := by
        decide +kernel
      rw [if_pos hcontrol] at hd
      simpa using List.all_eq_true.1 (hall _ hcontrol) d hd
    · rw [if_neg hcontrol, List.mem_singleton] at hd
      subst hd
      simp only [mustEscape, hcontrol, Bool.or_eq_true, decide_eq_true_eq, or_false] at hc
      rcases hc with rfl | rfl
      · decide
      · decide

/-- A container whose command has a LINE SEPARATOR. -/
def brokenContainer : StringObject where
  entries := [("Command", String.ofList ['a', Char.ofNat 0x2028, 'b'])]
  nodup := by decide

/-- A container with a LINE SEPARATOR in its command is not listed. -/
theorem not_listing_complete : ¬ ListingComplete id unicodeEscapes [brokenContainer] := by
  rintro ⟨-, hlength, -⟩
  revert hlength
  decide +kernel

end Docker
end NodeNexus
