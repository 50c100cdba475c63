import Mathlib.Data.List.Basic
import NodeNexus.Lib.Hex

/-!
# JSON values as Python holds them

`json.loads` builds `None`, booleans, integers, floats, strings, lists and
dictionaries.  A dictionary remembers the order in which its keys came; it is
kept here as the list of its entries, looked up from the front.

* `Json.get`, `Json.set` and `Json.merge` are `d.get(key)`, `{**d, key: value}`
  and `{**d, **e}`; `get_set` says what a lookup gives after an update.
* `Json.truthy` is Python's truth value of an object.
* `Json.toStr` and `Json.repr` are `str(x)` and `repr(x)`.  Which characters
  beyond ASCII `repr` prints as they are depends on the Unicode database, so
  that set is a parameter.

A float is kept as the text `repr` prints for it: nothing here computes with
floats.
-/

/-- A value of a JSON document. -/
inductive Json where
  | null
  | bool (b : Bool)
  | int (n : Int)
  /-- A float, as `repr` prints it. -/
  | float (text : String)
  | str (s : String)
  | list (items : List Json)
  /-- A dictionary: its entries, in the order of insertion. -/
  | dict (fields : List (String × Json))

namespace Json

/-- The entries of a dictionary. -/
abbrev Fields : Type := List (String × Json)

/-! ## Dictionaries -/

/-- `d.get(key)`; `none` is the missing key, not `None`. -/
def get (d : Fields) (key : String) : Option Json :=
  d.lookup key

/-- `d.get(key, default)`. -/
def getD (d : Fields) (key : String) (default : Json) : Json :=
  (get d key).getD default

/-- `{**d, key: value}`: an entry that exists keeps its place. -/
def set (d : Fields) (key : String) (value : Json) : Fields :=
  if (get d key).isSome then d.map fun e => if e.1 = key then (key, value) else e
  else d ++ [(key, value)]

/-- `{**d, **e}`. -/
def merge (d e : Fields) : Fields :=
  e.foldl (fun d entry => set d entry.1 entry.2) d

theorem get_cons (k : String) (v : Json) (d : Fields) (key : String) :
    get ((k, v) :: d) key = if key = k then some v else get d key := by
  unfold get
  rw [List.lookup_cons]
  by_cases h : key = k
  · simp [h]
  · simp [h, beq_eq_false_iff_ne.2 h]

theorem get_append (d e : Fields) (key : String) :
    get (d ++ e) key = (get d key).or (get e key) := by
  unfold get
  exact List.lookup_append

/-- Rewriting the entries of one key, as a lookup sees it. -/
theorem get_map_entry (d : Fields) (key : String) (value : Json) (k : String) :
    get (d.map fun e => if e.1 = key then (key, value) else e) k =
      if k = key then (get d key).map (fun _ => value) else get d k := by
  induction d with
  | nil => simp [get]
  | cons e d ih =>
      obtain ⟨k', v⟩ := e
      by_cases hk' : k' = key
      · subst hk'
        by_cases hk : k = k'
        · simp [get_cons, hk]
        · simpa [get_cons, hk] using ih
      · by_cases hk : k = k'
        · subst hk
          simp [get_cons, hk']
        · by_cases hkk : k = key
          · subst hkk
            simpa [get_cons, hk, hk'] using ih
          · simpa [get_cons, hk, hk', hkk] using ih

/-- A lookup after `{**d, key: value}`. -/
theorem get_set (d : Fields) (key : String) (value : Json) (k : String) :
    get (set d key value) k = if k = key then some value else get d k := by
  unfold set
  split
  · rename_i h
    rw [get_map_entry]
    by_cases hk : k = key
    · obtain ⟨v, hv⟩ := Option.isSome_iff_exists.1 h
      simp [hk, hv]
    · simp [hk]
  · rename_i h
    rw [get_append, get_cons]
    by_cases hk : k = key
    · have hnone : get d key = none := by simpa using h
      simp [hk, hnone]
    · simp [hk, get]

/-! ## Truth values -/

/-- `bool(x)`. -/
def truthy : Json → Bool
  | null => false
  | bool b => b
  | int n => n != 0
  | float text => text != "0.0" && text != "-0.0"
  | str s => s != ""
  | list items => !items.isEmpty
  | dict fields => !fields.isEmpty

/-- `x or default`. -/
def orElse (x default : Json) : Json :=
  if x.truthy then x else default

/-- Is `d.get(key)` there and true? -/
def truthyAt (d : Fields) (key : String) : Bool :=
  (getD d key .null).truthy

/-! ## Printing -/

section Printing

-- The characters `repr` prints as they are, beyond ASCII.
variable (printable : Char → Bool)

/-- One character of a string literal. -/
def reprChar (quote c : Char) : List Char :=
  if c = quote ∨ c = '\\' then ['\\', c]
  else if c = '\t' then ['\\', 't']
  else if c = '\n' then ['\\', 'n']
  else if c = '\r' then ['\\', 'r']
  else if c.toNat < 0x20 ∨ c.toNat = 0x7f then '\\' :: 'x' :: hexPad 2 c.toNat
  else if c.toNat < 0x7f ∨ printable c then [c]
  else if c.toNat ≤ 0xff then '\\' :: 'x' :: hexPad 2 c.toNat
  else if c.toNat ≤ 0xffff then '\\' :: 'u' :: hexPad 4 c.toNat
  else '\\' :: 'U' :: hexPad 8 c.toNat

/-- `repr(s)` of a string: double quotes only where the string holds single
quotes and no double ones. -/
def reprStr (s : String) : String :=
  let cs := s.toList
  let quote := if '\'' ∈ cs ∧ '"' ∉ cs then '"' else '\''
  String.ofList (quote :: cs.flatMap (reprChar printable quote) ++ [quote])

mutual

/-- `repr(x)`. -/
def repr : Json → String
  | null => "None"
  | bool true => "True"
  | bool false => "False"
  | int n => toString n
  | float text => text
  | str s => reprStr printable s
  | list items => "[" ++ reprItems items ++ "]"
  | dict fields => "\x7b" ++ reprFields fields ++ "\x7d"

/-- The elements of a list, separated by commas. -/
def reprItems : List Json → String
  | [] => ""
  | [x] => repr x
  | x :: y :: xs => repr x ++ ", " ++ reprItems (y :: xs)

/-- The entries of a dictionary, separated by commas. -/
def reprFields : List (String × Json) → String
  | [] => ""
  | [(k, v)] => reprStr printable k ++ ": " ++ repr v
  | (k, v) :: e :: es => reprStr printable k ++ ": " ++ repr v ++ ", " ++ reprFields (e :: es)

end

/-- `str(x)`: a string is itself, anything else its `repr`. -/
def toStr : Json → String
  | str s => s
  | x => x.repr printable

@[simp] theorem toStr_str (s : String) : toStr printable (.str s) = s := rfl

end Printing

/-! ## Iterating -/

/-- `list(x)`, for an iterable `x`: the characters of a string, the keys of a
dictionary.  `none` is the `TypeError` of everything else. -/
def toList? : Json → Option (List Json)
  | str s => some (s.toList.map fun c => .str (String.singleton c))
  | list items => some items
  | dict fields => some (fields.map fun e => .str e.1)
  | null | bool _ | int _ | float _ => none

end Json
