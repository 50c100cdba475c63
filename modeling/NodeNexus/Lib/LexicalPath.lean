import Mathlib.Data.List.Infix

/-!
# Lexical paths

A path is resolved without a look at any file: its components are taken one
after the other, from a directory that is kept as the names that lead to it from
the root of the file system.

* `step` — one component: nothing and `.` stay, `..` goes up, a name goes down.
* `walk` and `resolve` — the components of a path, and a path against a directory.
* `StaysBelow` — the path does not leave a directory on its way and ends below it.
* `staysBelow_of_names` — a relative path all of whose components are names does so.
-/

namespace LexicalPath

/-- The names that lead from the root of the file system to a place. -/
abbrev Location : Type := List (List Char)

/-- The place that one component leads to. -/
def step (dir : Location) (part : List Char) : Location :=
  if part = [] ∨ part = ['.'] then dir
  else if part = ['.', '.'] then dir.dropLast
  else dir ++ [part]

/-- The place that some components lead to. -/
def walk (dir : Location) (parts : List (List Char)) : Location :=
  parts.foldl step dir

/-- Where the components of a path are taken from. -/
def start (dir : Location) (path : List Char) : Location :=
  if path.head? = some '/' then [] else dir

/-- The place that a path leads to. -/
def resolve (dir : Location) (path : List Char) : Location :=
  walk (start dir path) (path.splitOn '/')

/-- The component is the name of an entry. -/
def IsName (part : List Char) : Prop :=
  part ≠ [] ∧ part ≠ ['.'] ∧ part ≠ ['.', '.']

/-- The path does not leave `root` on its way, and ends strictly below it. -/
structure StaysBelow (root : Location) (path : List Char) : Prop where
  inside : ∀ parts, parts <+: path.splitOn '/' → root <+: walk (start root path) parts
  below : ∃ rest, rest ≠ [] ∧ resolve root path = root ++ rest

section Names

variable {dir root : Location} {part : List Char} {parts : List (List Char)} {path : List Char}

theorem step_name (h : IsName part) : step dir part = dir ++ [part] := by
  obtain ⟨hne, hdot, hdots⟩ := h
  rw [step, if_neg (not_or.2 ⟨hne, hdot⟩), if_neg hdots]

/-- Names lead down, each from where the one before it led to. -/
theorem walk_names (h : ∀ part ∈ parts, IsName part) : walk dir parts = dir ++ parts := by
  induction parts generalizing dir with
  | nil => exact (List.append_nil dir).symm
  | cons part parts ih =>
      obtain ⟨hpart, hparts⟩ := List.forall_mem_cons.1 h
      show walk (step dir part) parts = _
      rw [step_name hpart, ih hparts, List.append_assoc]
      rfl

/-- **A relative path of names stays below every directory.** -/
theorem staysBelow_of_names (hrelative : path.head? ≠ some '/')
    (h : ∀ part ∈ path.splitOn '/', IsName part) : StaysBelow root path := by
  have hstart : start root path = root := if_neg hrelative
  refine ⟨fun parts hparts => ?_, path.splitOn '/', List.splitOn_ne_nil _ _, ?_⟩
  · rw [hstart, walk_names fun part hpart => h part (hparts.subset hpart)]
    exact List.prefix_append root parts
  · rw [resolve, hstart, walk_names h]

end Names

-- a name that leads back out of the directory, and one that only looks like it
example : resolve ["srv".toList] "a/../../etc".toList = ["etc".toList] := by decide
example : resolve ["srv".toList] "a/..b/.".toList = ["srv".toList, "a".toList, "..b".toList] := by
  decide

end LexicalPath
