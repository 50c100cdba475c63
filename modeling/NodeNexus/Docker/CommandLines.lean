import NodeNexus.Docker.Validation
import NodeNexus.Lib.ShellRun
import NodeNexus.Script.Injection

/-!
# Docker command lines

How the lines that run docker on a node are put together, and how a shell reads them.

* `quotedParts` — the word that a quoted text is read as.
* `reads_words` — quoted texts with blanks between them are one word each.
* `reads_buildDockerCommand` — the line that `build_docker_command` puts in front of the
  arguments.
* `dockerCommand_reads` — what is set and started for such a line.
-/

namespace NodeNexus
namespace Docker

open Content Node Config Shell
open NodeNexus.Core

/-! ## Quoted words -/

/-- The parts of the word that a quoted text is read as. -/
def quotedParts (s : String) : List (WordPart Empty) :=
  ((outputs start ((shlexQuote s).toList.map .char)).map keepQuote).flatMap Output.parts

/-- A quoted text is read as its characters. -/
theorem readsAs_shlexQuote (s : String) (fresh : Bool) :
    ReadsAs (H := Empty) ⟨[], fresh⟩ ((shlexQuote s).toList.map .char) ⟨[], false⟩
      (lits s.toList) := by
  by_cases hsafe : Safe s.toList
  · rw [shlexQuote_safe hsafe]
    obtain ⟨hne, hall⟩ := hsafe
    obtain ⟨c, cs, hcs⟩ := List.exists_cons_of_ne_nil hne
    rw [hcs] at hall ⊢
    obtain ⟨hc, hrest⟩ := List.forall_mem_cons.1 hall
    have hfirst : next (H := Empty) ⟨[], fresh⟩ c = (⟨[], false⟩, [.part (.lit (.char c))]) := by
      rw [next_takesSafe rfl]
      exact nextBase_safe rfl hc fresh
    refine ReadsAs.cons hfirst (by simp [Output.inWord]) (ReadsAs.lits fun d hd => ?_)
    rw [next_takesSafe rfl]
    exact nextBase_safe rfl (hrest d hd) false
  · rw [shlexQuote_quoted hsafe]
    exact readsAs_quote rfl (next_quotes rfl fresh).1 s.toList

theorem outputs_ne_nil (fresh : Bool) {c : Char} {cs : List Char} {k : Control}
    {o : Output Empty} {os : List (Output Empty)}
    (h : next (H := Empty) ⟨[], fresh⟩ c = (k, o :: os)) :
    outputs (H := Empty) ⟨[], fresh⟩ ((c :: cs).map .char) ≠ [] := by
  simp [outputs, nextSym, h]

/-- What a quoted text gives out does not depend on where it stands in a line. -/
theorem outputs_shlexQuote (s : String) (fresh : Bool) :
    outputs (H := Empty) ⟨[], fresh⟩ ((shlexQuote s).toList.map .char) =
        outputs start ((shlexQuote s).toList.map .char) ∧
      outputs (H := Empty) start ((shlexQuote s).toList.map .char) ≠ [] := by
  by_cases hsafe : Safe s.toList
  · rw [shlexQuote_safe hsafe]
    obtain ⟨hne, hall⟩ := hsafe
    obtain ⟨c, cs, hcs⟩ := List.exists_cons_of_ne_nil hne
    rw [hcs] at hall ⊢
    have hc := (List.forall_mem_cons.1 hall).1
    have hfirst : ∀ b, next (H := Empty) ⟨[], b⟩ c =
        (⟨[], false⟩, [.part (.lit (.char c))]) := by
      intro b
      rw [next_takesSafe rfl]
      exact nextBase_safe rfl hc b
    refine ⟨?_, outputs_ne_nil true (hfirst true)⟩
    simp [outputs, nextSym, hfirst, start]
  · rw [shlexQuote_quoted hsafe]
    refine ⟨rfl, ?_⟩
    exact outputs_ne_nil true (next_quotes (H := Empty) rfl true).1

/-- A quoted text is a piece of a word. -/
theorem piece_shlexQuote (s : String) : Piece (shlexQuote s).toList (quotedParts s) where
  ends fresh := (readsAs_shlexQuote s fresh).ends
  inWord fresh := (readsAs_shlexQuote s fresh).inWord
  ne fresh := by
    rw [(outputs_shlexQuote s fresh).1]
    exact (outputs_shlexQuote s fresh).2
  parts fresh := by
    rw [(outputs_shlexQuote s fresh).1]
    rfl

/-- The text of the word is the text that was quoted. -/
theorem wordText_quotedParts (s : String) : wordText (quotedParts s) = some s.toList := by
  have hparts : (outputs start ((shlexQuote s).toList.map (Symbol.char (H := Empty)))).flatMap
      Output.parts = lits s.toList := (readsAs_shlexQuote s true).parts
  unfold quotedParts
  rw [wordText_keepQuote, hparts, wordText_lits]

theorem quotedParts_safe {s : String} (h : Safe s.toList) : quotedParts s = lits s.toList := by
  have hlits : ∀ c ∈ s.toList, ∀ b, next (H := Empty) ⟨[], b⟩ c =
      (⟨[], false⟩, [.part (.lit (.char c))]) := by
    intro c hc b
    rw [next_takesSafe rfl]
    exact nextBase_safe rfl (h.2 c hc) b
  have houtputs : ∀ (cs : List Char) (b : Bool), (∀ c ∈ cs, c ∈ s.toList) →
      outputs (H := Empty) ⟨[], b⟩ (cs.map .char) = cs.map fun c => .part (.lit (.char c)) := by
    intro cs
    induction cs with
    | nil => intro b hcs; rfl
    | cons c cs ih =>
        intro b hcs
        obtain ⟨hc, hrest⟩ := List.forall_mem_cons.1 hcs
        simp only [List.map_cons, outputs, nextSym, hlits c hc b, ih false hrest]
        rfl
  unfold quotedParts
  rw [shlexQuote_safe h, start, houtputs s.toList true fun c hc => hc]
  rw [List.map_map, List.flatMap_map]
  exact List.map_eq_flatMap.symm

/-! ## Words of a line -/

/-- The words that quoted texts are read as. -/
def words (ws : List String) : List (Token Empty) := ws.map fun w => .word (quotedParts w)

/-- `" ".join(shlex.quote(w) for w in ws)` -/
def joinQuoted (ws : List String) : String := " ".intercalate (ws.map shlexQuote)

/-- The text of a line, as the symbols of a reader. -/
def symbols (s : String) : List (Symbol Empty) := s.toList.map .char

theorem symbols_blank (s t : String) : symbols (s ++ " " ++ t) =
    symbols s ++ .char ' ' :: symbols t := by
  simp [symbols]

/-- **Quoted texts with blanks between them are one word each.** -/
theorem reads_words (ws : List String) : Reads (symbols (joinQuoted ws)) (words ws) := by
  induction ws with
  | nil => exact Reads.nil
  | cons w ws ih =>
      cases ws with
      | nil =>
          have hone : joinQuoted [w] = shlexQuote w := by simp [joinQuoted]
          rw [hone]
          exact (piece_shlexQuote w).reads
      | cons w' ws =>
          have hjoin : joinQuoted (w :: w' :: ws) =
              shlexQuote w ++ " " ++ joinQuoted (w' :: ws) := by
            simp [joinQuoted, String.intercalate_cons_cons]
          rw [hjoin, symbols_blank]
          exact (piece_shlexQuote w).reads.append ih

/-- Texts with a blank between them are read one after the other. -/
theorem Reads.blank {s t : String} {tokens tokens' : List (Token Empty)}
    (h : Reads (symbols s) tokens) (h' : Reads (symbols t) tokens') :
    Reads (symbols (s ++ " " ++ t)) (tokens ++ tokens') := by
  rw [symbols_blank]
  exact h.append h'

theorem reads_operators :
    Reads (symbols "|") [.operator ['|']] ∧ Reads (symbols ">") [.operator ['>']] ∧
      Reads (symbols "&&") [.operator ['&', '&']] := by
  refine ⟨⟨by decide, fun ts => ?_⟩, ⟨by decide, fun ts => ?_⟩, ⟨by decide, fun ts => ?_⟩⟩
  · rfl
  · rfl
  · rfl

/-- A text that is printed. -/
theorem joinQuoted_printf (text : String) :
    joinQuoted ["printf", "%s", text] = "printf %s " ++ shlexQuote text := by
  have hquote : shlexQuote "printf" = "printf" ∧ shlexQuote "%s" = "%s" := by decide
  rw [← String.toList_inj]
  simp [joinQuoted, hquote, String.intercalate_cons_cons]

/-! ## The assignments in front of a command -/

/-- The word that sets a variable to a quoted text. -/
def assignmentParts (kv : String × String) : List (WordPart Empty) :=
  quotedParts kv.1 ++ .lit (.char '=') :: quotedParts kv.2

theorem piece_assignment (kv : String × String) :
    Piece (shlexQuote kv.1 ++ "=" ++ shlexQuote kv.2).toList (assignmentParts kv) := by
  have hequals : Piece (H := Empty) ['='] [.lit (.char '=')] := by
    refine ⟨fun fresh => rfl, fun fresh => ?_, fun fresh => ?_, fun fresh => rfl⟩
    · cases fresh <;> simp [outputs, nextSym, next, nextBase, nextPlain, isBlank, isOperator,
        isPattern, Output.inWord]
    · cases fresh <;> simp [outputs, nextSym, next, nextBase, nextPlain, isBlank, isOperator,
        isPattern]
  have hpiece := ((piece_shlexQuote kv.1).append hequals).append (piece_shlexQuote kv.2)
  have htext : (shlexQuote kv.1 ++ "=" ++ shlexQuote kv.2).toList =
      (shlexQuote kv.1).toList ++ ['='] ++ (shlexQuote kv.2).toList := by simp
  have hparts : assignmentParts kv =
      quotedParts kv.1 ++ [.lit (.char '=')] ++ quotedParts kv.2 := by simp [assignmentParts]
  rw [htext, hparts]
  exact hpiece

/-- `build_docker_command`; an empty `docker_host` counts as none. -/
def buildDockerCommand (dockerHost : Option String) (dockerArgs : String) : String :=
  match dockerHost.filter (· ≠ "") with
  | some host => "DOCKER_HOST=" ++ shlexQuote host ++ " docker " ++ dockerArgs
  | none => "docker " ++ dockerArgs

/-- The assignment in front of `docker`. -/
def hostAssignment (dockerHost : Option String) : List (String × String) :=
  (dockerHost.filter (· ≠ "")).toList.map fun host => ("DOCKER_HOST", host)

/-- **A docker command line is the assignment of the node's docker host, `docker`, and the
arguments.** -/
theorem reads_buildDockerCommand (dockerHost : Option String) {args : String}
    {tokens : List (Token Empty)} (h : Reads (symbols args) tokens) :
    Reads (symbols (buildDockerCommand dockerHost args))
      ((hostAssignment dockerHost).map (fun kv => .word (assignmentParts kv)) ++
        words ["docker"] ++ tokens) := by
  have hdocker : shlexQuote "docker" = "docker" := by decide
  have hword := reads_words ["docker"]
  have hjoin : joinQuoted ["docker"] = "docker" := by simp [joinQuoted, hdocker]
  rw [hjoin] at hword
  unfold buildDockerCommand hostAssignment
  cases dockerHost.filter (· ≠ "") with
  | none =>
      have hline := Reads.blank hword h
      simpa using hline
  | some host =>
      have hname : shlexQuote "DOCKER_HOST" = "DOCKER_HOST" := by decide
      have hassign := (piece_assignment ("DOCKER_HOST", host)).reads
      have hline := Reads.blank (Reads.blank hassign hword) h
      have htext : "DOCKER_HOST=" ++ shlexQuote host ++ " docker " ++ args =
          shlexQuote "DOCKER_HOST" ++ "=" ++ shlexQuote host ++ " " ++ "docker" ++ " " ++ args := by
        rw [hname, ← String.toList_inj]
        simp
      dsimp only
      rw [htext]
      simpa using hline

/-! ## What the words are -/

/-- A quoted text as a word of a command. -/
def wordOf (s : String) : Word := ⟨s.toList, assignment (quotedParts s)⟩

/-- The word of a key and a value in front of a command. -/
def wordOfPair (kv : String × String) : Word :=
  ⟨kv.1.toList ++ '=' :: kv.2.toList, assignment (assignmentParts kv)⟩

theorem ofParts_quotedParts (s : String) : Word.ofParts (quotedParts s) = some (wordOf s) := by
  unfold Word.ofParts wordOf
  rw [wordText_quotedParts]
  rfl

theorem ofParts_assignmentParts (kv : String × String) :
    Word.ofParts (assignmentParts kv) = some (wordOfPair kv) := by
  have hvalue : wordText (.lit (.char '=') :: quotedParts kv.2) = some ('=' :: kv.2.toList) := by
    change (wordText (quotedParts kv.2)).map ('=' :: ·) = _
    rw [wordText_quotedParts]
    rfl
  unfold Word.ofParts wordOfPair
  rw [assignmentParts, wordText_append, wordText_quotedParts, hvalue]
  rfl

/-- A name is followed by what is no part of it. -/
theorem splitName_lits {cs : List Char} (h : cs.all isNameChar = true) (c : Char)
    (hc : isNameChar c = false) (ps : List (WordPart Empty)) :
    splitName (lits cs ++ .lit (.char c) :: ps) = (cs, .lit (.char c) :: ps) := by
  induction cs with
  | nil => simp [lits, splitName, hc]
  | cons d ds ih =>
      obtain ⟨hd, hds⟩ : isNameChar d = true ∧ ds.all isNameChar = true := by simpa using h
      have hrest := ih hds
      simp only [lits] at hrest
      simp [lits, splitName, hd, hrest]

theorem isName_all {cs : List Char} (h : isName cs = true) : cs ≠ [] ∧ cs.all isNameChar = true := by
  cases cs with
  | nil => cases h
  | cons c cs =>
      simp only [isName, Bool.and_eq_true] at h
      refine ⟨by simp, ?_⟩
      have hc : isNameChar c = true := by
        have hstart := h.1
        simp only [isNameStart, isNameChar, Char.isAlphanum, Bool.or_eq_true] at hstart ⊢
        rcases hstart with hstart | hstart
        · exact Or.inl (Or.inl hstart)
        · exact Or.inr hstart
      rw [List.all_cons, hc, h.2]
      rfl

/-- A name needs no quotes. -/
theorem safe_of_isName {cs : List Char} (h : isName cs = true) : Safe cs := by
  obtain ⟨hne, hall⟩ := isName_all h
  refine ⟨hne, fun c hc => ?_⟩
  have hname := List.all_eq_true.1 hall c hc
  simp only [isNameChar, Bool.or_eq_true, decide_eq_true_eq] at hname
  simp only [isShellSafe, Bool.or_eq_true, decide_eq_true_eq]
  rcases hname with hname | hname <;> simp [hname]

/-- A key that is a name is assigned its value. -/
theorem wordOfPair_assigns {kv : String × String} (h : isName kv.1.toList = true) :
    (wordOfPair kv).assigns = some (kv.1.toList, kv.2.toList) := by
  have hsplit := splitName_lits (isName_all h).2 '=' (by decide) (quotedParts kv.2)
  simp only [wordOfPair, assignment, assignmentParts, quotedParts_safe (safe_of_isName h), hsplit,
    if_pos h, wordText_quotedParts, Option.map_some]

/-- Whatever is assigned has a name. -/
theorem assignment_isName {ps : List (WordPart Empty)} {name value : List Char}
    (h : assignment ps = some (name, value)) : isName name = true := by
  unfold assignment at h
  split at h
  · split at h
    · rename_i hname
      rw [Option.map_eq_some_iff] at h
      obtain ⟨text, -, hpair⟩ := h
      cases hpair
      exact hname
    · cases h
  · cases h

theorem wordOf_assigns (s : String) : (wordOf s).assigns = assignment (quotedParts s) := by
  simp only [wordOf]

theorem wordOf_isName {s : String} {pair : List Char × List Char}
    (h : (wordOf s).assigns = some pair) : isName pair.1 = true := by
  rw [wordOf_assigns] at h
  exact assignment_isName h

theorem wordOfPair_isName {kv : String × String} {pair : List Char × List Char}
    (h : (wordOfPair kv).assigns = some pair) : isName pair.1 = true := by
  simp only [wordOfPair] at h
  exact assignment_isName h

/-! ## How the line is parsed -/

/-- Words are put in front of the first command. -/
theorem foldr_addWord (ws : List Word) (c : Command) (cs : List Command)
    (rest : List (List Command)) :
    ws.foldr addWord ((c :: cs) :: rest) = ({ c with words := ws ++ c.words } :: cs) :: rest := by
  induction ws with
  | nil => rfl
  | cons w ws ih =>
      rw [List.foldr_cons, ih]
      rfl

theorem parse_parts {ws : List Word} {pss : List (List (WordPart Empty))}
    (h : pss.map Word.ofParts = ws.map some) (rest : List (Token Empty)) :
    parse (pss.map .word ++ rest) = (parse rest).map fun line => ws.foldr addWord line := by
  induction pss generalizing ws with
  | nil =>
      cases ws with
      | nil => simp
      | cons w ws => cases h
  | cons ps pss ih =>
      cases ws with
      | nil => cases h
      | cons w ws =>
          simp only [List.map_cons, List.cons.injEq] at h
          simp only [List.map_cons, List.cons_append, parse, h.1, ih h.2, Option.map_map]
          rfl

theorem parse_words (ws : List String) (rest : List (Token Empty)) :
    parse (words ws ++ rest) =
      (parse rest).map fun line => (ws.map wordOf).foldr addWord line := by
  have hparts : (ws.map quotedParts).map Word.ofParts = (ws.map wordOf).map some := by
    simp [ofParts_quotedParts]
  have hwords := parse_parts hparts rest
  rwa [List.map_map] at hwords

theorem parse_pairs (env : List (String × String)) (rest : List (Token Empty)) :
    parse (env.map (fun kv => .word (assignmentParts kv)) ++ rest) =
      (parse rest).map fun line => (env.map wordOfPair).foldr addWord line := by
  have hparts : (env.map assignmentParts).map Word.ofParts = (env.map wordOfPair).map some := by
    simp [ofParts_assignmentParts]
  have hwords := parse_parts hparts rest
  rwa [List.map_map] at hwords

/-- The command word of a line of quoted texts is the first of them. -/
theorem argv_words {w : String} (ws : List String) (target : Option (List Char))
    (h : (assignment (quotedParts w)).isSome = false) :
    (Command.mk ((w :: ws).map wordOf) target).argv = (w :: ws).map String.toList ∧
      (Command.mk ((w :: ws).map wordOf) target).assignments = [] := by
  have hw : (wordOf w).assigns.isSome = false := by
    rw [wordOf_assigns]
    exact h
  refine ⟨?_, ?_⟩
  · simp only [Command.argv, List.map_cons, List.dropWhile_cons, hw]
    simp [wordOf, Function.comp_def]
  · simp [Command.assignments, hw]

theorem isName_dockerHost {dockerHost : Option String} :
    ∀ kv ∈ hostAssignment dockerHost, isName kv.1.toList = true := by
  intro kv hkv
  obtain ⟨host, -, rfl⟩ := List.mem_map.1 hkv
  show isName "DOCKER_HOST".toList = true
  decide

/-- Variables with names are set, and docker is started. -/
theorem dockerCommand_reads {kvs : List (String × String)}
    (h : ∀ kv ∈ kvs, isName kv.1.toList = true) (ws : List Word) :
    (Command.mk (kvs.map wordOfPair ++ wordOf "docker" :: ws) none).assignments =
        kvs.map (fun kv => (kv.1.toList, kv.2.toList)) ∧
      (Command.mk (kvs.map wordOfPair ++ wordOf "docker" :: ws) none).argv =
        "docker".toList :: ws.map Word.text := by
  have hdocker : (wordOf "docker").assigns.isSome = false := by decide
  have hpass : ∀ w ∈ kvs.map wordOfPair, w.assigns.isSome = true := by
    intro w hw
    obtain ⟨kv, hkv, rfl⟩ := List.mem_map.1 hw
    rw [wordOfPair_assigns (h kv hkv)]
    rfl
  refine ⟨?_, ?_⟩
  · unfold Command.assignments
    dsimp only
    rw [List.takeWhile_append_of_pos hpass, List.takeWhile_cons_of_neg (by simp [hdocker]),
      List.append_nil, List.filterMap_map]
    exact List.filterMap_eq_map_iff_forall_eq_some.2 fun kv hkv => wordOfPair_assigns (h kv hkv)
  · unfold Command.argv
    dsimp only
    rw [List.dropWhile_append_of_pos hpass, List.dropWhile_cons_of_neg (by simp [hdocker])]
    rfl

end Docker
end NodeNexus
