import Mathlib.Data.List.TakeWhile
import Mathlib.Logic.Relation
import NodeNexus.Docker.ErrorMapper
import NodeNexus.Docker.Parsers
import NodeNexus.Lib.Scan

/-!
# Redaction of log events

`redact_secrets` is the structlog processor that takes secrets out of an event before it is
rendered: the values of sensitive keys, and the credentials in URLs, at any depth of mappings,
lists and tuples.  It leaves keys, bytes, sets and other objects as they are, and it knows URLs by
a scheme in lower case.

* `redactSecrets` — the processor.
* `SameUrls` — two texts differ in the credentials of their URLs alone; `SameLog` — two events
  differ in such credentials and in the values of sensitive keys alone.
* `NoSecret` — a value without a secret where the processor looks for one.
* `redactSecrets_exact` — a redacted event has no secret, and two events are redacted to the
  same one exactly when they differ in secrets alone.
-/

namespace NodeNexus
namespace Core

open Docker (isSpace inText Lowercase)

/-! ## Credentials in URLs -/

/-- `[a-z]`. -/
def isSchemeStart (c : Char) : Bool := c.isLower

/-- `[a-z0-9+.-]`. -/
def isSchemeChar (c : Char) : Bool :=
  isSchemeStart c || c.isDigit || c = '+' || c = '.' || c = '-'

/-- `[^/@\s]`. -/
def isUserChar (c : Char) : Bool := c ≠ '/' && c ≠ '@' && !isSpace c

/-- A match of `_CREDENTIAL_URL_RE`: its scheme and the part that is not named. -/
structure Credential where
  scheme : List Char
  user : List Char
deriving DecidableEq

/-- The scheme is one. -/
def SchemeOk (scheme : List Char) : Prop :=
  scheme.head?.any isSchemeStart = true ∧ ∀ c ∈ scheme, isSchemeChar c = true

/-- The other part is one. -/
def UserOk (user : List Char) : Prop := user ≠ [] ∧ ∀ c ∈ user, isUserChar c = true

/-- The text of a scheme and of what it is the scheme of. -/
def afterScheme (scheme rest : List Char) : List Char := scheme ++ ':' :: '/' :: '/' :: rest

/-- A match and the text behind it. -/
def Credential.text (m : Credential) (rest : List Char) : List Char :=
  afterScheme m.scheme (m.user ++ '@' :: rest)

/-- `_CREDENTIAL_URL_RE` at the beginning of a text.  What follows a scheme or a user cannot
be a part of it, so that the expression has one way to match. -/
def credential? (text : List Char) : Option (Credential × List Char) :=
  match text.dropWhile isSchemeChar with
  | ':' :: '/' :: '/' :: after =>
      match after.dropWhile isUserChar with
      | '@' :: rest =>
          if (text.takeWhile isSchemeChar).head?.any isSchemeStart = true ∧
              after.takeWhile isUserChar ≠ [] then
            some (⟨text.takeWhile isSchemeChar, after.takeWhile isUserChar⟩, rest)
          else none
      | _ => none
  | _ => none

/-- A run of characters is found where it ends. -/
theorem takeWhile_run {p : Char → Bool} {run s : List Char} {c : Char}
    (hrun : ∀ d ∈ run, p d = true) (hc : p c = false) :
    (run ++ c :: s).takeWhile p = run ∧ (run ++ c :: s).dropWhile p = c :: s := by
  rw [List.takeWhile_append_of_pos hrun, List.dropWhile_append_of_pos hrun]
  simp [hc]

/-- **The matches.** -/
theorem credential?_eq_some_iff {text rest : List Char} {m : Credential} :
    credential? text = some (m, rest) ↔
      SchemeOk m.scheme ∧ UserOk m.user ∧ text = m.text rest := by
  constructor
  · intro h
    unfold credential? at h
    split at h
    · rename_i after hafter
      split at h
      · rename_i rest' hrest
        split at h
        · rename_i hok
          cases h
          refine ⟨⟨hok.1, fun c hc => List.mem_takeWhile_imp hc⟩,
            ⟨hok.2, fun c hc => List.mem_takeWhile_imp hc⟩, ?_⟩
          rw [Credential.text, afterScheme, ← hrest, List.takeWhile_append_dropWhile, ← hafter,
            List.takeWhile_append_dropWhile]
        · cases h
      · cases h
    · cases h
  · rintro ⟨hscheme, huser, rfl⟩
    have hsplit := takeWhile_run (c := ':') (s := '/' :: '/' :: (m.user ++ '@' :: rest))
      hscheme.2 (by decide)
    have huserSplit := takeWhile_run (c := '@') (s := rest) huser.2 (by decide)
    unfold credential?
    rw [Credential.text, afterScheme, hsplit.2, hsplit.1]
    simp only [huserSplit.1, huserSplit.2]
    rw [if_pos ⟨hscheme.1, huser.1⟩]

/-- `_CREDENTIAL_URL_RE`. -/
def credentialPattern : Pattern Char Credential where
  match? := credential?
  shrinks h := by
    rw [credential?_eq_some_iff] at h
    rw [h.2.2]
    simp only [Credential.text, afterScheme, List.length_append, List.length_cons]
    omega

/-- `REDACTED`. -/
def redacted : List Char := "[REDACTED]".toList

theorem redacted_ok : UserOk redacted := by
  refine ⟨by decide, ?_⟩
  rw [← List.all_eq_true]
  decide

/-- The replacement, `\g<scheme>[REDACTED]@`. -/
def Credential.redact (m : Credential) : List Char :=
  (Credential.mk m.scheme redacted).text []

/-- `_CREDENTIAL_URL_RE.sub(r"\g<scheme>[REDACTED]@", value)`. -/
def redactText (text : List Char) : List Char := credentialPattern.sub Credential.redact text

@[simp] theorem redactText_nil : redactText [] = [] := Pattern.sub_nil

theorem redactText_of_match {text rest : List Char} {m : Credential}
    (h : credential? text = some (m, rest)) :
    redactText text = (Credential.mk m.scheme redacted).text (redactText rest) := by
  have hsub : credentialPattern.sub Credential.redact text =
      Credential.redact m ++ credentialPattern.sub Credential.redact rest :=
    Pattern.sub_of_match h
  simpa [redactText, Credential.redact, Credential.text, afterScheme] using hsub

theorem redactText_of_none {c : Char} {cs : List Char} (h : credential? (c :: cs) = none) :
    redactText (c :: cs) = c :: redactText cs :=
  Pattern.sub_of_none (P := credentialPattern) h

/-! ## Texts that differ in credentials -/

/-- One text is made of the other by exchanging users. -/
inductive Exchanged : List Char → List Char → Prop
  | nil : Exchanged [] []
  | char (c : Char) {s t : List Char} (h : Exchanged s t) : Exchanged (c :: s) (c :: t)
  | user {scheme u v s t : List Char} (hscheme : SchemeOk scheme) (hu : UserOk u) (hv : UserOk v)
      (h : Exchanged s t) :
      Exchanged ((Credential.mk scheme u).text s) ((Credential.mk scheme v).text t)

theorem Exchanged.refl (s : List Char) : Exchanged s s := by
  induction s with
  | nil => exact .nil
  | cons c s ih => exact .char c ih

theorem Exchanged.symm {s t : List Char} (h : Exchanged s t) : Exchanged t s := by
  induction h with
  | nil => exact .nil
  | char c _ ih => exact .char c ih
  | user hscheme hu hv _ ih => exact .user hscheme hv hu ih

/-- A text has one first character outside of a class. -/
theorem split_unique {p : Char → Bool} {a b s t : List Char} {c d : Char}
    (ha : ∀ x ∈ a, p x = true) (hb : ∀ x ∈ b, p x = true) (hc : p c = false) (hd : p d = false)
    (h : a ++ c :: s = b ++ d :: t) : a = b ∧ c = d ∧ s = t := by
  have hleft := takeWhile_run (s := s) ha hc
  rw [h] at hleft
  have hright := takeWhile_run (s := t) hb hd
  obtain rfl : a = b := hleft.1.symm.trans hright.1
  have hrest := List.append_cancel_left h
  exact ⟨rfl, List.cons.inj hrest⟩

theorem scheme_ne_nil {scheme : List Char} (h : SchemeOk scheme) : scheme ≠ [] := by
  rintro rfl
  simp [SchemeOk] at h

/-- No part of a match but the last character is an at sign. -/
theorem not_at_of_ok {m : Credential} (hscheme : SchemeOk m.scheme) (hu : UserOk m.user) :
    ∀ c ∈ afterScheme m.scheme m.user, (c != '@') = true := by
  have hat : isSchemeChar '@' = false ∧ isUserChar '@' = false := by decide
  intro c hc
  simp only [afterScheme, List.mem_append, List.mem_cons] at hc
  rw [bne_iff_ne]
  rintro rfl
  rcases hc with hc | hc | hc | hc | hc
  · exact absurd (hscheme.2 _ hc) (by rw [hat.1]; exact Bool.false_ne_true)
  · exact absurd hc (by decide)
  · exact absurd hc (by decide)
  · exact absurd hc (by decide)
  · exact absurd (hu.2 _ hc) (by rw [hat.2]; exact Bool.false_ne_true)

theorem text_eq_append (m : Credential) (rest : List Char) :
    m.text rest = afterScheme m.scheme m.user ++ '@' :: rest := by
  simp [Credential.text, afterScheme]

/-- No match begins in a user: it would have a slash before its at sign. -/
theorem ne_text_of_user {u rest : List Char} (hu : ∀ c ∈ u, isUserChar c = true) {m : Credential}
    (hscheme : SchemeOk m.scheme) (huser : UserOk m.user) (s : List Char) :
    u ++ '@' :: rest ≠ m.text s := by
  intro heq
  rw [text_eq_append] at heq
  have hat : ∀ c ∈ u, (c != '@') = true := by
    intro c hc
    have hchar := hu c hc
    simp only [isUserChar, Bool.and_eq_true, decide_eq_true_eq] at hchar
    exact bne_iff_ne.2 hchar.1.2
  have hsplit := split_unique hat (not_at_of_ok hscheme huser) (by decide) (by decide) heq
  have hmem : '/' ∈ u := by
    rw [hsplit.1]
    simp [afterScheme]
  exact absurd (hu _ hmem) (by decide)

/-- A user and its at sign are kept. -/
theorem exchanged_user {u rest t : List Char} (hu : ∀ c ∈ u, isUserChar c = true)
    (h : Exchanged (u ++ '@' :: rest) t) :
    ∃ rest', t = u ++ '@' :: rest' ∧ Exchanged rest rest' := by
  induction u generalizing t with
  | nil =>
      generalize hs : [] ++ '@' :: rest = s at h
      cases h with
      | nil => cases hs
      | char c h =>
          cases hs
          exact ⟨_, rfl, h⟩
      | user hscheme hv hv' h => exact absurd hs (ne_text_of_user hu hscheme hv _)
  | cons d u ih =>
      generalize hs : d :: u ++ '@' :: rest = s at h
      cases h with
      | nil => cases hs
      | char c h =>
          cases hs
          obtain ⟨rest', rfl, hrest⟩ := ih (fun c hc => hu c (List.mem_cons_of_mem _ hc)) h
          exact ⟨rest', rfl, hrest⟩
      | user hscheme hv hv' h => exact absurd hs (ne_text_of_user hu hscheme hv _)

/-- A scheme is kept; what follows it is a user that is exchanged, or is exchanged further
back. -/
theorem exchanged_scheme {scheme v t : List Char} (hscheme : ∀ c ∈ scheme, isSchemeChar c = true)
    (h : Exchanged (afterScheme scheme v) t) :
    ∃ v', t = afterScheme scheme v' ∧ (Exchanged v v' ∨ ∃ u u' s s',
      UserOk u ∧ UserOk u' ∧ v = u ++ '@' :: s ∧ v' = u' ++ '@' :: s' ∧ Exchanged s s') := by
  have hclass : isSchemeChar ':' = false := by decide
  induction scheme generalizing t with
  | nil =>
      generalize hs : afterScheme [] v = s at h
      cases h with
      | nil => cases hs
      | user hscheme' hu hu' h =>
          -- a scheme does not begin with a colon
          have hsplit := split_unique (p := isSchemeChar) (a := []) nofun hscheme'.2
            hclass hclass hs
          exact absurd hsplit.1.symm (scheme_ne_nil hscheme')
      | char c h =>
          cases hs
          -- the slashes are no scheme either
          generalize hs : '/' :: '/' :: v = s at h
          cases h with
          | nil => cases hs
          | user hscheme' hu hu' h =>
              have hsplit := split_unique (p := isSchemeChar) (a := []) nofun hscheme'.2
                (by decide) hclass hs
              exact absurd hsplit.1.symm (scheme_ne_nil hscheme')
          | char c h =>
              cases hs
              generalize hs : '/' :: v = s at h
              cases h with
              | nil => cases hs
              | user hscheme' hu hu' h =>
                  have hsplit := split_unique (p := isSchemeChar) (a := []) nofun hscheme'.2
                    (by decide) hclass hs
                  exact absurd hsplit.1.symm (scheme_ne_nil hscheme')
              | char c h =>
                  cases hs
                  exact ⟨_, rfl, .inl h⟩
  | cons d scheme ih =>
      generalize hs : afterScheme (d :: scheme) v = s at h
      cases h with
      | nil => cases hs
      | char c h =>
          cases hs
          obtain ⟨v', rfl, hv⟩ := ih (fun c hc => hscheme c (List.mem_cons_of_mem _ hc)) h
          exact ⟨v', rfl, hv⟩
      | user hscheme' hu hu' h =>
          obtain ⟨hsame, -, hrest⟩ := split_unique hscheme hscheme'.2 hclass hclass hs
          rw [hsame]
          simp only [List.cons.injEq, true_and] at hrest
          exact ⟨_, rfl, .inr ⟨_, _, _, _, hu, hu', hrest, rfl, h⟩⟩

/-- **A match stays a match** when users are exchanged. -/
theorem exchanged_match {s t rest : List Char} {m : Credential} (h : Exchanged s t)
    (hs : credential? s = some (m, rest)) :
    ∃ user rest', credential? t = some (⟨m.scheme, user⟩, rest') ∧ Exchanged rest rest' := by
  obtain ⟨hscheme, huser, rfl⟩ := credential?_eq_some_iff.1 hs
  obtain ⟨v', rfl, hv | ⟨u, u', s, s', hu, hu', heq, rfl, hrest⟩⟩ := exchanged_scheme hscheme.2 h
  · obtain ⟨rest', rfl, hrest⟩ := exchanged_user huser.2 hv
    exact ⟨_, rest', credential?_eq_some_iff.2 ⟨hscheme, huser, rfl⟩, hrest⟩
  · obtain ⟨-, -, hsame⟩ := split_unique huser.2 hu.2 (by decide) (by decide) heq
    rw [hsame]
    exact ⟨u', s', credential?_eq_some_iff.2 ⟨hscheme, hu', rfl⟩, hrest⟩

theorem exchanged_none {s t : List Char} (h : Exchanged s t) (hs : credential? s = none) :
    credential? t = none := by
  by_contra hne
  obtain ⟨⟨m, rest⟩, ht⟩ := Option.ne_none_iff_exists'.1 hne
  obtain ⟨user, rest', hmatch, -⟩ := exchanged_match h.symm ht
  rw [hs] at hmatch
  cases hmatch

/-- **Exchanged users are redacted alike.** -/
theorem redactText_of_exchanged {s t : List Char} (h : Exchanged s t) :
    redactText s = redactText t := by
  refine Pattern.sub_congr (V := fun m n => m.scheme = n.scheme) ?_
    (Pattern.pieces_congr (R := Exchanged) ?_ ?_ h)
  · intro m n hscheme
    simp only [Credential.redact, hscheme]
  · intro t ht
    generalize hs : ([] : List Char) = s at ht
    cases ht with
    | nil => rfl
    | char => cases hs
    | user hscheme => exact absurd (List.append_eq_nil_iff.1 hs.symm).1 (scheme_ne_nil hscheme)
  · intro c s t ht
    cases hs : credential? (c :: s) with
    | some found =>
        obtain ⟨m, rest⟩ := found
        obtain ⟨user, rest', hmatch, hrest⟩ := exchanged_match ht hs
        exact .found hs hmatch rfl hrest
    | none =>
        have hnone := exchanged_none ht hs
        generalize heq : c :: s = s' at ht
        cases ht with
        | nil => cases heq
        | char d ht =>
            cases heq
            exact .char hs hnone ht
        | user hscheme hu hv ht =>
            rw [heq, credential?_eq_some_iff.2 ⟨hscheme, hu, rfl⟩] at hs
            cases hs

/-- Redaction exchanges users. -/
theorem exchanged_redactText (s : List Char) : Exchanged s (redactText s) := by
  induction s using credentialPattern.induction with
  | nil =>
      rw [redactText_nil]
      exact .nil
  | found text m rest h ih =>
      obtain ⟨hscheme, huser, rfl⟩ := credential?_eq_some_iff.1 h
      rw [redactText_of_match h]
      exact .user hscheme huser redacted_ok ih
  | char c cs h ih =>
      rw [redactText_of_none h]
      exact .char c ih

/-- The two texts differ by one credential. -/
inductive Swap : List Char → List Char → Prop
  | swap (front : List Char) {scheme u v : List Char} (rest : List Char) (hscheme : SchemeOk scheme)
      (hu : UserOk u) (hv : UserOk v) :
      Swap (front ++ (Credential.mk scheme u).text rest) (front ++ (Credential.mk scheme v).text rest)

/-- The two texts differ in the credentials of their URLs alone: one is made of the other by
exchanging one after the other. -/
def SameUrls : List Char → List Char → Prop := Relation.EqvGen Swap

theorem exchanged_of_swap {s t : List Char} (h : Swap s t) : Exchanged s t := by
  cases h with
  | swap front rest hscheme hu hv =>
      induction front with
      | nil => exact .user hscheme hu hv (.refl rest)
      | cons c front ih => exact .char c ih

theorem SameUrls.append {s t : List Char} (h : SameUrls s t) (front : List Char) :
    SameUrls (front ++ s) (front ++ t) := by
  induction h with
  | rel s t h =>
      cases h with
      | swap front' rest hscheme hu hv =>
          have hswap := Swap.swap (front ++ front') rest hscheme hu hv
          rw [List.append_assoc, List.append_assoc] at hswap
          exact .rel _ _ hswap
  | refl s => exact .refl _
  | symm s t _ ih => exact .symm _ _ ih
  | trans s t r _ _ ih ih' => exact .trans _ _ _ ih ih'

theorem sameUrls_of_exchanged {s t : List Char} (h : Exchanged s t) : SameUrls s t := by
  induction h with
  | nil => exact .refl _
  | char c _ ih => exact ih.append [c]
  | @user scheme u v s t hscheme hu hv _ ih =>
      have hswap : SameUrls ((Credential.mk scheme u).text s) ((Credential.mk scheme v).text s) :=
        .rel _ _ (.swap [] s hscheme hu hv)
      have hrest := ih.append (afterScheme scheme v ++ ['@'])
      simp only [List.append_assoc, List.singleton_append] at hrest
      refine .trans _ _ _ hswap ?_
      rw [text_eq_append, text_eq_append]
      exact hrest

/-- **Texts are redacted alike exactly when they differ in credentials alone.** -/
theorem redactText_eq_iff {s t : List Char} : redactText s = redactText t ↔ SameUrls s t := by
  constructor
  · intro h
    have hs := sameUrls_of_exchanged (exchanged_redactText s)
    have ht := sameUrls_of_exchanged (exchanged_redactText t)
    rw [h] at hs
    exact .trans _ _ _ hs (.symm _ _ ht)
  · intro h
    induction h with
    | rel s t h => exact redactText_of_exchanged (exchanged_of_swap h)
    | refl s => rfl
    | symm s t _ ih => exact ih.symm
    | trans s t r _ _ ih ih' => exact ih.trans ih'

/-! ## Texts without credentials -/

/-- Somewhere in the text is a URL with these credentials. -/
def HasCredentials (text user : List Char) : Prop :=
  ∃ front scheme rest, SchemeOk scheme ∧ UserOk user ∧
    text = front ++ (Credential.mk scheme user).text rest

/-- The part of a match behind its last slash. -/
theorem user_unique {a b u v : List Char} (hu : ∀ c ∈ u, isUserChar c = true)
    (hv : ∀ c ∈ v, isUserChar c = true) (h : a ++ '/' :: u = b ++ '/' :: v) : u = v := by
  have hreverse : u.reverse ++ '/' :: a.reverse = v.reverse ++ '/' :: b.reverse := by
    simpa using congrArg List.reverse h
  have hsplit := split_unique (p := isUserChar) (fun c hc => hu c (List.mem_reverse.1 hc))
    (fun c hc => hv c (List.mem_reverse.1 hc)) (by decide) (by decide) hreverse
  exact List.reverse_injective hsplit.1

/-- **The scan finds the credentials of every URL**, wherever it is. -/
theorem mem_findAll {text user : List Char} (h : HasCredentials text user) :
    ∃ m ∈ credentialPattern.findAll text, m.user = user := by
  induction text using credentialPattern.induction with
  | nil =>
      obtain ⟨front, scheme, rest, hscheme, -, heq⟩ := h
      have hnil := (List.append_eq_nil_iff.1 heq.symm).2
      exact absurd (List.append_eq_nil_iff.1 hnil).1 (scheme_ne_nil hscheme)
  | char c cs hnone ih =>
      obtain ⟨front, scheme, rest, hscheme, hu, heq⟩ := h
      rw [Pattern.findAll_of_none hnone]
      cases front with
      | nil =>
          have hsome := credential?_eq_some_iff.2 ⟨hscheme, hu, heq⟩
          rw [show credential? (c :: cs) = none from hnone] at hsome
          cases hsome
      | cons d front =>
          cases heq
          exact ih ⟨front, scheme, rest, hscheme, hu, rfl⟩
  | found text m behind hmatch ih =>
      obtain ⟨front, scheme, rest, hscheme, hu, heq⟩ := h
      obtain ⟨hmscheme, hmuser, htext⟩ := credential?_eq_some_iff.1 hmatch
      rw [Pattern.findAll_of_match hmatch]
      rw [htext, text_eq_append] at heq
      have hfirst := not_at_of_ok hmscheme hmuser
      by_cases hat : '@' ∈ front
      · -- the URL lies behind the match
        obtain ⟨before, after, rfl, hbefore⟩ := List.eq_append_cons_of_mem hat
        rw [List.append_assoc] at heq
        have hnot : ∀ c ∈ before, (c != '@') = true :=
          fun c hc => bne_iff_ne.2 fun heq => hbefore (heq ▸ hc)
        obtain ⟨-, -, hbehind⟩ := split_unique hfirst hnot (by decide) (by decide) heq
        obtain ⟨n, hn, huser⟩ := ih ⟨after, scheme, rest, hscheme, hu, hbehind⟩
        exact ⟨n, List.mem_cons_of_mem _ hn, huser⟩
      · -- the URL is the one that is matched
        rw [text_eq_append, ← List.append_assoc] at heq
        have hlast : ∀ c ∈ front ++ afterScheme scheme user, (c != '@') = true := by
          intro c hc
          rcases List.mem_append.1 hc with hc | hc
          · exact bne_iff_ne.2 fun heq => hat (heq ▸ hc)
          · exact not_at_of_ok (m := ⟨scheme, user⟩) hscheme hu c hc
        obtain ⟨hsame, -, -⟩ := split_unique hfirst hlast (by decide) (by decide) heq
        have hslashes : (m.scheme ++ [':', '/']) ++ '/' :: m.user =
            (front ++ scheme ++ [':', '/']) ++ '/' :: user := by
          simpa [afterScheme] using hsame
        exact ⟨m, List.mem_cons_self .., user_unique hmuser.2 hu.2 hslashes⟩

/-- The matches of a redacted text. -/
theorem findAll_redactText (s : List Char) :
    ∀ m ∈ credentialPattern.findAll (redactText s), m.user = redacted := by
  induction s using credentialPattern.induction with
  | nil => simp
  | char c cs h ih =>
      have hnone : credential? (c :: redactText cs) = none :=
        exchanged_none (.char c (exchanged_redactText cs)) h
      rw [redactText_of_none h, Pattern.findAll_of_none hnone]
      exact ih
  | found text m rest h ih =>
      obtain ⟨hscheme, -, -⟩ := credential?_eq_some_iff.1 h
      have hmatch : credential? ((Credential.mk m.scheme redacted).text (redactText rest)) =
          some (⟨m.scheme, redacted⟩, redactText rest) :=
        credential?_eq_some_iff.2 ⟨hscheme, redacted_ok, rfl⟩
      rw [redactText_of_match h, Pattern.findAll_of_match hmatch, List.forall_mem_cons]
      exact ⟨rfl, ih⟩

/-- **No URL of a redacted text has credentials left.** -/
theorem hasCredentials_redactText {s user : List Char} (h : HasCredentials (redactText s) user) :
    user = redacted := by
  obtain ⟨m, hm, rfl⟩ := mem_findAll h
  exact findAll_redactText s m hm

/-! ## Events -/

/-- A value of an event, with keys in `κ`; what is no container and no text is kept as it is. -/
inductive LogValue (κ α : Type) where
  | mapping (entries : List (κ × LogValue κ α))
  | list (items : List (LogValue κ α))
  | tuple (items : List (LogValue κ α))
  | text (value : String)
  | other (value : α)

/-- `_SENSITIVE_KEY_PARTS`. -/
def sensitiveKeyParts : List String :=
  ["password", "token", "api_key", "secret", "ssh_key", "authorization", "database_url"]

/-- `_SENSITIVE_EXACT_KEYS`. -/
def sensitiveExactKeys : List String := ["command"]

section Events

-- `str` is `str(key)`, for keys that need not be texts
variable {κ α : Type} (l : Lowercase) (str : κ → String)

/-- `_is_sensitive_key`. -/
def isSensitiveKey (key : κ) : Bool :=
  let normalized := (l.lower (str key).toList).map fun c => if c = '-' then '_' else c
  decide (String.ofList normalized ∈ sensitiveExactKeys) ||
    sensitiveKeyParts.any fun part => inText part normalized

mutual

/-- `_redact_value`. -/
def redactValue : LogValue κ α → LogValue κ α
  | .mapping entries => .mapping (redactEntries entries)
  | .list items => .list (redactItems items)
  | .tuple items => .tuple (redactItems items)
  | .text value => .text (String.ofList (redactText value.toList))
  | .other value => .other value

/-- The comprehension over a mapping. -/
def redactEntries : List (κ × LogValue κ α) → List (κ × LogValue κ α)
  | [] => []
  | e :: es =>
      (e.1, if isSensitiveKey l str e.1 then .text (String.ofList redacted) else redactValue e.2) ::
        redactEntries es

/-- The comprehension over a list or a tuple. -/
def redactItems : List (LogValue κ α) → List (LogValue κ α)
  | [] => []
  | x :: xs => redactValue x :: redactItems xs

end

mutual

/-- The values differ in secrets alone. -/
def SameLog : LogValue κ α → LogValue κ α → Prop
  | .mapping es, .mapping fs => SameEntries es fs
  | .list xs, .list ys => SameItems xs ys
  | .tuple xs, .tuple ys => SameItems xs ys
  | .text s, .text t => SameUrls s.toList t.toList
  | .other x, .other y => x = y
  | _, _ => False

/-- The same keys, with values that differ in secrets alone. -/
def SameEntries : List (κ × LogValue κ α) → List (κ × LogValue κ α) → Prop
  | [], [] => True
  | e :: es, f :: fs =>
      e.1 = f.1 ∧ (isSensitiveKey l str e.1 = false → SameLog e.2 f.2) ∧ SameEntries es fs
  | _, _ => False

/-- Items that differ in secrets alone. -/
def SameItems : List (LogValue κ α) → List (LogValue κ α) → Prop
  | [], [] => True
  | x :: xs, y :: ys => SameLog x y ∧ SameItems xs ys
  | _, _ => False

end

mutual

/-- There is no secret in the value. -/
def NoSecret : LogValue κ α → Prop
  | .mapping entries => NoSecretIn entries
  | .list items => NoSecretAmong items
  | .tuple items => NoSecretAmong items
  | .text value => ∀ user, HasCredentials value.toList user → user = redacted
  | .other _ => True

/-- Sensitive keys have no value, and the other values have no secret. -/
def NoSecretIn : List (κ × LogValue κ α) → Prop
  | [] => True
  | e :: es =>
      (if isSensitiveKey l str e.1 then e.2 = .text (String.ofList redacted) else NoSecret e.2) ∧
        NoSecretIn es

/-- There is no secret in the items. -/
def NoSecretAmong : List (LogValue κ α) → Prop
  | [] => True
  | x :: xs => NoSecret x ∧ NoSecretAmong xs

end

mutual

theorem noSecret_redactValue : (v : LogValue κ α) → NoSecret l str (redactValue l str v)
  | .mapping entries => noSecret_redactEntries entries
  | .list items => noSecret_redactItems items
  | .tuple items => noSecret_redactItems items
  | .text value => by
      intro user h
      rw [String.toList_ofList] at h
      exact hasCredentials_redactText h
  | .other value => trivial

theorem noSecret_redactEntries : (es : List (κ × LogValue κ α)) →
    NoSecretIn l str (redactEntries l str es)
  | [] => trivial
  | e :: es => by
      refine ⟨?_, noSecret_redactEntries es⟩
      by_cases hkey : isSensitiveKey l str e.1
      · simp only [hkey, if_true]
      · simp only [hkey]
        exact noSecret_redactValue e.2

theorem noSecret_redactItems : (xs : List (LogValue κ α)) →
    NoSecretAmong l str (redactItems l str xs)
  | [] => trivial
  | x :: xs => ⟨noSecret_redactValue x, noSecret_redactItems xs⟩

end

mutual

theorem redactValue_eq_iff : (v w : LogValue κ α) →
    (redactValue l str v = redactValue l str w ↔ SameLog l str v w)
  | .mapping es, .mapping fs => by
      simpa [redactValue, SameLog] using redactEntries_eq_iff es fs
  | .list xs, .list ys => by
      simpa [redactValue, SameLog] using redactItems_eq_iff xs ys
  | .tuple xs, .tuple ys => by
      simpa [redactValue, SameLog] using redactItems_eq_iff xs ys
  | .text s, .text t => by
      simp only [redactValue, SameLog, LogValue.text.injEq, String.ofList_inj]
      exact redactText_eq_iff
  | .other x, .other y => by
      simp [redactValue, SameLog]
  | .mapping _, .list _ | .mapping _, .tuple _ | .mapping _, .text _ | .mapping _, .other _
  | .list _, .mapping _ | .list _, .tuple _ | .list _, .text _ | .list _, .other _
  | .tuple _, .mapping _ | .tuple _, .list _ | .tuple _, .text _ | .tuple _, .other _
  | .text _, .mapping _ | .text _, .list _ | .text _, .tuple _ | .text _, .other _
  | .other _, .mapping _ | .other _, .list _ | .other _, .tuple _ | .other _, .text _ => by
      simp [redactValue, SameLog]

theorem redactEntries_eq_iff : (es fs : List (κ × LogValue κ α)) →
    (redactEntries l str es = redactEntries l str fs ↔ SameEntries l str es fs)
  | [], [] => by simp [redactEntries, SameEntries]
  | [], _ :: _ | _ :: _, [] => by simp [redactEntries, SameEntries]
  | e :: es, f :: fs => by
      have hrest := redactEntries_eq_iff es fs
      have hvalue := redactValue_eq_iff e.2 f.2
      simp only [redactEntries, SameEntries, List.cons.injEq, Prod.mk.injEq, hrest, and_assoc]
      refine and_congr_right fun hkey => and_congr_left' ?_
      rw [← hkey]
      cases isSensitiveKey l str e.1 with
      | true => simp
      | false => simpa using hvalue

theorem redactItems_eq_iff : (xs ys : List (LogValue κ α)) →
    (redactItems l str xs = redactItems l str ys ↔ SameItems l str xs ys)
  | [], [] => by simp [redactItems, SameItems]
  | [], _ :: _ | _ :: _, [] => by simp [redactItems, SameItems]
  | x :: xs, y :: ys => by
      simp only [redactItems, SameItems, List.cons.injEq, redactValue_eq_iff x y,
        redactItems_eq_iff xs ys]

end

end Events

end Core
end NodeNexus
