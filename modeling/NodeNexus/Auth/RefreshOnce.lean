import NodeNexus.Auth.RefreshTokens

/-!
# A refresh token is exchanged at most once

The first check of a refresh token says nothing about the moment in which it is
consumed.  What makes the exchange safe is `rotate`: it deletes the row and
stores the new one in one transaction, and only when the row is still there.  A
token that is gone never comes back, since every new token has another hash.

* `TokensInv` — rows are tokens that were issued, and a token that a call holds
  is new.
* `gone_exec` — a token that was issued and has no row has none from then on.
* `exchanged_once` — over any interleaving a token is accepted at most once, not
  after a logout or its expiry; a call that succeeds replaces one row by one,
  and a call that raises leaves the table as it was.
-/

namespace NodeNexus
namespace Auth

open Content

variable {hash : Nat → String} {lifetime : Time}

/-! ## The invariant -/

variable (hash) in
/-- What holds of the tokens in every reachable state. -/
structure TokensInv (s : AuthState) : Prop where
  /-- Issued tokens were drawn, each is issued once. -/
  drawn : ∀ x ∈ s.issued, x.1 < s.drawn
  nodup : (s.issued.map (·.1)).Nodup
  /-- A token that a call holds was drawn and is not issued yet, -/
  held : ∀ (i : Nat) (call : Call) (phase : Phase) (token : Nat),
    s.calls[i]? = some (call, phase) → phase.held = some token →
      token < s.drawn ∧ token ∉ s.issued.map (·.1)
  /-- and no other call holds it. -/
  one_holder : ∀ (i j : Nat) (call call' : Call) (phase phase' : Phase) (token : Nat),
    s.calls[i]? = some (call, phase) → s.calls[j]? = some (call', phase') →
      phase.held = some token → phase'.held = some token → i = j
  /-- A row is an issued token with its expiry. -/
  rows : ∀ r ∈ s.table.rows, ∃ x ∈ s.issued, r.tokenHash = hash x.1 ∧ r.expiresAt = x.2

variable (hash) in
/-- A token was issued and has no row any more. -/
def Gone (s : AuthState) (h : String) : Prop :=
  (∃ x ∈ s.issued, hash x.1 = h) ∧ s.table.find? h = none

theorem tokensInv_init {s : AuthState} (h : (authSystem hash lifetime).init s) :
    TokensInv hash s := by
  obtain ⟨htable, hdrawn, hissued, hstart⟩ := h
  have hphase : ∀ (i : Nat) (call : Call) (phase : Phase), s.calls[i]? = some (call, phase) →
      phase = .start := fun i call phase hi => hstart _ (List.mem_of_getElem? hi)
  refine ⟨by simp [hissued], by simp [hissued], ?_, ?_, by simp [htable, Table.empty]⟩
  · intro i call phase token hi hheld
    rw [hphase i call phase hi] at hheld
    cases hheld
  · intro i j call call' phase phase' token hi _ hheld
    rw [hphase i call phase hi] at hheld
    cases hheld

/-- A step that issues nothing and takes no token into a call's hands. -/
theorem TokensInv.quiet {s : AuthState} (h : TokensInv hash s) {i : Nat} {call : Call}
    {phase phase' : Phase} (hi : s.calls[i]? = some (call, phase)) (hheld : phase'.held = none)
    {table : TokenTable} (htable : ∀ r ∈ table.rows, r ∈ s.table.rows) :
    TokensInv hash ⟨{ s.toTokens with table := table }, s.calls.set i (call, phase')⟩ where
  drawn := h.drawn
  nodup := h.nodup
  held j call' phase'' token hj htoken := by
    rw [getElem?_set_of_some hi] at hj
    split at hj
    · cases hj
      rw [hheld] at htoken
      cases htoken
    · exact h.held j call' phase'' token hj htoken
  one_holder j k call₁ call₂ phase₁ phase₂ token hj hk hj' hk' := by
    rw [getElem?_set_of_some hi] at hj hk
    split at hj
    · cases hj
      rw [hheld] at hj'
      cases hj'
    · split at hk
      · cases hk
        rw [hheld] at hk'
        cases hk'
      · exact h.one_holder j k _ _ _ _ token hj hk hj' hk'
  rows r hr := h.rows r (htable r hr)

/-- A step in which a call draws a token. -/
theorem TokensInv.draws {s : AuthState} (h : TokensInv hash s) {i : Nat} {call : Call}
    {phase phase' : Phase} (hi : s.calls[i]? = some (call, phase))
    (hheld : phase'.held = some s.drawn) :
    TokensInv hash ⟨{ s.toTokens with drawn := s.drawn + 1 }, s.calls.set i (call, phase')⟩ where
  drawn x hx := Nat.lt_succ_of_lt (h.drawn x hx)
  nodup := h.nodup
  held j call' phase'' token hj htoken := by
    rw [getElem?_set_of_some hi] at hj
    split at hj
    · cases hj
      cases hheld.symm.trans htoken
      refine ⟨Nat.lt_succ_self _, fun hmem => ?_⟩
      obtain ⟨x, hx, hxn⟩ := List.mem_map.1 hmem
      exact Nat.lt_irrefl _ (hxn ▸ h.drawn x hx)
    · obtain ⟨hlt, hnot⟩ := h.held j call' phase'' token hj htoken
      exact ⟨Nat.lt_succ_of_lt hlt, hnot⟩
  one_holder j k call₁ call₂ phase₁ phase₂ token hj hk hj' hk' := by
    rw [getElem?_set_of_some hi] at hj hk
    split at hj
    · rename_i hij
      cases hj
      cases hheld.symm.trans hj'
      split at hk
      · rename_i hik
        rw [← hij, ← hik]
      · exact absurd (h.held k _ _ _ hk hk').1 (Nat.lt_irrefl _)
    · split at hk
      · cases hk
        cases hheld.symm.trans hk'
        exact absurd (h.held j _ _ _ hj hj').1 (Nat.lt_irrefl _)
      · exact h.one_holder j k _ _ _ _ token hj hk hj' hk'
  rows := h.rows

/-- A step in which a call issues the token it holds. -/
theorem TokensInv.issues {s : AuthState} (h : TokensInv hash s) {i : Nat} {call : Call}
    {phase phase' : Phase} (userId : Uuid) {token : Nat} {expiresAt : Time}
    (hi : s.calls[i]? = some (call, phase)) (hphase : phase.held = some token)
    (hheld : phase'.held = none) {table : TokenTable}
    (htable : ∀ r ∈ table.rows, r = ⟨userId, hash token, expiresAt⟩ ∨ r ∈ s.table.rows) :
    TokensInv hash
      ⟨{ s.toTokens with table := table, issued := s.issued ++ [(token, expiresAt)] },
        s.calls.set i (call, phase')⟩ where
  drawn x hx := by
    rcases List.mem_append.1 hx with hx | hx
    · exact h.drawn x hx
    · rw [List.mem_singleton.1 hx]
      exact (h.held i call phase token hi hphase).1
  nodup := by
    rw [List.map_append, List.nodup_append]
    refine ⟨h.nodup, List.nodup_singleton _, ?_⟩
    rintro n hn m hm rfl
    have heq : n = token := List.mem_singleton.1 hm
    exact (h.held i call phase token hi hphase).2 (heq ▸ hn)
  held j call' phase'' token' hj htoken := by
    rw [getElem?_set_of_some hi] at hj
    split at hj
    · cases hj
      rw [hheld] at htoken
      cases htoken
    · rename_i hij
      obtain ⟨hlt, hnot⟩ := h.held j call' phase'' token' hj htoken
      refine ⟨hlt, fun hmem => ?_⟩
      rw [List.map_append, List.mem_append, List.map_singleton, List.mem_singleton] at hmem
      rcases hmem with hmem | rfl
      · exact hnot hmem
      · exact hij (h.one_holder i j _ _ _ _ token' hi hj hphase htoken)
  one_holder j k call₁ call₂ phase₁ phase₂ token' hj hk hj' hk' := by
    rw [getElem?_set_of_some hi] at hj hk
    split at hj
    · cases hj
      rw [hheld] at hj'
      cases hj'
    · split at hk
      · cases hk
        rw [hheld] at hk'
        cases hk'
      · exact h.one_holder j k _ _ _ _ token' hj hk hj' hk'
  rows r hr := by
    rcases htable r hr with rfl | hr
    · exact ⟨(token, expiresAt), List.mem_append_right _ (List.mem_singleton.2 rfl), rfl, rfl⟩
    · obtain ⟨x, hx, hrow⟩ := h.rows r hr
      exact ⟨x, List.mem_append_left _ hx, hrow⟩

/-- **Every step keeps the invariant.** -/
theorem TokensInv.step {s s' : AuthState} {e : Nat × Answer} (h : TokensInv hash s)
    (hstep : (authSystem hash lifetime).step s e = some s') : TokensInv hash s' := by
  obtain ⟨call, phase, tokens, phase', hi, hadv, rfl⟩ := authSystem_step hash lifetime hstep
  cases hadv with
  | quiet hended hheld hopen => exact h.quiet hi hheld fun r hr => hr
  | draws hended hheld hopen => exact h.draws hi hheld
  | cleaned hcall hphase => exact h.quiet hi rfl fun r hr => (Table.mem_keep.1 hr).1
  | @loggedIn userId token expiresAt hcall hphase hnew =>
      subst hphase
      refine h.issues userId hi rfl rfl fun r hr => ?_
      exact (Table.mem_put.1 hr).imp_right And.left
  | @refreshed h' token expiresAt now row hcall hphase hanswer hrow hvalid hnew =>
      subst hphase
      refine h.issues row.userId hi rfl rfl fun r hr => ?_
      exact (Table.mem_put.1 hr).imp_right fun hr => (Table.mem_erase.1 hr.1).1
  | loggedOut hcall hphase => exact h.quiet hi rfl fun r hr => (Table.mem_erase.1 hr).1

/-- The invariant holds in every reachable state. -/
theorem tokensInv_of_reachable {s : AuthState} (h : (authSystem hash lifetime).Reachable s) :
    TokensInv hash s :=
  h.invariant (fun _ => tokensInv_init) fun _ _ _ hs _ hstep => hs.step hstep

/-! ## A token that is gone -/

/-- A token without a row has none after rows were removed. -/
theorem find?_eq_none_of_subset {t t' : TokenTable} {h : String}
    (hsub : ∀ r ∈ t'.rows, r ∈ t.rows) (hnone : t.find? h = none) : t'.find? h = none :=
  Table.find?_eq_none.2 fun r hr => Table.find?_eq_none.1 hnone r (hsub r hr)

/-- A new token has another hash than every issued one. -/
theorem TokensInv.new_hash (hinj : Function.Injective hash) {s : AuthState} (h : TokensInv hash s)
    {i : Nat} {call : Call} {phase : Phase} {token : Nat} (hi : s.calls[i]? = some (call, phase))
    (hheld : phase.held = some token) {x : Nat × Time} (hx : x ∈ s.issued) :
    hash token ≠ hash x.1 := by
  intro heq
  apply (h.held i call phase token hi hheld).2
  rw [hinj heq]
  exact List.mem_map_of_mem hx

/-- **A token that is gone stays gone.** -/
theorem Gone.step (hinj : Function.Injective hash) {s s' : AuthState} {e : Nat × Answer}
    (hinv : TokensInv hash s) {h : String} (hg : Gone hash s h)
    (hstep : (authSystem hash lifetime).step s e = some s') : Gone hash s' h := by
  obtain ⟨call, phase, tokens, phase', hi, hadv, rfl⟩ := authSystem_step hash lifetime hstep
  obtain ⟨⟨x, hx, rfl⟩, hnone⟩ := hg
  cases hadv with
  | quiet hended hheld hopen => exact ⟨⟨x, hx, rfl⟩, hnone⟩
  | draws hended hheld hopen => exact ⟨⟨x, hx, rfl⟩, hnone⟩
  | cleaned hcall hphase =>
      exact ⟨⟨x, hx, rfl⟩, find?_eq_none_of_subset (fun r hr => (Table.mem_keep.1 hr).1) hnone⟩
  | loggedIn hcall hphase hnew =>
      subst hphase
      refine ⟨⟨x, List.mem_append_left _ hx, rfl⟩, ?_⟩
      rw [Table.find?_put, if_neg (Ne.symm (hinv.new_hash hinj hi rfl hx))]
      exact hnone
  | refreshed hcall hphase hanswer hrow hvalid hnew =>
      subst hphase
      refine ⟨⟨x, List.mem_append_left _ hx, rfl⟩, ?_⟩
      rw [Table.find?_put, if_neg (Ne.symm (hinv.new_hash hinj hi rfl hx))]
      exact find?_eq_none_of_subset (fun r hr => (Table.mem_erase.1 hr).1) hnone
  | loggedOut hcall hphase =>
      exact ⟨⟨x, hx, rfl⟩, find?_eq_none_of_subset (fun r hr => (Table.mem_erase.1 hr).1) hnone⟩

/-- It stays gone over any run. -/
theorem gone_exec (hinj : Function.Injective hash) {s t : AuthState} {es : List (Nat × Answer)}
    (hs : (authSystem hash lifetime).Reachable s) {h : String} (hg : Gone hash s h)
    (hexec : (authSystem hash lifetime).exec s es = some t) : Gone hash t h := by
  induction es generalizing s with
  | nil =>
      cases hexec
      exact hg
  | cons e es ih =>
      obtain ⟨s₁, hstep, hexec⟩ := Option.bind_eq_some_iff.1 hexec
      exact ih (.next hs trivial hstep) (hg.step hinj (tokensInv_of_reachable hs) hstep) hexec

/-! ## Calls that are accepted -/

/-- What a step does in which a call of `refresh_access_token` is accepted: the
row of its token is replaced. -/
theorem accepted_step {s s' : AuthState} {e : Nat × Answer}
    (hstep : (authSystem hash lifetime).step s e = some s') {h : String} {n : Nat}
    (hafter : s'.calls[e.1]? = some (.refreshAccessToken h, .refreshed n)) :
    ∃ row userId expiresAt now, e.2 = .tokens now ∧
      s.calls[e.1]? = some (.refreshAccessToken h, .rotating userId n expiresAt) ∧
      s.table.find? h = some row ∧ row.userId = userId ∧ now < row.expiresAt ∧
      (s.table.erase h).find? (hash n) = none ∧
      s'.table = (s.table.erase h).put ⟨userId, hash n, expiresAt⟩ ∧
      s'.issued = s.issued ++ [(n, expiresAt)] := by
  obtain ⟨call, phase, tokens, phase', hi, hadv, rfl⟩ := authSystem_step hash lifetime hstep
  dsimp only at hafter
  rw [getElem?_set_of_some hi, if_pos rfl] at hafter
  cases hafter
  cases hadv with
  | quiet hended hheld hopen => exact absurd rfl (hopen n).1
  | draws hended hheld hopen => exact absurd rfl (hopen n).1
  | refreshed hcall hphase hanswer hrow hvalid hnew =>
      cases hcall
      subst hphase
      exact ⟨_, _, _, _, hanswer, hi, hrow, rfl, hvalid, hnew, rfl, rfl⟩

/-- A call that is over does nothing more. -/
theorem not_step_of_ended {s s' : AuthState} {e : Nat × Answer}
    (hstep : (authSystem hash lifetime).step s e = some s') {call : Call} {phase : Phase}
    (hi : s.calls[e.1]? = some (call, phase)) : phase.ended = false := by
  obtain ⟨call', phase', tokens, phase'', hi', hadv, -⟩ := authSystem_step hash lifetime hstep
  cases hi.symm.trans hi'
  cases hadv with
  | quiet hended hheld hopen => exact hended
  | draws hended hheld hopen => exact hended
  | cleaned hcall hphase => rw [hphase]; rfl
  | loggedIn hcall hphase hnew => rw [hphase]; rfl
  | refreshed hcall hphase hanswer hrow hvalid hnew => rw [hphase]; rfl
  | loggedOut hcall hphase => rw [hphase]; rfl

/-- What is over stays as it is. -/
theorem ended_exec {s t : AuthState} {es : List (Nat × Answer)} {i : Nat} {call : Call}
    {phase : Phase} (hi : s.calls[i]? = some (call, phase)) (hended : phase.ended = true)
    (hexec : (authSystem hash lifetime).exec s es = some t) :
    t.calls[i]? = some (call, phase) := by
  induction es generalizing s with
  | nil =>
      cases hexec
      exact hi
  | cons e es ih =>
      obtain ⟨s₁, hstep, hexec⟩ := Option.bind_eq_some_iff.1 hexec
      apply ih _ hexec
      have hne : e.1 ≠ i := by
        rintro rfl
        rw [not_step_of_ended hstep hi] at hended
        cases hended
      obtain ⟨call', phase', tokens, phase'', hi', -, rfl⟩ := authSystem_step hash lifetime hstep
      dsimp only
      rw [getElem?_set_of_some hi', if_neg hne]
      exact hi

/-- A token that a call has consumed is gone, and no other call has consumed it. -/
structure Spent (hash : Nat → String) (s : AuthState) : Prop where
  gone : ∀ (i : Nat) (h : String) (n : Nat),
    s.calls[i]? = some (.refreshAccessToken h, .refreshed n) → Gone hash s h
  once : ∀ (i j : Nat) (h : String) (n m : Nat),
    s.calls[i]? = some (.refreshAccessToken h, .refreshed n) →
      s.calls[j]? = some (.refreshAccessToken h, .refreshed m) → i = j

theorem Spent.step (hinj : Function.Injective hash) {s s' : AuthState} {e : Nat × Answer}
    (hinv : TokensInv hash s) (hs : Spent hash s)
    (hstep : (authSystem hash lifetime).step s e = some s') : Spent hash s' := by
  -- a call that has consumed its token before the step, or in it
  have hcases : ∀ (i : Nat) (h : String) (n : Nat),
      s'.calls[i]? = some (.refreshAccessToken h, .refreshed n) →
      s.calls[i]? = some (.refreshAccessToken h, .refreshed n) ∨
        i = e.1 ∧ (s.table.find? h).isSome = true ∧ Gone hash s' h := by
    intro i h n hi
    by_cases hie : i = e.1
    · subst hie
      obtain ⟨row, userId, expiresAt, now, -, hbefore, hrow, -, -, -, htable, hissued⟩ :=
        accepted_step hstep hi
      refine .inr ⟨rfl, by rw [hrow]; rfl, ?_⟩
      obtain ⟨x, hx, hhash, -⟩ := hinv.rows row (Table.mem_of_find? hrow)
      have hhx : hash x.1 = h := by rw [← hhash, Table.key_of_find? hrow]
      refine ⟨⟨x, hissued ▸ List.mem_append_left _ hx, hhx⟩, ?_⟩
      have hne : h ≠ hash n := hhx ▸ Ne.symm (hinv.new_hash hinj hbefore rfl hx)
      rw [htable, Table.find?_put, if_neg hne, Table.find?_erase, if_pos rfl]
    · obtain ⟨call, phase, tokens, phase', hi', -, rfl⟩ := authSystem_step hash lifetime hstep
      dsimp only at hi
      rw [getElem?_set_of_some hi', if_neg (Ne.symm hie)] at hi
      exact .inl hi
  constructor
  · intro i h n hi
    rcases hcases i h n hi with hold | ⟨-, -, hg⟩
    · exact (hs.gone i h n hold).step hinj hinv hstep
    · exact hg
  · intro i j h n m hi hj
    rcases hcases i h n hi with hi | ⟨hi, hsome, -⟩
    · rcases hcases j h m hj with hj | ⟨hj, hsome, -⟩
      · exact hs.once i j h n m hi hj
      · rw [(hs.gone i h n hi).2] at hsome
        cases hsome
    · rcases hcases j h m hj with hj | ⟨hj, -, -⟩
      · rw [(hs.gone j h m hj).2] at hsome
        cases hsome
      · rw [hi, hj]

theorem spent_of_reachable (hinj : Function.Injective hash) {s : AuthState}
    (h : (authSystem hash lifetime).Reachable s) : Spent hash s := by
  have hboth : TokensInv hash s ∧ Spent hash s := by
    refine h.invariant (I := fun s => TokensInv hash s ∧ Spent hash s) ?_ ?_
    · intro s hinit
      have hnone : ∀ (i : Nat) (h : String) (n : Nat),
          s.calls[i]? ≠ some (.refreshAccessToken h, .refreshed n) := fun i h n hi => by
        cases hinit.2.2.2 _ (List.mem_of_getElem? hi)
      exact ⟨tokensInv_init hinit, fun i h n hi => absurd hi (hnone i h n),
        fun i j h n m hi => absurd hi (hnone i h n)⟩
    · intro s e s' hs _ hstep
      exact ⟨hs.1.step hstep, hs.2.step hinj hs.1 hstep⟩
  exact hboth.2

/-! ## At most one exchange -/

/-- What one expects of refresh tokens, over any interleaving of calls. -/
structure ExchangedOnce (hash : Nat → String) (lifetime : Time) : Prop where
  /-- At most one call is accepted with a token, -/
  once : ∀ s, (authSystem hash lifetime).Reachable s → ∀ (i j : Nat) (h : String) (n m : Nat),
    s.calls[i]? = some (.refreshAccessToken h, .refreshed n) →
    s.calls[j]? = some (.refreshAccessToken h, .refreshed m) → i = j
  /-- none whose rotation runs after a logout of the token, -/
  not_after_logout : ∀ s, (authSystem hash lifetime).Reachable s → ∀ x ∈ s.issued,
    ∀ (j : Nat) (now : Time) (s₁ : AuthState), s.calls[j]? = some (.logout (hash x.1), .start) →
    (authSystem hash lifetime).step s (j, .tokens now) = some s₁ →
    ∀ es s₂, (authSystem hash lifetime).exec s₁ es = some s₂ →
    ∀ (i : Nat) (answer : Answer) (s₃ : AuthState),
      (authSystem hash lifetime).step s₂ (i, answer) = some s₃ →
    ∀ n, s₃.calls[i]? ≠ some (.refreshAccessToken (hash x.1), .refreshed n)
  /-- and none whose rotation runs after the token has expired. -/
  not_expired : ∀ s, (authSystem hash lifetime).Reachable s → ∀ x ∈ s.issued,
    ∀ (i : Nat) (now : Time) (s₁ : AuthState),
      (authSystem hash lifetime).step s (i, .tokens now) = some s₁ →
    ∀ n, s₁.calls[i]? = some (.refreshAccessToken (hash x.1), .refreshed n) → now < x.2
  /-- A call that is accepted puts one new row in the place of the old one. -/
  replaced : ∀ s, (authSystem hash lifetime).Reachable s →
    ∀ (i : Nat) (answer : Answer) (s₁ : AuthState),
      (authSystem hash lifetime).step s (i, answer) = some s₁ →
    ∀ h n, s₁.calls[i]? = some (.refreshAccessToken h, .refreshed n) →
    ∃ old ∈ s.table.rows, old.tokenHash = h ∧ ∃ new : TokenRow, new.tokenHash = hash n ∧
      new.userId = old.userId ∧ new ∉ s.table.rows ∧
      ∀ r, r ∈ s₁.table.rows ↔ r = new ∨ r ∈ s.table.rows ∧ r ≠ old
  /-- A call changes the table in no other step, -/
  untouched : ∀ s, (authSystem hash lifetime).Reachable s →
    ∀ (i : Nat) (answer : Answer) (s₁ : AuthState) (h : String) (phase : Phase),
      s.calls[i]? = some (.refreshAccessToken h, phase) →
      (authSystem hash lifetime).step s (i, answer) = some s₁ →
      (∀ n, s₁.calls[i]? ≠ some (.refreshAccessToken h, .refreshed n)) → s₁.table = s.table
  /-- so one that raises in the end has not changed it. -/
  raised : ∀ s, (authSystem hash lifetime).Reachable s →
    ∀ (i : Nat) (answer : Answer) (s₁ : AuthState) (h : String) (phase : Phase),
      s.calls[i]? = some (.refreshAccessToken h, phase) →
      (authSystem hash lifetime).step s (i, answer) = some s₁ →
    ∀ es s₂, (authSystem hash lifetime).exec s₁ es = some s₂ →
      s₂.calls[i]? = some (.refreshAccessToken h, .raised) → s₁.table = s.table

/-- A step of `refresh_access_token` that is not accepted leaves the table
alone. -/
theorem untouched_step {s s₁ : AuthState} {e : Nat × Answer} {h : String} {phase : Phase}
    (hi : s.calls[e.1]? = some (.refreshAccessToken h, phase))
    (hstep : (authSystem hash lifetime).step s e = some s₁)
    (hnot : ∀ n, s₁.calls[e.1]? ≠ some (.refreshAccessToken h, .refreshed n)) :
    s₁.table = s.table := by
  obtain ⟨call, phase', tokens, phase'', hi', hadv, rfl⟩ := authSystem_step hash lifetime hstep
  cases hi.symm.trans hi'
  cases hadv with
  | quiet hended hheld hopen => rfl
  | draws hended hheld hopen => rfl
  | cleaned hcall hphase => cases hcall
  | loggedIn hcall hphase hnew => cases hcall
  | loggedOut hcall hphase => cases hcall
  | @refreshed h' token expiresAt now row hcall hphase hanswer hrow hvalid hnew =>
      refine absurd ?_ (hnot token)
      dsimp only
      rw [getElem?_set_of_some hi', if_pos rfl]

/-- **A refresh token is exchanged at most once**, over every interleaving of
logins, refreshes and logouts. -/
theorem exchanged_once (hinj : Function.Injective hash) (lifetime : Time) :
    ExchangedOnce hash lifetime where
  once s hs := (spent_of_reachable hinj hs).once
  not_after_logout := by
    intro s hs x hx j now s₁ hj hstep es s₂ hexec i answer s₃ hstep' n hafter
    have hs₁ : (authSystem hash lifetime).Reachable s₁ := .next hs trivial hstep
    have hgone : Gone hash s₁ (hash x.1) := by
      simp only [authSystem, hj, Phase.advance, delete, Option.map_some, Option.some.injEq]
        at hstep
      subst hstep
      exact ⟨⟨x, hx, rfl⟩, by rw [Table.find?_erase, if_pos rfl]⟩
    obtain ⟨row, -, -, -, -, -, hrow, -⟩ := accepted_step hstep' hafter
    rw [(gone_exec hinj hs₁ hgone hexec).2] at hrow
    cases hrow
  not_expired := by
    intro s hs x hx i now s₁ hstep n hafter
    obtain ⟨row, userId, expiresAt, now', hnow, hbefore, hrow, -, hvalid, -⟩ :=
      accepted_step hstep hafter
    cases hnow
    have hinv := tokensInv_of_reachable hs
    obtain ⟨y, hy, hhash, hexpires⟩ := hinv.rows row (Table.mem_of_find? hrow)
    -- the row is that of the token
    have hxy : x = y := by
      have htoken : x.1 = y.1 := hinj ((Table.key_of_find? hrow).symm.trans hhash)
      exact List.inj_on_of_nodup_map hinv.nodup hx hy htoken
    rw [hxy, ← hexpires]
    exact hvalid
  replaced := by
    intro s hs i answer s₁ hstep h n hafter
    obtain ⟨row, userId, expiresAt, now, -, hbefore, hrow, huser, -, hnew, htable, -⟩ :=
      accepted_step hstep hafter
    have hinv := tokensInv_of_reachable hs
    obtain ⟨hmem, hkey⟩ := Table.find?_eq_some.1 hrow
    have hfresh : ∀ r ∈ s.table.rows, r.tokenHash ≠ hash n := by
      intro r hr heq
      obtain ⟨x, hx, hhash, -⟩ := hinv.rows r hr
      exact hinv.new_hash hinj hbefore rfl hx (heq.symm.trans hhash)
    refine ⟨row, hmem, hkey, ⟨userId, hash n, expiresAt⟩, rfl, huser.symm,
      fun hmem => hfresh _ hmem rfl, fun r => ?_⟩
    rw [htable, Table.mem_put, Table.mem_erase]
    apply or_congr_right
    constructor
    · rintro ⟨⟨hr, hne⟩, -⟩
      exact ⟨hr, fun heq => hne (heq ▸ hkey)⟩
    · rintro ⟨hr, hne⟩
      refine ⟨⟨hr, fun heq => hne ?_⟩, hfresh r hr⟩
      have hfind : s.table.find? h = some r := heq ▸ Table.find?_of_mem hr
      exact Option.some.inj (hfind.symm.trans hrow)
  untouched s hs i answer s₁ h phase hi hstep hnot := untouched_step hi hstep hnot
  raised := by
    intro s hs i answer s₁ h phase hi hstep es s₂ hexec hraised
    refine untouched_step hi hstep fun n hafter => ?_
    cases (ended_exec hafter rfl hexec).symm.trans hraised

/-- A hash for an example: token `n` is a text of `n` letters. -/
def lettersHash (n : Nat) : String :=
  String.ofList (List.replicate n 'a')

theorem lettersHash_injective : Function.Injective lettersHash := by
  intro n m h
  have hlist : List.replicate n 'a' = List.replicate m 'a' := String.ofList_injective h
  simpa using congrArg List.length hlist

/-- A login, two refreshes of its token that take turns, and a logout. -/
def lateRefreshes : List (Nat × Answer) :=
  [(0, .userId (some 4)), (0, .password true), (0, .userActive true), (0, .tokens 1),
    (0, .superuser 1), (0, .tokens 1), (1, .tokens 2), (2, .tokens 2), (1, .userActive true),
    (2, .userActive true), (1, .user true 2), (2, .user true 2), (2, .tokens 3), (1, .tokens 3),
    (3, .tokens 4)]

/-- It is a hash as one expects: of the two refreshes, the one that rotates first is accepted, and
its token is there when the first one is logged out. -/
theorem exchanged_once_letters : ExchangedOnce lettersHash 7 ∧ ∃ s,
    (authSystem lettersHash 7).exec ⟨⟨.empty, 0, []⟩, [(.login, .start),
        (.refreshAccessToken "", .start), (.refreshAccessToken "", .start), (.logout "", .start)]⟩
        lateRefreshes = some s ∧
      s.calls.map (·.2) = [.loggedIn 0, .raised, .refreshed 2, .loggedOut] ∧
      s.table.rows.map (·.tokenHash) = ["aa"] :=
  ⟨exchanged_once lettersHash_injective 7, _, rfl, rfl, rfl⟩

end Auth
end NodeNexus
