import NodeNexus.Lib.Aead
import NodeNexus.Lib.Base64
import NodeNexus.Lib.Utf8
import NodeNexus.Node.Service

/-!
# The cipher of credentials

`credential_cipher.py` encrypts the secrets of nodes with AES-GCM, under a key that HKDF
derives from `SECRET_KEY` and `ENCRYPTION_SALT`.  A rotation changes one of the two
settings or both, keeps the old value in its `_PREV` setting and clears the cached
keys; what was encrypted before is then decrypted with the key that
`_derive_prev_key` puts together from up to four settings.

* `encrypt`, `decrypt`, `decryptValue` — the functions, with the two caches as a state;
  `step` — one of them, or a rotation.
* `decryptValue_eq_ok_iff` — what decrypts: the bytes of an encryption under the current
  key or the fallback key, in any spelling that `b64decode` reads.
* `Survives` — what is promised after some rotations.
* `credentials_survive_iff` — it holds exactly when the latest rotation can be undone
  (`Recoverable`), and of a string that is no stray (`Stray`).

AES-GCM and HKDF are parameters; `Crypto.Ideal` is what is assumed of them.
-/

namespace NodeNexus
namespace CredentialCipher

open Node (NodeFailure)

variable {Key : Type}

/-! ## Settings and keys -/

/-- The settings that the cipher reads. -/
structure Settings where
  secretKey : String
  encryptionSalt : String
  encryptionSaltPrev : Option String
  secretKeyPrev : Option String

/-- What runs outside. -/
structure Crypto (Key : Type) where
  /-- `AESGCM`, without associated data. -/
  aesGcm : Aead Key
  /-- `_hkdf_derive`, of a secret and a salt. -/
  hkdf : String → String → Key

/-- What is assumed of AES-GCM, whose tags have 16 bytes, and of HKDF. -/
structure Crypto.Ideal (crypto : Crypto Key) : Prop where
  cipher : crypto.aesGcm.Ideal 16
  derives : ∀ secret salt secret' salt', crypto.hkdf secret salt = crypto.hkdf secret' salt' →
    secret = secret' ∧ salt = salt'

/-- The key that the settings stand for. -/
def Settings.key (crypto : Crypto Key) (st : Settings) : Key :=
  crypto.hkdf st.secretKey st.encryptionSalt

/-- A setting that is there: `if settings.SECRET_KEY_PREV`. -/
def given (setting : Option String) : Option String := setting.filter (· ≠ "")

/-- The secret and the salt of the fallback key. -/
def Settings.fallback (st : Settings) : Option (String × String) :=
  match given st.secretKeyPrev, given st.encryptionSaltPrev with
  | some secret, some salt => some (secret, salt)
  -- salt not rotated, use current salt with prev secret
  | some secret, none => some (secret, st.encryptionSalt)
  | none, some salt => some (st.secretKey, salt)
  | none, none => none

/-- The fallback key. -/
def Settings.prevKey (crypto : Crypto Key) (st : Settings) : Option Key :=
  st.fallback.map fun pair => crypto.hkdf pair.1 pair.2

/-- The settings and the cached keys. -/
structure CipherState (Key : Type) where
  settings : Settings
  /-- The cache of `_derive_key`. -/
  key : Option Key
  /-- The cache of `_derive_prev_key`. -/
  prevKey : Option (Option Key)
  /-- The settings before each rotation, those before the latest one first, which the code
  does not keep. -/
  past : List Settings

/-- `_derive_key`. -/
def deriveKey (crypto : Crypto Key) (s : CipherState Key) : Key × CipherState Key :=
  match s.key with
  | some key => (key, s)
  | none => (s.settings.key crypto, { s with key := some (s.settings.key crypto) })

/-- `_derive_prev_key`. -/
def derivePrevKey (crypto : Crypto Key) (s : CipherState Key) : Option Key × CipherState Key :=
  match s.prevKey with
  | some prev => (prev, s)
  | none => (s.settings.prevKey crypto, { s with prevKey := some (s.settings.prevKey crypto) })

/-- `clear_key_cache`. -/
def clearKeyCache (s : CipherState Key) : CipherState Key :=
  { s with key := none, prevKey := none }

/-! ## Encryption -/

/-- `ENCRYPTION_PREFIX`. -/
def encryptionPrefix : String := "enc:v1:"

/-- The text of an encryption under a key. -/
def sealText (crypto : Crypto Key) (key : Key) (nonce : List UInt8) (plaintext : String) :
    String :=
  String.ofList (encryptionPrefix.toList ++ Base64.encode
    (nonce ++ crypto.aesGcm.encrypt key nonce (Utf8.encode plaintext.toList)))

/-- `encrypt`; the nonce is what `os.urandom(12)` returned. -/
def encrypt (crypto : Crypto Key) (s : CipherState Key) (nonce : List UInt8) (plaintext : String) :
    String × CipherState Key :=
  (sealText crypto (deriveKey crypto s).1 nonce plaintext, (deriveKey crypto s).2)

/-! ## Decryption -/

/-- What `decrypt` raises. -/
inductive DecryptFailure where
  | valueError (text : String)
  /-- `binascii.Error`, or the `ValueError` of a text that is not ASCII. -/
  | base64 (cause : Base64.Malformed)
  | invalidTag
  | unicodeDecodeError

/-- `AESGCM(key).decrypt(nonce, ciphertext, None).decode()`. -/
def openText (crypto : Crypto Key) (key : Key) (nonce ciphertext : List UInt8) :
    Except DecryptFailure String :=
  match crypto.aesGcm.decrypt key nonce ciphertext with
  | none => .error .invalidTag
  | some bytes =>
      match Utf8.decode? bytes with
      | none => .error .unicodeDecodeError
      | some cs => .ok (String.ofList cs)

/-- The end of `decrypt`: the current key, then the fallback key. -/
def decryptRaw (crypto : Crypto Key) (s : CipherState Key) (nonce ciphertext : List UInt8) :
    Except DecryptFailure String × CipherState Key :=
  match openText crypto (deriveKey crypto s).1 nonce ciphertext with
  | .ok text => (.ok text, (deriveKey crypto s).2)
  | .error primary =>
      match (derivePrevKey crypto (deriveKey crypto s).2).1 with
      | none => (.error primary, (derivePrevKey crypto (deriveKey crypto s).2).2)
      | some prev =>
          match openText crypto prev nonce ciphertext with
          | .ok text => (.ok text, (derivePrevKey crypto (deriveKey crypto s).2).2)
          | .error _ => (.error primary, (derivePrevKey crypto (deriveKey crypto s).2).2)

/-- `decrypt`. -/
def decrypt (crypto : Crypto Key) (s : CipherState Key) (token : String) :
    Except DecryptFailure String × CipherState Key :=
  if encryptionPrefix.toList <+: token.toList then
    match Base64.decodeValidating (token.toList.drop encryptionPrefix.length) with
    | .error cause => (.error (.base64 cause), s)
    | .ok raw =>
        if raw.length < 28 then (.error (.valueError "Encrypted payload is too short"), s)
        else decryptRaw crypto s (raw.take 12) (raw.drop 12)
  else (.error (.valueError "Missing encryption prefix"), s)

/-- `CredentialDecryptionError("Credential decryption failed")`. -/
def decryptionFailed : NodeFailure :=
  ⟨.credentialDecryptionError, "Credential decryption failed"⟩

/-- What `decrypt_value` makes of the answer of `decrypt`. -/
def answer : Except DecryptFailure String → Except NodeFailure (Option String)
  | .ok text => .ok (some text)
  | .error _ => .error decryptionFailed

/-- `decrypt_value`. -/
def decryptValue (crypto : Crypto Key) (s : CipherState Key) (value : Option String) :
    Except NodeFailure (Option String) × CipherState Key :=
  match given value with
  | none => (.ok value, s)
  | some text =>
      if encryptionPrefix.toList <+: text.toList then
        (answer (decrypt crypto s text).1, (decrypt crypto s text).2)
      else (.error decryptionFailed, s)

/-! ## Rotations -/

/-- What happens to the cipher. -/
inductive Event where
  /-- A rotation, with the new values of both settings; a setting that has its new value
  already is not changed. -/
  | rotate (secretKey encryptionSalt : String)
  | encrypt (nonce : List UInt8) (plaintext : String)
  | decrypt (value : Option String)

/-- The settings after a rotation. -/
def Settings.rotate (st : Settings) (secretKey encryptionSalt : String) : Settings where
  secretKey := secretKey
  encryptionSalt := encryptionSalt
  encryptionSaltPrev :=
    if st.encryptionSalt = encryptionSalt then st.encryptionSaltPrev else some st.encryptionSalt
  secretKeyPrev := if st.secretKey = secretKey then st.secretKeyPrev else some st.secretKey

/-- A rotation; one that changes nothing only clears the caches. -/
def rotate (s : CipherState Key) (secretKey encryptionSalt : String) : CipherState Key :=
  if s.settings.secretKey = secretKey ∧ s.settings.encryptionSalt = encryptionSalt then
    clearKeyCache s
  else
    clearKeyCache { s with
      settings := s.settings.rotate secretKey encryptionSalt
      past := s.settings :: s.past }

/-- One step. -/
def step (crypto : Crypto Key) (s : CipherState Key) : Event → CipherState Key
  | .rotate secretKey encryptionSalt => rotate s secretKey encryptionSalt
  | .encrypt nonce plaintext => (encrypt crypto s nonce plaintext).2
  | .decrypt value => (decryptValue crypto s value).2

/-- No key is cached. -/
def initial (start : Settings) : CipherState Key := ⟨start, none, none, []⟩

/-- The state after some events. -/
def run (crypto : Crypto Key) (start : Settings) (es : List Event) : CipherState Key :=
  es.foldl (step crypto) (initial start)

/-! ## What is promised -/

/-- The string is what `encrypt` makes of some plaintext under the settings. -/
def IsEncryption (crypto : Crypto Key) (st : Settings) (value : String) : Prop :=
  ∃ nonce plaintext, nonce.length = 12 ∧ value = sealText crypto (st.key crypto) nonce plaintext

/-- What is promised of a state and a string. -/
structure Survives (crypto : Crypto Key) (s : CipherState Key) (value : String) : Prop where
  current : ∀ nonce plaintext, nonce.length = 12 → plaintext ≠ "" →
    (decryptValue crypto (encrypt crypto s nonce plaintext).2
      (some (encrypt crypto s nonce plaintext).1)).1 = .ok (some plaintext)
  /-- An encryption from just before the latest rotation. -/
  previous : ∀ old ∈ s.past.head?, ∀ nonce plaintext, nonce.length = 12 → plaintext ≠ "" →
    (decryptValue crypto s (some (sealText crypto (old.key crypto) nonce plaintext))).1 =
      .ok (some plaintext)
  /-- A string that is no encryption under settings that are or were in force. -/
  rejects : value ≠ "" → (∀ st ∈ s.settings :: s.past, ¬ IsEncryption crypto st value) →
    (decryptValue crypto s (some value)).1 = .error decryptionFailed

/-- The rotation from one setting to the other can be undone: every setting that changed
had a value, and of one that did not change no other value is kept. -/
structure Recoverable (old new : Settings) : Prop where
  secretKey : old.secretKey ≠ new.secretKey → old.secretKey ≠ ""
  encryptionSalt : old.encryptionSalt ≠ new.encryptionSalt → old.encryptionSalt ≠ ""
  secretKeyPrev : old.secretKey = new.secretKey →
    ∀ prev ∈ given old.secretKeyPrev, prev = old.secretKey
  encryptionSaltPrev : old.encryptionSalt = new.encryptionSalt →
    ∀ prev ∈ given old.encryptionSaltPrev, prev = old.encryptionSalt

/-- The string is a base64 text of the bytes, after the prefix. -/
def Spells (value : String) (raw : List UInt8) : Prop :=
  ∃ payload, value.toList = encryptionPrefix.toList ++ payload ∧
    Base64.decodeValidating payload = .ok raw

/-- The keys that `decrypt` tries. -/
def Settings.Tries (crypto : Crypto Key) (st : Settings) (key : Key) : Prop :=
  key = st.key crypto ∨ st.prevKey crypto = some key

/-- A string that is decrypted although it is no encryption under settings that are or were
in force. -/
inductive Stray (crypto : Crypto Key) (s : CipherState Key) (value : String) : Prop
  /-- An encryption under a key that is tried, in another spelling: `b64decode` does not look
  at the bits that the last digit has to spare. -/
  | respelled (key : Key) (nonce : List UInt8) (plaintext : String)
      (tried : s.settings.Tries crypto key) (length : nonce.length = 12)
      (spelled : Spells value
        (nonce ++ crypto.aesGcm.encrypt key nonce (Utf8.encode plaintext.toList)))
      (other : value ≠ sealText crypto key nonce plaintext)
  /-- An encryption under a fallback that was never in force. -/
  | neverInForce (pair : String × String) (nonce : List UInt8) (plaintext : String)
      (fallback : s.settings.fallback = some pair)
      (never : ∀ st ∈ s.settings :: s.past, (st.secretKey, st.encryptionSalt) ≠ pair)
      (length : nonce.length = 12)
      (encrypted : value = sealText crypto (crypto.hkdf pair.1 pair.2) nonce plaintext)

/-! ## The caches -/

/-- The new settings come from a rotation of the old ones. -/
structure RotatesTo (old new : Settings) : Prop where
  changed : ¬(old.secretKey = new.secretKey ∧ old.encryptionSalt = new.encryptionSalt)
  eq_rotate : new = old.rotate new.secretKey new.encryptionSalt

/-- The cached keys are those of the settings, and the latest rotation led to them. -/
structure Inv (crypto : Crypto Key) (s : CipherState Key) : Prop where
  key : ∀ key ∈ s.key, key = s.settings.key crypto
  prevKey : ∀ prev ∈ s.prevKey, prev = s.settings.prevKey crypto
  rotated : ∀ old ∈ s.past.head?, RotatesTo old s.settings

section Caches

variable {crypto : Crypto Key} {s : CipherState Key}

theorem deriveKey_fst (hs : Inv crypto s) : (deriveKey crypto s).1 = s.settings.key crypto := by
  unfold deriveKey
  cases hkey : s.key with
  | none => rfl
  | some key => exact hs.key key hkey

theorem derivePrevKey_fst (hs : Inv crypto s) :
    (derivePrevKey crypto s).1 = s.settings.prevKey crypto := by
  unfold derivePrevKey
  cases hprev : s.prevKey with
  | none => rfl
  | some prev => exact hs.prevKey prev hprev

@[simp] theorem settings_deriveKey : (deriveKey crypto s).2.settings = s.settings := by
  unfold deriveKey
  cases s.key <;> rfl

theorem inv_deriveKey (hs : Inv crypto s) : Inv crypto (deriveKey crypto s).2 := by
  unfold deriveKey
  cases s.key with
  | some key => exact hs
  | none => exact ⟨fun key hkey => (Option.some.inj hkey).symm, hs.prevKey, hs.rotated⟩

theorem inv_derivePrevKey (hs : Inv crypto s) : Inv crypto (derivePrevKey crypto s).2 := by
  unfold derivePrevKey
  cases s.prevKey with
  | some prev => exact hs
  | none => exact ⟨hs.key, fun prev hprev => (Option.some.inj hprev).symm, hs.rotated⟩

theorem inv_clearKeyCache (hrotated : ∀ old ∈ s.past.head?, RotatesTo old s.settings) :
    Inv crypto (clearKeyCache s) :=
  ⟨fun key hkey => absurd hkey (Option.not_mem_none key),
    fun prev hprev => absurd hprev (Option.not_mem_none prev), hrotated⟩

theorem inv_decryptRaw (hs : Inv crypto s) (nonce ciphertext : List UInt8) :
    Inv crypto (decryptRaw crypto s nonce ciphertext).2 := by
  unfold decryptRaw
  split
  · exact inv_deriveKey hs
  · split
    · exact inv_derivePrevKey (inv_deriveKey hs)
    · split <;> exact inv_derivePrevKey (inv_deriveKey hs)

theorem inv_decrypt (hs : Inv crypto s) (token : String) :
    Inv crypto (decrypt crypto s token).2 := by
  unfold decrypt
  split
  · split
    · exact hs
    · split
      · exact hs
      · exact inv_decryptRaw hs _ _
  · exact hs

theorem inv_decryptValue (hs : Inv crypto s) (value : Option String) :
    Inv crypto (decryptValue crypto s value).2 := by
  unfold decryptValue
  split
  · exact hs
  · split
    · exact inv_decrypt hs _
    · exact hs

theorem inv_rotate (hs : Inv crypto s) (secretKey encryptionSalt : String) :
    Inv crypto (rotate s secretKey encryptionSalt) := by
  unfold rotate
  split
  · exact inv_clearKeyCache hs.rotated
  · rename_i hchanged
    refine inv_clearKeyCache fun old hold => ?_
    cases hold
    exact ⟨hchanged, rfl⟩

/-- Every step keeps the invariant. -/
theorem inv_step (hs : Inv crypto s) (e : Event) : Inv crypto (step crypto s e) := by
  cases e with
  | rotate secretKey encryptionSalt => exact inv_rotate hs secretKey encryptionSalt
  | encrypt nonce plaintext => exact inv_deriveKey hs
  | decrypt value => exact inv_decryptValue hs value

theorem inv_initial (crypto : Crypto Key) (start : Settings) : Inv crypto (initial start) :=
  ⟨fun key hkey => absurd hkey (Option.not_mem_none key),
    fun prev hprev => absurd hprev (Option.not_mem_none prev),
    fun old hold => absurd hold (Option.not_mem_none old)⟩

theorem inv_run (crypto : Crypto Key) (start : Settings) (es : List Event) :
    Inv crypto (run crypto start es) :=
  List.foldlRecOn es (step crypto) (inv_initial crypto start) fun _ hs e _ => inv_step hs e

/-- `encrypt` encrypts under the key of the settings. -/
theorem encrypt_fst (hs : Inv crypto s) (nonce : List UInt8) (plaintext : String) :
    (encrypt crypto s nonce plaintext).1 =
      sealText crypto (s.settings.key crypto) nonce plaintext := by
  rw [encrypt, deriveKey_fst hs]

end Caches

/-! ## What is read -/

section Texts

variable {crypto : Crypto Key} {value : String} {raw raw' : List UInt8}

theorem utf8_encode_inj {s t : List Char} (h : Utf8.encode s = Utf8.encode t) : s = t :=
  Option.some.inj ((Utf8.decode?_eq_some_iff.2 rfl).symm.trans (Utf8.decode?_eq_some_iff.2 h.symm))

/-- A string spells the bytes of one encryption only. -/
theorem Spells.eq (h : Spells value raw) (h' : Spells value raw') : raw = raw' := by
  obtain ⟨payload, hvalue, hraw⟩ := h
  obtain ⟨payload', hvalue', hraw'⟩ := h'
  rw [hvalue] at hvalue'
  cases List.append_cancel_left hvalue'
  exact Except.ok.inj (hraw.symm.trans hraw')

theorem spells_sealText (key : Key) (nonce : List UInt8) (plaintext : String) :
    Spells (sealText crypto key nonce plaintext)
      (nonce ++ crypto.aesGcm.encrypt key nonce (Utf8.encode plaintext.toList)) :=
  ⟨_, String.toList_ofList, Base64.decodeValidating_encode _⟩

theorem Spells.ne_empty (h : Spells value raw) : value ≠ "" := by
  rintro rfl
  obtain ⟨payload, hvalue, -⟩ := h
  exact absurd hvalue (by simp [encryptionPrefix])

/-- The bytes of an encryption tell its key, its nonce and its plaintext. -/
theorem encrypted_inj (hideal : crypto.Ideal) {key key' : Key} {nonce nonce' : List UInt8}
    {plaintext plaintext' : String} (hlength : nonce.length = 12) (hlength' : nonce'.length = 12)
    (h : nonce ++ crypto.aesGcm.encrypt key nonce (Utf8.encode plaintext.toList) =
      nonce' ++ crypto.aesGcm.encrypt key' nonce' (Utf8.encode plaintext'.toList)) :
    key = key' ∧ nonce = nonce' ∧ plaintext = plaintext' := by
  obtain ⟨hnonce, hciphertext⟩ := List.append_inj h (hlength.trans hlength'.symm)
  subst hnonce
  obtain ⟨hkey, hbytes⟩ := hideal.cipher.encrypt_inj hciphertext
  exact ⟨hkey, rfl, String.toList_injective (utf8_encode_inj hbytes)⟩

/-- Settings with one key have one secret and one salt. -/
theorem Settings.key_inj (hideal : crypto.Ideal) {st st' : Settings}
    (h : st.key crypto = st'.key crypto) :
    st.secretKey = st'.secretKey ∧ st.encryptionSalt = st'.encryptionSalt :=
  hideal.derives _ _ _ _ h

end Texts

/-! ## Decryption -/

section Decryption

variable {crypto : Crypto Key} {s : CipherState Key}

theorem openText_eq_ok_iff (hideal : crypto.Ideal) {key : Key} {nonce ciphertext : List UInt8}
    {plaintext : String} : openText crypto key nonce ciphertext = .ok plaintext ↔
      crypto.aesGcm.encrypt key nonce (Utf8.encode plaintext.toList) = ciphertext := by
  unfold openText
  constructor
  · intro h
    split at h
    · cases h
    · rename_i bytes hbytes
      split at h
      · cases h
      · rename_i cs hcs
        cases h
        rw [String.toList_ofList, Utf8.decode?_eq_some_iff.1 hcs]
        exact hideal.cipher.decrypt_eq_some_iff.1 hbytes
  · intro h
    have hbytes := hideal.cipher.decrypt_eq_some_iff.2 h
    have hcs : Utf8.decode? (Utf8.encode plaintext.toList) = some plaintext.toList :=
      Utf8.decode?_eq_some_iff.2 rfl
    simp only [hbytes, hcs, String.ofList_toList]

/-- A ciphertext is read with the key it was made with, the current one or the fallback. -/
theorem decryptRaw_eq_ok_iff (hideal : crypto.Ideal) (hs : Inv crypto s)
    {nonce ciphertext : List UInt8} {plaintext : String} :
    (decryptRaw crypto s nonce ciphertext).1 = .ok plaintext ↔ ∃ key, s.settings.Tries crypto key ∧
      crypto.aesGcm.encrypt key nonce (Utf8.encode plaintext.toList) = ciphertext := by
  have hkey := deriveKey_fst hs
  have hprev := derivePrevKey_fst (inv_deriveKey hs)
  rw [settings_deriveKey] at hprev
  unfold decryptRaw
  rw [hkey, hprev]
  constructor
  · intro h
    split at h
    · rename_i text hopened
      cases h
      exact ⟨_, .inl rfl, (openText_eq_ok_iff hideal).1 hopened⟩
    · split at h
      · cases h
      · rename_i prev hfallback
        split at h
        · rename_i text hopened
          cases h
          exact ⟨prev, .inr hfallback, (openText_eq_ok_iff hideal).1 hopened⟩
        · cases h
  · rintro ⟨key, htried, hciphertext⟩
    have hopened := (openText_eq_ok_iff hideal).2 hciphertext
    rcases htried with rfl | hfallback
    · simp only [hopened]
    · cases hcurrent : openText crypto (s.settings.key crypto) nonce ciphertext with
      | ok text =>
          -- both keys open the ciphertext, so they are one
          have hsame := hideal.cipher.encrypt_inj
            (((openText_eq_ok_iff hideal).1 hcurrent).trans hciphertext.symm)
          rw [String.toList_injective (utf8_encode_inj hsame.2)]
      | error primary => simp only [hfallback, hopened]

theorem decrypt_eq_ok_iff (hideal : crypto.Ideal) (hs : Inv crypto s) {token plaintext : String} :
    (decrypt crypto s token).1 = .ok plaintext ↔ ∃ key nonce, s.settings.Tries crypto key ∧
      nonce.length = 12 ∧ Spells token
        (nonce ++ crypto.aesGcm.encrypt key nonce (Utf8.encode plaintext.toList)) := by
  unfold decrypt
  constructor
  · intro h
    split at h
    · rename_i hprefix
      split at h
      · cases h
      · rename_i raw hraw
        split at h
        · cases h
        · rename_i hlength
          obtain ⟨key, htried, hciphertext⟩ := (decryptRaw_eq_ok_iff hideal hs).1 h
          obtain ⟨payload, hpayload⟩ := hprefix
          refine ⟨key, raw.take 12, htried, by rw [List.length_take]; omega, payload,
            hpayload.symm, ?_⟩
          rw [hciphertext, List.take_append_drop, ← hraw, ← hpayload]
          exact congrArg _ List.drop_left.symm
    · cases h
  · rintro ⟨key, nonce, htried, hlength, payload, htoken, hraw⟩
    have hbound := hideal.cipher.length key nonce (Utf8.encode plaintext.toList)
    rw [if_pos ⟨payload, htoken.symm⟩, htoken, ← String.length_toList, List.drop_left, hraw]
    dsimp only
    rw [if_neg (by rw [List.length_append]; omega)]
    refine (decryptRaw_eq_ok_iff hideal hs).2 ⟨key, ?_, ?_⟩
    · exact htried
    · rw [← hlength, List.take_left, List.drop_left]

/-- **What decrypts**: the bytes of an encryption under a key that is tried, in any spelling. -/
theorem decryptValue_eq_ok_iff (hideal : crypto.Ideal) (hs : Inv crypto s)
    {value plaintext : String} (hvalue : value ≠ "") :
    (decryptValue crypto s (some value)).1 = .ok (some plaintext) ↔
      ∃ key nonce, s.settings.Tries crypto key ∧ nonce.length = 12 ∧ Spells value
        (nonce ++ crypto.aesGcm.encrypt key nonce (Utf8.encode plaintext.toList)) := by
  have hgiven : given (some value) = some value := by simp [given, hvalue]
  rw [← decrypt_eq_ok_iff hideal hs, decryptValue, hgiven]
  dsimp only
  by_cases hprefix : encryptionPrefix.toList <+: value.toList
  · rw [if_pos hprefix]
    cases hresult : (decrypt crypto s value).1 with
    | ok text => simp [answer]
    | error failure => simp [answer]
  · rw [if_neg hprefix, decrypt, if_neg hprefix]
    simp

/-- Everything else is rejected with one error. -/
theorem decryptValue_cases {value : String} (hvalue : value ≠ "") :
    (∃ plaintext, (decryptValue crypto s (some value)).1 = .ok (some plaintext)) ∨
      (decryptValue crypto s (some value)).1 = .error decryptionFailed := by
  have hgiven : given (some value) = some value := by simp [given, hvalue]
  rw [decryptValue, hgiven]
  dsimp only
  split
  · cases (decrypt crypto s value).1 with
    | ok text => exact .inl ⟨text, rfl⟩
    | error failure => exact .inr rfl
  · exact .inr rfl

/-- An encryption is read exactly when its key is tried. -/
theorem decryptValue_sealText (hideal : crypto.Ideal) (hs : Inv crypto s) {key : Key}
    {nonce : List UInt8} (hlength : nonce.length = 12) (plaintext : String) :
    (decryptValue crypto s (some (sealText crypto key nonce plaintext))).1 = .ok (some plaintext) ↔
      s.settings.Tries crypto key := by
  have hspells : Spells (sealText crypto key nonce plaintext) _ :=
    spells_sealText key nonce plaintext
  rw [decryptValue_eq_ok_iff hideal hs hspells.ne_empty]
  constructor
  · rintro ⟨key', nonce', htried, hlength', hspells'⟩
    rw [(encrypted_inj hideal hlength hlength' (hspells.eq hspells')).1]
    exact htried
  · intro htried
    exact ⟨key, nonce, htried, hlength, hspells⟩

end Decryption

/-! ## Rotations that can be undone -/

section Rotations

variable {old new : Settings}

theorem given_some_of_ne {value : String} (h : value ≠ "") : given (some value) = some value := by
  simp [given, h]

/-- The `_PREV` setting of a rotation leads back to the old value. -/
theorem given_rotated_iff {old new : String} {prev : Option String} :
    (given (if old = new then prev else some old)).getD new = old ↔
      (old ≠ new → old ≠ "") ∧ (old = new → ∀ value ∈ given prev, value = old) := by
  by_cases hsame : old = new
  · rw [if_pos hsame]
    subst hsame
    cases hprev : given prev with
    | none => simp
    | some value => simp
  · rw [if_neg hsame]
    by_cases hempty : old = ""
    · subst hempty
      have hnone : given (some "") = none := rfl
      rw [hnone]
      simp [hsame, Ne.symm hsame]
    · rw [given_some_of_ne hempty]
      simp [hsame, hempty]

theorem fallback_eq_some_iff {st : Settings} {secret salt : String} :
    st.fallback = some (secret, salt) ↔
      ((given st.secretKeyPrev).isSome ∨ (given st.encryptionSaltPrev).isSome) ∧
        (given st.secretKeyPrev).getD st.secretKey = secret ∧
        (given st.encryptionSaltPrev).getD st.encryptionSalt = salt := by
  unfold Settings.fallback
  cases given st.secretKeyPrev <;> cases given st.encryptionSaltPrev <;> simp

/-- **The fallback is the pair before the rotation** exactly when the rotation can be
undone. -/
theorem fallback_rotated_iff (h : RotatesTo old new) :
    new.fallback = some (old.secretKey, old.encryptionSalt) ↔ Recoverable old new := by
  obtain ⟨hchanged, hrotate⟩ := h
  have hsecretPrev : new.secretKeyPrev =
      if old.secretKey = new.secretKey then old.secretKeyPrev else some old.secretKey :=
    congrArg Settings.secretKeyPrev hrotate
  have hsaltPrev : new.encryptionSaltPrev =
      if old.encryptionSalt = new.encryptionSalt then old.encryptionSaltPrev
      else some old.encryptionSalt :=
    congrArg Settings.encryptionSaltPrev hrotate
  rw [fallback_eq_some_iff, hsecretPrev, hsaltPrev, given_rotated_iff, given_rotated_iff]
  constructor
  · rintro ⟨-, ⟨hsecret, hsecretKept⟩, hsalt, hsaltKept⟩
    exact ⟨hsecret, hsalt, hsecretKept, hsaltKept⟩
  · rintro ⟨hsecret, hsalt, hsecretKept, hsaltKept⟩
    refine ⟨?_, ⟨hsecret, hsecretKept⟩, hsalt, hsaltKept⟩
    by_cases hsame : old.secretKey = new.secretKey
    · have hdiffers : old.encryptionSalt ≠ new.encryptionSalt := fun heq => hchanged ⟨hsame, heq⟩
      rw [if_neg hdiffers, given_some_of_ne (hsalt hdiffers)]
      exact .inr rfl
    · rw [if_neg hsame, given_some_of_ne (hsecret hsame)]
      exact .inl rfl

variable {crypto : Crypto Key}

theorem prevKey_eq_some_iff (hideal : crypto.Ideal) {st st' : Settings} :
    st.prevKey crypto = some (st'.key crypto) ↔
      st.fallback = some (st'.secretKey, st'.encryptionSalt) := by
  unfold Settings.prevKey
  rw [Option.map_eq_some_iff]
  constructor
  · rintro ⟨pair, hpair, hkey⟩
    obtain ⟨hsecret, hsalt⟩ := hideal.derives _ _ _ _ hkey
    rw [hpair, ← hsecret, ← hsalt]
  · intro h
    exact ⟨_, h, rfl⟩

/-- The key from before a rotation is tried exactly when the rotation can be undone. -/
theorem tries_old_iff (hideal : crypto.Ideal) (h : RotatesTo old new) :
    new.Tries crypto (old.key crypto) ↔ Recoverable old new := by
  have hother : old.key crypto ≠ new.key crypto :=
    fun heq => h.changed (Settings.key_inj hideal heq)
  rw [Settings.Tries, or_iff_right hother, prevKey_eq_some_iff hideal, fallback_rotated_iff h]

end Rotations

/-! ## All strings -/

section Survival

variable {crypto : Crypto Key} {s : CipherState Key} {value : String}

/-- A string that is decrypted is an encryption or a stray. -/
theorem stray_of_decrypted (hideal : crypto.Ideal) (hs : Inv crypto s) (hvalue : value ≠ "")
    (hother : ∀ st ∈ s.settings :: s.past, ¬ IsEncryption crypto st value) {plaintext : String}
    (h : (decryptValue crypto s (some value)).1 = .ok (some plaintext)) : Stray crypto s value := by
  obtain ⟨key, nonce, htried, hlength, hspells⟩ := (decryptValue_eq_ok_iff hideal hs hvalue).1 h
  by_cases hcanonical : value = sealText crypto key nonce plaintext
  · rcases htried with rfl | hprev
    · exact absurd ⟨nonce, plaintext, hlength, hcanonical⟩ (hother _ (List.mem_cons_self ..))
    · obtain ⟨pair, hfallback, rfl⟩ := Option.map_eq_some_iff.1 hprev
      refine .neverInForce pair nonce plaintext hfallback ?_ hlength hcanonical
      rintro st hst rfl
      exact hother st hst ⟨nonce, plaintext, hlength, hcanonical⟩
  · exact .respelled key nonce plaintext htried hlength hspells hcanonical

-- one byte in two spellings: the last digit has four bits to spare
example : Base64.decodeValidating ['Q', 'Q', '=', '='] = .ok [65] ∧
    Base64.decodeValidating ['Q', 'R', '=', '='] = .ok [65] := ⟨rfl, rfl⟩

theorem Stray.spells (h : Stray crypto s value) : ∃ raw, Spells value raw := by
  cases h with
  | respelled key nonce plaintext _ _ hspells _ => exact ⟨_, hspells⟩
  | neverInForce pair nonce plaintext _ _ _ hvalue =>
      exact ⟨_, hvalue ▸ spells_sealText _ nonce plaintext⟩

/-- A stray is decrypted. -/
theorem Stray.decrypted (hideal : crypto.Ideal) (hs : Inv crypto s) (h : Stray crypto s value) :
    ∃ plaintext, (decryptValue crypto s (some value)).1 = .ok (some plaintext) := by
  cases h with
  | respelled key nonce plaintext htried hlength hspells _ =>
      exact ⟨plaintext, (decryptValue_eq_ok_iff hideal hs hspells.ne_empty).2
        ⟨key, nonce, htried, hlength, hspells⟩⟩
  | neverInForce pair nonce plaintext hfallback _ hlength hvalue =>
      refine ⟨plaintext, ?_⟩
      rw [hvalue]
      refine (decryptValue_sealText hideal hs hlength plaintext).2 (.inr ?_)
      exact Option.map_eq_some_iff.2 ⟨pair, hfallback, rfl⟩

/-- A stray is no encryption under settings that are or were in force. -/
theorem Stray.other (hideal : crypto.Ideal) (h : Stray crypto s value) :
    value ≠ "" ∧ ∀ st ∈ s.settings :: s.past, ¬ IsEncryption crypto st value := by
  obtain ⟨raw, hraw⟩ := h.spells
  refine ⟨hraw.ne_empty, ?_⟩
  cases h with
  | respelled key nonce plaintext _ hlength hspells hdiffers =>
      rintro st - ⟨nonce', plaintext', hlength', rfl⟩
      obtain ⟨rfl, rfl, rfl⟩ := encrypted_inj hideal hlength hlength'
        (hspells.eq (spells_sealText ..))
      exact hdiffers rfl
  | neverInForce pair nonce plaintext _ hnever hlength hvalue =>
      have hspells : Spells value _ := hvalue ▸ spells_sealText _ nonce plaintext
      rintro st hst ⟨nonce', plaintext', hlength', rfl⟩
      obtain ⟨hkey, -, -⟩ := encrypted_inj hideal hlength hlength'
        (hspells.eq (spells_sealText ..))
      obtain ⟨hsecret, hsalt⟩ := hideal.derives _ _ _ _ hkey
      exact hnever st hst (Prod.ext hsecret.symm hsalt.symm)

/-- A string is rejected as promised exactly when it is no stray. -/
theorem rejects_iff (hideal : crypto.Ideal) (hs : Inv crypto s) :
    (value ≠ "" → (∀ st ∈ s.settings :: s.past, ¬ IsEncryption crypto st value) →
      (decryptValue crypto s (some value)).1 = .error decryptionFailed) ↔
        ¬ Stray crypto s value := by
  constructor
  · intro h hstray
    obtain ⟨hvalue, hother⟩ := hstray.other hideal
    obtain ⟨plaintext, hplaintext⟩ := hstray.decrypted hideal hs
    rw [h hvalue hother] at hplaintext
    cases hplaintext
  · intro h hvalue hother
    refine (decryptValue_cases hvalue).resolve_left ?_
    rintro ⟨plaintext, hplaintext⟩
    exact h (stray_of_decrypted hideal hs hvalue hother hplaintext)

/-- What was encrypted just before the latest rotation is read exactly when this rotation
can be undone. -/
theorem previous_iff (hideal : crypto.Ideal) (hs : Inv crypto s) :
    (∀ old ∈ s.past.head?, ∀ nonce plaintext, nonce.length = 12 → plaintext ≠ "" →
      (decryptValue crypto s (some (sealText crypto (old.key crypto) nonce plaintext))).1 =
        .ok (some plaintext)) ↔ ∀ old ∈ s.past.head?, Recoverable old s.settings := by
  refine forall₂_congr fun old hold => ?_
  rw [← tries_old_iff hideal (hs.rotated old hold)]
  constructor
  · intro h
    have hlength : (List.replicate 12 (0 : UInt8)).length = 12 := List.length_replicate
    exact (decryptValue_sealText hideal hs hlength "x").1 (h _ "x" hlength (by decide))
  · intro h nonce plaintext hlength _
    exact (decryptValue_sealText hideal hs hlength plaintext).2 h

theorem survives_iff (hideal : crypto.Ideal) (hs : Inv crypto s) : Survives crypto s value ↔
    (∀ old ∈ s.past.head?, Recoverable old s.settings) ∧ ¬ Stray crypto s value := by
  rw [← previous_iff hideal hs, ← rejects_iff hideal hs]
  constructor
  · intro h
    exact ⟨h.previous, h.rejects⟩
  · rintro ⟨hprevious, hrejects⟩
    refine ⟨fun nonce plaintext hlength _ => ?_, hprevious, hrejects⟩
    rw [encrypt_fst hs]
    refine (decryptValue_sealText hideal (inv_deriveKey hs) hlength plaintext).2 (.inl ?_)
    exact congrArg (Settings.key crypto) settings_deriveKey.symm

end Survival

/-- **Credentials survive the latest rotation**, and a string is rejected as promised, exactly
when this rotation can be undone and the string is no stray. -/
theorem credentials_survive_iff {crypto : Crypto Key} (hideal : crypto.Ideal) (start : Settings)
    (es : List Event) (value : String) :
    Survives crypto (run crypto start es) value ↔
      (∀ old ∈ (run crypto start es).past.head?, Recoverable old (run crypto start es).settings) ∧
        ¬ Stray crypto (run crypto start es) value :=
  survives_iff hideal (inv_run crypto start es)

/-! ## An ideal cipher -/

/-- A cipher and a key derivation that write down what they are given. -/
def labelledCrypto : Crypto (List UInt8) where
  aesGcm := Aead.labelled id 16
  hkdf secret salt := Aead.delimited (Utf8.encode secret.toList) ++ Utf8.encode salt.toList

theorem labelledCrypto_ideal : labelledCrypto.Ideal where
  cipher := Aead.labelled_ideal Function.injective_id 16
  derives secret salt secret' salt' h := by
    obtain ⟨hsecret, hsalt⟩ := Aead.delimited_append_inj h
    exact ⟨String.toList_injective (utf8_encode_inj hsecret),
      String.toList_injective (utf8_encode_inj hsalt)⟩

/-- Settings before the first rotation. -/
def firstSettings : Settings := ⟨"secret-0", "salt-0", none, none⟩

/-- After a rotation of the secret, credentials survive. -/
theorem credentials_survive_secret :
    Survives labelledCrypto (run labelledCrypto firstSettings [.rotate "secret-1" "salt-0"])
      "x" := by
  refine (credentials_survive_iff labelledCrypto_ideal _ _ _).2 ⟨?_, fun h => ?_⟩
  · intro old hold
    cases hold
    exact ⟨fun _ => by decide, fun h => absurd rfl h, fun h => absurd h (by decide),
      fun _ prev hprev => absurd hprev (Option.not_mem_none prev)⟩
  · obtain ⟨raw, payload, hvalue, -⟩ := h.spells
    exact absurd hvalue (by simp [encryptionPrefix])

/-- The secret is rotated, then the salt: the fallback pairs the old salt with the oldest
secret. -/
theorem not_credentials_survive : ¬ ∀ start es value,
    Survives labelledCrypto (run labelledCrypto start es) value := by
  intro h
  have hsurvives := h firstSettings [.rotate "secret-1" "salt-0", .rotate "secret-1" "salt-1"] "x"
  have hrecoverable := (previous_iff labelledCrypto_ideal (inv_run ..)).1 hsurvives.previous _ rfl
  have hkept := hrecoverable.secretKeyPrev rfl "secret-0" rfl
  exact absurd hkept (by decide)

end CredentialCipher
end NodeNexus
