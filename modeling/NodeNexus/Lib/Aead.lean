import Mathlib.Data.List.Basic

/-!
# Authenticated encryption

A cipher encrypts bytes under a key and a nonce, and decrypts what it encrypted.

* `Aead.Ideal` — the idealisation that protocols are judged by: what was encrypted
  decrypts to itself, and nothing else decrypts, under this key or any other.
* `decrypt_eq_some_iff`, `encrypt_inj` — a ciphertext has one key and one plaintext.
* `Aead.labelled` — an ideal cipher, so that the laws are known to be consistent: it
  writes the key before the plaintext.

A cipher whose ciphertexts are longer than their plaintexts by a fixed number of bytes
has too few of them to tell infinitely many keys apart; so that number is only a bound.
-/

/-- A cipher with nonces. -/
structure Aead (Key : Type) where
  encrypt : Key → List UInt8 → List UInt8 → List UInt8
  /-- `none` when the authentication fails. -/
  decrypt : Key → List UInt8 → List UInt8 → Option (List UInt8)

namespace Aead

variable {Key : Type}

/-- An ideal cipher whose tags have `tag` bytes at least. -/
structure Ideal (cipher : Aead Key) (tag : Nat) : Prop where
  decrypt_encrypt : ∀ key nonce plaintext,
    cipher.decrypt key nonce (cipher.encrypt key nonce plaintext) = some plaintext
  /-- A changed ciphertext is rejected. -/
  authentic : ∀ key nonce ciphertext plaintext,
    cipher.decrypt key nonce ciphertext = some plaintext →
      cipher.encrypt key nonce plaintext = ciphertext
  /-- Another key is rejected. -/
  committing : ∀ key key' nonce plaintext plaintext',
    cipher.decrypt key' nonce (cipher.encrypt key nonce plaintext) = some plaintext' → key = key'
  length : ∀ key nonce plaintext,
    plaintext.length + tag ≤ (cipher.encrypt key nonce plaintext).length

namespace Ideal

variable {cipher : Aead Key} {tag : Nat} {key key' : Key}
variable {nonce ciphertext plaintext plaintext' : List UInt8}

theorem decrypt_eq_some_iff (h : cipher.Ideal tag) :
    cipher.decrypt key nonce ciphertext = some plaintext ↔
      cipher.encrypt key nonce plaintext = ciphertext := by
  constructor
  · exact h.authentic key nonce ciphertext plaintext
  · rintro rfl
    exact h.decrypt_encrypt key nonce plaintext

/-- **A ciphertext has one key and one plaintext.** -/
theorem encrypt_inj (h : cipher.Ideal tag)
    (heq : cipher.encrypt key nonce plaintext = cipher.encrypt key' nonce plaintext') :
    key = key' ∧ plaintext = plaintext' := by
  have hopened : cipher.decrypt key' nonce (cipher.encrypt key nonce plaintext) = some plaintext' :=
    h.decrypt_eq_some_iff.2 heq.symm
  have hkey : key = key' := h.committing key key' nonce plaintext plaintext' hopened
  subst hkey
  exact ⟨rfl, Option.some.inj ((h.decrypt_encrypt key nonce plaintext).symm.trans hopened)⟩

end Ideal

/-! ## An ideal cipher -/

/-- Bytes in a form that shows where they end. -/
def delimited : List UInt8 → List UInt8
  | [] => [0]
  | b :: bytes => 1 :: b :: delimited bytes

theorem delimited_append_inj {a b p q : List UInt8} (h : delimited a ++ p = delimited b ++ q) :
    a = b ∧ p = q := by
  induction a generalizing b with
  | nil =>
      cases b with
      | nil => exact ⟨rfl, (List.cons.inj h).2⟩
      | cons y b => exact absurd (List.cons.inj h).1 (by decide)
  | cons x a ih =>
      cases b with
      | nil => exact absurd (List.cons.inj h).1 (by decide)
      | cons y b =>
          obtain ⟨hxy, hrest⟩ := List.cons.inj (List.cons.inj h).2
          obtain ⟨hab, hpq⟩ := ih hrest
          exact ⟨congrArg₂ List.cons hxy hab, hpq⟩

/-- What a labelled ciphertext begins with. -/
def header (label : List UInt8) (tag : Nat) : List UInt8 :=
  List.replicate tag 0 ++ delimited label

/-- The cipher that writes a label of the key before the plaintext. -/
def labelled (label : Key → List UInt8) (tag : Nat) : Aead Key where
  encrypt key _ plaintext := header (label key) tag ++ plaintext
  decrypt key _ ciphertext :=
    if header (label key) tag <+: ciphertext then
      some (ciphertext.drop (header (label key) tag).length)
    else none

section Labelled

variable {label : Key → List UInt8} {tag : Nat} {key : Key}
variable {nonce ciphertext plaintext : List UInt8}

@[simp] theorem labelled_encrypt (nonce plaintext : List UInt8) :
    (labelled label tag).encrypt key nonce plaintext = header (label key) tag ++ plaintext :=
  rfl

theorem labelled_decrypt_eq_some_iff :
    (labelled label tag).decrypt key nonce ciphertext = some plaintext ↔
      header (label key) tag ++ plaintext = ciphertext := by
  unfold labelled
  dsimp only
  constructor
  · intro h
    split at h
    · rename_i hprefix
      obtain ⟨rest, rfl⟩ := hprefix
      rw [List.drop_left, Option.some.injEq] at h
      rw [h]
    · cases h
  · rintro rfl
    rw [if_pos (List.prefix_append _ _), List.drop_left]

/-- **The labelled cipher is ideal**, where the labels tell the keys apart. -/
theorem labelled_ideal (hlabel : Function.Injective label) (tag : Nat) :
    (labelled label tag).Ideal tag where
  decrypt_encrypt _ _ _ := labelled_decrypt_eq_some_iff.2 rfl
  authentic _ _ _ _ := labelled_decrypt_eq_some_iff.1
  committing key key' nonce plaintext plaintext' h := by
    have hsame := labelled_decrypt_eq_some_iff.1 h
    rw [labelled_encrypt, header, header, List.append_assoc, List.append_assoc] at hsame
    exact (hlabel (delimited_append_inj (List.append_cancel_left hsame)).1).symm
  length key nonce plaintext := by
    rw [labelled_encrypt, header, List.length_append, List.length_append, List.length_replicate]
    omega

end Labelled

end Aead
