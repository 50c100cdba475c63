import NodeNexus.Lib.JsonText

/-!
# JSON web tokens

A token is a JSON object of claims with a signature.  Whoever has the key can sign claims, and
a token that verifies is looked at once more: it was issued by somebody, and for some time.

* `Codec` — what a library offers under one key: a token for claims, and the claims of a token.
* `Registered` — the claims by which a token is judged, for one that was issued for some time.
* `Codec.Lawful` — what is relied on: the claims of a token that was issued are given back while
  it is valid, and at no other time.
-/

namespace Jwt

/-- The microseconds of a second, in which moments are counted. -/
def second : Int := 1000000

/-- The registered claims of a token that was issued for some time, in seconds. -/
structure Registered (claims : Json.Fields) (issuer : String) (issued expires : Int) : Prop where
  iat : Json.get claims "iat" = some (.int issued)
  exp : Json.get claims "exp" = some (.int expires)
  iss : Json.get claims "iss" = some (.str issuer)
  sub : ∃ text, Json.get claims "sub" = some (.str text)
  jti : ∃ text, Json.get claims "jti" = some (.str text)
  nbf : Json.get claims "nbf" = none
  aud : Json.get claims "aud" = none

/-- Tokens under one key. -/
structure Codec where
  /-- How a moment is written in a claim. -/
  numericDate : Int → Int
  encode : Json.Fields → String
  /-- The claims of a text, for an issuer and at a moment; `none` when it raises. -/
  decode : String → Int → String → Option Json.Fields

/-- Moments are written in whole seconds, and a token is valid from the second it was issued in to
the one it expires in. -/
structure Codec.Lawful (codec : Codec) : Prop where
  numericDate_le : ∀ t, codec.numericDate t * second ≤ t
  lt_numericDate : ∀ t, t < (codec.numericDate t + 1) * second
  decode_encode : ∀ {claims issuer issued expires}, Json.Plain (.dict claims) →
    Registered claims issuer issued expires → ∀ {now decoded},
      codec.decode issuer now (codec.encode claims) = some decoded ↔
        decoded = claims ∧ issued * second ≤ now ∧ now < expires * second

end Jwt
