import NodeNexus.Lib.Utf8

/-!
# Captured and persisted output

The output of a remote command is bounded twice: `_read_bounded_stream` keeps
at most 1 MiB of a stream in memory, and `bound_output` keeps at most 64 KiB of
the text for the database.  Both cut the UTF-8 form, the first with a
replacement character for a cut character and a marker at the end, the second
silently.

* `readBoundedStream_eq` — what is kept of a stream does not depend on its chunks.
* `boundOutput_longest` — what is persisted is the longest prefix that fits.
* `readBoundedStream_of_fits`, `boundOutput_of_fits` — output that fits comes back
  unchanged.
* `isLongestFitting_captured` — both together keep the longest beginning of what
  was sent that fits.
-/

namespace NodeNexus
namespace Remote

/-- `_MAX_CAPTURED_OUTPUT_BYTES`. -/
def maxCapturedOutputBytes : Nat := 1048576

/-- `_OUTPUT_TRUNCATED_MARKER`. -/
def outputTruncatedMarker : List Char := "\n...[remote output truncated]".toList

/-- `DEFAULT_MAX_PERSISTED_OUTPUT_BYTES`. -/
def defaultMaxPersistedOutputBytes : Nat := 65536

/-- U+FFFD, which `errors="replace"` puts in the place of an ill-formed part. -/
def replacementCharacter : Char := '\uFFFD'

/-! ## `_read_bounded_stream` -/

/-- The loop over the chunks: the bytes captured, and whether any were dropped.
At most `maxBytes` are captured, so `remaining` is never negative. -/
def captureChunks (maxBytes : Nat) :
    List (List Char) → List UInt8 → Bool → List UInt8 × Bool
  | [], captured, truncated => (captured, truncated)
  | chunk :: rest, captured, truncated =>
      let encoded := Utf8.encode chunk
      let remaining := maxBytes - captured.length
      captureChunks maxBytes rest (captured ++ encoded.take remaining)
        (truncated || decide (remaining < encoded.length))

/-- `_read_bounded_stream`. -/
def readBoundedStream (stream : List (List Char)) (maxBytes : Nat) : List Char :=
  let (captured, truncated) := captureChunks maxBytes stream [] false
  let value := Utf8.decode [replacementCharacter] captured
  if truncated then value ++ outputTruncatedMarker else value

/-- The loop after some chunks, whose text was `seen`: it has captured as much of that
text as fits, and knows whether that was all. -/
theorem captureChunks_seen (maxBytes : Nat) (stream : List (List Char)) (seen : List Char) :
    captureChunks maxBytes stream ((Utf8.encode seen).take maxBytes)
        (decide (maxBytes < (Utf8.encode seen).length)) =
      ((Utf8.encode (seen ++ stream.flatten)).take maxBytes,
        decide (maxBytes < (Utf8.encode (seen ++ stream.flatten)).length)) := by
  induction stream generalizing seen with
  | nil => rw [captureChunks, List.flatten_nil, List.append_nil]
  | cons chunk rest ih =>
      have hcaptured : (Utf8.encode seen).take maxBytes ++ (Utf8.encode chunk).take
          (maxBytes - ((Utf8.encode seen).take maxBytes).length) =
            (Utf8.encode (seen ++ chunk)).take maxBytes := by
        rw [Utf8.encode_append, List.take_append, List.length_take]
        congr 2
        omega
      have htruncated : (decide (maxBytes < (Utf8.encode seen).length) ||
          decide (maxBytes - ((Utf8.encode seen).take maxBytes).length <
            (Utf8.encode chunk).length)) =
          decide (maxBytes < (Utf8.encode (seen ++ chunk)).length) := by
        rw [Utf8.encode_append, List.length_append, List.length_take, ← Bool.decide_or]
        apply decide_eq_decide.2
        omega
      rw [captureChunks]
      simp only [hcaptured, htruncated]
      rw [ih, List.flatten_cons, List.append_assoc]

/-- What the loop has captured of a stream. -/
theorem captureChunks_eq (maxBytes : Nat) (stream : List (List Char)) :
    captureChunks maxBytes stream [] false = ((Utf8.encode stream.flatten).take maxBytes,
      decide (maxBytes < (Utf8.encode stream.flatten).length)) := by
  have hseen := captureChunks_seen maxBytes stream []
  rw [Utf8.encode_nil, List.take_nil, List.nil_append] at hseen
  exact hseen

/-- **What is kept of a stream does not depend on its chunks**: the text itself where it
fits, else what its first bytes decode to, with the marker. -/
theorem readBoundedStream_eq (stream : List (List Char)) (maxBytes : Nat) :
    readBoundedStream stream maxBytes =
      if (Utf8.encode stream.flatten).length ≤ maxBytes then stream.flatten
      else Utf8.decode [replacementCharacter] ((Utf8.encode stream.flatten).take maxBytes) ++
        outputTruncatedMarker := by
  simp only [readBoundedStream, captureChunks_eq, decide_eq_true_eq]
  by_cases hfits : (Utf8.encode stream.flatten).length ≤ maxBytes
  · rw [if_pos hfits, if_neg (by omega), List.take_of_length_le hfits, Utf8.decode_encode]
  · rw [if_neg hfits, if_pos (by omega)]

/-- Output that fits is captured as it was sent, however it was cut into
chunks. -/
theorem readBoundedStream_of_fits {stream : List (List Char)} {maxBytes : Nat}
    (h : (Utf8.encode stream.flatten).length ≤ maxBytes) :
    readBoundedStream stream maxBytes = stream.flatten := by
  simp only [readBoundedStream, captureChunks_eq, List.take_of_length_le h]
  rw [decide_eq_false (by omega)]
  exact Utf8.decode_encode _ _

/-! ## `bound_output` -/

/-- `BoundedOutput`. -/
structure BoundedOutput where
  value : List Char
  originalBytes : Nat
  truncated : Bool
  deriving DecidableEq

/-- `bound_output`, for a bound that is not negative. -/
def boundOutput (value : List Char) (maxBytes : Nat) : BoundedOutput :=
  let raw := Utf8.encode value
  if raw.length ≤ maxBytes then
    { value := value, originalBytes := raw.length, truncated := false }
  else
    { value := Utf8.decode [] (raw.take maxBytes), originalBytes := raw.length, truncated := true }

/-- Output that fits is persisted as it is. -/
theorem boundOutput_of_fits {value : List Char} {maxBytes : Nat}
    (h : (Utf8.encode value).length ≤ maxBytes) :
    boundOutput value maxBytes = ⟨value, (Utf8.encode value).length, false⟩ := by
  rw [boundOutput]
  exact if_pos h

/-- Output that does not fit is cut. -/
theorem boundOutput_of_exceeds {value : List Char} {maxBytes : Nat}
    (h : maxBytes < (Utf8.encode value).length) :
    boundOutput value maxBytes =
      ⟨Utf8.decode [] ((Utf8.encode value).take maxBytes), (Utf8.encode value).length, true⟩ := by
  rw [boundOutput]
  exact if_neg (Nat.not_le.2 h)

/-- What is persisted are the characters that fit. -/
theorem boundOutput_eq (value : List Char) (maxBytes : Nat) :
    boundOutput value maxBytes = ⟨Utf8.fitting maxBytes value, (Utf8.encode value).length,
      decide (maxBytes < (Utf8.encode value).length)⟩ := by
  by_cases hfits : (Utf8.encode value).length ≤ maxBytes
  · rw [boundOutput_of_fits hfits, Utf8.fitting_of_fits hfits, decide_eq_false (by omega)]
  · rw [boundOutput_of_exceeds (by omega), Utf8.decode_nil_take_encode, decide_eq_true (by omega)]

/-- **What is persisted is the longest prefix that fits**, in whole characters, and
bounding it again changes nothing. -/
theorem boundOutput_longest (value : List Char) (maxBytes : Nat) :
    (boundOutput value maxBytes).value <+: value ∧
      (Utf8.encode (boundOutput value maxBytes).value).length ≤ maxBytes ∧
      (∀ p, p <+: value → (Utf8.encode p).length ≤ maxBytes →
        p <+: (boundOutput value maxBytes).value) ∧
      (boundOutput value maxBytes).originalBytes = (Utf8.encode value).length ∧
      ((boundOutput value maxBytes).truncated = true ↔ maxBytes < (Utf8.encode value).length) ∧
      (boundOutput (boundOutput value maxBytes).value maxBytes).value =
        (boundOutput value maxBytes).value ∧
      (boundOutput (boundOutput value maxBytes).value maxBytes).truncated = false := by
  have hfits := Utf8.length_encode_fitting maxBytes value
  rw [boundOutput_eq value maxBytes]
  refine ⟨Utf8.isPrefix_fitting maxBytes value, hfits, ?_, rfl, decide_eq_true_iff, ?_, ?_⟩
  · intro p hp hbytes
    exact Utf8.fitting_maximal hp hbytes
  · rw [boundOutput_of_fits hfits]
  · rw [boundOutput_of_fits hfits]

/-! ## Both together -/

/-- The longest beginning of a text, in whole characters, that so many bytes hold. -/
structure IsLongestFitting (text : List Char) (maxBytes : Nat) (value : List Char) : Prop where
  isPrefix : value <+: text
  fits : (Utf8.encode value).length ≤ maxBytes
  longest : ∀ p, p <+: text → (Utf8.encode p).length ≤ maxBytes → p <+: value

theorem isLongestFitting_fitting (text : List Char) (maxBytes : Nat) :
    IsLongestFitting text maxBytes (Utf8.fitting maxBytes text) where
  isPrefix := Utf8.isPrefix_fitting maxBytes text
  fits := Utf8.length_encode_fitting maxBytes text
  longest _ hp hbytes := Utf8.fitting_maximal hp hbytes

/-- A stream that is too long is captured up to its last character. -/
theorem readBoundedStream_of_exceeds {stream : List (List Char)} {maxBytes : Nat}
    (h : maxBytes < (Utf8.encode stream.flatten).length) :
    ∃ junk, readBoundedStream stream maxBytes = Utf8.fitting maxBytes stream.flatten ++ junk := by
  simp only [readBoundedStream, captureChunks_eq, decide_eq_true h, if_true]
  rw [Utf8.decode_take_encode, List.append_assoc]
  exact ⟨_, rfl⟩

/-- What is persisted of a captured stream is the longest beginning of the stream
itself, where a character more would still have been captured. -/
theorem isLongestFitting_captured {persisted captured : Nat} (h : persisted + 4 ≤ captured)
    (stream : List (List Char)) : IsLongestFitting stream.flatten persisted
      (boundOutput (readBoundedStream stream captured) persisted).value := by
  rw [boundOutput_eq]
  by_cases hfits : (Utf8.encode stream.flatten).length ≤ captured
  · rw [readBoundedStream_of_fits hfits]
    exact isLongestFitting_fitting _ _
  · have hexceeds := Nat.not_le.1 hfits
    obtain ⟨junk, hjunk⟩ := readBoundedStream_of_exceeds hexceeds
    have hmost := Utf8.lt_length_encode_fitting hexceeds
    rw [hjunk]
    have hbytes := Utf8.length_encode_fitting persisted
      (Utf8.fitting captured stream.flatten ++ junk)
    refine ⟨?_, hbytes, fun p hp hle => ?_⟩
    · have hprefix := Utf8.isPrefix_fitting persisted
        (Utf8.fitting captured stream.flatten ++ junk)
      rcases List.prefix_or_prefix_of_prefix hprefix (List.prefix_append _ junk) with hp | hp
      · exact hp.trans (Utf8.isPrefix_fitting _ _)
      · -- all that was captured would fit, but it has more bytes
        have hle := Utf8.length_encode_le_of_isPrefix hp
        omega
    · have hcaptured := Utf8.fitting_maximal hp (Nat.le_trans hle (by omega : persisted ≤ captured))
      exact Utf8.fitting_maximal (hcaptured.trans (List.prefix_append _ junk)) hle

/-- It is cut exactly when the stream is too long. -/
theorem truncated_captured {persisted captured : Nat} (h : persisted + 4 ≤ captured)
    (stream : List (List Char)) :
    (boundOutput (readBoundedStream stream captured) persisted).truncated = true ↔
      persisted < (Utf8.encode stream.flatten).length := by
  rw [boundOutput_eq, decide_eq_true_iff]
  by_cases hfits : (Utf8.encode stream.flatten).length ≤ captured
  · rw [readBoundedStream_of_fits hfits]
  · have hexceeds := Nat.not_le.1 hfits
    obtain ⟨junk, hjunk⟩ := readBoundedStream_of_exceeds hexceeds
    have hmost := Utf8.lt_length_encode_fitting hexceeds
    rw [hjunk, Utf8.encode_append, List.length_append]
    constructor <;> intro <;> omega

end Remote
end NodeNexus
