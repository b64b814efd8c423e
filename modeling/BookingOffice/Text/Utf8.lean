/-!
Bytes read as UTF-8. A leading byte fixes how many bytes follow it and, for the shortest and the
last forms, narrows the range of the first of them; every later byte lies in `80..BF`. Where the
bytes stop being a character the bytes read so far make up one fault, so that a faulty text still
has a reading: one replacement character for each fault (`decodeLossy`).

`decode` is the one reader. `decode?` and `decodeLossy` are its two uses, and `validLength` says
where the first fault starts.
-/

namespace BookingOffice.Text.Utf8

/-- What a leading byte announces. -/
structure Lead where
  /-- The number of bytes that follow. -/
  owed : Nat
  /-- The bits of the leading byte itself. -/
  bits : Nat
  /-- The least value of the next byte. -/
  low : Nat
  /-- The greatest value of the next byte. -/
  high : Nat

/-- The leading bytes. `C0`, `C1` and those from `F5` on start no character. -/
def lead? (b : Nat) : Option Lead :=
  if b ≤ 0x7F then some ⟨0, b, 0x80, 0xBF⟩
  else if b < 0xC2 then none
  else if b ≤ 0xDF then some ⟨1, b - 0xC0, 0x80, 0xBF⟩
  else if b = 0xE0 then some ⟨2, 0, 0xA0, 0xBF⟩
  else if b = 0xED then some ⟨2, 0xD, 0x80, 0x9F⟩
  else if b ≤ 0xEF then some ⟨2, b - 0xE0, 0x80, 0xBF⟩
  else if b = 0xF0 then some ⟨3, 0, 0x90, 0xBF⟩
  else if b ≤ 0xF3 then some ⟨3, b - 0xF0, 0x80, 0xBF⟩
  else if b = 0xF4 then some ⟨3, 4, 0x80, 0x8F⟩
  else none

/-- Reads the owed bytes, the first of them between `low` and `high`. The result is the code point,
or `none` for a fault, and the bytes left. -/
def continuation : (owed bits low high : Nat) → List UInt8 → Option Nat × List UInt8
  | 0, bits, _, _, bytes => (some bits, bytes)
  | _ + 1, _, _, _, [] => (none, [])
  | owed + 1, bits, low, high, b :: bytes =>
      if low ≤ b.toNat ∧ b.toNat ≤ high then
        continuation owed (bits * 64 + b.toNat % 64) 0x80 0xBF bytes
      else (none, b :: bytes)

theorem length_continuation_le (owed bits low high : Nat) (bytes : List UInt8) :
    (continuation owed bits low high bytes).2.length ≤ bytes.length := by
  fun_induction continuation owed bits low high bytes with
  | case3 owed bits low high b bytes h ih => simp only [List.length_cons]; omega
  | _ => simp

/-- The characters of a sequence of bytes, with `none` for each fault. -/
def decode : List UInt8 → List (Option Char)
  | [] => []
  | b :: bytes =>
    match lead? b.toNat with
    | none => none :: decode bytes
    | some l =>
      let step := continuation l.owed l.bits l.low l.high bytes
      step.1.map Char.ofNat :: decode step.2
  termination_by bytes => bytes.length
  decreasing_by
    · simp
    · have := length_continuation_le l.owed l.bits l.low l.high bytes
      simp only [List.length_cons]
      omega

/-- The text of a sequence of bytes without a fault. -/
def decode? (bytes : List UInt8) : Option String :=
  (decode bytes).mapM id |>.map String.ofList

/-- The text of any sequence of bytes, with a replacement character for each fault. -/
def decodeLossy (bytes : List UInt8) : String :=
  String.ofList ((decode bytes).map (·.getD '\uFFFD'))

/-- The number of bytes before the first fault. -/
def validLength (bytes : List UInt8) : Nat :=
  ((decode bytes).takeWhile Option.isSome).foldl (fun n c => n + (c.map Char.utf8Size).getD 0) 0

/-- The bytes of a text. -/
def encode (s : String) : List UInt8 := s.toList.flatMap String.utf8EncodeChar

example : decodeLossy [0x61, 0xE2, 0x82, 0xAC, 0xFF, 0xC3, 0x28] = "a€\uFFFD\uFFFD(" := by
  decide +kernel

-- a surrogate written in three bytes is three faults
example : decode [0xED, 0xA0, 0x80] = [none, none, none] := by decide +kernel

example : validLength [0x61, 0xC3, 0xA9, 0xFF] = 3 := by decide +kernel

end BookingOffice.Text.Utf8
