import CollectorFeed.Octets

/-!
# Text in octets

UTF-8 text of a feed is read even where it is damaged: each longest piece that can begin a
character and is not one is replaced by the replacement character. Text that is not damaged is read
as it is.
-/

set_option autoImplicit false

namespace CollectorFeed

namespace Utf8

/-- The octets of a text. -/
def encode (text : String) : Octets :=
  text.toByteArray.data.toList

/-- The text that octets spell, if they are UTF-8. -/
def decode? (octets : Octets) : Option String :=
  String.fromUTF8? octets.toByteArray

/-- Octets of a text read back as the text. -/
theorem decode?_encode (text : String) : decode? (encode text) = some text := by
  have same : (encode text).toByteArray = text.toByteArray := by
    apply ByteArray.ext
    simp [encode]
  rw [decode?, same, String.fromUTF8?, dif_pos text.isValidUTF8]
  rfl

/-- Only the octets of a text read as it. -/
theorem encode_of_decode? {octets : Octets} {text : String} (read : decode? octets = some text) :
    encode text = octets := by
  unfold decode? String.fromUTF8? at read
  split at read
  · cases read
    simp [encode, String.fromUTF8]
  · cases read

/-! ## Damaged text -/

/-- What the first octet of a longer character asks of those behind it: their number, and least and
greatest value of the next one. The octets behind that one lie between 0x80 and 0xBF. -/
def follow? (octet : Nat) : Option (Nat × Nat × Nat) :=
  if 0xC2 ≤ octet ∧ octet ≤ 0xDF then some (1, 0x80, 0xBF)
  else if octet = 0xE0 then some (2, 0xA0, 0xBF)
  else if octet = 0xED then some (2, 0x80, 0x9F)
  else if 0xE1 ≤ octet ∧ octet ≤ 0xEF then some (2, 0x80, 0xBF)
  else if octet = 0xF0 then some (3, 0x90, 0xBF)
  else if octet = 0xF4 then some (3, 0x80, 0x8F)
  else if 0xF1 ≤ octet ∧ octet ≤ 0xF3 then some (3, 0x80, 0xBF)
  else none

/-- The octets that continue a character, at most `owed` of them. -/
def continuation : Nat → Nat → Nat → Octets → Octets
  | 0, _, _, _ => []
  | _, _, _, [] => []
  | owed + 1, low, high, octet :: rest =>
    if low ≤ octet.toNat ∧ octet.toNat ≤ high then octet :: continuation owed 0x80 0xBF rest
    else []

/-- The character of a first octet and all octets that continue it. -/
def character (first : Nat) (behind : Octets) : Char :=
  let lead := first % Nat.pow 2 (6 - behind.length)
  Char.ofNat (behind.foldl (fun value octet => value * 64 + (octet.toNat - 0x80)) lead)

/-- Stands for a piece that is no character. -/
def replacement : Char := Char.ofNat 0xFFFD

/-- The characters of octets, each longest piece that is none replaced. -/
def repaired : Octets → List Char
  | [] => []
  | octet :: rest =>
    if octet.toNat < 0x80 then Char.ofNat octet.toNat :: repaired rest
    else
      match follow? octet.toNat with
      | none => replacement :: repaired rest
      | some (owed, low, high) =>
        let behind := continuation owed low high rest
        let found := if behind.length = owed then character octet.toNat behind else replacement
        found :: repaired (rest.drop behind.length)
termination_by octets => octets.length
decreasing_by all_goals (simp only [List.length_cons, List.length_drop]; omega)

/-- The text of octets, damaged or not. -/
def lossy (octets : Octets) : String :=
  match decode? octets with
  | some text => text
  | none => String.ofList (repaired octets)

/-- Octets of a text are read as the text. -/
theorem lossy_encode (text : String) : lossy (encode text) = text := by
  rw [lossy, decode?_encode]

end Utf8

end CollectorFeed
