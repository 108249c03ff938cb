import DockerfileLint.Text.Basic

/-! UTF-8 read byte by byte.  Bytes that begin no character are grouped as the Unicode standard
recommends: an unfinished sequence that could still have become a character is one defect, and any
other stray byte is a defect of its own. -/

namespace DockerfileLint.Text

/-- A first byte gives the leading bits of the character and the range of each byte that must
follow; it is `none` for a byte that starts no character. -/
def utf8Lead (byte : UInt8) : Option (Nat × List (UInt8 × UInt8)) :=
  if byte < 0x80 then some (byte.toNat, [])
  else if byte < 0xC2 then none
  else if byte < 0xE0 then some (byte.toNat - 0xC0, [(0x80, 0xBF)])
  else if byte = 0xE0 then some (0, [(0xA0, 0xBF), (0x80, 0xBF)])
  else if byte = 0xED then some (0xD, [(0x80, 0x9F), (0x80, 0xBF)])
  else if byte < 0xF0 then some (byte.toNat - 0xE0, [(0x80, 0xBF), (0x80, 0xBF)])
  else if byte = 0xF0 then some (0, [(0x90, 0xBF), (0x80, 0xBF), (0x80, 0xBF)])
  else if byte < 0xF4 then some (byte.toNat - 0xF0, [(0x80, 0xBF), (0x80, 0xBF), (0x80, 0xBF)])
  else if byte = 0xF4 then some (4, [(0x80, 0x8F), (0x80, 0xBF), (0x80, 0xBF)])
  else none

/-- Reads the bytes that must follow, as far as they fit, and what is left. -/
def utf8Follow (code : Nat) : List (UInt8 × UInt8) → List UInt8 → Option Char × List UInt8
  | [], bytes => (some (Char.ofNat code), bytes)
  | (low, high) :: wanted, byte :: bytes =>
    if low ≤ byte ∧ byte ≤ high then utf8Follow (code * 64 + (byte.toNat - 0x80)) wanted bytes
    else (none, byte :: bytes)
  | _ :: _, [] => (none, [])

theorem utf8Follow_length_le (code : Nat) (wanted : List (UInt8 × UInt8)) (bytes : List UInt8) :
    (utf8Follow code wanted bytes).2.length ≤ bytes.length := by
  fun_induction utf8Follow code wanted bytes with
  | case1 => exact Nat.le_refl _
  | case2 _ _ _ _ _ _ _ ih => exact Nat.le_succ_of_le ih
  | case3 => exact Nat.le_refl _
  | case4 => exact Nat.le_refl _

/-- The first character or defect of a byte sequence and what is left of it. -/
def utf8Step (byte : UInt8) (bytes : List UInt8) : Option Char × List UInt8 :=
  match utf8Lead byte with
  | some (code, wanted) => utf8Follow code wanted bytes
  | none => (none, bytes)

theorem utf8Step_length_le (byte : UInt8) (bytes : List UInt8) :
    (utf8Step byte bytes).2.length ≤ bytes.length := by
  unfold utf8Step
  split
  · exact utf8Follow_length_le ..
  · exact Nat.le_refl _

/-- The characters of a byte sequence, with `none` for each defect. -/
def utf8Characters : List UInt8 → List (Option Char)
  | [] => []
  | byte :: bytes => (utf8Step byte bytes).1 :: utf8Characters (utf8Step byte bytes).2
termination_by bytes => bytes.length
decreasing_by exact Nat.lt_succ_of_le (utf8Step_length_le byte bytes)

def utf8Length (text : Text) : Nat := text.foldl (fun length c => length + c.utf8Size) 0

/-- The text of a byte sequence without defects. -/
def ofUtf8? (bytes : List UInt8) : Option Text := (utf8Characters bytes).mapM id

/-- The text of any byte sequence; each defect shows as the replacement character. -/
def ofUtf8Lossy (bytes : List UInt8) : Text :=
  (utf8Characters bytes).map (·.getD (Char.ofNat 0xFFFD))

end DockerfileLint.Text
