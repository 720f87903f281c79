import ProgramTrace.Text.Utf8

/-!
# `ProgramTrace.Host.Octet` — texts as programs see them.

Programs work on bytes.  A byte is written here as the character with its number, so that it can be
compared with the characters of ASCII, and nothing of it is lost (`Octets.toBytes_ofBytes`).
-/

namespace ProgramTrace.Host

/-- A byte string, with a character below U+0100 for each byte. -/
abbrev Octets := List Char

namespace Octets

def ofBytes (b : Bytes) : Octets := b.map fun x => Char.ofNat x.toNat

def toBytes (o : Octets) : Bytes := o.map fun c => UInt8.ofNat c.toNat

def ofText (t : Text) : Octets := ofBytes t.toUtf8

/-- The text of which octets are the UTF-8 form, as far as they are. -/
def toText (o : Octets) : Text := o.toBytes.toTextLossy

theorem toNat_ofNat_byte (x : UInt8) : (Char.ofNat x.toNat).toNat = x.toNat := by
  have hx : x.toNat.isValidChar := Or.inl (by have := x.toNat_lt; omega)
  rw [Char.ofNat, dif_pos hx]
  rfl

@[simp] theorem toBytes_ofBytes (b : Bytes) : toBytes (ofBytes b) = b := by
  simp only [toBytes, ofBytes, List.map_map]
  exact (List.map_congr_left fun x _ => by simp [toNat_ofNat_byte]).trans (List.map_id b)

/-- Whether octets stand before others or are the same, byte by byte. -/
def notAfter (a b : Octets) : Bool := !b.lex a fun c d => Nat.blt c.toNat d.toNat

end Octets

end ProgramTrace.Host
