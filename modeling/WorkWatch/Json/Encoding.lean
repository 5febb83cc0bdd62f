import WorkWatch.Json.Reader

/-!
JSON documents as bytes. The encoding, UTF-8, UTF-16 or UTF-32, is told by a byte order mark or by
the zero bytes at the beginning, a JSON text starting with an ASCII character.
-/

namespace WorkWatch.Json

namespace Encoding

/-- A code point as a character; a surrogate becomes the replacement character. -/
def character (n : Nat) : Char := if 0xd800 ≤ n && n < 0xe000 then '\ufffd' else Char.ofNat n

/-- The payload of a byte that continues a character. -/
def continuation? (b : UInt8) : Option Nat :=
  if 0x80 ≤ b.toNat && b.toNat < 0xc0 then some (b.toNat - 0x80) else none

/-- The text of UTF-8 bytes; a character has to be written with the fewest bytes. -/
def utf8? : List UInt8 → Option (List Char)
  | [] => some []
  | a :: rest =>
    let n := a.toNat
    if n < 0x80 then do some (Char.ofNat n :: (← utf8? rest))
    else if n < 0xc2 then none
    else
      match rest with
      | [] => none
      | b :: rest =>
        if n < 0xe0 then do
          let b ← continuation? b
          some (Char.ofNat ((n - 0xc0) * 0x40 + b) :: (← utf8? rest))
        else
          match rest with
          | [] => none
          | c :: rest =>
            if n < 0xf0 then do
              let point := ((n - 0xe0) * 0x40 + (← continuation? b)) * 0x40 + (← continuation? c)
              if point < 0x800 then none else some (character point :: (← utf8? rest))
            else
              match rest with
              | [] => none
              | d :: rest => do
                let point := (((n - 0xf0) * 0x40 + (← continuation? b)) * 0x40 +
                  (← continuation? c)) * 0x40 + (← continuation? d)
                if point < 0x10000 || 0x10ffff < point then none
                else some (Char.ofNat point :: (← utf8? rest))

/-- The units of two bytes each. -/
def units16? (bigEndian : Bool) : List UInt8 → Option (List Nat)
  | [] => some []
  | [_] => none
  | a :: b :: rest => do
    let (high, low) := if bigEndian then (a, b) else (b, a)
    some ((high.toNat * 0x100 + low.toNat) :: (← units16? bigEndian rest))

def utf16? (bigEndian : Bool) (bytes : List UInt8) : Option (List Char) :=
  (units16? bigEndian bytes).map Reader.joined

def utf32? (bigEndian : Bool) : List UInt8 → Option (List Char)
  | [] => some []
  | a :: b :: c :: d :: rest => do
    let (a, b, c, d) := if bigEndian then (a, b, c, d) else (d, c, b, a)
    let point := ((a.toNat * 0x100 + b.toNat) * 0x100 + c.toNat) * 0x100 + d.toNat
    if 0x10ffff < point then none else some (character point :: (← utf32? bigEndian rest))
  | _ => none

/-- The text of the bytes of a JSON document. -/
def text? : List UInt8 → Option (List Char)
  | 0 :: 0 :: 0xfe :: 0xff :: rest => utf32? true rest
  | 0xff :: 0xfe :: 0 :: 0 :: rest => utf32? false rest
  | 0xfe :: 0xff :: rest => utf16? true rest
  | 0xff :: 0xfe :: rest => utf16? false rest
  | 0xef :: 0xbb :: 0xbf :: rest => utf8? rest
  | bytes =>
    match bytes with
    | a :: b :: c :: d :: _ =>
      if a = 0 then (if b = 0 then utf32? true bytes else utf16? true bytes)
      else if b = 0 then (if c = 0 && d = 0 then utf32? false bytes else utf16? false bytes)
      else utf8? bytes
    | [a, b] =>
      if a = 0 then utf16? true bytes else if b = 0 then utf16? false bytes else utf8? bytes
    | _ => utf8? bytes

end Encoding

/-- The value of a JSON document held in bytes. -/
def ofBytes (bytes : List UInt8) : Except ReadError Json :=
  match Encoding.text? bytes with
  | some text => read text
  | none => .error .malformed

end WorkWatch.Json
