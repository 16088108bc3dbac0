import DreamJournal.Text.Basic

/-!
# Texts as octets

The encoding of texts in files. Characters take one to four octets; the first octet tells how
many, and all others lie between 0x80 and 0xBF. The second octet is restricted further where the
first alone would admit code points that have a shorter form, that are no characters or that do
not exist.

Decoding stops at the first octet that cannot be read, and tells where it is, how many octets
are concerned and why.
-/
namespace DreamJournal.Text

/-- Why octets are no text. -/
inductive DecodeReason where
  | invalidStart
  | invalidContinuation
  | unexpectedEnd
  deriving DecidableEq, Repr

def DecodeReason.label : DecodeReason → String
  | invalidStart => "invalid start byte"
  | invalidContinuation => "invalid continuation byte"
  | unexpectedEnd => "unexpected end of data"

/-- Octets that are no text: the first of them, where it is, and how many there are. -/
structure DecodeError where
  first : UInt8
  position : Nat
  size : Nat
  reason : DecodeReason
  deriving DecidableEq, Repr

def DecodeError.message (e : DecodeError) : Text :=
  let place := if e.size = 1 then
      of "byte 0x" ++ hexPadded 2 e.first.toNat ++ of " in position " ++ ofNat e.position
    else of "bytes in position " ++ ofNat e.position ++ '-' :: ofNat (e.position + e.size - 1)
  of "'utf-8' codec can't decode " ++ place ++ of ": " ++ of e.reason.label

/-- How many octets follow a first octet, and what it adds to the code point. -/
def leadOctet? (octet : UInt8) : Option (Nat × Nat) :=
  let n := octet.toNat
  if n < 0x80 then some (0, n)
  else if 0xC2 ≤ n && n ≤ 0xDF then some (1, n - 0xC0)
  else if 0xE0 ≤ n && n ≤ 0xEF then some (2, n - 0xE0)
  else if 0xF0 ≤ n && n ≤ 0xF4 then some (3, n - 0xF0)
  else none

/-- Whether an octet may follow the first one directly. -/
def maySecond (first second : UInt8) : Bool :=
  let n := second.toNat
  0x80 ≤ n && n ≤ 0xBF &&
    (match first.toNat with
    | 0xE0 => 0xA0 ≤ n
    | 0xED => n < 0xA0
    | 0xF0 => 0x90 ≤ n
    | 0xF4 => n < 0x90
    | _ => true)

/-- Whether an octet may stand at a place behind the first one. -/
def mayFollow (first : UInt8) (place : Nat) (octet : UInt8) : Bool :=
  if place = 1 then maySecond first octet else 0x80 ≤ octet && octet ≤ 0xBF

/-- The octets behind the first one that belong to its character, as many as can be read. -/
def continuation (first : UInt8) : (place wanted : Nat) → List UInt8 → List UInt8
  | _, 0, _ => []
  | _, _, [] => []
  | place, wanted + 1, octet :: rest =>
    if mayFollow first place octet then octet :: continuation first (place + 1) wanted rest else []

/-- The text of octets, the first `skip` of which belong to the character before. -/
def decodeFrom (position skip : Nat) : List UInt8 → Except DecodeError Text
  | [] => .ok []
  | octet :: rest =>
    match skip with
    | skip + 1 => decodeFrom (position + 1) skip rest
    | 0 =>
      match leadOctet? octet with
      | none => .error ⟨octet, position, 1, .invalidStart⟩
      | some (wanted, lead) =>
        let tail := continuation octet 1 wanted rest
        if tail.length < wanted then
          let reason := if rest.length = tail.length then .unexpectedEnd else .invalidContinuation
          .error ⟨octet, position, tail.length + 1, reason⟩
        else do
          let code := tail.foldl (fun n octet => 64 * n + (octet.toNat - 0x80)) lead
          let text ← decodeFrom (position + 1) wanted rest
          .ok (Char.ofNat code :: text)

/-- The text that octets encode. -/
def decode (octets : List UInt8) : Except DecodeError Text := decodeFrom 0 0 octets

/-- The octets of one character. -/
def encodeChar (c : Char) : List UInt8 :=
  let n := c.toNat
  let tail (shift : Nat) : UInt8 := UInt8.ofNat (0x80 + n / Nat.pow 2 shift % 64)
  if n < 0x80 then [UInt8.ofNat n]
  else if n < 0x800 then [UInt8.ofNat (0xC0 + n / 64), tail 0]
  else if n < 0x10000 then [UInt8.ofNat (0xE0 + n / 4096), tail 6, tail 0]
  else [UInt8.ofNat (0xF0 + n / 262144), tail 12, tail 6, tail 0]

/-- The octets of a text. -/
def encode (t : Text) : List UInt8 := t.flatMap encodeChar

/-- A text with every kind of line end written as a line feed. -/
def lineFeeds : Text → Text
  | [] => []
  | '\r' :: '\n' :: rest => '\n' :: lineFeeds rest
  | c :: rest => (if c = '\r' then '\n' else c) :: lineFeeds rest

end DreamJournal.Text
