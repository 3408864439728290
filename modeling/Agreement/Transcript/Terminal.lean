import Agreement.Transcript.Basic

/-!
# Terminals

A device with an input of bytes and room for a given number of bytes and flushes. The lines of the
input have to be UTF-8.
-/

namespace Agreement

/-- What can go wrong at a terminal. -/
inductive Terminal.Fault where
  /-- There is no room for another byte. -/
  | full
  /-- There was a flush too many. -/
  | flush
  /-- A line of the input is not UTF-8. -/
  | encoding
deriving Repr, DecidableEq

def Terminal.Fault.message : Terminal.Fault → String
  | full => "writer is full"
  | flush => "flush failed"
  | encoding => "stream did not contain valid UTF-8"

/-- The state of a terminal. Without a limit there is room for everything. -/
structure Terminal where
  /-- The bytes accepted, the last one first. -/
  backwards : List UInt8 := []
  room : Option Nat := none
  flushes : Option Nat := none
  input : List UInt8 := []
deriving Repr, DecidableEq

namespace Terminal

/-- The bytes accepted so far, in order. -/
def written (t : Terminal) : List UInt8 :=
  t.backwards.reverse

/-- The first line of an input up to and with its line feed, and what follows it. -/
def splitLine (input : List UInt8) : List UInt8 × List UInt8 :=
  match input.span (· != 0x0A) with
  | (line, feed :: rest) => (line ++ [feed], rest)
  | (line, []) => (line, [])

/-- Terminals as devices. The end of the input is no fault, and a line that is not UTF-8 is consumed
all the same. -/
def device : Device Terminal Fault where
  accept byte t :=
    if t.room = some 0 then (.error .full, t)
    else (.ok (), { t with backwards := byte :: t.backwards, room := t.room.map (· - 1) })
  flush t :=
    if t.flushes = some 0 then (.error .flush, t)
    else (.ok (), { t with flushes := t.flushes.map (· - 1) })
  readLine t :=
    let (line, rest) := splitLine t.input
    let t := { t with input := rest }
    if line.toByteArray.validateUTF8 then (.ok (), t) else (.error .encoding, t)

/-- The text of bytes that were cut off somewhere: a character of which only a part is left reads as
U+FFFD. -/
def decode (bytes : List UInt8) : String :=
  match (List.range 4).findSome? fun cut =>
      (String.fromUTF8? (bytes.take (bytes.length - cut)).toByteArray).map (·, cut) with
  | some (text, 0) => text
  | some (text, _) => text ++ "\uFFFD"
  | none => "\uFFFD"

end Terminal

end Agreement
