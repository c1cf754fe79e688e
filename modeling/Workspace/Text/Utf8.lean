/-
Workspace.Text.Utf8 — bytes read as text.

`decodeText` reads bytes as strict UTF-8 and then replaces each of the line
ends CR LF and CR by LF. Bytes that are not UTF-8 are refused with the first
sequence at fault (`firstFault`).
-/
import Workspace.ContentFault

namespace Workspace.Text

private def isContinuation (b : UInt8) : Bool :=
  0x80 ≤ b && b < 0xc0

/-- The second byte that a sequence starting with `first` may have; some first
bytes rule out a part of the continuation range. -/
private def isSecond (first b : UInt8) : Bool :=
  if first = 0xe0 then 0xa0 ≤ b && b < 0xc0
  else if first = 0xed then 0x80 ≤ b && b < 0xa0
  else if first = 0xf0 then 0x90 ≤ b && b < 0xc0
  else if first = 0xf4 then 0x80 ≤ b && b < 0x90
  else isContinuation b

/-- The number of bytes of the sequence that `first` begins; 0 for none. -/
private def sequenceLength (first : UInt8) : Nat :=
  if first < 0x80 then 1
  else if first < 0xc2 then 0
  else if first < 0xe0 then 2
  else if first < 0xf0 then 3
  else if first < 0xf5 then 4
  else 0

/-- Looks at the bytes after the first of a sequence: how many are needed,
how many were right so far, and the rest. Gives the defect and the number
of bytes it covers. -/
private def tailDefect : (needed seen : Nat) → List UInt8 → Option (Utf8Defect × Nat)
  | 0, _, _ => none
  | _ + 1, seen, [] => some (.unexpectedEnd, seen)
  | needed + 1, seen, b :: bs =>
    if isContinuation b then tailDefect needed (seen + 1) bs
    else some (.invalidContinuation, seen)

/-- The defect of the sequence that starts with `first`, if it has one. -/
private def sequenceDefect (first : UInt8) (rest : List UInt8) : Option (Utf8Defect × Nat) :=
  match sequenceLength first with
  | 0 => some (.invalidStart, 1)
  | 1 => none
  | length + 2 =>
    match rest with
    | [] => some (.unexpectedEnd, 1)
    | second :: more =>
      if isSecond first second then tailDefect length 2 more
      else some (.invalidContinuation, 1)

/-- The first sequence in the bytes that is not UTF-8; `skip` bytes of it have
been accounted for. -/
def firstFault (position : Nat) : (skip : Nat) → List UInt8 → Option Utf8Fault
  | _, [] => none
  | skip + 1, _ :: bs => firstFault (position + 1) skip bs
  | 0, b :: bs =>
    match sequenceDefect b bs with
    | some (defect, count) => some ⟨defect, position, count, b⟩
    | none => firstFault (position + 1) (sequenceLength b - 1) bs

/-- Every line end becomes a line feed. -/
def unifyLineEnds : List Char → List Char
  | '\r' :: '\n' :: cs => '\n' :: unifyLineEnds cs
  | '\r' :: cs => '\n' :: unifyLineEnds cs
  | c :: cs => c :: unifyLineEnds cs
  | [] => []

/-- The text that the bytes spell. -/
def decodeText (bytes : ByteArray) : Except Utf8Fault (List Char) :=
  match String.fromUTF8? bytes with
  | some s => .ok (unifyLineEnds s.toList)
  | none => .error ((firstFault 0 0 bytes.toList).getD ⟨.invalidStart, 0, 1, 0⟩)

/-- The text that the bytes before a fault spell. -/
def textBefore (fault : Utf8Fault) (bytes : ByteArray) : List Char :=
  match String.fromUTF8? (bytes.extract 0 fault.position) with
  | some s => unifyLineEnds s.toList
  | none => []

end Workspace.Text
