/-
Workspace.Text.Base64 — bytes written with 64 characters.

Reading is lenient: characters outside the alphabet are passed over, and
reading ends with the padding of a group. Only a group that is left
incomplete is an error.
-/
namespace Workspace.Text.Base64

/-- The six bits of a character of the alphabet. -/
def digit? (c : Char) : Option Nat :=
  if 'A' ≤ c ∧ c ≤ 'Z' then some (c.toNat - 65)
  else if 'a' ≤ c ∧ c ≤ 'z' then some (c.toNat - 71)
  else if '0' ≤ c ∧ c ≤ '9' then some (c.toNat + 4)
  else if c = '+' then some 62
  else if c = '/' then some 63
  else none

/-- Reads on inside a group of which `held` characters are there, whose last
unused bits are `left`; `pads` padding characters have come since. -/
def decodeFrom (held left pads : Nat) : List Char → Option (List UInt8)
  | [] => if held = 0 then some [] else none
  | c :: cs =>
    if c = '=' then
      if 2 ≤ held then
        if 4 ≤ held + (pads + 1) then some [] else decodeFrom held left (pads + 1) cs
      else decodeFrom held left pads cs
    else
      match digit? c with
      | none => decodeFrom held left pads cs
      | some d =>
        let byte (n : Nat) (rest : Option (List UInt8)) := rest.map (UInt8.ofNat n :: ·)
        if held = 0 then decodeFrom 1 d 0 cs
        else if held = 1 then byte (left * 4 + d / 16) (decodeFrom 2 (d % 16) 0 cs)
        else if held = 2 then byte (left * 16 + d / 4) (decodeFrom 3 (d % 4) 0 cs)
        else byte (left * 64 + d) (decodeFrom 0 0 0 cs)

/-- The bytes that a text spells. -/
def decode (cs : List Char) : Option (List UInt8) :=
  decodeFrom 0 0 0 cs

end Workspace.Text.Base64
