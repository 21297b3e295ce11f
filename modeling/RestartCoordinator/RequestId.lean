import RestartCoordinator.Text.Digits
/-!
# Request identifiers

Requests are told apart by 128-bit identifiers, written as 32 hexadecimal digits in groups of 8, 4,
4, 4 and 12. Reading also takes the digits without hyphens, in braces, or after `urn:uuid:` in
letters of either case.
Identifiers drawn from a serial number have the version and variant marks of random ones, so they
never meet the nil identifier.
-/
namespace RestartCoordinator

structure RequestId where
  value : Nat
deriving DecidableEq, Repr, Inhabited

namespace RequestId

def nil : RequestId := ⟨0⟩

/-- The identifier of a serial number below 2^62. -/
def ofSerial (n : Nat) : RequestId :=
  ⟨0x4000_8000_0000_0000_0000 + n⟩

theorem ofSerial_injective {m n : Nat} (h : ofSerial m = ofSerial n) : m = n := by
  simpa [ofSerial] using h

/-- The number written by hexadecimal digits of either case. -/
def ofHex? (digits : List Char) : Option Nat :=
  Text.valueIn? 16 digits

/-- The lowest `width` hexadecimal digits of a number, with leading zeros. -/
def hexDigits (width n : Nat) : List Char :=
  let digits := Nat.toDigits 16 n
  List.replicate (width - digits.length) '0' ++ digits

def text (id : RequestId) : String :=
  let d := hexDigits 32 (id.value % (1 <<< 128))
  String.ofList (d.take 8 ++ ['-'] ++ (d.drop 8).take 4 ++ ['-'] ++ (d.drop 12).take 4 ++ ['-'] ++
    (d.drop 16).take 4 ++ ['-'] ++ d.drop 20)

/-- The 32 digits of a written identifier: all at once, or hyphens after 8, 12, 16 and 20 digits. -/
def digits? (s : List Char) : Option (List Char) :=
  if s.length = 32 then some s
  else if s.length = 36 ∧ s[8]? = some '-' ∧ s[13]? = some '-' ∧ s[18]? = some '-' ∧
      s[23]? = some '-' then
    some (s.take 8 ++ (s.drop 9).take 4 ++ (s.drop 14).take 4 ++ (s.drop 19).take 4 ++ s.drop 24)
  else none

def parse? (text : String) : Option RequestId :=
  let s := text.toList
  let body :=
    if s.head? = some '\x7b' ∧ s.getLast? = some '\x7d' ∧ s.length = 38 then (s.drop 1).dropLast
    else if (s.take 9).map Char.toLower = "urn:uuid:".toList ∧ s.length = 45 then s.drop 9
    else s
  (digits? body).bind ofHex? |>.map RequestId.mk

end RequestId
end RestartCoordinator
