import Interdomain.Text.Blank
import Interdomain.Text.Decimal

/-!
# ISD-AS identifiers

An AS number alone does not name an AS across isolation domains, so whatever refers to an AS from
outside does it by the pair of an isolation domain and an AS number. The text of the pair is
`<isd>-<asn>`; it is read with blanks around it and with a plus sign before either number.
-/

namespace Interdomain

/-- The number of an isolation domain. -/
abbrev Isd := UInt16

/-- The number of an autonomous system. -/
abbrev Asn := UInt32

/-- The number of an internet exchange. -/
abbrev ExchangeId := UInt32

/-- The decimal text of an isolation domain. -/
def isdText (isd : Isd) : String := Decimal.text isd.toNat

/-- The decimal text of an AS number, or of an exchange number. -/
def asnText (asn : UInt32) : String := Decimal.text asn.toNat

/-- An AS as a member of an isolation domain. -/
structure IsdAsn where
  /-- The isolation domain. -/
  isd : Isd
  /-- The autonomous system. -/
  asn : Asn
  deriving DecidableEq

/-- A text that is no identifier, kept as it was given. -/
structure IdentifierError where
  /-- The refused text. -/
  given : String

def IdentifierError.message (e : IdentifierError) : String :=
  "invalid ISD-AS identifier '" ++ e.given ++ "', expected '<isd>-<asn>'"

namespace IsdAsn

/-! ## Text -/

/-- The characters `<isd>-<asn>`. -/
def chars (ia : IsdAsn) : List Char :=
  Decimal.digits ia.isd.toNat ++ '-' :: Decimal.digits ia.asn.toNat

def text (ia : IsdAsn) : String := String.ofList ia.chars

/-- Read an identifier: blanks at both ends are dropped, and the first dash separates the two
numbers. -/
def read? (s : String) : Option IsdAsn :=
  let cs := trimBlanks s.toList
  match cs.dropWhile (· != '-') with
  | [] => none
  | _ :: second => do
    let isd ← Decimal.readUnsigned? 65535 (cs.takeWhile (· != '-'))
    let asn ← Decimal.readUnsigned? 4294967295 second
    return ⟨UInt16.ofNat isd, UInt32.ofNat asn⟩

/-- Read an identifier, or report the text that is none. -/
def read (s : String) : Except IdentifierError IsdAsn :=
  match read? s with
  | some ia => .ok ia
  | none => .error ⟨s⟩

/-! ## Order -/

/-- Identifiers are ordered by isolation domain, then by AS number. -/
instance : Ord IsdAsn where
  compare a b := (compare a.isd b.isd).then (compare a.asn b.asn)

/-- The identifiers of a list in order, each once. -/
def sorted (ias : List IsdAsn) : List IsdAsn :=
  (ias.mergeSort (fun a b ↦ (compare a b).isLE)).eraseReps

end IsdAsn

end Interdomain
