/-! # Addresses of the form `host:port`

`splitHostPort` cuts an address at its last colon into a host and a port. A host in
brackets (`[::1]:80`) may hold colons; an unbracketed host may not, and brackets elsewhere
are refused. `isHostnamePort` asks more: a port from 1 to 65535, written in decimal with an
optional sign, and a host that is empty or a dotted name whose labels have 1 to 63 letters,
digits and hyphens, the first no hyphen.
-/

namespace Timebox

namespace Net

/-- The host and port of an address, or none if it has no port or misplaced colons or
brackets. -/
def splitHostPort (addr : String) : Option (String × String) :=
  let cs := addr.toList
  match cs.reverse.findIdx? (· = ':') with
  | none => none
  | some r =>
    let i := cs.length - 1 - r
    let port := String.ofList (cs.drop (i + 1))
    let bracketed := cs.head? = some '['
    let found : Option (String × Nat × Nat) :=
      if bracketed then
        match cs.findIdx? (· = ']') with
        | none => none
        | some e =>
          if e + 1 = i then some (String.ofList ((cs.take e).drop 1), 1, e + 1) else none
      else
        let host := cs.take i
        if host.contains ':' then none else some (String.ofList host, 0, 0)
    found.bind fun (host, j, k) =>
      if (cs.drop j).contains '[' then none
      else if (cs.drop k).contains ']' then none
      else some (host, port)

/-- Whether a text is a decimal number from 1 to 65535, with an optional sign and within the
32-bit range. -/
def isPort (s : String) : Bool :=
  let (neg, ds) := match s.toList with
    | '+' :: rest => (false, rest)
    | '-' :: rest => (true, rest)
    | cs => (false, cs)
  !ds.isEmpty ∧ ds.all Char.isDigit ∧
    let v := ds.foldl (fun n c => n * 10 + (c.toNat - 48)) 0
    !neg ∧ 1 ≤ v ∧ v ≤ 65535

/-- Whether a character may stand in a label. -/
def isLabelChar (c : Char) : Bool := c.isAlphanum || c = '-'

/-- Whether a text is a label: 1 to 63 characters, letters, digits and hyphens, the first
no hyphen. -/
def isLabel (s : String) : Bool :=
  match s.toList with
  | c :: rest => c.isAlphanum ∧ rest.all isLabelChar ∧ rest.length ≤ 62
  | [] => false

/-- Whether a text is a host name: labels joined by dots. -/
def isHostname (s : String) : Bool := (s.splitOn ".").all isLabel

/-- Whether an address is a host name or nothing, a colon, and a port. -/
def isHostnamePort (addr : String) : Bool :=
  match splitHostPort addr with
  | none => false
  | some (host, port) => isPort port ∧ (host.isEmpty ∨ isHostname host)

end Net

end Timebox
