import Timebox.Digest.Crc
import Timebox.Digest.Md5
import Timebox.Digest.Sha1
import Timebox.Digest.Sha2
import Timebox.Program.Options

/-! # Checksums and message digests as tools

* `cksum` writes the POSIX checksum and the length of each file (or its input), and the
  file's name when files were named;
* `sum` writes the BSD sum and the size in blocks of 1024 bytes, or with `-s` the System V
  sum and the size in blocks of 512 bytes; the BSD form names a file only when several
  were named, the System V form whenever one was;
* `md5sum`, `sha1sum`, `sha224sum`, `sha256sum`, `sha384sum` and `sha512sum` write a
  digest in hexadecimal, two spaces (a space and `*` with `-b`) and the name, or with
  `--tag` the name of the digest, the file's name in brackets and the digest; a name that
  holds a backslash, a line feed or a carriage return is written with escapes and the line
  starts with a backslash. With `-c` they read such lines back, check each file, write
  `OK` or `FAILED` for it, and warn about lines they could not read, files they could not
  open and digests that differ.
-/

namespace Timebox

namespace Program

open Process

/-! ### cksum and sum -/

/-- The `cksum` of the core tools. -/
def cksum (inv : Invocation) : Effect :=
  match Options.scan inv.name 1 [] inv.args with
  | .error e => e
  | .ok (_, ops) =>
    let named := !ops.isEmpty
    (if ops.isEmpty then ["-"] else ops).foldl (fun (e : Effect) op =>
      match readOperand inv op with
      | .error err => { e.complain (inv.name ++ ": " ++ Text.Quoting.shell op ++ ": " ++ errnoText err) with code := 1 }
      | .ok bs =>
        e.say (toString (Digest.posixCrc bs).toNat ++ " " ++ toString bs.length ++
          (if named then " " ++ op else "") ++ "\n")) {}

/-- Bytes counted in blocks of `size`, the last one partly filled. -/
def blocks (size n : Nat) : Nat := (n + size - 1) / size

/-- The options of `sum`. -/
def sumSpecs : List Options.Spec :=
  [{ key := "r", letter := some 'r' }, { key := "s", letter := some 's', long := some "sysv" }]

/-- The `sum` of the core tools. -/
def sum (inv : Invocation) : Effect :=
  match Options.scan inv.name 1 sumSpecs inv.args with
  | .error e => e
  | .ok (settings, ops) =>
    let sysv := (settings.filter fun s => s.1 = "r" ∨ s.1 = "s").getLast?.map (·.1) = some "s"
    let nameShown := if sysv then !ops.isEmpty else ops.length > 1
    (if ops.isEmpty then ["-"] else ops).foldl (fun (e : Effect) op =>
      match readOperand inv op with
      | .error err => { e.complain (inv.name ++ ": " ++ Text.Quoting.shell op ++ ": " ++ errnoText err) with code := 1 }
      | .ok bs =>
        let line :=
          if sysv then toString (Digest.sysvSum bs) ++ " " ++ toString (blocks 512 bs.length)
          else
            let s := toString (Digest.bsdSum bs)
            let b := toString (blocks 1024 bs.length)
            String.ofList (List.replicate (5 - s.length) '0') ++ s ++ " " ++
              String.ofList (List.replicate (5 - b.length) ' ') ++ b
        e.say (line ++ (if nameShown then " " ++ op else "") ++ "\n")) {}

/-! ### Message digests -/

/-- The message digests. -/
inductive DigestKind where
  | md5
  | sha1
  | sha224
  | sha256
  | sha384
  | sha512
deriving DecidableEq, Repr

namespace DigestKind

/-- The digest of bytes. -/
def run : DigestKind → List UInt8 → List UInt8
  | .md5 => Digest.md5
  | .sha1 => Digest.sha1
  | .sha224 => Digest.sha224
  | .sha256 => Digest.sha256
  | .sha384 => Digest.sha384
  | .sha512 => Digest.sha512

/-- The name of the digest in tagged lines. -/
def tag : DigestKind → String
  | .md5 => "MD5"
  | .sha1 => "SHA1"
  | .sha224 => "SHA224"
  | .sha256 => "SHA256"
  | .sha384 => "SHA384"
  | .sha512 => "SHA512"

/-- The number of hexadecimal digits of the digest. -/
def hexLength : DigestKind → Nat
  | .md5 => 32
  | .sha1 => 40
  | .sha224 => 56
  | .sha256 => 64
  | .sha384 => 96
  | .sha512 => 128

end DigestKind

/-- Whether a name is written with escapes. -/
def needsEscape (name : String) : Bool := name.any fun c => c = '\\' ∨ c = '\n' ∨ c = '\r'

/-- A name with its backslashes, line feeds and carriage returns escaped. -/
def escapeName (name : String) : String :=
  String.join (name.toList.map fun c =>
    if c = '\\' then "\\\\" else if c = '\n' then "\\n" else if c = '\r' then "\\r" else c.toString)

/-- A name read back from its escapes, or none when an escape is not one of them. -/
def unescapeName : List Char → Option (List Char)
  | [] => some []
  | '\\' :: c :: rest =>
    let more := unescapeName rest
    if c = '\\' then more.map ('\\' :: ·)
    else if c = 'n' then more.map ('\n' :: ·)
    else if c = 'r' then more.map ('\r' :: ·)
    else none
  | ['\\'] => none
  | c :: rest => (unescapeName rest).map (c :: ·)

/-- The options of the digest tools. -/
def digestSpecs : List Options.Spec :=
  [{ key := "b", letter := some 'b', long := some "binary" },
   { key := "c", letter := some 'c', long := some "check" },
   { key := "ignore-missing", long := some "ignore-missing" },
   { key := "quiet", long := some "quiet" },
   { key := "status", long := some "status" },
   { key := "t", letter := some 't', long := some "text" },
   { key := "w", letter := some 'w', long := some "warn" },
   { key := "strict", long := some "strict" },
   { key := "tag", long := some "tag" },
   { key := "z", letter := some 'z', long := some "zero" }]

/-- A line of a checksum list as read: the digest in hexadecimal and the file's name. -/
structure ListedSum where
  hexDigits : String
  name : String

/-- Whether a character is a blank of a checksum line. -/
def isWhite (c : Char) : Bool := c = ' ' ∨ c = '\t'

/-- Reads a tagged line, after the name of the digest: `(name) = digest`, the name up to
the last closing bracket. -/
def readTagged (escaped : Bool) (cs : List Char) : Option ListedSum := do
  let close ← (cs.reverse.findIdx? (· = ')')).map fun k => cs.length - 1 - k
  let name := cs.take close
  let name ← if escaped then unescapeName name else some name
  let rest := (cs.drop (close + 1)).dropWhile isWhite
  match rest with
  | '=' :: rest => some { hexDigits := String.ofList (rest.dropWhile isWhite), name := String.ofList name }
  | _ => none

/-- Reads a line of a checksum list: tagged, or the digest, a blank, a space or `*`, and the
name. -/
def readListed (k : DigestKind) (line : String) : Option ListedSum :=
  let cs := line.toList.dropWhile isWhite
  let (escaped, cs) := match cs with
    | '\\' :: rest => (true, rest)
    | _ => (false, cs)
  let tag := k.tag.toList
  if cs.take tag.length = tag then
    let rest := cs.drop tag.length
    let rest := match rest with
      | ' ' :: r => r
      | r => r
    match rest with
    | '(' :: r => readTagged escaped r
    | _ => none
  else if cs.length < k.hexLength + 2 then none
  else
    let hexDigits := cs.take k.hexLength
    match cs.drop k.hexLength with
    | c :: rest =>
      if !isWhite c ∨ !hexDigits.all Char.isHexDigit then none
      else
        let name := match rest with
          | m :: r => if (m = ' ' ∨ m = '*') ∧ !r.isEmpty then r else rest
          | [] => rest
        let name := if escaped then unescapeName name else some name
        name.map fun n => { hexDigits := String.ofList hexDigits, name := String.ofList n }
    | [] => none

/-- A count and a noun, in the singular for one. -/
def counted (n : Nat) (one many : String) : String :=
  toString n ++ " " ++ (if n = 1 then one else many)

/-- The tally of a check. -/
structure Tally where
  formatted : Nat := 0
  misformatted : Nat := 0
  unread : Nat := 0
  mismatched : Nat := 0
  matched : Nat := 0

/-- Checks the files listed in one checksum list. -/
def checkList (k : DigestKind) (inv : Invocation) (settings : List Options.Setting) (e : Effect)
    (listName : String) (bs : List UInt8) : Effect × Bool :=
  let quiet := Options.has settings "quiet"
  let status := Options.has settings "status"
  let lines := (linesOf bs).map fun l =>
    let l := if l.getLast? = some 10 then l.dropLast else l
    if l.getLast? = some 13 then l.dropLast else l
  let (e, t) := lines.foldl (fun (acc : Effect × Tally) l =>
    let (e, t) := acc
    if l.head? = some 0x23 ∨ l.isEmpty then (e, t)
    else
      match readListed k (Raw.ofBytes l) with
      | none => (e, { t with misformatted := t.misformatted + 1 })
      | some s =>
        let t := { t with formatted := t.formatted + 1 }
        let shown := (if needsEscape s.name then "\\" else "") ++ escapeName s.name
        match readOperand inv s.name with
        | .error err =>
          if Options.has settings "ignore-missing" ∧ err = .noEntry then (e, t)
          else
            let e := e.complain (inv.name ++ ": " ++ Text.Quoting.shell s.name ++ ": " ++ errnoText err)
            let e := if status then e else e.say (shown ++ ": FAILED open or read\n")
            (e, { t with unread := t.unread + 1 })
        | .ok bytes =>
          if Digest.hex (k.run bytes) = s.hexDigits.toLower then
            ((if quiet ∨ status then e else e.say (shown ++ ": OK\n")), { t with matched := t.matched + 1 })
          else
            ((if status then e else e.say (shown ++ ": FAILED\n")), { t with mismatched := t.mismatched + 1 }))
    (e, {})
  if t.formatted = 0 then
    (e.complain (inv.name ++ ": " ++ Text.Quoting.shell listName ++ ": no properly formatted checksum lines found"), false)
  else
    let e := if status then e else
      let e := if t.misformatted = 0 then e else
        e.complain (inv.name ++ ": WARNING: " ++ counted t.misformatted "line is improperly formatted" "lines are improperly formatted")
      let e := if t.unread = 0 then e else
        e.complain (inv.name ++ ": WARNING: " ++ counted t.unread "listed file could not be read" "listed files could not be read")
      let e := if t.mismatched = 0 then e else
        e.complain (inv.name ++ ": WARNING: " ++ counted t.mismatched "computed checksum did NOT match" "computed checksums did NOT match")
      if Options.has settings "ignore-missing" ∧ t.matched = 0 then
        e.complain (inv.name ++ ": " ++ Text.Quoting.shell listName ++ ": no file was verified")
      else e
    (e, t.mismatched = 0 ∧ t.unread = 0 ∧ (!Options.has settings "strict" ∨ t.misformatted = 0) ∧
      (!Options.has settings "ignore-missing" ∨ t.matched > 0))

/-- The digest tools of the core tools. -/
def digestTool (k : DigestKind) (inv : Invocation) : Effect :=
  match Options.scan inv.name 1 digestSpecs inv.args with
  | .error e => e
  | .ok (settings, ops) =>
    let ops := if ops.isEmpty then ["-"] else ops
    if Options.has settings "c" then
      let (e, ok) := ops.foldl (fun (acc : Effect × Bool) op =>
        let (e, ok) := acc
        match readOperand inv op with
        | .error err => (e.complain (inv.name ++ ": " ++ Text.Quoting.shell op ++ ": " ++ errnoText err), false)
        | .ok bs =>
          let (e, good) := checkList k inv settings e (if op = "-" then "standard input" else op) bs
          (e, ok && good)) ({}, true)
      { e with code := if ok then 0 else 1 }
    else
      let zero := Options.has settings "z"
      let binary := (settings.filter fun s => s.1 = "b" ∨ s.1 = "t").getLast?.map (·.1) = some "b"
      ops.foldl (fun (e : Effect) op =>
        match readOperand inv op with
        | .error err => { e.complain (inv.name ++ ": " ++ Text.Quoting.shell op ++ ": " ++ errnoText err) with code := 1 }
        | .ok bs =>
          let hexText := Digest.hex (k.run bs)
          let escape := !zero ∧ needsEscape op
          let name := if escape then escapeName op else op
          let lead := if escape then "\\" else ""
          let line := if Options.has settings "tag" then lead ++ k.tag ++ " (" ++ name ++ ") = " ++ hexText
            else lead ++ hexText ++ (if binary then " *" else "  ") ++ name
          e.say (line ++ (if zero then String.singleton (Char.ofNat 0) else "\n"))) {}

end Program

end Timebox
