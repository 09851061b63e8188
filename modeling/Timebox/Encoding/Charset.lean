/-! # Single-byte character sets

The character sets of the web that take one byte per character: the bytes below `0x80` are
ASCII in all of them, and each gives its own 128 characters to the bytes above. The name of
each is the one the web's encoding standard prefers.
-/

namespace Timebox

namespace Encoding

/-- A single-byte character set. -/
inductive Charset where
  | ibm866
  | iso8859_2
  | iso8859_3
  | iso8859_4
  | iso8859_5
  | iso8859_6
  | iso8859_7
  | iso8859_8
  /-- The Hebrew set of ISO 8859-8 in logical order: the same characters as `iso8859_8`. -/
  | iso8859_8i
  | iso8859_10
  | iso8859_13
  | iso8859_14
  | iso8859_15
  | iso8859_16
  | koi8r
  | koi8u
  | macintosh
  | windows874
  | windows1250
  | windows1251
  | windows1252
  | windows1253
  | windows1254
  | windows1255
  | windows1256
  | windows1257
  | windows1258
  | xMacCyrillic
deriving DecidableEq, Repr, Inhabited

/-- The preferred name of a single-byte character set. -/
def Charset.name : Charset → String
  | .ibm866 => "ibm866"
  | .iso8859_2 => "iso-8859-2"
  | .iso8859_3 => "iso-8859-3"
  | .iso8859_4 => "iso-8859-4"
  | .iso8859_5 => "iso-8859-5"
  | .iso8859_6 => "iso-8859-6"
  | .iso8859_7 => "iso-8859-7"
  | .iso8859_8 => "iso-8859-8"
  | .iso8859_8i => "iso-8859-8-i"
  | .iso8859_10 => "iso-8859-10"
  | .iso8859_13 => "iso-8859-13"
  | .iso8859_14 => "iso-8859-14"
  | .iso8859_15 => "iso-8859-15"
  | .iso8859_16 => "iso-8859-16"
  | .koi8r => "koi8-r"
  | .koi8u => "koi8-u"
  | .macintosh => "macintosh"
  | .windows874 => "windows-874"
  | .windows1250 => "windows-1250"
  | .windows1251 => "windows-1251"
  | .windows1252 => "windows-1252"
  | .windows1253 => "windows-1253"
  | .windows1254 => "windows-1254"
  | .windows1255 => "windows-1255"
  | .windows1256 => "windows-1256"
  | .windows1257 => "windows-1257"
  | .windows1258 => "windows-1258"
  | .xMacCyrillic => "x-mac-cyrillic"

end Encoding

end Timebox
