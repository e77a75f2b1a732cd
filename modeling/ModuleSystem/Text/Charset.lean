import ModuleSystem.Text.Charset.Utf16

/-!
# Character sets

The character sets that a text can be sent in, their labels, and the decoding of bytes. A label is
compared without regard to letter case and to which signs separate its words. Malformed input decodes
to replacement characters.
-/

namespace ModuleSystem.Text

/-- A way to write text as bytes. -/
inductive Charset where
  | utf8
  | utf8WithMark
  | ascii
  | latin1
  | windows1252
  | utf16
  | utf16As (order : ByteOrder)
  deriving DecidableEq, Repr

/-- The words of a label joined with single underscores, without signs at its ends. A word is made of
letters, digits and dots of ASCII. -/
def labelWords (begun gap : Bool) : List Char → List Char
  | [] => []
  | c :: rest =>
    if c.isAlphanum || c = '.' then
      let kept := c :: labelWords true false rest
      if gap && begun then '_' :: kept else kept
    else labelWords begun true rest

/-- The normal form of a label. -/
def normalizeLabel (label : String) : String :=
  String.ofList (labelWords false false (label.toList.map Char.toLower))

/-- The name of a character set and its further labels, in normal form. -/
structure CharsetNames where
  charset : Charset
  name : String
  labels : List String

/-- The names of the character sets. -/
def charsetNames : List CharsetNames :=
  [⟨.utf8, "utf_8", ["utf8", "u8", "utf", "utf8_ucs2", "utf8_ucs4", "cp65001"]⟩,
    ⟨.utf8WithMark, "utf_8_sig", []⟩,
    ⟨.ascii, "ascii", ["us_ascii", "us", "646", "ansi_x3.4_1968", "ansi_x3_4_1968",
      "ansi_x3.4_1986", "cp367", "csascii", "ibm367", "iso646_us", "iso_646.irv_1991",
      "iso_ir_6"]⟩,
    ⟨.latin1, "latin_1", ["latin1", "latin", "l1", "8859", "cp819", "csisolatin1", "ibm819",
      "iso8859", "iso8859_1", "iso_8859_1", "iso_8859_1_1987", "iso_ir_100"]⟩,
    ⟨.windows1252, "cp1252", ["1252", "windows_1252"]⟩,
    ⟨.utf16, "utf_16", ["utf16", "u16"]⟩,
    ⟨.utf16As .littleEndian, "utf_16_le", ["utf_16le", "unicodelittleunmarked"]⟩,
    ⟨.utf16As .bigEndian, "utf_16_be", ["utf_16be", "unicodebigunmarked"]⟩]

/-- The character set of a label. In a label that is not the name itself a dot may stand for an
underscore. -/
def Charset.ofLabel? (label : String) : Option Charset :=
  let normal := normalizeLabel label
  let undotted := String.ofList (normal.toList.map fun c => if c = '.' then '_' else c)
  (charsetNames.find? fun names =>
    names.name == normal || names.labels.contains normal ||
      names.labels.contains undotted).map CharsetNames.charset

/-- The characters of the bytes `80` to `9F` in the Windows set; the zeros are not assigned. -/
def windows1252High : List Nat :=
  [0x20AC, 0, 0x201A, 0x0192, 0x201E, 0x2026, 0x2020, 0x2021, 0x02C6, 0x2030, 0x0160, 0x2039,
    0x0152, 0, 0x017D, 0, 0, 0x2018, 0x2019, 0x201C, 0x201D, 0x2022, 0x2013, 0x2014, 0x02DC,
    0x2122, 0x0161, 0x203A, 0x0153, 0, 0x017E, 0x0178]

/-- The character of a byte in the Windows set. -/
def windows1252Char (b : UInt8) : Char :=
  let n := b.toNat
  if 0x80 ≤ n ∧ n < 0xA0 then
    match windows1252High.getD (n - 0x80) 0 with
    | 0 => replacement
    | code => Char.ofNat code
  else Char.ofNat n

/-- Decodes bytes in a character set. -/
def Charset.decode (charset : Charset) (bytes : List UInt8) : List Char :=
  match charset with
  | .utf8 => decodeUtf8 bytes
  | .utf8WithMark => decodeUtf8 (dropUtf8Mark bytes)
  | .ascii => bytes.map fun b => if b.toNat < 128 then Char.ofNat b.toNat else replacement
  | .latin1 => bytes.map fun b => Char.ofNat b.toNat
  | .windows1252 => bytes.map windows1252Char
  | .utf16 => decodeUtf16 bytes
  | .utf16As order => decodeUtf16As order bytes

end ModuleSystem.Text
