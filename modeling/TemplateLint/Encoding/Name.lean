import TemplateLint.Encoding.Codec

/-!
# Names of encodings

An encoding has one proper name and may have aliases. A name is looked up in a normal form: ASCII
letters, digits and points stay, in lower case, and every run of other characters between two of
them becomes one underscore. An alias is also found with underscores for its points; a proper
name is not. Encodings that are not listed here have no name, though a machine may know more of
them.
-/

namespace TemplateLint

/-- What an encoding name can stand for. -/
inductive Encoding where
  /-- bytes to text -/
  | text (codec : Encoding.Codec)
  /-- a transformation between bytes or between texts -/
  | transform
  /-- an encoding that refuses every text -/
  | undefined
deriving Repr, DecidableEq

namespace Encoding

/-- Whether a character stays in the normal form of a name. -/
def staysInName (c : Char) : Bool := c.isAlphanum || c == '.'

/-- The normal form of a name behind the characters that it already has, if any; `pending` says
that others were left out since. -/
def normalFrom (started pending : Bool) : Text → Text
  | [] => []
  | c :: s =>
    if staysInName c then
      if started && pending then '_' :: c.toLower :: normalFrom true false s
      else c.toLower :: normalFrom true false s
    else normalFrom started true s

/-- The normal form of a name. -/
def normalName (name : Text) : Text := normalFrom false false name

/-- The proper names of the encodings. -/
def properNames : List (String × Encoding) :=
  [("utf_8", .text (.plain .utf8)), ("utf_8_sig", .text .signed),
   ("latin_1", .text (.plain (.single .latin1))), ("ascii", .text (.plain (.single .ascii))),
   ("cp1252", .text (.plain (.single .windows1252))),
   ("iso8859_15", .text (.plain (.single .latin9))),
   ("utf_16", .text (.marked .utf16)), ("utf_16_le", .text (.plain (.wide .utf16 .little))),
   ("utf_16_be", .text (.plain (.wide .utf16 .big))),
   ("utf_32", .text (.marked .utf32)), ("utf_32_le", .text (.plain (.wide .utf32 .little))),
   ("utf_32_be", .text (.plain (.wide .utf32 .big))),
   ("rot_13", .transform), ("hex_codec", .transform), ("base64_codec", .transform),
   ("zlib_codec", .transform), ("bz2_codec", .transform), ("uu_codec", .transform),
   ("quopri_codec", .transform), ("undefined", .undefined)]

/-- The aliases, each with the proper name it stands for. -/
def aliases : List (String × String) :=
  [("u8", "utf_8"), ("utf", "utf_8"), ("utf8", "utf_8"), ("utf8_ucs2", "utf_8"),
   ("utf8_ucs4", "utf_8"), ("cp65001", "utf_8"),
   ("8859", "latin_1"), ("cp819", "latin_1"), ("csisolatin1", "latin_1"), ("ibm819", "latin_1"),
   ("iso8859", "latin_1"), ("iso8859_1", "latin_1"), ("iso_8859_1", "latin_1"),
   ("iso_8859_1_1987", "latin_1"), ("iso_ir_100", "latin_1"), ("l1", "latin_1"),
   ("latin", "latin_1"), ("latin1", "latin_1"),
   ("646", "ascii"), ("ansi_x3.4_1968", "ascii"), ("ansi_x3_4_1968", "ascii"),
   ("ansi_x3.4_1986", "ascii"), ("cp367", "ascii"), ("csascii", "ascii"), ("ibm367", "ascii"),
   ("iso646_us", "ascii"), ("iso_646.irv_1991", "ascii"), ("iso_ir_6", "ascii"), ("us", "ascii"),
   ("us_ascii", "ascii"),
   ("1252", "cp1252"), ("windows_1252", "cp1252"),
   ("iso_8859_15", "iso8859_15"), ("l9", "iso8859_15"), ("latin9", "iso8859_15"),
   ("u16", "utf_16"), ("utf16", "utf_16"), ("unicodelittleunmarked", "utf_16_le"),
   ("utf_16le", "utf_16_le"), ("unicodebigunmarked", "utf_16_be"), ("utf_16be", "utf_16_be"),
   ("u32", "utf_32"), ("utf32", "utf_32"), ("utf_32le", "utf_32_le"), ("utf_32be", "utf_32_be"),
   ("hex", "hex_codec"), ("rot13", "rot_13"), ("base64", "base64_codec"),
   ("base_64", "base64_codec"), ("zip", "zlib_codec"), ("zlib", "zlib_codec"),
   ("bz2", "bz2_codec"), ("uu", "uu_codec"), ("quopri", "quopri_codec"),
   ("quoted_printable", "quopri_codec"), ("quotedprintable", "quopri_codec")]

/-- The proper name behind an alias in normal form, also with underscores for its points. -/
def properName? (normal : Text) : Option String :=
  match aliases.lookup (String.ofList normal) with
  | some name => some name
  | none => aliases.lookup (String.ofList (normal.map fun c => if c = '.' then '_' else c))

/-- The encoding that a name stands for. -/
def ofName? (name : Text) : Option Encoding :=
  let normal := normalName name
  properNames.lookup ((properName? normal).getD (String.ofList normal))

end Encoding

end TemplateLint
