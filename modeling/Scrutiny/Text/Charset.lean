import Scrutiny.Failure
import Scrutiny.Text.Search
import Scrutiny.Text.Utf8

/-! The encoding that a source declares.

A comment in one of the first two lines can declare the encoding of a source: it has `coding`, a colon or an equals
sign, and a name. The second line counts only where nothing but a comment is in the first. A source that declares
nothing is UTF-8, and so is one that starts with a byte order mark. Which other names are known, and what the encodings
make of bytes, is a table that is given. A declaration that is at fault, because its name is not known or speaks against
the mark, or because a line is not UTF-8, makes the source Latin-1. -/
namespace Scrutiny.Text

/-- What an encoding makes of bytes: a text, or why there is none. -/
abbrev Codec := List UInt8 → Outcome (List Char)

/-- The encodings that are known, by their names as they are written. -/
abbrev Codecs := String → Option Codec

/-! ### Declarations -/

/-- Whether a character can stand in the name of an encoding. -/
def isCharsetChar (c : Char) : Bool :=
  c.isAlphanum || c = '_' || c = '-' || c = '.'

def isGap (c : Char) : Bool :=
  c = ' ' || c = '\t'

/-- What a line may start with before its comment. -/
def isIndent (c : Char) : Bool :=
  isGap c || c = '\x0c'

def codingWord : List Char :=
  ['c', 'o', 'd', 'i', 'n', 'g']

/-- The name at the start of a text, after `coding` and a colon or an equals sign. -/
def nameAfterCoding? (text : List Char) : Option (List Char) :=
  let rest := text.drop codingWord.length
  if codingWord.isPrefixOf text && (rest.head? = some ':' || rest.head? = some '=') then
    let name := ((rest.drop 1).dropWhile isGap).takeWhile isCharsetChar
    if name.isEmpty then none else some name
  else none

/-- The first name that a comment declares. -/
def declaredName? : List Char → Option (List Char)
  | [] => none
  | c :: rest => nameAfterCoding? (c :: rest) <|> declaredName? rest

/-- The name that a line declares in its comment. Nothing but the comment is in such a line. -/
def declaration? (line : List Char) : Option (List Char) :=
  let rest := line.dropWhile isIndent
  if rest.head? = some '#' then declaredName? (rest.drop 1) else none

/-- Whether nothing but a comment is in a line. -/
def hasNoCode (line : List Char) : Bool :=
  let rest := line.dropWhile isIndent
  rest.isEmpty || rest.head? = some '#' || rest.head? = some '\r'

/-! ### Charsets -/

/-- The ways to read a source. -/
inductive Charset where
  | utf8
  /-- UTF-8 after a byte order mark. -/
  | marked
  | latin
  | other (codec : Codec)

/-- The start of a name, in small letters and with dashes, by which the proper names of UTF-8 and Latin-1 are known. -/
def properName (name : List Char) : String :=
  String.ofList ((name.take 12).map fun c => if c = '_' then '-' else c.toLower)

/-- Whether a name is the given one, or the given one with more after a dash. -/
def isCalled (name given : String) : Bool :=
  name = given || startsWith (given ++ "-") name

def Charset.named? (codecs : Codecs) (name : List Char) : Option Charset :=
  if isCalled (properName name) "utf-8" then some .utf8
  else if ["latin-1", "iso-8859-1", "iso-latin-1"].any (isCalled (properName name)) then some .latin
  else (codecs (String.ofList name)).map .other

/-- What a line declares, if anything. The whole is `none` where the declaration is at fault. -/
def declaredBy? (codecs : Codecs) (line : List Char) : Option (Option Charset) :=
  match declaration? line with
  | none => some none
  | some name => (Charset.named? codecs name).map some

def firstLine (bytes : List UInt8) : List UInt8 :=
  bytes.takeWhile (· ≠ 0x0A)

def afterFirstLine (bytes : List UInt8) : List UInt8 :=
  (bytes.dropWhile (· ≠ 0x0A)).drop 1

/-- What the first two lines declare. -/
def declared? (codecs : Codecs) (bytes : List UInt8) : Option (Option Charset) := do
  let first ← Utf8.decode (firstLine bytes)
  match ← declaredBy? codecs first with
  | some charset => return some charset
  | none =>
    if hasNoCode first then declaredBy? codecs (← Utf8.decode (firstLine (afterFirstLine bytes)))
    else return none

/-- How a source is to be read; `none` where its declaration is at fault. -/
def Charset.of? (codecs : Codecs) (bytes : List UInt8) : Option Charset :=
  if Utf8.mark.isPrefixOf bytes then
    match declared? codecs (bytes.drop Utf8.mark.length) with
    | some none | some (some .utf8) => some .marked
    | _ => none
  else (declared? codecs bytes).map (·.getD .utf8)

/-! ### Reading -/

def utf8Codec : Codec := fun bytes =>
  match Utf8.decode bytes with
  | some text => .ok text
  | none => .error .undecodable

/-- Each byte is a character. -/
def latinCodec : Codec := fun bytes =>
  .ok (bytes.map fun b => Char.ofNat b.toNat)

def asciiCodec : Codec := fun bytes =>
  if bytes.all (· < 0x80) then latinCodec bytes else .error .undecodable

def Charset.codec : Charset → Codec
  | utf8 => utf8Codec
  | marked => fun bytes => utf8Codec (bytes.drop Utf8.mark.length)
  | latin => latinCodec
  | other codec => codec

/-- The text of a source by its declaration. -/
def readDeclared (codecs : Codecs) : Codec := fun bytes =>
  ((Charset.of? codecs bytes).getD .latin).codec bytes

/-! ### Names that are known to all -/

/-- A name with its letters small, and one underscore for what stands between letters, digits and dots. -/
def codecKey (name : String) : List Char :=
  let marked := name.toList.map fun c => if c.isAlphanum || c = '.' then c.toLower else '_'
  ['_'].intercalate ((pieces '_' marked).filter (! ·.isEmpty))

/-- Whether an encoding is known by a name: its own, or one of its others, where a dot may stand for an underscore. -/
def isKnownAs (own : String) (others : List String) (name : String) : Bool :=
  let key := codecKey name
  let undotted := key.map fun c => if c = '.' then '_' else c
  (own :: others).contains (String.ofList key) || others.contains (String.ofList undotted)

/-- The usual table: the names of UTF-8, Latin-1 and ASCII. -/
def Codecs.usual : Codecs := fun name =>
  if isKnownAs "utf_8" ["u8", "utf", "utf8", "utf8_ucs2", "utf8_ucs4", "cp65001"] name then some utf8Codec
  else if isKnownAs "latin_1" ["8859", "cp819", "csisolatin1", "ibm819", "iso8859", "iso8859_1", "iso_8859_1",
      "iso_8859_1_1987", "iso_ir_100", "l1", "latin", "latin1"] name then some latinCodec
  else if isKnownAs "ascii" ["646", "ansi_x3.4_1968", "ansi_x3_4_1968", "ansi_x3.4_1986", "cp367", "csascii", "ibm367",
      "iso646_us", "iso_646.irv_1991", "iso_ir_6", "us", "us_ascii"] name then some asciiCodec
  else none

end Scrutiny.Text
