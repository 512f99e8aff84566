import SchemaAlgebra.Text.Character
import SchemaAlgebra.Text.CharacterName.Alphabetic
import SchemaAlgebra.Text.CharacterName.Basic
import SchemaAlgebra.Text.CharacterName.Historic
import SchemaAlgebra.Text.CharacterName.Picture

/-!
Second names of characters: of controls, which have no other, and corrections of names that were
given by mistake.
-/

namespace SchemaAlgebra.Text.CharacterName

/-- The second names, with their code points. -/
def aliases : List (Nat × String) :=
  [(0, "NUL"),
   (0, "NULL"),
   (1, "SOH"),
   (1, "START OF HEADING"),
   (2, "START OF TEXT"),
   (2, "STX"),
   (3, "END OF TEXT"),
   (3, "ETX"),
   (4, "END OF TRANSMISSION"),
   (4, "EOT"),
   (5, "ENQ"),
   (5, "ENQUIRY"),
   (6, "ACK"),
   (6, "ACKNOWLEDGE"),
   (7, "ALERT"),
   (7, "BEL"),
   (8, "BACKSPACE"),
   (8, "BS"),
   (9, "CHARACTER TABULATION"),
   (9, "HORIZONTAL TABULATION"),
   (9, "HT"),
   (9, "TAB"),
   (10, "END OF LINE"),
   (10, "EOL"),
   (10, "LF"),
   (10, "LINE FEED"),
   (10, "NEW LINE"),
   (10, "NL"),
   (11, "LINE TABULATION"),
   (11, "VERTICAL TABULATION"),
   (11, "VT"),
   (12, "FF"),
   (12, "FORM FEED"),
   (13, "CARRIAGE RETURN"),
   (13, "CR"),
   (14, "LOCKING-SHIFT ONE"),
   (14, "SHIFT OUT"),
   (14, "SO"),
   (15, "LOCKING-SHIFT ZERO"),
   (15, "SHIFT IN"),
   (15, "SI"),
   (16, "DATA LINK ESCAPE"),
   (16, "DLE"),
   (17, "DC1"),
   (17, "DEVICE CONTROL ONE"),
   (18, "DC2"),
   (18, "DEVICE CONTROL TWO"),
   (19, "DC3"),
   (19, "DEVICE CONTROL THREE"),
   (20, "DC4"),
   (20, "DEVICE CONTROL FOUR"),
   (21, "NAK"),
   (21, "NEGATIVE ACKNOWLEDGE"),
   (22, "SYN"),
   (22, "SYNCHRONOUS IDLE"),
   (23, "END OF TRANSMISSION BLOCK"),
   (23, "ETB"),
   (24, "CAN"),
   (24, "CANCEL"),
   (25, "END OF MEDIUM"),
   (25, "EOM"),
   (26, "SUB"),
   (26, "SUBSTITUTE"),
   (27, "ESC"),
   (27, "ESCAPE"),
   (28, "FILE SEPARATOR"),
   (28, "FS"),
   (28, "INFORMATION SEPARATOR FOUR"),
   (29, "GROUP SEPARATOR"),
   (29, "GS"),
   (29, "INFORMATION SEPARATOR THREE"),
   (30, "INFORMATION SEPARATOR TWO"),
   (30, "RECORD SEPARATOR"),
   (30, "RS"),
   (31, "INFORMATION SEPARATOR ONE"),
   (31, "UNIT SEPARATOR"),
   (31, "US"),
   (32, "SP"),
   (127, "DEL"),
   (127, "DELETE"),
   (128, "PAD"),
   (128, "PADDING CHARACTER"),
   (129, "HIGH OCTET PRESET"),
   (129, "HOP"),
   (130, "BPH"),
   (130, "BREAK PERMITTED HERE"),
   (131, "NBH"),
   (131, "NO BREAK HERE"),
   (132, "IND"),
   (132, "INDEX"),
   (133, "NEL"),
   (133, "NEXT LINE"),
   (134, "SSA"),
   (134, "START OF SELECTED AREA"),
   (135, "END OF SELECTED AREA"),
   (135, "ESA"),
   (136, "CHARACTER TABULATION SET"),
   (136, "HORIZONTAL TABULATION SET"),
   (136, "HTS"),
   (137, "CHARACTER TABULATION WITH JUSTIFICATION"),
   (137, "HORIZONTAL TABULATION WITH JUSTIFICATION"),
   (137, "HTJ"),
   (138, "LINE TABULATION SET"),
   (138, "VERTICAL TABULATION SET"),
   (138, "VTS"),
   (139, "PARTIAL LINE DOWN"),
   (139, "PARTIAL LINE FORWARD"),
   (139, "PLD"),
   (140, "PARTIAL LINE BACKWARD"),
   (140, "PARTIAL LINE UP"),
   (140, "PLU"),
   (141, "REVERSE INDEX"),
   (141, "REVERSE LINE FEED"),
   (141, "RI"),
   (142, "SINGLE SHIFT TWO"),
   (142, "SINGLE-SHIFT-2"),
   (142, "SS2"),
   (143, "SINGLE SHIFT THREE"),
   (143, "SINGLE-SHIFT-3"),
   (143, "SS3"),
   (144, "DCS"),
   (144, "DEVICE CONTROL STRING"),
   (145, "PRIVATE USE ONE"),
   (145, "PRIVATE USE-1"),
   (145, "PU1"),
   (146, "PRIVATE USE TWO"),
   (146, "PRIVATE USE-2"),
   (146, "PU2"),
   (147, "SET TRANSMIT STATE"),
   (147, "STS"),
   (148, "CANCEL CHARACTER"),
   (148, "CCH"),
   (149, "MESSAGE WAITING"),
   (149, "MW"),
   (150, "SPA"),
   (150, "START OF GUARDED AREA"),
   (150, "START OF PROTECTED AREA"),
   (151, "END OF GUARDED AREA"),
   (151, "END OF PROTECTED AREA"),
   (151, "EPA"),
   (152, "SOS"),
   (152, "START OF STRING"),
   (153, "SGC"),
   (153, "SINGLE GRAPHIC CHARACTER INTRODUCER"),
   (154, "SCI"),
   (154, "SINGLE CHARACTER INTRODUCER"),
   (155, "CONTROL SEQUENCE INTRODUCER"),
   (155, "CSI"),
   (156, "ST"),
   (156, "STRING TERMINATOR"),
   (157, "OPERATING SYSTEM COMMAND"),
   (157, "OSC"),
   (158, "PM"),
   (158, "PRIVACY MESSAGE"),
   (159, "APC"),
   (159, "APPLICATION PROGRAM COMMAND"),
   (160, "NBSP"),
   (173, "SHY"),
   (418, "LATIN CAPITAL LETTER GHA"),
   (419, "LATIN SMALL LETTER GHA"),
   (847, "CGJ"),
   (1564, "ALM"),
   (1801, "SYRIAC SUBLINEAR COLON SKEWED LEFT"),
   (3294, "KANNADA LETTER LLLA"),
   (3741, "LAO LETTER FO FON"),
   (3743, "LAO LETTER FO FAY"),
   (3747, "LAO LETTER RO"),
   (3749, "LAO LETTER LO"),
   (4048, "TIBETAN MARK BKA- SHOG GI MGO RGYAN"),
   (4588, "HANGUL JONGSEONG YESIEUNG-KIYEOK"),
   (4589, "HANGUL JONGSEONG YESIEUNG-SSANGKIYEOK"),
   (4590, "HANGUL JONGSEONG SSANGYESIEUNG"),
   (4591, "HANGUL JONGSEONG YESIEUNG-KHIEUKH"),
   (6155, "FVS1"),
   (6156, "FVS2"),
   (6157, "FVS3"),
   (6158, "MVS"),
   (6159, "FVS4"),
   (8203, "ZWSP"),
   (8204, "ZWNJ"),
   (8205, "ZWJ"),
   (8206, "LRM"),
   (8207, "RLM"),
   (8234, "LRE"),
   (8235, "RLE"),
   (8236, "PDF"),
   (8237, "LRO"),
   (8238, "RLO"),
   (8239, "NNBSP"),
   (8287, "MMSP"),
   (8288, "WJ"),
   (8294, "LRI"),
   (8295, "RLI"),
   (8296, "FSI"),
   (8297, "PDI"),
   (8472, "WEIERSTRASS ELLIPTIC FUNCTION"),
   (9288, "MICR ON US SYMBOL"),
   (9289, "MICR DASH SYMBOL"),
   (11130, "LEFTWARDS TRIANGLE-HEADED ARROW WITH DOUBLE VERTICAL STROKE"),
   (11132, "RIGHTWARDS TRIANGLE-HEADED ARROW WITH DOUBLE VERTICAL STROKE"),
   (40981, "YI SYLLABLE ITERATION MARK"),
   (43630, "MYANMAR LETTER KHAMTI LLA"),
   (65048, "PRESENTATION FORM FOR VERTICAL RIGHT WHITE LENTICULAR BRACKET"),
   (65279, "BOM"),
   (65279, "BYTE ORDER MARK"),
   (65279, "ZWNBSP"),
   (74452, "CUNEIFORM SIGN NU11 TENU"),
   (74453, "CUNEIFORM SIGN NU11 OVER NU11 BUR OVER BUR"),
   (93782, "MEDEFAIDRIN CAPITAL LETTER H"),
   (93783, "MEDEFAIDRIN CAPITAL LETTER NG"),
   (93814, "MEDEFAIDRIN SMALL LETTER H"),
   (93815, "MEDEFAIDRIN SMALL LETTER NG"),
   (110593, "HENTAIGANA LETTER E-1"),
   (118981, "BYZANTINE MUSICAL SYMBOL FTHORA SKLIRON CHROMA VASIS")]

/-!
Finding a character by its name. Most names stand in tables and may be given in letters of either
case. Ideographs are named by their code points, and Korean syllables by their sounds: an initial, a
vowel and a final.
-/

/-- The value of a hexadecimal digit with capital letters. -/
def capitalHex? (c : Char) : Option Nat :=
  if '0' ≤ c ∧ c ≤ '9' then some (c.toNat - 48)
  else if 'A' ≤ c ∧ c ≤ 'F' then some (c.toNat - 55)
  else none

/-- The number that hexadecimal digits with capital letters denote. -/
def capitalHexNumber? (digits : List Char) : Option Nat :=
  digits.foldlM (fun n c => (capitalHex? c).map (16 * n + ·)) 0

/-- What follows a given text at the front of another. -/
def after? (front : String) (text : List Char) : Option (List Char) :=
  if front.toList.isPrefixOf text then some (text.drop front.length) else none

/-- The unified ideographs. -/
def ideographSpans : Spans :=
  [(0x3400, 0x4DBF), (0x4E00, 0x9FFF), (0x20000, 0x2A6DF), (0x2A700, 0x2B738), (0x2B740, 0x2B81D),
   (0x2B820, 0x2CEA1), (0x2CEB0, 0x2EBE0), (0x30000, 0x3134A)]

/-- The kinds of characters that are named by a word and their code point in capitals of exactly as
many digits as it has. -/
def numberedSpans : List (String × Spans) :=
  [("CJK COMPATIBILITY IDEOGRAPH-", [(0xF900, 0xFA6D), (0xFA70, 0xFAD9), (0x2F800, 0x2FA1D)]),
   ("NUSHU CHARACTER-", [(0x1B170, 0x1B2FB)]),
   ("KHITAN SMALL SCRIPT CHARACTER-", [(0x18B00, 0x18CD5)])]

/-- The initial sounds of Korean syllables. -/
def initials : List String :=
  ["G", "GG", "N", "D", "DD", "R", "M", "B", "BB", "S", "SS", "", "J", "JJ", "C", "K", "T", "P",
   "H"]

/-- The vowels of Korean syllables. -/
def vowels : List String :=
  ["A", "AE", "YA", "YAE", "EO", "E", "YEO", "YE", "O", "WA", "WAE", "OE", "YO", "U", "WEO", "WE",
   "WI", "YU", "EU", "YI", "I"]

/-- The final sounds of Korean syllables. -/
def finals : List String :=
  ["", "G", "GG", "GS", "N", "NJ", "NH", "D", "L", "LG", "LM", "LB", "LS", "LT", "LP", "LH", "M",
   "B", "BS", "S", "SS", "NG", "J", "C", "K", "T", "P", "H"]

/-- The longest of some sounds at the front of a text: its index, and what follows it. -/
def takeSound? (sounds : List String) (text : List Char) : Option (Nat × List Char) :=
  sounds.zipIdx.foldl (fun best entry =>
    match after? entry.1 text with
    | none => best
    | some rest =>
        match best with
        | some (index, left) => if rest.length < left.length then some (entry.2, rest)
            else some (index, left)
        | none => some (entry.2, rest)) none

/-- The code point of a Korean syllable by its sounds. -/
def syllable? (text : List Char) : Option Nat := do
  let (initial, text) ← takeSound? initials text
  let (vowel, text) ← takeSound? vowels text
  let (final, text) ← takeSound? finals text
  if text.isEmpty then some (0xAC00 + (initial * 21 + vowel) * 28 + final) else none

/-- The code point of a unified ideograph by its number, of four or five digits. -/
def ideograph? (digits : List Char) : Option Nat := do
  if digits.length ≠ 4 ∧ digits.length ≠ 5 then none
  let code ← capitalHexNumber? digits
  if ideographSpans.holds code then some code else none

/-- The code point of a character that is named by its kind and number. -/
def numbered? (name : List Char) : Option Nat :=
  numberedSpans.findSome? fun entry => do
    let digits ← after? entry.1 name
    let code ← capitalHexNumber? digits
    if entry.2.holds code ∧ digits.head? ≠ some '0' then some code else none

/-- The code point of a variation selector by its short name. -/
def selector? (name : List Char) : Option Nat := do
  let digits ← after? "VS" name
  if digits.isEmpty ∨ digits.head? = some '0' ∨ !digits.all Char.isDigit then none
  let n := digits.foldl (fun n c => 10 * n + (c.toNat - 48)) 0
  if n ≤ 16 then some (0xFE00 + n - 1) else if n ≤ 256 then some (0xE0100 + n - 17) else none

/-- The blocks of all tables. -/
def blocks : List (List Block) :=
  [alphabeticBlocks, basicBlocks, historicBlocks, pictureBlocks]

/-- The code point of a name in the tables. -/
def inTables? (name : List Char) : Option Nat :=
  let words := wordsOf name
  match blocks.findSome? fun part => part.findSome? fun block => block.find? words with
  | some code => some code
  | none => (aliases.find? fun entry => entry.2.toList = name).map Prod.fst

/-- The code point of the character with a name. -/
def find? (name : List Char) : Option Nat :=
  match after? "HANGUL SYLLABLE " name, after? "CJK UNIFIED IDEOGRAPH-" name with
  | some sounds, _ => syllable? sounds
  | none, some digits => ideograph? digits
  | none, none =>
      let capitals := name.map Char.toUpper
      match numbered? capitals, selector? capitals with
      | some code, _ => some code
      | none, some code => some code
      | none, none => inTables? capitals

example : find? "HANGUL SYLLABLE GAG".toList = some 0xAC01 := by decide
example : find? "CJK UNIFIED IDEOGRAPH-4E00".toList = some 0x4E00 := by decide

end SchemaAlgebra.Text.CharacterName
