import PackageAtlas.Text.CodePoints
import PackageAtlas.Text.Names.Alphabets
import PackageAtlas.Text.Names.Ancient
import PackageAtlas.Text.Names.Notations
import PackageAtlas.Text.Names.Pictures
import PackageAtlas.Text.Names.Syllabaries
import PackageAtlas.Text.Names.Symbols

namespace PackageAtlas.Text

/-!
# Names of characters

Characters can be named. Most names are in tables of a standard; others are made of the code point,
or of the sounds of a syllable.

A table has an entry for each name: a small letter, which says how many words the name shares with
the one before, and its other words. The names are those of characters one after another; the code
point of a name that is not the next one is given before it, as in `@2014;`.

* `NameScan`, `codeInTable?`: looks for a name in a table;
* `codedName?`: names that end in the code point; `syllable?`: names of syllables;
* `codeOfName?`: the character of a name.
-/

/-! ### Tables -/

/-- Further names of characters. -/
def Names.further : String := "
@0;aNULL@0;aNULaSTART OF HEADING@1;aSOHaSTART OF TEXT@2;aSTXaEND OF TEXT@3;aETX
aEND OF TRANSMISSION@4;aEOTaENQUIRY@5;aENQaACKNOWLEDGE@6;aACKaALERT@7;aBELaBACKSPACE@8;aBS
aCHARACTER TABULATION@9;aHORIZONTAL TABULATION@9;aHT@9;aTABaLINE FEED@A;aNEW LINE@A;aEND OF LINE
@A;aEOL@A;aLF@A;aNLaLINE TABULATION@B;aVERTICAL TABULATION@B;aVTaFORM FEED@C;aFFaCARRIAGE RETURN
@D;aCRaSHIFT OUT@E;aLOCKING-SHIFT ONE@E;aSOaSHIFT IN@F;aLOCKING-SHIFT ZERO@F;aSIaDATA LINK ESCAPE
@10;aDLEaDEVICE CONTROL ONE@11;aDC1aDEVICE CONTROL TWO@12;aDC2aDEVICE CONTROL THREE@13;aDC3
aDEVICE CONTROL FOUR@14;aDC4aNEGATIVE ACKNOWLEDGE@15;aNAKaSYNCHRONOUS IDLE@16;aSYN
aEND OF TRANSMISSION BLOCK@17;aETBaCANCEL@18;aCANaEND OF MEDIUM@19;aEOMaSUBSTITUTE@1A;aSUBaESCAPE
@1B;aESCaINFORMATION SEPARATOR FOUR@1C;aFILE SEPARATOR@1C;aFSaINFORMATION SEPARATOR THREE
@1D;aGROUP SEPARATOR@1D;aGSaINFORMATION SEPARATOR TWO@1E;aRECORD SEPARATOR@1E;aRS
aINFORMATION SEPARATOR ONE@1F;aUNIT SEPARATOR@1F;aUSaSP@7F;aDELETE@7F;aDELaPADDING CHARACTER
@80;aPADaHIGH OCTET PRESET@81;aHOPaBREAK PERMITTED HERE@82;aBPHaNO BREAK HERE@83;aNBHaINDEX
@84;aINDaNEXT LINE@85;aNELaSTART OF SELECTED AREA@86;aSSAaEND OF SELECTED AREA@87;aESA
aCHARACTER TABULATION SET@88;aHORIZONTAL TABULATION SET@88;aHTS
aCHARACTER TABULATION WITH JUSTIFICATION@89;aHORIZONTAL TABULATION WITH JUSTIFICATION@89;aHTJ
aLINE TABULATION SET@8A;aVERTICAL TABULATION SET@8A;aVTSaPARTIAL LINE FORWARD@8B;cDOWN@8B;aPLD
aPARTIAL LINE BACKWARD@8C;cUP@8C;aPLUaREVERSE LINE FEED@8D;bINDEX@8D;aRIaSINGLE SHIFT TWO
@8E;aSINGLE-SHIFT-2@8E;aSS2aSINGLE SHIFT THREE@8F;aSINGLE-SHIFT-3@8F;aSS3aDEVICE CONTROL STRING
@90;aDCSaPRIVATE USE ONE@91;bUSE-1@91;aPU1aPRIVATE USE TWO@92;bUSE-2@92;aPU2aSET TRANSMIT STATE
@93;aSTSaCANCEL CHARACTER@94;aCCHaMESSAGE WAITING@95;aMWaSTART OF GUARDED AREA@96;cPROTECTED AREA
@96;aSPAaEND OF GUARDED AREA@97;cPROTECTED AREA@97;aEPAaSTART OF STRING@98;aSOS
aSINGLE GRAPHIC CHARACTER INTRODUCER@99;aSGCaSINGLE CHARACTER INTRODUCER@9A;aSCI
aCONTROL SEQUENCE INTRODUCER@9B;aCSIaSTRING TERMINATOR@9C;aSTaOPERATING SYSTEM COMMAND@9D;aOSC
aPRIVACY MESSAGE@9E;aPMaAPPLICATION PROGRAM COMMAND@9F;aAPCaNBSP@AD;aSHY
@1A2;aLATIN CAPITAL LETTER GHAbSMALL LETTER GHA@34F;aCGJ@61C;aALM
@709;aSYRIAC SUBLINEAR COLON SKEWED LEFT@CDE;aKANNADA LETTER LLLA@E9D;aLAO LETTER FO FON@E9F;dFAY
@EA3;cRO@EA5;cLO@FD0;aTIBETAN MARK BKA- SHOG GI MGO RGYAN@11EC;aHANGUL JONGSEONG YESIEUNG-KIYEOK
cYESIEUNG-SSANGKIYEOKcSSANGYESIEUNGcYESIEUNG-KHIEUKH@180B;aFVS1aFVS2aFVS3aMVSaFVS4@200B;aZWSPaZWNJ
aZWJaLRMaRLM@202A;aLREaRLEaPDFaLROaRLOaNNBSP@205F;aMMSPaWJ@2066;aLRIaRLIaFSIaPDI
@2118;aWEIERSTRASS ELLIPTIC FUNCTION@2448;aMICR ON US SYMBOLbDASH SYMBOL
@2B7A;aLEFTWARDS TRIANGLE-HEADED ARROW WITH DOUBLE VERTICAL STROKE
@2B7C;aRIGHTWARDS TRIANGLE-HEADED ARROW WITH DOUBLE VERTICAL STROKE
@A015;aYI SYLLABLE ITERATION MARK@AA6E;aMYANMAR LETTER KHAMTI LLA@FE00;aVS1aVS2aVS3aVS4aVS5aVS6
aVS7aVS8aVS9aVS10aVS11aVS12aVS13aVS14aVS15aVS16
@FE18;aPRESENTATION FORM FOR VERTICAL RIGHT WHITE LENTICULAR BRACKET@FEFF;aBYTE ORDER MARK
@FEFF;aBOM@FEFF;aZWNBSP@122D4;aCUNEIFORM SIGN NU11 TENUdOVER NU11 BUR OVER BUR
@16E56;aMEDEFAIDRIN CAPITAL LETTER HdNG@16E76;bSMALL LETTER HdNG@1B001;aHENTAIGANA LETTER E-1
@1D0C5;aBYZANTINE MUSICAL SYMBOL FTHORA SKLIRON CHROMA VASIS@E0100;aVS17aVS18aVS19aVS20aVS21aVS22
aVS23aVS24aVS25aVS26aVS27aVS28aVS29aVS30aVS31aVS32aVS33aVS34aVS35aVS36aVS37aVS38aVS39aVS40aVS41
aVS42aVS43aVS44aVS45aVS46aVS47aVS48aVS49aVS50aVS51aVS52aVS53aVS54aVS55aVS56aVS57aVS58aVS59aVS60
aVS61aVS62aVS63aVS64aVS65aVS66aVS67aVS68aVS69aVS70aVS71aVS72aVS73aVS74aVS75aVS76aVS77aVS78aVS79
aVS80aVS81aVS82aVS83aVS84aVS85aVS86aVS87aVS88aVS89aVS90aVS91aVS92aVS93aVS94aVS95aVS96aVS97aVS98
aVS99aVS100aVS101aVS102aVS103aVS104aVS105aVS106aVS107aVS108aVS109aVS110aVS111aVS112aVS113aVS114
aVS115aVS116aVS117aVS118aVS119aVS120aVS121aVS122aVS123aVS124aVS125aVS126aVS127aVS128aVS129aVS130
aVS131aVS132aVS133aVS134aVS135aVS136aVS137aVS138aVS139aVS140aVS141aVS142aVS143aVS144aVS145aVS146
aVS147aVS148aVS149aVS150aVS151aVS152aVS153aVS154aVS155aVS156aVS157aVS158aVS159aVS160aVS161aVS162
aVS163aVS164aVS165aVS166aVS167aVS168aVS169aVS170aVS171aVS172aVS173aVS174aVS175aVS176aVS177aVS178
aVS179aVS180aVS181aVS182aVS183aVS184aVS185aVS186aVS187aVS188aVS189aVS190aVS191aVS192aVS193aVS194
aVS195aVS196aVS197aVS198aVS199aVS200aVS201aVS202aVS203aVS204aVS205aVS206aVS207aVS208aVS209aVS210
aVS211aVS212aVS213aVS214aVS215aVS216aVS217aVS218aVS219aVS220aVS221aVS222aVS223aVS224aVS225aVS226
aVS227aVS228aVS229aVS230aVS231aVS232aVS233aVS234aVS235aVS236aVS237aVS238aVS239aVS240aVS241aVS242
aVS243aVS244aVS245aVS246aVS247aVS248aVS249aVS250aVS251aVS252aVS253aVS254aVS255aVS256"

/-- The tables of names. -/
def nameTables : List String :=
  [Names.alphabets, Names.symbols, Names.syllabaries, Names.ancient, Names.notations,
    Names.pictures, Names.further]

/-- A table that is being looked through. -/
structure NameScan where
  /-- The code point of the next entry. -/
  code : Nat
  /-- Whether a code point is being read. -/
  isNumber : Bool
  /-- The words of the entry before, as far as they are shared. -/
  shared : List (List Char)
  /-- What has been read of the entry, last character first. -/
  text : List Char
  found : Option Nat

/-- The words of the entry that is being read. -/
def NameScan.words (s : NameScan) : List (List Char) :=
  s.shared ++ splitList (· == ' ') s.text.reverse

/-- Ends an entry. -/
def NameScan.close (target : List (List Char)) (s : NameScan) : NameScan :=
  if s.text.isEmpty then s
  else
    let words := s.words
    { s with
      code := s.code + 1
      shared := words
      text := []
      found := if s.found.isNone && words == target then some s.code else s.found }

/-- Reads one character of a table. -/
def NameScan.step (target : List (List Char)) (s : NameScan) (c : Char) : NameScan :=
  if s.found.isSome || c == '\n' then s
  else if c == '@' then { s.close target with isNumber := true, code := 0 }
  else if c == ';' then { s with isNumber := false }
  else if s.isNumber then { s with code := s.code * 16 + (hexDigit? c).getD 0 }
  else if 'a' ≤ c && c ≤ 'z' then
    let s := s.close target
    { s with shared := s.shared.take (c.toNat - 'a'.toNat) }
  else { s with text := c :: s.text }

/-- The code point that a table gives for the words of a name. -/
def codeInTable? (target : List (List Char)) (table : String) : Option Nat :=
  let start : NameScan := ⟨0, false, [], [], none⟩
  ((table.toList.foldl (NameScan.step target) start).close target).found

/-! ### Names that are made -/

/-- The characters of a list with small letters of ASCII made large. -/
def asciiCapitals (cs : List Char) : List Char := cs.map Char.toUpper

/-- What is left of a list behind characters that it starts with. -/
def behind? : List Char → List Char → Option (List Char)
  | [], cs => some cs
  | _ :: _, [] => none
  | p :: ps, c :: cs => if p == c then behind? ps cs else none

/-- Ideographs that many languages share. -/
def unifiedIdeographs : CodePoints := CodePoints.ofTable
  "3400-4dbf 4e00-9fff 20000-2a6df 2a700-2b738 2b740-2b81d 2b820-2cea1 2ceb0-2ebe0 30000-3134a"

/-- Names that end in the code point, with the characters that have them. -/
def codedNames : List (String × CodePoints) :=
  [("CJK COMPATIBILITY IDEOGRAPH-", CodePoints.ofTable "f900-fa6d fa70-fad9 2f800-2fa1d"),
   ("KHITAN SMALL SCRIPT CHARACTER-", CodePoints.ofTable "18b00-18cd5"),
   ("NUSHU CHARACTER-", CodePoints.ofTable "1b170-1b2fb")]

/-- The code point in hexadecimal digits, at least four of them and in capitals. -/
def codeDigits (n : Nat) : List Char :=
  let digits := asciiCapitals (Nat.toDigits 16 n)
  List.replicate (4 - digits.length) '0' ++ digits

/-- The character of a name that starts with `start` and ends in the code point. -/
def codedName? (start : String) (members : CodePoints) (name : List Char) : Option Nat :=
  match behind? start.toList name with
  | some digits =>
    let n := hexNumber digits
    if members.contains n && codeDigits n == digits then some n else none
  | none => none

/-- Whether a character is a digit or one of the capitals of hexadecimal numbers. -/
def isCapitalHex (c : Char) : Bool := ('0' ≤ c && c ≤ '9') || ('A' ≤ c && c ≤ 'F')

/-- The shared ideograph of a code point that is written in four or five digits. -/
def ideograph? (digits : List Char) : Option Nat :=
  let n := hexNumber digits
  if (digits.length == 4 || digits.length == 5) && digits.all isCapitalHex &&
      unifiedIdeographs.contains n then some n
  else none

/-- The sounds that syllables start with. -/
def leadingSounds : List String :=
  ["G", "GG", "N", "D", "DD", "R", "M", "B", "BB", "S", "SS", "", "J", "JJ", "C", "K", "T", "P",
    "H"]

/-- The sounds in the middle of syllables. -/
def vowelSounds : List String :=
  ["A", "AE", "YA", "YAE", "EO", "E", "YEO", "YE", "O", "WA", "WAE", "OE", "YO", "U", "WEO", "WE",
    "WI", "YU", "EU", "YI", "I"]

/-- The sounds that syllables end with. -/
def trailingSounds : List String :=
  ["", "G", "GG", "GS", "N", "NJ", "NH", "D", "L", "LG", "LM", "LB", "LS", "LT", "LP", "LH", "M",
    "B", "BS", "S", "SS", "NG", "J", "C", "K", "T", "P", "H"]

/-- The longest of some sounds that a text starts with, by its place among them, and the rest of
    the text. -/
def longestSound? (sounds : List String) (cs : List Char) : Option (Nat × List Char) :=
  sounds.zipIdx.foldl (fun best (sound, i) =>
    match behind? sound.toList cs with
    | some rest =>
      match best with
      | some (_, left) => if rest.length < left.length then some (i, rest) else best
      | none => some (i, rest)
    | none => best) none

/-- The syllable of some sounds. -/
def syllable? (cs : List Char) : Option Nat := do
  let (l, cs) ← longestSound? leadingSounds cs
  let (v, cs) ← longestSound? vowelSounds cs
  let (t, cs) ← longestSound? trailingSounds cs
  if cs.isEmpty then
    some (0xAC00 + (l * vowelSounds.length + v) * trailingSounds.length + t)
  else none

/-! ### All names -/

/-- The code point of the character of a name. Small letters count as capitals, but not in the names
    of syllables and shared ideographs. -/
def codeOfName? (name : String) : Option Nat :=
  let cs := name.toList
  match behind? "HANGUL SYLLABLE ".toList cs, behind? "CJK UNIFIED IDEOGRAPH-".toList cs with
  | some sounds, _ => syllable? sounds
  | none, some digits => ideograph? digits
  | none, none =>
    let capitals := asciiCapitals cs
    match codedNames.findSome? (fun (start, members) => codedName? start members capitals) with
    | some n => some n
    | none => nameTables.findSome? (codeInTable? (splitList (· == ' ') capitals))

end PackageAtlas.Text
