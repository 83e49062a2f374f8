import EventTally.Unicode.Property
import EventTally.Unicode.Script

/-! Classes of characters for finding where user characters, words and sentences end. Each class is
told by other properties and by what these have too few and too many. -/

namespace EventTally.Unicode

def propertyOf (name : String) : CharSet := (property? name).getD .empty

def listed (table : String) : CharSet := CharSet.ofTable table

def unionOf (sets : List CharSet) : CharSet := sets.foldl CharSet.union .empty

/-- Marks and what else belongs to the character before it. -/
def extending : CharSet := unionOf [propertyOf "graphemeextend", propertyOf "emojimodifier"]

def extendingOrSpacing : CharSet := extending.union (ofCategories ["Mc"])

def joiners : CharSet := listed "200c-200d"

def lineFeed : CharSet := listed "a"

def carriageReturn : CharSet := listed "d"

def zeroWidthJoiner : CharSet := listed "200d"

/-! ## User characters -/

def leadingJamo : CharSet := listed "1100-115f a960-a97c"

def vowelJamo : CharSet := listed "1160-11a7 d7b0-d7c6"

def trailingJamo : CharSet := listed "11a8-11ff d7cb-d7fb"

def firstSyllable : Nat := 0xAC00

def lastSyllable : Nat := 0xD7A3

/-- Syllables without a trailing consonant, one in each row of 28. -/
def openSyllables : CharSet :=
  ⟨(List.range ((lastSyllable - firstSyllable) / 28 + 1)).map fun i =>
    (firstSyllable + 28 * i, firstSyllable + 28 * i)⟩

def closedSyllables : CharSet := (CharSet.mk [(firstSyllable, lastSyllable)]).diff openSyllables

def prepended : CharSet :=
  listed "600-605 6dd 70f 890-891 8e2 d4e 110bd 110cd 111c2-111c3 113d1 1193f 11941 11a3a
11a84-11a89 11d46 11f02"

def spacing : CharSet :=
  ((ofCategories ["Mc"]).union (listed "e33 eb3")).diff (unionOf [extending,
    listed "102b-102c 1038 1062-1064 1067-106d 1083 1087-108c 108f 109a-109c 1a61 1a63-1a64 aa7b
aa7d 11720-11721"])

def control : CharSet :=
  (unionOf [ofCategories ["Cc", "Cf", "Zl", "Zp"],
    (propertyOf "defaultignorablecodepoint").inter (ofCategories ["Cn"])]).diff
    (unionOf [extending, joiners, prepended, lineFeed, carriageReturn])

def graphemeBreaks : List (List String × CharSet) := [
  (["cn", "control"], control),
  (["cr"], carriageReturn),
  (["ex", "extend"], extending),
  (["l"], leadingJamo),
  (["lf"], lineFeed),
  (["lv"], openSyllables),
  (["lvt"], closedSyllables),
  (["pp", "prepend"], prepended),
  (["ri", "regionalindicator"], propertyOf "regionalindicator"),
  (["sm", "spacingmark"], spacing),
  (["t"], trailingJamo),
  (["v"], vowelJamo),
  (["zwj"], zeroWidthJoiner)]

/-! ## Words -/

/-- Letters of scripts that are written without blanks between words. -/
def unspaced : CharSet :=
  listed "e01-e30 e32-e33 e40-e46 e81-e82 e84 e86-e8a e8c-ea3 ea5 ea7-eb0 eb2-eb3 ebd ec0-ec4 ec6
edc-edf 1000-102a 103f 1050-1055 105a-105d 1061 1065-1066 106e-1070 1075-1081 108e 1780-17b3 17d7
17dc 1950-196d 1970-1974 1980-19ab 19b0-19c9 1a20-1a54 1aa7 a9e0-a9e4 a9e6-a9ef a9fa-a9fe aa60-aa76
aa7a aa7e-aaaf aab1 aab5-aab6 aab9-aabd aac0 aac2 aadb-aadd 11700-1171a 11740-11746"

def scriptOf (name : String) : CharSet := (script? name).getD .empty

def hebrewLetters : CharSet := (scriptOf "hebrew").inter (ofCategories ["Lo"])

def katakanaOfWords : CharSet :=
  (scriptOf "katakana").union (listed "3031-3035 309b-309c 30a0 30fc ff70")

def wordLetters : CharSet :=
  ((propertyOf "alphabetic").union
    (listed "2c2-2c5 2d2-2d7 2de-2df 2e5-2eb 2ed 2ef-2ff 55a-55c 55e 58a 5f3 a708-a716 a720-a721
a789-a78a ab5b")).diff
  (unionOf [propertyOf "ideographic", scriptOf "hiragana", katakanaOfWords, unspaced, extendingOrSpacing,
    hebrewLetters])

def wordBreaks : List (List String × CharSet) := [
  (["le", "aletter"], wordLetters),
  (["cr"], carriageReturn),
  (["dq", "doublequote"], listed "22"),
  (["extend"], extendingOrSpacing.diff zeroWidthJoiner),
  (["ex", "extendnumlet"], (ofCategories ["Pc"]).union (listed "202f")),
  (["fo", "format"], (ofCategories ["Cf"]).diff (unionOf [extending, joiners, listed "200b"])),
  (["hl", "hebrewletter"], hebrewLetters),
  (["ka", "katakana"], katakanaOfWords),
  (["lf"], lineFeed),
  (["ml", "midletter"], listed "3a b7 387 55f 5f4 2027 fe13 fe55 ff1a"),
  (["mn", "midnum"], listed "2c 3b 37e 589 60c-60d 66c 7f8 2044 fe10 fe14 fe50 fe54 ff0c ff1b"),
  (["mb", "midnumlet"], listed "2e 2018-2019 2024 fe52 ff07 ff0e"),
  (["nl", "newline"], listed "b-c 85 2028-2029"),
  (["nu", "numeric"], digits.union (listed "66b")),
  (["ri", "regionalindicator"], propertyOf "regionalindicator"),
  (["sq", "singlequote"], listed "27"),
  (["wsegspace"], listed "20 1680 2000-2006 2008-200a 205f 3000"),
  (["zwj"], zeroWidthJoiner)]

/-! ## Sentences -/

def sentenceExtending : CharSet :=
  unionOf [propertyOf "graphemeextend", ofCategories ["Mc"], joiners]

def sentenceLower : CharSet :=
  (propertyOf "lowercase").diff
    (unionOf [propertyOf "graphemeextend", listed "10d0-10fa 10fd-10ff"])

def sentenceUpper : CharSet :=
  (unionOf [propertyOf "uppercase", ofCategories ["Lt"]]).diff (listed "1c90-1cba 1cbd-1cbf")

def sentenceEndDots : CharSet := listed "2e 2024 fe52 ff0e"

def sentenceBreaks : List (List String × CharSet) := [
  (["at", "aterm"], sentenceEndDots),
  (["cr"], carriageReturn),
  (["cl", "close"], (ofCategories ["Ps", "Pe", "Pi", "Pf"]).union
    (listed "22 27 275b-2760 2e00-2e01 2e06-2e08 2e0b 1f676-1f678")),
  (["ex", "extend"], sentenceExtending),
  (["fo", "format"], (ofCategories ["Cf"]).diff (unionOf [propertyOf "graphemeextend", joiners])),
  (["lf"], lineFeed),
  (["lo", "lower"], sentenceLower),
  (["nu", "numeric"], digits.union (listed "66b-66c")),
  (["le", "oletter"], ((propertyOf "alphabetic").union (listed "5f3")).diff
    (unionOf [sentenceLower, sentenceUpper, sentenceExtending])),
  (["sc", "scontinue"],
    listed "2c-2d 3a 55d 60c-60d 7f8 1802 1808 2013-2014 3001 fe10-fe11 fe13 fe31-fe32 fe50-fe51
fe55 fe58 fe63 ff0c-ff0d ff1a ff64"),
  (["st", "sterm"], (propertyOf "sentenceterminal").diff sentenceEndDots),
  (["se", "sep"], listed "85 2028-2029"),
  (["sp"], (propertyOf "whitespace").diff (listed "a d 85 2028-2029")),
  (["up", "upper"], sentenceUpper)]

/-! ## By name -/

def graphemeBreak? (name : String) : Option CharSet :=
  (graphemeBreaks.find? (·.1.contains name)).map (·.2)

def wordBreak? (name : String) : Option CharSet :=
  (wordBreaks.find? (·.1.contains name)).map (·.2)

def sentenceBreak? (name : String) : Option CharSet :=
  (sentenceBreaks.find? (·.1.contains name)).map (·.2)

end EventTally.Unicode
