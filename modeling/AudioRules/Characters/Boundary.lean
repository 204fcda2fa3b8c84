import AudioRules.Characters.Script
import AudioRules.Characters.Property

namespace AudioRules

namespace CharSet

def spacingMarks : CharSet := Category.mc.set

def formats : CharSet := Category.cf.set

def lineFeed : CharSet := .single '\n'

def carriageReturn : CharSet := .single '\r'

end CharSet

open CharSet

-- Parts in what a reader takes for one character. They follow their definition from other
-- properties (Unicode 16).
namespace ClusterPart

def extend : CharSet := .union graphemeExtend emojiModifier

def prepend : CharSet :=
  .union prependedConcatenationMark
    (ofRows ["D4E 111C2-111C3 113D1 1193F 11941 11A3A 11A84-11A89 11D46 11F02"])

def control : CharSet :=
  .diff
    (.union (ofCategories [.zl, .zp, .cc, .cf]) (.inter Category.cn.set defaultIgnorableCodePoint))
    (unionAll [ofRows ["A D 200C-200D"], prependedConcatenationMark, graphemeExtend])

-- Marks that take room of their own, but for those that are written apart.
def spacingMark : CharSet :=
  .diff (.union spacingMarks (ofRows ["E33 EB3"]))
    (.union extend
      (ofRows ["102B-102C 1038 1062-1064 1067-106D 1083 1087-108C 108F 109A-109C 1A61 1A63-1A64",
               "AA7B AA7D 11720-11721"]))

def leadingJamo : CharSet := ofRows ["1100-115F A960-A97C"]

def vowelJamo : CharSet := ofRows ["1160-11A7 D7B0-D7C6 16D63 16D67-16D6A"]

def trailingJamo : CharSet := ofRows ["11A8-11FF D7CB-D7FB"]

-- Hangul syllables that end in their vowel; every 28th is one.
def openSyllable : CharSet := ofRows ["AC00-D788/28"]

def closedSyllable : CharSet := .diff (ofRows ["AC00-D7A3"]) openSyllable

-- The part of that name in loose form.
def named? : String → Option CharSet
  | "cn" | "control" => some control
  | "cr" => some carriageReturn
  | "ex" | "extend" => some extend
  | "l" => some leadingJamo
  | "lf" => some lineFeed
  | "lv" => some openSyllable
  | "lvt" => some closedSyllable
  | "pp" | "prepend" => some prepend
  | "ri" | "regionalindicator" => some regionalIndicator
  | "sm" | "spacingmark" => some spacingMark
  | "t" => some trailingJamo
  | "v" => some vowelJamo
  | "zwj" => some (ofRows ["200D"])
  | _ => none

end ClusterPart

-- Digits of numbers, with the signs that stand within them or above them.
def CharSet.numeric : CharSet :=
  .union Category.nd.set (ofRows ["600-605 66B 6DD 890-891 8E2 110BD 110CD"])

-- Parts in words.
namespace WordPart

def extend : CharSet :=
  unionAll [graphemeExtend, spacingMarks, emojiModifier]

def format : CharSet :=
  .diff formats (unionAll [ofRows ["200B-200D"], graphemeExtend, prependedConcatenationMark])

def katakana : CharSet :=
  .union Script.katakana.set (ofRows ["3031-3035 309B-309C 30A0 30FC FF70"])

def hebrewLetter : CharSet := .inter Script.hebrew.set Category.lo.set

-- The letters of scripts that set no space between words.
def unspaced : CharSet :=
  let scripts : List Script :=
    [.ahom, .khmer, .lao, .myanmar, .newTaiLue, .taiLe, .taiTham, .taiViet, .thai, .hiragana]
  unionAll (scripts.map Script.set)

def letter : CharSet :=
  .diff
    (.union alphabetic
      (ofRows ["B8 2C2-2C5 2D2-2D7 2DE-2DF 2E5-2EB 2ED 2EF-2FF 55A-55C 55E 58A 5F3 70F A708-A716",
               "A720-A721 A789-A78A AB5B"]))
    (unionAll [ideographic, katakana, unspaced, extend, hebrewLetter])

def named? : String → Option CharSet
  | "cr" => some carriageReturn
  | "dq" | "doublequote" => some (ofRows ["22"])
  | "ex" | "extendnumlet" => some (.union Category.pc.set (ofRows ["202F"]))
  | "extend" => some extend
  | "fo" | "format" => some format
  | "hl" | "hebrewletter" => some hebrewLetter
  | "ka" | "katakana" => some katakana
  | "le" | "aletter" => some letter
  | "lf" => some lineFeed
  | "mb" | "midnumlet" => some (ofRows ["2E 2018-2019 2024 FE52 FF07 FF0E"])
  | "ml" | "midletter" => some (ofRows ["3A B7 387 55F 5F4 2027 FE13 FE55 FF1A"])
  | "mn" | "midnum" =>
    some (ofRows ["2C 3B 37E 589 60C-60D 66C 7F8 2044 FE10 FE14 FE50 FE54 FF0C FF1B"])
  | "nl" | "newline" => some (ofRows ["B-C 85 2028-2029"])
  | "nu" | "numeric" => some numeric
  | "ri" | "regionalindicator" => some regionalIndicator
  | "sq" | "singlequote" => some (ofRows ["27"])
  | "wsegspace" => some (ofRows ["20 1680 2000-2006 2008-200A 205F 3000"])
  | "zwj" => some (ofRows ["200D"])
  | _ => none

end WordPart

-- Parts in sentences.
namespace SentencePart

def extend : CharSet := unionAll [graphemeExtend, spacingMarks, ofRows ["200D"]]

def numeric : CharSet := .union CharSet.numeric (ofRows ["66C"])

def format : CharSet :=
  .diff formats (unionAll [ofRows ["200C-200D"], graphemeExtend, CharSet.numeric])

def separator : CharSet := ofRows ["85 2028-2029"]

def space : CharSet := .diff whiteSpace (.union separator (ofRows ["A D"]))

-- Lowercase, but for the Georgian letters that begin sentences too.
def lower : CharSet := .diff lowercase (.union graphemeExtend (ofRows ["10D0-10FA 10FD-10FF"]))

def upper : CharSet := .diff (.union Category.lt.set uppercase) (ofRows ["1C90-1CBA 1CBD-1CBF"])

def otherLetter : CharSet :=
  .diff (.union alphabetic (ofRows ["5F3"])) (unionAll [lower, upper, extend])

-- Full stops, which may also stand inside a sentence.
def fullStop : CharSet := ofRows ["2E 2024 FE52 FF0E"]

def terminal : CharSet := .diff sentenceTerminal fullStop

def close : CharSet :=
  .union (ofCategories [.ps, .pe, .pi, .pf])
    (ofRows ["22 27 275B-2760 2E00-2E01 2E06-2E08 2E0B 1F676-1F678"])

def named? : String → Option CharSet
  | "at" | "aterm" => some fullStop
  | "cl" | "close" => some close
  | "cr" => some carriageReturn
  | "ex" | "extend" => some extend
  | "fo" | "format" => some format
  | "le" | "oletter" => some otherLetter
  | "lf" => some lineFeed
  | "lo" | "lower" => some lower
  | "nu" | "numeric" => some numeric
  | "sc" | "scontinue" =>
    some (ofRows ["2C-2D 3A-3B 37E 55D 60C-60D 7F8 1802 1808 2013-2014 3001 FE10-FE11 FE13-FE14",
                  "FE31-FE32 FE50-FE51 FE54-FE55 FE58 FE63 FF0C-FF0D FF1A-FF1B FF64"])
  | "se" | "sep" => some separator
  | "sp" => some space
  | "st" | "sterm" => some terminal
  | "up" | "upper" => some upper
  | _ => none

end SentencePart

end AudioRules
