import RouteTemplate.Unicode.Derived
import RouteTemplate.Unicode.Script

/-!
The classes of characters that tell where a text may be parted: between what a reader takes for one
character, between words and between sentences. Each class is what the general categories and other
properties make of it, and a short list of characters that it adds or leaves out. Characters of no
class are in none of the tables.
-/

namespace RouteTemplate.Unicode

open Category (charsIn)

def carriageReturn : CharSet := ⟨[⟨0xD, 0xD⟩]⟩

def lineFeed : CharSet := ⟨[⟨0xA, 0xA⟩]⟩

def zeroWidthJoiner : CharSet := ⟨[⟨0x200D, 0x200D⟩]⟩

/-- The tags, which repeat the ASCII characters unseen. -/
def tags : CharSet := ⟨[⟨0xE0020, 0xE007F⟩]⟩

/-- The characters that extend the one before them or that a vowel sign or the like is. -/
def extendOrSpacing : CharSet := graphemeExtend.union (charsIn (· == .mc))

/-! ### Characters as a reader sees them -/

namespace GraphemeBreak

def leading : CharSet := ⟨[⟨0x1100, 0x115F⟩, ⟨0xA960, 0xA97C⟩]⟩

def vowel : CharSet :=
  ⟨[⟨0x1160, 0x11A7⟩, ⟨0xD7B0, 0xD7C6⟩, ⟨0x16D63, 0x16D63⟩, ⟨0x16D67, 0x16D6A⟩]⟩

def trailing : CharSet := ⟨[⟨0x11A8, 0x11FF⟩, ⟨0xD7CB, 0xD7FB⟩]⟩

/-- The syllables of a leading letter and a vowel: the first of every 28. -/
def openSyllable : CharSet :=
  ⟨(List.range 399).map fun i => ⟨0xAC00 + 28 * i, 0xAC00 + 28 * i⟩⟩

/-- The syllables that end in a trailing letter: the other 27 of every 28. -/
def closedSyllable : CharSet :=
  ⟨(List.range 399).map fun i => ⟨0xAC01 + 28 * i, 0xAC1B + 28 * i⟩⟩

def prepended : CharSet :=
  prependedMark.union
    ⟨[⟨0xD4E, 0xD4E⟩, ⟨0x111C2, 0x111C3⟩, ⟨0x113D1, 0x113D1⟩, ⟨0x1193F, 0x1193F⟩,
      ⟨0x11941, 0x11941⟩, ⟨0x11A3A, 0x11A3A⟩, ⟨0x11A84, 0x11A89⟩, ⟨0x11D46, 0x11D46⟩,
      ⟨0x11F02, 0x11F02⟩]⟩

def extend : CharSet := graphemeExtend.union emojiModifier

def spacing : CharSet :=
  .union ⟨[⟨0xE33, 0xE33⟩, ⟨0xEB3, 0xEB3⟩]⟩ <| (charsIn (· == .mc)).difference <| .union
    graphemeExtend
    ⟨[⟨0x102B, 0x102C⟩, ⟨0x1038, 0x1038⟩, ⟨0x1062, 0x1064⟩, ⟨0x1067, 0x106D⟩, ⟨0x1083, 0x1083⟩,
      ⟨0x1087, 0x108C⟩, ⟨0x108F, 0x108F⟩, ⟨0x109A, 0x109C⟩, ⟨0x1A61, 0x1A61⟩, ⟨0x1A63, 0x1A64⟩,
      ⟨0xAA7B, 0xAA7B⟩, ⟨0xAA7D, 0xAA7D⟩, ⟨0x11720, 0x11721⟩]⟩

/-- Controls, formats and what is to be ignored without being assigned. -/
def control : CharSet :=
  .difference
    (.union (charsIn fun g => g matches .cc | .cf | .zl | .zp)
      (defaultIgnorable.inter (charsIn (· == .cn))))
    (.unions [carriageReturn, lineFeed, joinControl, tags, prepended])

def classes : List (List String × CharSet) :=
  [(["control", "cn"], control), (["cr"], carriageReturn), (["extend", "ex"], extend),
   (["l"], leading), (["lf"], lineFeed), (["lv"], openSyllable), (["lvt"], closedSyllable),
   (["prepend", "pp"], prepended), (["regionalindicator", "ri"], regionalIndicator),
   (["spacingmark", "sm"], spacing), (["t"], trailing), (["v"], vowel),
   (["zwj"], zeroWidthJoiner)]

end GraphemeBreak

/-! ### Words -/

namespace WordBreak

def doubleQuote : CharSet := ⟨[⟨0x22, 0x22⟩]⟩

def singleQuote : CharSet := ⟨[⟨0x27, 0x27⟩]⟩

def newline : CharSet := ⟨[⟨0xB, 0xC⟩, ⟨0x85, 0x85⟩, ⟨0x2028, 0x2029⟩]⟩

def extend : CharSet := extendOrSpacing.union emojiModifier

def format : CharSet :=
  (charsIn (· == .cf)).difference (.unions [prependedMark, ⟨[⟨0x200B, 0x200D⟩]⟩, tags])

def katakana : CharSet :=
  (Script.ofCode "kana").union
    ⟨[⟨0x3031, 0x3035⟩, ⟨0x309B, 0x309C⟩, ⟨0x30A0, 0x30A0⟩, ⟨0x30FC, 0x30FC⟩, ⟨0xFF70, 0xFF70⟩]⟩

def hebrewLetter : CharSet := (Script.ofCode "hebr").inter (charsIn (· == .lo))

/-- The scripts that write words without blanks between them. -/
def unspacedScripts : List String :=
  ["ahom", "khmr", "lana", "laoo", "mymr", "tale", "talu", "tavt", "thai"]

/-- The letters of words, but for those of scripts whose words cannot be told apart by letters. -/
def letter : CharSet :=
  .union
    ⟨[⟨0x2C2, 0x2C5⟩, ⟨0x2D2, 0x2D7⟩, ⟨0x2DE, 0x2DF⟩, ⟨0x2E5, 0x2EB⟩, ⟨0x2ED, 0x2ED⟩,
      ⟨0x2EF, 0x2FF⟩, ⟨0x55A, 0x55C⟩, ⟨0x55E, 0x55E⟩, ⟨0x58A, 0x58A⟩, ⟨0x5F3, 0x5F3⟩,
      ⟨0x70F, 0x70F⟩, ⟨0xA708, 0xA716⟩, ⟨0xA720, 0xA721⟩, ⟨0xA789, 0xA78A⟩, ⟨0xAB5B, 0xAB5B⟩]⟩ <|
    .difference (alphabetic.union (charsIn (· == .lm))) <| .unions <|
      [ideographic, katakana, hebrewLetter, extend, Script.ofCode "hira"] ++
        unspacedScripts.map Script.ofCode

def midLetter : CharSet :=
  ⟨[⟨0x3A, 0x3A⟩, ⟨0xB7, 0xB7⟩, ⟨0x387, 0x387⟩, ⟨0x55F, 0x55F⟩, ⟨0x5F4, 0x5F4⟩, ⟨0x2027, 0x2027⟩,
    ⟨0xFE13, 0xFE13⟩, ⟨0xFE55, 0xFE55⟩, ⟨0xFF1A, 0xFF1A⟩]⟩

def midNumber : CharSet :=
  ⟨[⟨0x2C, 0x2C⟩, ⟨0x3B, 0x3B⟩, ⟨0x37E, 0x37E⟩, ⟨0x589, 0x589⟩, ⟨0x60C, 0x60D⟩, ⟨0x66C, 0x66C⟩,
    ⟨0x7F8, 0x7F8⟩, ⟨0x2044, 0x2044⟩, ⟨0xFE50, 0xFE50⟩, ⟨0xFE54, 0xFE54⟩, ⟨0xFF0C, 0xFF0C⟩,
    ⟨0xFF1B, 0xFF1B⟩]⟩

def midNumberOrLetter : CharSet :=
  ⟨[⟨0x2E, 0x2E⟩, ⟨0x2018, 0x2019⟩, ⟨0x2024, 0x2024⟩, ⟨0xFE52, 0xFE52⟩, ⟨0xFF07, 0xFF07⟩,
    ⟨0xFF0E, 0xFF0E⟩]⟩

/-- Digits, and the signs that go before digits but for the abbreviation mark. -/
def numeric : CharSet :=
  .unions
    [charsIn (· == .nd), prependedMark.difference ⟨[⟨0x70F, 0x70F⟩]⟩,
     ⟨[⟨0x66B, 0x66B⟩, ⟨0x19DA, 0x19DA⟩]⟩]

def connector : CharSet := (charsIn (· == .pc)).union ⟨[⟨0x202F, 0x202F⟩]⟩

def space : CharSet :=
  (charsIn (· == .zs)).difference ⟨[⟨0xA0, 0xA0⟩, ⟨0x2007, 0x2007⟩, ⟨0x202F, 0x202F⟩]⟩

def classes : List (List String × CharSet) :=
  [(["aletter", "le"], letter), (["cr"], carriageReturn), (["doublequote", "dq"], doubleQuote),
   (["extend"], extend), (["extendnumlet", "ex"], connector), (["format", "fo"], format),
   (["hebrewletter", "hl"], hebrewLetter), (["katakana", "ka"], katakana), (["lf"], lineFeed),
   (["midletter", "ml"], midLetter), (["midnum", "mn"], midNumber),
   (["midnumlet", "mb"], midNumberOrLetter), (["newline", "nl"], newline),
   (["numeric", "nu"], numeric), (["regionalindicator", "ri"], regionalIndicator),
   (["singlequote", "sq"], singleQuote), (["wsegspace"], space), (["zwj"], zeroWidthJoiner)]

end WordBreak

/-! ### Sentences -/

namespace SentenceBreak

def separator : CharSet := ⟨[⟨0x85, 0x85⟩, ⟨0x2028, 0x2029⟩]⟩

def extend : CharSet := extendOrSpacing.union zeroWidthJoiner

def format : CharSet :=
  (charsIn (· == .cf)).difference
    (.unions [prependedMark.difference ⟨[⟨0x70F, 0x70F⟩]⟩, joinControl, tags])

def space : CharSet := whiteSpace.difference (.unions [carriageReturn, lineFeed, separator])

/-- The Georgian capitals do not begin sentences, so that they and their small letters count as
letters without case. -/
def lower : CharSet :=
  lowercase.difference (graphemeExtend.union ⟨[⟨0x10D0, 0x10FA⟩, ⟨0x10FD, 0x10FF⟩]⟩)

def upper : CharSet :=
  (uppercase.union (charsIn (· == .lt))).difference ⟨[⟨0x1C90, 0x1CBA⟩, ⟨0x1CBD, 0x1CBF⟩]⟩

def letter : CharSet :=
  (alphabetic.union ⟨[⟨0x5F3, 0x5F3⟩]⟩).difference (.unions [lower, upper, extend])

def numeric : CharSet := WordBreak.numeric.union ⟨[⟨0x66C, 0x66C⟩]⟩

/-- The full stops, after which a sentence may go on. -/
def fullStop : CharSet :=
  ⟨[⟨0x2E, 0x2E⟩, ⟨0x2024, 0x2024⟩, ⟨0xFE52, 0xFE52⟩, ⟨0xFF0E, 0xFF0E⟩]⟩

def terminal : CharSet := sentenceTerminal.difference fullStop

/-- The punctuation after which a sentence goes on. -/
def continuing : CharSet :=
  ⟨[⟨0x2C, 0x2D⟩, ⟨0x3A, 0x3B⟩, ⟨0x37E, 0x37E⟩, ⟨0x55D, 0x55D⟩, ⟨0x60C, 0x60D⟩, ⟨0x7F8, 0x7F8⟩,
    ⟨0x1802, 0x1802⟩, ⟨0x1808, 0x1808⟩, ⟨0x2013, 0x2014⟩, ⟨0x3001, 0x3001⟩, ⟨0xFE10, 0xFE11⟩,
    ⟨0xFE13, 0xFE14⟩, ⟨0xFE31, 0xFE32⟩, ⟨0xFE50, 0xFE51⟩, ⟨0xFE54, 0xFE55⟩, ⟨0xFE58, 0xFE58⟩,
    ⟨0xFE63, 0xFE63⟩, ⟨0xFF0C, 0xFF0D⟩, ⟨0xFF1A, 0xFF1B⟩, ⟨0xFF64, 0xFF64⟩]⟩

/-- Brackets and quotation marks. -/
def close : CharSet :=
  .union
    ⟨[⟨0x275B, 0x2760⟩, ⟨0x2E00, 0x2E01⟩, ⟨0x2E06, 0x2E08⟩, ⟨0x2E0B, 0x2E0B⟩, ⟨0x1F676, 0x1F678⟩]⟩ <|
    .difference (.union quotationMark (charsIn fun g => g matches .ps | .pe | .pi | .pf))
      ⟨[⟨0xFF02, 0xFF02⟩, ⟨0xFF07, 0xFF07⟩]⟩

def classes : List (List String × CharSet) :=
  [(["aterm", "at"], fullStop), (["close", "cl"], close), (["cr"], carriageReturn),
   (["extend", "ex"], extend), (["format", "fo"], format), (["lf"], lineFeed),
   (["lower", "lo"], lower), (["numeric", "nu"], numeric), (["oletter", "le"], letter),
   (["scontinue", "sc"], continuing), (["sep", "se"], separator), (["sp"], space),
   (["sterm", "st"], terminal), (["upper", "up"], upper)]

end SentenceBreak

end RouteTemplate.Unicode
