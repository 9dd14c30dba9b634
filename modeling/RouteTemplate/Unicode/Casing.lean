import RouteTemplate.Unicode.CaseFolding
import RouteTemplate.Unicode.Segmentation

/-!
Properties on the case of characters, and on what becomes of them when the case is changed. Such a
change may give several characters, which folding one by one does not; the characters with such a
change are listed.
-/

namespace RouteTemplate.Unicode

open Category (charsIn)

def cased : CharSet := .unions [lowercase, uppercase, charsIn (· == .lt)]

/-- The characters that may stand within a word without a bearing on its case. -/
def caseIgnorable : CharSet :=
  .unions
    [WordBreak.midLetter, WordBreak.midNumberOrLetter, WordBreak.singleQuote,
     charsIn fun g => g matches .mn | .me | .cf | .lm | .sk]

/-- The characters that folding changes. -/
def folded : CharSet := .ofRanges (CaseFolding.pairs.map fun p => ⟨p.1, p.1⟩)

/-- The characters that folding changes others to. -/
def foldTargets : CharSet := .ofRanges (CaseFolding.pairs.map fun p => ⟨p.2, p.2⟩)

/-- The characters that lower, upper or title case changes. -/
def changesWhenCasemapped : CharSet :=
  .unions
    [folded, foldTargets,
     ⟨[⟨0x130, 0x131⟩, ⟨0x149, 0x149⟩, ⟨0x1F0, 0x1F0⟩, ⟨0x587, 0x587⟩, ⟨0x1E96, 0x1E9A⟩,
       ⟨0x1F50, 0x1F50⟩, ⟨0x1F52, 0x1F52⟩, ⟨0x1F54, 0x1F54⟩, ⟨0x1F56, 0x1F56⟩, ⟨0x1FB2, 0x1FB2⟩,
       ⟨0x1FB4, 0x1FB4⟩, ⟨0x1FB6, 0x1FB7⟩, ⟨0x1FC2, 0x1FC2⟩, ⟨0x1FC4, 0x1FC4⟩, ⟨0x1FC6, 0x1FC7⟩,
       ⟨0x1FD2, 0x1FD2⟩, ⟨0x1FD6, 0x1FD7⟩, ⟨0x1FE2, 0x1FE2⟩, ⟨0x1FE4, 0x1FE4⟩, ⟨0x1FE6, 0x1FE7⟩,
       ⟨0x1FF2, 0x1FF2⟩, ⟨0x1FF4, 0x1FF4⟩, ⟨0x1FF6, 0x1FF7⟩, ⟨0xFB00, 0xFB04⟩, ⟨0xFB13, 0xFB17⟩]⟩]

def changesWhenLowercased : CharSet :=
  changesWhenCasemapped.inter (uppercase.union (charsIn (· == .lt)))

def changesWhenUppercased : CharSet := changesWhenCasemapped.difference uppercase

/-- The capital digraphs have a title case of their own, and the small Georgian letters are theirs
themselves. -/
def changesWhenTitlecased : CharSet :=
  .union ⟨[⟨0x1C4, 0x1C4⟩, ⟨0x1C7, 0x1C7⟩, ⟨0x1CA, 0x1CA⟩, ⟨0x1F1, 0x1F1⟩]⟩ <|
    changesWhenUppercased.difference <|
      (charsIn (· == .lt)).union ⟨[⟨0x10D0, 0x10FA⟩, ⟨0x10FD, 0x10FF⟩]⟩

/-- The characters that folding changes, be it to several characters, unless taking them apart does
that already. -/
def changesWhenCasefolded : CharSet :=
  .union
    ⟨[⟨0xDF, 0xDF⟩, ⟨0x130, 0x130⟩, ⟨0x149, 0x149⟩, ⟨0x587, 0x587⟩, ⟨0x1E9A, 0x1E9A⟩,
      ⟨0x1F80, 0x1F87⟩, ⟨0x1F90, 0x1F97⟩, ⟨0x1FA0, 0x1FA7⟩, ⟨0x1FB2, 0x1FB4⟩, ⟨0x1FB7, 0x1FB7⟩,
      ⟨0x1FC2, 0x1FC4⟩, ⟨0x1FC7, 0x1FC7⟩, ⟨0x1FF2, 0x1FF4⟩, ⟨0x1FF7, 0x1FF7⟩, ⟨0xFB00, 0xFB04⟩,
      ⟨0xFB06, 0xFB06⟩, ⟨0xFB13, 0xFB17⟩]⟩
    (folded.difference ⟨[⟨0x1FBE, 0x1FBE⟩, ⟨0x1FD3, 0x1FD3⟩, ⟨0x1FE3, 0x1FE3⟩]⟩)

end RouteTemplate.Unicode
