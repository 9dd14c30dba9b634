import RouteTemplate.Unicode.Listed
import RouteTemplate.Unicode.Property

/-!
Properties that the general categories and other properties determine.
-/

namespace RouteTemplate.Unicode

open Category (charsIn)

def math : CharSet := (charsIn (· == .sm)).union otherMath

/-- The characters that are to be ignored where they cannot be shown: formats that are not signs of
their own, selectors and those listed. -/
def defaultIgnorable : CharSet :=
  .difference (.unions [otherDefaultIgnorable, charsIn (· == .cf), variationSelector])
    (prependedMark.union ⟨[⟨0xFFF9, 0xFFFB⟩, ⟨0x13430, 0x1343F⟩]⟩)

def graphemeBase : CharSet :=
  .difference (charsIn fun g => !(g.isOther || g == .zl || g == .zp)) graphemeExtend

/-! ### Names -/

def idStart : CharSet :=
  .difference (.union (charsIn fun g => g.isLetter || g == .nl) otherIdStart)
    (patternSyntax.union patternWhiteSpace)

def idContinue : CharSet :=
  .difference
    (.unions [idStart, charsIn fun g => g matches .mn | .mc | .nd | .pc, otherIdContinue])
    (patternSyntax.union patternWhiteSpace)

/-- The characters that begin a name and still do once compatibility forms are taken apart. -/
def xidStart : CharSet := idStart.difference
  ⟨[⟨0x37A, 0x37A⟩, ⟨0xE33, 0xE33⟩, ⟨0xEB3, 0xEB3⟩, ⟨0x309B, 0x309C⟩, ⟨0xFC5E, 0xFC63⟩,
    ⟨0xFDFA, 0xFDFB⟩, ⟨0xFE70, 0xFE70⟩, ⟨0xFE72, 0xFE72⟩, ⟨0xFE74, 0xFE74⟩, ⟨0xFE76, 0xFE76⟩,
    ⟨0xFE78, 0xFE78⟩, ⟨0xFE7A, 0xFE7A⟩, ⟨0xFE7C, 0xFE7C⟩, ⟨0xFE7E, 0xFE7E⟩, ⟨0xFF9E, 0xFF9F⟩]⟩

def xidContinue : CharSet := idContinue.difference
  ⟨[⟨0x37A, 0x37A⟩, ⟨0x309B, 0x309C⟩, ⟨0xFC5E, 0xFC63⟩, ⟨0xFDFA, 0xFDFB⟩, ⟨0xFE70, 0xFE70⟩,
    ⟨0xFE72, 0xFE72⟩, ⟨0xFE74, 0xFE74⟩, ⟨0xFE76, 0xFE76⟩, ⟨0xFE78, 0xFE78⟩, ⟨0xFE7A, 0xFE7A⟩,
    ⟨0xFE7C, 0xFE7C⟩, ⟨0xFE7E, 0xFE7E⟩]⟩

end RouteTemplate.Unicode
