import HydrationPlan.Pattern.Property.Category
import HydrationPlan.Pattern.Property.Listed

/-!
# Composed properties

The properties of characters that the Unicode standard composes of general categories and of listed
properties, with further characters and exceptions.
-/

namespace HydrationPlan.Pattern

open Text (Ranges)

/-- A set of characters with its names: the characters of some categories and lists and some more,
without those of other lists and without some. -/
structure Composed where
  names : List String
  categories : List Category := []
  listed : List Listed := []
  more : String := ""
  without : List Listed := []
  less : String := ""

namespace Composed

def ranges (p : Composed) : Ranges :=
  let lists := fun (listed : List Listed) (text : String) =>
    Ranges.normal (listed.flatMap Listed.ranges ++ Ranges.ofText text)
  ((Category.unionOf p.categories).union (lists p.listed p.more)).diff (lists p.without p.less)

def named? (sets : List Composed) (name : String) : Option Ranges :=
  (sets.find? fun p => p.names.contains name).map ranges

/-- The composed properties that a character has or has not. -/
def binary : List Composed := [
  { names := ["alpha", "alphabetic"]
    categories := Category.letters ++ [.nl]
    listed := [.otherLowercase, .otherUppercase, .otherAlphabetic] },
  { names := ["caseignorable", "ci"]
    categories := [.mn, .me, .cf, .lm, .sk]
    more := "27 2e 3a b7 387 55f 5f4 2018-2019 2024 2027 fe13 fe52 fe55 ff07 ff0e ff1a" },
  { names := ["cased"]
    categories := [.lu, .ll, .lt]
    listed := [.otherLowercase, .otherUppercase] },
  { names := ["cwcf", "changeswhencasefolded"]
    listed := [.changesWhenLowercased]
    more := "b5 df 149 17f 345 3c2 3d0-3d1 3d5-3d6 3f0-3f1 3f5 587 13f8-13fd 1c80-1c88 1e9a-1e9b
      1f80-1f87 1f90-1f97 1fa0-1fa7 1fb2-1fb4 1fb7 1fc2-1fc4 1fc7 1ff2-1ff4 1ff7 ab70-abbf
      fb00-fb06 fb13-fb17"
    less := "13a0-13f5" },
  { names := ["cwcm", "changeswhencasemapped"]
    listed := [.changesWhenLowercased, .changesWhenUppercased] },
  { names := ["cwt", "changeswhentitlecased"]
    listed := [.changesWhenUppercased]
    more := "1c4-1ca/3 1f1"
    less := "1c5-1cb/3 1f2 10d0-10fa 10fd-10ff 1f88-1f8f 1f98-1f9f 1fa8-1faf 1fbc 1fcc 1ffc" },
  { names := ["defaultignorablecodepoint", "di"]
    categories := [.cf]
    listed := [.otherDefaultIgnorable, .variationSelector]
    without := [.whiteSpace, .prependedConcatenationMark]
    less := "fff9-fffb 13430-1343f" },
  { names := ["graphemebase", "grbase"]
    categories := Category.letters ++ [.mc, .nd, .nl, .no, .pc, .pd, .ps, .pe, .pi, .pf,
      .po, .sm, .sc, .sk, .so, .zs]
    without := [.otherGraphemeExtend] },
  { names := ["graphemeextend", "grext"]
    categories := [.mn, .me]
    listed := [.otherGraphemeExtend] },
  { names := ["idc", "idcontinue"]
    categories := Category.letters ++ [.nl, .mn, .mc, .nd, .pc]
    listed := [.otherIdStart, .otherIdContinue]
    without := [.patternSyntax, .patternWhiteSpace] },
  { names := ["ids", "idstart"]
    categories := Category.letters ++ [.nl]
    listed := [.otherIdStart]
    without := [.patternSyntax, .patternWhiteSpace] },
  { names := ["lower", "lowercase"], categories := [.ll], listed := [.otherLowercase] },
  { names := ["math"], categories := [.sm], listed := [.otherMath] },
  { names := ["upper", "uppercase"], categories := [.lu], listed := [.otherUppercase] },
  { names := ["xidc", "xidcontinue"]
    categories := Category.letters ++ [.nl, .mn, .mc, .nd, .pc]
    listed := [.otherIdStart, .otherIdContinue]
    without := [.patternSyntax, .patternWhiteSpace]
    less := "37a 309b-309c fc5e-fc63 fdfa-fdfb fe70-fe7e/2" },
  { names := ["xids", "xidstart"]
    categories := Category.letters ++ [.nl]
    listed := [.otherIdStart]
    without := [.patternSyntax, .patternWhiteSpace]
    less := "37a e33 eb3 309b-309c fc5e-fc63 fdfa-fdfb fe70-fe7e/2 ff9e-ff9f" }]

end Composed

end HydrationPlan.Pattern
