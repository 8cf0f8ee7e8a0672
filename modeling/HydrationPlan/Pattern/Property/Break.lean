import HydrationPlan.Pattern.Property.Composed

/-!
# Breaks

The classes of characters by which text is broken into graphemes, words and sentences, in version
16.0 of the Unicode standard. The classes of all other characters have no set.
-/

namespace HydrationPlan.Pattern.Composed

def graphemeBreaks : List Composed := [
  { names := ["cn", "control"]
    categories := [.cc, .zl, .zp, .cf]
    more := "2065 fff0-fff8 e0000 e0002-e001f e0080-e00ff e01f0-e0fff"
    without := [.prependedConcatenationMark]
    less := "a d 200c-200d e0020-e007f" },
  { names := ["cr"], more := "d" },
  { names := ["ex", "extend"]
    categories := [.mn, .me]
    listed := [.otherGraphemeExtend, .emojiModifier] },
  { names := ["l"], more := "1100-115f a960-a97c" },
  { names := ["lf"], more := "a" },
  { names := ["lv"], more := "ac00-d788/1c" },
  { names := ["lvt"], more := "ac00-d7a3", less := "ac00-d788/1c" },
  { names := ["pp", "prepend"]
    listed := [.prependedConcatenationMark]
    more := "d4e 111c2-111c3 113d1 1193f 11941 11a3a 11a84-11a89 11d46 11f02" },
  { names := ["regionalindicator", "ri"], listed := [.regionalIndicator] },
  { names := ["sm", "spacingmark"]
    categories := [.mc]
    more := "e33 eb3"
    without := [.otherGraphemeExtend]
    less := "102b-102c 1038 1062-1064 1067-106d 1083 1087-108c 108f 109a-109c 1a61 1a63-1a64
      aa7b aa7d 11720-11721" },
  { names := ["t"], more := "11a8-11ff d7cb-d7fb" },
  { names := ["v"], more := "1160-11a7 d7b0-d7c6 16d63 16d67-16d6a" },
  { names := ["zwj"], more := "200d" }]

def wordBreaks : List Composed := [
  { names := ["aletter", "le"]
    categories := Category.letters ++ [.nl]
    listed := [.otherLowercase, .otherUppercase]
    more := "2c2-2c5 2d2-2d7 2de-2df 2e5-2eb 2ed 2ef-2ff 55a-55c 55e 58a 5f3 70f a708-a716
      a720-a721 a789-a78a ab5b"
    without := [.ideographic, .otherGraphemeExtend]
    less := "345 5d0-5ea 5ef-5f2 e01-e30 e32-e33 e40-e46 e81-e82 e84 e86-e8a e8c-ea3 ea5 ea7-eb0
      eb2-eb3 ebd ec0-ec4 ec6 edc-edf 1000-102a 103f 1050-1055 105a-105d 1061 1065-1066
      106e-1070 1075-1081 108e 1780-17b3 17d7 17dc 1950-196d 1970-1974 1980-19ab 19b0-19c9
      1a20-1a54 1aa7 3031-3035 3041-3096 309d-309f 30a1-30fa 30fc-30ff 31f0-31ff a9e0-a9e4
      a9e6-a9ef a9fa-a9fe aa60-aa76 aa7a aa7e-aaaf aab1 aab5-aab6 aab9-aabd aac0 aac2 aadb-aadd
      fb1d fb1f-fb28 fb2a-fb36 fb38-fb3c fb3e fb40-fb41 fb43-fb44 fb46-fb4f ff66-ff9d
      11700-1171a 11740-11746 1aff0-1aff3 1aff5-1affb 1affd-1affe 1b000-1b122 1b132 1b150-1b152
      1b155 1b164-1b167" },
  { names := ["cr"], more := "d" },
  { names := ["doublequote", "dq"], more := "22" },
  { names := ["ex", "extendnumlet"], more := "5f 202f 203f-2040 2054 fe33-fe34 fe4d-fe4f ff3f" },
  { names := ["extend"]
    categories := [.mn, .mc, .me]
    listed := [.otherGraphemeExtend, .emojiModifier] },
  { names := ["fo", "format"]
    categories := [.cf]
    without := [.prependedConcatenationMark]
    less := "200b-200d e0020-e007f" },
  { names := ["hebrewletter", "hl"]
    more := "5d0-5ea 5ef-5f2 fb1d fb1f-fb28 fb2a-fb36 fb38-fb3c fb3e fb40-fb41 fb43-fb44
      fb46-fb4f" },
  { names := ["ka", "katakana"]
    more := "3031-3035 309b-309c 30a0-30fa 30fc-30ff 31f0-31ff 32d0-32fe 3300-3357 ff66-ff9d
      1aff0-1aff3 1aff5-1affb 1affd-1affe 1b000 1b120-1b122 1b155 1b164-1b167" },
  { names := ["lf"], more := "a" },
  { names := ["mb", "midnumlet"], more := "2e 2018-2019 2024 fe52 ff07 ff0e" },
  { names := ["midletter", "ml"], more := "3a b7 387 55f 5f4 2027 fe13 fe55 ff1a" },
  { names := ["midnum", "mn"]
    more := "2c 3b 37e 589 60c-60d 66c 7f8 2044 fe10 fe14 fe50 fe54 ff0c ff1b" },
  { names := ["newline", "nl"], more := "b-c 85 2028-2029" },
  { names := ["nu", "numeric"]
    categories := [.nd]
    more := "600-605 66b 6dd 890-891 8e2 110bd 110cd" },
  { names := ["regionalindicator", "ri"], listed := [.regionalIndicator] },
  { names := ["singlequote", "sq"], more := "27" },
  { names := ["wsegspace"], more := "20 1680 2000-2006 2008-200a 205f 3000" },
  { names := ["zwj"], more := "200d" }]

def sentenceBreaks : List Composed := [
  { names := ["at", "aterm"], more := "2e 2024 fe52 ff0e" },
  { names := ["cl", "close"]
    categories := [.ps, .pe, .pi, .pf]
    more := "22 27 275b-2760 2e00-2e01 2e06-2e08 2e0b 1f676-1f678" },
  { names := ["cr"], more := "d" },
  { names := ["ex", "extend"]
    categories := [.mn, .mc, .me]
    listed := [.otherGraphemeExtend]
    more := "200d" },
  { names := ["fo", "format"]
    categories := [.cf]
    without := [.prependedConcatenationMark]
    less := "200c-200d e0020-e007f" },
  { names := ["le", "oletter"]
    categories := [.lm, .lo, .nl]
    more := "5f3 70f 10d0-10fa 10fd-10ff 1c90-1cba 1cbd-1cbf"
    without := [.otherLowercase, .otherUppercase, .otherGraphemeExtend] },
  { names := ["lf"], more := "a" },
  { names := ["lo", "lower"]
    categories := [.ll]
    listed := [.otherLowercase]
    less := "345 10d0-10fa 10fd-10ff" },
  { names := ["nu", "numeric"]
    categories := [.nd]
    more := "600-605 66b-66c 6dd 890-891 8e2 110bd 110cd" },
  { names := ["sc", "scontinue"]
    more := "2c-2d 3a-3b 37e 55d 60c-60d 7f8 1802 1808 2013-2014 3001 fe10-fe11 fe13-fe14
      fe31-fe32 fe50-fe51 fe54-fe55 fe58 fe63 ff0c-ff0d ff1a-ff1b ff64" },
  { names := ["se", "sep"], more := "85 2028-2029" },
  { names := ["sp"], listed := [.whiteSpace], less := "a d 85 2028-2029" },
  { names := ["st", "sterm"], listed := [.sentenceTerminal], less := "2e 2024 fe52 ff0e" },
  { names := ["up", "upper"]
    categories := [.lu, .lt]
    listed := [.otherUppercase]
    less := "1c90-1cba 1cbd-1cbf" }]

end HydrationPlan.Pattern.Composed
