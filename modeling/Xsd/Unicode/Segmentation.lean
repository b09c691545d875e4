import Xsd.Unicode.Property
import Xsd.Unicode.Script

/-!
# Segmentation

The classes of code points by which a text is divided into graphemes, words and sentences. Names are
written without case, blanks, hyphens and underscores.
-/

namespace Xsd.Unicode

/-- The classes for graphemes: their names and the formulas of their code points. -/
def graphemeTexts : List (List String × String) := [
  (["zwj"], "200D"),
  (["cr"], "D"),
  (["cn", "control"],
    "zl zp cc cf -A -D -600-605 -6DD -70F -890-891 -8E2 -200C-200D -110BD -110CD -E0020-E007F
     2065 FFF0-FFF8 E0000 E0002-E001F E0080-E00FF E01F0-E0FFF"),
  (["ex", "extend"], "grext emod"),
  (["l"], "1100-115F A960-A97C"),
  (["lf"], "A"),
  (["lv"], "AC00-D788:1C"),
  (["lvt"], "AC00-D7A3 -AC00-D788:1C"),
  (["pp", "prepend"], "pcm D4E 111C2-111C3 113D1 1193F 11941 11A3A 11A84-11A89 11D46 11F02"),
  (["regionalindicator", "ri"], "1F1E6-1F1FF"),
  (["sm", "spacingmark"],
    "mc -grext -102B-102C -1038 -1062-1064 -1067-106D -1083 -1087-108C -108F -109A-109C -1A61
     -1A63-1A64 -AA7B -AA7D -11720-11721 E33 EB3"),
  (["t"], "11A8-11FF D7CB-D7FB"),
  (["v"], "1160-11A7 D7B0-D7C6 16D63 16D67-16D6A")]

/-- The classes for words: their names and the formulas of their code points. -/
def wordTexts : List (List String × String) := [
  (["aletter", "le"],
    "alpha -ideo -hira -kana -thai -laoo -khmr -mymr -talu -tale -tavt -lana -hebr -grext -mc
     -3031-3035 -30FC -FF70 -11700-1171A -11740-11746 2C2-2C5 2D2-2D7 2DE-2DF 2E5-2EB 2ED
     2EF-2FF 55A-55C 55E 58A 5F3 70F A708-A716 A720-A721 A789-A78A AB5B"),
  (["cr"], "D"),
  (["doublequote", "dq"], "22"),
  (["extend"], "grext mc emod"),
  (["ex", "extendnumlet"], "pc 202F"),
  (["fo", "format"], "cf -600-605 -6DD -70F -890-891 -8E2 -200B-200D -110BD -110CD -E0020-E007F"),
  (["hebrewletter", "hl"], "hebr -mn -p -sm"),
  (["ka", "katakana"], "kana 3031-3035 309B-309C 30A0 30FC FF70"),
  (["lf"], "A"),
  (["midletter", "ml"], "3A B7 387 55F 5F4 2027 FE13 FE55 FF1A"),
  (["midnum", "mn"], "2C 3B 37E 589 60C-60D 66C 7F8 2044 FE50 FE54 FF0C FF1B"),
  (["mb", "midnumlet"], "2E 2018-2019 2024 FE52 FF07 FF0E"),
  (["newline", "nl"], "B-C 85 2028-2029"),
  (["nu", "numeric"], "nd 600-605 66B 6DD 890-891 8E2 19DA 110BD 110CD"),
  (["regionalindicator", "ri"], "1F1E6-1F1FF"),
  (["singlequote", "sq"], "27"),
  (["wsegspace"], "20 1680 2000-2006 2008-200A 205F 3000"),
  (["zwj"], "200D")]

/-- The classes for sentences: their names and the formulas of their code points. -/
def sentenceTexts : List (List String × String) := [
  (["at", "aterm"], "2E 2024 FE52 FF0E"),
  (["cr"], "D"),
  (["cl", "close"],
    "ps pe pi pf qmark -FF02 -FF07 275B-2760 2E00-2E01 2E06-2E08 2E0B 1F676-1F678"),
  (["ex", "extend"], "grext mc 200D"),
  (["fo", "format"], "cf -600-605 -6DD -890-891 -8E2 -200C-200D -110BD -110CD -E0020-E007F"),
  (["lf"], "A"),
  (["lo", "lower"], "lower -345 -10D0-10FA -10FD-10FF"),
  (["nu", "numeric"], "nd 600-605 66B-66C 6DD 890-891 8E2 19DA 110BD 110CD"),
  (["le", "oletter"],
    "alpha -upper -lt -lower -grext -mc 5F3 10D0-10FA 10FD-10FF 1C90-1CBA 1CBD-1CBF"),
  (["sc", "scontinue"],
    "2C-2D 3A-3B 37E 55D 60C-60D 7F8 1802 1808 2013-2014 3001 FE10-FE11 FE13-FE14 FE31-FE32
     FE50-FE51 FE54-FE55 FE58 FE63 FF0C-FF0D FF1A-FF1B FF64"),
  (["st", "sterm"], "sterm -2E -2024 -FE52 -FF0E"),
  (["se", "sep"], "85 2028-2029"),
  (["sp"], "space -A -D -85 -2028-2029"),
  (["up", "upper"], "upper lt -1C90-1CBA -1CBD-1CBF")]

/-- The code points of a class, if there is one of the name. A formula may name scripts as well. -/
def segment? (texts : List (List String × String)) (name : String) : Option Ranges :=
  (texts.find? fun p => p.1.contains name).map fun p =>
    .ofFormula (fun name => (script? name).getD (members 8 name)) p.2

end Xsd.Unicode
