import DockLint.Unicode.Break
import DockLint.Unicode.ScriptExtension
import DockLint.Unicode.Version

/-!
# Classes of characters by name

A class is asked for by the name of a property, a category or a script, or by the name of a property
and one of its values. How names are spelled does not count: neither letter case, blanks, hyphens
and underscores between words nor a leading `is`.
-/

namespace DockLint.Unicode

/-- The form of a name in which its spelling does not count. The name of one property would be that
of a category without its `is`, and keeps it. -/
def plainName (name : List Char) : String :=
  let plain (cs : List Char) : List Char :=
    (cs.filter fun c => c.toNat < 0x80 && c != ' ' && c != '_' && c != '-').map Char.toLower
  match name with
  | i :: s :: rest =>
    if i.toLower = 'i' ∧ s.toLower = 's' then
      if plain rest = ['c'] then "isc" else String.ofList (plain rest)
    else String.ofList (plain name)
  | _ => String.ofList (plain name)

/-- The characters of a category, a group of them or all. -/
def categoryNamed? (name : String) : Option Ranges :=
  match name with
  | "any" => some Ranges.full
  | "ascii" => some [(0, 0x7f)]
  | "assigned" => some (Category.ranges .unassigned).complement
  | _ => Category.named? name

/-- These are both short for categories and for properties that are no classes. -/
def sharedNames : List String := ["cf", "sc", "lc"]

/-- Why a name, or a property and a value, stand for no class. -/
inductive Missing where
  | property
  | value
  deriving DecidableEq, Repr

/-- Names of one category and two scripts that no character has. -/
def emptyNames : List String :=
  ["cs", "surrogate", "hrkt", "katakanaorhiragana", "unknown", "zzzz"]

/-- The class that a name stands for: a property, or else a category, or else a script. -/
def classNamed (name : List Char) : Except Missing Ranges :=
  let name := plainName name
  let property? := if sharedNames.contains name then none else Property.named? name
  match property? with
  | some p => .ok p.ranges
  | none =>
    match (categoryNamed? name).or ((scriptNamed? name).map Script.ranges) with
    | some rs => .ok rs
    | none => .error (if emptyNames.contains name then .value else .property)

/-- Names of properties whose values are no classes. -/
def otherProperties : List String := [
  "cjkaccountingnumeric", "kaccountingnumeric", "cjkothernumeric", "kothernumeric",
  "cjkprimarynumeric", "kprimarynumeric", "nv", "numericvalue", "cf", "casefolding",
  "cjkcompatibilityvariant", "kcompatibilityvariant", "dm", "decompositionmapping", "fcnfkc",
  "fcnfkcclosure", "lc", "lowercasemapping", "nfkccf", "nfkccasefold", "nfkcscf",
  "nfkcsimplecasefold", "scf", "simplecasefolding", "sfc", "slc", "simplelowercasemapping", "stc",
  "simpletitlecasemapping", "suc", "simpleuppercasemapping", "tc", "titlecasemapping", "uc",
  "uppercasemapping", "bmg", "bidimirroringglyph", "bpb", "bidipairedbracket", "cjkiicore",
  "kiicore", "cjkirggsource", "kirggsource", "cjkirghsource", "kirghsource", "cjkirgjsource",
  "kirgjsource", "cjkirgkpsource", "kirgkpsource", "cjkirgksource", "kirgksource", "cjkirgmsource",
  "kirgmsource", "cjkirgssource", "kirgssource", "cjkirgtsource", "kirgtsource", "cjkirguksource",
  "kirguksource", "cjkirgusource", "kirgusource", "cjkirgvsource", "kirgvsource", "cjkrsunicode",
  "krsunicode", "unicoderadicalstroke", "urs", "equideo", "equivalentunifiedideograph", "isc",
  "ocomment", "jsn", "jamoshortname", "kehcat", "kehdesc", "kehhg", "kehifao", "kehjsesh",
  "kehnomirror", "kehnorotate", "na", "name", "na1", "unicode1name", "namealias", "blk", "block",
  "bc", "bidiclass", "bpt", "bidipairedbrackettype", "ccc", "canonicalcombiningclass", "dt",
  "decompositiontype", "ea", "eastasianwidth", "hst", "hangulsyllabletype", "incb",
  "indicconjunctbreak", "inpc", "indicpositionalcategory", "insc", "indicsyllabiccategory", "jg",
  "joininggroup", "jt", "joiningtype", "lb", "linebreak", "nfcqc", "nfcquickcheck", "nfdqc",
  "nfdquickcheck", "nfkcqc", "nfkcquickcheck", "nfkdqc", "nfkdquickcheck", "nt", "numerictype",
  "vo", "verticalorientation", "ce", "compositionexclusion", "compex", "fullcompositionexclusion",
  "cwkcf", "changeswhennfkccasefolded", "xonfc", "expandsonnfc", "xonfd", "expandsonnfd", "xonfkc",
  "expandsonnfkc", "xonfkd", "expandsonnfkd"]

/-- The class that a value of a property stands for; none if there is no such property. -/
def valueClass? (property value : String) : Option (Option Ranges) :=
  match property with
  | "gc" | "generalcategory" => some (categoryNamed? value)
  | "sc" | "script" => some ((scriptNamed? value).map Script.ranges)
  | "scx" | "scriptextensions" => some ((scriptNamed? value).map Script.extendedRanges)
  | "age" => some (charactersOf? value)
  | "gcb" | "graphemeclusterbreak" => some (GraphemeBreak.named? value)
  | "wb" | "wordbreak" => some (WordBreak.named? value)
  | "sb" | "sentencebreak" => some (SentenceBreak.named? value)
  | _ =>
    if (Property.named? property).isSome ∨ otherProperties.contains property then some none
    else none

/-- The characters that have a value of a property. -/
def classOf (property value : List Char) : Except Missing Ranges :=
  match valueClass? (plainName property) (plainName value) with
  | none => .error .property
  | some none => .error .value
  | some (some rs) => .ok rs

end DockLint.Unicode
