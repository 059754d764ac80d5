import Crosswalk.Unicode.CategoryTable
import Crosswalk.Unicode.CharSet
import Crosswalk.Unicode.PropertyTable
import Crosswalk.Unicode.ScriptTable

/-!
Sets of characters by the names of properties, general categories, scripts, versions and breaks.

Case, spaces, hyphens and underscores in a name do not count, nor does `is` in front of it.
-/

namespace Crosswalk.Unicode

/-- The form in which names are compared. -/
def normalizeName (s : List Char) : List Char :=
  let (isMarked, rest) :=
    match s with
    | i :: s' :: rest => if i.toLower == 'i' && s'.toLower == 's' then (true, rest) else (false, s)
    | _ => (false, s)
  let kept :=
    (rest.filter fun c => c != ' ' && c != '_' && c != '-' && c.toNat < 128).map Char.toLower
  if isMarked && kept == ['c'] then ['i', 's', 'c'] else kept

/-- The categories that a group of categories is made of. -/
def categoryGroups : List (String × List String) :=
  [("l letter", ["lu", "ll", "lt", "lm", "lo"]), ("lc casedletter", ["lu", "ll", "lt"]),
    ("m mark combiningmark", ["mn", "mc", "me"]), ("n number", ["nd", "nl", "no"]),
    ("p punctuation punct", ["pc", "pd", "ps", "pe", "pi", "pf", "po"]),
    ("s symbol", ["sm", "sc", "sk", "so"]), ("z separator", ["zs", "zl", "zp"]),
    ("c other", ["cc", "cf", "co", "cn"])]

def categorySet (name : String) : CharSet :=
  .runs ((CodedClass.find? categoryClasses name.toList).getD [])

def categorySets (names : List String) : CharSet := .unions (names.map categorySet)

/-- The characters of a general category or of a group of them. -/
def category? (name : List Char) : Option CharSet :=
  if name = "any".toList then some .all
  else if name = "ascii".toList then some (.runs [(0, 127)])
  else if name = "assigned".toList then some (.complement (categorySet "cn"))
  else
    match CodedClass.find? categoryClasses name with
    | some runs => some (.runs runs)
    | none =>
      (categoryGroups.find? fun (names, _) =>
          (Text.pieces (· == ' ') names.toList).contains name).map
        fun (_, parts) => categorySets parts

def script? (name : List Char) : Option CharSet :=
  (CodedClass.find? scriptClasses name).map .runs

/-- The scripts of characters that are not of one script. -/
def sharedScripts : List String := ["common", "zyyy", "inherited", "zinh", "qaai"]

/-- The characters that are used in a script. What some scripts share is neither common to all nor
inherited. -/
def scriptExtension? (name : List Char) : Option CharSet :=
  (script? name).map fun own =>
    if sharedScripts.contains (String.ofList name) then
      .diff own (.runs (extensionClasses.flatMap CodedClass.runs))
    else .union own (.runs ((CodedClass.find? extensionClasses name).getD []))

/-- The characters that there are in a version. -/
def age? (name : List Char) : Option CharSet :=
  (ageClasses.findIdx? (CodedClass.hasName name)).map fun i =>
    .runs ((ageClasses.take (i + 1)).flatMap CodedClass.runs)

/-- What a property adds to general categories, or takes from them. -/
def additionSet (name : String) : CharSet :=
  .runs ((CodedClass.find? additionClasses name.toList).getD [])

/-- The characters of a property that is listed in full. -/
def listedSet (name : String) : CharSet :=
  .runs ((CodedClass.find? propertyClasses name.toList).getD [])

def scriptSet (name : String) : CharSet := (script? name.toList).getD .empty

def letterSet : CharSet := categorySets ["lu", "ll", "lt", "lm", "lo", "nl"]

def identifierStart : CharSet :=
  .union (.diff letterSet (.runs [(0x2E2F, 0x2E2F)])) (additionSet "otheridstart")

def identifierPart : CharSet :=
  .unions
    [identifierStart, categorySets ["mn", "mc", "nd", "pc"], additionSet "otheridcontinue"]

/-- The letters in lower case, and what counts as such. -/
def lowercaseSet : CharSet := .union (categorySet "ll") (additionSet "otherlowercase")

/-- The letters in upper case, and what counts as such. -/
def uppercaseSet : CharSet := .union (categorySet "lu") (additionSet "otheruppercase")

def extendSet : CharSet :=
  .union (categorySets ["mn", "me"]) (additionSet "othergraphemeextend")

def alphabeticSet : CharSet := .union letterSet (additionSet "otheralphabetic")

/-- The properties that are made of general categories. -/
def derivedProperties : List (String × CharSet) :=
  [("alphabetic alpha", alphabeticSet),
    ("lowercase lower", lowercaseSet),
    ("uppercase upper", uppercaseSet),
    ("cased", .unions [lowercaseSet, uppercaseSet, categorySet "lt"]),
    ("caseignorable ci",
      .union (categorySets ["mn", "me", "cf", "lm", "sk"]) (additionSet "othercaseignorable")),
    ("idstart ids", identifierStart),
    ("idcontinue idc", identifierPart),
    ("xidstart xids", .diff identifierStart (additionSet "notxidstart")),
    ("xidcontinue xidc", .diff identifierPart (additionSet "notxidcontinue")),
    ("graphemeextend grext", extendSet),
    ("graphemebase grbase",
      .complement (.union extendSet (categorySets ["cc", "cf", "co", "cn", "zl", "zp"])))]

/-- What properties add to others, as properties of their own. -/
def contributions : List (String × CharSet) :=
  [("oalpha otheralphabetic", additionSet "otheralphabetic"),
    ("odi otherdefaultignorablecodepoint",
      .diff (listedSet "di") (.union (categorySet "cf") (listedSet "vs"))),
    ("ogrext othergraphemeextend", additionSet "othergraphemeextend"),
    ("oidc otheridcontinue", additionSet "otheridcontinue"),
    ("oids otheridstart", additionSet "otheridstart"),
    ("olower otherlowercase", additionSet "otherlowercase"),
    ("omath othermath", .diff (listedSet "math") (categorySet "sm")),
    ("oupper otheruppercase", additionSet "otheruppercase")]

/-- The characters that a run maps to others, as runs. -/
def CaseRun.sources (run : CaseRun) : List (Nat × Nat) :=
  (List.range ((run.last - run.first) / run.step + 1)).map fun k =>
    (run.first + k * run.step, run.first + k * run.step)

/-- The characters beyond ASCII that a mapping of case changes. -/
def changedSet (runs : List CaseRun) (sequences : List (Nat × List Nat)) : CharSet :=
  .runs (runs.flatMap CaseRun.sources ++ sequences.map fun (n, _) => (n, n))

def lowercasedSet : CharSet :=
  .union (.runs [(0x41, 0x5A)]) (changedSet lowerRuns lowerSequences)

def uppercasedSet : CharSet :=
  .union (.runs [(0x61, 0x7A)]) (changedSet upperRuns upperSequences)

/-- A letter at the start of a title changes where its upper case does, unless it is in title case
already. The letters of Georgian stay as they are there, and the capital digraphs change. -/
def titlecasedSet : CharSet :=
  .union (.diff (.diff uppercasedSet (categorySet "lt")) (.runs [(0x10D0, 0x10FF)]))
    (.runs [(0x1C4, 0x1C4), (0x1C7, 0x1C7), (0x1CA, 0x1CA), (0x1F1, 0x1F1)])

/-- The characters that change with their case. The small letters of Cherokee fold to the capital
ones. -/
def changeProperties : List (String × CharSet) :=
  [("cwl changeswhenlowercased", lowercasedSet),
    ("cwu changeswhenuppercased", uppercasedSet),
    ("cwt changeswhentitlecased", titlecasedSet),
    ("cwcm changeswhencasemapped", .unions [lowercasedSet, uppercasedSet, titlecasedSet]),
    ("cwcf changeswhencasefolded",
      .diff (.union lowercasedSet (additionSet "othercasefolded")) (.runs [(0x13A0, 0x13F5)]))]

/-! ### Breaks in texts -/

/-- The tags, which are passed over like marks. -/
def tagSet : CharSet := .runs [(0xE0020, 0xE007F)]

/-- What joins or keeps apart: the joiner and its opposite. -/
def joinerSet : CharSet := .runs [(0x200C, 0x200D)]

def clusterExtend : CharSet := .union extendSet (listedSet "emod")

/-- The syllables of Hangul without a last consonant. -/
def openSyllables : CharSet :=
  .runs ((List.range 399).map fun k => (0xAC00 + 28 * k, 0xAC00 + 28 * k))

/-- The values of the breaks between clusters of graphemes that are made of other sets. -/
def clusterBreaks : List (String × CharSet) :=
  [("cn control",
      .diff
        (.union (categorySets ["zl", "zp", "cc", "cf"])
          (.inter (categorySet "cn") (listedSet "di")))
        (.unions [.runs [(0xA, 0xA), (0xD, 0xD)], joinerSet, listedSet "pcm", tagSet])),
    ("ex extend", clusterExtend),
    ("lv", openSyllables),
    ("lvt", .diff (.runs [(0xAC00, 0xD7A3)]) openSyllables),
    ("pp prepend", .union (listedSet "pcm") (additionSet "otherprepend")),
    ("ri regionalindicator", listedSet "ri"),
    ("sm spacingmark",
      .diff (.union (categorySet "mc") (.runs [(0xE33, 0xE33), (0xEB3, 0xEB3)]))
        (.union clusterExtend (additionSet "notspacingmark")))]

/-- The scripts of south-east Asia that are written without blanks between words. -/
def unspacedScripts : CharSet :=
  .unions
    (["thai", "laoo", "mymr", "khmr", "tale", "talu", "lana", "tavt", "ahom"].map scriptSet)

def wordExtend : CharSet :=
  .diff (.unions [extendSet, categorySet "mc", listedSet "emod"]) (.runs [(0x200D, 0x200D)])

def hebrewLetters : CharSet := .inter (scriptSet "hebr") (categorySet "lo")

/-- The values of the breaks between words that are made of other sets. -/
def wordBreaks : List (String × CharSet) :=
  [("extend", wordExtend),
    ("ex extendnumlet", .union (categorySet "pc") (.runs [(0x202F, 0x202F)])),
    ("fo format",
      .diff (categorySet "cf") (.unions [.runs [(0x200B, 0x200B)], joinerSet, tagSet])),
    ("hl hebrewletter", hebrewLetters),
    ("le aletter",
      .diff (.union alphabeticSet (additionSet "otheraletter"))
        (.unions
          [listedSet "ideo", .runs ((CodedClass.find? wordBreakClasses "ka".toList).getD []),
            scriptSet "hira", wordExtend, hebrewLetters, unspacedScripts])),
    ("nu numeric", .union (categorySet "nd") (.runs [(0x66B, 0x66B)])),
    ("ri regionalindicator", listedSet "ri"),
    ("wsegspace",
      .diff (categorySet "zs") (.runs [(0xA0, 0xA0), (0x2007, 0x2007), (0x202F, 0x202F)]))]

def sentenceExtend : CharSet :=
  .unions [extendSet, categorySet "mc", .runs [(0x200D, 0x200D)]]

/-- The small letters, without those of Georgian, which begin sentences too. -/
def sentenceLower : CharSet :=
  .diff lowercaseSet (.union extendSet (.runs [(0x10D0, 0x10FA), (0x10FD, 0x10FF)]))

def sentenceUpper : CharSet :=
  .diff (.union uppercaseSet (categorySet "lt")) (.runs [(0x1C90, 0x1CBA), (0x1CBD, 0x1CBF)])

/-- The values of the breaks between sentences that are made of other sets. -/
def sentenceBreaks : List (String × CharSet) :=
  [("cl close", .union (categorySets ["ps", "pe", "pi", "pf"]) (additionSet "otherclose")),
    ("ex extend", sentenceExtend),
    ("fo format", .diff (categorySet "cf") (.union joinerSet tagSet)),
    ("le oletter",
      .diff (.union alphabeticSet (.runs [(0x5F3, 0x5F3)]))
        (.unions [sentenceLower, sentenceUpper, sentenceExtend])),
    ("lo lower", sentenceLower),
    ("nu numeric", .union (categorySet "nd") (.runs [(0x66B, 0x66C)])),
    ("sp",
      .diff (listedSet "wspace")
        (.runs [(0xA, 0xA), (0xD, 0xD), (0x85, 0x85), (0x2028, 0x2029)])),
    ("st sterm",
      .diff (listedSet "sterm") (.runs [(0x2E, 0x2E), (0xFE52, 0xFE52), (0xFF0E, 0xFF0E)])),
    ("up upper", sentenceUpper)]

/-! ### Sets by their names -/

/-- The set with a name in a list of sets with their names. -/
def namedIn? (sets : List (String × CharSet)) (name : List Char) : Option CharSet :=
  (sets.find? fun (names, _) => (Text.pieces (· == ' ') names.toList).contains name).map Prod.snd

def property? (name : List Char) : Option CharSet :=
  match CodedClass.find? propertyClasses name with
  | some runs => some (.runs runs)
  | none => namedIn? (derivedProperties ++ contributions ++ changeProperties) name

/-- The characters of the property, category or script with a name. -/
def named? (name : List Char) : Option CharSet :=
  let name := normalizeName name
  property? name <|> category? name <|> script? name

/-- The set of a name among those that are listed in full and those that are made of others. -/
def breakIn? (listed : List CodedClass) (made : List (String × CharSet)) (name : List Char) :
    Option CharSet :=
  ((CodedClass.find? listed name).map .runs).or (namedIn? made name)

/-- The characters whose property has a value. -/
def valued? (property value : List Char) : Option CharSet :=
  let value := normalizeName value
  match String.ofList (normalizeName property) with
  | "gc" | "generalcategory" => category? value
  | "sc" | "script" => script? value
  | "scx" | "scriptextensions" => scriptExtension? value
  | "age" => age? value
  | "gcb" | "graphemeclusterbreak" => breakIn? clusterBreakClasses clusterBreaks value
  | "wb" | "wordbreak" => breakIn? wordBreakClasses wordBreaks value
  | "sb" | "sentencebreak" => breakIn? sentenceBreakClasses sentenceBreaks value
  | _ => none

end Crosswalk.Unicode
