import Crosswalk.Json.Flag
import Crosswalk.Json.Reader
import Crosswalk.Mapping.Printer
import Crosswalk.Mapping.Reader
import Crosswalk.Service.Provider
import Crosswalk.Text.Numeral
import Crosswalk.Url.Host

/-!
Settings, and the autofillers that they define.

A field that is not given has its default. Autofillers are groups of a mapping text whose service
is known; those of the settings replace built-in ones with the same key.
-/

/-! ### What can go wrong -/

namespace Crosswalk.Service

/-- What is wrong with a configuration. -/
inductive Problem where
  | zeroTimeout
  | zeroResults
  | noUrl (key : String)
  | invalidUrl (key : String) (cause : Url.Error)
  /-- A problem in words of the host. -/
  | stated (text : String)
deriving DecidableEq, Inhabited

def Problem.text : Problem → String
  | .zeroTimeout => "timeout_secs must be positive"
  | .zeroResults => "max_results must be positive"
  | .noUrl key => "autofiller " ++ key ++ " has no url"
  | .invalidUrl key cause => "autofiller " ++ key ++ " has an invalid url: " ++ cause.message
  | .stated text => text

/-- The failure of a step. -/
inductive Failure where
  /-- The service was not reached. -/
  | connection (url reason : String)
  /-- The service answered with an error status. -/
  | status (url : String) (code : Nat)
  /-- A JSON text could not be read. -/
  | unreadable
  /-- The configuration cannot be used. -/
  | configuration (problem : Problem)
deriving DecidableEq, Inhabited

def Failure.message : Failure → String
  | .connection url reason => "failed to fetch " ++ url ++ ": " ++ reason
  | .status url code => "HTTP " ++ String.ofList (Text.ofNat code) ++ " for " ++ url
  | .unreadable => "invalid JSON"
  | .configuration problem => "invalid configuration: " ++ problem.text

/-! ### The autofillers that need no configuration

The mapping of GeoNames takes name, number, country and place of a town; those of IdRef take the
number and the name of a record. -/

/-- The lines that define the autofiller of GeoNames. -/
def geoNamesLines : List String :=
  ["[geonames] = GeoNames",
    "http://api.geonames.org/searchJSON",
    "?q=\x7bquery\x7d&lang=\x7blanguage\x7d&maxRows=\x7bmax_results\x7d&username=\x7busername\x7d",
    "geonames = \x7blist\x7d",
    "toponymName = \x7b__label__\x7d",
    "geonameId = dcterms:identifier ^^uri ~ https://www.geonames.org/\x7b__value__\x7d",
    "countryName = dcterms:spatial",
    "lat = curation:latitude ^^literal",
    "lng = curation:longitude ^^literal"]

/-- The lines that define an autofiller of IdRef: its part, label and index, and the field that the
number of a record fills. -/
def idRefLines (part label index field : String) : List String :=
  ["[idref:" ++ part ++ "] = IdRef: " ++ label,
    "https://www.idref.fr/Sru/Solr",
    "?q=" ++ index ++ ":(\x7bquery\x7d)&wt=json&rows=\x7bmax_results\x7d&fl=ppn_z,affcourt_z",
    "response.docs = \x7blist\x7d",
    "affcourt_z = \x7b__label__\x7d",
    "ppn_z = " ++ field ++ " ^^uri ~ https://www.idref.fr/\x7b__value__\x7d"]

def builtinText : String :=
  String.intercalate "\n"
    (geoNamesLines ++ idRefLines "person" "Persons" "persname_t" "dcterms:identifier" ++
      idRefLines "corporation" "Organizations" "corpname_t" "dcterms:identifier" ++
      idRefLines "subject" "Subjects" "subjectheading_t" "dcterms:subject")

/-! ### Settings -/

open Crosswalk.Mapping

/-- The settings of a host. -/
structure Settings where
  userAgent : String
  timeoutSecs : Nat
  maxResults : Nat
  geonamesUsername : String
  autofillers : String
deriving DecidableEq

/-- One usable autofiller. -/
structure Autofiller where
  key : String
  provider : Provider
  group : Group
deriving DecidableEq, Inhabited

namespace Settings

def default : Settings :=
  { userAgent := "template_autofill/0.1.0"
    timeoutSecs := 10
    maxResults := 20
    geonamesUsername := "demo"
    autofillers := "" }

instance : Inhabited Settings := ⟨default⟩

/-- The fields, in the order in which an array gives them. -/
def fields : List String :=
  ["user_agent", "timeout_secs", "max_results", "geonames_username", "autofillers"]

def ofJson? (j : Json) : Option Settings := do
  let r ← Json.record? fields j
  let userAgent ← Json.withDefault default.userAgent Json.asText? (r "user_agent")
  let timeoutSecs ← Json.withDefault default.timeoutSecs Json.asNat? (r "timeout_secs")
  let maxResults ← Json.withDefault default.maxResults Json.asNat? (r "max_results")
  let username ← Json.withDefault default.geonamesUsername Json.asText? (r "geonames_username")
  let autofillers ← Json.withDefault default.autofillers Json.asText? (r "autofillers")
  some ⟨userAgent, timeoutSecs, maxResults, username, autofillers⟩

/-- Reads settings. Neither the time nor the number of results may be zero. -/
def read (text : String) : Except Failure Settings :=
  match (Json.read? text).bind ofJson? with
  | none => .error .unreadable
  | some settings =>
    if settings.timeoutSecs = 0 then .error (.configuration .zeroTimeout)
    else if settings.maxResults = 0 then .error (.configuration .zeroResults)
    else .ok settings

def toJson (s : Settings) : Json :=
  .object
    [("user_agent", .text s.userAgent), ("timeout_secs", .ofNat s.timeoutSecs),
      ("max_results", .ofNat s.maxResults), ("geonames_username", .text s.geonamesUsername),
      ("autofillers", .text s.autofillers)]

/-- All groups that are defined, those of the settings in the place of built-in ones. -/
def groups (s : Settings) : Table Group :=
  (parseGroups builtinText).setAll (parseGroups s.autofillers).entries

/-- The usable autofillers by their keys. -/
def load (s : Settings) : Table Autofiller :=
  s.groups.filterMapValues fun key group =>
    (Provider.ofGroup? group).map fun provider => ⟨key, provider, group⟩

end Settings

def Autofiller.toJson (a : Autofiller) : Json :=
  Json.objectOf
    ([("key", some (.text a.key)), ("provider", some (.text a.provider.name))] ++
      groupMembers a.group)

end Crosswalk.Service
