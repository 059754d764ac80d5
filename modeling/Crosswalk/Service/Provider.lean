import Crosswalk.Mapping.Target

/-!
The kinds of services that suggestions come from.
-/

namespace Crosswalk.Service

open Crosswalk.Mapping

/-- A kind of service: any that answers in JSON or XML, the GeoNames gazetteer, and the IdRef
authority files. -/
inductive Provider where
  | genericJson
  | genericXml
  | geoNames
  | idRef
deriving DecidableEq, Inhabited

namespace Provider

/-- The kind of the service of a group, if it is a known one. -/
def ofGroup? (g : Group) : Option Provider :=
  if g.service = "generic" then
    match g.sub with
    | none => some .genericJson
    | some "json" => some .genericJson
    | some "xml" => some .genericXml
    | some _ => none
  else if g.service = "geonames" then some .geoNames
  else if g.service = "idref" then some .idRef
  else none

def name : Provider → String
  | .genericJson => "generic_json"
  | .genericXml => "generic_xml"
  | .geoNames => "geo_names"
  | .idRef => "id_ref"

def isXml (p : Provider) : Bool := p == .genericXml

def accept (p : Provider) : String :=
  if p.isXml then "application/xml, text/xml" else "application/json"

/-- The address of a service whose group gives none. -/
def url? : Provider → Option String
  | .geoNames => some "http://api.geonames.org/searchJSON"
  | .idRef => some "https://www.idref.fr/Sru/Solr"
  | _ => none

/-- The index that a part of IdRef is searched in. -/
def idRefIndex (sub : Option String) : String :=
  if sub = some "corporation" then "corpname_t"
  else if sub = some "subject" then "subjectheading_t"
  else "persname_t"

/-- The query for a service whose group gives none. -/
def query? (sub : Option String) : Provider → Option String
  | .geoNames =>
    some
      "q=\x7bquery\x7d&lang=\x7blanguage\x7d&maxRows=\x7bmax_results\x7d&username=\x7busername\x7d"
  | .idRef =>
    some
      ("q=" ++ idRefIndex sub ++
        ":(\x7bquery\x7d)&wt=json&rows=\x7bmax_results\x7d&fl=ppn_z,affcourt_z")
  | _ => none

end Provider

end Crosswalk.Service
