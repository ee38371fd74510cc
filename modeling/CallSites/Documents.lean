import CallSites.Report
import CallSites.Yaml.Decode

/-!
# Profiles and site files as documents

Profiles and site files are written as documents.  Keys that are not known are ignored, and
everything may be left out as far as the document is concerned; whether a profile or a site file is
complete is for its validation to say.
-/

namespace CallSites

open Yaml

namespace Profile

/-- Sets a field of the description of the cache cell types. -/
def cellField (key : String) (n : Node) (c : CellSpec) : DecodeM CellSpec :=
  match key with
  | "namespace" => setField decodeText (fun v c => { c with ns := v }) n c
  | "base" => setField decodeText (fun v c => { c with base := v }) n c
  | "generic" => setField decodeText (fun v c => { c with generic := v }) n c
  | "binder" => setField decodeText (fun v c => { c with binder := v }) n c
  | "members" =>
    setField (decodeList "[]string" decodeText) (fun v c => { c with members := some v }) n c
  | _ => pure c

/-- Sets a field of the description of a family. -/
def familyField (key : String) (n : Node) (f : FamilySpec) : DecodeM FamilySpec :=
  match key with
  | "namespace" => setField decodeText (fun v f => { f with ns := v }) n f
  | "name" => setField decodeText (fun v f => { f with name := v }) n f
  | "max_params" => setField decodeInt (fun v f => { f with maxParams := v }) n f
  | _ => pure f

/-- Sets a field of the description of a type. -/
def typeField (key : String) (n : Node) (t : TypeSpec) : DecodeM TypeSpec :=
  match key with
  | "namespace" => setField decodeText (fun v t => { t with ns := v }) n t
  | "name" => setField decodeText (fun v t => { t with name := v }) n t
  | "kind" => setField decodeText (fun v t => { t with kind := v }) n t
  | _ => pure t

/-- The description of the cache cell types. -/
def decodeCell : Node → DecodeM (Option CellSpec) :=
  decodeRecord "memplatform.CallSiteSpec" cellField {}

/-- The description of a family. -/
def decodeFamily : Node → DecodeM (Option FamilySpec) :=
  decodeRecord "memplatform.FamilySpec" familyField {}

/-- The descriptions of the types. -/
def decodeTypes : Node → DecodeM (Option (List TypeSpec)) :=
  decodeList "[]memplatform.TypeSpec" (decodeRecord "memplatform.TypeSpec" typeField {})

/-- Sets a field of a profile. -/
def field (key : String) (n : Node) (p : Profile) : DecodeM Profile :=
  match key with
  | "runtime" => setField decodeText (fun v p => { p with runtime := v }) n p
  | "call_site" => setField decodeCell (fun v p => { p with cell := some v }) n p
  | "action" => setField decodeFamily (fun v p => { p with action := v }) n p
  | "func" => setField decodeFamily (fun v p => { p with func := v }) n p
  | "types" => setField decodeTypes (fun v p => { p with types := v }) n p
  | _ => pure p

/-- A profile as it is written down. -/
def ofYaml : Decoder Profile := decode (decodeRecord "memplatform.Profile" field {}) {}

end Profile

namespace SiteFile

/-- Sets a field of the description of a site. -/
def siteField (key : String) (n : Node) (s : SiteSpec) : DecodeM SiteSpec :=
  match key with
  | "hint" => setField decodeText (fun v s => { s with hint := v }) n s
  | "receiver" => setField decodeText (fun v s => { s with receiver := v }) n s
  | "receiver_by_ref" => setField decodeBool (fun v s => { s with receiverByRef := v }) n s
  | "args" => setField (decodeList "[]string" decodeText) (fun v s => { s with args := v }) n s
  | "arg_by_ref" =>
    setField (decodeList "[]bool" decodeBool) (fun v s => { s with argByRef := v }) n s
  | "right" => setField decodeText (fun v s => { s with right := v }) n s
  | "result" => setField decodeText (fun v s => { s with result := v }) n s
  | "bootstrap" => setField decodeBool (fun v s => { s with bootstrap := v }) n s
  | _ => pure s

/-- The descriptions of the sites. -/
def decodeSites : Node → DecodeM (Option (List SiteSpec)) :=
  decodeList "[]sitefile.Site" (decodeRecord "sitefile.Site" siteField {})

/-- Sets a field of a site file. -/
def field (key : String) (n : Node) (f : SiteFile) : DecodeM SiteFile :=
  match key with
  | "unit" => setField decodeText (fun v f => { f with unit := v }) n f
  | "container" => setField decodeText (fun v f => { f with container := v }) n f
  | "sites" => setField decodeSites (fun v f => { f with sites := v }) n f
  | _ => pure f

/-- A site file as it is written down. -/
def ofYaml : Decoder SiteFile := decode (decodeRecord "sitefile.File" field {}) {}

end SiteFile

/-- Files that hold documents. -/
def Report.Sources.ofYaml (read : Report.FileReader) : Report.Sources :=
  { read, profile := Profile.ofYaml, sites := SiteFile.ofYaml }

end CallSites
