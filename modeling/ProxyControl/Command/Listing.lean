import ProxyControl.Command.Console
import ProxyControl.Profile

/-!
# Listings of profiles

Saved profiles are listed in the order of their servers, without their keys and passwords, as a
table or as an exported list.

## Main definitions

* `ProfileSummary`: a profile without its secrets
* `summaries`: the profiles in the order of the listing
* `tableLines`, `exportText`: the two forms of the listing
-/

set_option autoImplicit false

namespace ProxyControl

/-- A profile without its secrets. -/
structure ProfileSummary where
  server : String
  loc : String
  user : String
  isPartial : Bool
  udpPort : UInt16
  udpTcpFactor : UInt32
  domain : String
  deriving DecidableEq, Repr

/-- A profile without its secrets. -/
def ProfileSummary.ofProfile (p : Profile) : ProfileSummary where
  server := p.serverAddr
  loc := p.localAddr
  user := p.authUser
  isPartial := p.isPartial
  udpPort := p.udpPort
  udpTcpFactor := p.udpTcpFactor
  domain := p.domain

/-- The summaries of profiles in the order of their servers. -/
def summaries (profiles : List Profile) : List ProfileSummary :=
  (profiles.map ProfileSummary.ofProfile).mergeSort fun a b => decide (a.server ≤ b.server)

/-- A row of the table. -/
def tableRow (server loc isPartial udp factor domain : String) : String :=
  padRight 28 server ++ " " ++ padRight 22 loc ++ " " ++ padRight 8 isPartial ++ " " ++
    padLeft 6 udp ++ " " ++ padLeft 4 factor ++ "  " ++ domain

/-- The listing as a table. -/
def tableLines (rows : List ProfileSummary) : List String :=
  if rows.isEmpty then ["No saved profiles."]
  else
    tableRow "SERVER" "LOCAL" "PARTIAL" "UDP" "UOT" "DOMAIN" ::
      rows.map fun r =>
        tableRow r.server r.loc (toString r.isPartial) (toString r.udpPort.toNat)
          (toString r.udpTcpFactor.toNat) r.domain

/-- The named values of a summary, in their written form. -/
def ProfileSummary.fields (r : ProfileSummary) : List (String × String) :=
  [("server", jsonString r.server), ("local", jsonString r.loc), ("user", jsonString r.user),
    ("partial", toString r.isPartial), ("udp_port", toString r.udpPort.toNat),
    ("udp_tcp_factor", toString r.udpTcpFactor.toNat), ("domain", jsonString r.domain)]

/-- Lines with a comma after each but the last. -/
def withCommas : List String → List String
  | [] => []
  | [l] => [l]
  | l :: rest => (l ++ ",") :: withCommas rest

/-- One summary in an exported list. -/
def ProfileSummary.exportText (r : ProfileSummary) : String :=
  "\n".intercalate
    (["  \x7b"] ++ withCommas (r.fields.map fun f => "    " ++ jsonString f.1 ++ ": " ++ f.2) ++
      ["  \x7d"])

/-- The listing as an exported list. -/
def exportText (rows : List ProfileSummary) : String :=
  if rows.isEmpty then "[]"
  else "\n".intercalate (["["] ++ withCommas (rows.map ProfileSummary.exportText) ++ ["]"])

end ProxyControl
