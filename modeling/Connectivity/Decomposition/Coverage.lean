import Std.Data.TreeMap
import Connectivity.Request.Basic

/-!
# Coverage of a request

A decomposition is to cover its request: every requested sip occurs once among the callers'
endpoints of all sub-requests, and no sub-request is without endpoints. The check counts the sips
that occur. It does not ask whether they were requested, so any other sip may occur once as well.
-/
namespace Connectivity

/-- Why a decomposition does not cover a request. -/
inductive CoverageGap where
  | count (sip : SipId) (found : Nat)
  | emptySubRequest (node : NodeId)
  deriving DecidableEq, Repr

def CoverageGap.message : CoverageGap → String
  | count sip found =>
      "Endpoint " ++ sip ++ " appears " ++ toString found ++ " times in decomposition"
  | emptySubRequest node => "Sub-request for node " ++ node ++ " has no endpoints"

namespace Coverage

abbrev Counts := Std.TreeMap SipId Nat

/-- All requested sips, none of them found yet. -/
def start (requested : List ServiceEndPoint) : Counts :=
  requested.foldl (fun counts e => counts.insert e.sip 0) ∅

/-- Counts the callers' endpoints of a sub-request that has endpoints. -/
def countIn (counts : Counts) (s : SubRequest) : Except CoverageGap Counts :=
  if s.endpoints.isEmpty then .error (.emptySubRequest s.nodeId)
  else
    .ok ((s.serviceEndpoints.filterMap EndPoint.sip?).foldl
      (fun counts sip => counts.insert sip (counts.getD sip 0 + 1)) counts)

end Coverage

/-- Checks the sub-requests of a request. Of the sips with a wrong count the first is named. -/
def checkCoverage (requested : List ServiceEndPoint) (result : List SubRequest) :
    Except CoverageGap Unit := do
  let counts ← result.foldlM Coverage.countIn (Coverage.start requested)
  match counts.toList.find? fun entry => entry.2 ≠ 1 with
  | some (sip, found) => throw (.count sip found)
  | none => return ()

end Connectivity
