import KidsListing.SelfCheck.Report

/-!
# The command line

Runs the self-check of the service's own endpoints, prints the report and exits
with its code.  No check asks the provider, which counts as unreachable.
-/

open KidsListing in
def main : IO UInt32 := do
  let catalogue := Catalogue.ofProvider {} fun _ => .unreachable ""
  let report := SelfCheck.report catalogue (SelfCheck.Endpoints.of Channels.builtIn {})
  IO.print report.text
  return UInt32.ofNat report.exitCode
