import CapsuleKit.Compile.Result

/-!
# Summaries

The totals over the results of several platforms. A summary is successful if no platform failed.
-/

namespace CapsuleKit

structure Summary where
  success : Bool
  platforms : List String
  failed : List String
  fileCount : Int
  totalSize : Int
  errorCount : Nat
  warningCount : Nat
  deriving DecidableEq

namespace Summary

/-- The number of diagnostics in a list that may be absent. -/
def count (ds : Option (List Diagnostic)) : Nat :=
  (ds.getD []).length

def ofResults (results : List (String × CompileResult)) : Summary where
  success := results.all (·.2.success)
  platforms := results.map (·.1)
  failed := (results.filter (!·.2.success)).map (·.1)
  fileCount := (results.map (·.2.stats.fileCount)).foldl (· + ·) 0
  totalSize := (results.map (·.2.stats.totalSize)).foldl (· + ·) 0
  errorCount := (results.map (count ·.2.errors)).foldl (· + ·) 0
  warningCount := (results.map (count ·.2.warnings)).foldl (· + ·) 0

def toValue (s : Summary) : Value :=
  .object [("success", .bool s.success), ("platforms", .ofTexts s.platforms),
    ("failed", .ofTexts s.failed), ("fileCount", .int s.fileCount), ("totalSize", .int s.totalSize),
    ("errorCount", .int s.errorCount), ("warningCount", .int s.warningCount)]

end Summary

end CapsuleKit
