import Schemata.Unicode.Table

/-!
# Joining types

In scripts such as Arabic the letters of a word are joined. The joining type of a character says on
which of its sides that happens. The table is as of version 17 of the Unicode standard.

Results: `JoiningType.mem_order` (the table can name every type).
-/
namespace Schemata.Unicode

/-- How a character joins its neighbours. -/
inductive JoiningType where
  /-- Joins nothing. -/
  | nonJoining
  /-- Is passed over. -/
  | transparent
  /-- Joins on both sides. -/
  | dual
  /-- Joins what stands before it in the text. -/
  | right
  /-- Joins what follows it in the text. -/
  | left
  /-- Makes others join. -/
  | causing
  deriving DecidableEq, Repr, Inhabited

namespace JoiningType

/-- The types in the order of their numbers in the table. -/
def order : List JoiningType := [.nonJoining, .transparent, .dual, .right, .left, .causing]

theorem mem_order (j : JoiningType) : j ∈ order := by cases j <;> simp [order]

/-- The lengths of runs of code points, and the numbers of their types. -/
def table : List (Nat × Nat) := pairs (numbers
  ["gRABBwWAeIBkPAHBkDAbTBBABBBACBBACBBABBcUALBBABBDABCBAEDBCBDBCBDFCEDNCBFHCBDCCVBOACCBBDDBADDQCS",
   "DbMCBDCCJDBCBDBCBDCCCDBABDHBCAGBCACBBAEBCDKADCCABCPABBBDBBDCFDECBDJCBDBCBDBCBDCCBDbBBCABDLCDDP",
   "CCDECBDBCCDDCCDGCbMALBZAbHCJBGABFCABBYAEBBAJBBADBBAFBSABDFCCDBCBDKCBDBCDDDBEABCBAECBABDBCCDFAT",
   "DDFBCCAFCBDBCHAJBKCDDBABDCCCDGCBDPCBAYBBAbGBcDABBBABBEAIBEABBDAHBKACBbDABBcGABBEAEBIABBUACBbAA",
   "BBCACBcFABBEACBEACBCADBDABBbEACBDABBLACBcFABBEAFBBACBEABBUACBWAGBBABBcGABBCABBBAEBIABBHACBLACB",
   "bEABBcJABBMABBbYABBDABBcDABBBADBFADBBAEBHACBLACBbDABBcGABBCABBGABBFACBUACBbCACBcFACBEAEBIABBUA",
   "CBbDABBcUABBHADBBABBdMABBCAHBMAIBdUABBCAJBLAHBcVACBbBABBBABBBABBcDAOBBAFBBACBFALBBAbKBJABBdYAE",
   "BBAGBBACBCACBZACBEADBQAEBNABBCACBGABBPABBbbBADBbkKADBbDACBbEACBbEACBcMACBBAHBIABBCALBJABBbPABC",
   "CABFDBBABBQAdLCMACBbICBBBCeNADBEACBJABBGADBiLACBCABBcGABBBAHBBABBBABBCAIBGAKBCABBbWAbUBCAMBUAE",
   "BbWABBBAFBBABBFABBbOAJBMACBbGAEBCACBBADBcEABBBACBDABBBADBcGAIBCACBfWADBBANBBAHBEABBGABBDACBhQA",
   "cMBuDABBBABFCBbAAFBbXAFBFAGBdSAbHBeoCADBfLABBdSAbGBvIAEBeDACBbsqEAEBBAKBbGACBdCACBkMABBDABBEAB",
   "BZACBFABBTAbYCBEdDACBbAASBNABBbMAIBZALBbUADBbWABBCAEBCACBbNABBcPAGBCACBCACBMABBIABBbVABBbZABBB",
   "ADBCACBFACBBABBbQACBIABBjEABBCABBEABBbdzSABBbcJAQBQAQBhZABBjPADBtTABBiSABBfTAFBcmGADBBACBFAEBb",
   "OADBEABBeYAFCBDBABDBACDCABEFDECBEFCBDDCBDCABDCBEAECBDfOABCBDBCDDDCBDCCBDBCCDBCBDXAEDCCmZABEbHC",
   "BDBCEBcNAFBmFACBVABDCCBACCbYAGBbWADCBDRCBALBDCBDbBAECCDMCEBbQABCBACCDDBABCCDCCBDCCBABCCDBCEABD",
   "BCBEcBABBcCAPBbPABBCACBKADBbXAEBCACBHABBcJADBbKAFBBAIBcKABBMACBcAAJBKAEBCABBdRADBCABBBACBGABBC",
   "ABBgBABBDAIBVACBcFACBDABBbLAHBDAFBcSAGBNABBBABBBABBOACBdHAIBCADBBABBXABBdGAGBBABBEACBBACBjEAEB",
   "GACBBACBbBACBdHAIBCABBBACBeCABBBABBCAGBBABBdXABBBABBCAEBBAFBjZAJBBACBjWACBBABBEABBfOAEBCACBEAB",
   "BbGAKBbOAGBCAEBIABBJAGBCADBbUANBBACBhQABBBADBBABBhTAHBBAGBBABBdEAWBCAHBBACBBACBeSAGBDABBBACBBA",
   "HBBABBcUACBDABBBABBnJACBLACBcAAFBFABBBABBXABBhxDARBGAPBqyYAMBDADBdsAAFBcHAHBboIABBcLAEBdDABBbd",
   "bKACBBAEBgyUAbUBCAXBuYADBJAQBCAHBbEAEBfSADBcyDAcDBEAbYBIABBOABBWAFBBAPBcaIAHBBARBCAHBBACBBAFBd",
   "WABBgEAHBoLABBcJAEBtOAEBjUACBjJABBCABBHACBFABBsGAHBbPAcQCIBbtbyZABBbEAdSBeYAjGB"])

/-- The joining type of a code point. -/
def of (n : Nat) : JoiningType :=
  ((labelAt table n).bind (order[·]?)).getD .nonJoining

end JoiningType
end Schemata.Unicode
