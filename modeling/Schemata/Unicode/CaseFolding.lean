import Schemata.Unicode.Table

/-!
# Simple case folding

Characters that differ in case alone fold to one character, as of version 17 of the Unicode
standard. Folding takes one character to one character.

Results: `mem_caseVariants_self` (a character is a variant of itself).
-/
namespace Schemata.Unicode

/-- The runs of characters that fold to others. -/
def foldingTable : List Shift := Shift.ofLines
  ["cNbYcMeMAchQLbScMYMcMbObVCbYFCHPCRbTCbUAjHBFCGAuPCAqEBDCEApWBACCCpUCACDAgCBApOBApQBACCApUBApYC",
   "AqGBAqCBACDAevxYBAqGBAqKCAqMBFCGAqUBACCAqUDACCAqUBACCCqSCDCEAqWBACEACIAEBACCAEBACCAEBRCTRCTAEB",
   "DCEAhLBAeHBbNCbOAjZCRCYAbfyKBACCAmNBAbfyEDACCAoZBAfIBAfMBJCbEAevhEiRAiYbRDCGACJAiYHAcYCEcWEAeY",
   "CCeWCAvkOBbGcMSQcMNAvjISACNAQBAcHBAbXEAbDBAbRCXCYAeDBAdRDAePBAeXCACCANBACDEjZDbEgEQcKcMdCbHCbQ",
   "cBCcCAbEBNCPdRCdTcWdSeiPcWvmUbNAvmUGAvmUbbVgCekzOdCKQdgIAskPBAskNBAsjVBCsjRCAsjTBAsjFBAshJBAea",
   "iWBACHdGixJbTEixJmLfTCfZAeLDAwnTCdRCeAOPQKPQOPQOPQKPRHPPOPbGOPQOPQOPQCPCCfRCARCAvfTKGgPEARMCPC",
   "ChROCPCCiPCANMCjVCCjRCARlMAwgFEAyuVBAylNHAcEbUbEbGbJACbfNbYcActUdQdSdSACCAbfuJBAlhJBAbftDDFCGA",
   "bfxFBAbfuVBAbfxLBAbfxJCACDACJCbfzXCdVCeDDCHACbtyKbTCcMbBCgGNCQcJCcTDCEAeanVBJCNACCAevcHDDCGTCU",
   "AeveLBAevfHBAeveZBAeveFBAeveLCAevaPBAevcLBAevaVBActKBPCQAdRBAeveJBAearVBDCFPCbPACbflWACboMbYcM",
   "bvZdAdCgUcSdChKbLdABJdAMNdAQFdAIAdAcqDdWeYiAbQcMehKcKcMbglCcKcMdSbWcCbuiYcOcQ"]

/-- What a code point folds to. -/
def fold (n : Nat) : Nat := (foldingTable.findSome? (·.moved? n)).getD n

/-- The code points that fold to the same one as the given one does, itself first. -/
def caseVariants (n : Nat) : List Nat :=
  let target := fold n
  n :: target :: foldingTable.filterMap (·.source? target)

theorem mem_caseVariants_self (n : Nat) : n ∈ caseVariants n := by simp [caseVariants]

end Schemata.Unicode
