import Schemata.Unicode.Table

/-!
# Canonical decomposition

Some characters are equivalent to a sequence of others: a letter with its marks, another character,
or the consonants and the vowel of a Hangul syllable. Marks have combining classes, and those of
different classes may change places. The tables are as of version 17 of the Unicode standard.
-/
namespace Schemata.Unicode

/-- The lengths of runs of code points, and their combining classes. -/
def combiningClassTable : List (Nat × Nat) := pairs (numbers
  ["bdOAViWBiYEiMBiYBiIFiMChUEiMChULiMFBEiMIiWBjGBiWDiMDiWCiMBADiWEiMBiWBiYCiMBiWBiZCjABiZCjABiZNi",
   "WkPAFiWkFABiMEiWBiMDiWBiOBiMGiWGiMCiWBiMCiWBiOBiUBiWBKBLBMBNBOBPBQBRBSCTBUBVBWBABXBABYBZBABiWB",
   "iMBABScUAIiWBbEBbFBbGbWABbBBbCBbDBbEBbFBbGBbHBbICiWCiMFiWBiMCiWBiMQABbJdXAHiWCAEiWBiMBiWCACiWB",
   "ABiMCiWBiMbJABbKbEABiWBiMCiWBiMCiWDiMBiWCiMBiWBiMDiWBiMBiWBiMBiWBiMBiWBiMCiWgEAHiWBiMBiWJABiMY",
   "AEiWBAJiWBADiWBAFiWbRADiMcHACiWDiMEiWbQAFiWFiMOiWBABiMCiWBiMCiWBiMDiWDiMBbBBbCBbDDiWBiMCiWCiMF",
   "iWcIABHQABJDABiWBiMCiWdZABHQABJbWABiWcJABHQABJeGABHQABJeGABHQABJeXABJeGABHQABJHABdGBdNdXABHQAB",
   "JeFACJQABJeUABJeFACdZBJNAEeDeEACeOBJNAEeScYACiMbBABiMBABiMBABiIcDABeZBfABABfCFAEfACABfABACiWBJ",
   "BACiWcKABiMeIABHBACJdEABiMbbRADiWbkMACJbEABJgBABJKABiWhVABiUfNABiOBiWBiMiLABiWBiMcTABJUAIiWCAB",
   "iMbWAFiWGiMCiWBiMBACiMCiWCiMFiWBiMSiWBiMCAGiWBiMEiWBjAcUABHPABJbMABiWBiMHiWcCACJcGABHLACJcPABH",
   "fWADiWBABBFiMCiWEiMBiWBAHBEABiMGABiWDACiWhQACiWBiMHiWBiMCiWBjABiGBiMBhUbLiWBiYCiUBiMBiKBiWBiZB",
   "iMBiWBiMbbSACiWCBEiWDBCiWEABiWDACBBiWBiMBiWCBEiMBiWeoCADiWfLABJdSAbGiWvIABiKBiUBiYBiOCiQeBACIb",
   "sqEABiWEAKiWbGACiWdCACiWkQABJbLABJfVABJbBASiWcFADiMbLABJdRABHMABJjFABiWBACiWBiMCACiWFACiWBABiW",
   "cAABJjMABJbdzSABbAbdPAHiWHiMCiWblLABiMiSABiMfTAFiWcmSABiMBABiWbOABiWBBBiMEABJgJABiWBiMwBAEiWcN",
   "AFiWmFACiWcZACiMBADiMcSACiMDiWBiMBiWEiMbXABiWBiMBiWBiMhKABJbPABJOABJcFABJBHcRADiWbWACJcKABHcYA",
   "BJJABHeCABJBHgWABHBJdCACHQABJYAHiWDAFiWdLADJeJABJDABHXABiWdVABJBHjRABJBHeWABJeOABJBHeLABJkJABJ",
   "BHjYACJEABHgAABJdFABJSABJdDABJqFABJjYABHBACJdDABJqJACJyzCABJdsAAFBcHAHiWbuNACGbdaYABBhwOACiIDB",
   "DABiSFiIIAIiMCAFiWCiMbEAEiWfSADiWffFAHiWBARiWCAHiWBACiWBAFiWdWABiWgEAHiWoLABiWcJAEiWtOACiYBiMB",
   "iWjUABiWBiMjJABiWCABiWHACiWFABiWsGAHiMeFAGiWBH"])

/-- The combining class of a code point, which is zero for what is no mark. -/
def combiningClass (n : Nat) : Nat := (labelAt combiningClassTable n).getD 0

/-! ## Composites -/

/-- A code point that is equivalent to two others. -/
structure Composite where
  /-- The composite. -/
  whole : Nat
  /-- The first part. -/
  first : Nat
  /-- The second part, which is not a composite. -/
  second : Nat
  deriving DecidableEq, Repr, Inhabited

/-- The composites that numbers stand for: the distance from the composite before, and the parts. -/
def Composite.ofNumbers (before : Nat) : List Nat → List Composite
  | distance :: first :: second :: rest =>
    ⟨before + distance, first, second⟩ :: Composite.ofNumbers (before + distance) rest
  | _ => []

/-- The pairs of code points that are put together. -/
def composites : List Composite := Composite.ofNumbers 0 (numbers
  ["hKcNbdOBcNbdPBcNbdQBcNbdRBcNbdWBcNbdYCcPbfBBcRbdOBcRbdPBcRbdQBcRbdWBcVbdOBcVbdPBcVbdQBcVbdWCdA",
   "bdRBdBbdOBdBbdPBdBbdQBdBbdRBdBbdWDdHbdOBdHbdPBdHbdQBdHbdWBdLbdPDdTbdOBdTbdPBdTbdQBdTbdRBdTbdWB",
   "dTbdYCdVbfBBdXbdOBdXbdPBdXbdQBdXbdWBeBbdOBeBbdPBeBbdQBeBbdWCeGbdRBeHbdOBeHbdPBeHbdQBeHbdRBeHbd",
   "WDeNbdOBeNbdPBeNbdQBeNbdWBeRbdPCeRbdWBcNbdSBdTbdSBcNbdUBdTbdUBcNbfCBdTbfCBcPbdPBdVbdPBcPbdQBdV",
   "bdQBcPbdVBdVbdVBcPbeABdVbeABcQbeABdWbeADcRbdSBdXbdSBcRbdUBdXbdUBcRbdVBdXbdVBcRbfCBdXbfCBcRbeAB",
   "dXbeABcTbdQBdZbdQBcTbdUBdZbdUBcTbdVBdZbdVBcTbfBBdZbfBBcUbdQBeAbdQDcVbdRBeBbdRBcVbdSBeBbdSBcVbd",
   "UBeBbdUBcVbfCBeBbfCBcVbdVEcWbdQBeCbdQBcXbfBBeDbfBCcYbdPBeEbdPBcYbfBBeEbfBBcYbeABeEbeAFdAbdPBeG",
   "bdPBdAbfBBeGbfBBdAbeABeGbeAEdBbdSBeHbdSBdBbdUBeHbdUBdBbdZBeHbdZDdEbdPBeKbdPBdEbfBBeKbfBBdEbeAB",
   "eKbeABdFbdPBeLbdPBdFbdQBeLbdQBdFbfBBeLbfBBdFbeABeLbeABdGbfBBeMbfBBdGbeABeMbeADdHbdRBeNbdRBdHbd",
   "SBeNbdSBdHbdUBeNbdUBdHbdYBeNbdYBdHbdZBeNbdZBdHbfCBeNbfCBdJbdQBePbdQBdLbdQBeRbdQBdLbdWBdMbdPBeS",
   "bdPBdMbdVBeSbdVBdMbeABeSbeAbIdBbePBeHbePOdHbePBeNbePbDcNbeABdTbeABcVbeABeBbeABdBbeABeHbeABdHbe",
   "ABeNbeABiMbdSBjSbdSBiMbdPBjSbdPBiMbeABjSbeABiMbdOBjSbdOChObdSBiUbdSBvEbdSBvFbdSBhQbdSBiWbdSDcT",
   "beABdZbeABcXbeABeDbeABdBbfCBeHbfCBsWbdSBsXbdSBqXbeABzIbeABeCbeAEcTbdPBdZbdPDdAbdOBeGbdOBhPbdPB",
   "iVbdPBhQbdPBiWbdPBiIbdPBjObdPBcNbeDBdTbeDBcNbeFBdTbeFBcRbeDBdXbeDBcRbeFBdXbeFBcVbeDBeBbeDBcVbe",
   "FBeBbeFBdBbeDBeHbeDBdBbeFBeHbeFBdEbeDBeKbeDBdEbeFBeKbeFBdHbeDBeNbeDBdHbeFBeNbeFBdFbfABeLbfABdG",
   "bfABeMbfADcUbeABeAbeAHcNbdVBdTbdVBcRbfBBdXbfBBiGbdSBjMbdSBiFbdSBjLbdSBdBbdVBeHbdVBvMbdSBvNbdSB",
   "dLbdSBeRbdSnAgMbdPBbjDbdPCbjHbdPBbjJbdPBbjLbdPCbjRbdPCbjXbdPBbkBbdPBblIbdPbAbjLbdWBbjXbdWBbkJb",
   "dPBbkNbdPBbkPbdPBbkRbdPBblJbdPbAbkRbdWBblDbdWBbkXbdPBblDbdPBblHbdPFblQbdPBblQbdWbSboFbdOBboFbd",
   "WCboDbdPEbnQbdWFboKbdPBboIbdOBboTbdULboIbdUbGbpObdUXbpLbdOBbpLbdWCbpJbdPEbqSbdWFbpQbdPBbpObdOB",
   "bpZbdUYbrWbeDBbrXbeDcWboGbdUBbpMbdUOboAbdUBbpGbdUBboAbdWBbpGbdWDboFbdUBbpLbdUDbvSbdWBbvTbdWBbo",
   "GbdWBbpMbdWBboHbdWBbpNbdWDboIbdSBbpObdSBboIbdWBbpObdWBboObdWBbpUbdWDbwIbdWBbwJbdWBbpDbdWBbqJbd",
   "WBboTbdSBbpZbdSBboTbdWBbpZbdWBboTbdZBbpZbdZBboXbdWBbqDbdWDbpBbdWBbqHbdWlLciPckHBciPckIBcjWckIB",
   "ciPckJBcjYckIfYcpHckICcoNckIRcpEckIxAdmEdmYIdmMdmYDdmPdmYfVdsHdrYBdsHdsXoQehBehQDehBegSBehBehR",
   "cUejYemPcCelYelQBelZelQBelYemPeUeqWerMeQevNewJHevUewJBevUewKCevUevQBevYewJeXfaSfaKBfaTfaKBfaSf",
   "bJfMfgJffUCfgJffZBfgMffUBfgJfgPwMgcZgdIedCkgBkhXCkgDkhXCkgFkhXCkgHkhXCkgJkhXEkgNkhXbPkiCkhXCki",
   "EkhXDkiGkhXBkiHkhXCkiKkhXbaZcNbeZBdTbeZBcObdVBdUbdVBcObeXBdUbeXBcObfLBdUbfLBhRbdPBiXbdPBcQbdVB",
   "dWbdVBcQbeXBdWbeXBcQbfLBdWbfLBcQbfBBdWbfBBcQbfHBdWbfHBkObdOBkPbdOBkObdPBkPbdPBcRbfHBdXbfHBcRbf",
   "KBdXbfKBvGbdUBvHbdUBcSbdVBdYbdVBcTbdSBdZbdSBcUbdVBeAbdVBcUbeXBeAbeXBcUbdWBeAbdWBcUbfBBeAbfBBcU",
   "bfIBeAbfIBcVbfKBeBbfKBhZbdPBjFbdPBcXbdPBeDbdPBcXbeXBeDbeXBcXbfLBeDbfLBcYbeXBeEbeXBllMbdSBllNbd",
   "SBcYbfLBeEbfLBcYbfHBeEbfHBcZbdPBeFbdPBcZbdVBeFbdVBcZbeXBeFbeXBdAbdVBeGbdVBdAbeXBeGbeXBdAbfLBeG",
   "bfLBdAbfHBeGbfHBiFbdPBjLbdPBiFbdWBjLbdWBmUbdOBmVbdOBmUbdPBmVbdPBdCbdPBeIbdPBdCbdVBeIbdVBdEbdVB",
   "eKbdVBdEbeXBeKbeXBlmWbdSBlmXbdSBdEbfLBeKbfLBdFbdVBeLbdVBdFbeXBeLbeXBnIbdVBnJbdVBnObdVBnPbdVBln",
   "EbdVBlnFbdVBdGbdVBeMbdVBdGbeXBeMbeXBdGbfLBeMbfLBdGbfHBeMbfHBdHbeYBeNbeYBdHbfKBeNbfKBdHbfHBeNbf",
   "HBnWbdPBnXbdPBnYbdWBnZbdWBdIbdRBeObdRBdIbeXBeObeXBdJbdOBePbdOBdJbdPBePbdPBdJbdWBePbdWBdJbdVBeP",
   "bdVBdJbeXBePbeXBdKbdVBeQbdVBdKbdWBeQbdWBdLbdVBeRbdVBdMbdQBeSbdQBdMbeXBeSbeXBdMbfLBeSbfLBeAbfLB",
   "eMbdWBePbdYBeRbdYCoTbdVFcNbeXBdTbeXBcNbdXBdTbdXBhMbdPBiSbdPBhMbdOBiSbdOBhMbdXBiSbdXBhMbdRBiSbd",
   "RBlpObdQBlpPbdQBjYbdPBjZbdPBjYbdOBjZbdOBjYbdXBjZbdXBjYbdRBjZbdRBlpObdUBlpPbdUBcRbeXBdXbeXBcRbd",
   "XBdXbdXBcRbdRBdXbdRBhUbdPBjAbdPBhUbdOBjAbdOBhUbdXBjAbdXBhUbdRBjAbdRBlqMbdQBlqNbdQBcVbdXBeBbdXB",
   "cVbeXBeBbeXBdBbeXBeHbeXBdBbdXBeHbdXBiEbdPBjKbdPBiEbdOBjKbdOBiEbdXBjKbdXBiEbdRBjKbdRBlrGbdQBlrH",
   "bdQBqAbdPBqBbdPBqAbdOBqBbdOBqAbdXBqBbdXBqAbdRBqBbdRBqAbeXBqBbeXBdHbeXBeNbeXBdHbdXBeNbdXBqPbdPB",
   "qQbdPBqPbdOBqQbdOBqPbdXBqQbdXBqPbdRBqQbdRBqPbeXBqQbeXBdLbdOBeRbdOBdLbeXBeRbeXBdLbdXBeRbdXBdLbd",
   "RBeRbdRHbkJbeHBbkJbeIBltGbdOBltHbdOBltGbdPBltHbdPBltGbgCBltHbgCBbjDbeHBbjDbeIBltObdOBltPbdOBlt",
   "ObdPBltPbdPBltObgCBltPbgCBbkNbeHBbkNbeIBltWbdOBltXbdOBltWbdPBltXbdPDbjHbeHBbjHbeIBluEbdOBluFbd",
   "OBluEbdPBluFbdPDbkPbeHBbkPbeIBluMbdOBluNbdOBluMbdPBluNbdPBluMbgCBluNbgCBbjJbeHBbjJbeIBluUbdOBl",
   "uVbdOBluUbdPBluVbdPBluUbgCBluVbgCBbkRbeHBbkRbeIBlvCbdOBlvDbdOBlvCbdPBlvDbdPBlvCbgCBlvDbgCBbjLb",
   "eHBbjLbeIBlvKbdOBlvLbdOBlvKbdPBlvLbdPBlvKbgCBlvLbgCBbkXbeHBbkXbeIBlvSbdOBlvTbdOBlvSbdPBlvTbdPD",
   "bjRbeHBbjRbeIBlwAbdOBlwBbdOBlwAbdPBlwBbdPDblDbeHBblDbeIBlwIbdOBlwJbdOBlwIbdPBlwJbdPBlwIbgCBlwJ",
   "bgCCbjXbeIClwRbdOClwRbdPClwRbgCBblHbeHBblHbeIBlwYbdOBlwZbdOBlwYbdPBlwZbdPBlwYbgCBlwZbgCBbkBbeH",
   "BbkBbeIBlxGbdOBlxHbdOBlxGbdPBlxHbdPBlxGbgCBlxHbgCBbkJbdOCbkNbdOCbkPbdOCbkRbdOCbkXbdOCblDbdOCbl",
   "HbdOEltGbgFBltHbgFBltIbgFBltJbgFBltKbgFBltLbgFBltMbgFBltNbgFBltObgFBltPbgFBltQbgFBltRbgFBltSbg",
   "FBltTbgFBltUbgFBltVbgFBluMbgFBluNbgFBluObgFBluPbgFBluQbgFBluRbgFBluSbgFBluTbgFBluUbgFBluVbgFBl",
   "uWbgFBluXbgFBluYbgFBluZbgFBlvAbgFBlvBbgFBlwYbgFBlwZbgFBlxAbgFBlxBbgFBlxCbgFBlxDbgFBlxEbgFBlxFb",
   "gFBlxGbgFBlxHbgFBlxIbgFBlxJbgFBlxKbgFBlxLbgFBlxMbgFBlxNbgFBbkJbdUBbkJbdSBlxObgFBbkJbgFBbkEbgFC",
   "bkJbgCBmaGbgFBbjDbdUBbjDbdSBbjDbdOCbjDbgFFgMbgCBlxSbgFBbkPbgFBbkGbgFCbkPbgCBmaWbgFBbjHbdOCbjJb",
   "dOCbjJbgFBmaPbdOBmaPbdPBmaPbgCBbkRbdUBbkRbdSBblIbdOEbkRbgCBblIbgCBbjLbdUBbjLbdSBbjLbdODmdAbdOB",
   "mdAbdPBmdAbgCBblDbdUBblDbdSBblJbdOCbkZbeHBbkZbeIBblDbgCBblJbgCBbjXbdUBbjXbdSBbjXbdOCbjTbeIBgMb",
   "dOFlyAbgFBblHbgFBblMbgFCblHbgCBmcSbgFBbjRbdOCbkBbdOCbkBbgFpYmsMbfSBmsObfSTmsQbfSbFmuYbfSBmvCbf",
   "SBmvAbfScBmwXbfSFmxCbfSDmxFbfSYmyDbfSCmyFbfSbBmzCbfSDmzJbfSDmzLbfSCmzObfSXcJbfSCnaNbfSLmzTbfSB",
   "cIbfSBcKbfSBnaQbfSBnaRbfSDnbEbfSBnbFbfSDnbIbfSBnbJbfSHnbMbfSBnbNbfSDnbUbfSBnbVbfSDnbYbfSBnbZbf",
   "SbJndAbfSBndGbfSBndHbfSBndJbfSbXnbObfSBnbPbfSBncJbfSBncKbfSHndQbfSBndRbfSBndSbfSBndTbfSfbRshNs",
   "kNCshPskNCshRskNCshTskNCshVskNCshXskNCshZskNCsiBskNCsiDskNCsiFskNCsiHskNCsiJskNDsiMskNCsiOskNC",
   "siQskNHsiXskNBsiXskOCsjAskNBsjAskOCsjDskNBsjDskOCsjGskNBsjGskOCsjJskNBsjJskOXshIskNKskRskNOslF",
   "skNCslHskNCslJskNCslLskNCslNskNCslPskNCslRskNCslTskNCslVskNCslXskNCslZskNCsmBskNDsmEskNCsmGskN",
   "CsmIskNHsmPskNBsmPskOCsmSskNBsmSskOCsmVskNBsmVskOCsmYskNBsmYskOCsnBskNBsnBskOXslAskNDsnVskNBsn",
   "WskNBsnXskNBsnYskNEsoJskNdcpFdvdYbdVbBdveGbdVebMdzgBdzhICdzgDdzhIPdzgNdzhIfBdzlXdzlNBdzlYdzlNu",
   "UeagLeagCBeagLeahBcDeaiSealLCeaiUeakXJeajBealEDeajGealLcAealEealECealEeakUBealEealLjJeauReauSB",
   "eauReauICeauReauVjSebeMebeDBebeNebeDbiJecmVecmQbbgBfdsWfdsWBfdsWfdtHBfdsWfdsXBfdtHfdsXBfdsWfds",
   "YBfdsZfdsXBfdtAfdsXBfdsZfdsYeqQfijVfijVBfijRfijVBfijXfijV"])

/-- Code points that are taken apart, but never put together, with all of their parts. -/
def exclusions : List (Nat × List Nat) := sequences 0 (numbers
  ["bgABbdOBBbdPCBbeHBCbdWbdPbWBbaVKBcHJBhBcfHCdlLdmYBCdlMdmYBCdlNdmYBCdlSdmYBCdlXdmYBCdlYdmYBCdmH",
   "dmYBCdmLdmYeVCdqVdrWBCdqWdrWCCdrJdrWdGCdwKdwUDCdwQdwUbJCdvIdwUBCdvJdwUBCdvOdwUDCdwDdwUjUCefPeg",
   "QBCefQegQbmKCfuGfyTKCfuQfyTFCfuVfyTFCfvAfyTFCfvFfyTNCfuEfyRKCfwBfwCCCfwBfwEBCfyOfwQCCfyPfwQJCf",
   "wBfwQSCfxIfyTKCfxSfyTFCfxXfyTFCfyCfyTFCfyHfyTNCfxGfyRfyUCbkJbdPCCbkNbdPCCbkPbdPCCbkRbdPCCbkXbd",
   "PCCblDbdPCCblHbdPcKCbjDbdPDBbkRLCbjHbdPCCbjJbdPIDbkRbdWbdPICbjLbdPIDblDbdWbdPICbjXbdPDCgMbdPBB",
   "dSKCbjRbdPCCbkBbdPCBgYDBmdEBBmdFlHBbkBEBcXBCcNbdYtQBseYBBseZcxUCqgBbfSdabSBcbdGBBbmzSBBccbYBBc",
   "biEBBbpzDBBbdpYBBbfuBBBcilOBBcilOBBbhvLBBcdfTBBbgkDBBbhvCBBblcOBBbsvXBBbwhPBBbyvVBBbzkKBBbzwQB",
   "BcctJBBbodUBBbpiHBBbqtDBBbrwWBBbycBBBcdbUBBcghTBBbdtABBbfpTBBbonSBBbrfNBBbyvDBBchwWBBbjiUBBbqj",
   "ZBBbyrLBBcaaUBBblkRBBbxeMBBbzoHBBbjxIBBbnbBBBbplIBBbroEBBccvUBBbedABBbeyPBBbfjYBBbmeEBBbolVBBb",
   "rfCBBbtaTBBbwmJBBbytQBBbywYBBcbtNBBcfgSBBcgwLBBchvMBBbtqYBBbuaHBBbvoYBBbxxPBBcdrOBBciaPBBcapAB",
   "BbhrBBBbjzOBBbvcQBBbwrEBBbriGBBbttIBBcbhYBBcfeLBBbhqUBBbizQBBboeLBBbppQBBbqbNBBbvkPBBbvuTBBcex",
   "VBBbfjMBBbwrRBBbfaABBbezKBBbugIBBbvqCBBbxzDBBcezLBBcavOBBblkXBBbodUBBcaqOBBbdqFBBbiuXBBbkjYBBb",
   "rtNBBbsmIBBbfmDBBbtvFBBbefFBBbkfXBBbdoNBBbpfGBBbmlCBBbvkCBBbfsTBBbhmCBBbtbTBBbycNBBcanIBBbouSB",
   "BcckUBBbpcQBBblmSBBbxoVBBblsYBBbslXBBbduSBBbevPBBbezHBBbnoZBBbvhVBBbxkHBBcaoWBBcdfRBBbfkVBBbfx",
   "QBBbhwTBBbjyQBBbmoBBBbqkSBBbtxABBcerTBBcgmKBBcibNBBcidQBBbfhJBBbmxYBBbosDBBcchUBBbjuABBbkyQBBb",
   "lcYBBbmcOBBbqcHBBbqxLBBbsdLBBbudEBBbvsEBBbwqPBBccfMBBbyiWBBccpFBBcduGBBbfcHBBbfhRBBbgcJBBbqsMB",
   "BbzuOBBcanIBBbjxHBBbkiVBBblrNBBbouGBBbvbIBBbrsVBBbdwUBBbgyJBBbiuXBBbjmWBBbkkIBBbrvEBBbscFBBbwi",
   "KBBbwpABBcdjOBBcfeKBBcfhOBBcfpOBBbedFBBbucCBBcdeQBBcfcABBbkrXBBbdtEBBbeqCBBbivEBBbiyHBBbmmJBBb",
   "odUBBbrcOBBbsuKBBbyjKBBccsQBBcikZBBbmvOBBcewSBBbfgRBBbneXBBbnjNBBbpjTBBbpxCBBbryNBBbslLBBbtpRB",
   "BbvjKBBcfsGBBbevTBBbleSBBcezOBBbejJBBbjgRBBbpqGBBccfQBBbkeTBBbkvSBBbnkXBBbrtNBBcfaCBBbfcZBBbfv",
   "RBBbizTBBbmrBBBbndEBBbnqMBBbpgFBBbryKBBbsqSBBbwhDBBbzvBBBbzvTBBcdfOBBcfdQBBbfnRBBbpyGBBbfwFBBb",
   "rcQBBbseABBbytEBBcfbFBBchfJBBcibVBBbnfZBBbppBBBbxfCBBbunBBBbuqIBBbveOBBbrlWBBbqqRBBcauABBbdvKB",
   "BbxrYBBbfdQBBbfbRBBbjvYBBbllBBBbvhEBBbirDBBbpiKBBbmxGBBccgHBBbzqABBcexXBBcacHBBbjxRBBbeuABBbgm",
   "IDBbhlYCBbmuUDBbfaCBBbrpYBBbszQBBbtxSBBbtzABBbtzHBBbuaXBBcfiCBBbvgGBBbwjTCBbyuCCBcaqIDBccqABBc",
   "cxPEBcfxVBBcfyIBBcgaABBchsUBBccwKBBcfbZBBbeeOBBbeqPBBbeuNBBbfjDBBbfkEBBbfoJBBbgkZBBbgpABBbgsUB",
   "BbhkYBBbhoYBBbizSBBbjaCBBbkoYBBbkxCBBbkyOBBblcKBBbmjNBBbmpEBBbmvXBBbnpDBBbplVBBbpsCBBbqcGBBbqy",
   "WBBbrgDBBbrzMBBbtrDBBbtxUBBbtyFBBbtyEBBbtyMBBbtySBBbtyZBBbuaVBBbuaWBBbuhSBBbukFBBbuwMBBbvsEBBb",
   "vsZBBbvvDBBbwgWBBbwmNBBbxfHBBbxkRBBbxkRBBbydBBBbzxOBBcacSBBcaqRBBcasVBBcbiPBBcbkQBBcclABBccqAB",
   "BcfdRBBcfoPBBcfqXBBbknTBBilgGBBbxgYDBbdpMBBbeyNBBbevOBBbecUBBbeuFBBbewMBBbfjBBBbflABBbgkZBBbgi",
   "FBBbgkVBBbgnQBBbhlYBBbhpJBBbhuYBBbhvOBBbifYBBbinOBBbjxQBBbjxXBBbkdLBBbkgBBBbkrOBBbkwCBBbktKBBb",
   "kyOBBbkwUBBblcKBBbleYBBbluIBBblxSBBblzUBBbmjUBBbmuUBBbnbBBBbnbFBBbndMBBbosFBBbouSBBbpjTBBbpzNB",
   "BbpyXBBbqcGBBbqlYBBbqyWBBbtiDBBbrgNBBbrlFBBbrpYBBbscNBBbsiGBBbskHBBbssZBBbstBBBbszQBBbtaHBBbtb",
   "GBBbteOBBbteEBBbttKBBbumBBBbuwMBBbvdRBBbvmHBBbvsEBBbweWBBbwmNBBbxtABBbxzBBBbzhXBBbzzLBBcacCBBc",
   "acSBBcaoDBBcaqIBBcaoPBBcaqRBBcaqOBBcapXBBcasVBBcavYBBcbkQBBccgEBBccsGBBcddPBBcdmCBBcezSBBcfdRB",
   "BcfiCBBcfnFBBcfoPBBcfpBBBcfqXBBcgsWBBcilOBBibdYBBibdSBBifnPBBwoZBByhCBByiJBBirbLBBivbCBBjhxZBB",
   "ciiDBBcilAcQCcfPceECCcgOceHLCcgFceRBCcgFceSBDcgFceMceRBDcgFceMceSBCcfGceHBCcfGceIBCcfGceMBCcfH",
   "ceMBCcfIceMBCcfJceMBCcfKceMBCcfLceMBCcfMceMCCcfOceMBCcfPceMBCcfQceMBCcfRceMBCcfSceMCCcfUceMCCc",
   "fWceMBCcfXceMCCcfZceMBCcgAceMCCcgCceMBCcgDceMBCcgEceMBCcgFceMBCcgGceMBCcfLceJBCcfHcePBCcfRcePB",
   "CcgAcePddbSCgufVgugJBCgufWgugJBDgufWgugJgugSBDgufWgugJgugTBDgufWgugJgugUBDgufWgugJgugVBDgufWgu",
   "gJgugWdJCgujPgugJBCgujQgugJBDgujPgugJgugSBDgujQgugJgugSBDgujPgugJgugTBDgujQgugJgugTehlGBbdqJBB",
   "bdqEBBbdqNBBhmiKBBbebOBBbeeOBBbefBBBbehUBBbemKBBbenPBBbeqPBBbepRBBtyCBBhogOBBbeuNBBbeuUBBbevKB",
   "BbewDBBhnvOBBtzDBBbevNBBbewZBBhnxJBBbexJBBbexWBBbdvWBBbeyEBBbeyNBBjpdNBBbfaZBBbfbNBBuaPBBbfdRB",
   "BbfeCBBbffUBBbffZBBucRBBbfjBBBbfjDBBbfkEBBbflABBbflLBBbflMBBbfmDBBbfoBBBbfoJBBbfoSBBbfpRBBbfqB",
   "BBbfqDBBbfqDBBbfqDBBhptKBBbqpCBBbftABBbftVBBhqfJBBbfuHBBbfuNBBbfvIBBbgbEBBbfxGBBbfxWBBbfzCBBbg",
   "bIBBbgeOBBbgfOBBbgiDBBbgiTBBbgkABBbgkABBbgkVBBbglNBBbglVBBbgmKBBbgzMBBbgpABBbgzNBBbgrXBBbgtGBB",
   "bfbRBBbhrQBBbhgOBBbhiABBbhiZBBbhdZBBbhkKBBbhkJBBbhpCBBhtuYBBbhrUBBbhrZBBbhsOBBbhtIBBbhtQBBbhwC",
   "BBhumIBBhuoWBBbibKBBbidFBBbidRBBbiaQBBbigCBBuuWBBuvKBBbimIBBbioKBBbioKBBhvrCBBbitNBBbiuIBBbiuX",
   "BBbivJBBhweABBbivVBBbiwCBBbkcPBBbixEBBvaNBBbizOBBbjaCBBbjdGBBbjbHBBhxfOBBbjiHBBhxfQBBbjjYBBbjj",
   "VBBbjkMBBbjoJBBbjoKBBvhFBBbjpLBBbjrCBBbjrXBBbjtPBBvjEBBhypFBBvkEBBbjwIBBbjwLBBbjwOBBbjxIBBjvvU",
   "BBbjzIBBhzfTBBhzfTBBbxgBBBbkaSBBbkaSBBvnBBBifcQBBiwySBBbkdEBBbkdNBBvoDBBbkfIBBbkhHBBbkhRBBbkiZ",
   "BBbkoFBBvrMBBvqIBBbkoYBBiapOBBbkqXBBbkvWBBbkwABBbkwCBBbkwABBbkxUBBbkyOBBbkzYBBbkzKBBbkzVBBblbQ",
   "BBblcKBBblcOBBbldOBBbldZBBblgNBBbljTBBbllCBBblpWBBicfCBBblpDBBblmQBBblqUBBblrVBBblvOBBicnXBBbl",
   "xYBBbluJBBbltHBBwaWBBbmaRBBbmbMBBbmcRBBbmbFBBwdGBBbmjNBBbmkQBBiecGBBbmpFBBbmzWBBbmtDBBwjXBBbmv",
   "XBBwjGBBwhWBBbexEBBbexHBBbnaEBBbmwIBBbwsZBBzsBBBbnbBBBbnbFBBbnbLBBbndUBBbndJBBifmXBBwlTBBbnjUB",
   "BbnfHBBbnnEBBbnpDBBiftLBBbnpMBBbnlFBBbnuQBBwoZBBbnwKBBboaDBBbocWBBbokEBBigpFBBbomDBBwtSBBbooVB",
   "BihjBBBboqUBBwvUBBborYBBbotRBBbouSBBbouTBBiibTBBhwxFBBiifYBBbpaKBBiixGBBbpeTBBbpfHBBbpbJBBbpiC",
   "BBbpjQBBbplVBBbpjTBBbplHBBbplWBBbpmJBBijbABBbpjGBBbpsXBBbpvIBBxePBBbpyXBBbpyTBBijrTBBbpqVBBbqf",
   "EBBijxEBBijzABBbqiOBBbqmZBBbqlYBBbqlVBBxiKBBbqnQBBbqpPBBbqpJBBbqrLBBhnvXBBbqxHBBilaXBBbraQBBil",
   "nNBBbrgABBbrgNBBbrhOBBimkUBBbrjKBBbrkFBBimwJBBineYBBbrtABBbrtRBBxtCBBbruRBBxtOBBxtOBBbsaXBBbsb",
   "SBBbscNBBbsdHBBbsfYBBxxJBBbsjKBBiotQBBbskKBBioxEBBbsmIBBhyqHBBbssMBBiqbHBBiqcEBBiqhOBBygABBygM",
   "BBbtbGBBiqoHBBiqoGBBiqpTBBiqqTBBbtcWBBbtcXBBbtcXBBbteOBByiJBBbthBBByiWBBylYBBirtLBBbtoOBBbtqYB",
   "BbttKBByoXBBisnMBBbtySBBisrYBBistPBBbuaXBBbueLBByrVBBbuhSBBbuiCBBbuiHBBituIBBiufVBBiufVBBbuoKB",
   "ByzYBBiupVBBbuwSBBbuwVBBzbJBBiuyABBbvhABBzgABBbvhWBBbvhRBBbviUBBiwbUBBbvmPBBzjTBBbvqLBBbvsSBBb",
   "vvHBBzlSBBixbSBBixcXBBznDBBixiNBBbwhEBBixmKBBbwiFBBbwmCBBbwmNBBiycGBBiyfBBBbwqABBiykEBBbwqQBBi",
   "fjBBBzrXBBbwtEBBbwwHBBztZBBbwyOBBbijDBBizdVBBizeJBBiflBBBiflKBBbxgBBBbxgEBBcckCBBzxRBBbxlPBBbx",
   "lJBBbxmBBBbfiHBBbxmVBBbxmXBBbxnHBBbxoWBBjanCBBbxoVBBbxqZBBbxtRBBbxwNBBbxrFBBbxxDBBbxyTBBbydBBB",
   "bxtBBBbxxQBBbxxSBBbxyIBBjawSBBjbiPBBjbcVBBbafBBBbyiZBBbyjBBBbykKBBjdtIBBbynKBBjbzWBBbagZBBbahD",
   "BBjceZBBjcqCBBbahNBBbywMBBbywYBBbyxJBBbyxLBBbyzXBBbyyQBBbzdUBBbzcCBBbzhXBBbzeUBBbzhJBBbziKBBba",
   "lRBBbzlXBBbznDBBbamZBBbzqUBBbzqXBBjetBBBbzvJBBbzvQBBbapHBBbzwSBBtzFBBjfpMBBjfwOBBbauOBBbauXBBc",
   "amYBBcapXBBcavYBBcbdTBBjhcQBBcbhBBBcbhXBBcblJBBcboXBBjibNBBhoyEBBcbsDBBcbrOBBcbtOBBhpgOBBcccIB",
   "BccgEBBjkoWBBjkpXBBcctOBBccxDBBccyJBBjlcGBBccyTBBcdjSBBcdpVBBcdpWBBcdmIBBceaZBBcecBBBjmxMBBceq",
   "LBBbbwNBBcesDBBjnmDBBbbzQBBcfcLBBbjmOBBcfgDBBjoxPBBjpfUBBbceWBBbcfEBBcfnKBBjpyWBBbchMBBjqeGBBc",
   "fpBBBcfpBBBcfqFBBjqpIBBcfxIBBbcmLBBcgaBBBcgeXBBcgfYBBcgiGBBbcsKBBjsrGBBcgsWBBcheMBBchlTBBbdcGB",
   "BbddLBBchpVBBjuuOBBbddWBBjuwRBBjvgWBBjvlXBBcicXBBbdhMBBcifHBBcifMBBcifTBBcigDBBcigKBBcihVBBjwt",
   "S"])

/-! ## Hangul syllables -/

/-- The number of vowels in the block of Hangul syllables. -/
def hangulVowels : Nat := 21

/-- The number of final consonants of a syllable, one of which stands for none. -/
def hangulFinals : Nat := 28

/-- The number of syllables. -/
def hangulSyllables : Nat := 19 * hangulVowels * hangulFinals

/-- The parts of a Hangul syllable. -/
def hangulParts? (n : Nat) : Option (List Nat) :=
  let index := n - 0xAC00
  if n < 0xAC00 || hangulSyllables ≤ index then none
  else
    let final := index % hangulFinals
    some ([0x1100 + index / (hangulVowels * hangulFinals),
      0x1161 + index % (hangulVowels * hangulFinals) / hangulFinals] ++
      if final = 0 then [] else [0x11A7 + final])

/-- The syllable of a consonant and a vowel, or of such a syllable and a final consonant. -/
def hangulWhole? (first second : Nat) : Option Nat :=
  if 0x1100 ≤ first ∧ first < 0x1113 ∧ 0x1161 ≤ second ∧ second < 0x1161 + hangulVowels then
    some (0xAC00 + ((first - 0x1100) * hangulVowels + (second - 0x1161)) * hangulFinals)
  else if 0xAC00 ≤ first ∧ first < 0xAC00 + hangulSyllables ∧ (first - 0xAC00) % hangulFinals = 0 ∧
      0x11A7 < second ∧ second < 0x11A7 + hangulFinals then
    some (first + (second - 0x11A7))
  else none

/-! ## Taking apart and putting together -/

/-- The parts of a code point; the first part of a composite is taken apart so many times again. -/
def decompose : Nat → Nat → List Nat
  | 0, n => [n]
  | depth + 1, n =>
    match hangulParts? n with
    | some parts => parts
    | none =>
      match exclusions.find? (·.1 == n) with
      | some (_, parts) => parts
      | none =>
        match composites.find? (·.whole == n) with
        | some c => decompose depth c.first ++ [c.second]
        | none => [n]

/-- The code point that two others are put together to. -/
def compose? (first second : Nat) : Option Nat :=
  hangulWhole? first second <|>
  (composites.find? fun c => c.first == first && c.second == second).map (·.whole)

end Schemata.Unicode
