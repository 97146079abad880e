import Schemata.Unicode.Table

/-!
# General categories

Every code point belongs to one general category, as of version 17 of the Unicode standard. The
categories have names, and so have groups of them.

Results: `Category.mem_order` (the table can name every category).
-/
namespace Schemata.Unicode

/-- A general category. -/
inductive Category where
  | uppercaseLetter
  | lowercaseLetter
  /-- A letter of which only the first part is uppercase. -/
  | titlecaseLetter
  /-- A letter that modifies another one. -/
  | modifierLetter
  /-- A letter without case. -/
  | otherLetter
  /-- A mark without width. -/
  | nonspacingMark
  /-- A mark with a width. -/
  | spacingMark
  /-- A mark around a letter. -/
  | enclosingMark
  /-- A digit of a decimal system. -/
  | decimalNumber
  | letterNumber
  | otherNumber
  /-- A mark that joins words. -/
  | connectorPunctuation
  | dashPunctuation
  /-- An opening bracket. -/
  | openPunctuation
  /-- A closing bracket. -/
  | closePunctuation
  /-- An opening quotation mark. -/
  | initialPunctuation
  /-- A closing quotation mark. -/
  | finalPunctuation
  | otherPunctuation
  /-- A mathematical sign. -/
  | mathSymbol
  /-- A currency sign. -/
  | currencySymbol
  /-- A sign that modifies a letter. -/
  | modifierSymbol
  /-- Any other sign. -/
  | otherSymbol
  | spaceSeparator
  | lineSeparator
  | paragraphSeparator
  /-- A control code. -/
  | control
  /-- A format control. -/
  | format
  /-- A code for private use. -/
  | privateUse
  /-- A code without a character. -/
  | unassigned
  /-- A half of a surrogate pair. -/
  | surrogate
  deriving DecidableEq, Repr, Inhabited

namespace Category

/-- The categories in the order in which the table numbers them. -/
def order : List Category :=
  [.unassigned, .lowercaseLetter, .uppercaseLetter, .otherLetter, .nonspacingMark,
    .otherPunctuation, .spacingMark, .otherSymbol, .modifierLetter, .openPunctuation,
    .closePunctuation, .decimalNumber, .otherNumber, .mathSymbol, .modifierSymbol, .currencySymbol,
    .format, .dashPunctuation, .letterNumber, .initialPunctuation, .titlecaseLetter,
    .finalPunctuation, .spaceSeparator, .connectorPunctuation, .enclosingMark, .privateUse,
    .control, .lineSeparator, .paragraphSeparator, .surrogate]

theorem mem_order (c : Category) : c ∈ order := by
  cases c <;> decide

/-- The length of each run of code points of one category, and the number of the category. -/
def table : List (Nat × Nat) := pairs (numbers
  ["bGbABWDFBPDFBJBKBFBNBFBRCFKLCFDNCFbACBJBFBKBOBXBObABBJBNBKBNbHbABWBFEPBHBFBOBHBDBTBNBQBHBOBHBN",
   "CMBOBBCFBOBMBDBVDMBFXCBNHCYBBNIBBCBBBCBBBCBBBCBBBCBBBCBBBCBBBCBBBCBBBCBBBCBBBCBBBCBBBCBBBCBBBC",
   "BBBCBBBCBBBCBBBCBBBCBBBCBBBCBBBCBBBCBBBCBBBCBBBCCBBCBBBCBBBCBBBCBBBCBBBCBBBCBBBCCBBCBBBCBBBCBB",
   "BCBBBCBBBCBBBCBBBCBBBCBBBCBBBCBBBCBBBCBBBCBBBCBBBCBBBCBBBCBBBCBBBCBBBCBBBCBBBCBBCCBBBCBBBCDBCC",
   "BBBCBBCCBBDCCBECBBCCBBDCDBCCBBCCBBBCBBBCBBCCBBBCCBBCBBCCBBDCBBBCBBCCCBBDBCDBEDBCBUBBBCBUBBBCBU",
   "BBBCBBBCBBBCBBBCBBBCBBBCBBBCBBBCCBBCBBBCBBBCBBBCBBBCBBBCBBBCBBBCBBBCCBBCBUBBBCBBDCBBBCBBBCBBBC",
   "BBBCBBBCBBBCBBBCBBBCBBBCBBBCBBBCBBBCBBBCBBBCBBBCBBBCBBBCBBBCBBBCBBBCBBBCBBBCBBBCBBBCBBBCBBBCBB",
   "BCBBBCBBBCHBCCBBCCCBBCBBECBBBCBBBCBBBCBBBCcRBCDbABSIEOMIOOFIHOBIBOBIROeIEBCBBBCBBBIBOBCBBCABID",
   "BBFBCEACOBCBFDCBABCBACCBBRCBAJCbJBBCCBDCDBBCBBBCBBBCBBBCBBBCBBBCBBBCBBBCBBBCBBBCBBBCBBBCFBBCBB",
   "BNBCBBCCCBbZCbWBBCBBBCBBBCBBBCBBBCBBBCBBBCBBBCBBBCBBBCBBBCBBBCBBBCBBBCBBBCBBBCBBBCBBBHFECYBCBB",
   "BCBBBCBBBCBBBCBBBCBBBCBBBCBBBCBBBCBBBCBBBCBBBCBBBCBBBCBBBCBBBCBBBCBBBCBBBCBBBCBBBCBBBCBBBCBBBC",
   "BBBCBBBCBBCCBBBCBBBCBBBCBBBCBBBCBBBCCBBCBBBCBBBCBBBCBBBCBBBCBBBCBBBCBBBCBBBCBBBCBBBCBBBCBBBCBB",
   "BCBBBCBBBCBBBCBBBCBBBCBBBCBBBCBBBCBBBCBBBCBBBCBBBCBBBCBBBCBBBCBBBCBBBCBBBCBBBCBBBCBBBCBBBCBBBC",
   "BBBCBBBCBBBCBBBCBBBCBBBCBBBCBBBCBBBCBBBCBBBAbMCCABIGFbPBBFBRCACHBPBAbTEBRBEBFCEBFCEBFBEIAbBDEA",
   "EDCFLAGQDNCFBPCFCHLEBFBQDFbGDBIKDVEKLEFCDBEdVDBFBDHEBQBHGECICEBHEECDKLDDCHBDOFBABQBDBEbEDbBECA",
   "dLDLEBDOAKLbHDJECIBHDFBICABECPWDEEBIJEBIDEBIFECAPFBAZDDECABFBALDFAYDBOHDCQFAJEbPDBIYEBQbGEBGcC",
   "DBEBGBEBDDGIEEGBECGBDHEKDCECFKLBFBIPDBECGBAIDCACDCAWDBAHDBABDDAEDCABEBDDGEECACGCACGBEBDIABGEAC",
   "DBADDCECAKLCDCPGMBHBPBDBFBECACEBGBAGDEACDCAWDBAHDBACDBACDBACDCABEBADGCEEACECADEDABEHAEDBABDHAK",
   "LCEDDBEBFKACEBGBAJDBADDBAWDBAHDBACDBAFDCABEBDDGFEBACEBGBACGBECABDPACDCECAKLBFBPHABDGEBABECGBAI",
   "DCACDCAWDBAHDBACDBAFDCABEBDBGBEBGEECACGCACGBEHACEBGEACDBADDCECAKLBHBDGMKABEBDBAGDDADDBAEDDACDB",
   "ABDBACDDACDDADDDAMDEACGBECGDADGBADGBECABDGABGOAKLDMGHBPBHFABEDGBEIDBADDBAXDBAQDCABEBDDEEGBADEB",
   "AEEHACEBADDBACDCACDCECAKLHABFHMBHBDBECGBFIDBADDBAXDBAKDBAFDCABEBDBGBEFGBABECGBACGCEHACGFADDBAC",
   "DCECAKLBACDBGMACECGJDBADDBAbPDCEBDDGEEBADGBADGBEBDBHEADDBGHMDDCECAKLJMBHGDBABECGBASDDAYDBAJDBA",
   "BDCAHDDABEEADGDEBABEBAIGGAKLCACGBFMAbWDBECDHEEABPGDBIIEBFKLCFbLACDBABDBAFDBAYDBABDBAKDBECDJEBD",
   "CAFDBABIBAHEBAKLCAEDbGABDDHPFBHBFDHCEGHKLKMBHBEBHBEBHBEBJBKBJBKCGIDBAbKDEAOEBGFEBFCEFDLEBAbKEB",
   "AIHBEGHBACHFFEHCFbLAbRDCGEEBGGEBGCECGCEBDKLGFGDCGCEEDDEBDDGCDHGDDEENDBECGCEGGBEBDBGKLDGBECHbMC",
   "BABCFABCCAbRBBFBIDBmRDBAEDCAHDBABDBAEDCAbPDBAEDCAbHDBAEDCAHDBABDBAEDCAPDBAcFDBAEDCAcPDCADEJFUM",
   "DAQDKHGAdICCAGBCABRxWDBHBFRDBWbADBJBKDAcXDDFDSIDHASDDEBGJATDCEBGCFJASDCEMANDBADDBACEMAcADCEBGH",
   "EIGBECGLEDFBIDFBPBDBECAKLGAKMGAGFBREFDEBQBEKLGAbJDBIcBDHAFDCEbIDBEBDFAcSDKAbFDBADEEGCEDGEACGBE",
   "GGDEEABHDACFKLbEDCAFDLAbSDEAbADGAKLBMDAbIHXDCECGBECACFcBDBGBEBGHEBABEBGBECGIEGGKECABEKLGAKLGAH",
   "FBIGFCAOEBYbFECAMEUAEEBGbVDBEBGFEBGBEFGBECGIDBACFKLHFKHJEJHDFCEBGbEDBGEECGCEBGDECDKLbSDBEBGCED",
   "GBEBGDECGIAEFbKDIGIECGCEDAFFKLDADDKLbEDGICFJBBCBBFAbRCCADCIFIADEBFNEBGHEEDBEGDBECDBGCEBDFAbSBc",
   "LINBBIbIBbLIcMEBCBBBCBBBCBBBCBBBCBBBCBBBCBBBCBBBCBBBCBBBCBBBCBBBCBBBCBBBCBBBCBBBCBBBCBBBCBBBCB",
   "BBCBBBCBBBCBBBCBBBCBBBCBBBCBBBCBBBCBBBCBBBCBBBCBBBCBBBCBBBCBBBCBBBCBBBCBBBCBBBCBBBCBBBCBBBCBBB",
   "CBBBCBBBCBBBCBBBCBBBCBBBCBBBCBBBCBBBCBBBCBBBCBBBCBBBCBBBCBBBCBBBCBBBCBBBCBBBCBBBCBBBCBBBCBBBCB",
   "BBCBBBCBBBCBBBCBBBCBBBCBBBCBBBCJBBCBBBCBBBCBBBCBBBCBBBCBBBCBBBCBBBCBBBCBBBCBBBCBBBCBBBCBBBCBBB",
   "CBBBCBBBCBBBCBBBCBBBCBBBCBBBCBBBCBBBCBBBCBBBCBBBCBBBCBBBCBBBCBBBCBBBCBBBCBBBCBBBCBBBCBBBCBBBCB",
   "BBCBBBCBBBCBBBCBBBCBBBCBBBCBBBCBBBCBBBCJBICGBCAGCCAIBICIBICGBCAGCCAIBBABCBABCBABCBABCIBICOBCAI",
   "BIUIBIUIBIUFBBACBECBUBOBBDODBBACBECBUDOEBCACBECBADOIBFCDOCADBBACBECBUCOBALWFQGRCFBTBVBJCTBVBJB",
   "TIFBbBBbCFQBWJFBTBVEFCXDFBNBJBKLFBNBFBXKFBWFQBAKQBMBICAGMDNBJBKBIKMDNBJBKBANIDAbIPOANEEYBEDYME",
   "PACHBCEHBCCHBBDCCBDCBBBHBCCHBNFCGHBCBHBCBHBCBHECBHBBECBBEDBBCHCBCCFNBCEBBHBNCHBBBHQMbJSBCBBESB",
   "MCHEAFNFHCNEHBNCHBNCHBNHHBNbFHCNCHBNBHBNbFHkINIHBJBKBJBKUHCNHHBJBKdDHBNbEHZNbOHGNcUHWALHVAcIMd",
   "AHWMhBHBNJHBNcCHINeHHBNjOHBJBKBJBKBJBKBJBKBJBKBJBKBJBKbEMbSHFNBJBKbFNBJBKBJBKBJBKBJBKBJBKQNjWH",
   "fBNBJBKBJBKBJBKBJBKBJBKBJBKBJBKBJBKBJBKBJBKBJBKcLNBJBKBJBKbGNBJBKjYNbWHVNCHGNbNHCAfIHbWCbWBBCB",
   "BDCCBBCBBBCBBBCBBECBBBCCBBCGBCIDCBBBCBBBCBBBCBBBCBBBCBBBCBBBCBBBCBBBCBBBCBBBCBBBCBBBCBBBCBBBCB",
   "BBCBBBCBBBCBBBCBBBCBBBCBBBCBBBCBBBCBBBCBBBCBBBCBBBCBBBCBBBCBBBCBBBCBBBCBBBCBBBCBBBCBBBCBBBCBBB",
   "CBBBCBBBCBBBCBBBCBBBCBBBCBBBCBBBCBBBCBBBCCBGHBCBBBCBBDEBCBBFAEFBMCFbMBBABBFABBCAcEDHABIBFOABEX",
   "DJAHDBAHDBAHDBAHDBAHDBAHDBAHDBAHDBAbGECFBTBVBTBVDFBTBVBFBTBVJFBRCFBRBFBTBVCFBTBVBJBKBJBKBJBKBJ",
   "BKFFBIKFCREFBRBFBJNFCHDFBJBKBJBKBJBKBJBKBRbIAbAHBAdLHMAiGHbAAQHBWDFBHBIBDBSBJBKBJBKBJBKBJBKBJB",
   "KCHBJBKBJBKBJBKBJBKBRBJCKBHJSEECGBRFICHDSBIBDBFCHBAdIDCACECOCIBDBRdMDBFDIBDFAbRDBAdQDBACHEMKHb",
   "GDbMHJABHQDbFHBAKMbEHIMBHPMbGHKMbNHPMmIHjtODcMHbfcFDBIbrZDDAcDHJAbODGICFkIDBIDFQDKLCDUABCBBBCB",
   "BBCBBBCBBBCBBBCBBBCBBBCBBBCBBBCBBBCBBBCBBBCBBBCBBBCBBBCBBBCBBBCBBBCBBBCBBBCBBBCBBBCBBBDBEDYBFK",
   "EBFBIBCBBBCBBBCBBBCBBBCBBBCBBBCBBBCBBBCBBBCBBBCBBBCBBBCBBBCBBCICEcSDKSCEGFIAXOJICOBCBBBCBBBCBB",
   "BCBBBCBBBCBBBCDBBCBBBCBBBCBBBCBBBCBBBCBBBCBBBCBBBCBBBCBBBCBBBCBBBCBBBCBBBCBBBCBBBCBBBCBBBCBBBC",
   "BBBCBBBCBBBCBBBCBBBCBBBCBBBCBBBCBBBCBBBCBBBCBBBIIBBCBBBCBBCCBBBCBBBCBBBCBBBCBBBICOBCBBBCBBBDBC",
   "BBBCDBBCBBBCBBBCBBBCBBBCBBBCBBBCBBBCBBBCBBBCBBFCBBFCBBBCBBBCBBBCBBBCBBBCBBBCBBBCBBECBBBCBBCCBB",
   "BCBBBCBBBCBBBCBBBCBBBCBBBCBBBCUAEIBCBBBDCIBBHDBEDDBEEDBEXDCGCEBGEHBEDAGMCHBPBHGAcADEFIACGbYDQG",
   "CEIACFKLGASEGDDFBDBFCDBEKLbCDIECFXDLECGLABFbDDDADEBGbVDBECGEECGCEDGNFBABIKLEACFFDBEBIJDKLFDBAb",
   "PDGECGCECGCEJADDBEIDBEBGCAKLCAEFQDBIGDDHBDBGBEBGbYDBEBDDECDCEFDCEBDBEBDYACDBICFLDBGCECGCFBDCIB",
   "GBEKAGDCAGDCAGDJAHDBAHDBAbRBBOEIJBBICOEAdCBbJDCGBECGBECGBFBGBECAKLGAqnSDMAXDEAbXDEAdaUbDjmEZoC",
   "DCAeCDbMAHBMAFBFABDBEKDBNNDBAFDBABDBACDBACDBAeEDROQHnZDBKBJQHcMDCHcCDIHbGAMDBPDHQEHFBJBKBFGAQE",
   "BFCRCXBJBKBJBKBJBKBJBKBJBKBJBKBJBKBJBKCFBJBKEFDXDFBAEFBRBJBKBJBKBJBKDFBNBRDNBABFBPCFEAFDBAfFDC",
   "ABQBADFBPDFBJBKBFBNBFBRCFKLCFDNCFbACBJBFBKBOBXBObABBJBNBKBNBJBKBFBJBKCFKDBIbTDCIbFDDAGDCAGDCAG",
   "DCADDDACPBNBOBHCPBABHENCHKADQCHCAMDBAbADBATDBACDBAPDCAODbIAeTDFADFEAbTMDAJHcBSEMRHCMDHBANHDABH",
   "bVAbTHBEfAAbDDDAbXDPABEbBMEAbGDEMJAUDBSIDBSFAbMDFEFAbEDBABFbKDEAIDBFFSbQAbOCbOBdADCAKLGAbKCEAb",
   "KBEAbODIAcADLABFLCBAPCBAHCBACCBALBBAPBBAHBBACBDAcADMAlZDJAWDKAIDYAGIBAbQIBAJIcRAGDCABDBAbSDBAC",
   "DDABDCAXDBABFIMXDCHHMbFDIAJMbWATDBACDFAFMWDGMDABFbADFABFbADbMAcEDEACMCDQMCAbUMBDDEBACEFAEEEDBA",
   "DDBAbDDCADEEABEJMHAJFHAbDDCMBFbDDDMbGAIDBHbCDCEEAFMHFJAcCDDAHFWDCAIMTDFAIMSDHAEFMAHMdCAcVDcDAb",
   "ZCNAbZBHAGMbKDEEIAKLGAKLEDBIBDWCDAFEBRBIWBIACNiAAbFMBAbQDBACEBRCACDQADDBICDIABFIHbHAGEbDDKMBDI",
   "AWDLEEMFFWASDEEEFbMAVDHMUAXDJABGBEBGcBDPEHFEAUMKLBECDCEBDJADEBGbTDDGEECGCECFBQEFBEKABQCAZDHAKL",
   "GADEbKDFEBGIEBAKLEFBDCGBDIAbJDBECFBDJACEBGbWDDGJECGEDEFEEBFBGBEKLBDBFBDDFBAUMLASDBAZDDGDECGBEB",
   "GCEGFBECDBEcKAHDBABDBAEDBAPDBAKDBFGAbVDBEDGIEFAKLGACECGBAIDCACDCAWDBAHDBACDBAFDBACEBDCGBEEGCAC",
   "GCADGCABDGABGFAFDCGCAHEDAFELAKDBABDCABDBAbMDBABDDGGEBABGCABGBAEGBACGBEBGBEBDBEBDCFBACFIACEbDAc",
   "BDDGIECGDEBGBEEDFFKLCFBABFBEDDbEAbWDDGGEBGBEEGCEBGCECDBFBDIAKLgKAbVDDGEECAEGCEBGCEXFEDCEbIAbWD",
   "DGIECGBEBGCEDFBDLAKLGANFTAbRDBEBGBECGGEBGBEBDBFGAKLGAULbCAbBDCABEBGBECGEEBGFEEAKLCMDFBHHDhDAbS",
   "DDGJEBGCEBFdWAbGCbGBKLJMMAIDCABDCAIDBACDBAYDGGBACGCACEBGBEBDBGBDBGBEDFJAKLcSAIDCAbNDDGEECACEEG",
   "BEBDBFBDBGbBABDKEbODGEBGBDEEIFBEIABDGECGDEbUDNEBGCEDFBDFFNAcVDHAKFdIABEBGDEBGBEBGdKAbHDBFOAKLG",
   "AJDBAbLDBGHEBAGEBGBEBDFFKAKLTMDACFbEDCAWEBABGHEBGCEBGCEcVAHDBACDBAbMDGEDABEBACEBAHEBDBEIAKLGAG",
   "DBACDBAbGDFGBACEBACGBEBGBEBDHAKLGAbPDBICDEAKLjMATDCECGCFHACEBDBGNDBAbIDCGFEDACGBEBGBENFKLBEdHA",
   "BDPAVMIHEPRHNABFbjMDdYAeHSBAFFLAhODdxKAdTDCFNAbpGDQQBEGDPEKAfxRDFAwLDkdDAbEDMEDGDEKLcoSAvXDHAb",
   "FDBAKLEACFdBDBAKLGAbEDCAFEBFKAbWDHEFFEHEIBFBHKAKLBAHMBAVDFATDqQADIbODCIDFKLhQAbGCbGBXMEFFAZCCA",
   "ZBbSAcXDEABEBDcDGHAEENIcMACIBFBIBELACGCIDSJAkxYDbPAbGDdTAeLDmwRAEIBAHIBACIBAlFDPABDbDADDCABDOA",
   "EDIApGDdkUAeDDFANDDAJDHAKDCABHCEBFEQfvGAjGHKLDHDAqUHGAXHPAQHBNPAbUECAXEJAeMHcIAjMHKAbNHCAcIHCG",
   "DEDHGGIQIECHHEbEHEEcJHVAcOHDEBHeSAUMMAUMMAdJHJAZMfFAbACbABbACHBBASBbACbABBCBACCCABCCACCCAECBAI",
   "CEBBABBBAHBBALBbACbABCCBAECCAICBAHCBAbABCCBAECBAFCBABCDAHCBAbABbACbABbACbABbACbABbACbABbACbABb",
   "ACbCBCAZCBNZBBNGBZCBNZBBNGBZCBNZBBNGBZCBNZBBNGBZCBNZBBNGBBCBBCAbYLtSHcDEEHbYEIHBEOHBECHFFPAFEB",
   "APEbqMAKBBDUBGAGBiFAHEBARECAHEBACEBAFEFAcKIbHABEeIAbTDDAHEHICAKLEABDBHmIAbEDBERAbSDEEKLFABPrWA",
   "bBDBIEEKLiGAbEDCEBDKLEABFhKAbFDBADDBECDBEHDCEFDBEIABDBIiQAHDBAEDBACDBAPDBAhPDCAJMHEbPAbICbIBHE",
   "BIEAKLEACFbeFAcHMBHDMBPEMcYAbTMBHPMhMAEDBAbBDBACDBABDCABDBAKDBAEDBABDBABDGABDEABDBABDBABDBADDB",
   "ACDBABDCABDBABDBABDBABDBABDBACDBABDCAEDBAHDBAEDBAEDBABDBAKDBARDFADDBAFDBARDcAACNkKAbSHEAdWHMAP",
   "HCAPHBAPHBAbLHKANMgFHcEAbDHNAbSHEAJHHACHOAGHfYAjRHFObcBHDARHDANHDAiKHGAMHEABHPAMHEAcEHIAKHGAbO",
   "HIAbEHCAMHEACHOAJNbNAnGHIAOHCANHDALHDAcFHBABHEAQHCAMHEAKHHAfRHBAdOHKLBHbnPAclfCDbGAgmODCAioCDC",
   "AlbLDPAxYDdqWAuWDcfYAhhZDFAmoODbogoDABQbEAdSQeYAjGEdsfOAdsyOZCAdsyOZCA"])

/-- The category of a character. -/
def of (c : Char) : Category :=
  ((labelAt table c.toNat).bind (order[·]?)).getD .unassigned

/-- The categories that have a name together, with their names. -/
def groups : List (List String × List Category) :=
  [(["c", "other"], [.control, .format, .unassigned, .privateUse, .surrogate]),
    (["cc", "control", "cntrl"], [.control]),
    (["cf", "format"], [.format]),
    (["cn", "unassigned"], [.unassigned]),
    (["co", "privateuse"], [.privateUse]),
    (["l", "letter"],
      [.uppercaseLetter, .lowercaseLetter, .titlecaseLetter, .modifierLetter, .otherLetter]),
    (["lc", "casedletter"], [.uppercaseLetter, .lowercaseLetter, .titlecaseLetter]),
    (["ll", "lowercaseletter"], [.lowercaseLetter]),
    (["lm", "modifierletter"], [.modifierLetter]),
    (["lo", "otherletter"], [.otherLetter]),
    (["lt", "titlecaseletter"], [.titlecaseLetter]),
    (["lu", "uppercaseletter"], [.uppercaseLetter]),
    (["m", "mark", "combiningmark"], [.nonspacingMark, .spacingMark, .enclosingMark]),
    (["mc", "spacingmark"], [.spacingMark]),
    (["me", "enclosingmark"], [.enclosingMark]),
    (["mn", "nonspacingmark"], [.nonspacingMark]),
    (["n", "number"], [.decimalNumber, .letterNumber, .otherNumber]),
    (["nd", "decimalnumber", "digit"], [.decimalNumber]),
    (["nl", "letternumber"], [.letterNumber]),
    (["no", "othernumber"], [.otherNumber]),
    (["p", "punctuation", "punct"],
      [.connectorPunctuation, .dashPunctuation, .openPunctuation, .closePunctuation,
        .initialPunctuation, .finalPunctuation, .otherPunctuation]),
    (["pc", "connectorpunctuation"], [.connectorPunctuation]),
    (["pd", "dashpunctuation"], [.dashPunctuation]),
    (["pe", "closepunctuation"], [.closePunctuation]),
    (["pf", "finalpunctuation"], [.finalPunctuation]),
    (["pi", "initialpunctuation"], [.initialPunctuation]),
    (["po", "otherpunctuation"], [.otherPunctuation]),
    (["ps", "openpunctuation"], [.openPunctuation]),
    (["s", "symbol"], [.mathSymbol, .currencySymbol, .modifierSymbol, .otherSymbol]),
    (["sc", "currencysymbol"], [.currencySymbol]),
    (["sk", "modifiersymbol"], [.modifierSymbol]),
    (["sm", "mathsymbol"], [.mathSymbol]),
    (["so", "othersymbol"], [.otherSymbol]),
    (["z", "separator"], [.spaceSeparator, .lineSeparator, .paragraphSeparator]),
    (["zl", "lineseparator"], [.lineSeparator]),
    (["zp", "paragraphseparator"], [.paragraphSeparator]),
    (["zs", "spaceseparator"], [.spaceSeparator])]

/-- The categories of a name in lower case without separators. -/
def named? (name : String) : Option (List Category) :=
  (groups.find? (·.1.contains name)).map (·.2)

end Category
end Schemata.Unicode
